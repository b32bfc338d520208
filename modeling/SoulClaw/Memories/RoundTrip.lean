import SoulClaw.Memories.Consistency
import SoulClaw.Memories.Format

/-! The round trip through the memory file. Every entry of the file shows the row of its memory, as long as
each row that is written is plain; then reading the file changes nothing. -/

namespace SoulClaw.Memories.RoundTrip
open Foundation File Service Effects Entries Consistency Format Lines

/-! What a row shows, and what its entry gives back. -/

/-- The fields that an entry of the file carries, and the archive flag. -/
structure Visible where
  kind : String
  content : String
  source : String
  status : String
  archived : Bool
  importance : PyFloat
  confidence : PyFloat
  stability : PyFloat
  deriving DecidableEq

def visible (memory : Memory) : Visible :=
  ⟨memory.kind, memory.content, memory.source, memory.status, memory.archived, memory.importance, memory.confidence,
    memory.stability⟩

section Rows
variable [CharData] [FloatData]

/-- The first line of the entry gives back what the row shows, or it cannot be read at all. -/
def ReadsBack (memory : Memory) : Prop :=
  match parseMemoryLine (entryLine memory) with
  | some (fields, content) => visible (syncMemory ⟨0⟩ fields content "" memory) = visible memory
  | none => True

theorem syncScore_of_hundredth {fields : Fields} {key : String} {score : PyFloat} (exact : Hundredth score)
    (read : fields.lookup key = some (FloatData.fixed2 score)) (old : PyFloat) : syncScore fields key old = score := by
  obtain ⟨value, parsed, same⟩ := Option.map_eq_some_iff.1 exact.2
  rw [syncScore, read, Option.bind_some, parsed]
  exact same

/-- A plain row reads back. -/
theorem readsBack_of_plain {id : Uuid} {memory : Memory} (sound : Sound id memory) (plain : Plain memory) :
    ReadsBack memory := by
  have archived : decide (memory.status ∈ ["archived", "superseded"]) = memory.archived := by
    rw [Bool.eq_iff_iff, decide_eq_true_iff, sound.archived]
    simp
  have kind : orText (((fieldsOf memory).lookup "kind").getD "") memory.kind = memory.kind := by
    by_cases empty : memory.kind = ""
    · simp [fieldsOf, List.lookup_cons, empty, orText]
    · simp [fieldsOf, List.lookup_cons, empty, orText]
  have source : orText memory.source memory.source = memory.source := by simp [orText]
  have status : ∀ fallback, orText memory.status fallback = memory.status := by
    intro fallback
    rw [orText, if_neg sound.status]
  have content : orText memory.content memory.content = memory.content := by simp [orText]
  have scores := plain.2.2.2.2
  rw [ReadsBack, parse_of_plain plain sound.status]
  by_cases blank : strip memory.content.toList = []
  · rw [if_pos blank]
    trivial
  · rw [if_neg blank]
    have read : (fieldsOf memory).lookup "source" = some memory.source := rfl
    have stated : (fieldsOf memory).lookup "status" = some memory.status := rfl
    have importance : syncScore (fieldsOf memory) "importance" memory.importance = memory.importance :=
      syncScore_of_hundredth (scores _ (by simp)) rfl _
    have confidence : syncScore (fieldsOf memory) "confidence" memory.confidence = memory.confidence :=
      syncScore_of_hundredth (scores _ (by simp)) rfl _
    have stability : syncScore (fieldsOf memory) "stability" memory.stability = memory.stability :=
      syncScore_of_hundredth (scores _ (by simp)) rfl _
    simp only [visible, syncMemory, kind, read, stated, Option.getD_some, source, status, archived, content, importance,
      confidence, stability]

/-- No line of the entry is taken for that of another memory, and its parts are plain. -/
def Legible [UuidData] (memory : Memory) : Prop := Contained memory ∧ Plain memory

instance [UuidData] (memory : Memory) : Decidable (Legible memory) := by
  unfold Legible
  infer_instance

omit [CharData] in
theorem visible_syncMemory {first second : Memory} (same : visible first = visible second) (id other : Uuid)
    (fields : Fields) (content now later : String) :
    visible (syncMemory id fields content now first) = visible (syncMemory other fields content later second) := by
  simp only [visible, Visible.mk.injEq] at same
  obtain ⟨kind, content', source, status, archived, importance, confidence, stability⟩ := same
  simp only [visible, syncMemory, kind, content', source, status, importance, confidence, stability]

/-- Reading the entry of a row into a row that shows the same leaves it so. -/
theorem visible_sync_of_readsBack {memory row : Memory} (reads : ReadsBack memory) (same : visible row = visible memory)
    {fields : Fields} {content : String} (parsed : parseMemoryLine (entryLine memory) = some (fields, content))
    (id : Uuid) (now : String) : visible (syncMemory id fields content now row) = visible memory := by
  rw [ReadsBack, parsed] at reads
  exact (visible_syncMemory same id ⟨0⟩ fields content now "").trans reads

end Rows

section Files
variable [CharData] [FloatData] [UuidData]

/-- Every entry of the file shows the row of its memory, and reads back. -/
structure Mirrored (memories : Uuid → Option Memory) (file : String) : Prop where
  tidy : Tidy file
  shown : ∀ entry ∈ entries file, ∃ memory, memories entry.1 = some memory ∧ entry.2 = entryLine memory ∧ ReadsBack memory

variable {memories : Uuid → Option Memory} {file : String} {id : Uuid} {memory row : Memory}

/-- A file whose lines name no memory. -/
theorem mirrored_of_nothing (nothing : entries file = []) (memories : Uuid → Option Memory) : Mirrored memories file where
  tidy := tidy_of_nothing nothing
  shown := by
    rw [nothing]
    exact fun entry member => absurd member List.not_mem_nil

/-- A row that is written to the table and to the file. -/
theorem Mirrored.rewrite (mirrored : Mirrored memories file) (sound : Sound id row) (legible : Legible row) :
    Mirrored (Function.update memories id (some row)) (rewriteMemoryFileEntry file id row) where
  tidy := tidy_rewrite mirrored.tidy legible.1
  shown := by
    rw [entries_rewrite mirrored.tidy legible.1, setEntry]
    intro entry member
    obtain ⟨old, inside, rfl⟩ := List.mem_map.1 member
    by_cases here : old.1 = id
    · rw [if_pos here]
      exact ⟨row, Function.update_self .., rfl, readsBack_of_plain sound legible.2⟩
    · rw [if_neg here, Function.update_of_ne here]
      exact mirrored.shown old inside

/-- A new row that is written to the table and to the file. -/
theorem Mirrored.append (mirrored : Mirrored memories file) (absent : memories id = none) (sound : Sound id row)
    (legible : Legible row) :
    Mirrored (Function.update memories id (some row)) (appendToMemoryFile file id row) := by
  have fresh : ∀ entry ∈ entries file, entry.1 ≠ id := by
    rintro entry member rfl
    obtain ⟨memory, known, _⟩ := mirrored.shown entry member
    rw [absent] at known
    cases known
  cases new : Text.contains file (marker id) with
  | true =>
    unfold appendToMemoryFile
    rw [if_pos new]
    exact mirrored.rewrite sound legible
  | false =>
    refine ⟨tidy_append mirrored.tidy new fresh legible.1, ?_⟩
    rw [entries_append new legible.1]
    intro entry member
    rcases List.mem_append.1 member with old | last
    · rw [Function.update_of_ne (fresh entry old)]
      exact mirrored.shown entry old
    · rw [List.mem_singleton.1 last]
      exact ⟨row, Function.update_self .., rfl, readsBack_of_plain sound legible.2⟩

/-- Reading a file back that shows the rows changes nothing that they show. -/
theorem sync_visible {state : State} (mirrored : Mirrored state.db.memories state.file) (now : Nat → String) (id : Uuid) :
    ((syncFromMemoryFile state now).2.db.memories id).map visible = (state.db.memories id).map visible := by
  have kept : ∀ id, ((syncFromMemoryFile state now).2.db.memories id).map visible =
      (state.db.memories id).map visible := by
    apply @sync_keeps _ _ _ now (fun db => ∀ id, (db.memories id).map visible = (state.db.memories id).map visible) state
      fun _ => rfl
    intro db entry memory fields content time member same known parsed other
    obtain ⟨row, stored, line, reads⟩ := mirrored.shown entry member
    by_cases here : other = entry.1
    · have shows : visible memory = visible row := by
        have before := same entry.1
        rw [known, stored] at before
        exact Option.some.inj before
      rw [line] at parsed
      rw [here, put_memories_self, stored, Option.map_some, Option.map_some,
        visible_sync_of_readsBack reads shows parsed]
    · rw [put_memories_ne _ _ _ here]
      exact same other
  exact kept id

/-! The operations. -/

variable [FloatSum]

/-- Each row that the operation writes is legible, and a create names no memory that is still in use, because
it would leave that one's entry as it is. Reading the file in between and edits of it are left out. -/
def WritesLegible (state : State) (action : Action) : Prop :=
  Writes Legible state action ∧
    match action with
    | .create _ _ request => ∀ old ∈ request.supersedesId, Superseded state.db old
    | .sync _ | .editFile _ | .applyProposal .. => False
    | _ => True

variable {state next : State} (mirrored : Mirrored state.db.memories state.file)
include mirrored

omit [FloatSum] in
theorem create_mirrored {drawn : Uuid} {now : String} {request : CreateRequest} (sound : SoundDb state.db)
    (superseded : ∀ old ∈ request.supersedesId, Superseded state.db old) (legible : Legible (newMemory drawn now request))
    (returned : create state drawn now request = .ok next) : Mirrored next.db.memories next.file := by
  obtain ⟨absent, rows, text⟩ := create_ok returned
  rw [rows, text, created_memories fun old named memory known =>
    retired_of_superseded sound (superseded old named) known]
  exact mirrored.append absent (newMemory_sound ..) legible

omit [FloatSum] in
theorem supersede_mirrored {drawn id : Uuid} {now : String} {replacement : Replacement} (sound : SoundDb state.db)
    (legible : ∀ previous, state.db.memories id = some previous → Legible (replacedRow previous drawn) ∧
      Legible (newMemory drawn now (replacing id previous replacement)))
    (returned : supersede state drawn now id replacement = .ok next) : Mirrored next.db.memories next.file := by
  obtain ⟨previous, known, different, absent, rows, text⟩ := supersede_ok returned
  obtain ⟨old, new⟩ := legible previous known
  have former := (sound.rows id previous known).replaced drawn
  have latter := newMemory_sound drawn now (replacing id previous replacement)
  have written := ((mirrored.append absent latter new).rewrite former old).rewrite latter new
  rw [rows, text, replaced_memories different]
  rw [Function.update_comm different.symm, Function.update_idem] at written
  exact written

omit [FloatSum] in
theorem change_mirrored {id : Uuid} {action actor : String} {before : Option Snapshot} {row : Memory}
    (sound : Sound id row) (legible : Legible row) : Mirrored (change state id action actor before row).db.memories
      (change state id action actor before row).file :=
  mirrored.rewrite sound legible

theorem perform_mirrored {action : Action} (sound : SoundDb state.db) (legible : WritesLegible state action)
    (returned : perform state action = .ok next) : Mirrored next.db.memories next.file := by
  cases action with
  | create drawn now request => exact create_mirrored mirrored sound legible.2 legible.1 returned
  | supersede drawn now id replacement => exact supersede_mirrored mirrored sound legible.1 returned
  | archive id =>
    obtain ⟨memory, known, rfl⟩ := archive_ok returned
    exact change_mirrored mirrored ((sound.rows id memory known).retire (.inl rfl)) (legible.1 memory known)
  | markVerified id delta =>
    obtain ⟨memory, known, rfl⟩ := markVerified_ok returned
    exact change_mirrored mirrored ((sound.rows id memory known).verify delta) (legible.1 memory known)
  | restore historyId actor =>
    obtain ⟨record, designated, id, restored, recorded, chosen, named, applied, rfl⟩ := restore_ok returned
    have written := legible.1 record designated id restored recorded chosen named applied
    obtain ⟨memory, shown, _, known, row, rfl, found⟩ :=
      restorable_of_recorded (sound.records record (List.mem_of_getElem? recorded)) chosen named
    rw [found] at applied ⊢
    exact change_mirrored mirrored (applySnapshot_sound row applied) written
  | _ => exact legible.2.elim

theorem step_mirrored {action : Action} (sound : SoundDb state.db) (faithful : Effective WritesLegible state action)
    (taken : step state action = some next) : Mirrored next.db.memories next.file := by
  rw [step] at taken
  split at taken
  next reached returned =>
    cases taken
    cases action with
    | applyProposal drawn now actor proposal =>
      obtain ⟨⟨applied, last⟩, ran, rfl⟩ := map_eq_ok.1 returned
      rcases applyProposal_ok ran with ⟨_, wish, _, ran⟩ | ⟨_, _, wish, ran⟩ | ⟨_, wish, ran⟩ | ⟨_, _, wish, ran⟩
      all_goals exact perform_mirrored mirrored sound (faithful _ wish) ran
    | _ => exact perform_mirrored mirrored sound (by exact faithful) returned
  next =>
    cases taken
    exact mirrored

omit mirrored

/-- From an empty table and a file that names no memory, every sequence of operations that write legible rows
leaves a file whose reading back changes no memory. -/
theorem sync_unchanged (file : String) (nothing : entries file = []) (actions : List Action) (last : State)
    (faithful : Runs.Along step (Effective WritesLegible) ⟨Database.empty, file⟩ actions)
    (ran : Runs.run step ⟨Database.empty, file⟩ actions = some last) (now : Nat → String) (id : Uuid) :
    ((syncFromMemoryFile last now).2.db.memories id).map visible = (last.db.memories id).map visible := by
  have both : Mirrored last.db.memories last.file ∧ SoundDb last.db := Runs.run_invariant_along
    (fun state => Mirrored state.db.memories state.file ∧ SoundDb state.db)
    (fun _ _ _ holds guard taken => ⟨step_mirrored holds.1 holds.2 guard taken, step_sound holds.2 taken⟩)
    ⟨mirrored_of_nothing nothing _, SoundDb.empty⟩ faithful ran
  exact sync_visible both.1 now id

end Files

section Demo
attribute [local instance] CharData.ascii FloatData.decimal UuidData.plain FloatSum.exact

private def mirroredId : Uuid := ⟨1⟩

private def createText (content : String) : Action := .create mirroredId "" { kind := "agent_note", content }

private def mirroredState (content : String) : Option State :=
  Runs.run step ⟨Database.empty, "# MEMORY\n"⟩ [createText content, .archive mirroredId]

theorem sync_unchanged_archived : ∃ last, mirroredState "tea" = some last ∧
    ((syncFromMemoryFile last fun _ => "").2.db.memories mirroredId).map visible =
      (last.db.memories mirroredId).map visible := by
  obtain ⟨last, ran⟩ : ∃ last, mirroredState "tea" = some last := ⟨_, rfl⟩
  have faithful : Runs.Along step (Effective WritesLegible) ⟨Database.empty, "# MEMORY\n"⟩
      [createText "tea", .archive mirroredId] := by
    refine ⟨⟨?_, fun old named => ?_⟩, fun next taken => ⟨⟨fun memory known => ?_, trivial⟩, fun _ _ => trivial⟩⟩
    · show Legible (newMemory mirroredId "" { kind := "agent_note", content := "tea" })
      decide +kernel
    · cases named
    · have legible : ((step ⟨Database.empty, "# MEMORY\n"⟩ (createText "tea")).bind fun next =>
          next.db.memories mirroredId).all (fun memory => Legible (retired memory "archived")) = true := by
        decide +kernel
      rw [taken, Option.bind_some, known] at legible
      exact of_decide_eq_true legible
  exact ⟨last, ran, sync_unchanged "# MEMORY\n" (by decide +kernel) _ last faithful ran _ mirroredId⟩

private def twoLines : Memory := newMemory mirroredId "" { kind := "agent_note", content := "tea\nmilk" }

/-- The file has one entry, of which the first line is read. -/
private theorem entries_twoLines : entries (rewriteMemoryFileEntry (appendToMemoryFile "# MEMORY\n" mirroredId twoLines)
    mirroredId (retired twoLines "archived")) = [(mirroredId, entryLine (retired twoLines "archived"))] := by
  have free : Text.contains "# MEMORY\n" (marker mirroredId) = false := by decide +kernel
  have nothing : entries "# MEMORY\n" = [] := by decide +kernel
  have contained : Contained twoLines := by
    rw [Contained, entries, toList_memoryFileLine]
    decide +kernel
  have contained' : Contained (retired twoLines "archived") := by
    rw [Contained, entries, toList_memoryFileLine]
    decide +kernel
  have tidy : Tidy (appendToMemoryFile "# MEMORY\n" mirroredId twoLines) :=
    tidy_append (tidy_of_nothing nothing) free (by simp [nothing]) contained
  rw [entries_rewrite tidy contained', entries_append free contained, nothing]
  exact congrArg (fun line => [line]) (if_pos rfl)

/-- Of a content with two lines, reading the file back leaves the first. -/
theorem second_line_lost : ∃ last memory synced, mirroredState "tea\nmilk" = some last ∧
    last.db.memories mirroredId = some memory ∧ memory.content = "tea\nmilk" ∧
    (syncFromMemoryFile last fun _ => "").2.db.memories mirroredId = some synced ∧ synced.content = "tea" := by
  obtain ⟨last, ran, found, file⟩ : ∃ last, mirroredState "tea\nmilk" = some last ∧
      last.db.memories mirroredId = some (retired twoLines "archived") ∧
      last.file = rewriteMemoryFileEntry (appendToMemoryFile "# MEMORY\n" mirroredId twoLines) mirroredId
        (retired twoLines "archived") := ⟨_, rfl, rfl, rfl⟩
  have read : (parseMemoryLine (entryLine (retired twoLines "archived"))).map Prod.snd = some "tea" := by
    rw [entryLine, toList_memoryFileLine]
    decide +kernel
  obtain ⟨groups, parsed, shown⟩ := Option.map_eq_some_iff.1 read
  refine ⟨last, _, syncMemory mirroredId groups.1 groups.2 "" (retired twoLines "archived"), ran, found, rfl, ?_, ?_⟩
  · rw [sync_eq_foldl, file, entries_twoLines, List.foldl_cons, List.foldl_nil, syncEntry]
    simp only [found, parsed, Database.put, Function.update_self]
  · show orText groups.2 _ = "tea"
    rw [shown]
    rfl

end Demo

end SoulClaw.Memories.RoundTrip
