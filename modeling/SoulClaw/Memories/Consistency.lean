import SoulClaw.Memories.Entries

/-! What holds of every memory, whatever operations the service has performed and whatever its file says:
the archive flag goes with the status, and the scores lie between 0 and 1. The snapshots in the history
have to show the same, because `restore` puts them back. -/

namespace SoulClaw.Memories.Consistency
open Foundation File Service Effects Entries

section Scores

def Bounded (score : PyFloat) : Prop := ∃ value : Rat, score = .finite value ∧ 0 ≤ value ∧ value ≤ 1

theorem bounded_clamp (score : PyFloat) : Bounded (clamp score) := by
  cases score with
  | finite value =>
    by_cases small : value < 1
    · by_cases positive : 0 < value
      · refine ⟨value, ?_, positive.le, small.le⟩
        simp [clamp, PyFloat.min, PyFloat.max, PyFloat.lt, small, positive]
      · refine ⟨0, ?_, le_refl _, by decide⟩
        simp [clamp, PyFloat.min, PyFloat.max, PyFloat.lt, small, positive]
    · refine ⟨1, ?_, by decide, le_refl _⟩
      simp [clamp, PyFloat.min, PyFloat.max, PyFloat.lt, small]
  | infinite negative =>
    cases negative with
    | false => exact ⟨1, by decide, by decide, le_refl _⟩
    | true => exact ⟨0, by decide, le_refl _, by decide⟩
  | nan => exact ⟨1, by decide, by decide, le_refl _⟩

theorem clamp_of_bounded {score : PyFloat} (bounded : Bounded score) : clamp score = score := by
  obtain ⟨value, rfl, above, below⟩ := bounded
  rcases below.lt_or_eq with small | rfl
  · rcases above.lt_or_eq with positive | rfl
    · simp [clamp, PyFloat.min, PyFloat.max, PyFloat.lt, small, positive]
    · decide
  · decide

end Scores

/-- The archive flag and the status agree, and the scores are in their range. -/
structure Consistent (memory : Memory) : Prop where
  archived : memory.archived = true ↔ memory.status = "archived" ∨ memory.status = "superseded"
  importance : Bounded memory.importance
  confidence : Bounded memory.confidence
  stability : Bounded memory.stability

/-- A row as the service writes it under an identifier. -/
structure Sound (id : Uuid) (memory : Memory) : Prop extends Consistent memory where
  status : memory.status ≠ ""
  marked : memory.sourceFileMarker = marker id

/-- The row of the record's memory exists, and the snapshot that `restore` would put back shows a sound
row of it. -/
structure Recorded (db : Database) (record : MemoryHistory) : Prop where
  known : (db.memories record.memoryId).isSome = true
  shown : ∃ memory, Sound record.memoryId memory ∧ record.designated = some (snapshot record.memoryId memory)

structure SoundDb (db : Database) : Prop where
  rows : ∀ id memory, db.memories id = some memory → Sound id memory
  records : ∀ record ∈ db.history.rows, Recorded db record

namespace SoundDb
variable {db : Database} {id : Uuid} {memory : Memory}

theorem empty : SoundDb Database.empty where
  rows _ _ found := by cases found
  records _ member := by cases member

theorem put (sound : SoundDb db) (row : Sound id memory) : SoundDb (db.put id memory) where
  rows other found known := by
    rcases put_cases known with ⟨rfl, rfl⟩ | ⟨_, known⟩
    · exact row
    · exact sound.rows other found known
  records record member := by
    obtain ⟨known, shown⟩ := sound.records record member
    refine ⟨?_, shown⟩
    by_cases here : record.memoryId = id
    · rw [here, put_memories_self]
      rfl
    · rw [put_memories_ne _ _ _ here]
      exact known

theorem record {action actor : String} {before after : Option Snapshot} {shown : Memory} (sound : SoundDb db)
    (known : (db.memories id).isSome = true) (row : Sound id shown)
    (designated : (MemoryHistory.mk id action before after (orText actor "system")).designated =
      some (snapshot id shown)) : SoundDb (db.recordHistory id action before after actor) where
  rows := sound.rows
  records record member := by
    rw [rows_recordHistory] at member
    rcases List.mem_append.1 member with old | new
    · exact ⟨(sound.records record old).known, (sound.records record old).shown⟩
    · obtain rfl := List.mem_singleton.1 new
      exact ⟨known, shown, row, designated⟩

end SoundDb

/-! The rows that the operations write. -/

section Rows
variable {id : Uuid} {memory : Memory}

theorem Sound.retire {status : String} (sound : Sound id memory)
    (retires : status = "archived" ∨ status = "superseded") : Sound id (retired memory status) where
  archived := iff_of_true rfl retires
  importance := sound.importance
  confidence := sound.confidence
  stability := sound.stability
  status := by rcases retires with rfl | rfl <;> simp [retired]
  marked := sound.marked

theorem Sound.replaced (sound : Sound id memory) (drawn : Uuid) : Sound id (replacedRow memory drawn) :=
  let row := sound.retire (.inr rfl)
  { archived := row.archived, importance := row.importance, confidence := row.confidence
    stability := row.stability, status := row.status, marked := row.marked }

theorem newMemory_sound [CharData] (id : Uuid) (now : String) (request : CreateRequest) :
    Sound id (newMemory id now request) where
  archived := by simp [newMemory]
  importance := bounded_clamp _
  confidence := bounded_clamp _
  stability := bounded_clamp _
  status := by simp [newMemory]
  marked := rfl

theorem Sound.verify [FloatSum] (sound : Sound id memory) (delta : PyFloat) : Sound id (verified memory delta) where
  archived := sound.archived
  importance := sound.importance
  confidence := bounded_clamp _
  stability := bounded_clamp _
  status := sound.status
  marked := sound.marked

theorem orText_ne_empty {first second : String} (fallback : second ≠ "") : orText first second ≠ "" := by
  rw [orText]
  split
  next => exact fallback
  next given => exact given

theorem syncScore_bounded [FloatData] {fields : Fields} {key : String} {score : PyFloat} (bounded : Bounded score) :
    Bounded (syncScore fields key score) := by
  rw [syncScore]
  split
  next => exact bounded_clamp _
  next => exact bounded

/-- Whatever an entry says, the row that takes its fields is sound. -/
theorem Sound.sync [FloatData] {fields : Fields} {content now : String} (sound : Sound id memory) :
    Sound id (syncMemory id fields content now memory) where
  archived := by simp [syncMemory]
  importance := syncScore_bounded sound.importance
  confidence := syncScore_bounded sound.confidence
  stability := syncScore_bounded sound.stability
  status := orText_ne_empty (orText_ne_empty (by decide))
  marked := rfl

/-- The row that a restore writes, from a snapshot of a sound row. -/
theorem applySnapshot_snapshot {other : Uuid} {shown : Memory} (sound : Sound other shown) :
    applySnapshot id memory (snapshot other shown) = .ok { memory with
      kind := orText shown.kind (orText memory.kind "agent_note")
      content := orText shown.content memory.content
      source := orText shown.source (orText memory.source "restore")
      status := shown.status, pinned := shown.pinned, archived := shown.archived
      importance := shown.importance, confidence := shown.confidence, stability := shown.stability
      sourceFileMarker := orText shown.sourceFileMarker (marker id)
      provenance := shown.provenance, metadata := shown.metadata } := by
  have status : orText shown.status "active" = shown.status := by rw [orText, if_neg sound.status]
  simp only [applySnapshot, snapshot, snapshotScore, clamp_of_bounded sound.importance,
    clamp_of_bounded sound.confidence, clamp_of_bounded sound.stability, Option.getD_some, status]
  rfl

theorem marker_ne_empty (id : Uuid) : marker id ≠ "" := by
  unfold marker
  intro empty
  have head := (String.append_eq_empty_iff.1 (String.append_eq_empty_iff.1 empty).1).1
  exact absurd head (by decide +kernel)

theorem orText_marker (id : Uuid) (other : String) : orText (marker id) other = marker id := by
  rw [orText, if_neg (marker_ne_empty id)]

theorem applySnapshot_sound {shown restored : Memory} (sound : Sound id shown)
    (applied : applySnapshot id memory (snapshot id shown) = .ok restored) : Sound id restored := by
  rw [applySnapshot_snapshot sound, sound.marked, orText_marker] at applied
  cases applied
  exact { archived := sound.archived, importance := sound.importance, confidence := sound.confidence
          stability := sound.stability, status := sound.status, marked := rfl }

end Rows

/-! Every operation keeps the invariant. -/

section Steps
variable [CharData]

theorem created_sound {db : Database} {id : Uuid} {now : String} {request : CreateRequest} (sound : SoundDb db) :
    SoundDb (created db id now request) := by
  have closed : ∀ source old, SoundDb (closePrevious db source old) := by
    intro source old
    cases known : db.memories old with
    | none =>
      rw [closePrevious_of_none known]
      exact sound
    | some previous =>
      have row := sound.rows old previous known
      rw [closePrevious_of_some known]
      exact (sound.record (by rw [known]; rfl) row rfl).put (row.retire (.inr rfl))
  have new := newMemory_sound id now request
  rw [created]
  refine SoundDb.record (SoundDb.put ?_ new) ?_ new rfl
  · cases request.supersedesId with
    | none => exact sound
    | some old => exact closed request.source old
  · rw [put_memories_self]
    rfl

variable [FloatData] {state next : State}

theorem create_sound {id : Uuid} {now : String} {request : CreateRequest} (sound : SoundDb state.db)
    (returned : create state id now request = .ok next) : SoundDb next.db := by
  rw [(create_ok returned).2.1]
  exact created_sound sound

theorem change_sound {id : Uuid} {action actor : String} {before memory : Memory} (sound : SoundDb state.db)
    (old : Sound id before) (new : Sound id memory) :
    SoundDb (change state id action actor (some (snapshot id before)) memory).db :=
  (sound.put new).record (by rw [put_memories_self]; rfl) old rfl

theorem supersede_sound {drawn id : Uuid} {now : String} {replacement : Replacement} (sound : SoundDb state.db)
    (returned : supersede state drawn now id replacement = .ok next) : SoundDb next.db := by
  obtain ⟨previous, known, _, _, rows, _⟩ := supersede_ok returned
  have row := sound.rows id previous known
  have between : SoundDb (created (state.db.put id (retired previous "superseded")) drawn now
      (replacing id previous replacement)) := created_sound (sound.put (row.retire (.inr rfl)))
  rw [rows, replaced]
  exact (between.put (row.replaced drawn)).record (by rw [put_memories_self]; rfl) row rfl

theorem archive_sound {id : Uuid} (sound : SoundDb state.db) (returned : archive state id = .ok next) :
    SoundDb next.db := by
  obtain ⟨memory, known, rfl⟩ := archive_ok returned
  have row := sound.rows id memory known
  exact change_sound sound row (row.retire (.inl rfl))

theorem markVerified_sound [FloatSum] {id : Uuid} {delta : PyFloat} (sound : SoundDb state.db)
    (returned : markVerified state id delta = .ok next) : SoundDb next.db := by
  obtain ⟨memory, known, rfl⟩ := markVerified_ok returned
  have row := sound.rows id memory known
  exact change_sound sound row (row.verify delta)

variable [UuidData]

theorem sync_sound {now : Nat → String} (sound : SoundDb state.db) :
    SoundDb (syncFromMemoryFile state now).2.db := by
  apply sync_keeps now sound
  intro db entry memory fields content time _ kept known _
  exact kept.put (kept.rows entry.1 memory known).sync

omit [CharData] [FloatData] in
/-- A record of a sound history names its memory, and the memory exists. -/
theorem restorable_of_recorded {db : Database} {record : MemoryHistory} {designated : Snapshot} {id : Uuid}
    (recorded : Recorded db record) (chosen : record.designated = some designated)
    (named : Uuid.ofText designated.id = some id) :
    ∃ memory shown, id = record.memoryId ∧ db.memories id = some memory ∧ Sound id shown ∧
      designated = snapshot id shown ∧ restorable db id designated = (memory, snapshot id memory) := by
  obtain ⟨shown, row, same⟩ := recorded.shown
  obtain rfl := Option.some.inj (chosen.symm.trans same)
  obtain rfl := Option.some.inj (named.symm.trans (Uuid.ofText_str record.memoryId))
  obtain ⟨memory, known⟩ := Option.isSome_iff_exists.1 recorded.known
  refine ⟨memory, shown, rfl, known, row, rfl, ?_⟩
  rw [restorable, known]

theorem restore_sound {historyId : Nat} {actor : String} (sound : SoundDb state.db)
    (returned : restore state historyId actor = .ok next) : SoundDb next.db := by
  obtain ⟨record, designated, id, restored, recorded, chosen, named, applied, rfl⟩ := restore_ok returned
  obtain ⟨memory, shown, _, known, row, rfl, found⟩ :=
    restorable_of_recorded (sound.records record (List.mem_of_getElem? recorded)) chosen named
  rw [found] at applied ⊢
  exact change_sound sound (sound.rows id memory known) (applySnapshot_sound row applied)

variable [FloatSum]

theorem perform_sound {action : Action} (sound : SoundDb state.db) (returned : perform state action = .ok next) :
    SoundDb next.db := by
  cases action with
  | create drawn now request => exact create_sound sound returned
  | supersede drawn now id replacement => exact supersede_sound sound returned
  | archive id => exact archive_sound sound returned
  | markVerified id delta => exact markVerified_sound sound returned
  | sync now =>
    cases returned
    exact sync_sound sound
  | restore historyId actor => exact restore_sound sound returned
  | applyProposal drawn now actor proposal =>
    obtain ⟨⟨applied, reached⟩, ran, rfl⟩ := map_eq_ok.1 returned
    rcases applyProposal_ok ran with ⟨_, _, _, ran⟩ | ⟨_, _, _, ran⟩ | ⟨_, _, ran⟩ | ⟨_, _, _, ran⟩
    · exact create_sound sound ran
    · exact supersede_sound sound ran
    · exact archive_sound sound ran
    · exact markVerified_sound sound ran
  | editFile text =>
    cases returned
    exact sound

theorem step_sound {action : Action} (sound : SoundDb state.db) (taken : step state action = some next) :
    SoundDb next.db := by
  rw [step] at taken
  split at taken
  next reached returned =>
    cases taken
    exact perform_sound sound returned
  next =>
    cases taken
    exact sound

theorem run_sound {actions : List Action} (sound : SoundDb state.db)
    (ran : Runs.run step state actions = some next) : SoundDb next.db :=
  Runs.run_invariant (fun state => SoundDb state.db) (fun _ _ _ kept taken => step_sound kept taken) sound ran

/-- From an empty table and any file, every sequence of operations keeps the archive flag with the status
and the scores between 0 and 1. -/
theorem consistent_of_run (file : String) (actions : List Action) (last : State)
    (ran : Runs.run step ⟨Database.empty, file⟩ actions = some last) (id : Uuid) (memory : Memory)
    (found : last.db.memories id = some memory) : Consistent memory :=
  ((run_sound SoundDb.empty ran).rows id memory found).toConsistent

end Steps

/-! Memories that are superseded already: retiring them once more changes nothing. -/

section Superseded

/-- The memory, if it exists, is marked as superseded already. -/
def Superseded (db : Database) (id : Uuid) : Prop :=
  ∀ memory, db.memories id = some memory → memory.status = "superseded"

/-- Retiring a memory that is superseded already changes nothing. -/
theorem retired_of_superseded {db : Database} {id : Uuid} {memory : Memory} (sound : SoundDb db)
    (superseded : Superseded db id) (known : db.memories id = some memory) : retired memory "superseded" = memory := by
  have status := superseded memory known
  have archived := (sound.rows id memory known).archived.2 (.inr status)
  rw [retired, ← status, ← archived]

theorem put_of_known {db : Database} {id : Uuid} {memory : Memory} (known : db.memories id = some memory) :
    (db.put id memory).memories = db.memories := by
  rw [memories_put, ← known, Function.update_eq_self]

/-- A create that names only such memories adds its row. -/
theorem created_memories [CharData] {db : Database} {drawn : Uuid} {now : String} {request : CreateRequest}
    (settled : ∀ old ∈ request.supersedesId, ∀ memory, db.memories old = some memory →
      retired memory "superseded" = memory) :
    (created db drawn now request).memories =
      Function.update db.memories drawn (some (newMemory drawn now request)) := by
  by_cases alone : ∀ old ∈ request.supersedesId, db.memories old = none
  · rw [created_alone alone]
    rfl
  · push Not at alone
    obtain ⟨old, named, exists'⟩ := alone
    obtain ⟨previous, known⟩ := Option.ne_none_iff_exists'.1 exists'
    rw [created_superseding named known, settled old named previous known, memories_recordHistory, memories_put]
    exact congrArg (Function.update · drawn _) (put_of_known known)

end Superseded

section Demo
attribute [local instance] CharData.ascii FloatData.decimal UuidData.plain FloatSum.exact

private def firstId : Uuid := ⟨1⟩

private def archivedFirst : List Action :=
  [.create firstId "" { kind := "agent_note", content := "tea", importance := .nan }, .archive firstId, .sync fun _ => ""]

theorem consistent_of_archived : ∃ last memory, Runs.run step ⟨Database.empty, ""⟩ archivedFirst = some last ∧
    last.db.memories firstId = some memory ∧ Consistent memory := by
  obtain ⟨state, archived, stored⟩ : ∃ state, Runs.run step ⟨Database.empty, ""⟩ (archivedFirst.take 2) = some state ∧
      (state.db.memories firstId).isSome = true := ⟨_, rfl, rfl⟩
  let holds : Database → Prop := fun db => (db.memories firstId).isSome = true
  have kept : holds (syncFromMemoryFile state fun _ => "").2.db := by
    have start : holds state.db := stored
    apply sync_keeps _ start
    intro db entry memory fields content time _ held _ _
    show (Function.update db.memories entry.1 (some (syncMemory entry.1 fields content time memory)) firstId).isSome = true
    rw [Function.update_apply]
    split_ifs
    · rfl
    · exact held
  obtain ⟨memory, found⟩ := Option.isSome_iff_exists.1 kept
  have ran : Runs.run step ⟨Database.empty, ""⟩ archivedFirst = some (syncFromMemoryFile state fun _ => "").2 := by
    rw [← List.take_append_drop 2 archivedFirst, Runs.run_append, archived]
    rfl
  exact ⟨_, memory, ran, found, consistent_of_run "" archivedFirst _ ran firstId memory found⟩

end Demo

end SoulClaw.Memories.Consistency
