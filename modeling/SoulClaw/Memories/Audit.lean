import SoulClaw.Memories.Consistency

/-! The history as an audit trail. The records of a memory tell its snapshots one after the other, as long
as every operation that changes the memory records the snapshots from before and after its change. -/

namespace SoulClaw.Memories.Audit
open Foundation File Service Effects Entries Consistency

section Trails

/-- The records of a memory, in the order in which they were written. -/
def recordsOf (db : Database) (id : Uuid) : List MemoryHistory :=
  db.history.rows.filter fun record => record.memoryId = id

/-- The latest snapshot that some records establish. -/
def established (records : List MemoryHistory) : Option Snapshot :=
  records.foldl (fun known record => record.after.or known) none

/-- Each record starts from the snapshot that the records before it establish. -/
def Continuous (records : List MemoryHistory) : Prop :=
  ∀ earlier record later, records = earlier ++ record :: later → record.before = established earlier

/-- The records of a memory establish its snapshot step by step. -/
structure Audited (db : Database) (id : Uuid) (memory : Memory) : Prop where
  last : established (recordsOf db id) = some (snapshot id memory)
  continuous : Continuous (recordsOf db id)

theorem established_append (records : List MemoryHistory) (record : MemoryHistory) :
    established (records ++ [record]) = record.after.or (established records) := by
  simp [established]

theorem continuous_append {records : List MemoryHistory} {record : MemoryHistory} (continuous : Continuous records)
    (before : record.before = established records) : Continuous (records ++ [record]) := by
  intro earlier found later split
  rcases List.eq_nil_or_concat later with rfl | ⟨rest, last, rfl⟩
  · obtain ⟨rfl, same⟩ := List.append_inj' split rfl
    obtain rfl := List.singleton_inj.1 same
    exact before
  · have parts : records ++ [record] = (earlier ++ found :: rest) ++ [last] := by simpa using split
    exact continuous earlier found rest (List.append_inj' parts rfl).1

/-- What the records of an identifier establish is what its row shows, if there is one. -/
structure Trail (db : Database) (id : Uuid) : Prop where
  current : established (recordsOf db id) = (db.memories id).map (snapshot id)
  continuous : Continuous (recordsOf db id)

theorem recordsOf_recordHistory (db : Database) (id : Uuid) (action actor : String) (before after : Option Snapshot)
    (other : Uuid) : recordsOf (db.recordHistory id action before after actor) other =
      if other = id then recordsOf db other ++ [⟨id, action, before, after, orText actor "system"⟩]
      else recordsOf db other := by
  rw [recordsOf, rows_recordHistory, List.filter_append, recordsOf]
  by_cases here : other = id
  · rw [if_pos here, here]
    simp
  · rw [if_neg here]
    simp [Ne.symm here]

end Trails

section Writes
variable {db : Database} {id : Uuid} {memory row : Memory} {action actor : String}

theorem empty_trail (id : Uuid) : Trail Database.empty id where
  current := rfl
  continuous earlier record later split := by
    rw [recordsOf, Database.empty, Table.empty, List.filter_nil] at split
    simp at split

/-- Only the rows and the records matter. -/
theorem trail_congr {other : Database} (trails : ∀ id, Trail db id) (rows : other.memories = db.memories)
    (records : other.history = db.history) (id : Uuid) : Trail other id := by
  have same : recordsOf other id = recordsOf db id := by rw [recordsOf, records, recordsOf]
  exact ⟨by rw [same, rows]; exact (trails id).current, same ▸ (trails id).continuous⟩

/-- A write of a row, with a record that starts from what the row showed and ends with what it shows. -/
theorem trail_write {before : Option Snapshot} (trails : ∀ id, Trail db id)
    (shown : (db.memories id).map (snapshot id) = before) (other : Uuid) :
    Trail ((db.put id row).recordHistory id action before (some (snapshot id row)) actor) other := by
  have records := recordsOf_recordHistory (db.put id row) id action actor before (some (snapshot id row)) other
  by_cases here : other = id
  · subst here
    rw [if_pos rfl] at records
    refine ⟨?_, ?_⟩
    · rw [records, established_append, memories_recordHistory, put_memories_self]
      rfl
    · rw [records]
      exact continuous_append (trails other).continuous (shown.symm.trans (trails other).current.symm)
  · rw [if_neg here] at records
    refine ⟨?_, ?_⟩
    · rw [records, memories_recordHistory, put_memories_ne _ _ _ here]
      exact (trails other).current
    · rw [records]
      exact (trails other).continuous

/-- A record that only says what the row shows. -/
theorem trail_note {before : Option Snapshot} (trails : ∀ id, Trail db id)
    (shown : (db.memories id).map (snapshot id) = before) (other : Uuid) :
    Trail (db.recordHistory id action before none actor) other := by
  have records := recordsOf_recordHistory db id action actor before none other
  by_cases here : other = id
  · subst here
    rw [if_pos rfl] at records
    refine ⟨?_, ?_⟩
    · rw [records, established_append]
      exact (trails other).current
    · rw [records]
      exact continuous_append (trails other).continuous (shown.symm.trans (trails other).current.symm)
  · rw [if_neg here] at records
    exact ⟨by rw [records]; exact (trails other).current, by rw [records]; exact (trails other).continuous⟩

end Writes

/-! The operations. -/

section Steps
variable [CharData]

/-- A create that retires no row records what it does. -/
theorem created_trail {db : Database} {drawn : Uuid} {now : String} {request : CreateRequest}
    (trails : ∀ id, Trail db id) (absent : db.memories drawn = none)
    (settled : ∀ old ∈ request.supersedesId, ∀ memory, db.memories old = some memory →
      retired memory "superseded" = memory) (id : Uuid) : Trail (created db drawn now request) id := by
  by_cases alone : ∀ old ∈ request.supersedesId, db.memories old = none
  · rw [created_alone alone]
    exact trail_write trails (by rw [absent]; rfl) id
  · push Not at alone
    obtain ⟨old, named, exists'⟩ := alone
    obtain ⟨previous, known⟩ := Option.ne_none_iff_exists'.1 exists'
    rw [created_superseding named known, settled old named previous known]
    have noted : ∀ id, Trail (db.recordHistory old "superseded_by_create" (some (snapshot old previous)) none
        request.source) id := trail_note trails (by rw [known]; rfl)
    have same : ((db.recordHistory old "superseded_by_create" (some (snapshot old previous)) none
        request.source).put old previous).memories = db.memories := put_of_known known
    apply trail_write (trail_congr noted same rfl)
    rw [same, absent]
    rfl

variable [FloatData] {state next : State}

theorem change_trail {id : Uuid} {action actor : String} {memory row : Memory} (trails : ∀ id, Trail state.db id)
    (known : state.db.memories id = some memory) (other : Uuid) :
    Trail (change state id action actor (some (snapshot id memory)) row).db other :=
  trail_write trails (by rw [known]; rfl) other

theorem supersede_trail {drawn id : Uuid} {now : String} {replacement : Replacement}
    (trails : ∀ id, Trail state.db id) (sound : SoundDb state.db) (superseded : Superseded state.db id)
    (returned : supersede state drawn now id replacement = .ok next) (other : Uuid) : Trail next.db other := by
  obtain ⟨previous, known, different, absent, rows, _⟩ := supersede_ok returned
  have settled := retired_of_superseded sound superseded known
  have kept := put_of_known known
  have between : ∀ other, Trail (created (state.db.put id previous) drawn now
      (replacing id previous replacement)) other := by
    apply created_trail (trail_congr trails kept rfl) (by rw [kept, absent])
    intro old named memory found
    obtain rfl := Option.some.inj named
    rw [kept, known] at found
    exact Option.some.inj found ▸ settled
  rw [rows, replaced, settled]
  apply trail_write between
  rw [created_superseding rfl (put_memories_self ..), settled, memories_recordHistory, put_memories_ne _ _ _ different.symm,
    put_memories_self]
  rfl

/-- The operation does not change a memory without recording its snapshots: it retires only memories that
are superseded already, and it reads no entry of a memory back. -/
def Recording [UuidData] (state : State) : Action → Prop
  | .create _ _ request => ∀ old ∈ request.supersedesId, Superseded state.db old
  | .supersede _ _ id _ => Superseded state.db id
  | .sync _ => ∀ entry ∈ entries state.file, state.db.memories entry.1 = none ∨ parseMemoryLine entry.2 = none
  | .applyProposal .. => False
  | _ => True

theorem step_trail [UuidData] [FloatSum] {action : Action} (trails : ∀ id, Trail state.db id)
    (sound : SoundDb state.db) (recording : Recording state action) (taken : step state action = some next)
    (other : Uuid) : Trail next.db other := by
  rw [step] at taken
  split at taken
  next reached returned =>
    cases taken
    cases action with
    | create drawn now request =>
      obtain ⟨absent, rows, _⟩ := create_ok returned
      rw [rows]
      exact created_trail trails absent (fun old named memory known =>
        retired_of_superseded sound (recording old named) known) other
    | supersede drawn now id replacement => exact supersede_trail trails sound recording returned other
    | archive id =>
      obtain ⟨memory, known, rfl⟩ := archive_ok returned
      exact change_trail trails known other
    | markVerified id delta =>
      obtain ⟨memory, known, rfl⟩ := markVerified_ok returned
      exact change_trail trails known other
    | sync now =>
      cases returned
      have unchanged : (syncFromMemoryFile state now).2.db = state.db := by
        apply @sync_keeps _ _ _ now (fun db => db = state.db) state rfl
        rintro db entry memory fields content time member rfl known parsed
        rcases recording entry member with unknown | unread
        · rw [unknown] at known
          cases known
        · rw [unread] at parsed
          cases parsed
      rw [unchanged]
      exact trails other
    | restore historyId actor =>
      obtain ⟨record, designated, id, restored, recorded, chosen, named, applied, rfl⟩ := restore_ok returned
      obtain ⟨memory, shown, rfl, known, row, rfl, found⟩ :=
        restorable_of_recorded (sound.records record (List.mem_of_getElem? recorded)) chosen named
      rw [found]
      exact change_trail trails known other
    | applyProposal drawn now actor proposal => exact recording.elim
    | editFile text =>
      cases returned
      exact trails other
  next =>
    cases taken
    exact trails other

/-- From an empty table and any file, every sequence of operations that record what they change leaves a
complete history of every memory. -/
theorem audited_of_run [UuidData] [FloatSum] (file : String) (actions : List Action) (last : State)
    (recording : Runs.Along step Recording ⟨Database.empty, file⟩ actions)
    (ran : Runs.run step ⟨Database.empty, file⟩ actions = some last) (id : Uuid) (memory : Memory)
    (found : last.db.memories id = some memory) : Audited last.db id memory := by
  have both : (∀ id, Trail last.db id) ∧ SoundDb last.db := Runs.run_invariant_along
    (fun state => (∀ id, Trail state.db id) ∧ SoundDb state.db)
    (fun _ _ _ holds guard taken => ⟨step_trail holds.1 holds.2 guard taken, step_sound holds.2 taken⟩)
    ⟨empty_trail, SoundDb.empty⟩ recording ran
  have trail := both.1 id
  exact ⟨by rw [trail.current, found]; rfl, trail.continuous⟩

end Steps

section Demo
attribute [local instance] CharData.ascii FloatData.decimal UuidData.plain FloatSum.exact

private def auditedId : Uuid := ⟨1⟩

private def createAudited : Action := .create auditedId "" { kind := "agent_note", content := "tea" }

theorem audited_archived : ∃ last memory, Runs.run step ⟨Database.empty, ""⟩ [createAudited, .archive auditedId] = some last ∧
    last.db.memories auditedId = some memory ∧ Audited last.db auditedId memory := by
  have evaluated : ((Runs.run step ⟨Database.empty, ""⟩ [createAudited, .archive auditedId]).bind fun last =>
      last.db.memories auditedId).isSome = true := by decide +kernel
  obtain ⟨memory, found⟩ := Option.isSome_iff_exists.1 evaluated
  obtain ⟨last, ran, found⟩ := Option.bind_eq_some_iff.1 found
  have recording : Runs.Along step Recording ⟨Database.empty, ""⟩ [createAudited, .archive auditedId] := by
    refine ⟨fun old named => ?_, fun next _ => ⟨trivial, fun _ _ => trivial⟩⟩
    cases named
  exact ⟨last, memory, ran, found, audited_of_run "" _ last recording ran auditedId memory found⟩

/-- There are three records, and the second does not start from what the first establishes. -/
private def broken : List MemoryHistory → Bool
  | [first, second, _] => decide (second.before ≠ established [first])
  | _ => false

/-- Superseding an active memory leaves a record that starts from a snapshot that no record before it
establishes. -/
theorem superseded_unrecorded : ∃ last memory, Runs.run step ⟨Database.empty, ""⟩
      [createAudited, .supersede ⟨2⟩ "" auditedId { content := "milk" }] = some last ∧
    last.db.memories auditedId = some memory ∧ ¬Audited last.db auditedId memory := by
  have evaluated : ((Runs.run step ⟨Database.empty, ""⟩
      [createAudited, .supersede ⟨2⟩ "" auditedId { content := "milk" }]).bind fun last =>
        (last.db.memories auditedId).map fun _ => broken (recordsOf last.db auditedId)) = some true := by decide +kernel
  obtain ⟨last, ran, evaluated⟩ := Option.bind_eq_some_iff.1 evaluated
  obtain ⟨memory, found, shown⟩ := Option.map_eq_some_iff.1 evaluated
  refine ⟨last, memory, ran, found, fun audited => ?_⟩
  unfold broken at shown
  split at shown
  next first second third records =>
    exact of_decide_eq_true shown (audited.continuous [first] second [third] records)
  next => cases shown

end Demo

end SoulClaw.Memories.Audit
