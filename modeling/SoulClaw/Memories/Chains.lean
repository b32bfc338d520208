import SoulClaw.Memories.Consistency

/-! Supersession. The two pointers of a row and its status describe disjoint chains as long as no operation
sets one of them without the others. -/

namespace SoulClaw.Memories.Chains
open Foundation File Service Effects Consistency

/-- The pointers are inverse to each other, lead to one memory only, and go with the status. -/
structure Chained (db : Database) : Prop where
  inverse : ∀ a b older newer, db.memories a = some older → db.memories b = some newer →
    (newer.supersedesId = some a ↔ older.supersededBy = some b)
  single : ∀ a b c older newer other, db.memories a = some older → db.memories b = some newer →
    db.memories c = some other → newer.supersedesId = some a → other.supersedesId = some a → b = c
  superseded : ∀ a older, db.memories a = some older → (older.supersededBy.isSome = true ↔ older.status = "superseded")

/-- No memory supersedes the one that an identifier is drawn for. -/
def Unnamed (db : Database) (drawn : Uuid) : Prop :=
  ∀ id memory, db.memories id = some memory → memory.supersedesId ≠ some drawn

def Unsuperseded (db : Database) (id : Uuid) : Prop :=
  ∀ memory, db.memories id = some memory → memory.supersededBy = none

/-- The snapshot of a record has the status that goes with the pointer of the memory now. -/
def Fitting (db : Database) (record : MemoryHistory) : Prop :=
  ∀ designated memory, record.designated = some designated → db.memories record.memoryId = some memory →
    (designated.status = some "superseded" ↔ memory.supersededBy.isSome = true)

/-- A create names no existing memory, superseding and archiving are for memories that are not superseded,
and a restore for a status that fits. -/
def Orderly (state : State) : Action → Prop
  | .create drawn _ request => (∀ old ∈ request.supersedesId, state.db.memories old = none ∧ old ≠ drawn) ∧
      Unnamed state.db drawn
  | .supersede drawn _ id _ => Unsuperseded state.db id ∧ Unnamed state.db drawn
  | .archive id => Unsuperseded state.db id
  | .restore historyId _ => ∀ record, state.db.history.get? historyId = some record → Fitting state.db record
  | _ => False

/-- What keeps the chains apart: the pointers are inverse, go with the status, and the one to the newer
memory leads somewhere. -/
structure Linked (db : Database) : Prop where
  inverse : ∀ a b older newer, db.memories a = some older → db.memories b = some newer →
    (newer.supersedesId = some a ↔ older.supersededBy = some b)
  superseded : ∀ a older, db.memories a = some older → (older.supersededBy.isSome = true ↔ older.status = "superseded")
  leads : ∀ a b older, db.memories a = some older → older.supersededBy = some b → (db.memories b).isSome = true

section Writes
variable {db : Database} {id drawn : Uuid} {memory row : Memory}

theorem Linked.chained (linked : Linked db) : Chained db where
  inverse := linked.inverse
  single a b c older newer other first second third left right := by
    have points := (linked.inverse a b older newer first second).1 left
    have points' := (linked.inverse a c older other first third).1 right
    exact Option.some.inj (points.symm.trans points')
  superseded := linked.superseded

theorem Linked.empty : Linked Database.empty where
  inverse _ _ _ _ found := by cases found
  superseded _ _ found := by cases found
  leads _ _ _ found := by cases found

/-- Only the pointers and the status of the rows matter. -/
theorem Linked.congr {other : Database} (linked : Linked db) (same : other.memories = db.memories) : Linked other where
  inverse := same ▸ linked.inverse
  superseded := same ▸ linked.superseded
  leads := same ▸ linked.leads

/-- A write that leaves the pointers of a row alone. -/
theorem Linked.put (linked : Linked db) (known : db.memories id = some memory)
    (supersedes : row.supersedesId = memory.supersedesId) (by' : row.supersededBy = memory.supersededBy)
    (status : row.supersededBy.isSome = true ↔ row.status = "superseded") : Linked (db.put id row) := by
  have before : ∀ {a found}, (db.put id row).memories a = some found → ∃ old, db.memories a = some old ∧
      found.supersedesId = old.supersedesId ∧ found.supersededBy = old.supersededBy := by
    intro a found now
    rcases put_cases now with ⟨rfl, rfl⟩ | ⟨_, kept⟩
    · exact ⟨memory, known, supersedes, by'⟩
    · exact ⟨found, kept, rfl, rfl⟩
  refine { inverse := ?_, superseded := ?_, leads := ?_ }
  · intro a b older newer first second
    obtain ⟨_, first, _, eq⟩ := before first
    obtain ⟨_, second, eq', _⟩ := before second
    rw [eq, eq']
    exact linked.inverse a b _ _ first second
  · intro a older found
    rcases put_cases found with ⟨rfl, rfl⟩ | ⟨_, kept⟩
    · exact status
    · exact linked.superseded a older kept
  · intro a b older found points
    obtain ⟨_, found, _, eq⟩ := before found
    have leads := linked.leads a b _ found (eq ▸ points)
    by_cases here : b = id
    · rw [here, put_memories_self]
      rfl
    · rw [put_memories_ne _ _ _ here]
      exact leads

/-- A new row that supersedes no existing memory. -/
theorem Linked.add (linked : Linked db) (absent : db.memories drawn = none) (unnamed : Unnamed db drawn)
    (alone : ∀ old ∈ row.supersedesId, db.memories old = none ∧ old ≠ drawn) (last : row.supersededBy = none)
    (status : row.status ≠ "superseded") : Linked (db.put drawn row) := by
  have names : ∀ {a older}, (db.put drawn row).memories a = some older → row.supersedesId ≠ some a := by
    rintro a older found named
    obtain ⟨missing, different⟩ := alone a named
    rw [put_memories_ne _ _ _ different, missing] at found
    cases found
  have ahead : ∀ {a b older}, db.memories a = some older → older.supersededBy = some b → b ≠ drawn := by
    rintro a b older found points rfl
    have leads := linked.leads a b older found points
    rw [absent] at leads
    cases leads
  refine { inverse := ?_, superseded := ?_, leads := ?_ }
  · intro a b older newer first second
    rcases put_cases second with ⟨rfl, rfl⟩ | ⟨_, later⟩
    · refine iff_of_false (names first) fun points => ?_
      rcases put_cases first with ⟨rfl, rfl⟩ | ⟨_, earlier⟩
      · rw [last] at points
        cases points
      · exact ahead earlier points rfl
    · rcases put_cases first with ⟨rfl, rfl⟩ | ⟨_, earlier⟩
      · refine iff_of_false (unnamed b newer later) fun points => ?_
        rw [last] at points
        cases points
      · exact linked.inverse a b older newer earlier later
  · intro a older found
    rcases put_cases found with ⟨rfl, rfl⟩ | ⟨_, found⟩
    · rw [last]
      exact iff_of_false (by simp) status
    · exact linked.superseded a older found
  · intro a b older found points
    rcases put_cases found with ⟨rfl, rfl⟩ | ⟨_, found⟩
    · rw [last] at points
      cases points
    · rw [put_memories_ne _ _ _ (ahead found points)]
      exact linked.leads a b older found points

/-- A new row at the end of a chain, and the pointer to it. -/
theorem Linked.link {replacedBy : Memory} (linked : Linked db) (known : db.memories id = some memory)
    (last : memory.supersededBy = none) (absent : db.memories drawn = none) (unnamed : Unnamed db drawn)
    (names : row.supersedesId = some id) (newest : row.supersededBy = none) (status : row.status ≠ "superseded")
    (keeps : replacedBy.supersedesId = memory.supersedesId) (points : replacedBy.supersededBy = some drawn)
    (closed : replacedBy.status = "superseded") : Linked ((db.put drawn row).put id replacedBy) := by
  have apart : id ≠ drawn := by
    rintro rfl
    rw [absent] at known
    cases known
  have found_cases : ∀ {a found}, ((db.put drawn row).put id replacedBy).memories a = some found →
      a = id ∧ found = replacedBy ∨ a = drawn ∧ found = row ∨ a ≠ id ∧ a ≠ drawn ∧ db.memories a = some found := by
    intro a found now
    rcases put_cases now with here | ⟨other, now⟩
    · exact .inl here
    · rcases put_cases now with here | ⟨different, now⟩
      · exact .inr (.inl here)
      · exact .inr (.inr ⟨other, different, now⟩)
  have ahead : ∀ {a b older}, db.memories a = some older → older.supersededBy = some b → b ≠ drawn := by
    rintro a b older found leads rfl
    have exists' := linked.leads a b older found leads
    rw [absent] at exists'
    cases exists'
  have behind : ∀ {b newer}, db.memories b = some newer → newer.supersedesId ≠ some id := by
    intro b newer found named
    have leads := (linked.inverse id b memory newer known found).1 named
    rw [last] at leads
    cases leads
  refine { inverse := ?_, superseded := ?_, leads := ?_ }
  · intro a b older newer first second
    rcases found_cases first with ⟨rfl, rfl⟩ | ⟨rfl, rfl⟩ | ⟨notOld, notNew, earlier⟩
    · rcases found_cases second with ⟨rfl, rfl⟩ | ⟨rfl, rfl⟩ | ⟨_, other, later⟩
      · rw [keeps, points]
        exact iff_of_false (behind known) fun same => apart (Option.some.inj same).symm
      · exact iff_of_true names points
      · rw [points]
        exact iff_of_false (behind later) fun same => other (Option.some.inj same).symm
    · rw [newest]
      refine iff_of_false ?_ (by simp)
      rcases found_cases second with ⟨rfl, rfl⟩ | ⟨_, rfl⟩ | ⟨_, _, later⟩
      · rw [keeps]
        exact unnamed _ memory known
      · rw [names]
        exact fun same => apart (Option.some.inj same)
      · exact unnamed b newer later
    · rcases found_cases second with ⟨rfl, rfl⟩ | ⟨rfl, rfl⟩ | ⟨_, _, later⟩
      · rw [keeps]
        exact linked.inverse a b older memory earlier known
      · rw [names]
        exact iff_of_false (fun same => notOld (Option.some.inj same).symm) fun leads => ahead earlier leads rfl
      · exact linked.inverse a b older newer earlier later
  · intro a older found
    rcases found_cases found with ⟨_, rfl⟩ | ⟨_, rfl⟩ | ⟨_, _, kept⟩
    · rw [points, closed]
      exact iff_of_true rfl rfl
    · rw [newest]
      exact iff_of_false (by simp) status
    · exact linked.superseded a older kept
  · intro a b older found leads
    have known' : ∀ {c}, (db.memories c).isSome = true ∨ c = drawn →
        (((db.put drawn row).put id replacedBy).memories c).isSome = true := by
      intro c from'
      by_cases here : c = id
      · rw [here, put_memories_self]
        rfl
      · rw [put_memories_ne _ _ _ here]
        by_cases new : c = drawn
        · rw [new, put_memories_self]
          rfl
        · rw [put_memories_ne _ _ _ new]
          exact from'.resolve_right new
    apply known'
    rcases found_cases found with ⟨_, rfl⟩ | ⟨_, rfl⟩ | ⟨_, _, kept⟩
    · exact .inr (Option.some.inj (leads.symm.trans points))
    · rw [newest] at leads
      cases leads
    · exact .inl (linked.leads a b older kept leads)

end Writes

/-! The operations. -/

section Steps
variable [CharData] [FloatData] {state next : State}

theorem create_linked {drawn : Uuid} {now : String} {request : CreateRequest} (linked : Linked state.db)
    (alone : ∀ old ∈ request.supersedesId, state.db.memories old = none ∧ old ≠ drawn)
    (unnamed : Unnamed state.db drawn) (returned : create state drawn now request = .ok next) : Linked next.db := by
  obtain ⟨absent, rows, _⟩ := create_ok returned
  rw [rows, created_alone fun old named => (alone old named).1]
  have added : Linked (state.db.put drawn (newMemory drawn now request)) :=
    linked.add absent unnamed alone rfl (by simp [newMemory])
  exact added.congr rfl

theorem supersede_linked {drawn id : Uuid} {now : String} {replacement : Replacement} (linked : Linked state.db)
    (last : Unsuperseded state.db id) (unnamed : Unnamed state.db drawn)
    (returned : supersede state drawn now id replacement = .ok next) : Linked next.db := by
  obtain ⟨previous, known, different, absent, rows, _⟩ := supersede_ok returned
  have appended : Linked ((state.db.put drawn (newMemory drawn now (replacing id previous replacement))).put id
      (replacedRow previous drawn)) :=
    linked.link known (last previous known) absent unnamed rfl rfl (by simp [newMemory]) rfl rfl rfl
  apply appended.congr
  rw [rows, replaced_memories different]
  rfl

theorem change_linked {id : Uuid} {action actor : String} {before : Option Snapshot} {memory row : Memory}
    (linked : Linked state.db) (known : state.db.memories id = some memory)
    (supersedes : row.supersedesId = memory.supersedesId) (by' : row.supersededBy = memory.supersededBy)
    (status : row.supersededBy.isSome = true ↔ row.status = "superseded") :
    Linked (change state id action actor before row).db :=
  (linked.put known supersedes by' status).congr rfl

theorem archive_linked {id : Uuid} (linked : Linked state.db) (last : Unsuperseded state.db id)
    (returned : archive state id = .ok next) : Linked next.db := by
  obtain ⟨memory, known, rfl⟩ := archive_ok returned
  refine change_linked linked known rfl rfl ?_
  exact iff_of_false (by simp [retired, last memory known]) (by simp [retired])

theorem restore_linked [UuidData] {historyId : Nat} {actor : String} (linked : Linked state.db)
    (sound : SoundDb state.db) (fitting : ∀ record, state.db.history.get? historyId = some record →
      Fitting state.db record) (returned : restore state historyId actor = .ok next) : Linked next.db := by
  obtain ⟨record, designated, id, restored, recorded, chosen, named, applied, rfl⟩ := restore_ok returned
  obtain ⟨memory, shown, rfl, known, row, rfl, found⟩ :=
    restorable_of_recorded (sound.records record (List.mem_of_getElem? recorded)) chosen named
  rw [found, applySnapshot_snapshot row] at applied
  cases applied
  have fits := fitting record recorded _ memory chosen known
  refine change_linked linked known rfl rfl ?_
  rw [← fits]
  simp [snapshot]

theorem step_linked [UuidData] [FloatSum] {action : Action} (linked : Linked state.db) (sound : SoundDb state.db)
    (orderly : Orderly state action) (taken : step state action = some next) : Linked next.db := by
  rw [step] at taken
  split at taken
  next reached returned =>
    cases taken
    cases action with
    | create drawn now request => exact create_linked linked orderly.1 orderly.2 returned
    | supersede drawn now id replacement => exact supersede_linked linked orderly.1 orderly.2 returned
    | archive id => exact archive_linked linked orderly returned
    | restore historyId actor => exact restore_linked linked sound orderly returned
    | _ => exact orderly.elim
  next =>
    cases taken
    exact linked

/-- From an empty table, every orderly sequence of creates, supersedes, archives and restores leaves
disjoint chains. -/
theorem chained_of_run [UuidData] [FloatSum] (file : String) (actions : List Action) (last : State)
    (orderly : Runs.Along step Orderly ⟨Database.empty, file⟩ actions)
    (ran : Runs.run step ⟨Database.empty, file⟩ actions = some last) : Chained last.db := by
  have both : Linked last.db ∧ SoundDb last.db := Runs.run_invariant_along
    (fun state => Linked state.db ∧ SoundDb state.db)
    (fun _ _ _ holds guard taken => ⟨step_linked holds.1 holds.2 guard taken, step_sound holds.2 taken⟩)
    ⟨Linked.empty, SoundDb.empty⟩ orderly ran
  exact both.1.chained

end Steps

section Demo
attribute [local instance] CharData.ascii FloatData.decimal UuidData.plain FloatSum.exact

private def olderId : Uuid := ⟨1⟩

private def newerId : Uuid := ⟨2⟩

private def createOlder : Action := .create olderId "" { kind := "agent_note", content := "tea" }

theorem chained_archived : ∃ last, Runs.run step ⟨Database.empty, ""⟩ [createOlder, .archive olderId] = some last ∧
    Chained last.db := by
  have evaluated : (Runs.run step ⟨Database.empty, ""⟩ [createOlder, .archive olderId]).isSome = true := by
    decide +kernel
  obtain ⟨last, ran⟩ := Option.isSome_iff_exists.1 evaluated
  have orderly : Runs.Along step Orderly ⟨Database.empty, ""⟩ [createOlder, .archive olderId] := by
    refine ⟨⟨?_, ?_⟩, ?_⟩
    · intro old named
      cases named
    · intro id memory found
      cases found
    · intro next taken
      have row : ((step ⟨Database.empty, ""⟩ createOlder).bind fun next => next.db.memories olderId).all
          (fun memory => memory.supersededBy = none) = true := by decide +kernel
      rw [taken, Option.bind_some] at row
      refine ⟨fun memory found => ?_, fun _ _ => trivial⟩
      rw [found] at row
      exact of_decide_eq_true row
  exact ⟨last, ran, chained_of_run "" _ last orderly ran⟩

/-- The second create names the first memory, whose row does not get the pointer back. -/
theorem created_pointer_one_way : ∃ last older newer, Runs.run step ⟨Database.empty, ""⟩ [createOlder,
      .create newerId "" { kind := "agent_note", content := "milk", supersedesId := some olderId }] = some last ∧
    last.db.memories olderId = some older ∧ last.db.memories newerId = some newer ∧
    newer.supersedesId = some olderId ∧ older.status = "superseded" ∧ older.supersededBy = none ∧ ¬Chained last.db := by
  have evaluated : ((Runs.run step ⟨Database.empty, ""⟩ [createOlder,
      .create newerId "" { kind := "agent_note", content := "milk", supersedesId := some olderId }]).bind fun last =>
        (last.db.memories olderId).bind fun older => (last.db.memories newerId).map fun newer =>
          decide (newer.supersedesId = some olderId ∧ older.status = "superseded" ∧ older.supersededBy = none)) =
        some true := by decide +kernel
  obtain ⟨last, ran, evaluated⟩ := Option.bind_eq_some_iff.1 evaluated
  obtain ⟨older, first, evaluated⟩ := Option.bind_eq_some_iff.1 evaluated
  obtain ⟨newer, second, shown⟩ := Option.map_eq_some_iff.1 evaluated
  obtain ⟨names, status, points⟩ := of_decide_eq_true shown
  refine ⟨last, older, newer, ran, first, second, names, status, points, fun chained => ?_⟩
  have inverse := (chained.inverse olderId newerId older newer first second).1 names
  rw [points] at inverse
  cases inverse

end Demo

end SoulClaw.Memories.Chains
