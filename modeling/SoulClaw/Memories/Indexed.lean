import SoulClaw.Memories.Index

/-! When the search index holds the memories that are in use. -/

namespace SoulClaw.Memories.Indexed
open Foundation File Service Effects Entries Index

/-! The query. -/

/-- The row of a memory, as it was last flushed, meets the condition of the query. -/
def Visible (stored : Uuid → Option Row) (id : Uuid) : Prop := ∃ row, stored id = some row ∧ row.inUse = true

/-- What the query may give: up to 5000 of the rows that meet its condition, and all of them if there are fewer. -/
structure Selects (stored : Uuid → Option Row) (selected : List Uuid) : Prop where
  nodup : selected.Nodup
  bound : selected.length ≤ 5000
  visible : ∀ id ∈ selected, Visible stored id
  complete : selected.length < 5000 → ∀ id, Visible stored id → id ∈ selected

/-- At most 5000 rows are not archived. -/
def Few (stored : Uuid → Option Row) : Prop :=
  ∃ ids : List Uuid, ids.length ≤ 5000 ∧ ∀ id row, stored id = some row → row.archived = false → id ∈ ids

theorem mem_selected_iff {stored : Uuid → Option Row} {selected : List Uuid} {id : Uuid} (selects : Selects stored selected)
    (few : Few stored) : id ∈ selected ↔ Visible stored id := by
  constructor
  · exact selects.visible id
  · intro shown
    by_cases short : selected.length < 5000
    · exact selects.complete short id shown
    · obtain ⟨ids, count, listed⟩ := few
      have live : ∀ other, Visible stored other → other ∈ ids := by
        rintro other ⟨row, known, inUse⟩
        rw [Row.inUse, Bool.and_eq_true, Bool.not_eq_true'] at inUse
        exact listed other row known inUse.1
      have within : selected ⊆ ids := fun other member => live other (selects.visible other member)
      have perm := (selects.nodup.subperm within).perm_of_length_le (by omega)
      exact perm.mem_iff.2 (live id shown)

/-! The session. -/

section Session
variable {session : Session}

/-- The memory is one of the session's objects, with a row or without. -/
def Shown (session : Session) (id : Uuid) (row : Row) (validTo : Option DateTime) : Prop :=
  (∃ memory, session.state.db.memories id = some memory ∧ row = Row.of memory ∧ validTo = session.validTo id) ∨
    ∃ memory, (id, memory) ∈ session.added ∧ row = Row.of memory ∧ validTo = none

/-- The memory is in use. -/
def Active (session : Session) (now : Int) (id : Uuid) : Prop :=
  ∃ row validTo, Shown session id row validTo ∧ inactive row validTo now = false

/-- The index holds the memories that are in use. -/
def Mirrors (session : Session) (now : Int) : Prop := ∀ id, id ∈ session.index ↔ Active session now id

/-- The memories with a row are those whose row has been flushed, and the others have no row. -/
structure Coherent (session : Session) : Prop where
  rows : ∀ id, (session.stored id).isSome ↔ (session.state.db.memories id).isSome
  fresh : ∀ row ∈ session.added, session.state.db.memories row.1 = none

/-- Nothing is waiting to be flushed. -/
def Clean (session : Session) : Prop :=
  session.added = [] ∧ ∀ id, session.stored id = (session.state.db.memories id).map Row.of

theorem Clean.coherent (clean : Clean session) : Coherent session where
  rows id := by rw [clean.2, Option.isSome_map]
  fresh row member := by
    rw [clean.1] at member
    cases member

/-- A refresh indexes the memories in use, exactly when the flushed row of each of them meets the condition. -/
theorem mirrors_refresh_iff {look : Look} (coherent : Coherent session) (selects : Selects session.stored look.selected)
    (few : Few session.stored) :
    Mirrors (session.refresh look) look.now ↔ ∀ id, Active session look.now id → Visible session.stored id := by
  have indexed : ∀ id, id ∈ (session.refresh look).index ↔ Visible session.stored id ∧
      ∃ memory, session.state.db.memories id = some memory ∧ inactive (Row.of memory) (session.validTo id) look.now = false := by
    intro id
    rw [Session.refresh, List.mem_filter, mem_selected_iff selects few, Option.any_eq_true]
    simp only [Bool.not_eq_true']
  have active : ∀ id, Visible session.stored id → (Active session look.now id ↔ ∃ memory,
      session.state.db.memories id = some memory ∧ inactive (Row.of memory) (session.validTo id) look.now = false) := by
    rintro id ⟨row, known, _⟩
    obtain ⟨old, there⟩ := Option.isSome_iff_exists.1 ((coherent.rows id).1 (by rw [known, Option.isSome_some]))
    constructor
    · rintro ⟨_, _, ⟨memory, found, rfl, rfl⟩ | ⟨memory, waiting, _⟩, live⟩
      · exact ⟨memory, found, live⟩
      · rw [coherent.fresh _ waiting] at there
        cases there
    · rintro ⟨memory, found, live⟩
      exact ⟨_, _, .inl ⟨memory, found, rfl, rfl⟩, live⟩
  constructor
  · intro mirrors id live
    exact ((indexed id).1 ((mirrors id).2 live)).1
  · intro seen id
    rw [indexed]
    constructor
    · rintro ⟨shown, there⟩
      exact (active id shown).2 there
    · intro live
      exact ⟨seen id live, (active id (seen id live)).1 live⟩

theorem visible_of_clean {now : Int} {id : Uuid} (clean : Clean session) (active : Active session now id) :
    Visible session.stored id := by
  obtain ⟨row, validTo, ⟨memory, found, rfl, _⟩ | ⟨memory, waiting, _⟩, live⟩ := active
  · refine ⟨Row.of memory, by rw [clean.2, found, Option.map_some], ?_⟩
    rw [inactive, Bool.or_eq_false_iff] at live
    simpa using live.1
  · rw [clean.1] at waiting
    cases waiting

theorem flush_clean {next : Session} (flushed : session.flush = .ok next) : Clean next := by
  rw [Session.flush] at flushed
  split at flushed
  next =>
    cases flushed
    exact ⟨rfl, fun id => rfl⟩
  next => cases flushed

/-- A session whose objects have changed, but none has come or gone. -/
theorem Coherent.congr {state : Service.State} (coherent : Coherent session)
    (same : ∀ id, (state.db.memories id).isSome = (session.state.db.memories id).isSome) :
    Coherent { session with state } where
  rows id := by
    rw [same]
    exact coherent.rows id
  fresh row member := by
    have none := coherent.fresh row member
    rw [← Option.not_isSome_iff_eq_none] at none ⊢
    rw [same]
    exact none

/-- The memories in use after one of them has changed. -/
theorem active_put {state : Service.State} {id other : Uuid} {old memory : Memory} {now : Int} (coherent : Coherent session)
    (known : session.state.db.memories id = some old)
    (changed : state.db.memories = Function.update session.state.db.memories id (some memory)) :
    Active { session with state } now other ↔ other ≠ id ∧ Active session now other ∨
      other = id ∧ inactive (Row.of memory) (session.validTo id) now = false := by
  by_cases here : other = id
  · subst here
    have own : state.db.memories other = some memory := by rw [changed, Function.update_self]
    constructor
    · rintro ⟨_, _, ⟨found, there, rfl, rfl⟩ | ⟨found, waiting, _⟩, live⟩
      · rw [own, Option.some.injEq] at there
        subst there
        exact .inr ⟨rfl, live⟩
      · have none := coherent.fresh _ waiting
        rw [known] at none
        cases none
    · rintro (⟨different, _⟩ | ⟨_, live⟩)
      · exact absurd rfl different
      · exact ⟨_, _, .inl ⟨memory, own, rfl, rfl⟩, live⟩
  · have same : state.db.memories other = session.state.db.memories other := by rw [changed, Function.update_of_ne here]
    have shown : Active { session with state } now other ↔ Active session now other := by
      simp only [Active, Shown, same]
    rw [shown]
    simp only [here, ne_eq, not_false_eq_true, true_and, false_and, or_false]

/-- The memories in use after one without a row has been added. -/
theorem active_added {state : Service.State} {id other : Uuid} {memory : Memory} {now : Int}
    (same : state.db.memories = session.state.db.memories) :
    Active { session with state, added := session.added ++ [(id, memory)] } now other ↔ Active session now other ∨
      other = id ∧ inactive (Row.of memory) none now = false := by
  constructor
  · rintro ⟨row, validTo, ⟨found, there, content, until'⟩ | ⟨found, waiting, rfl, rfl⟩, live⟩
    · rw [same] at there
      exact .inl ⟨row, validTo, .inl ⟨found, there, content, until'⟩, live⟩
    · rcases List.mem_append.1 waiting with old | new
      · exact .inl ⟨_, _, .inr ⟨found, old, rfl, rfl⟩, live⟩
      · rw [List.mem_singleton, Prod.mk.injEq] at new
        obtain ⟨rfl, rfl⟩ := new
        exact .inr ⟨rfl, live⟩
  · rintro (⟨row, validTo, ⟨found, there, content, until'⟩ | ⟨found, old, content, until'⟩, live⟩ | ⟨rfl, live⟩)
    · exact ⟨row, validTo, .inl ⟨found, by rw [same, there], content, until'⟩, live⟩
    · exact ⟨row, validTo, .inr ⟨found, List.mem_append_left _ old, content, until'⟩, live⟩
    · exact ⟨_, _, .inr ⟨memory, List.mem_append_right _ List.mem_cons_self, rfl, rfl⟩, live⟩

end Session

/-! The operations. -/

section Operations
variable [CharData] [FloatData] [DateData] {session next : Session} {look : Look}

/-- A create flushes everything before it refreshes the index. -/
theorem create_ok {drawn : Uuid} {now : String} {request : CreateRequest}
    (returned : Index.create session drawn now request look = .ok next) : ∃ flushed, Clean flushed ∧ next = flushed.refresh look := by
  obtain ⟨state, _, returned⟩ := bind_eq_ok.1 returned
  obtain ⟨flushed, ran, returned⟩ := bind_eq_ok.1 returned
  cases returned
  have clean := flush_clean ran
  exact ⟨{ flushed with recorded := flushed.recorded - 1 }, ⟨clean.1, clean.2⟩, rfl⟩

theorem supersede_ok {drawn id : Uuid} {now : String} {replacement : Replacement}
    (returned : Index.supersede session drawn now id replacement look = .ok next) :
    ∃ flushed, Clean flushed ∧ next = flushed.refresh look := by
  obtain ⟨state, _, returned⟩ := bind_eq_ok.1 returned
  obtain ⟨flushed, ran, returned⟩ := bind_eq_ok.1 returned
  cases returned
  have clean := flush_clean ran
  exact ⟨{ flushed with recorded := flushed.recorded - 2 }, ⟨clean.1, clean.2⟩, rfl⟩

omit [CharData] [FloatData] [DateData] in
/-- What a change of one memory does to the rows. -/
theorem isSome_put {db db' : Database} {id : Uuid} {old memory : Memory} (known : db.memories id = some old)
    (changed : db'.memories = Function.update db.memories id (some memory)) (other : Uuid) :
    (db'.memories other).isSome = (db.memories other).isSome := by
  by_cases here : other = id
  · rw [changed, here, Function.update_self, known, Option.isSome_some, Option.isSome_some]
  · rw [changed, Function.update_of_ne here]

omit [DateData] in
theorem archive_ok {id : Uuid} (returned : Index.archive session id look = .ok next) : ∃ memory state,
    session.state.db.memories id = some memory ∧
      state.db.memories = Function.update session.state.db.memories id (some (retired memory "archived")) ∧
        next = Session.refresh { session with state } look := by
  obtain ⟨state, archived, returned⟩ := bind_eq_ok.1 returned
  cases returned
  obtain ⟨memory, known, rfl⟩ := Effects.archive_ok archived
  exact ⟨memory, _, known, rfl, rfl⟩

omit [DateData] in
theorem markVerified_ok [FloatSum] {id : Uuid} {delta : PyFloat}
    (returned : Index.markVerified session id delta = .ok next) : ∃ memory verified state,
      session.state.db.memories id = some memory ∧
        state.db.memories = Function.update session.state.db.memories id (some verified) ∧
          next = { session with state } := by
  obtain ⟨state, ran, returned⟩ := bind_eq_ok.1 returned
  cases returned
  obtain ⟨memory, known, rfl⟩ := Effects.markVerified_ok ran
  exact ⟨memory, verified memory delta, _, known, rfl, rfl⟩

/-! Going back. -/

/-- The columns of a snapshot as `_apply_snapshot` reads them. -/
def restoredRow (designated : Snapshot) : Row where
  archived := designated.archived.getD false
  status := orText (designated.status.getD "") "active"

omit [CharData] [FloatData] [DateData] in
theorem row_applySnapshot {id : Uuid} {old memory : Memory} {designated : Snapshot}
    (applied : applySnapshot id old designated = .ok memory) : Row.of memory = restoredRow designated := by
  obtain ⟨_, _, applied⟩ := bind_eq_ok.1 applied
  obtain ⟨_, _, applied⟩ := bind_eq_ok.1 applied
  obtain ⟨_, _, applied⟩ := bind_eq_ok.1 applied
  cases applied
  rfl

variable [UuidData]

omit [DateData] in
theorem restore_ok {historyId : Nat} {actor : String} (returned : Index.restore session historyId actor look = .ok next) :
    ∃ id designated memory state, target session.state.db.history historyId = .ok (id, designated) ∧
      Row.of memory = restoredRow designated ∧
      ((∃ old, session.state.db.memories id = some old ∧
          next = Session.refresh { session with state } look ∧
          state.db.memories = Function.update session.state.db.memories id (some memory)) ∨
        session.state.db.memories id = none ∧
          next = Session.refresh { session with state, added := session.added ++ [(id, memory)] } look ∧
          state.db.memories = session.state.db.memories) := by
  rw [Index.restore] at returned
  by_cases unflushed : session.recorded ≤ historyId
  · rw [if_pos unflushed] at returned
    cases returned
  · rw [if_neg unflushed] at returned
    obtain ⟨⟨id, designated⟩, named, returned⟩ := bind_eq_ok.1 returned
    dsimp only at returned
    obtain ⟨memory, applied, returned⟩ := bind_eq_ok.1 returned
    have row := row_applySnapshot applied
    cases known : session.state.db.memories id with
    | some old =>
      rw [known] at returned
      cases returned
      exact ⟨id, designated, memory, _, named, row, .inl ⟨old, known, rfl, rfl⟩⟩
    | none =>
      rw [known] at returned
      cases returned
      exact ⟨id, designated, memory, _, named, row, .inr ⟨known, rfl, rfl⟩⟩

omit [DateData] in
theorem service_restore_eq (state : Service.State) (historyId : Nat) (actor : String) :
    Service.restore state historyId actor = (target state.db.history historyId).bind fun named =>
      (applySnapshot named.1 (restorable state.db named.1 named.2).1 named.2).map fun memory =>
        change state named.1 "restore" actor (some (restorable state.db named.1 named.2).2) memory := by
  rw [Service.restore, target]
  cases state.db.history.get? historyId with
  | none => rfl
  | some record =>
    dsimp only
    cases record.designated with
    | none => rfl
    | some designated =>
      dsimp only
      by_cases empty : designated.id = ""
      · rw [if_pos empty, if_pos empty]
        rfl
      · rw [if_neg empty, if_neg empty]
        cases Uuid.ofText designated.id with
        | none => rfl
        | some id =>
          cases applied : applySnapshot id (restorable state.db id designated).1 designated with
          | error raised => simp [applied, bind, Except.bind, Except.map]
          | ok memory => simp [applied, bind, Except.bind, Except.map, pure, Except.pure]

omit [DateData] in
/-- A restore does in the session what it does to the rows, but that a memory without a row waits for one. -/
theorem restore_service {historyId : Nat} {actor : String} (returned : Index.restore session historyId actor look = .ok next) :
    ∃ after, Service.restore session.state historyId actor = .ok after ∧ (next.state = after ∨
      ∃ id memory, (id, memory) ∈ next.added ∧ next.state.file = after.file ∧ next.state.db.history = after.db.history ∧
        after.db.memories = Function.update next.state.db.memories id (some memory)) := by
  rw [Index.restore] at returned
  by_cases unflushed : session.recorded ≤ historyId
  · rw [if_pos unflushed] at returned
    cases returned
  · rw [if_neg unflushed] at returned
    obtain ⟨⟨id, designated⟩, named, returned⟩ := bind_eq_ok.1 returned
    have whole := service_restore_eq session.state historyId actor
    rw [named] at whole
    simp only [Except.bind] at whole
    dsimp only at returned
    generalize restorable session.state.db id designated = found at whole returned
    obtain ⟨memory, applied, returned⟩ := bind_eq_ok.1 returned
    rw [applied] at whole
    refine ⟨change session.state id "restore" actor (some found.2) memory, whole, ?_⟩
    cases known : session.state.db.memories id with
    | some old =>
      rw [known] at returned
      cases returned
      exact .inl rfl
    | none =>
      rw [known] at returned
      cases returned
      exact .inr ⟨id, memory, List.mem_append_right _ List.mem_cons_self, rfl, rfl, rfl⟩

/-! Reading the file. -/

/-- The columns of a memory after an entry of the file has been read. -/
def readEntry (id : Uuid) (row : Row) (entry : Uuid × List Char) : Row :=
  if entry.1 = id then
    match parseMemoryLine entry.2 with
    | some (fields, _) =>
        let status := orText ((fields.lookup "status").getD "") (orText row.status "active")
        ⟨status ∈ expiredStatuses, status⟩
    | none => row
  else row

def readRow (read : List (Uuid × List Char)) (id : Uuid) (row : Row) : Row := read.foldl (readEntry id) row

omit [DateData] in
theorem row_sync (now : Nat → String) (id : Uuid) :
    ((Service.syncFromMemoryFile session.state now).2.db.memories id).map Row.of =
      (session.state.db.memories id).map (fun memory => readRow (entries session.state.file) id (Row.of memory)) := by
  have fold : ∀ (read : List (Uuid × List Char)) (synced : Synced),
      ((read.foldl (syncEntry now) synced).db.memories id).map Row.of =
        (synced.db.memories id).map fun memory => readRow read id (Row.of memory) := by
    intro read
    induction read with
    | nil => exact fun synced => rfl
    | cons entry rest ih =>
      intro synced
      rw [List.foldl_cons, ih]
      show ((syncEntry now synced entry).db.memories id).map (fun memory => readRow rest id (Row.of memory)) =
        (synced.db.memories id).map fun memory => readRow rest id (readEntry id (Row.of memory) entry)
      rw [syncEntry]
      by_cases here : entry.1 = id
      · subst here
        cases known : synced.db.memories entry.1 with
        | none => simp only [known, Option.map_none]
        | some memory =>
          cases parsed : parseMemoryLine entry.2 with
          | none => simp only [known, Option.map_some, readEntry, parsed, if_true]
          | some read =>
            simp only [put_memories_self, Option.map_some, readEntry, parsed, if_true]
            rfl
      · have other : ∀ row, readEntry id row entry = row := fun row => if_neg here
        simp only [other]
        cases known : synced.db.memories entry.1 with
        | none => rfl
        | some memory =>
          cases parsed : parseMemoryLine entry.2 with
          | none => rfl
          | some read =>
            dsimp only
            rw [put_memories_ne _ _ _ (Ne.symm here)]
  rw [sync_eq_foldl]
  exact fold _ _

omit [DateData] in
theorem isSome_sync (now : Nat → String) (id : Uuid) :
    ((Service.syncFromMemoryFile session.state now).2.db.memories id).isSome = (session.state.db.memories id).isSome := by
  have rows := congrArg Option.isSome (@row_sync _ _ session _ now id)
  rwa [Option.isSome_map, Option.isSome_map] at rows

omit [DateData] in
/-- The memories in use after the file has been read. -/
theorem active_sync (now : Nat → String) (clock : Int) (id : Uuid) :
    Active { session with state := (Service.syncFromMemoryFile session.state now).2 } clock id ↔
      (∃ memory, session.state.db.memories id = some memory ∧
        inactive (readRow (entries session.state.file) id (Row.of memory)) (session.validTo id) clock = false) ∨
      ∃ memory, (id, memory) ∈ session.added ∧ inactive (Row.of memory) none clock = false := by
  have rows := @row_sync _ _ session _ now id
  constructor
  · rintro ⟨_, _, ⟨memory, found, rfl, rfl⟩ | ⟨memory, waiting, rfl, rfl⟩, live⟩
    · rw [found, Option.map_some] at rows
      obtain ⟨old, known, same⟩ := Option.map_eq_some_iff.1 rows.symm
      exact .inl ⟨old, known, by rw [same]; exact live⟩
    · exact .inr ⟨memory, waiting, live⟩
  · rintro (⟨old, known, live⟩ | ⟨memory, waiting, live⟩)
    · rw [known, Option.map_some] at rows
      obtain ⟨memory, found, same⟩ := Option.map_eq_some_iff.1 rows
      exact ⟨_, _, .inl ⟨memory, found, rfl, rfl⟩, by rw [same]; exact live⟩
    · exact ⟨_, _, .inr ⟨memory, waiting, rfl, rfl⟩, live⟩

/-! Every operation. -/

variable [FloatSum] {action : Index.Action}

theorem perform_coherent (coherent : Coherent session) (returned : Index.perform session action = .ok next) : Coherent next := by
  cases action with
  | create drawn now request look =>
    obtain ⟨flushed, clean, rfl⟩ := create_ok returned
    exact ⟨clean.coherent.rows, clean.coherent.fresh⟩
  | supersede drawn now id replacement look =>
    obtain ⟨flushed, clean, rfl⟩ := supersede_ok returned
    exact ⟨clean.coherent.rows, clean.coherent.fresh⟩
  | archive id look =>
    obtain ⟨memory, state, known, changed, rfl⟩ := archive_ok returned
    have kept := coherent.congr (isSome_put known changed)
    exact ⟨kept.rows, kept.fresh⟩
  | markVerified id delta =>
    obtain ⟨memory, verified, state, known, changed, rfl⟩ := markVerified_ok returned
    exact coherent.congr (isSome_put known changed)
  | sync now look =>
    have kept := coherent.congr (isSome_sync now)
    rw [Index.perform, Except.ok.injEq, Index.syncFromMemoryFile] at returned
    dsimp only at returned
    split at returned
    next =>
      rw [← returned]
      exact kept
    next =>
      rw [← returned]
      exact ⟨kept.rows, kept.fresh⟩
  | restore historyId actor look =>
    obtain ⟨id, designated, memory, state, _, _, ⟨old, known, rfl, changed⟩ | ⟨absent, rfl, same⟩⟩ := restore_ok returned
    · have kept := coherent.congr (isSome_put known changed)
      exact ⟨kept.rows, kept.fresh⟩
    · constructor
      · intro id
        show _ ↔ (state.db.memories id).isSome
        rw [same]
        exact coherent.rows id
      · intro row member
        show state.db.memories row.1 = none
        rw [same]
        rcases List.mem_append.1 member with old | new
        · exact coherent.fresh row old
        · rw [List.mem_singleton.1 new]
          exact absent
  | flush => exact (flush_clean returned).coherent
  | editFile text =>
    cases returned
    exact ⟨coherent.rows, coherent.fresh⟩

/-- What an operation reads when it refreshes the index. -/
def lookOf (session : Session) : Index.Action → Option Look
  | .create _ _ _ look | .supersede _ _ _ _ look | .archive _ look | .restore _ _ look => some look
  | .sync now look => if (Service.syncFromMemoryFile session.state now).1.1 = 0 then none else some look
  | _ => none

/-- Each memory that the operation leaves in use was visible to the query before. -/
def Seen (session : Session) : Index.Action → Prop
  | .archive id look => ∀ other, other ≠ id → Active session look.now other → Visible session.stored other
  | .sync _ look =>
      (∀ id memory, session.state.db.memories id = some memory →
        inactive (readRow (entries session.state.file) id (Row.of memory)) (session.validTo id) look.now = false →
          Visible session.stored id) ∧
      ∀ row ∈ session.added, inactive (Row.of row.2) none look.now = true
  | .restore historyId _ look => ∀ id designated, target session.state.db.history historyId = .ok (id, designated) →
      (∀ other, other ≠ id ∨ session.state.db.memories id = none → Active session look.now other →
        Visible session.stored other) ∧
      (inactive (restoredRow designated) ((session.state.db.memories id).bind fun _ => session.validTo id) look.now = false →
        Visible session.stored id)
  | _ => True

omit [FloatData] [DateData] [FloatSum] in
theorem seen_restore_iff {historyId : Nat} {actor : String} {id : Uuid} {designated : Snapshot}
    (named : target session.state.db.history historyId = .ok (id, designated)) :
    Seen session (.restore historyId actor look) ↔
      (∀ other, other ≠ id ∨ session.state.db.memories id = none → Active session look.now other →
        Visible session.stored other) ∧
      (inactive (restoredRow designated) ((session.state.db.memories id).bind fun _ => session.validTo id) look.now = false →
        Visible session.stored id) := by
  constructor
  · intro seen
    exact seen id designated named
  · intro seen id' designated' named'
    rw [named, Except.ok.injEq, Prod.mk.injEq] at named'
    obtain ⟨rfl, rfl⟩ := named'
    exact seen

/-- A refresh of a coherent session, in terms of the operation in front of it. -/
theorem perform_mirrors_iff (coherent : Coherent session) (returned : Index.perform session action = .ok next)
    (refreshes : lookOf session action = some look) (selects : Selects next.stored look.selected) (few : Few next.stored) :
    Mirrors next look.now ↔ Seen session action := by
  cases action with
  | create drawn now request other =>
    obtain ⟨flushed, clean, rfl⟩ := create_ok returned
    cases refreshes
    rw [mirrors_refresh_iff clean.coherent selects few]
    exact iff_of_true (fun id live => visible_of_clean clean live) trivial
  | supersede drawn now id replacement other =>
    obtain ⟨flushed, clean, rfl⟩ := supersede_ok returned
    cases refreshes
    rw [mirrors_refresh_iff clean.coherent selects few]
    exact iff_of_true (fun id live => visible_of_clean clean live) trivial
  | archive id other =>
    obtain ⟨memory, state, known, changed, rfl⟩ := archive_ok returned
    cases refreshes
    have gone : inactive (Row.of (retired memory "archived")) (session.validTo id) look.now = true := rfl
    rw [mirrors_refresh_iff (coherent.congr (isSome_put known changed)) selects few]
    simp only [active_put coherent known changed, gone, Bool.true_eq_false, and_false, or_false, and_imp]
    rfl
  | sync now other =>
    rw [lookOf] at refreshes
    split at refreshes
    next => cases refreshes
    next updated =>
      cases refreshes
      rw [Index.perform, Except.ok.injEq, Index.syncFromMemoryFile] at returned
      dsimp only at returned
      rw [if_neg updated] at returned
      subst returned
      rw [mirrors_refresh_iff (coherent.congr (isSome_sync now)) selects few]
      simp only [active_sync]
      constructor
      · intro seen
        refine ⟨fun id memory known live => seen id (.inl ⟨memory, known, live⟩), ?_⟩
        intro row waiting
        by_contra live
        obtain ⟨found, stored, _⟩ := seen row.1 (.inr ⟨row.2, waiting, by simpa using live⟩)
        have there := (coherent.rows row.1).1 (by rw [stored, Option.isSome_some])
        rw [coherent.fresh row waiting] at there
        cases there
      · rintro ⟨read, waiting⟩ id (⟨memory, known, live⟩ | ⟨memory, member, live⟩)
        · exact read id memory known live
        · rw [waiting _ member] at live
          cases live
  | restore historyId actor other =>
    cases refreshes
    obtain ⟨id, designated, memory, state, named, row, ⟨old, known, rfl, changed⟩ | ⟨absent, rfl, same⟩⟩ := restore_ok returned
    · rw [mirrors_refresh_iff (coherent.congr (isSome_put known changed)) selects few, seen_restore_iff named, known]
      simp only [active_put coherent known changed, row]
      constructor
      · intro seen
        refine ⟨fun other apart live => seen other (.inl ⟨apart.resolve_right (by simp), live⟩), ?_⟩
        exact fun live => seen id (.inr ⟨rfl, live⟩)
      · rintro ⟨others, own⟩ other (⟨different, live⟩ | ⟨rfl, live⟩)
        · exact others other (.inl different) live
        · exact own live
    · have after := perform_coherent coherent returned
      have kept : Coherent { session with state, added := session.added ++ [(id, memory)] } := ⟨after.rows, after.fresh⟩
      rw [mirrors_refresh_iff kept selects few, seen_restore_iff named, absent]
      simp only [active_added same, row]
      constructor
      · intro seen
        exact ⟨fun other _ live => seen other (.inl live), fun live => seen id (.inr ⟨rfl, live⟩)⟩
      · rintro ⟨others, own⟩ other (live | ⟨rfl, live⟩)
        · exact others other (.inr trivial) live
        · exact own live
  | markVerified id delta => cases refreshes
  | flush => cases refreshes
  | editFile text => cases refreshes

/-- After every operation that refreshes it, in every session, the index holds the memories in use, exactly when the
operation leaves none in use that the query has not seen. -/
theorem search_mirrors_iff (state : Service.State) (validTo : Uuid → Option DateTime) (actions : List Index.Action)
    (ran : Runs.run Index.step (Session.opened state validTo) actions = some session)
    (taken : Index.step session action = some next) (refreshes : lookOf session action = some look)
    (selects : Selects next.stored look.selected) (few : Few next.stored) :
    Mirrors next look.now ↔ Seen session action := by
  have clean : Clean (Session.opened state validTo) := ⟨rfl, fun id => rfl⟩
  have coherent : Coherent session := by
    refine Runs.run_invariant Coherent ?_ clean.coherent ran
    intro first done second holds stepped
    exact perform_coherent holds (toOption_eq_some.1 stepped)
  exact perform_mirrors_iff coherent (toOption_eq_some.1 taken) refreshes selects few

end Operations

section Demo
attribute [local instance] CharData.ascii FloatData.decimal UuidData.plain FloatSum.exact DateData.undated

private def teaId : Uuid := ⟨255⟩

private def teaWish : CreateRequest := { kind := "agent_note", content := "tea" }

/-- A memory is created and archived. -/
private def archivedTea : Option Service.State :=
  Runs.run Service.step ⟨Database.empty, "# MEMORY\n"⟩ [.create teaId "" teaWish, .archive teaId]

/-- A later session goes back to the memory as it was before. The query gives nothing. -/
private def restoring : Index.Action := .restore 1 "admin" ⟨0, []⟩

private theorem alone_archivedTea {last : Service.State} (ran : archivedTea = some last) {id : Uuid} (other : id ≠ teaId) :
    last.db.memories id = none := by
  obtain ⟨first, made, ran⟩ := Runs.run_cons_eq_some.1 ran
  obtain ⟨second, archived, ran⟩ := Runs.run_cons_eq_some.1 ran
  cases ran
  have created : first.db.memories id = none := by
    rw [Service.step, Service.perform] at made
    cases outcome : Service.create ⟨Database.empty, "# MEMORY\n"⟩ teaId "" teaWish with
    | error raised =>
      rw [outcome] at made
      cases made
      rfl
    | ok next =>
      rw [outcome] at made
      cases made
      rw [(Effects.create_ok outcome).2.1, created_alone (by simp [teaWish]), memories_recordHistory,
        put_memories_ne _ _ _ other]
      rfl
  rw [Service.step, Service.perform] at archived
  cases outcome : Service.archive first teaId with
  | error raised =>
    rw [outcome] at archived
    cases archived
    exact created
  | ok next =>
    rw [outcome] at archived
    cases archived
    obtain ⟨memory, _, rfl⟩ := Effects.archive_ok outcome
    rw [change, memories_recordHistory, put_memories_ne _ _ _ other]
    exact created

private theorem restoring_runs : ∃ last next, archivedTea = some last ∧
    Index.step (Session.opened last fun _ => none) restoring = some next ∧ Selects next.stored [] ∧ Few next.stored ∧
      Active next 0 teaId ∧ next.index = [] := by
  have evaluated : (archivedTea.bind fun last => (last.db.memories teaId).bind fun memory =>
      (Index.step (Session.opened last fun _ => none) restoring).bind fun next =>
        (next.state.db.memories teaId).map fun restored => decide (Row.of memory = ⟨true, "archived"⟩ ∧
          inactive (Row.of restored) (next.validTo teaId) 0 = false ∧ next.index = [])) = some true := by
    decide +kernel
  obtain ⟨last, ran, evaluated⟩ := Option.bind_eq_some_iff.1 evaluated
  obtain ⟨memory, known, evaluated⟩ := Option.bind_eq_some_iff.1 evaluated
  obtain ⟨next, taken, evaluated⟩ := Option.bind_eq_some_iff.1 evaluated
  obtain ⟨restored, found, evaluated⟩ := Option.map_eq_some_iff.1 evaluated
  obtain ⟨row, live, empty⟩ := of_decide_eq_true evaluated
  have stored : next.stored = fun id => (last.db.memories id).map Row.of := by
    obtain ⟨_, _, _, _, _, _, ⟨_, _, rfl, _⟩ | ⟨_, rfl, _⟩⟩ := restore_ok (toOption_eq_some.1 taken)
    · rfl
    · rfl
  have archived : ∀ id row, next.stored id = some row → row.archived = true := by
    intro id shown there
    rw [stored] at there
    dsimp only at there
    by_cases here : id = teaId
    · rw [here, known, Option.map_some, row, Option.some.injEq] at there
      rw [← there]
    · rw [alone_archivedTea ran here] at there
      cases there
  refine ⟨last, next, ran, taken, ⟨List.nodup_nil, by decide, fun id member => (by cases member), ?_⟩, ⟨[], by decide, ?_⟩,
    ⟨_, _, .inl ⟨restored, found, rfl, rfl⟩, live⟩, empty⟩
  · rintro _ id ⟨shown, there, inUse⟩
    rw [Row.inUse, archived id shown there] at inUse
    cases inUse
  · intro id shown there unarchived
    rw [archived id shown there] at unarchived
    cases unarchived

theorem index_mirrors_restored : ∃ last next, archivedTea = some last ∧
    Index.step (Session.opened last fun _ => none) restoring = some next ∧
      (Mirrors next 0 ↔ Seen (Session.opened last fun _ => none) restoring) := by
  obtain ⟨last, next, ran, taken, selects, few, _⟩ := restoring_runs
  exact ⟨last, next, ran, taken, search_mirrors_iff last (fun _ => none) [] rfl taken rfl selects few⟩

/-- The restored memory is in use, and the index does not have it. -/
theorem restored_not_indexed : ∃ last next, archivedTea = some last ∧
    Index.step (Session.opened last fun _ => none) restoring = some next ∧ Selects next.stored [] ∧ Few next.stored ∧
      Active next 0 teaId ∧ ¬Mirrors next 0 := by
  obtain ⟨last, next, ran, taken, selects, few, active, empty⟩ := restoring_runs
  refine ⟨last, next, ran, taken, selects, few, active, ?_⟩
  intro mirrors
  have member := (mirrors teaId).2 active
  rw [empty] at member
  cases member

end Demo

end SoulClaw.Memories.Indexed
