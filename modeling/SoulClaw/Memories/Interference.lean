import SoulClaw.Memories.Format
import Mathlib.Data.List.Forall2
import Mathlib.Data.Option.Basic

/-! Two runs of the memory service that differ in the content of one memory. As long as no content is taken
for a part of the file's structure, everything but the contents of this memory stays the same. -/

namespace SoulClaw.Memories.Interference
open Foundation File Service Effects Entries Format Lines

/-! What the contents of one memory can make different. -/

section Relations
variable [CharData]

/-- Two contents that are the same, or that may differ and both show. -/
def Alike (varied : Prop) (first second : String) : Prop :=
  first = second ∨ varied ∧ Shows first ∧ Shows second

/-- Two rows of a memory. Those of the memory `a` may differ in their contents. -/
def RowAlike (a id : Uuid) (first second : Memory) : Prop :=
  ∃ content, second = { first with content } ∧ Alike (id = a) first.content content

def SnapshotAlike [UuidData] (a : Uuid) (first second : Snapshot) : Prop :=
  ∃ content, second = { first with content } ∧ Alike (Uuid.ofText first.id = some a) first.content content

def RecordAlike [UuidData] (a : Uuid) (first second : MemoryHistory) : Prop :=
  ∃ before after, second = { first with before, after } ∧ Option.Rel (SnapshotAlike a) first.before before ∧
    Option.Rel (SnapshotAlike a) first.after after

/-- Two entries of a memory in the file. -/
def EntryAlike (a : Uuid) (first second : Uuid × List Char) : Prop :=
  second.1 = first.1 ∧ (parseMemoryLine first.2 = parseMemoryLine second.2 ∨ first.1 = a ∧
    ∃ fields old new, parseMemoryLine first.2 = some (fields, old) ∧ parseMemoryLine second.2 = some (fields, new) ∧
      Shows old ∧ Shows new)

structure DbAlike [UuidData] (a : Uuid) (first second : Database) : Prop where
  rows : ∀ id, Option.Rel (RowAlike a id) (first.memories id) (second.memories id)
  history : List.Forall₂ (RecordAlike a) first.history.rows second.history.rows

structure FileAlike [UuidData] (a : Uuid) (first second : String) : Prop where
  left : Tidy first
  right : Tidy second
  entries : List.Forall₂ (EntryAlike a) (entries first) (entries second)

/-- States that are alike. The rows of the entries in the file exist. -/
structure StateAlike [UuidData] (a : Uuid) (first second : State) : Prop where
  db : DbAlike a first.db second.db
  file : FileAlike a first.file second.file
  listed : ∀ id ∈ (entries first.file).map Prod.fst, (first.db.memories id).isSome = true

variable {varied : Prop} {a id : Uuid}

theorem shows_ne_empty {content : String} (shows' : Shows content) : content ≠ "" := by
  rintro rfl
  exact shows' rfl

theorem Alike.orText {first second old new : String} (front : Alike varied first second) (back : Alike varied old new) :
    Alike varied (orText first old) (orText second new) := by
  have kept : ∀ {text fallback}, Shows text → File.orText text fallback = text :=
    fun shows' => by rw [File.orText, if_neg (shows_ne_empty shows')]
  rcases front with rfl | ⟨may, shown, shown'⟩
  · by_cases empty : first = ""
    · rw [File.orText, File.orText, if_pos empty, if_pos empty]
      exact back
    · rw [File.orText, File.orText, if_neg empty, if_neg empty]
      exact .inl rfl
  · rw [kept shown, kept shown']
    exact .inr ⟨may, shown, shown'⟩

theorem RowAlike.refl (row : Memory) : RowAlike a id row row := ⟨row.content, rfl, .inl rfl⟩

theorem SnapshotAlike.refl [UuidData] (snapshot : Snapshot) : SnapshotAlike a snapshot snapshot :=
  ⟨snapshot.content, rfl, .inl rfl⟩

theorem RowAlike.snapshot [UuidData] {first second : Memory} (alike : RowAlike a id first second) :
    SnapshotAlike a (snapshot id first) (snapshot id second) := by
  obtain ⟨content, rfl, may⟩ := alike
  refine ⟨content, rfl, may.imp_right fun ⟨own, shown⟩ => ⟨?_, shown⟩⟩
  rw [Service.snapshot, Uuid.ofText_str, own]

/-- Rows that are alike have entries that are alike. -/
theorem RowAlike.entry [FloatData] {first second : Memory} (alike : RowAlike a id first second) :
    EntryAlike a (id, entryLine first) (id, entryLine second) := by
  obtain ⟨content, rfl, rfl | ⟨own, shown, shown'⟩⟩ := alike
  · exact ⟨rfl, .inl rfl⟩
  · have read := @parse_alike _ _ first { first with content } rfl shown shown'
    exact ⟨rfl, read.imp_right fun read => ⟨own, read⟩⟩

/-- What an entry makes of a row. -/
theorem RowAlike.sync [FloatData] {first second : Memory} (alike : RowAlike a id first second) {old new : String}
    (read : Alike (id = a) old new) (fields : Fields) (now : String) :
    RowAlike a id (syncMemory id fields old now first) (syncMemory id fields new now second) := by
  obtain ⟨content, rfl, may⟩ := alike
  exact ⟨_, rfl, read.orText may⟩

end Relations

/-! What the writes keep. -/

section Writing
variable [CharData] [FloatData] [UuidData] {a id : Uuid} {first second : State} {old new : Memory}

omit [FloatData] in
theorem DbAlike.put {first second : Database} (alike : DbAlike a first second) (row : RowAlike a id old new) :
    DbAlike a (first.put id old) (second.put id new) where
  rows other := by
    by_cases here : other = id
    · subst here
      rw [put_memories_self, put_memories_self]
      exact .some row
    · rw [put_memories_ne _ _ _ here, put_memories_ne _ _ _ here]
      exact alike.rows other
  history := alike.history

omit [FloatData] in
theorem DbAlike.record {first second : Database} {before before' after after' : Option Snapshot}
    (alike : DbAlike a first second) (former : Option.Rel (SnapshotAlike a) before before')
    (latter : Option.Rel (SnapshotAlike a) after after') (id : Uuid) (action actor : String) :
    DbAlike a (first.recordHistory id action before after actor)
      (second.recordHistory id action before' after' actor) where
  rows := alike.rows
  history := by
    rw [rows_recordHistory, rows_recordHistory]
    exact List.rel_append alike.history (.cons ⟨before', after', rfl, former, latter⟩ .nil)

theorem FileAlike.rewrite {first second : String} (alike : FileAlike a first second) (row : RowAlike a id old new)
    (contained : Contained old) (contained' : Contained new) :
    FileAlike a (rewriteMemoryFileEntry first id old) (rewriteMemoryFileEntry second id new) where
  left := tidy_rewrite alike.left contained
  right := tidy_rewrite alike.right contained'
  entries := by
    rw [entries_rewrite alike.left contained, entries_rewrite alike.right contained', setEntry, setEntry,
      List.forall₂_map_left_iff, List.forall₂_map_right_iff]
    apply alike.entries.imp
    intro entry other same
    by_cases here : entry.1 = id
    · rw [if_pos here, if_pos (same.1.trans here)]
      exact row.entry
    · rw [if_neg here, if_neg (same.1 ▸ here)]
      exact same

omit [FloatData] in
theorem FileAlike.ids {first second : String} (alike : FileAlike a first second) :
    (Entries.entries second).map Prod.fst = (Entries.entries first).map Prod.fst := by
  have same : ∀ {first second : List (Uuid × List Char)}, List.Forall₂ (EntryAlike a) first second →
      second.map Prod.fst = first.map Prod.fst := by
    intro first second alike
    induction alike with
    | nil => rfl
    | cons entry rest ih => rw [List.map_cons, List.map_cons, entry.1, ih]
  exact same alike.entries

theorem FileAlike.append {first second : String} (alike : FileAlike a first second) (row : RowAlike a id old new)
    (fresh : id ∉ (Entries.entries first).map Prod.fst) (free : Text.contains first (marker id) = false)
    (free' : Text.contains second (marker id) = false) (contained : Contained old) (contained' : Contained new) :
    FileAlike a (appendToMemoryFile first id old) (appendToMemoryFile second id new) where
  left := by
    apply tidy_append alike.left free _ contained
    rintro entry member rfl
    exact fresh (List.mem_map_of_mem member)
  right := by
    apply tidy_append alike.right free' _ contained'
    rintro entry member rfl
    exact fresh (alike.ids ▸ List.mem_map_of_mem member)
  entries := by
    rw [entries_append free contained, entries_append free' contained']
    exact List.rel_append alike.entries (.cons row.entry .nil)

omit [FloatData] in
theorem StateAlike.put (alike : StateAlike a first second) (row : RowAlike a id old new) :
    StateAlike a { first with db := first.db.put id old } { second with db := second.db.put id new } where
  db := alike.db.put row
  file := alike.file
  listed other member := by
    by_cases here : other = id
    · rw [here, put_memories_self]
      rfl
    · rw [put_memories_ne _ _ _ here]
      exact alike.listed other member

omit [FloatData] in
theorem StateAlike.record {before before' after after' : Option Snapshot} (alike : StateAlike a first second)
    (former : Option.Rel (SnapshotAlike a) before before') (latter : Option.Rel (SnapshotAlike a) after after')
    (id : Uuid) (action actor : String) :
    StateAlike a { first with db := first.db.recordHistory id action before after actor }
      { second with db := second.db.recordHistory id action before' after' actor } where
  db := alike.db.record former latter id action actor
  file := alike.file
  listed := alike.listed

theorem StateAlike.rewrite (alike : StateAlike a first second) (row : RowAlike a id old new)
    (contained : Contained old) (contained' : Contained new) :
    StateAlike a { first with file := rewriteMemoryFileEntry first.file id old }
      { second with file := rewriteMemoryFileEntry second.file id new } where
  db := alike.db
  file := alike.file.rewrite row contained contained'
  listed := by
    show ∀ other ∈ (Entries.entries (rewriteMemoryFileEntry first.file id old)).map Prod.fst, _
    rw [entries_rewrite alike.file.left contained, fst_setEntry]
    exact alike.listed

/-- A new row, and its entry at the end of the file. -/
theorem StateAlike.append (alike : StateAlike a first second) (row : RowAlike a id old new)
    (fresh : id ∉ (Entries.entries first.file).map Prod.fst) (known : (first.db.memories id).isSome = true)
    (free : Text.contains first.file (marker id) = false) (free' : Text.contains second.file (marker id) = false)
    (contained : Contained old) (contained' : Contained new) :
    StateAlike a { first with file := appendToMemoryFile first.file id old }
      { second with file := appendToMemoryFile second.file id new } where
  db := alike.db
  file := alike.file.append row fresh free free' contained contained'
  listed := by
    show ∀ other ∈ (Entries.entries (appendToMemoryFile first.file id old)).map Prod.fst, _
    rw [entries_append free contained, List.map_append]
    intro other member
    rcases List.mem_append.1 member with inside | last
    · exact alike.listed other inside
    · rw [List.mem_singleton.1 last]
      exact known

theorem StateAlike.change {before before' : Option Snapshot} (alike : StateAlike a first second)
    (row : RowAlike a id old new) (former : Option.Rel (SnapshotAlike a) before before') (contained : Contained old)
    (contained' : Contained new) (action actor : String) :
    StateAlike a (change first id action actor before old) (change second id action actor before' new) :=
  ((alike.put row).record former (.some row.snapshot) id action actor).rewrite row contained contained'

end Writing

/-! The operations return alike, or raise both. -/

inductive Outcomes {First Second : Type} (relation : First → Second → Prop) :
    Except PyException First → Except PyException Second → Prop
  | raised (first second : PyException) : Outcomes relation (.error first) (.error second)
  | returned {first : First} {second : Second} (alike : relation first second) :
      Outcomes relation (.ok first) (.ok second)

section Outcomes
variable {First Second Third Fourth : Type} {relation : First → Second → Prop} {later : Third → Fourth → Prop}

theorem Outcomes.bind {first : Except PyException First} {second : Except PyException Second}
    {next : First → Except PyException Third} {next' : Second → Except PyException Fourth}
    (outcomes : Outcomes relation first second)
    (continues : ∀ value value', first = .ok value → second = .ok value' → relation value value' →
      Outcomes later (next value) (next' value')) :
    Outcomes later (first >>= next) (second >>= next') := by
  cases outcomes with
  | raised raised raised' => exact .raised raised raised'
  | returned alike => exact continues _ _ rfl rfl alike

theorem rel_cases {relation : First → Second → Prop} {first : Option First} {second : Option Second}
    (related : Option.Rel relation first second) : first = none ∧ second = none ∨
      ∃ value value', first = some value ∧ second = some value' ∧ relation value value' := by
  cases related with
  | none => exact .inl ⟨rfl, rfl⟩
  | some alike => exact .inr ⟨_, _, rfl, rfl, alike⟩

theorem getElem?_related {firsts : List First}
    {seconds : List Second} (related : List.Forall₂ relation firsts seconds) (place : Nat) :
    Option.Rel relation firsts[place]? seconds[place]? := by
  induction related generalizing place with
  | nil => exact .none
  | cons same rest ih =>
    cases place with
    | zero => exact .some same
    | succ place => exact ih place

end Outcomes

section Operations
variable [CharData] [FloatData] [UuidData] {a drawn id : Uuid} {now : String} {first second : State}

/-- Requests to create a memory. -/
def RequestAlike (a drawn : Uuid) (first second : CreateRequest) : Prop :=
  ∃ content, second = { first with content } ∧ Alike (drawn = a) first.content content

/-- Requests to replace a memory by the one that is drawn. -/
def ReplacementAlike (a drawn : Uuid) (first second : Replacement) : Prop :=
  ∃ content, second = { first with content } ∧ Alike (drawn = a) first.content content

variable {wish wish' : CreateRequest} {replacement replacement' : Replacement}

omit [FloatData] [UuidData] in
theorem RequestAlike.row (alike : RequestAlike a drawn wish wish') :
    RowAlike a drawn (newMemory drawn now wish) (newMemory drawn now wish') := by
  obtain ⟨content, rfl, may⟩ := alike
  exact ⟨content, rfl, may⟩

omit [FloatData] [UuidData] in
theorem RowAlike.retired {old new : Memory} (alike : RowAlike a id old new) (status : String) :
    RowAlike a id (retired old status) (retired new status) := by
  obtain ⟨content, rfl, may⟩ := alike
  exact ⟨content, rfl, may⟩

omit [FloatData] [UuidData] in
theorem ReplacementAlike.request {old new : Memory} (alike : ReplacementAlike a drawn replacement replacement')
    (row : RowAlike a id old new) :
    RequestAlike a drawn (replacing id old replacement) (replacing id new replacement') := by
  obtain ⟨content, rfl, may⟩ := alike
  obtain ⟨text, rfl, _⟩ := row
  exact ⟨content, rfl, may⟩

omit [FloatData] in
theorem StateAlike.closePrevious (alike : StateAlike a first second) (source : String) (id : Uuid) :
    StateAlike a { first with db := closePrevious first.db source id }
      { second with db := closePrevious second.db source id } := by
  rcases rel_cases (alike.db.rows id) with ⟨unknown, unknown'⟩ | ⟨old, new, known, known', row⟩
  · rw [closePrevious_of_none unknown, closePrevious_of_none unknown']
    exact alike
  · rw [closePrevious_of_some known, closePrevious_of_some known']
    exact (alike.record (.some row.snapshot) .none id _ source).put (row.retired "superseded")

omit [FloatData] in
theorem StateAlike.created (alike : StateAlike a first second) (wanted : RequestAlike a drawn wish wish') :
    StateAlike a { first with db := created first.db drawn now wish }
      { second with db := created second.db drawn now wish' } := by
  have row : RowAlike a drawn (newMemory drawn now wish) (newMemory drawn now wish') := wanted.row
  have same : wish'.supersedesId = wish.supersedesId ∧ wish'.source = wish.source := by
    obtain ⟨content, rfl, _⟩ := wanted
    exact ⟨rfl, rfl⟩
  rw [Service.created, Service.created, same.1, same.2]
  cases wish.supersedesId with
  | none => exact (alike.put row).record .none (.some row.snapshot) drawn "create" wish.source
  | some old =>
    exact ((alike.closePrevious wish.source old).put row).record .none (.some row.snapshot) drawn "create"
      wish.source

theorem create_alike (alike : StateAlike a first second) (wanted : RequestAlike a drawn wish wish')
    (free : Text.contains first.file (marker drawn) = false) (free' : Text.contains second.file (marker drawn) = false)
    (contained : Contained (newMemory drawn now wish)) (contained' : Contained (newMemory drawn now wish')) :
    Outcomes (StateAlike a) (create first drawn now wish) (create second drawn now wish') := by
  rw [create, create]
  rcases rel_cases (alike.db.rows drawn) with ⟨unknown, unknown'⟩ | ⟨old, new, known, known', row⟩
  · rw [unknown, unknown', if_neg (by simp), if_neg (by simp)]
    apply Outcomes.returned
    have fresh : drawn ∉ (entries first.file).map Prod.fst := by
      intro member
      have listed := alike.listed drawn member
      rw [unknown] at listed
      cases listed
    have stored : ((Service.created first.db drawn now wish).memories drawn).isSome = true := by
      rw [Service.created, memories_recordHistory, put_memories_self]
      rfl
    exact (alike.created wanted).append wanted.row fresh stored free free' contained contained'
  · rw [known, known', if_pos (by simp), if_pos (by simp)]
    exact .raised _ _

theorem supersede_alike (alike : StateAlike a first second)
    (wanted : ReplacementAlike a drawn replacement replacement')
    (free : Text.contains first.file (marker drawn) = false) (free' : Text.contains second.file (marker drawn) = false)
    (contained : ∀ previous, first.db.memories id = some previous → Contained (replacedRow previous drawn) ∧
      Contained (newMemory drawn now (replacing id previous replacement)))
    (contained' : ∀ previous, second.db.memories id = some previous → Contained (replacedRow previous drawn) ∧
      Contained (newMemory drawn now (replacing id previous replacement'))) :
    Outcomes (StateAlike a) (supersede first drawn now id replacement) (supersede second drawn now id replacement') := by
  rw [supersede, supersede]
  rcases rel_cases (alike.db.rows id) with ⟨unknown, unknown'⟩ | ⟨old, new, known, known', row⟩
  · rw [unknown, unknown']
    exact .raised _ _
  · simp only [known, known']
    obtain ⟨former, latter⟩ := contained old known
    obtain ⟨former', latter'⟩ := contained' new known'
    have source : replacement'.source = replacement.source := by
      obtain ⟨content, rfl, _⟩ := wanted
      rfl
    have replaced : RowAlike a id (replacedRow old drawn) (replacedRow new drawn) := by
      obtain ⟨content, rfl, may⟩ := row
      exact ⟨content, rfl, may⟩
    apply (create_alike (alike.put (row.retired "superseded")) (wanted.request row) free free' latter latter').bind
    intro between between' _ _ reached
    rw [source]
    exact .returned ((((reached.put replaced).record (.some row.snapshot) (.some replaced.snapshot) id "supersede"
      _).rewrite replaced former former').rewrite (wanted.request row).row latter latter')

theorem archive_alike (alike : StateAlike a first second)
    (contained : ∀ memory, first.db.memories id = some memory → Contained (retired memory "archived"))
    (contained' : ∀ memory, second.db.memories id = some memory → Contained (retired memory "archived")) :
    Outcomes (StateAlike a) (archive first id) (archive second id) := by
  rw [archive, archive]
  rcases rel_cases (alike.db.rows id) with ⟨unknown, unknown'⟩ | ⟨old, new, known, known', row⟩
  · rw [unknown, unknown']
    exact .raised _ _
  · rw [known, known']
    exact .returned (alike.change (row.retired "archived") (.some row.snapshot) (contained old known)
      (contained' new known') _ _)

theorem markVerified_alike [FloatSum] {delta : PyFloat} (alike : StateAlike a first second)
    (contained : ∀ memory, first.db.memories id = some memory → Contained (verified memory delta))
    (contained' : ∀ memory, second.db.memories id = some memory → Contained (verified memory delta)) :
    Outcomes (StateAlike a) (markVerified first id delta) (markVerified second id delta) := by
  rw [markVerified, markVerified]
  rcases rel_cases (alike.db.rows id) with ⟨unknown, unknown'⟩ | ⟨old, new, known, known', row⟩
  · rw [unknown, unknown']
    exact .raised _ _
  · have checked : RowAlike a id (verified old delta) (verified new delta) := by
      obtain ⟨content, rfl, may⟩ := row
      exact ⟨content, rfl, may⟩
    rw [known, known']
    exact .returned (alike.change checked (.some row.snapshot) (contained old known) (contained' new known') _ _)

omit [FloatData] in
theorem applySnapshot_alike {old new : Memory} {shown shown' : Snapshot} (row : RowAlike a id old new)
    (alike : SnapshotAlike a shown shown') (named : Uuid.ofText shown.id = some id) :
    Outcomes (RowAlike a id) (applySnapshot id old shown) (applySnapshot id new shown') := by
  obtain ⟨content, rfl, may⟩ := row
  obtain ⟨text, rfl, chosen⟩ := alike
  have own : Alike (id = a) shown.content text := by
    rw [named] at chosen
    exact chosen.imp_right fun ⟨same, shows'⟩ => ⟨Option.some.inj same, shows'⟩
  rw [applySnapshot, applySnapshot]
  cases snapshotScore shown.importance with
  | error raised => exact .raised _ _
  | ok importance =>
    cases snapshotScore shown.confidence with
    | error raised => exact .raised _ _
    | ok confidence =>
      cases snapshotScore shown.stability with
      | error raised => exact .raised _ _
      | ok stability => exact .returned ⟨_, rfl, own.orText may⟩

omit [FloatData] in
theorem restorable_alike {db db' : Database} {shown shown' : Snapshot} (alike : DbAlike a db db')
    (designated : SnapshotAlike a shown shown') (named : Uuid.ofText shown.id = some id) :
    RowAlike a id (restorable db id shown).1 (restorable db' id shown').1 ∧
      SnapshotAlike a (restorable db id shown).2 (restorable db' id shown').2 := by
  rw [restorable, restorable]
  rcases rel_cases (alike.rows id) with ⟨unknown, unknown'⟩ | ⟨old, new, known, known', row⟩
  · rw [unknown, unknown']
    obtain ⟨text, rfl, chosen⟩ := designated
    rw [named] at chosen
    refine ⟨⟨text, rfl, chosen.imp_right fun ⟨same, shows'⟩ => ⟨Option.some.inj same, shows'⟩⟩,
      ⟨text, rfl, chosen.imp_right fun ⟨same, shows'⟩ => ⟨?_, shows'⟩⟩⟩
    rw [Uuid.ofText_str, same]
  · rw [known, known']
    exact ⟨row, row.snapshot⟩

omit [FloatData] in
theorem RecordAlike.designated {record record' : MemoryHistory} (alike : RecordAlike a record record') :
    Option.Rel (SnapshotAlike a) record.designated record'.designated := by
  obtain ⟨before, after', rfl, former, latter⟩ := alike
  rw [MemoryHistory.designated, MemoryHistory.designated]
  rcases rel_cases former with ⟨none, rfl⟩ | ⟨old, new, some', rfl, same⟩
  · rw [none]
    exact latter
  · rw [some']
    exact .some same

theorem restore_alike {historyId : Nat} {actor : String} (alike : StateAlike a first second)
    (contained : ∀ record designated id restored, first.db.history.get? historyId = some record →
      record.designated = some designated → Uuid.ofText designated.id = some id →
      applySnapshot id (restorable first.db id designated).1 designated = .ok restored → Contained restored)
    (contained' : ∀ record designated id restored, second.db.history.get? historyId = some record →
      record.designated = some designated → Uuid.ofText designated.id = some id →
      applySnapshot id (restorable second.db id designated).1 designated = .ok restored → Contained restored) :
    Outcomes (StateAlike a) (restore first historyId actor) (restore second historyId actor) := by
  rw [restore, restore]
  rcases rel_cases (getElem?_related alike.db.history historyId) with ⟨unknown, unknown'⟩ |
    ⟨record, record', known, known', same⟩
  · rw [Table.get?, Table.get?, unknown, unknown']
    exact .raised _ _
  · have found : first.db.history.get? historyId = some record := known
    have found' : second.db.history.get? historyId = some record' := known'
    rw [found, found']
    rcases rel_cases same.designated with ⟨none, none'⟩ | ⟨shown, shown', chosen, chosen', snapshots⟩
    · simp only [none, none']
      exact .raised _ _
    · have ids : shown'.id = shown.id := by
        obtain ⟨text, rfl, _⟩ := snapshots
        rfl
      simp only [chosen, chosen', ids]
      by_cases empty : shown.id = ""
      · rw [if_pos empty, if_pos empty]
        exact .raised _ _
      · rw [if_neg empty, if_neg empty]
        cases named : Uuid.ofText shown.id with
        | none => exact .raised _ _
        | some id =>
          obtain ⟨row, before⟩ := restorable_alike alike.db snapshots named
          have applied := applySnapshot_alike row snapshots named
          apply applied.bind
          intro restored restored' ran ran' rows
          exact .returned (alike.change rows (.some before) (contained record shown id restored found chosen named ran)
            (contained' record' shown' id restored' found' chosen' (ids ▸ named) ran') _ _)

/-- What reading one entry keeps. -/
theorem syncEntry_alike {clock : Nat → String} {synced synced' : Synced} {entry entry' : Uuid × List Char}
    (alike : DbAlike a synced.db synced'.db) (count : synced'.updated = synced.updated)
    (same : EntryAlike a entry entry') :
    DbAlike a (syncEntry clock synced entry).db (syncEntry clock synced' entry').db ∧
      (syncEntry clock synced' entry').updated = (syncEntry clock synced entry).updated := by
  obtain ⟨named, read⟩ := same
  rw [syncEntry, syncEntry, named]
  rcases rel_cases (alike.rows entry.1) with ⟨unknown, unknown'⟩ | ⟨old, new, known, known', row⟩
  · rw [unknown, unknown']
    exact ⟨alike, count⟩
  · simp only [known, known']
    rcases read with same | ⟨own, fields, content, content', parsed, parsed', shown, shown'⟩
    · rw [same]
      split
      next => exact ⟨alike, count⟩
      next fields content _ =>
        rw [count]
        exact ⟨alike.put (row.sync (.inl rfl) fields _), rfl⟩
    · rw [parsed, parsed', count]
      exact ⟨alike.put (row.sync (.inr ⟨own, shown, shown'⟩) fields _), rfl⟩

theorem sync_alike (alike : StateAlike a first second) (clock : Nat → String) :
    StateAlike a (syncFromMemoryFile first clock).2 (syncFromMemoryFile second clock).2 := by
  have fold : ∀ {read read' : List (Uuid × List Char)}, List.Forall₂ (EntryAlike a) read read' →
      ∀ synced synced' : Synced, DbAlike a synced.db synced'.db → synced'.updated = synced.updated →
        DbAlike a (read.foldl (syncEntry clock) synced).db (read'.foldl (syncEntry clock) synced').db := by
    intro read read' same
    induction same with
    | nil => exact fun _ _ alike _ => alike
    | cons entry rest ih =>
      intro synced synced' alike count
      obtain ⟨next, count⟩ := syncEntry_alike alike count entry
      exact ih _ _ next count
  have kept : ∀ id, (first.db.memories id).isSome = true →
      ((syncFromMemoryFile first clock).2.db.memories id).isSome = true := by
    apply @sync_keeps _ _ _ clock (fun db => ∀ id, (first.db.memories id).isSome = true →
      (db.memories id).isSome = true) first fun _ known => known
    intro db entry memory fields content time _ listed known _ id here
    by_cases same : id = entry.1
    · rw [same, put_memories_self]
      rfl
    · rw [put_memories_ne _ _ _ same]
      exact listed id here
  refine ⟨?_, alike.file, fun id member => kept id (alike.listed id member)⟩
  rw [sync_eq_foldl, sync_eq_foldl]
  exact fold alike.file.entries _ _ alike.db rfl

end Operations

/-! Proposals. -/

section Proposals
variable [CharData] [FloatData] [UuidData] [FloatSum] {a drawn : Uuid} {now : String} {first second : State}

def PayloadAlike (a drawn : Uuid) (first second : Dict) : Prop :=
  second = first ∨ drawn = a ∧ ∃ old new : Json, first.lookup "content" = some old ∧
    second = first.set "content" new ∧ Shows old.toStr ∧ Shows new.toStr

def ProposalAlike (a drawn : Uuid) (first second : Proposal) : Prop :=
  ∃ payload, second = { first with payload } ∧ PayloadAlike a drawn first.payload payload

/-- Operations that may differ in the content of the memory `a`, which they create. -/
inductive Varied (a : Uuid) : Action → Action → Prop
  | same (action : Action) : Varied a action action
  | create {drawn : Uuid} (now : String) {first second : CreateRequest} (alike : RequestAlike a drawn first second) :
      Varied a (.create drawn now first) (.create drawn now second)
  | supersede {drawn : Uuid} (now : String) (id : Uuid) {first second : Replacement}
      (alike : ReplacementAlike a drawn first second) :
      Varied a (.supersede drawn now id first) (.supersede drawn now id second)
  | applyProposal {drawn : Uuid} (now actor : String) {first second : Proposal}
      (alike : ProposalAlike a drawn first second) :
      Varied a (.applyProposal drawn now actor first) (.applyProposal drawn now actor second)

variable {payload payload' : Dict}

omit [FloatData] [UuidData] [FloatSum] in
theorem PayloadAlike.lookup (alike : PayloadAlike a drawn payload payload') {key : String} (other : key ≠ "content") :
    payload'.lookup key = payload.lookup key := by
  rcases alike with rfl | ⟨_, old, new, _, rfl, _⟩
  · rfl
  · rw [Dict.lookup_set, if_neg other]

omit [FloatData] [UuidData] [FloatSum] in
theorem PayloadAlike.get (alike : PayloadAlike a drawn payload payload') {key : String} (other : key ≠ "content") :
    payload'.get key = payload.get key := by
  rw [Dict.get, Dict.get, alike.lookup other]

omit [FloatData] [UuidData] [FloatSum] in
theorem PayloadAlike.content (alike : PayloadAlike a drawn payload payload') :
    Outcomes (fun old new : Json => Alike (drawn = a) old.toStr new.toStr) (required payload "content")
      (required payload' "content") := by
  rw [required, required]
  rcases alike with rfl | ⟨own, old, new, given, rfl, shown, shown'⟩
  · cases payload'.lookup "content" with
    | none => exact .raised _ _
    | some value => exact .returned (.inl rfl)
  · rw [given, Dict.lookup_set, if_pos rfl]
    exact .returned (.inr ⟨own, shown, shown'⟩)

omit [UuidData] [FloatSum] in
theorem PayloadAlike.score (alike : PayloadAlike a drawn payload payload') {key : String} (other : key ≠ "content")
    (default : PyFloat) : scoreOf payload' key default = scoreOf payload key default := by
  rw [scoreOf, scoreOf, alike.lookup other]

omit [UuidData] [FloatSum] in
theorem createRequestOf_alike (alike : PayloadAlike a drawn payload payload') :
    Outcomes (RequestAlike a drawn) (createRequestOf payload) (createRequestOf payload') := by
  rw [createRequestOf, createRequestOf]
  apply alike.content.bind
  intro old new _ _ may
  rw [alike.score (by decide), alike.score (by decide), alike.score (by decide), alike.get (by decide : "kind" ≠ "content"),
    alike.get (by decide : "source" ≠ "content"), alike.get (by decide : "pinned" ≠ "content"),
    alike.get (by decide : "metadata" ≠ "content")]
  cases scoreOf payload "importance" (.finite (1 / 2)) with
  | error raised => exact .raised _ _
  | ok importance =>
    cases scoreOf payload "confidence" (.finite (1 / 2)) with
    | error raised => exact .raised _ _
    | ok confidence =>
      cases scoreOf payload "stability" (.finite (1 / 2)) with
      | error raised => exact .raised _ _
      | ok stability => exact .returned ⟨_, rfl, may⟩

omit [UuidData] [FloatSum] in
theorem replacementOf_alike {id : Uuid} {old new : Memory} (alike : PayloadAlike a drawn payload payload')
    (row : RowAlike a id old new) :
    Outcomes (ReplacementAlike a drawn) (replacementOf payload old) (replacementOf payload' new) := by
  obtain ⟨text, rfl, _⟩ := row
  rw [replacementOf, replacementOf]
  apply alike.content.bind
  intro former latter _ _ may
  rw [alike.score (by decide), alike.score (by decide), alike.score (by decide), alike.get (by decide : "kind" ≠ "content"),
    alike.lookup (by decide : "source" ≠ "content"), alike.lookup (by decide : "pinned" ≠ "content"),
    alike.get (by decide : "metadata" ≠ "content")]
  cases textOf ((payload.get "kind").or (.str old.kind)) with
  | error raised => exact .raised _ _
  | ok kind =>
    cases textOf ((payload.lookup "source").getD (.str "proposal")) with
    | error raised => exact .raised _ _
    | ok source =>
      cases scoreOf payload "importance" old.importance with
      | error raised => exact .raised _ _
      | ok importance =>
        cases scoreOf payload "confidence" old.confidence with
        | error raised => exact .raised _ _
        | ok confidence =>
          cases scoreOf payload "stability" old.stability with
          | error raised => exact .raised _ _
          | ok stability => exact .returned ⟨_, rfl, may⟩

/-- What a proposal asks for on the memory that it names. -/
def onNamed (state : Service.State) (payload : Dict) (make : Uuid → Memory → Except PyException Action) :
    Except PyException Action := do
  let id ← memoryIdOf payload
  match state.db.memories id with
  | none => throw (notFound id)
  | some previous => make id previous

omit [FloatSum] in
theorem asked_alike {proposal proposal' : Proposal} (alike : StateAlike a first second)
    (wish : ProposalAlike a drawn proposal proposal') :
    Outcomes (Varied a) (asked first drawn now proposal) (asked second drawn now proposal') := by
  obtain ⟨payload, rfl, same⟩ := wish
  have ids : memoryIdOf payload = memoryIdOf proposal.payload := by
    rw [memoryIdOf, memoryIdOf, required, required, same.lookup (by decide)]
  have named : ∀ make make' : Uuid → Memory → Except PyException Action,
      (∀ id old new, RowAlike a id old new → Outcomes (Varied a) (make id old) (make' id new)) →
      Outcomes (Varied a) (onNamed first proposal.payload make) (onNamed second payload make') := by
    intro make make' made
    rw [onNamed, onNamed, ids]
    cases memoryIdOf proposal.payload with
    | error raised => exact .raised _ _
    | ok id =>
      rcases rel_cases (alike.db.rows id) with ⟨unknown, unknown'⟩ | ⟨old, new, known, known', row⟩
      · simp only [bind, Except.bind, unknown, unknown']
        exact .raised _ _
      · simp only [bind, Except.bind, known, known']
        exact made id old new row
  unfold asked
  dsimp only
  split
  next =>
    apply (createRequestOf_alike same).bind
    intro request request' _ _ wish
    exact .returned (.create now wish)
  next =>
    apply named
    intro id old new row
    apply (replacementOf_alike same row).bind
    intro replacement replacement' _ _ wish
    exact .returned (.supersede now id wish)
  next => exact named _ _ fun id _ _ _ => .returned (.same _)
  next =>
    apply named
    intro id old new row
    rw [same.score (by decide)]
    cases scoreOf proposal.payload "confidence_delta" (.finite (1 / 20)) with
    | error raised => exact .raised _ _
    | ok delta => exact .returned (.same _)
  next => exact .raised _ _

/-- A change of the memory that a proposal names is the operation on it. -/
theorem applyTo_eq {state : State} {payload : Dict} {change : Uuid → Memory → Except PyException (State × Dict)}
    {make : Uuid → Memory → Except PyException Action}
    (same : ∀ id previous, (change id previous).map Prod.fst = make id previous >>= perform state) :
    (applyTo state payload change).map (fun made => made.2.1) = (do
      let id ← memoryIdOf payload
      match state.db.memories id with
      | none => throw (notFound id)
      | some previous => make id previous) >>= perform state := by
  rw [applyTo]
  cases memoryIdOf payload with
  | error raised => rfl
  | ok id =>
    simp only [bind, Except.bind]
    cases state.db.memories id with
    | none => rfl
    | some previous =>
      have made := same id previous
      simp only [bind, Except.bind] at made
      dsimp only
      rw [← made]
      cases change id previous <;> rfl

/-- Applying a proposal is the operation that it asks for. -/
theorem applyAction_eq {state : State} {proposal : Proposal} :
    (applyAction state drawn now proposal.action proposal.payload).map (fun made => made.2.1) =
      asked state drawn now proposal >>= perform state := by
  unfold applyAction asked
  split
  next wish =>
    simp only [wish]
    cases createRequestOf proposal.payload with
    | error raised => rfl
    | ok request =>
      show _ = create state drawn now request
      simp only [bind, Except.bind]
      cases create state drawn now request <;> rfl
  next wish =>
    simp only [wish]
    apply applyTo_eq
    intro id previous
    cases replacementOf proposal.payload previous with
    | error raised => rfl
    | ok replacement =>
      show _ = supersede state drawn now id replacement
      simp only [bind, Except.bind]
      cases supersede state drawn now id replacement <;> rfl
  next wish =>
    simp only [wish]
    apply applyTo_eq
    intro id previous
    show _ = archive state id
    simp only [bind, Except.bind]
    cases archive state id <;> rfl
  next wish =>
    simp only [wish]
    apply applyTo_eq
    intro id previous
    cases scoreOf proposal.payload "confidence_delta" (.finite (1 / 20)) with
    | error raised => rfl
    | ok delta =>
      show _ = markVerified state id delta
      simp only [bind, Except.bind]
      cases markVerified state id delta <;> rfl
  next =>
    first
    | rfl
    | split
      all_goals first | contradiction | rfl

/-- The checks before a proposal is applied. -/
theorem perform_applyProposal (state : State) (actor : String) (proposal : Proposal) :
    perform state (.applyProposal drawn now actor proposal) =
      if proposal.status ∉ ["pending", "approved"] then
        .error ⟨.valueError, "proposal is not applyable: " ++ proposal.status⟩
      else if proposal.targetType ≠ "memory" then .error ⟨.valueError, "only memory proposals are applyable here"⟩
      else asked state drawn now proposal >>= perform state := by
  rw [perform, applyProposal, ← applyAction_eq]
  by_cases status : proposal.status ∉ ["pending", "approved"]
  · rw [if_pos status, if_pos status]
    rfl
  · rw [if_neg status, if_neg status]
    by_cases target : proposal.targetType ≠ "memory"
    · rw [if_pos target]
      dsimp only
      rw [if_pos target]
      rfl
    · rw [if_neg target]
      dsimp only
      rw [if_neg target]
      simp only [bind, Except.bind]
      cases applyAction state drawn now proposal.action proposal.payload <;> rfl

end Proposals

/-! Runs. -/

section Runs
variable [CharData] [FloatData] [UuidData] [FloatSum] {a : Uuid} {first second : State}

/-- No row that the operation writes has an entry with a line that names a memory, and the file does not
hold the marker of the memory that is drawn. Edits of the file are left out. -/
def Isolates (state : State) (action : Action) : Prop :=
  Writes Contained state action ∧
    match action with
    | .create drawn .. | .supersede drawn .. => Text.contains state.file (marker drawn) = false
    | .editFile _ | .applyProposal .. => False
    | _ => True

theorem perform_alike_of_isolates {action action' : Action} (alike : StateAlike a first second)
    (pair : Varied a action action') (isolates : Isolates first action) (isolates' : Isolates second action') :
    Outcomes (StateAlike a) (perform first action) (perform second action') := by
  cases pair with
  | create now wish => exact create_alike alike wish isolates.2 isolates'.2 isolates.1 isolates'.1
  | supersede now id wish => exact supersede_alike alike wish isolates.2 isolates'.2 isolates.1 isolates'.1
  | applyProposal now actor wish => exact isolates.2.elim
  | same =>
    cases action with
    | create drawn now request =>
      exact create_alike alike ⟨_, rfl, .inl rfl⟩ isolates.2 isolates'.2 isolates.1 isolates'.1
    | supersede drawn now id replacement =>
      exact supersede_alike alike ⟨_, rfl, .inl rfl⟩ isolates.2 isolates'.2 isolates.1 isolates'.1
    | archive id => exact archive_alike alike isolates.1 isolates'.1
    | markVerified id delta => exact markVerified_alike alike isolates.1 isolates'.1
    | sync clock => exact .returned (sync_alike alike clock)
    | restore historyId actor => exact restore_alike alike isolates.1 isolates'.1
    | _ => exact isolates.2.elim

theorem applyProposal_alike {drawn : Uuid} {now actor : String} {proposal proposal' : Proposal}
    (alike : StateAlike a first second) (wish : ProposalAlike a drawn proposal proposal')
    (isolates : Effective Isolates first (.applyProposal drawn now actor proposal))
    (isolates' : Effective Isolates second (.applyProposal drawn now actor proposal')) :
    Outcomes (StateAlike a) (perform first (.applyProposal drawn now actor proposal))
      (perform second (.applyProposal drawn now actor proposal')) := by
  have kept : proposal'.status = proposal.status ∧ proposal'.targetType = proposal.targetType := by
    obtain ⟨payload, rfl, _⟩ := wish
    exact ⟨rfl, rfl⟩
  rw [perform_applyProposal, perform_applyProposal, kept.1, kept.2]
  by_cases status : proposal.status ∉ ["pending", "approved"]
  · rw [if_pos status, if_pos status]
    exact .raised _ _
  · rw [if_neg status, if_neg status]
    by_cases target : proposal.targetType ≠ "memory"
    · rw [if_pos target, if_pos target]
      exact .raised _ _
    · rw [if_neg target, if_neg target]
      apply (asked_alike alike wish).bind
      intro action action' asks asks' pair
      exact perform_alike_of_isolates alike pair (isolates action asks) (isolates' action' asks')

theorem perform_alike {action action' : Action} (alike : StateAlike a first second) (pair : Varied a action action')
    (isolates : Effective Isolates first action) (isolates' : Effective Isolates second action') :
    Outcomes (StateAlike a) (perform first action) (perform second action') := by
  cases pair with
  | applyProposal now actor wish => exact applyProposal_alike alike wish isolates isolates'
  | create now wish => exact perform_alike_of_isolates alike (.create now wish) isolates isolates'
  | supersede now id wish => exact perform_alike_of_isolates alike (.supersede now id wish) isolates isolates'
  | same =>
    cases action with
    | applyProposal drawn now actor proposal =>
      exact applyProposal_alike alike ⟨_, rfl, .inl rfl⟩ isolates isolates'
    | _ => exact perform_alike_of_isolates alike (.same _) isolates isolates'

theorem step_alike {action action' : Action} {next next' : State} (alike : StateAlike a first second)
    (pair : Varied a action action') (isolates : Effective Isolates first action)
    (isolates' : Effective Isolates second action') (taken : step first action = some next)
    (taken' : step second action' = some next') : StateAlike a next next' := by
  rw [step] at taken taken'
  have outcomes := perform_alike alike pair isolates isolates'
  cases ran : perform first action with
  | error raised =>
    cases ran' : perform second action' with
    | error raised' =>
      rw [ran] at taken
      rw [ran'] at taken'
      cases taken
      cases taken'
      exact alike
    | ok reached' =>
      rw [ran, ran'] at outcomes
      cases outcomes
  | ok reached =>
    cases ran' : perform second action' with
    | error raised' =>
      rw [ran, ran'] at outcomes
      cases outcomes
    | ok reached' =>
      rw [ran] at taken
      rw [ran'] at taken'
      rw [ran, ran'] at outcomes
      cases taken
      cases taken'
      cases outcomes with
      | returned alike => exact alike

/-- Two runs that differ in contents of the memory `a` leave every other row the same, also after the file
has been read. -/
theorem others_unchanged (a : Uuid) (file : String) (nothing : entries file = []) (actions others : List Action)
    (varied : List.Forall₂ (Varied a) actions others) (last final : State)
    (isolates : Runs.Along step (Effective Isolates) ⟨Database.empty, file⟩ actions)
    (isolates' : Runs.Along step (Effective Isolates) ⟨Database.empty, file⟩ others)
    (ran : Runs.run step ⟨Database.empty, file⟩ actions = some last)
    (ran' : Runs.run step ⟨Database.empty, file⟩ others = some final) (now : Nat → String) (id : Uuid)
    (other : id ≠ a) :
    (syncFromMemoryFile last now).2.db.memories id = (syncFromMemoryFile final now).2.db.memories id := by
  have start : StateAlike a ⟨Database.empty, file⟩ ⟨Database.empty, file⟩ := by
    refine ⟨⟨fun _ => .none, .nil⟩, ⟨tidy_of_nothing nothing, tidy_of_nothing nothing, ?_⟩, ?_⟩
    · show List.Forall₂ (EntryAlike a) (entries file) (entries file)
      rw [nothing]
      exact .nil
    · show ∀ id ∈ (entries file).map Prod.fst, _
      rw [nothing]
      exact fun id member => absurd member List.not_mem_nil
  have alike : StateAlike a last final :=
    Runs.run_pair_along (StateAlike a) (Varied a)
      (fun _ _ _ _ _ _ alike pair isolates isolates' taken taken' =>
        step_alike alike pair isolates isolates' taken taken') varied start isolates isolates' ran ran'
  rcases rel_cases ((sync_alike alike now).db.rows id) with ⟨unknown, unknown'⟩ | ⟨old, new, known, known', row⟩
  · rw [unknown, unknown']
  · obtain ⟨content, rfl, rfl | ⟨own, _⟩⟩ := row
    · rw [known, known']
    · exact absurd own other

end Runs

section Demo
attribute [local instance] CharData.ascii FloatData.decimal UuidData.plain FloatSum.exact

private def variedId : Uuid := ⟨1⟩

private def steadyId : Uuid := ⟨2⟩

private def wishFor (content : String) : CreateRequest := { kind := "agent_note", content }

private def creations (content : String) : List Action :=
  [.create steadyId "" (wishFor "tea"), .create variedId "" (wishFor content)]

private def start : State := ⟨Database.empty, "# MEMORY\n"⟩

private def between : State where
  db := created Database.empty steadyId "" (wishFor "tea")
  file := appendToMemoryFile "# MEMORY\n" steadyId (newMemory steadyId "" (wishFor "tea"))

private def ended (content : String) : State where
  db := created between.db variedId "" (wishFor content)
  file := appendToMemoryFile between.file variedId (newMemory variedId "" (wishFor content))

private theorem step_start : step start (.create steadyId "" (wishFor "tea")) = some between := rfl

private theorem run_creations (content : String) : Runs.run step start (creations content) = some (ended content) := rfl

/-- The file of the example names no memory, and neither its start nor the first entry spells the marker of the next
one. -/
private theorem free_texts : entries "# MEMORY\n" = [] ∧ Text.contains "# MEMORY\n" (marker steadyId) = false ∧
    Text.contains between.file (marker variedId) = false := by
  have start : Text.contains "# MEMORY\n" (marker steadyId) = false := by decide +kernel
  refine ⟨by decide +kernel, start, ?_⟩
  rw [Text.contains, between, appendToMemoryFile, if_neg (by rw [start]; decide), written, String.toList_ofList]
  decide +kernel

private theorem contained_wish {id : Uuid} {content : String}
    (wished : (id, content) = (steadyId, "tea") ∨ (id, content) = (variedId, "milk") ∨ (id, content) = (variedId, "oil")) :
    Contained (newMemory id "" (wishFor content)) := by
  rw [Contained, entries, toList_memoryFileLine]
  rcases wished with same | same | same <;>
    · obtain ⟨rfl, rfl⟩ := Prod.mk.inj same
      decide +kernel

private theorem isolates_creations {content : String}
    (contained : Contained (newMemory variedId "" (wishFor content))) :
    Runs.Along step (Effective Isolates) start (creations content) := by
  refine ⟨⟨contained_wish (.inl rfl), free_texts.2.1⟩, fun next taken => ⟨⟨contained, ?_⟩, fun _ _ => trivial⟩⟩
  obtain rfl := Option.some.inj (step_start.symm.trans taken)
  exact free_texts.2.2

theorem others_unchanged_milk : ∃ last final, Runs.run step start (creations "milk") = some last ∧
    Runs.run step start (creations "oil") = some final ∧
    (syncFromMemoryFile last fun _ => "").2.db.memories steadyId =
      (syncFromMemoryFile final fun _ => "").2.db.memories steadyId := by
  have varied : List.Forall₂ (Varied variedId) (creations "milk") (creations "oil") :=
    .cons (.same _) (.cons (.create "" ⟨"oil", rfl, .inr ⟨rfl, by decide +kernel, by decide +kernel⟩⟩) .nil)
  exact ⟨ended "milk", ended "oil", run_creations "milk", run_creations "oil",
    others_unchanged variedId "# MEMORY\n" free_texts.1 _ _ varied _ _
      (isolates_creations (contained_wish (.inr (.inl rfl)))) (isolates_creations (contained_wish (.inr (.inr rfl))))
      (run_creations "milk")
      (run_creations "oil") _ steadyId (by decide)⟩

private def steadyContent (state : State) : Option String :=
  ((syncFromMemoryFile state fun _ => "").2.db.memories steadyId).map Memory.content

private theorem steadyContent_ended (content : String) : steadyContent (ended content) =
    ((((steadyId, entryLine (newMemory steadyId "" (wishFor "tea"))) ::
      (variedId, entryLine (newMemory variedId "" (wishFor content))) ::
        entries (memoryFileLine (newMemory variedId "" (wishFor content)))).foldl (syncEntry fun _ => "")
          { db := (ended content).db }).db.memories steadyId).map Memory.content := by
  have first : entries between.file = [(steadyId, entryLine (newMemory steadyId "" (wishFor "tea")))] := by
    rw [between, entries_append free_texts.2.1 (contained_wish (.inl rfl)), free_texts.1, List.nil_append]
  have whole : entries (ended content).file = (steadyId, entryLine (newMemory steadyId "" (wishFor "tea"))) ::
      (variedId, entryLine (newMemory variedId "" (wishFor content))) ::
        entries (memoryFileLine (newMemory variedId "" (wishFor content))) := by
    rw [ended, entries_append_lines free_texts.2.2, first, List.singleton_append]
  rw [steadyContent, sync_eq_foldl, whole]

private def spelled : String :=
  "x\n<!-- soulclaw:memory id=00000000-0000-0000-0000-000000000002 -->\n- (agent_note, status=archived) oil"

/-- An entry of another memory leaves the steady one. -/
private theorem steady_of_other {synced : Synced} {entry : Uuid × List Char} (other : steadyId ≠ entry.1) :
    (syncEntry (fun _ => "") synced entry).db.memories steadyId = synced.db.memories steadyId := by
  rcases syncEntry_cases (fun _ => "") synced entry with same | ⟨memory, fields, content, _, _, wrote⟩
  · rw [same]
  · rw [wrote]
    exact Function.update_of_ne other _ _

/-- An entry of the steady memory gives it its content. -/
private theorem steady_of_entry {synced : Synced} {line : List Char} {content : String} (full : content ≠ "")
    (known : (synced.db.memories steadyId).isSome = true) (read : (parseMemoryLine line).map Prod.snd = some content) :
    ((syncEntry (fun _ => "") synced (steadyId, line)).db.memories steadyId).map Memory.content = some content := by
  obtain ⟨memory, found⟩ := Option.isSome_iff_exists.1 known
  obtain ⟨groups, parsed, rfl⟩ := Option.map_eq_some_iff.1 read
  rw [syncEntry]
  simp only [found, parsed, Database.put, Function.update_self, Option.map_some]
  exact congrArg some (if_neg full)

private theorem known_ended (content : String) : ((ended content).db.memories steadyId).isSome = true := rfl

/-- A content that spells the marker and an entry of another memory changes that one. -/
theorem content_reaches_other : ∃ last final, Runs.run step start (creations "milk") = some last ∧
    Runs.run step start (creations spelled) = some final ∧
    steadyContent last = some "tea" ∧ steadyContent final = some "oil" := by
  have tea : (parseMemoryLine (entryLine (newMemory steadyId "" (wishFor "tea")))).map Prod.snd = some "tea" := by
    rw [entryLine, toList_memoryFileLine]
    decide +kernel
  have oil : (entries (memoryFileLine (newMemory variedId "" (wishFor spelled)))).map
      (fun entry => (entry.1, (parseMemoryLine entry.2).map Prod.snd)) = [(steadyId, some "oil")] := by
    rw [entries, toList_memoryFileLine]
    decide +kernel
  refine ⟨ended "milk", ended spelled, run_creations "milk", run_creations spelled, ?_, ?_⟩
  · have contained : entries (memoryFileLine (newMemory variedId "" (wishFor "milk"))) = [] :=
      contained_wish (.inr (.inl rfl))
    rw [steadyContent_ended, contained, List.foldl_cons, List.foldl_cons, List.foldl_nil, steady_of_other (by decide)]
    exact steady_of_entry (by decide) (known_ended "milk") tea
  · obtain ⟨entry, rest, listed, same, none⟩ := List.map_eq_cons_iff.1 oil
    obtain rfl := List.map_eq_nil_iff.1 none
    obtain ⟨named, read⟩ := Prod.mk.inj same
    have given : entry = (steadyId, entry.2) := by rw [← named]
    rw [steadyContent_ended, listed, given, List.foldl_cons, List.foldl_cons, List.foldl_cons, List.foldl_nil]
    apply steady_of_entry (by decide) _ read
    rw [steady_of_other (by decide)]
    have known : (({ db := (ended spelled).db } : Synced).db.memories steadyId).isSome = true := known_ended spelled
    have taken := steady_of_entry (by decide) known tea
    rw [← Option.isSome_map, taken]
    rfl

end Demo

end SoulClaw.Memories.Interference
