import SoulClaw.Memories.Entries

/-! Reading the memory file again. All entries of a memory together are one patch of its columns, and a patch that is
applied twice changes nothing the second time but the time of the reading. -/

namespace SoulClaw.Memories.Resync
open Foundation File Service Effects Entries

/-- Columns that entries of the file give; the others are left alone. A given status is not empty. -/
structure Patch where
  kind : Option String
  content : Option String
  source : Option String
  status : Option String
  importance : Option PyFloat
  confidence : Option PyFloat
  stability : Option PyFloat
  named : status ≠ some ""

/-- A text that is given. -/
def given (text : String) : Option String := if text = "" then none else some text

theorem given_ne (text : String) : given text ≠ some "" := by
  unfold given
  split_ifs with blank
  · simp
  · simpa using blank

theorem orText_eq_getD (first second : String) : orText first second = (given first).getD second := by
  unfold orText given
  split_ifs <;> rfl

namespace Patch

/-- The columns of two patches, of which the later one counts. -/
def onto (later earlier : Patch) : Patch where
  kind := later.kind.or earlier.kind
  content := later.content.or earlier.content
  source := later.source.or earlier.source
  status := later.status.or earlier.status
  importance := later.importance.or earlier.importance
  confidence := later.confidence.or earlier.confidence
  stability := later.stability.or earlier.stability
  named := by
    cases given : later.status with
    | none => exact earlier.named
    | some status =>
      rw [Option.some_or, ← given]
      exact later.named

theorem onto_self (patch : Patch) : patch.onto patch = patch := by
  cases patch
  simp [onto]

/-- A row after its entries have been read, the last one at a time. -/
def apply (patch : Patch) (id : Uuid) (now : String) (memory : Memory) : Memory :=
  let status := patch.status.getD (orText memory.status "active")
  { memory with
    kind := patch.kind.getD memory.kind
    content := patch.content.getD memory.content
    source := patch.source.getD memory.source
    status := status
    archived := status ∈ ["archived", "superseded"]
    importance := patch.importance.getD memory.importance
    confidence := patch.confidence.getD memory.confidence
    stability := patch.stability.getD memory.stability
    sourceFileMarker := marker id
    provenance := (memory.provenance.set "synced_from" (.str "memory/MEMORY.md")).set "synced_at" (.str now) }

end Patch

/-! The provenance of a row that has been read. -/

theorem set_set (dict : Dict) (key : String) (first second : Json) :
    (dict.set key first).set key second = dict.set key second := by
  induction dict with
  | nil => simp [Dict.set]
  | cons field rest ih =>
    obtain ⟨known, old⟩ := field
    by_cases same : known = key
    · simp [Dict.set, same]
    · simp [Dict.set, same, ih]

/-- The time of the last reading is the one that stays. -/
theorem provenance_again (dict : Dict) (origin earlier later : Json) :
    ((((dict.set "synced_from" origin).set "synced_at" earlier).set "synced_from" origin).set "synced_at" later) =
      (dict.set "synced_from" origin).set "synced_at" later := by
  have kept : ((dict.set "synced_from" origin).set "synced_at" earlier).set "synced_from" origin =
      (dict.set "synced_from" origin).set "synced_at" earlier := by
    rw [Dict.set_eq_self_iff, Dict.lookup_set, if_neg (by decide), Dict.lookup_set, if_pos rfl]
  rw [kept, set_set]

theorem getD_or {Value : Type} (later earlier : Option Value) (old : Value) :
    later.getD (earlier.getD old) = (later.or earlier).getD old := by
  cases later <;> rfl

/-- A status is there after an entry has been read. -/
theorem orText_status (patch : Patch) (old : String) :
    orText (patch.status.getD (orText old "active")) "active" = patch.status.getD (orText old "active") := by
  have filled : patch.status.getD (orText old "active") ≠ "" := by
    cases given : patch.status with
    | none =>
      show orText old "active" ≠ ""
      unfold orText
      split_ifs with blank
      · decide
      · exact blank
    | some status =>
      intro blank
      exact patch.named (by rw [given]; exact congrArg some blank)
  exact if_neg filled

theorem apply_apply (later earlier : Patch) (id : Uuid) (first second : String) (memory : Memory) :
    later.apply id second (earlier.apply id first memory) = (later.onto earlier).apply id second memory := by
  have status : later.status.getD (orText (earlier.status.getD (orText memory.status "active")) "active") =
      (later.status.or earlier.status).getD (orText memory.status "active") := by
    rw [orText_status, getD_or]
  simp only [Patch.apply, Patch.onto, status, getD_or, provenance_again]
  rfl

section Entry
variable [FloatData]

/-- The patch of one entry. -/
def patchOf (fields : Fields) (content : String) : Patch where
  kind := given ((fields.lookup "kind").getD "")
  content := given content
  source := given ((fields.lookup "source").getD "")
  status := given ((fields.lookup "status").getD "")
  importance := ((fields.lookup "importance").bind FloatData.parse).map clamp
  confidence := ((fields.lookup "confidence").bind FloatData.parse).map clamp
  stability := ((fields.lookup "stability").bind FloatData.parse).map clamp
  named := given_ne _

theorem syncScore_eq (fields : Fields) (key : String) (score : PyFloat) :
    syncScore fields key score = (((fields.lookup key).bind FloatData.parse).map clamp).getD score := by
  unfold syncScore
  cases (fields.lookup key).bind FloatData.parse <;> rfl

theorem syncMemory_eq (id : Uuid) (fields : Fields) (content now : String) (memory : Memory) :
    syncMemory id fields content now memory = (patchOf fields content).apply id now memory := by
  simp only [syncMemory, Patch.apply, patchOf, syncScore_eq, orText_eq_getD]

end Entry

/-! All entries of a file. -/

section File
variable [CharData] [FloatData] [UuidData]

/-- The patches that a reading of the entries applies, each with its memory and its time. -/
def readings (now : Nat → String) (present : Uuid → Bool) : Nat → List (Uuid × List Char) → List (Uuid × Patch × String)
  | _, [] => []
  | count, entry :: rest =>
      match present entry.1, parseMemoryLine entry.2 with
      | true, some (fields, content) =>
          (entry.1, patchOf fields content, now count) :: readings now present (count + 1) rest
      | _, _ => readings now present count rest

/-- A row after the patches of its memory. -/
def patched (id : Uuid) (read : List (Uuid × Patch × String)) (memory : Memory) : Memory :=
  read.foldl (fun row entry => if entry.1 = id then entry.2.1.apply id entry.2.2 row else row) memory

/-- The patches of a memory as one patch, with the time of the last one. -/
def joined (id : Uuid) (read : List (Uuid × Patch × String)) : Option (Patch × String) :=
  read.foldl (fun known entry =>
    if entry.1 = id then some ((known.map Prod.fst).elim entry.2.1 entry.2.1.onto, entry.2.2) else known) none

def stored (db : Database) (id : Uuid) : Bool := (db.memories id).isSome

def readDatabase (db : Database) (read : List (Uuid × Patch × String)) : Database :=
  { db with memories := fun id => (db.memories id).map (patched id read) }

omit [CharData] [FloatData] [UuidData] in
theorem stored_readDatabase (db : Database) (read : List (Uuid × Patch × String)) :
    stored (readDatabase db read) = stored db := by
  ext id
  rw [stored, readDatabase, Option.isSome_map, stored]

omit [CharData] [FloatData] [UuidData] in
theorem readDatabase_nil (db : Database) : readDatabase db [] = db := by
  have same : ∀ id, (db.memories id).map (patched id []) = db.memories id := by
    intro id
    exact Option.map_id'
  rw [readDatabase, funext same]

omit [CharData] [FloatData] [UuidData] in
theorem readDatabase_cons {db : Database} {id : Uuid} {memory : Memory} (known : db.memories id = some memory)
    (patch : Patch) (time : String) (read : List (Uuid × Patch × String)) :
    readDatabase db ((id, patch, time) :: read) = readDatabase (db.put id (patch.apply id time memory)) read := by
  have same : ∀ other, (db.memories other).map (patched other ((id, patch, time) :: read)) =
      ((db.put id (patch.apply id time memory)).memories other).map (patched other read) := by
    intro other
    by_cases here : other = id
    · rw [here, known, put_memories_self, Option.map_some, Option.map_some, patched, List.foldl_cons, if_pos rfl, patched]
    · rw [put_memories_ne _ _ _ here]
      congr 1
      funext row
      rw [patched, List.foldl_cons, if_neg (Ne.symm here), patched]
  rw [readDatabase, funext same]
  rfl

omit [UuidData] in
/-- What reading the entries does, in one statement. -/
theorem foldl_syncEntry (now : Nat → String) (read : List (Uuid × List Char)) (synced : Synced) :
    read.foldl (syncEntry now) synced =
      { db := readDatabase synced.db (readings now (stored synced.db) synced.updated read)
        updated := synced.updated + (readings now (stored synced.db) synced.updated read).length
        missing := synced.missing + read.countP fun entry => !stored synced.db entry.1 } := by
  induction read generalizing synced with
  | nil => rw [List.foldl_nil, readings, readDatabase_nil]; rfl
  | cons entry rest ih =>
    rw [List.foldl_cons, List.countP_cons]
    cases known : synced.db.memories entry.1 with
    | none =>
      have absent : stored synced.db entry.1 = false := by rw [stored, known]; rfl
      have step : syncEntry now synced entry = { synced with missing := synced.missing + 1 } := by rw [syncEntry, known]
      have read : readings now (stored synced.db) synced.updated (entry :: rest) =
          readings now (stored synced.db) synced.updated rest := by rw [readings, absent]
      rw [step, ih, read, absent]
      simp only [Bool.not_false, if_true, Synced.mk.injEq, true_and]
      omega
    | some memory =>
      have present : stored synced.db entry.1 = true := by rw [stored, known]; rfl
      cases parsed : parseMemoryLine entry.2 with
      | none =>
        have step : syncEntry now synced entry = synced := by rw [syncEntry, known, parsed]
        have read : readings now (stored synced.db) synced.updated (entry :: rest) =
            readings now (stored synced.db) synced.updated rest := by rw [readings, present, parsed]
        rw [step, ih, read, present]
        simp
      | some pair =>
        obtain ⟨fields, content⟩ := pair
        have step : syncEntry now synced entry = { synced with
            db := synced.db.put entry.1 ((patchOf fields content).apply entry.1 (now synced.updated) memory)
            updated := synced.updated + 1 } := by
          rw [syncEntry, known, parsed, ← syncMemory_eq]
        have same : stored (synced.db.put entry.1 ((patchOf fields content).apply entry.1 (now synced.updated) memory)) =
            stored synced.db := by
          ext other
          by_cases here : other = entry.1
          · rw [here, present, stored, put_memories_self]; rfl
          · rw [stored, put_memories_ne _ _ _ here, stored]
        have read : readings now (stored synced.db) synced.updated (entry :: rest) =
            (entry.1, patchOf fields content, now synced.updated) ::
              readings now (stored synced.db) (synced.updated + 1) rest := by rw [readings, present, parsed]
        rw [step, ih, same, read, readDatabase_cons known, present]
        simp only [List.length_cons, Bool.not_true, Bool.false_eq_true, if_false, Nat.add_zero, Synced.mk.injEq,
          true_and, and_true]
        omega

omit [CharData] [FloatData] [UuidData] in
/-- One patch after another is the two of them as one. -/
theorem patched_eq (id : Uuid) (read : List (Uuid × Patch × String)) (memory : Memory) :
    patched id read memory = (joined id read).elim memory fun known => known.1.apply id known.2 memory := by
  have fold : ∀ (known : Option (Patch × String)) (row : Memory),
      row = known.elim memory (fun known => known.1.apply id known.2 memory) →
      read.foldl (fun row entry => if entry.1 = id then entry.2.1.apply id entry.2.2 row else row) row =
        (read.foldl (fun known entry => if entry.1 = id then
          some ((known.map Prod.fst).elim entry.2.1 entry.2.1.onto, entry.2.2) else known) known).elim memory
          fun known => known.1.apply id known.2 memory := by
    induction read with
    | nil => exact fun known row same => same
    | cons entry rest ih =>
      intro known row same
      rw [List.foldl_cons, List.foldl_cons]
      apply ih
      split_ifs with here
      · cases known with
        | none => rw [same]; rfl
        | some earlier =>
          rw [same]
          exact apply_apply entry.2.1 earlier.1 id earlier.2 entry.2.2 memory
      · exact same
  exact fold none memory rfl

omit [CharData] [FloatData] [UuidData] in
/-- The patch of a memory does not depend on the times. -/
theorem joined_congr (id : Uuid) {first second : List (Uuid × Patch × String)}
    (same : first.map (fun entry => (entry.1, entry.2.1)) = second.map fun entry => (entry.1, entry.2.1)) :
    (joined id first).map Prod.fst = (joined id second).map Prod.fst := by
  have plain : ∀ (read : List (Uuid × Patch × String)) (known : Option (Patch × String)),
      (read.foldl (fun known entry => if entry.1 = id then
        some ((known.map Prod.fst).elim entry.2.1 entry.2.1.onto, entry.2.2) else known) known).map Prod.fst =
        (read.map fun entry => (entry.1, entry.2.1)).foldl
          (fun known entry => if entry.1 = id then some (known.elim entry.2 entry.2.onto) else known)
          (known.map Prod.fst) := by
    intro read
    induction read with
    | nil => exact fun known => rfl
    | cons entry rest ih =>
      intro known
      rw [List.foldl_cons, ih, List.map_cons, List.foldl_cons]
      split_ifs <;> rfl
  rw [joined, joined, plain, plain, same]

omit [UuidData] in
theorem map_readings (first second : Nat → String) (present : Uuid → Bool) (start next : Nat)
    (read : List (Uuid × List Char)) :
    (readings first present start read).map (fun entry => (entry.1, entry.2.1)) =
      (readings second present next read).map fun entry => (entry.1, entry.2.1) := by
  induction read generalizing start next with
  | nil => rfl
  | cons entry rest ih =>
    rw [readings, readings]
    split
    · rw [List.map_cons, List.map_cons, ih (start + 1) (next + 1)]
    · exact ih start next

omit [CharData] [FloatData] [UuidData] in
/-- The same patches once more, at other times, leave what they alone would have left. -/
theorem readDatabase_again (db : Database) {first second : List (Uuid × Patch × String)}
    (same : first.map (fun entry => (entry.1, entry.2.1)) = second.map fun entry => (entry.1, entry.2.1)) :
    readDatabase (readDatabase db first) second = readDatabase db second := by
  have rows : ∀ id, ((db.memories id).map (patched id first)).map (patched id second) =
      (db.memories id).map (patched id second) := by
    intro id
    rw [Option.map_map]
    congr 1
    funext memory
    have patch := joined_congr id same
    rw [Function.comp_apply, patched_eq id second, patched_eq id second, patched_eq id first]
    cases before : joined id first with
    | none =>
      rw [before, Option.map_none] at patch
      rw [Option.map_eq_none_iff.1 patch.symm]
      rfl
    | some earlier =>
      rw [before, Option.map_some] at patch
      obtain ⟨later, after, equal⟩ := Option.map_eq_some_iff.1 patch.symm
      rw [after]
      show later.1.apply id later.2 (earlier.1.apply id earlier.2 memory) = later.1.apply id later.2 memory
      rw [apply_apply, equal, Patch.onto_self]
  exact congrArg (Database.mk · db.history) (funext rows)

theorem sync_eq (state : State) (now : Nat → String) : syncFromMemoryFile state now =
    (((readings now (stored state.db) 0 (entries state.file)).length,
      (entries state.file).countP fun entry => !stored state.db entry.1),
      { state with db := readDatabase state.db (readings now (stored state.db) 0 (entries state.file)) }) := by
  rw [syncFromMemoryFile, syncLines_eq_foldl, entriesOf_splitlines, foldl_syncEntry]
  simp only [Nat.zero_add]

/-- Reading the file once more is reading it once, at the later time: the counts are the same, and no row tells how
often the file was read. -/
theorem sync_again (state : State) (first second : Nat → String) :
    syncFromMemoryFile (syncFromMemoryFile state first).2 second = syncFromMemoryFile state second := by
  have same := map_readings first second (stored state.db) 0 0 (entries state.file)
  rw [sync_eq state first, sync_eq _ second, sync_eq state second]
  show ((_, _), _) = _
  simp only [stored_readDatabase, readDatabase_again state.db same]

end File

end SoulClaw.Memories.Resync
