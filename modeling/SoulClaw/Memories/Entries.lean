import SoulClaw.Memories.Effects

/-! The memory file as an association list. What the service reads in a text is the list of the memories
that its lines name, each with the line behind; appending an entry, rewriting one and reading them back
act on that list alone. -/

namespace SoulClaw.Memories.Entries
open Foundation File Service Effects Lines

section View
variable [CharData] [UuidData]

/-- The memories that the lines name, each with the line behind. -/
def entriesOf : List (List Char) → List (Uuid × List Char)
  | [] => []
  | line :: rest =>
      match markerId line with
      | some id => (id, rest.headD []) :: entriesOf rest
      | none => entriesOf rest

def entries (text : String) : List (Uuid × List Char) := entriesOf (stripped text.toList)

/-- The list after the line of a memory has been replaced. -/
def setEntry (id : Uuid) (line : List Char) (known : List (Uuid × List Char)) : List (Uuid × List Char) :=
  known.map fun entry => if entry.1 = id then (id, line) else entry

omit [CharData] [UuidData] in
theorem setEntry_of_absent {id : Uuid} {line : List Char} {known : List (Uuid × List Char)}
    (absent : ∀ entry ∈ known, entry.1 ≠ id) : setEntry id line known = known := by
  rw [setEntry]
  conv_rhs => rw [← List.map_id known]
  apply List.map_congr_left
  intro entry member
  rw [if_neg (absent entry member), id_eq]

omit [CharData] [UuidData] in
theorem fst_setEntry (id : Uuid) (line : List Char) (known : List (Uuid × List Char)) :
    (setEntry id line known).map Prod.fst = known.map Prod.fst := by
  rw [setEntry, List.map_map]
  apply List.map_congr_left
  intro entry _
  show (if entry.1 = id then (id, line) else entry).1 = entry.1
  split
  next same => exact same.symm
  next => rfl

theorem entriesOf_cons_of_some {line : List Char} {id : Uuid} (named : markerId line = some id)
    (rest : List (List Char)) : entriesOf (line :: rest) = (id, rest.headD []) :: entriesOf rest := by
  rw [entriesOf, named]

theorem entriesOf_cons_of_none {line : List Char} (plain : markerId line = none) (rest : List (List Char)) :
    entriesOf (line :: rest) = entriesOf rest := by
  rw [entriesOf, plain]

@[simp] theorem markerId_nil : markerId [] = none := by
  unfold markerId
  rfl

@[simp] theorem markerId_strip (line : List Char) : markerId (strip line) = markerId line := by
  rw [markerId, strip_strip, markerId]

omit [UuidData] in
@[simp] theorem parseMemoryLine_strip (line : List Char) : parseMemoryLine (strip line) = parseMemoryLine line := by
  rw [parseMemoryLine, strip_strip, parseMemoryLine]

/-- No line goes on over the boundary of two lists of lines that a blank line separates. -/
theorem entriesOf_append {second : List (List Char)} (blank : second.headD [] = []) (first : List (List Char)) :
    entriesOf (first ++ second) = entriesOf first ++ entriesOf second := by
  induction first with
  | nil => rfl
  | cons line rest ih =>
    have behind : (rest ++ second).headD [] = rest.headD [] := by
      cases rest with
      | nil => exact blank
      | cons next later => rfl
    rw [List.cons_append]
    cases named : markerId line with
    | none => rw [entriesOf_cons_of_none named, entriesOf_cons_of_none named, ih]
    | some id => rw [entriesOf_cons_of_some named, entriesOf_cons_of_some named, ih, behind, List.cons_append]

/-- Blank lines at the end say nothing. -/
theorem entriesOf_append_blanks (count : Nat) (lines : List (List Char)) :
    entriesOf (lines ++ List.replicate count []) = entriesOf lines := by
  have nothing : entriesOf (List.replicate count []) = [] := by
    induction count with
    | zero => rfl
    | succ count ih => rw [List.replicate_succ, entriesOf_cons_of_none markerId_nil, ih]
  have blank : (List.replicate count ([] : List Char)).headD [] = [] := by
    cases count with
    | zero => rfl
    | succ count => rfl
  rw [entriesOf_append blank, nothing, List.append_nil]

theorem entriesOf_of_plain {lines : List (List Char)} (plain : ∀ line ∈ lines, markerId line = none)
    (rest : List (List Char)) : entriesOf (lines ++ rest) = entriesOf rest := by
  induction lines with
  | nil => rfl
  | cons line later ih =>
    rw [List.cons_append, entriesOf_cons_of_none (plain line List.mem_cons_self),
      ih fun other member => plain other (List.mem_cons_of_mem _ member)]

theorem plain_of_entriesOf {lines : List (List Char)} (nothing : entriesOf lines = []) :
    ∀ line ∈ lines, markerId line = none := by
  induction lines with
  | nil => simp
  | cons line rest ih =>
    cases named : markerId line with
    | some id =>
      rw [entriesOf_cons_of_some named] at nothing
      cases nothing
    | none =>
      rw [entriesOf_cons_of_none named] at nothing
      intro other member
      rcases List.mem_cons.1 member with rfl | later
      · exact named
      · exact ih nothing other later

/-- An entry names the memory of one of the lines. -/
theorem exists_line_of_mem {lines : List (List Char)} {entry : Uuid × List Char} (member : entry ∈ entriesOf lines) :
    ∃ line ∈ lines, markerId line = some entry.1 := by
  induction lines with
  | nil => cases member
  | cons line rest ih =>
    cases named : markerId line with
    | some id =>
      rw [entriesOf_cons_of_some named] at member
      rcases List.mem_cons.1 member with rfl | later
      · exact ⟨line, List.mem_cons_self, named⟩
      · obtain ⟨other, inside, same⟩ := ih later
        exact ⟨other, List.mem_cons_of_mem _ inside, same⟩
    | none =>
      rw [entriesOf_cons_of_none named] at member
      obtain ⟨other, inside, same⟩ := ih member
      exact ⟨other, List.mem_cons_of_mem _ inside, same⟩

/-- The entries up to a line do not depend on the lines behind it. -/
theorem exists_front (lines : List (List Char)) (line : List Char) : ∃ front,
    (∀ entry ∈ front, ∃ other ∈ lines, markerId other = some entry.1) ∧
      ∀ rest, entriesOf (lines ++ line :: rest) = front ++ entriesOf (line :: rest) := by
  induction lines with
  | nil => exact ⟨[], by simp, fun rest => rfl⟩
  | cons first later ih =>
    obtain ⟨front, from', split⟩ := ih
    have wider : ∀ entry ∈ front, ∃ other ∈ first :: later, markerId other = some entry.1 := by
      intro entry member
      obtain ⟨other, inside, same⟩ := from' entry member
      exact ⟨other, List.mem_cons_of_mem _ inside, same⟩
    cases named : markerId first with
    | none =>
      refine ⟨front, wider, fun rest => ?_⟩
      rw [List.cons_append, entriesOf_cons_of_none named, split]
    | some id =>
      refine ⟨(id, (later ++ [line]).headD []) :: front, ?_, fun rest => ?_⟩
      · intro entry member
        rcases List.mem_cons.1 member with rfl | inside
        · exact ⟨first, List.mem_cons_self, named⟩
        · exact wider entry inside
      · have behind : (later ++ line :: rest).headD [] = (later ++ [line]).headD [] := by cases later <;> rfl
        rw [List.cons_append, entriesOf_cons_of_some named, split, behind, List.cons_append]

theorem entriesOf_splitlines (text : String) :
    entriesOf ((splitlines text.toList).map strip) = entries text := by
  obtain ⟨count, same⟩ := stripped_splitlines text.toList
  rw [entries, same, entriesOf_append_blanks]

end View

/-! Reading the file back. -/

section Sync
variable [CharData] [FloatData] [UuidData] (now : Nat → String)

/-- What reading an entry does. -/
def syncEntry (synced : Synced) (entry : Uuid × List Char) : Synced :=
  match synced.db.memories entry.1 with
  | none => { synced with missing := synced.missing + 1 }
  | some memory =>
      match parseMemoryLine entry.2 with
      | none => synced
      | some (fields, content) =>
          { synced with
            db := synced.db.put entry.1 (syncMemory entry.1 fields content (now synced.updated) memory)
            updated := synced.updated + 1 }

theorem syncLine_of_none {line : List Char} (plain : markerId line = none) (synced : Synced)
    (behind : Option (List Char)) : syncLine now synced line behind = synced := by
  rw [syncLine, plain]

theorem syncLine_of_some {line : List Char} {id : Uuid} (named : markerId line = some id) (synced : Synced)
    (rest : List (List Char)) :
    syncLine now synced line rest.head? = syncEntry now synced (id, (rest.map strip).headD []) := by
  have same : rest.head?.bind parseMemoryLine = parseMemoryLine ((rest.map strip).headD []) := by
    cases rest with
    | nil =>
      unfold parseMemoryLine
      rfl
    | cons next later => exact (parseMemoryLine_strip next).symm
  rw [syncLine, named, syncEntry]
  dsimp only
  generalize rest.head?.bind parseMemoryLine = read at same ⊢
  subst same
  rfl

theorem syncLines_eq_foldl (lines : List (List Char)) (synced : Synced) :
    syncLines now synced lines = (entriesOf (lines.map strip)).foldl (syncEntry now) synced := by
  induction lines generalizing synced with
  | nil => rfl
  | cons line rest ih =>
    rw [syncLines, ih, List.map_cons]
    cases named : markerId line with
    | none => rw [syncLine_of_none now named, entriesOf_cons_of_none ((markerId_strip line).trans named)]
    | some id =>
      rw [syncLine_of_some now named, entriesOf_cons_of_some ((markerId_strip line).trans named), List.foldl_cons]

/-- Reading the file back goes through its entries. -/
theorem sync_eq_foldl (state : State) : (syncFromMemoryFile state now).2 =
    { state with db := ((entries state.file).foldl (syncEntry now) { db := state.db }).db } := by
  rw [syncFromMemoryFile, syncLines_eq_foldl, entriesOf_splitlines]

omit [UuidData] in
theorem syncEntry_cases (synced : Synced) (entry : Uuid × List Char) :
    (syncEntry now synced entry).db = synced.db ∨ ∃ memory fields content,
      synced.db.memories entry.1 = some memory ∧ parseMemoryLine entry.2 = some (fields, content) ∧
        (syncEntry now synced entry).db =
          synced.db.put entry.1 (syncMemory entry.1 fields content (now synced.updated) memory) := by
  rw [syncEntry]
  split
  next => exact .inl rfl
  next memory known =>
    split
    next => exact .inl rfl
    next fields content read => exact .inr ⟨memory, fields, content, known, read, rfl⟩

/-- What each entry keeps when it is read, the whole pass keeps. -/
theorem sync_keeps {holds : Database → Prop} {state : State} (start : holds state.db)
    (keeps : ∀ db entry memory fields content time, entry ∈ entries state.file → holds db →
      db.memories entry.1 = some memory → parseMemoryLine entry.2 = some (fields, content) →
      holds (db.put entry.1 (syncMemory entry.1 fields content time memory))) :
    holds (syncFromMemoryFile state now).2.db := by
  have fold : ∀ read synced, read ⊆ entries state.file → holds synced.db →
      holds (read.foldl (syncEntry now) synced).db := by
    intro read synced within held
    induction read generalizing synced with
    | nil => exact held
    | cons entry rest ih =>
      apply ih _ fun other member => within (List.mem_cons_of_mem _ member)
      rcases syncEntry_cases now synced entry with same | ⟨memory, fields, content, known, parsed, wrote⟩
      · rw [same]
        exact held
      · rw [wrote]
        exact keeps _ _ _ _ _ _ (within List.mem_cons_self) held known parsed
  rw [sync_eq_foldl]
  exact fold _ _ (List.Subset.refl _) start

end Sync

/-! The marker of a memory is a line of its own, and it names the memory. -/

section Marker

theorem toList_marker (id : Uuid) : (marker id).toList = "<!--".toList ++ ' ' :: ("soulclaw:memory".toList ++
    ' ' :: ("id=".toList ++ (id.str.toList ++ ' ' :: "-->".toList))) := by
  have front : "<!-- soulclaw:memory id=".toList =
      "<!--".toList ++ ' ' :: ("soulclaw:memory".toList ++ ' ' :: "id=".toList) := by decide +kernel
  have back : " -->".toList = ' ' :: "-->".toList := by decide +kernel
  unfold marker
  rw [String.toList_append, String.toList_append, front, back]
  simp only [List.append_assoc, List.cons_append]

theorem after_append (literal : String) (rest : List Char) : after literal (literal.toList ++ rest) = some rest := by
  have found : literal.toList.isPrefixOf (literal.toList ++ rest) = true :=
    List.isPrefixOf_iff_prefix.2 (List.prefix_append ..)
  rw [after, Loads.word, if_pos found, List.drop_left]

theorem str_isMarkChar (id : Uuid) {c : Char} (member : c ∈ id.str.toList) : isMarkChar c = true := by
  rcases Uuid.mem_str member with digit | hyphen
  · rw [isMarkChar, digit, Bool.true_or]
  · rw [hyphen]
    decide

theorem isBreak_of_isMarkChar {c : Char} (mark : isMarkChar c = true) : isBreak c = false := by
  cases breaks : isBreak c with
  | false => rfl
  | true =>
    have none : (['\n', '\x0b', '\x0c', '\r', '\x1c', '\x1d', '\x1e', '\u0085', '\u2028', '\u2029'].all
        fun c => !isMarkChar c) = true := by decide +kernel
    have other := List.all_eq_true.1 none c (of_decide_eq_true breaks)
    rw [mark] at other
    cases other

theorem marker_plain (id : Uuid) : ∀ c ∈ (marker id).toList, isBreak c = false := by
  intro c member
  have words : ∀ word ∈ ["<!--", "soulclaw:memory", "id=", "-->"], ∀ c ∈ word.toList, isBreak c = false := by
    have checked : (["<!--", "soulclaw:memory", "id=", "-->"].all fun word => word.toList.all fun c => !isBreak c) = true := by
      decide +kernel
    intro word listed c member
    have plain := List.all_eq_true.1 (List.all_eq_true.1 checked word listed) c member
    rw [Bool.not_eq_true'] at plain
    exact plain
  have space : isBreak ' ' = false := by decide
  rw [toList_marker] at member
  simp only [List.mem_append, List.mem_cons] at member
  rcases member with first | rfl | second | rfl | third | digit | rfl | last
  · exact words _ (by simp) c first
  · exact space
  · exact words _ (by simp) c second
  · exact space
  · exact words _ (by simp) c third
  · exact isBreak_of_isMarkChar (str_isMarkChar id digit)
  · exact space
  · exact words _ (by simp) c last

theorem parts_marker (id : Uuid) : parts (marker id).toList = [(marker id).toList] := parts_of_plain (marker_plain id)

theorem getLast_marker (id : Uuid) : (marker id).toList.getLast? = some '>' := by
  have back : "-->".toList = "--".toList ++ ['>'] := by decide +kernel
  rw [toList_marker, back]
  simp only [← List.cons_append, ← List.append_assoc, List.getLast?_concat]

variable [CharData]

theorem strip_marker (id : Uuid) : strip (marker id).toList = (marker id).toList := by
  have plain : Text.strip (marker id) = marker id := by
    apply Text.strip_of_edges
    · intro c first
      have head : (marker id).toList.head? = some '<' := by
        have start : "<!--".toList = '<' :: "!--".toList := by decide +kernel
        rw [toList_marker, start]
        rfl
      obtain rfl := Option.some.inj (head.symm.trans first)
      rw [CharData.isSpace_ascii _ (by decide)]
      decide
    · intro c last
      obtain rfl := Option.some.inj ((getLast_marker id).symm.trans last)
      rw [CharData.isSpace_ascii _ (by decide)]
      decide
  rw [← strip_toList, plain]

theorem markerId_marker [UuidData] (id : Uuid) : markerId (marker id).toList = some id := by
  have space : CharData.isSpace ' ' = true := by
    rw [CharData.isSpace_ascii _ (by decide)]
    decide
  have first : CharData.isSpace 's' = false := by
    rw [CharData.isSpace_ascii _ (by decide)]
    decide
  have second : CharData.isSpace 'i' = false := by
    rw [CharData.isSpace_ascii _ (by decide)]
    decide
  have third : CharData.isSpace '-' = false := by
    rw [CharData.isSpace_ascii _ (by decide)]
    decide
  have name : "soulclaw:memory".toList = 's' :: "oulclaw:memory".toList := by decide +kernel
  have key : "id=".toList = 'i' :: "d=".toList := by decide +kernel
  have arrow : "-->".toList = '-' :: "->".toList := by decide +kernel
  have group : matchMarker (marker id).toList = some id.str.toList := by
    have run : ∀ c ∈ id.str.toList, isMarkChar c = true := fun c member => str_isMarkChar id member
    have some' : id.str.toList ≠ [] := fun empty => Uuid.str_ne_empty id (String.toList_injective empty)
    have skipped : (' ' :: ("soulclaw:memory".toList ++ ' ' :: ("id=".toList ++ (id.str.toList ++
        ' ' :: "-->".toList)))).dropWhile CharData.isSpace = "soulclaw:memory".toList ++ ' ' :: ("id=".toList ++
          (id.str.toList ++ ' ' :: "-->".toList)) := by
      rw [List.dropWhile_cons_of_pos space, name, List.cons_append, List.dropWhile_cons_of_neg (by simp [first])]
    have spaced : afterSpaces (' ' :: ("id=".toList ++ (id.str.toList ++ ' ' :: "-->".toList))) =
        some ("id=".toList ++ (id.str.toList ++ ' ' :: "-->".toList)) := by
      rw [afterSpaces, List.head?_cons, Option.any_some, if_pos space, List.dropWhile_cons_of_pos space, key,
        List.cons_append, List.dropWhile_cons_of_neg (by simp [second])]
    have taken : (id.str.toList ++ ' ' :: "-->".toList).takeWhile isMarkChar = id.str.toList := by
      rw [List.takeWhile_append_of_pos run, List.takeWhile_cons_of_neg (by decide), List.append_nil]
    have dropped : (id.str.toList ++ ' ' :: "-->".toList).dropWhile isMarkChar = ' ' :: "-->".toList := by
      rw [List.dropWhile_append_of_pos run, List.dropWhile_cons_of_neg (by decide)]
    have closing : (after "-->" ((' ' :: "-->".toList).dropWhile CharData.isSpace)).isSome = true := by
      rw [List.dropWhile_cons_of_pos space, arrow, List.dropWhile_cons_of_neg (by simp [third]), ← arrow]
      have found := after_append "-->" []
      rw [List.append_nil] at found
      rw [found]
      rfl
    rw [toList_marker, matchMarker, after_append]
    simp only [Option.bind_eq_bind, Option.bind_some, skipped, after_append, spaced, taken, dropped]
    rw [if_pos ⟨some', closing⟩]
  rw [markerId, strip_marker, group]
  simp only [Option.bind_some, String.ofList_toList, Uuid.ofText_str]

end Marker

/-! Writing an entry. -/

section Writes
variable [CharData] [FloatData] [UuidData] {file : String} {id : Uuid} {memory : Memory}

/-- The line of an entry that is read back. -/
def entryLine (memory : Memory) : List Char := (stripped (memoryFileLine memory).toList).headD []

/-- No line of the entry names a memory. -/
def Contained (memory : Memory) : Prop := entries (memoryFileLine memory) = []

instance (memory : Memory) : Decidable (Contained memory) := by
  unfold Contained
  infer_instance

/-- The lines that name a memory are the markers, each memory has one of them, and no marker stands behind
another one. -/
structure Tidy (file : String) : Prop where
  canonical : ∀ line ∈ stripped file.toList, ∀ id, markerId line = some id → line = (marker id).toList
  apart : ∀ entry ∈ entries file, markerId entry.2 = none
  distinct : ((entries file).map Prod.fst).Nodup

omit [FloatData] in
/-- A file whose lines name no memory. -/
theorem tidy_of_nothing (nothing : entries file = []) : Tidy file where
  canonical := by
    intro line member id named
    rw [plain_of_entriesOf nothing line member] at named
    cases named
  apart := by
    rw [nothing]
    exact fun entry member => absurd member List.not_mem_nil
  distinct := by
    rw [nothing]
    exact List.nodup_nil

omit [FloatData] [UuidData] in
theorem visible_of_getLast_rstrip (text : List Char) : (rstrip text).getLast? ≠ some '\r' := by
  intro last
  have visible := getLast_rstrip last
  rw [CharData.isSpace_ascii _ (by decide)] at visible
  exact absurd visible (by decide)

omit [UuidData] in
/-- An entry does not end with a carriage return. -/
theorem getLast_memoryFileLine (memory : Memory) : (memoryFileLine memory).toList.getLast? ≠ some '\r' := by
  unfold memoryFileLine
  simp only [String.toList_append, strip_toList]
  have bracket : ") ".toList = [')', ' '] := by decide +kernel
  rw [bracket]
  cases content : strip memory.content.toList with
  | nil =>
    rw [List.append_nil, List.getLast?_append_of_ne_nil _ (by simp)]
    decide
  | cons c rest =>
    have last : (strip memory.content.toList).getLast? ≠ some '\r' := visible_of_getLast_rstrip _
    rw [content] at last
    rw [List.getLast?_append_of_ne_nil _ (by simp)]
    exact last

omit [FloatData] [UuidData] in
theorem stripped_append_newline {first : List Char} (edge : first.getLast? ≠ some '\r') (second : List Char) :
    stripped (first ++ '\n' :: second) = stripped first ++ stripped second := by
  rw [stripped, parts_append_newline edge, List.map_append, stripped, stripped]

omit [FloatData] [UuidData] in
theorem stripped_written (text : List Char) : stripped (written text).toList = stripped text := by
  rw [written, String.toList_ofList, stripped, parts_universalNewlines, stripped]

omit [FloatData] in
/-- What is written with an end of line behind it is read as the same entries. -/
theorem entries_written_rstrip (text : List Char) :
    entries (written (rstrip text ++ ['\n'])) = entriesOf (stripped text) := by
  obtain ⟨count, same⟩ := stripped_rstrip text
  rw [entries, stripped_written, stripped_append_newline (visible_of_getLast_rstrip _), same, entriesOf_append_blanks]
  exact entriesOf_append_blanks 1 _

omit [FloatData] [UuidData] in
/-- A blank line, a marker and an entry. -/
theorem stripped_section (id : Uuid) {entry : List Char} (edge : entry.getLast? ≠ some '\r') :
    stripped ('\n' :: ((marker id).toList ++ '\n' :: (entry ++ ['\n']))) =
      [] :: (marker id).toList :: (stripped entry ++ [[]]) := by
  have marked : (marker id).toList.getLast? ≠ some '\r' := by
    rw [getLast_marker]
    decide
  have mark : stripped (marker id).toList = [(marker id).toList] := by
    rw [stripped, parts_marker, List.map_singleton, strip_marker]
  have none : stripped ([] : List Char) = [[]] := rfl
  have blank := stripped_append_newline (by simp : ([] : List Char).getLast? ≠ some '\r')
    ((marker id).toList ++ '\n' :: (entry ++ ['\n']))
  rw [List.nil_append] at blank
  rw [blank, none, stripped_append_newline marked, mark, stripped_append_newline edge, none]
  rfl

omit [UuidData] in
/-- The lines of the file after an entry has been appended. -/
theorem stripped_append (new : Text.contains file (marker id) = false) :
    stripped (appendToMemoryFile file id memory).toList = stripped (rstrip file.toList) ++
      [] :: (marker id).toList :: (stripped (memoryFileLine memory).toList ++ [[]]) := by
  unfold appendToMemoryFile
  rw [if_neg (by simp [new]), stripped_written, stripped_append_newline (visible_of_getLast_rstrip _),
    stripped_section id (getLast_memoryFileLine memory)]

/-- Appending an entry adds it to the list, and whatever its lines name. -/
theorem entries_append_lines (new : Text.contains file (marker id) = false) :
    entries (appendToMemoryFile file id memory) =
      entries file ++ (id, entryLine memory) :: entries (memoryFileLine memory) := by
  obtain ⟨count, same⟩ := stripped_rstrip file.toList
  have before : entriesOf (stripped (rstrip file.toList)) = entries file := by
    rw [entries, same, entriesOf_append_blanks]
  have inside : entriesOf (stripped (memoryFileLine memory).toList ++ [[]]) = entries (memoryFileLine memory) :=
    entriesOf_append_blanks 1 _
  have head : (stripped (memoryFileLine memory).toList ++ [[]]).headD [] = entryLine memory := by
    rw [entryLine]
    cases stripped (memoryFileLine memory).toList <;> rfl
  rw [entries, stripped_append new, entriesOf_append rfl, before, entriesOf_cons_of_none markerId_nil,
    entriesOf_cons_of_some (markerId_marker id), inside, head]

/-- Appending an entry adds it to the list. -/
theorem entries_append (new : Text.contains file (marker id) = false) (contained : Contained memory) :
    entries (appendToMemoryFile file id memory) = entries file ++ [(id, entryLine memory)] := by
  rw [entries_append_lines new, contained]

theorem markerId_entryLine (contained : Contained memory) : markerId (entryLine memory) = none := by
  have plain := plain_of_entriesOf contained
  rw [entryLine]
  cases lines : stripped (memoryFileLine memory).toList with
  | nil => exact markerId_nil
  | cons first rest => exact plain first (lines ▸ List.mem_cons_self)

theorem tidy_append (tidy : Tidy file) (new : Text.contains file (marker id) = false)
    (fresh : ∀ entry ∈ entries file, entry.1 ≠ id) (contained : Contained memory) :
    Tidy (appendToMemoryFile file id memory) := by
  have plain := plain_of_entriesOf contained
  obtain ⟨count, same⟩ := stripped_rstrip file.toList
  refine ⟨?_, ?_, ?_⟩
  · intro line member other named
    rw [stripped_append new] at member
    simp only [List.mem_append, List.mem_cons, List.not_mem_nil, or_false] at member
    rcases member with old | rfl | rfl | inside | rfl
    · exact tidy.canonical line (same ▸ List.mem_append_left _ old) other named
    · rw [markerId_nil] at named
      cases named
    · rw [Option.some.inj ((markerId_marker id).symm.trans named)]
    · rw [plain line inside] at named
      cases named
    · rw [markerId_nil] at named
      cases named
  · intro other member
    rw [entries_append new contained] at member
    rcases List.mem_append.1 member with old | last
    · exact tidy.apart other old
    · rw [List.mem_singleton] at last
      rw [last, markerId_entryLine contained]
  · rw [entries_append new contained, List.map_append, List.nodup_append]
    refine ⟨tidy.distinct, by simp, ?_⟩
    intro other old added last same
    obtain ⟨found, inside, rfl⟩ := List.mem_map.1 old
    exact fresh found inside (same.trans (List.mem_singleton.1 last))

omit [FloatData] [UuidData] in
/-- The lines before and behind the first one that is the marker. -/
theorem rewriteLines_eq_some {mark entry : List Char} {lines result : List (List Char)}
    (found : rewriteLines mark entry lines = some result) : ∃ first line rest, lines = first ++ line :: rest ∧
      strip line = mark ∧ (∀ other ∈ first, strip other ≠ mark) ∧ result = first ++ line :: entry :: rest.tail := by
  induction lines generalizing result with
  | nil => cases found
  | cons line rest ih =>
    rw [rewriteLines] at found
    by_cases here : strip line = mark
    · rw [if_pos here] at found
      cases found
      exact ⟨[], line, rest, rfl, here, by simp, rfl⟩
    · rw [if_neg here] at found
      obtain ⟨tail, later, rfl⟩ := Option.map_eq_some_iff.1 found
      obtain ⟨first, own, behind, rfl, marked, before, rfl⟩ := ih later
      refine ⟨line :: first, own, behind, rfl, marked, ?_, rfl⟩
      intro other member
      rcases List.mem_cons.1 member with rfl | inside
      · exact here
      · exact before other inside

omit [FloatData] [UuidData] in
theorem rewriteLines_eq_none {mark entry : List Char} {lines : List (List Char)}
    (missing : rewriteLines mark entry lines = none) : ∀ line ∈ lines, strip line ≠ mark := by
  induction lines with
  | nil => simp
  | cons line rest ih =>
    rw [rewriteLines] at missing
    by_cases here : strip line = mark
    · rw [if_pos here] at missing
      cases missing
    · rw [if_neg here] at missing
      intro other member
      rcases List.mem_cons.1 member with rfl | inside
      · exact here
      · exact ih (Option.map_eq_none_iff.1 missing) other inside

omit [FloatData] [UuidData] in
/-- The lines of a text that has been joined of lines and one entry. -/
theorem stripped_joined {first rest : List (List Char)} {line entry : List Char}
    (plain : ∀ other ∈ first ++ line :: rest, ∀ c ∈ other, isBreak c = false)
    (edge : entry.getLast? ≠ some '\r') :
    stripped (joined (first ++ line :: entry :: rest.tail)) =
      first.map strip ++ strip line :: (stripped entry ++ rest.tail.map strip) := by
  have edges : ∀ other ∈ first ++ line :: entry :: rest.tail, other.getLast? ≠ some '\r' := by
    intro other member last
    have member : other = entry ∨ other ∈ first ++ line :: rest := by
      simp only [List.mem_append, List.mem_cons] at member ⊢
      rcases member with inside | rfl | rfl | inside
      · exact .inr (.inl inside)
      · exact .inr (.inr (.inl rfl))
      · exact .inl rfl
      · exact .inr (.inr (.inr (List.mem_of_mem_tail inside)))
    rcases member with rfl | inside
    · exact edge last
    · exact absurd (plain other inside '\r' (List.mem_of_getLast? last)) (by decide)
  have kept : ∀ lines, lines ⊆ first ++ line :: rest → lines.flatMap parts = lines :=
    fun lines within => flatMap_parts_of_plain fun other member => plain other (within member)
  have front := kept first (List.subset_append_left _ _)
  have own := kept [line] (by simp)
  have back := kept rest.tail fun other member => by
    exact List.mem_append_right _ (List.mem_cons_of_mem _ (List.mem_of_mem_tail member))
  rw [List.flatMap_singleton] at own
  rw [stripped, parts_joined (by simp) edges, List.flatMap_append, List.flatMap_cons, List.flatMap_cons, front, own,
    back, stripped]
  simp

omit [FloatData] [UuidData] in
theorem mem_stripped_of_mem {text line : List Char} (member : line ∈ splitlines text) : strip line ∈ stripped text := by
  obtain ⟨count, same⟩ := stripped_splitlines text
  exact same ▸ List.mem_append_left _ (List.mem_map_of_mem member)

omit [FloatData] in
/-- A tidy file without the marker of a memory has no entry of it. -/
theorem absent_of_missing (tidy : Tidy file) (missing : ∀ line ∈ splitlines file.toList, strip line ≠ (marker id).toList) :
    ∀ entry ∈ entries file, entry.1 ≠ id := by
  rintro entry member rfl
  rw [← entriesOf_splitlines] at member
  obtain ⟨line, inside, named⟩ := exists_line_of_mem member
  obtain ⟨other, read, rfl⟩ := List.mem_map.1 inside
  exact missing other read (tidy.canonical _ (mem_stripped_of_mem read) entry.1 named)

omit [UuidData] in
/-- A rewrite leaves the file alone, or it replaces the line behind the first marker of the memory. -/
theorem rewrite_cases (file : String) (id : Uuid) (memory : Memory) :
    (rewriteMemoryFileEntry file id memory = file ∧
        ∀ line ∈ splitlines file.toList, strip line ≠ (marker id).toList) ∨
      ∃ first line rest text, splitlines file.toList = first ++ line :: rest ∧ strip line = (marker id).toList ∧
        (∀ other ∈ first, strip other ≠ (marker id).toList) ∧
        rewriteMemoryFileEntry file id memory = written (rstrip text ++ ['\n']) ∧
        stripped text = first.map strip ++
          (marker id).toList :: (stripped (memoryFileLine memory).toList ++ rest.tail.map strip) := by
  unfold rewriteMemoryFileEntry
  split
  next lines found =>
    obtain ⟨first, line, rest, split, marked, before, rfl⟩ := rewriteLines_eq_some found
    refine .inr ⟨first, line, rest, _, split, marked, before, rfl, ?_⟩
    rw [stripped_joined (fun other member => plain_of_mem_splitlines (split ▸ member)) (getLast_memoryFileLine memory),
      marked]
  next missing => exact .inl ⟨rfl, rewriteLines_eq_none missing⟩

/-- Rewriting an entry replaces its line. -/
theorem entries_rewrite (tidy : Tidy file) (contained : Contained memory) :
    entries (rewriteMemoryFileEntry file id memory) = setEntry id (entryLine memory) (entries file) := by
  rcases rewrite_cases file id memory with ⟨same, missing⟩ | ⟨first, line, rest, text, split, marked, before, wrote, now⟩
  · rw [same, setEntry_of_absent (absent_of_missing tidy missing)]
  · have old : entries file = entriesOf (first.map strip ++ (marker id).toList :: rest.map strip) := by
      rw [← entriesOf_splitlines, split, List.map_append, List.map_cons, marked]
    obtain ⟨front, from', parted⟩ := exists_front (first.map strip) (marker id).toList
    rw [parted, entriesOf_cons_of_some (markerId_marker id)] at old
    have earlier : ∀ entry ∈ front, entry.1 ≠ id := by
      rintro entry member rfl
      obtain ⟨other, inside, named⟩ := from' entry member
      obtain ⟨found, read, rfl⟩ := List.mem_map.1 inside
      have listed : found ∈ splitlines file.toList := split ▸ List.mem_append_left _ read
      exact before found read (tidy.canonical _ (mem_stripped_of_mem listed) entry.1 named)
    have later : ∀ entry ∈ entriesOf (rest.map strip), entry.1 ≠ id := by
      have distinct := tidy.distinct
      rw [old, List.map_append, List.map_cons, List.nodup_append] at distinct
      rintro entry member rfl
      exact (List.nodup_cons.1 distinct.2.1).1 (List.mem_map.2 ⟨entry, member, rfl⟩)
    have tail : entriesOf (rest.tail.map strip) = entriesOf (rest.map strip) := by
      cases rest with
      | nil => rfl
      | cons next others =>
        have apart := tidy.apart (id, strip next) (by rw [old]; simp)
        rw [List.map_cons, entriesOf_cons_of_none apart, List.tail_cons]
    have head : (stripped (memoryFileLine memory).toList ++ rest.tail.map strip).headD [] = entryLine memory := by
      rw [entryLine]
      cases lines : stripped (memoryFileLine memory).toList with
      | nil => exact absurd (List.map_eq_nil_iff.1 lines) (parts_ne_nil _)
      | cons own others => rfl
    calc entries (rewriteMemoryFileEntry file id memory)
        = entriesOf (first.map strip ++
            (marker id).toList :: (stripped (memoryFileLine memory).toList ++ rest.tail.map strip)) := by
          rw [wrote, entries_written_rstrip, now]
      _ = front ++ (id, entryLine memory) :: entriesOf (rest.map strip) := by
          rw [parted, entriesOf_cons_of_some (markerId_marker id), head,
            entriesOf_of_plain (plain_of_entriesOf contained), tail]
      _ = setEntry id (entryLine memory) (entries file) := by
          rw [old, setEntry, List.map_append, List.map_cons, if_pos rfl]
          exact congrArg₂ (· ++ ·) (setEntry_of_absent earlier).symm
            (congrArg _ (setEntry_of_absent later).symm)

theorem tidy_rewrite (tidy : Tidy file) (contained : Contained memory) :
    Tidy (rewriteMemoryFileEntry file id memory) := by
  have entries' : entries (rewriteMemoryFileEntry file id memory) = setEntry id (entryLine memory) (entries file) :=
    entries_rewrite tidy contained
  refine ⟨?_, ?_, ?_⟩
  · rcases rewrite_cases file id memory with ⟨same, _⟩ | ⟨first, line, rest, text, split, marked, before, wrote, now⟩
    · rw [same]
      exact tidy.canonical
    · intro other member named' named
      obtain ⟨count, whole⟩ := stripped_rstrip text
      rw [wrote, stripped_written, stripped_append_newline (visible_of_getLast_rstrip _)] at member
      have visible : other ≠ [] := by
        rintro rfl
        rw [markerId_nil] at named
        cases named
      have inside : other ∈ stripped text := by
        rcases List.mem_append.1 member with inside | blank
        · exact whole ▸ List.mem_append_left _ inside
        · exact absurd (List.mem_singleton.1 blank) visible
      have kept : ∀ found ∈ splitlines file.toList, strip found = other → other = (marker named').toList := by
        rintro found read rfl
        exact tidy.canonical _ (mem_stripped_of_mem read) named' named
      rw [now, List.mem_append, List.mem_cons, List.mem_append] at inside
      rcases inside with inside | rfl | inside | inside
      · obtain ⟨found, read, same⟩ := List.mem_map.1 inside
        exact kept found (split ▸ List.mem_append_left _ read) same
      · rw [Option.some.inj ((markerId_marker id).symm.trans named)]
      · rw [plain_of_entriesOf contained other inside] at named
        cases named
      · obtain ⟨found, read, same⟩ := List.mem_map.1 inside
        exact kept found (split ▸ List.mem_append_right _ (List.mem_cons_of_mem _ (List.mem_of_mem_tail read))) same
  · intro entry member
    rw [entries', setEntry] at member
    obtain ⟨old, inside, rfl⟩ := List.mem_map.1 member
    split
    next => rw [markerId_entryLine contained]
    next => rw [tidy.apart old inside]
  · rw [entries', fst_setEntry]
    exact tidy.distinct

end Writes

end SoulClaw.Memories.Entries
