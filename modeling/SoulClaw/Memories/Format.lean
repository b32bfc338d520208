import SoulClaw.Memories.Entries

/-! The line of an entry. What is read in it depends on the first line of the content alone, and a row of
plain words is read back as it was written. -/

namespace SoulClaw.Memories.Format
open Foundation File Entries Lines

section Shape
variable [CharData] [FloatData]

/-- The parts between the brackets of an entry. -/
def metaParts (memory : Memory) : List (List Char) :=
  [memory.kind.toList,
    ' ' :: ("source".toList ++ '=' :: memory.source.toList),
    ' ' :: ("status".toList ++ '=' :: (orText memory.status (if memory.archived then "archived" else "active")).toList),
    ' ' :: ("importance".toList ++ '=' :: (FloatData.fixed2 memory.importance).toList),
    ' ' :: ("confidence".toList ++ '=' :: (FloatData.fixed2 memory.confidence).toList),
    ' ' :: ("stability".toList ++ '=' :: (FloatData.fixed2 memory.stability).toList)]

def metaText (memory : Memory) : List Char := [','].intercalate (metaParts memory)

theorem toList_memoryFileLine (memory : Memory) : (memoryFileLine memory).toList =
    '-' :: ' ' :: '(' :: (metaText memory ++ ')' :: ' ' :: strip memory.content.toList) := by
  have head : "- (".toList = ['-', ' ', '('] := by decide +kernel
  have source : ", source=".toList = ',' :: ' ' :: ("source".toList ++ ['=']) := by decide +kernel
  have status : ", status=".toList = ',' :: ' ' :: ("status".toList ++ ['=']) := by decide +kernel
  have importance : ", importance=".toList = ',' :: ' ' :: ("importance".toList ++ ['=']) := by decide +kernel
  have confidence : ", confidence=".toList = ',' :: ' ' :: ("confidence".toList ++ ['=']) := by decide +kernel
  have stability : ", stability=".toList = ',' :: ' ' :: ("stability".toList ++ ['=']) := by decide +kernel
  have bracket : ") ".toList = [')', ' '] := by decide +kernel
  unfold memoryFileLine
  simp only [String.toList_append, strip_toList, head, source, status, importance, confidence, stability, bracket,
    metaText, metaParts, List.intercalate, List.intersperse, List.flatten_cons, List.flatten_nil, List.append_assoc,
    List.cons_append, List.nil_append, List.append_nil]

/-- The first line of a content, as the entry has it. -/
def firstLine (content : String) : List Char := (strip content.toList).takeWhile fun c => !isBreak c

/-- The first line of the content is not blank. -/
def Shows (content : String) : Prop := rstrip (firstLine content) ≠ []

instance (content : String) : Decidable (Shows content) := by
  unfold Shows
  infer_instance

theorem strip_entryLine (memory : Memory) : strip (entryLine memory) = entryLine memory := by
  have stripped' : ∀ line ∈ stripped (memoryFileLine memory).toList, strip line = line := by
    intro line member
    obtain ⟨own, _, rfl⟩ := List.mem_map.1 member
    exact strip_strip own
  rw [entryLine]
  cases lines : stripped (memoryFileLine memory).toList with
  | nil => rfl
  | cons first rest => exact stripped' first (lines ▸ List.mem_cons_self)

theorem entryLine_eq (memory : Memory) : entryLine memory = strip
    (('-' :: ' ' :: '(' :: (metaText memory ++ ')' :: ' ' :: strip memory.content.toList)).takeWhile
      fun c => !isBreak c) := by
  rw [← toList_memoryFileLine, ← headD_parts, entryLine, stripped]
  cases lines : parts (memoryFileLine memory).toList with
  | nil => rfl
  | cons first rest => rfl

/-- Of brackets that hold a line break, the entry has what stands before it. -/
theorem entryLine_of_broken {first second : Memory} (same : metaText first = metaText second)
    (broken : ¬ ∀ c ∈ metaText first, isBreak c = false) : entryLine first = entryLine second := by
  have cut : ∀ tail, ((metaText first ++ tail).takeWhile fun c => !isBreak c) =
      (metaText first).takeWhile fun c => !isBreak c := by
    intro tail
    rw [List.takeWhile_append, if_neg]
    intro whole
    have all := List.takeWhile_eq_self_iff.1 ((List.takeWhile_prefix _).eq_of_length whole)
    exact broken fun c member => by simpa using all c member
  have front : ∀ tail, (('-' :: ' ' :: '(' :: tail).takeWhile fun c => !isBreak c) =
      '-' :: ' ' :: '(' :: (tail.takeWhile fun c => !isBreak c) := by
    intro tail
    rw [List.takeWhile_cons_of_pos (by decide), List.takeWhile_cons_of_pos (by decide),
      List.takeWhile_cons_of_pos (by decide)]
  rw [entryLine_eq, entryLine_eq, front, front, ← same, cut, cut]

/-- Of brackets without a line break, the entry has all, and the first line of the content. -/
theorem entryLine_of_plain {memory : Memory} (plain : ∀ c ∈ metaText memory, isBreak c = false) :
    entryLine memory = strip ('-' :: ' ' :: '(' :: (metaText memory ++ ')' :: ' ' :: firstLine memory.content)) := by
  have whole : ((metaText memory ++ ')' :: ' ' :: strip memory.content.toList).takeWhile fun c => !isBreak c) =
      metaText memory ++ ')' :: ' ' :: firstLine memory.content := by
    rw [List.takeWhile_append_of_pos (by simpa using plain), List.takeWhile_cons_of_pos (by decide),
      List.takeWhile_cons_of_pos (by decide), firstLine]
  rw [entryLine_eq, List.takeWhile_cons_of_pos (by decide), List.takeWhile_cons_of_pos (by decide),
    List.takeWhile_cons_of_pos (by decide), whole]

omit [FloatData] in
theorem visible_of_ascii {c : Char} (ascii : c.toNat < 0x80) (visible : asciiSpace c = false) :
    CharData.isSpace c = false := by
  rw [CharData.isSpace_ascii c ascii, visible]

theorem entryLine_of_shows {memory : Memory} (plain : ∀ c ∈ metaText memory, isBreak c = false)
    (shows' : Shows memory.content) : entryLine memory =
      '-' :: ' ' :: '(' :: (metaText memory ++ ')' :: ' ' :: rstrip (firstLine memory.content)) := by
  have whole := rstrip_append shows' (' ' :: '(' :: (metaText memory ++ [')', ' ']))
  simp only [List.cons_append, List.append_assoc, List.nil_append] at whole
  rw [entryLine_of_plain plain, strip_cons (visible_of_ascii (by decide) (by decide)), whole]

omit [FloatData] in
/-- The brackets end at the first closing one. -/
theorem matchLine_entry {head : List Char} (inside : ')' ∉ head) (tail : List Char) :
    matchLine ('-' :: ' ' :: '(' :: (head ++ ')' :: tail)) = (afterSpaces tail).map fun content => (head, content) := by
  have dash : after "-" ('-' :: ' ' :: '(' :: (head ++ ')' :: tail)) = some (' ' :: '(' :: (head ++ ')' :: tail)) :=
    after_append "-" _
  have space : CharData.isSpace ' ' = true := by
    rw [CharData.isSpace_ascii _ (by decide)]
    decide
  have bracket : CharData.isSpace '(' = false := visible_of_ascii (by decide) (by decide)
  have spaced : afterSpaces (' ' :: '(' :: (head ++ ')' :: tail)) = some ('(' :: (head ++ ')' :: tail)) := by
    rw [afterSpaces, List.head?_cons, Option.any_some, if_pos space, List.dropWhile_cons_of_pos space,
      List.dropWhile_cons_of_neg (by simp [bracket])]
  have opened : after "(" ('(' :: (head ++ ')' :: tail)) = some (head ++ ')' :: tail) := after_append "(" _
  have kept : ∀ c ∈ head, decide (c ≠ ')') = true := by
    intro c member
    exact decide_eq_true fun same => inside (same ▸ member)
  have taken : (head ++ ')' :: tail).takeWhile (· ≠ ')') = head := by
    rw [List.takeWhile_append_of_pos kept, List.takeWhile_cons_of_neg (by decide), List.append_nil]
  have dropped : (head ++ ')' :: tail).dropWhile (· ≠ ')') = ')' :: tail := by
    rw [List.dropWhile_append_of_pos kept, List.dropWhile_cons_of_neg (by decide)]
  have closed : after ")" (')' :: tail) = some tail := after_append ")" _
  rw [matchLine, dash]
  simp only [Option.bind_eq_bind, Option.bind_some, spaced, opened, dropped, closed, taken]
  cases afterSpaces tail <;> rfl

omit [CharData] [FloatData] in
/-- The text behind the first closing bracket, where the content may follow on. -/
theorem exists_split (text : List Char) : ∃ head behind, ')' ∉ head ∧ behind ≠ [] ∧
    (∀ rest, text ++ ')' :: ' ' :: rest = head ++ ')' :: (behind ++ rest)) ∧
      (')' ∉ text → head = text ∧ behind = [' ']) := by
  by_cases bracket : ')' ∈ text
  · obtain ⟨head, tail, rfl, first⟩ := List.eq_append_cons_of_mem bracket
    exact ⟨head, tail ++ [')', ' '], first, by simp, fun rest => by simp, fun none => absurd bracket none⟩
  · exact ⟨text, [' '], bracket, by simp, fun rest => rfl, fun _ => ⟨rfl, rfl⟩⟩

theorem parse_entryLine {memory : Memory} (plain : ∀ c ∈ metaText memory, isBreak c = false)
    (shows' : Shows memory.content) {head behind : List Char} (inside : ')' ∉ head)
    (split : ∀ rest, metaText memory ++ ')' :: ' ' :: rest = head ++ ')' :: (behind ++ rest)) :
    parseMemoryLine (entryLine memory) = (afterSpaces (behind ++ rstrip (firstLine memory.content))).map
      fun content => (readParts head, String.ofList (strip content)) := by
  rw [parseMemoryLine, strip_entryLine, entryLine_of_shows plain shows', split, matchLine_entry inside, Option.map_map]
  rfl

omit [FloatData] in
theorem firstLine_plain (content : String) : ∀ c ∈ firstLine content, isBreak c = false := by
  intro c member
  simpa using List.mem_takeWhile_imp member

omit [FloatData] in
theorem shows_ofList_strip {text : List Char} (plain : ∀ c ∈ text, isBreak c = false)
    (visible : ∃ c ∈ text, CharData.isSpace c = false) : Shows (String.ofList (strip text)) := by
  obtain ⟨c, member, visible⟩ := visible
  have own : firstLine (String.ofList (strip text)) = strip text := by
    rw [firstLine, String.toList_ofList, strip_strip, List.takeWhile_eq_self_iff]
    intro d inside
    rw [plain d (strip_subset text inside), Bool.not_false]
  rw [Shows, own]
  exact fun blank => strip_ne_nil member visible (by rw [strip, ← rstrip_rstrip]; exact blank)

omit [FloatData] in
theorem exists_visible {content : String} (shows' : Shows content) :
    ∃ c ∈ rstrip (firstLine content), CharData.isSpace c = false := by
  by_contra none
  apply shows'
  rw [← rstrip_rstrip, rstrip_eq_nil_iff]
  intro c member
  cases blank : CharData.isSpace c with
  | true => rfl
  | false => exact absurd ⟨c, member, blank⟩ none

/-- What two entries give back that differ in their contents only. -/
theorem parse_alike {first second : Memory} (same : metaText first = metaText second)
    (before : Shows first.content) (after' : Shows second.content) :
    parseMemoryLine (entryLine first) = parseMemoryLine (entryLine second) ∨
      ∃ fields old new, parseMemoryLine (entryLine first) = some (fields, old) ∧
        parseMemoryLine (entryLine second) = some (fields, new) ∧ Shows old ∧ Shows new := by
  by_cases plain : ∀ c ∈ metaText first, isBreak c = false
  · obtain ⟨head, behind, inside, some', split, _⟩ := exists_split (metaText first)
    have inner : ∀ c ∈ behind, isBreak c = false := by
      intro c member
      have whole : c ∈ metaText first ++ [')', ' '] := by
        rw [split []]
        simp [member]
      rcases List.mem_append.1 whole with old | new
      · exact plain c old
      · rcases List.mem_cons.1 new with rfl | last
        · decide
        · rw [List.mem_singleton.1 last]
          decide
    have shown : ∀ content, Shows content → Shows (String.ofList (strip
        ((behind ++ rstrip (firstLine content)).dropWhile CharData.isSpace))) := by
      intro content shows'
      obtain ⟨c, member, visible⟩ := exists_visible shows'
      apply shows_ofList_strip
      · intro d kept
        rcases List.mem_append.1 (List.dropWhile_subset _ kept) with old | new
        · exact inner d old
        · exact firstLine_plain content d (rstrip_sublist _ new)
      · exact ⟨c, mem_dropWhile_of_visible (List.mem_append_right _ member) visible, visible⟩
    have read := parse_entryLine plain before inside split
    have read' := parse_entryLine (same ▸ plain) after' inside (same ▸ split)
    cases behind with
    | nil => exact absurd rfl some'
    | cons c rest =>
      rw [List.cons_append, afterSpaces, List.head?_cons, Option.any_some] at read read'
      by_cases space : CharData.isSpace c = true
      · rw [if_pos space, Option.map_some, ← List.cons_append] at read read'
        exact .inr ⟨_, _, _, read, read', shown _ before, shown _ after'⟩
      · rw [if_neg space] at read read'
        exact .inl (read.trans read'.symm)
  · rw [entryLine_of_broken same plain]
    exact .inl rfl

end Shape

/-! Rows of plain words. -/

section Words
variable [CharData]

/-- A text that stands between the brackets as one part, or as the value of one. -/
def IsWord (text : String) : Prop :=
  strip text.toList = text.toList ∧ ∀ c ∈ text.toList, isBreak c = false ∧ c ≠ ',' ∧ c ≠ ')'

instance (text : String) : Decidable (IsWord text) := by
  unfold IsWord
  have plain := List.decidableBAll (fun c => isBreak c = false ∧ c ≠ ',' ∧ c ≠ ')') text.toList
  infer_instance

/-- A content that is blank, or one line without white space around it. -/
def IsLine (content : String) : Prop := strip content.toList = [] ∨
  strip content.toList = content.toList ∧ ∀ c ∈ content.toList, isBreak c = false

instance (content : String) : Decidable (IsLine content) := by
  unfold IsLine
  have single := List.decidableBAll (fun c => isBreak c = false) content.toList
  infer_instance

/-- A score that two decimals show. -/
def Hundredth [FloatData] (score : PyFloat) : Prop :=
  IsWord (FloatData.fixed2 score) ∧ (FloatData.parse (FloatData.fixed2 score)).map clamp = some score

instance [FloatData] (score : PyFloat) : Decidable (Hundredth score) := by
  unfold Hundredth
  infer_instance

/-- A row whose entry has no mark but those of the format. -/
def Plain [FloatData] (memory : Memory) : Prop :=
  (IsWord memory.kind ∧ '=' ∉ memory.kind.toList) ∧ IsWord memory.source ∧ IsWord memory.status ∧
    IsLine memory.content ∧ ∀ score ∈ [memory.importance, memory.confidence, memory.stability], Hundredth score

instance [FloatData] (memory : Memory) : Decidable (Plain memory) := by
  unfold Plain
  infer_instance

/-- The name of a value between the brackets. -/
def IsKey (key : String) : Prop := key ≠ "" ∧
  ∀ c ∈ key.toList, c.toNat < 0x80 ∧ asciiSpace c = false ∧ isBreak c = false ∧ c ∉ [',', ')', '=']

omit [CharData] in
theorem isKey_of_mem {key : String} (member : key ∈ ["source", "status", "importance", "confidence", "stability"]) :
    IsKey key := by
  have checked : ∀ key ∈ ["source", "status", "importance", "confidence", "stability"], key ≠ "" ∧
      (key.toList.all fun c => c.toNat < 0x80 ∧ asciiSpace c = false ∧ isBreak c = false ∧ c ∉ [',', ')', '=']) = true := by
    decide +kernel
  obtain ⟨nonempty, plain⟩ := checked key member
  exact ⟨nonempty, fun c inside => of_decide_eq_true (List.all_eq_true.1 plain c inside)⟩

theorem strip_pair {key : String} (name : IsKey key) {value : List Char} (word : strip value = value) :
    strip (' ' :: (key.toList ++ '=' :: value)) = key.toList ++ '=' :: value := by
  have space : CharData.isSpace ' ' = true := by
    rw [CharData.isSpace_ascii _ (by decide)]
    decide
  have visible : CharData.isSpace '=' = false := visible_of_ascii (by decide) (by decide)
  have tail : rstrip ('=' :: value) = '=' :: value := by
    have same : strip ('=' :: value) = '=' :: rstrip value := strip_cons visible value
    rw [rstrip_cons visible]
    congr 1
    calc rstrip value = rstrip (strip value) := by rw [word]
      _ = strip value := by rw [strip, rstrip_rstrip]
      _ = value := word
  cases first : key.toList with
  | nil => exact absurd (String.toList_injective first) name.1
  | cons c rest =>
    have own := name.2 c (first ▸ List.mem_cons_self)
    have head : CharData.isSpace c = false := visible_of_ascii own.1 own.2.1
    rw [strip, List.dropWhile_cons_of_pos space, List.cons_append,
      List.dropWhile_cons_of_neg (by simp [head]), ← List.cons_append, rstrip_append (by simp [tail]), tail]

/-- A part with a name and a value is one more field. -/
theorem readPart_pair {key : String} (name : IsKey key) {value : String} (word : strip value.toList = value.toList)
    (fields : Fields) : readPart fields (' ' :: (key.toList ++ '=' :: value.toList)) = (key, value) :: fields := by
  have kept : ∀ c ∈ key.toList, decide (c ≠ '=') = true := by
    intro c member
    exact decide_eq_true fun same => (name.2 c member).2.2.2 (by simp [same])
  have taken : (key.toList ++ '=' :: value.toList).takeWhile (· ≠ '=') = key.toList := by
    rw [List.takeWhile_append_of_pos kept, List.takeWhile_cons_of_neg (by decide), List.append_nil]
  have dropped : (key.toList ++ '=' :: value.toList).dropWhile (· ≠ '=') = '=' :: value.toList := by
    rw [List.dropWhile_append_of_pos kept, List.dropWhile_cons_of_neg (by decide)]
  have plain : strip key.toList = key.toList :=
    strip_of_visible fun c member => visible_of_ascii (name.2 c member).1 (name.2 c member).2.1
  rw [readPart, strip_pair name word]
  dsimp only
  rw [if_neg (by simp), if_pos (by simp), taken, dropped, List.drop_one, List.tail_cons, plain, word,
    String.ofList_toList, String.ofList_toList]

/-- No character of the brackets ends them, or the line; between them, the commas separate the parts. -/
theorem part_of_plain [FloatData] {memory : Memory} (plain : Plain memory) (exists' : memory.status ≠ "") :
    ∀ part ∈ metaParts memory, ∀ c ∈ part, isBreak c = false ∧ c ≠ ',' ∧ c ≠ ')' := by
  obtain ⟨⟨kind, _⟩, source, status, _, scores⟩ := plain
  have pair : ∀ key ∈ ["source", "status", "importance", "confidence", "stability"], ∀ value, IsWord value →
      ∀ c ∈ ' ' :: (key.toList ++ '=' :: value.toList), isBreak c = false ∧ c ≠ ',' ∧ c ≠ ')' := by
    intro key named value word c member
    simp only [List.mem_cons, List.mem_append] at member
    rcases member with rfl | first | rfl | second
    · decide
    · have own := (isKey_of_mem named).2 c first
      exact ⟨own.2.2.1, fun same => own.2.2.2 (by simp [same]), fun same => own.2.2.2 (by simp [same])⟩
    · decide
    · exact word.2 c second
  intro part member
  rw [metaParts] at member
  simp only [List.mem_cons, List.not_mem_nil, or_false] at member
  rcases member with rfl | rfl | rfl | rfl | rfl | rfl
  · exact kind.2
  · exact pair _ (by simp) _ source
  · rw [orText, if_neg exists']
    exact pair _ (by simp) _ status
  · exact pair _ (by simp) _ (scores _ (by simp)).1
  · exact pair _ (by simp) _ (scores _ (by simp)).1
  · exact pair _ (by simp) _ (scores _ (by simp)).1

omit [CharData] in
theorem mem_intercalate {parts : List (List Char)} {c : Char} (member : c ∈ [','].intercalate parts) :
    c = ',' ∨ ∃ part ∈ parts, c ∈ part := by
  induction parts with
  | nil => cases member
  | cons first rest ih =>
    cases rest with
    | nil => exact .inr ⟨first, List.mem_cons_self, by simpa [List.intercalate] using member⟩
    | cons second later =>
      have split : [','].intercalate (first :: second :: later) = first ++ ',' :: [','].intercalate (second :: later) := by
        simp [List.intercalate]
      rw [split, List.mem_append, List.mem_cons] at member
      rcases member with inside | comma | behind
      · exact .inr ⟨first, List.mem_cons_self, inside⟩
      · exact .inl comma
      · exact (ih behind).imp_right fun ⟨part, known, inside⟩ => ⟨part, List.mem_cons_of_mem _ known, inside⟩

theorem meta_of_plain [FloatData] {memory : Memory} (plain : Plain memory) (exists' : memory.status ≠ "") :
    ∀ c ∈ metaText memory, isBreak c = false ∧ c ≠ ')' := by
  intro c member
  rcases mem_intercalate member with rfl | ⟨part, known, inside⟩
  · decide
  · have own := part_of_plain plain exists' part known c inside
    exact ⟨own.1, own.2.2⟩

/-- The fields of a plain row, the latest first. -/
def fieldsOf [FloatData] (memory : Memory) : Fields :=
  [("stability", FloatData.fixed2 memory.stability), ("confidence", FloatData.fixed2 memory.confidence),
    ("importance", FloatData.fixed2 memory.importance), ("status", memory.status), ("source", memory.source)] ++
      if memory.kind = "" then [] else [("kind", memory.kind)]

theorem readParts_of_plain [FloatData] {memory : Memory} (plain : Plain memory) (exists' : memory.status ≠ "") :
    readParts (metaText memory) = fieldsOf memory := by
  have parts : (metaText memory).splitOn ',' = metaParts memory := by
    apply List.splitOn_intercalate ','
    · intro part member comma
      exact (part_of_plain plain exists' part member ',' comma).2.1 rfl
    · simp [metaParts]
  obtain ⟨⟨kind, single⟩, source, status, _, scores⟩ := plain
  have first : readPart [] memory.kind.toList = if memory.kind = "" then [] else [("kind", memory.kind)] := by
    rw [readPart, kind.1]
    by_cases empty : memory.kind = ""
    · rw [if_pos empty, empty]
      rfl
    · have some' : memory.kind.toList ≠ [] := fun nil => empty (String.toList_injective nil)
      rw [if_neg empty]
      dsimp only
      rw [if_neg some', if_neg single, if_pos (by rfl), String.ofList_toList]
  have importance := (scores memory.importance (by simp)).1.1
  have confidence := (scores memory.confidence (by simp)).1.1
  have stability := (scores memory.stability (by simp)).1.1
  rw [readParts, parts, metaParts, orText, if_neg exists']
  simp only [List.foldl_cons, List.foldl_nil]
  rw [first, readPart_pair (isKey_of_mem (by simp)) source.1, readPart_pair (isKey_of_mem (by simp)) status.1,
    readPart_pair (isKey_of_mem (by simp)) importance, readPart_pair (isKey_of_mem (by simp)) confidence,
    readPart_pair (isKey_of_mem (by simp)) stability]
  rfl

/-- The entry of a plain row gives its fields and its content, unless the content is blank. -/
theorem parse_of_plain [FloatData] {memory : Memory} (plain : Plain memory) (exists' : memory.status ≠ "") :
    parseMemoryLine (entryLine memory) =
      if strip memory.content.toList = [] then none else some (fieldsOf memory, memory.content) := by
  have unbroken : ∀ c ∈ metaText memory, isBreak c = false := fun c member => (meta_of_plain plain exists' c member).1
  have inside : ')' ∉ metaText memory := fun member => (meta_of_plain plain exists' ')' member).2 rfl
  have space : CharData.isSpace ' ' = true := by
    rw [CharData.isSpace_ascii _ (by decide)]
    decide
  by_cases blank : strip memory.content.toList = []
  · have closing : rstrip [')'] = [')'] := by
      rw [rstrip_cons (visible_of_ascii (by decide) (by decide))]
      rfl
    have front : rstrip (' ' :: '(' :: metaText memory ++ [')']) = ' ' :: '(' :: metaText memory ++ rstrip [')'] :=
      rstrip_append (by simp [closing]) _
    have line : entryLine memory = '-' :: ' ' :: '(' :: (metaText memory ++ [')']) := by
      have cut := rstrip_append_space space (' ' :: '(' :: (metaText memory ++ [')']))
      simp only [List.cons_append, List.append_assoc, List.nil_append, closing] at front cut
      rw [entryLine_of_plain unbroken, firstLine, blank, List.takeWhile_nil,
        strip_cons (visible_of_ascii (by decide) (by decide)), cut, front]
    rw [if_pos blank, parseMemoryLine, strip_entryLine, line, matchLine_entry inside]
    rfl
  · obtain ⟨own, single⟩ := plain.2.2.2.1.resolve_left blank
    have line : firstLine memory.content = memory.content.toList := by
      rw [firstLine, own, List.takeWhile_eq_self_iff]
      intro c member
      rw [single c member, Bool.not_false]
    have whole : rstrip (firstLine memory.content) = memory.content.toList := by
      rw [line, ← own, strip, rstrip_rstrip]
    have shown : Shows memory.content := by
      rw [Shows, whole, ← own]
      exact blank
    have read : parseMemoryLine (entryLine memory) = (afterSpaces ([' '] ++ rstrip (firstLine memory.content))).map
        fun content => (readParts (metaText memory), String.ofList (strip content)) :=
      parse_entryLine unbroken shown inside fun rest => rfl
    have text : strip (memory.content.toList.dropWhile CharData.isSpace) = memory.content.toList := by
      rw [strip, List.dropWhile_idempotent, ← strip, own]
    rw [if_neg blank, read, whole, List.singleton_append, afterSpaces, List.head?_cons, Option.any_some, if_pos space,
      Option.map_some, List.dropWhile_cons_of_pos space, text, readParts_of_plain plain exists', String.ofList_toList]

end Words

end SoulClaw.Memories.Format
