import SoulClaw.Foundation.JsonLines
import SoulClaw.Runtime.Sse

/-! What a frame yields. It is the payload alone exactly where `json.dumps` leaves no line break in a string of the
payload, and the lines that the type adds to the frame say nothing of their own. -/

namespace SoulClaw.Runtime.SseFrames
open Foundation Domain.A2ATasks Sse
open Foundation.Loads (isWideBreak isWideBreak_of_isBreak unbroken_dumps_iff scan_dumps)

section Lines
variable [CharData]

/-- What a line adds to the data. -/
def dataText? (line : List Char) : Option (List Char) :=
  if "data:".toList.isPrefixOf line then some (Lines.lstrip (afterColon line)) else none

/-- A data line among these is empty, and no blank line stands behind one. -/
def quiet : Bool → List (List Char) → Bool
  | _, [] => true
  | seen, line :: rest =>
      if line = [] then !seen && quiet seen rest
      else
        match dataText? line with
        | none => quiet seen rest
        | some text => text.isEmpty && quiet true rest

theorem read_dataLines (pending : Pending) (line : List Char) :
    (pending.read line).dataLines = pending.dataLines ++ (dataText? line).toList := by
  by_cases data : "data:".toList.isPrefixOf line = true
  · obtain ⟨rest, rfl⟩ := List.isPrefixOf_iff_prefix.1 data
    rfl
  · unfold Pending.read dataText?
    rw [if_neg data, if_neg data, Option.toList_none, List.append_nil]
    split_ifs <;> rfl

/-- The text has no line break, and no white space in front. -/
structure Trimmed (text : List Char) : Prop where
  plain : ∀ c ∈ text, Lines.isBreak c = false
  visible : ∀ c ∈ text.head?, CharData.isSpace c = false

/-- What has been read has no line break. -/
structure Tidy (eventName : List Char) (dataLines : List (List Char)) : Prop where
  eventName : ∀ c ∈ eventName, Lines.isBreak c = false
  dataLines : ∀ text ∈ dataLines, Trimmed text

omit [CharData] in
theorem afterColon_subset (line : List Char) : afterColon line ⊆ line :=
  fun _ member => List.dropWhile_subset _ (List.mem_of_mem_drop member)

theorem lstrip_trimmed {text : List Char} (plain : ∀ c ∈ text, Lines.isBreak c = false) : Trimmed (Lines.lstrip text) where
  plain c member := plain c (List.dropWhile_subset _ member)
  visible c first := by
    have kept := List.head?_dropWhile_not CharData.isSpace text
    unfold Lines.lstrip at first
    rw [Option.mem_def.1 first] at kept
    simpa using kept

theorem read_tidy {pending : Pending} (tidy : Tidy pending.eventName pending.dataLines) {line : List Char}
    (plain : ∀ c ∈ line, Lines.isBreak c = false) :
    Tidy (pending.read line).eventName (pending.read line).dataLines := by
  have behind : ∀ c ∈ afterColon line, Lines.isBreak c = false := fun c member => plain c (afterColon_subset line member)
  unfold Pending.read
  split_ifs
  · exact tidy
  · exact ⟨fun c member => behind c (Lines.strip_subset _ member), tidy.dataLines⟩
  · refine ⟨tidy.eventName, fun text member => ?_⟩
    rcases List.mem_append.1 member with earlier | here
    · exact tidy.dataLines text earlier
    · rw [List.mem_singleton.1 here]
      exact lstrip_trimmed behind
  · exact tidy

variable [NumberData]

omit [CharData] in
theorem parseSsePayload_ne_nil (eventName : List Char) (dataLines : List (List Char)) :
    parseSsePayload eventName dataLines ≠ [] := by
  unfold parseSsePayload
  dsimp only
  split
  · exact List.cons_ne_nil _ _
  next fields _ =>
    split
    next typed =>
      rintro rfl
      cases typed
    next => exact List.cons_ne_nil _ _
  · exact List.cons_ne_nil _ _

omit [CharData] in
theorem yields_of_data {pending : Pending} (speaks : pending.dataLines ≠ []) :
    pending.yields = [parseSsePayload pending.eventName pending.dataLines] := by
  unfold Pending.yields
  dsimp only
  rw [if_neg speaks, if_neg (parseSsePayload_ne_nil _ _)]

/-- Where there is data, the next thing that is yielded is made of it. -/
theorem readLines_of_data {pending : Pending} (speaks : pending.dataLines ≠ []) (lines : List (List Char)) :
    ∃ eventName more later, readLines pending lines = parseSsePayload eventName (pending.dataLines ++ more) :: later ∧
      (Tidy pending.eventName pending.dataLines → (∀ line ∈ lines, ∀ c ∈ line, Lines.isBreak c = false) →
        Tidy eventName (pending.dataLines ++ more)) := by
  induction lines generalizing pending with
  | nil =>
    refine ⟨pending.eventName, [], [], ?_, ?_⟩
    · rw [readLines, yields_of_data speaks, List.append_nil]
    · rw [List.append_nil]
      exact fun tidy _ => tidy
  | cons line rest ih =>
    by_cases blank : line = []
    · refine ⟨pending.eventName, [], readLines {} rest, ?_, ?_⟩
      · rw [readLines, if_pos blank, yields_of_data speaks, List.append_nil]
        rfl
      · rw [List.append_nil]
        exact fun tidy _ => tidy
    · have still : (pending.read line).dataLines ≠ [] := by
        rw [read_dataLines]
        exact List.append_ne_nil_of_left_ne_nil speaks _
      obtain ⟨eventName, more, later, yielded, tidy⟩ := ih still
      rw [read_dataLines, List.append_assoc] at yielded tidy
      refine ⟨eventName, (dataText? line).toList ++ more, later, ?_, ?_⟩
      · rw [readLines, if_neg blank, yielded]
      · intro before plain
        apply tidy
        · rw [← read_dataLines]
          exact read_tidy before (plain line List.mem_cons_self)
        · exact fun other member => plain other (List.mem_cons_of_mem _ member)

/-- The lines yield something, whatever stands in front of them. -/
def Speaks (lines : List (List Char)) : Prop := ∀ pending, readLines pending lines ≠ []

theorem Speaks.append {lines : List (List Char)} (speaks : Speaks lines) (extra : List (List Char)) :
    Speaks (extra ++ lines) := by
  induction extra with
  | nil => exact speaks
  | cons line rest ih =>
    intro pending
    rw [List.cons_append, readLines]
    split
    · exact List.append_ne_nil_of_right_ne_nil _ (ih {})
    · exact ih _

/-- Lines in front of data that yield nothing of their own are quiet, if what they leave is empty. -/
theorem quiet_of_single {extra lines : List (List Char)} (speaks : Speaks lines)
    (plain : ∀ line ∈ extra, ∀ c ∈ line, Lines.isBreak c = false) {pending : Pending}
    (tidy : Tidy pending.eventName pending.dataLines) (single : (readLines pending (extra ++ lines)).length = 1) :
    ∃ reached : Pending, readLines pending (extra ++ lines) = readLines reached lines ∧
      Tidy reached.eventName reached.dataLines ∧ pending.dataLines ⊆ reached.dataLines ∧
      ((∀ text ∈ reached.dataLines, text = []) → quiet (!pending.dataLines.isEmpty) extra = true) := by
  induction extra generalizing pending with
  | nil => exact ⟨pending, rfl, tidy, List.Subset.refl _, fun _ => rfl⟩
  | cons line rest ih =>
    have plainRest : ∀ other ∈ rest, ∀ c ∈ other, Lines.isBreak c = false :=
      fun other member => plain other (List.mem_cons_of_mem _ member)
    by_cases blank : line = []
    · rw [List.cons_append, readLines, if_pos blank, List.length_append] at single
      have later := List.length_pos_of_ne_nil (speaks.append rest {})
      have nothing : pending.dataLines = [] := by
        by_contra data
        rw [yields_of_data data, List.length_singleton] at single
        omega
      have silent : pending.yields = [] := by rw [Pending.yields, if_pos nothing]
      rw [silent, List.length_nil, Nat.zero_add] at single
      obtain ⟨reached, same, after, _, still⟩ := ih plainRest ⟨fun _ member => absurd member List.not_mem_nil,
        fun _ member => absurd member List.not_mem_nil⟩ single
      refine ⟨reached, ?_, after, by rw [nothing]; exact List.nil_subset _, fun empty => ?_⟩
      · rw [List.cons_append, readLines, if_pos blank, silent]
        exact same
      · rw [nothing, quiet, if_pos blank]
        exact still empty
    · rw [List.cons_append, readLines, if_neg blank] at single
      obtain ⟨reached, same, after, kept, still⟩ :=
        ih plainRest (read_tidy tidy (plain line List.mem_cons_self)) single
      rw [read_dataLines] at kept still
      refine ⟨reached, ?_, after, fun text member => kept (List.mem_append_left _ member), fun empty => ?_⟩
      · rw [List.cons_append, readLines, if_neg blank]
        exact same
      · have later := still empty
        rw [quiet, if_neg blank]
        cases data : dataText? line with
        | none =>
          rw [data, Option.toList_none, List.append_nil] at later
          exact later
        | some text =>
          rw [data, Option.toList_some] at later kept
          have nothing := empty text (kept (List.mem_append_right _ List.mem_cons_self))
          have seen : (!(pending.dataLines ++ [text]).isEmpty) = true := by simp
          rw [seen] at later
          rw [nothing]
          exact later

/-- Behind quiet lines there is no data, but for empty lines of it. -/
theorem readLines_of_quiet {extra : List (List Char)} (lines : List (List Char)) {pending : Pending}
    (empty : ∀ text ∈ pending.dataLines, text = []) (silent : quiet (!pending.dataLines.isEmpty) extra = true) :
    ∃ reached : Pending, readLines pending (extra ++ lines) = readLines reached lines ∧
      ∀ text ∈ reached.dataLines, text = [] := by
  induction extra generalizing pending with
  | nil => exact ⟨pending, rfl, empty⟩
  | cons line rest ih =>
    rw [quiet] at silent
    rw [List.cons_append, readLines]
    by_cases blank : line = []
    · rw [if_pos blank, Bool.and_eq_true, Bool.not_not, List.isEmpty_iff] at silent
      have silentYields : pending.yields = [] := by rw [Pending.yields, if_pos silent.1]
      rw [if_pos blank, silentYields]
      have later := silent.2
      rw [silent.1] at later
      exact ih (fun _ member => absurd member List.not_mem_nil) later
    · rw [if_neg blank] at silent ⊢
      cases data : dataText? line with
      | none =>
        rw [data] at silent
        have same : (pending.read line).dataLines = pending.dataLines := by
          rw [read_dataLines, data, Option.toList_none, List.append_nil]
        exact ih (by rw [same]; exact empty) (by rw [same]; exact silent)
      | some text =>
        rw [data] at silent
        dsimp only at silent
        rw [Bool.and_eq_true, List.isEmpty_iff] at silent
        have same : (pending.read line).dataLines = pending.dataLines ++ [[]] := by
          rw [read_dataLines, data, silent.1, Option.toList_some]
        apply ih
        · rw [same]
          intro other member
          exact (List.mem_append.1 member).elim (empty other) List.mem_singleton.1
        · have seen : (!(pending.dataLines ++ [([] : List Char)]).isEmpty) = true := by simp
          rw [same, seen]
          exact silent.2

end Lines

/-! The text of a payload among data lines. -/

section Data
variable [NumberData]

omit [NumberData] in
/-- Behind lines a text goes on outside of strings. -/
theorem scan_lines {front : List (List Char)} {rest : List Char} {last : Loads.Mode × Nat}
    (scanned : Loads.scan (.outside, 0) (front.flatMap (· ++ ['\n']) ++ rest) = some last) :
    ∃ depth, Loads.scan (.outside, 0) (front.flatMap (· ++ ['\n'])) = some (.outside, depth) ∧
      Loads.scan (.outside, depth) rest = some last := by
  rcases List.eq_nil_or_concat front with rfl | ⟨earlier, line, rfl⟩
  · exact ⟨0, rfl, scanned⟩
  · rw [List.concat_eq_append, List.flatMap_append, List.flatMap_singleton, ← List.append_assoc] at scanned ⊢
    rw [List.append_assoc, List.singleton_append] at scanned
    obtain ⟨depth, reached, later⟩ := Loads.scan_newline scanned
    refine ⟨depth, ?_, later⟩
    rw [Loads.scan_append, reached]
    rfl

/-- The value is read behind lines only where these are blank. -/
theorem isBlank_of_loads {item value : Json} (proper : Loads.Proper item) {c : Char} {later : List Char}
    (opens : Loads.isOpen c = true) (begins : item.dumps.toList = c :: later) {front : List (List Char)}
    (parsed : Json.loads (String.ofList (front.flatMap (· ++ ['\n']) ++ item.dumps.toList)) = some value) :
    ∀ line ∈ front, ∀ d ∈ line, Loads.isBlank d = true := by
  have closed := Loads.scan_of_loads parsed 0
  rw [String.toList_ofList] at closed
  obtain ⟨depth, reached, ends⟩ := scan_lines closed
  rw [scan_dumps proper, Option.some.injEq, Prod.mk.injEq] at ends
  rw [ends.2] at reached
  have blank := Loads.isBlank_of_open parsed (by rw [String.toList_ofList, begins]) opens reached
  intro line member d inside
  exact blank d (List.mem_flatMap.2 ⟨line, member, List.mem_append_left _ inside⟩)

/-- A text that a line break in a string cuts off is read as no value. -/
theorem loads_of_cut {item : Json} (proper : Loads.Proper item) {first last : List Char} {c : Char} (wide : 0x80 ≤ c.toNat)
    (cut : item.dumps.toList = first ++ c :: last) (front more : List (List Char)) :
    Json.loads (String.ofList (front.flatMap (· ++ ['\n']) ++ (first ++ more.flatMap ('\n' :: ·)))) = none := by
  cases parsed : Json.loads (String.ofList (front.flatMap (· ++ ['\n']) ++ (first ++ more.flatMap ('\n' :: ·)))) with
  | none => rfl
  | some value =>
    exfalso
    have closed := Loads.scan_of_loads parsed 0
    rw [String.toList_ofList] at closed
    obtain ⟨depth, _, rest⟩ := scan_lines closed
    have whole := scan_dumps proper depth
    rw [cut] at whole
    obtain ⟨level, inside⟩ := Loads.scan_wide wide whole
    cases more with
    | nil =>
      rw [List.flatMap_nil, List.append_nil, inside] at rest
      cases rest
    | cons line others =>
      rw [List.flatMap_cons, List.cons_append] at rest
      obtain ⟨_, outside, _⟩ := Loads.scan_newline rest
      rw [inside] at outside
      cases outside

end Data

/-! Frames. -/

/-- The frame yields its payload: no string of it has a line break that `json.dumps` leaves, and the lines that the type
adds are quiet. -/
structure Clean [CharData] [NumberData] (event : SseEvent) : Prop where
  unbroken : ∀ text ∈ (Json.obj event.payload).strings, ∀ c ∈ text.toList, isWideBreak c = false
  silent : quiet false event.typeLines.tail = true

section Frames
variable [NumberData]

/-- The payload is written on one line exactly when no string of it has a wide line break. -/
theorem unbroken_iff (event : SseEvent) :
    (∀ text ∈ (Json.obj event.payload).strings, ∀ c ∈ text.toList, isWideBreak c = false) ↔
      ∀ c ∈ event.data, Lines.isBreak c = false := unbroken_dumps_iff event.proper

/-- What stands in for a payload that cannot be read. -/
def unread (kind raw : String) : Dict := [("type", .str kind), ("data", .obj [("text", .str raw)])]

theorem parseSsePayload_of_unread {eventName : List Char} {dataLines : List (List Char)}
    (parsed : Json.loads (String.ofList (Lines.joined dataLines)) = none) :
    parseSsePayload eventName dataLines =
      unread (if eventName = [] then "message" else String.ofList eventName) (String.ofList (Lines.joined dataLines)) := by
  unfold parseSsePayload
  dsimp only
  rw [parsed]
  rfl

theorem parseSsePayload_of_typed {eventName : List Char} {dataLines : List (List Char)} {payload : Dict}
    (parsed : Json.loads (String.ofList (Lines.joined dataLines)) = some (.obj payload))
    (typed : (payload.lookup "type").isSome = true) : parseSsePayload eventName dataLines = payload := by
  unfold parseSsePayload
  dsimp only
  rw [parsed]
  exact if_pos typed

omit [NumberData] in
/-- A text is shorter than what is written for the payload that holds it. -/
theorem length_unread (kind raw : String) : raw.toList.length < (Json.obj (unread kind raw)).dumps.toList.length := by
  have shorter : raw.toList.length ≤ (raw.toList.flatMap Text.dumpsChar).length :=
    Lines.length_le_length_flatMap fun c _ => Loads.dumpsChar_ne_nil c
  unfold unread
  rw [Loads.dumps_obj, Loads.fieldsText_cons, Loads.fieldsText_singleton, Loads.dumps_obj, Loads.fieldsText_singleton,
    Loads.dumps_str raw]
  simp only [List.length_cons, List.length_append]
  omega

/-- The lines that the frame writes for its payload. -/
theorem dataLines_eq (event : SseEvent) :
    ∃ first later, Lines.parts ("data: ".toList ++ event.data) = ("data: ".toList ++ '\x7b' :: first) :: later ∧
      (∀ line ∈ ('\x7b' :: first) :: later, ∀ c ∈ line, Lines.isBreak c = false) ∧
      (event.data = '\x7b' :: first ∧ later = [] ∨
        ∃ c rest, Lines.isBreak c = true ∧ event.data = ('\x7b' :: first) ++ c :: rest) := by
  have front : ∀ c ∈ "data: ".toList, Lines.isBreak c = false := plain_of_narrow (by decide)
  have begins : event.data = '\x7b' :: (Loads.fieldsText event.payload ++ ['\x7d']) := Loads.dumps_obj event.payload
  obtain ⟨first, head⟩ : ∃ first, event.data.takeWhile (fun c => !Lines.isBreak c) = '\x7b' :: first :=
    ⟨_, by rw [begins, List.takeWhile_cons_of_pos (by decide)]⟩
  have split := List.takeWhile_append_dropWhile (p := fun c => !Lines.isBreak c) (l := event.data)
  refine ⟨first, (Lines.parts event.data).tail, ?_, ?_, ?_⟩
  · rw [Lines.parts_plain_append front, Lines.headD_parts, head]
  · intro line member
    rcases List.mem_cons.1 member with rfl | later
    · rw [← head]
      exact fun c inside => by simpa using List.mem_takeWhile_imp inside
    · exact Lines.plain_of_mem_parts (List.mem_of_mem_tail later)
  · rw [head] at split
    cases behind : event.data.dropWhile fun c => !Lines.isBreak c with
    | nil =>
      rw [behind, List.append_nil] at split
      have plain : ∀ c ∈ event.data, Lines.isBreak c = false :=
        fun c member => by simpa using List.dropWhile_eq_nil_iff.1 behind c member
      exact .inl ⟨split.symm, by rw [Lines.parts_of_plain plain]; rfl⟩
    | cons c rest =>
      rw [behind] at split
      have kept := List.head?_dropWhile_not (fun c => !Lines.isBreak c) event.data
      rw [behind] at kept
      exact .inr ⟨c, rest, by simpa using kept, split.symm⟩

variable [CharData]

/-- The line of the payload adds its text to the data. -/
theorem readLines_dataLine (pending : Pending) (first : List Char) (later : List (List Char)) :
    readLines pending (("data: ".toList ++ '\x7b' :: first) :: later) =
      readLines { pending with dataLines := pending.dataLines ++ ['\x7b' :: first] } later := by
  have space : CharData.isSpace ' ' = true := CharData.isSpace_ascii ' ' (by decide)
  have brace : CharData.isSpace '\x7b' = false := CharData.isSpace_ascii '\x7b' (by decide)
  have stripped : Lines.lstrip (' ' :: '\x7b' :: first) = '\x7b' :: first := by
    unfold Lines.lstrip
    rw [List.dropWhile_cons_of_pos space, List.dropWhile_cons_of_neg (by rw [brace]; exact Bool.false_ne_true)]
  have added : pending.read ("data: ".toList ++ '\x7b' :: first) =
      { pending with dataLines := pending.dataLines ++ [Lines.lstrip (' ' :: '\x7b' :: first)] } := rfl
  rw [readLines, if_neg (List.append_ne_nil_of_right_ne_nil _ (List.cons_ne_nil _ _)), added, stripped]

/-- The frame up to the first line of its type. -/
theorem readLines_frame (event : SseEvent) :
    ∃ pending : Pending, Tidy pending.eventName pending.dataLines ∧ pending.dataLines = [] ∧
      readLines {} event.lines =
        readLines pending (event.typeLines.tail ++ Lines.parts ("data: ".toList ++ event.data)) := by
  have plain : ∀ c ∈ "event: ".toList ++ event.typeLines.headD [], Lines.isBreak c = false := by
    intro c member
    rcases List.mem_append.1 member with front | type
    · exact plain_of_narrow (by decide) c front
    · cases lines : event.typeLines with
      | nil =>
        rw [lines] at type
        cases type
      | cons line rest =>
        rw [lines] at type
        exact Lines.plain_of_mem_parts (show line ∈ event.typeLines from lines ▸ List.mem_cons_self) c type
  have start : Tidy ({} : Pending).eventName ({} : Pending).dataLines :=
    ⟨fun _ member => absurd member List.not_mem_nil, fun _ member => absurd member List.not_mem_nil⟩
  exact ⟨_, read_tidy start plain, rfl, rfl⟩

/-- What the frame yields of lines that are quiet. -/
theorem readLines_of_clean {event : SseEvent} (clean : Clean event) : readLines {} event.lines = [event.payload] := by
  obtain ⟨pending, _, nothing, start⟩ := readLines_frame event
  obtain ⟨first, later, lines, _, whole⟩ := dataLines_eq event
  have plain := (unbroken_iff event).1 clean.unbroken
  obtain ⟨same, rfl⟩ : event.data = '\x7b' :: first ∧ later = [] := by
    rcases whole with whole | ⟨c, rest, breaks, cut⟩
    · exact whole
    · rw [plain c (cut ▸ List.mem_append_right _ List.mem_cons_self)] at breaks
      cases breaks
  obtain ⟨reached, silent, empty⟩ := readLines_of_quiet (Lines.parts ("data: ".toList ++ event.data))
    (by rw [nothing]; exact fun _ member => absurd member List.not_mem_nil)
    (show quiet (!pending.dataLines.isEmpty) event.typeLines.tail = true by rw [nothing]; exact clean.silent)
  have parsed : Json.loads (String.ofList (Lines.joined (reached.dataLines ++ ['\x7b' :: first]))) =
      some (.obj event.payload) := by
    rw [Lines.joined_append, Lines.joined_cons, List.flatMap_nil, List.append_nil, ← same]
    apply Loads.loads_dumps event.proper
    intro c member
    obtain ⟨text, known, inside⟩ := List.mem_flatMap.1 member
    rw [empty text known, List.nil_append, List.mem_singleton] at inside
    rw [inside]
    rfl
  rw [start, silent, lines, readLines_dataLine, readLines,
    yields_of_data (List.append_ne_nil_of_right_ne_nil _ (List.cons_ne_nil _ _))]
  exact congrArg (fun payload => [payload]) (parseSsePayload_of_typed parsed event.typed)

/-- The data that is read up to the payload. -/
theorem speaks_dataLines (event : SseEvent) : Speaks (Lines.parts ("data: ".toList ++ event.data)) := by
  obtain ⟨first, later, lines, _⟩ := dataLines_eq event
  intro pending
  let added : Pending := { pending with dataLines := pending.dataLines ++ ['\x7b' :: first] }
  have data : added.dataLines ≠ [] := List.append_ne_nil_of_right_ne_nil _ (List.cons_ne_nil _ _)
  obtain ⟨eventName, more, rest, yielded, _⟩ := readLines_of_data data later
  rw [lines, readLines_dataLine, yielded]
  exact List.cons_ne_nil _ _

/-- A payload on one line is only yielded behind empty data lines. -/
theorem empty_of_whole {event : SseEvent} {eventName : List Char} {dataLines : List (List Char)}
    (tidy : Tidy eventName dataLines) (yielded : parseSsePayload eventName (dataLines ++ [event.data]) = event.payload) :
    ∀ text ∈ dataLines, text = [] := by
  have joined : Lines.joined (dataLines ++ [event.data]) = dataLines.flatMap (· ++ ['\n']) ++ event.data := by
    rw [Lines.joined_append, Lines.joined_cons, List.flatMap_nil, List.append_nil]
  cases parsed : Json.loads (String.ofList (Lines.joined (dataLines ++ [event.data]))) with
  | none =>
    exfalso
    rw [parseSsePayload_of_unread parsed] at yielded
    have longer := length_unread (if eventName = [] then "message" else String.ofList eventName)
      (String.ofList (Lines.joined (dataLines ++ [event.data])))
    rw [yielded, String.toList_ofList, joined, List.length_append] at longer
    exact absurd longer (Nat.not_lt.2 (Nat.le_add_left _ _))
  | some value =>
    rw [joined] at parsed
    have blank := isBlank_of_loads event.proper (by decide) (Loads.dumps_obj event.payload) parsed
    intro text known
    cases text with
    | nil => rfl
    | cons c rest =>
      have visible := (tidy.dataLines _ known).visible c rfl
      have narrow := blank _ known c List.mem_cons_self
      unfold Loads.isBlank at narrow
      have space : CharData.isSpace c = true := by
        rcases of_decide_eq_true narrow with rfl | rfl | rfl | rfl
        all_goals
          rw [CharData.isSpace_ascii _ (by decide)]
          decide
      rw [visible] at space
      cases space

/-- A payload that a line break cuts off is not yielded. -/
theorem not_yielded_of_cut {event : SseEvent} {eventName first rest : List Char} {dataLines more : List (List Char)} {c : Char}
    (tidy : Tidy eventName (dataLines ++ first :: more)) (breaks : Lines.isBreak c = true)
    (cut : event.data = first ++ c :: rest) : parseSsePayload eventName (dataLines ++ first :: more) ≠ event.payload := by
  intro yielded
  have spelled := Loads.dumps_spelled event.proper
  have member : c ∈ event.data := cut ▸ List.mem_append_right _ List.mem_cons_self
  obtain ⟨_, wide⟩ := isWideBreak_of_isBreak (spelled.visible c member) breaks
  have parsed : Json.loads (String.ofList (Lines.joined (dataLines ++ first :: more))) = none := by
    rw [Lines.joined_append, Lines.joined_cons]
    exact loads_of_cut event.proper wide cut dataLines more
  rw [parseSsePayload_of_unread parsed] at yielded
  obtain ⟨text, known, inside⟩ := (spelled.wide c wide).1 member
  have narrow : ∀ name ∈ ["type", "data", "text", "message"], c ∉ name.toList := by
    intro name isIt within
    have all_ : ["type", "data", "text", "message"].all (fun name => name.toList.all Loads.isNarrow) = true := by decide
    have small := List.all_eq_true.1 (List.all_eq_true.1 all_ name isIt) c within
    exact Nat.not_lt.2 wide (of_decide_eq_true small).2
  have strings : (Json.obj (unread (if eventName = [] then "message" else String.ofList eventName)
      (String.ofList (Lines.joined (dataLines ++ first :: more))))).strings =
      ["type", if eventName = [] then "message" else String.ofList eventName, "data", "text",
        String.ofList (Lines.joined (dataLines ++ first :: more))] := rfl
  rw [← yielded, strings] at known
  simp only [List.mem_cons, List.not_mem_nil, or_false] at known
  rcases known with rfl | rfl | rfl | rfl | rfl
  · exact narrow "type" (by decide) inside
  · split at inside
    · exact narrow "message" (by decide) inside
    · rw [String.toList_ofList] at inside
      rw [tidy.eventName c inside] at breaks
      cases breaks
  · exact narrow "data" (by decide) inside
  · exact narrow "text" (by decide) inside
  · rw [String.toList_ofList] at inside
    rcases Lines.mem_joined inside with rfl | ⟨line, isIt, within⟩
    · exact absurd wide (by decide)
    · rw [(tidy.dataLines line isIt).plain c within] at breaks
      cases breaks

/-- A frame yields its payload alone exactly when it is clean. -/
theorem readLines_iff (event : SseEvent) : readLines {} event.lines = [event.payload] ↔ Clean event := by
  refine ⟨fun single => ?_, readLines_of_clean⟩
  obtain ⟨pending, tidy, nothing, start⟩ := readLines_frame event
  obtain ⟨first, later, lines, plain, whole⟩ := dataLines_eq event
  rw [start] at single
  have typePlain : ∀ line ∈ event.typeLines.tail, ∀ c ∈ line, Lines.isBreak c = false :=
    fun line member => Lines.plain_of_mem_parts (List.mem_of_mem_tail member)
  obtain ⟨reached, silent, after, _, still⟩ :=
    quiet_of_single (speaks_dataLines event) typePlain tidy (by rw [single]; rfl)
  have trimmed : Trimmed ('\x7b' :: first) := by
    refine ⟨plain _ List.mem_cons_self, fun c begins => ?_⟩
    rw [← Option.some.inj begins]
    exact CharData.isSpace_ascii '\x7b' (by decide)
  have added : Tidy reached.eventName (reached.dataLines ++ ['\x7b' :: first]) := by
    refine ⟨after.eventName, fun text member => ?_⟩
    rcases List.mem_append.1 member with earlier | here
    · exact after.dataLines text earlier
    · rw [List.mem_singleton.1 here]
      exact trimmed
  let filled : Pending := { reached with dataLines := reached.dataLines ++ ['\x7b' :: first] }
  have data : filled.dataLines ≠ [] := List.append_ne_nil_of_right_ne_nil _ (List.cons_ne_nil _ _)
  rw [silent, lines, readLines_dataLine] at single
  rcases whole with ⟨same, rfl⟩ | ⟨c, rest, breaks, cut⟩
  · rw [readLines, yields_of_data data] at single
    have yielded : parseSsePayload reached.eventName (reached.dataLines ++ [event.data]) = event.payload := by
      rw [same]
      exact (List.cons.inj single).1
    have empty := empty_of_whole after yielded
    rw [nothing] at still
    refine ⟨(unbroken_iff event).2 ?_, still empty⟩
    rw [same]
    exact trimmed.plain
  · obtain ⟨eventName, more, others, yielded, whole⟩ := readLines_of_data data later
    have tidyAll := whole added fun line member => plain line (List.mem_cons_of_mem _ member)
    rw [show filled.dataLines ++ more = reached.dataLines ++ ('\x7b' :: first) :: more from List.append_assoc _ _ _]
      at yielded tidyAll
    rw [show readLines filled later = _ from yielded] at single
    exact absurd (List.cons.inj single).1 (not_yielded_of_cut tidyAll breaks cut)

/-- Every frame yields something. -/
theorem readLines_ne_nil (event : SseEvent) : readLines {} event.lines ≠ [] := by
  obtain ⟨pending, _, _, start⟩ := readLines_frame event
  rw [start]
  exact (speaks_dataLines event).append _ pending

end Frames

/-! Streams. -/

section Streams

variable [CharData] [NumberData]

/-- Reading a stream gives back its payloads exactly when all of its frames are clean. -/
theorem payloads_read_back_iff (events : List SseEvent) :
    iterSseEvents (encoded events) = events.map SseEvent.payload ↔ ∀ event ∈ events, Clean event := by
  rw [iterSseEvents_encoded, Lines.flatMap_eq_map_iff fun event _ => readLines_ne_nil event]
  exact forall₂_congr fun event _ => readLines_iff event

/-- What is read of the stream that the endpoint writes. -/
theorem generate_read_back_iff {items : List A2AEvent} (proper : ∀ item ∈ items, Loads.Proper (.obj item.payload)) :
    iterSseEvents (generate items) = items.map taskPayload ↔
      ∀ item, (member : item ∈ items) → Clean (.ofItem item (proper item member)) := by
  have events : items.map taskPayload =
      (items.attach.map fun item => SseEvent.ofItem item.1 (proper item.1 item.2)).map SseEvent.payload := by
    rw [List.map_map]
    conv_lhs => rw [← List.attach_map_subtype_val items, List.map_map]
    rfl
  have frames : ∀ events : List SseEvent, (∀ event ∈ events, readLines {} event.lines = [event.payload]) ↔
      ∀ event ∈ events, Clean event := fun events => forall₂_congr fun event _ => readLines_iff event
  rw [generate_eq proper, events, iterSseEvents_encoded, Lines.flatMap_eq_map_iff fun event _ => readLines_ne_nil event,
    frames]
  simp only [List.mem_map, List.mem_attach, true_and, Subtype.exists, forall_exists_index]
  exact ⟨fun clean item member => clean _ item member rfl, fun clean _ item member same => same ▸ clean item member⟩

/-- What is read of the answer of the endpoint. -/
theorem stream_read_back_iff {first : FirstRow} {store : Store} {taskId text : String} {afterSequence : Int}
    (proper : ∀ item ∈ store.events, Loads.Proper (.obj item.payload))
    (answered : streamA2aTaskEvents first store taskId afterSequence = .ok text) :
    ∃ task, getTaskByAnyId first store taskId = some task ∧
      (iterSseEvents text = (listEvents store task.taskId afterSequence 200).map taskPayload ↔
        ∀ item, (member : item ∈ store.events) → item ∈ listEvents store task.taskId afterSequence 200 →
          Clean (.ofItem item (proper item member))) := by
  unfold streamA2aTaskEvents at answered
  split at answered
  · cases answered
  next task found =>
    obtain rfl := Except.ok.inj answered
    have listed : ∀ item ∈ listEvents store task.taskId afterSequence 200, item ∈ store.events := by
      intro item member
      unfold listEvents at member
      exact List.mem_of_mem_filter ((List.mem_insertionSort _).1 (List.mem_of_mem_take member))
    refine ⟨task, found, ?_⟩
    rw [generate_read_back_iff fun item member => proper item (listed item member)]
    exact ⟨fun clean item _ member => clean item member, fun clean item member => clean item (listed item member) member⟩

end Streams

section Demo
attribute [local instance] CharData.ascii NumberData.decimal

/-- A payload with a line separator in a text. -/
def separated : SseEvent where
  sequence := 1
  eventType := "message"
  payload := [("type", .str "message"), ("data", .obj [("text", .str "a\u2028b")])]
  typed := by decide
  proper := ⟨by decide, trivial, ⟨by decide, trivial, trivial⟩, trivial⟩

/-- The payload is cut off at the separator, and what stands in front of it is passed on as a text. -/
theorem separator_cuts_payload :
    iterSseEvents (encoded [separated]) =
        [unread "message" "\x7b\"type\": \"message\", \"data\": \x7b\"text\": \"a"] ∧
      iterSseEvents (encoded [separated]) ≠ [separated].map SseEvent.payload := by decide +kernel

end Demo

end SoulClaw.Runtime.SseFrames
