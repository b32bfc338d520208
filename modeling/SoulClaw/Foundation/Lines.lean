import SoulClaw.Foundation.Text
import Mathlib.Data.List.TakeWhile
import Mathlib.Data.List.DropRight

/-! The lines of a text: `splitlines`, `rstrip`, `"\n".join` and the newlines that reading a file
translates. What a text says line by line, up to white space at the ends of the lines and blank lines at
its end, is followed through all of them. -/

namespace SoulClaw.Foundation.Lines

/-- The characters at which `splitlines` breaks. -/
def isBreak (c : Char) : Bool :=
  c ∈ ['\n', '\x0b', '\x0c', '\r', '\x1c', '\x1d', '\x1e', '\u0085', '\u2028', '\u2029']

def consHead (c : Char) : List (List Char) → List (List Char)
  | [] => [[c]]
  | line :: rest => (c :: line) :: rest

/-- The text before, between and behind the breaks; `"\r\n"` is one break. -/
def parts : List Char → List (List Char)
  | [] => [[]]
  | c :: rest =>
      if c = '\r' ∧ rest.head? = some '\n' then parts rest
      else if isBreak c then [] :: parts rest
      else consHead c (parts rest)

/-- `text.splitlines()`: no line stands behind a break at the end. -/
def splitlines (text : List Char) : List (List Char) :=
  if (parts text).getLast? = some [] then (parts text).dropLast else parts text

theorem mem_of_mem_splitOn {mark : Char} {text part : List Char} (member : part ∈ text.splitOn mark) {c : Char}
    (inside : c ∈ part) : c ∈ text := by
  induction text generalizing part with
  | nil =>
    rw [List.splitOn_nil, List.mem_singleton] at member
    exact member ▸ inside
  | cons first rest ih =>
    rw [List.splitOn_cons_eq_if_modifyHead] at member
    split at member
    · rcases List.mem_cons.1 member with rfl | later
      · cases inside
      · exact List.mem_cons_of_mem _ (ih later inside)
    · obtain ⟨head, tail, parts⟩ := List.exists_cons_of_ne_nil (List.splitOn_ne_nil mark rest)
      rw [parts] at ih member
      rcases List.mem_cons.1 member with rfl | later
      · rcases List.mem_cons.1 inside with rfl | inner
        · exact List.mem_cons_self
        · exact List.mem_cons_of_mem _ (ih List.mem_cons_self inner)
      · exact List.mem_cons_of_mem _ (ih (List.mem_cons_of_mem _ later) inside)

/-- What reading a file in text mode makes of its characters. -/
def universalNewlines : List Char → List Char
  | [] => []
  | c :: rest =>
      if c = '\r' then
        if rest.head? = some '\n' then universalNewlines rest else '\n' :: universalNewlines rest
      else c :: universalNewlines rest

theorem cr_notMem_universalNewlines (text : List Char) : '\r' ∉ universalNewlines text := by
  induction text with
  | nil => exact List.not_mem_nil
  | cons c rest ih =>
    rw [universalNewlines]
    split
    · split
      · exact ih
      · rw [List.mem_cons, not_or]
        exact ⟨by decide, ih⟩
    next plain =>
      rw [List.mem_cons, not_or]
      exact ⟨fun same => plain same.symm, ih⟩

/-- A text without carriage returns is read as it is. -/
theorem universalNewlines_eq_self_iff {text : List Char} : universalNewlines text = text ↔ '\r' ∉ text := by
  constructor
  · intro same
    rw [← same]
    exact cr_notMem_universalNewlines text
  · intro plain
    induction text with
    | nil => rfl
    | cons c rest ih =>
      rw [List.mem_cons, not_or] at plain
      rw [universalNewlines, if_neg fun same => plain.1 same.symm, ih plain.2]

/-- `"\n".join(lines)`. -/
def joined : List (List Char) → List Char
  | [] => []
  | [line] => line
  | line :: next :: rest => line ++ '\n' :: joined (next :: rest)

theorem joined_cons (line : List Char) (rest : List (List Char)) :
    joined (line :: rest) = line ++ rest.flatMap ('\n' :: ·) := by
  induction rest generalizing line with
  | nil => rw [joined, List.flatMap_nil, List.append_nil]
  | cons next rest ih => rw [joined, ih, List.flatMap_cons, List.cons_append]

theorem mem_joined {lines : List (List Char)} {c : Char} (member : c ∈ joined lines) :
    c = '\n' ∨ ∃ line ∈ lines, c ∈ line := by
  cases lines with
  | nil => cases member
  | cons line rest =>
    rw [joined_cons, List.mem_append, List.mem_flatMap] at member
    rcases member with first | ⟨other, known, inside⟩
    · exact .inr ⟨line, List.mem_cons_self, first⟩
    · rcases List.mem_cons.1 inside with newline | inside
      · exact .inl newline
      · exact .inr ⟨other, List.mem_cons_of_mem _ known, inside⟩

/-- The lines in front of a line, each with its newline. -/
theorem joined_append (first : List (List Char)) (line : List Char) (rest : List (List Char)) :
    joined (first ++ line :: rest) = first.flatMap (· ++ ['\n']) ++ joined (line :: rest) := by
  induction first with
  | nil => rfl
  | cons next later ih =>
    rw [List.flatMap_cons, List.append_assoc, ← ih, List.append_assoc]
    cases later with
    | nil => rfl
    | cons other later => rfl

/-- The last item with a property. -/
theorem exists_last {α : Type*} {p : α → Prop} {items : List α} (some' : ∃ item ∈ items, p item) :
    ∃ first item last, items = first ++ item :: last ∧ p item ∧ ∀ other ∈ last, ¬p other := by
  induction items with
  | nil =>
    obtain ⟨_, member, _⟩ := some'
    cases member
  | cons item rest ih =>
    by_cases later : ∃ other ∈ rest, p other
    · obtain ⟨first, other, last, rfl, known, none⟩ := ih later
      exact ⟨item :: first, other, last, rfl, known, none⟩
    · obtain ⟨other, member, known⟩ := some'
      rcases List.mem_cons.1 member with rfl | inside
      · exact ⟨[], other, rest, rfl, known, fun next inside holds => later ⟨next, inside, holds⟩⟩
      · exact absurd ⟨other, inside, known⟩ later

section Yields
variable {α β : Type*} {f : α → List β} {items : List α}

theorem length_le_length_flatMap (yields : ∀ item ∈ items, f item ≠ []) : items.length ≤ (items.flatMap f).length := by
  induction items with
  | nil => exact le_rfl
  | cons item rest ih =>
    have later := ih fun other member => yields other (List.mem_cons_of_mem _ member)
    have here := List.length_pos_of_ne_nil (yields item List.mem_cons_self)
    rw [List.flatMap_cons, List.length_cons, List.length_append]
    omega

/-- Where each item yields something, all of them yield one thing each exactly when each does. -/
theorem flatMap_eq_map_iff {g : α → β} (yields : ∀ item ∈ items, f item ≠ []) :
    items.flatMap f = items.map g ↔ ∀ item ∈ items, f item = [g item] := by
  induction items with
  | nil => exact ⟨fun _ _ member => absurd member List.not_mem_nil, fun _ => rfl⟩
  | cons item rest ih =>
    have yieldsRest : ∀ other ∈ rest, f other ≠ [] := fun other member => yields other (List.mem_cons_of_mem _ member)
    rw [List.flatMap_cons, List.map_cons, List.forall_mem_cons, ← ih yieldsRest]
    constructor
    · intro same
      cases first : f item with
      | nil => exact absurd first (yields item List.mem_cons_self)
      | cons value more =>
        rw [first, List.cons_append] at same
        obtain ⟨rfl, later⟩ := List.cons.inj same
        -- the later items yield as much as there is room for, so that this one yields no more
        have room := length_le_length_flatMap yieldsRest
        have total := congrArg List.length later
        rw [List.length_append, List.length_map] at total
        obtain rfl := List.length_eq_zero_iff.1 (show more.length = 0 by omega)
        exact ⟨rfl, later⟩
    · rintro ⟨first, later⟩
      rw [first, later]
      rfl

end Yields

section Parts

theorem parts_cons_of_break {c : Char} {rest : List Char} (breaks : isBreak c = true)
    (alone : ¬(c = '\r' ∧ rest.head? = some '\n')) : parts (c :: rest) = [] :: parts rest := by
  rw [parts, if_neg alone, if_pos breaks]

theorem parts_cons_of_plain {c : Char} {rest : List Char} (plain : isBreak c = false) :
    parts (c :: rest) = consHead c (parts rest) := by
  have other : ¬(c = '\r' ∧ rest.head? = some '\n') := by
    rintro ⟨rfl, _⟩
    exact absurd plain (by decide)
  rw [parts, if_neg other, if_neg (by simp [plain])]

theorem parts_ne_nil (text : List Char) : parts text ≠ [] := by
  induction text with
  | nil => simp [parts]
  | cons c rest ih =>
    rw [parts]
    split
    · exact ih
    · split
      · simp
      · cases parts rest <;> simp [consHead]

theorem consHead_append {c : Char} {lines : List (List Char)} (exist : lines ≠ []) (later : List (List Char)) :
    consHead c (lines ++ later) = consHead c lines ++ later := by
  cases lines with
  | nil => exact absurd rfl exist
  | cons line rest => rfl

/-- A text without breaks is one line. -/
theorem parts_of_plain {line : List Char} (plain : ∀ c ∈ line, isBreak c = false) : parts line = [line] := by
  induction line with
  | nil => rfl
  | cons c rest ih =>
    rw [parts_cons_of_plain (plain c List.mem_cons_self), ih fun d member => plain d (List.mem_cons_of_mem _ member)]
    rfl

/-- The first line is the text up to the first break. -/
theorem headD_parts (text : List Char) : (parts text).headD [] = text.takeWhile fun c => !isBreak c := by
  induction text with
  | nil => rfl
  | cons c rest ih =>
    rw [parts]
    by_cases pair : c = '\r' ∧ rest.head? = some '\n'
    · rw [if_pos pair, ih, pair.1, List.takeWhile_cons_of_neg (by decide)]
      cases rest with
      | nil => rfl
      | cons d later =>
        obtain rfl := Option.some.inj pair.2
        rw [List.takeWhile_cons_of_neg (by decide)]
    · rw [if_neg pair]
      by_cases breaks : isBreak c = true
      · rw [if_pos breaks, List.takeWhile_cons_of_neg (by simp [breaks])]
        rfl
      · rw [if_neg breaks, List.takeWhile_cons_of_pos (by simpa using breaks), ← ih]
        cases parts rest <;> rfl

theorem plain_of_mem_parts {text line : List Char} (member : line ∈ parts text) :
    ∀ c ∈ line, isBreak c = false := by
  induction text generalizing line with
  | nil =>
    obtain rfl := List.mem_singleton.1 member
    simp
  | cons c rest ih =>
    rw [parts] at member
    split at member
    · exact ih member
    · split at member
      · rcases List.mem_cons.1 member with rfl | later
        · simp
        · exact ih later
      next plain =>
        cases split : parts rest with
        | nil => exact absurd split (parts_ne_nil rest)
        | cons first later =>
          rw [split, consHead] at member
          rcases List.mem_cons.1 member with rfl | other
          · intro d inside
            rcases List.mem_cons.1 inside with rfl | inside
            · simpa using plain
            · exact ih (split ▸ List.mem_cons_self) d inside
          · exact ih (split ▸ List.mem_cons_of_mem _ other)

theorem plain_of_mem_splitlines {text line : List Char} (member : line ∈ splitlines text) :
    ∀ c ∈ line, isBreak c = false := by
  rw [splitlines] at member
  split at member
  · exact plain_of_mem_parts (List.dropLast_subset _ member)
  · exact plain_of_mem_parts member

/-- A line break between two texts keeps their lines apart, unless it is one break with its neighbour. -/
theorem parts_append_cut {c : Char} (breaks : isBreak c = true) {first second : List Char}
    (edge : c = '\n' → first.getLast? ≠ some '\r') (alone : ¬(c = '\r' ∧ second.head? = some '\n')) :
    parts (first ++ c :: second) = parts first ++ parts second := by
  induction first with
  | nil =>
    rw [List.nil_append, parts_cons_of_break breaks alone]
    rfl
  | cons d rest ih =>
    have same : (d = '\r' ∧ (rest ++ c :: second).head? = some '\n') ↔ d = '\r' ∧ rest.head? = some '\n' := by
      cases rest with
      | nil =>
        rw [List.nil_append, List.head?_cons, List.head?_nil, Option.some.injEq]
        constructor
        · rintro ⟨rfl, newline⟩
          exact absurd rfl (edge newline)
        · rintro ⟨_, none⟩
          cases none
      | cons e tail => rfl
    have later : parts (rest ++ c :: second) = parts rest ++ parts second := by
      apply ih
      intro newline
      cases rest with
      | nil => simp
      | cons e tail =>
        have last := edge newline
        rwa [List.getLast?_cons_cons] at last
    rw [List.cons_append, parts, parts, later, if_congr same rfl rfl]
    by_cases pair : d = '\r' ∧ rest.head? = some '\n'
    · rw [if_pos pair, if_pos pair]
    · rw [if_neg pair, if_neg pair]
      by_cases splits : isBreak d = true
      · rw [if_pos splits, if_pos splits]
        rfl
      · rw [if_neg splits, if_neg splits, consHead_append (parts_ne_nil _)]

theorem parts_append_newline {first : List Char} (edge : first.getLast? ≠ some '\r') (second : List Char) :
    parts (first ++ '\n' :: second) = parts first ++ parts second :=
  parts_append_cut (by decide) (fun _ => edge) fun carriage => absurd carriage.1 (by decide)

/-- The lines of texts that each end in a newline. -/
theorem parts_flatMap_newline {texts : List (List Char)} (edges : ∀ text ∈ texts, text.getLast? ≠ some '\r') :
    parts (texts.flatMap (· ++ ['\n'])) = texts.flatMap parts ++ [[]] := by
  induction texts with
  | nil => rfl
  | cons text rest ih =>
    rw [List.flatMap_cons, List.append_assoc, List.singleton_append, parts_append_newline (edges text List.mem_cons_self),
      ih fun other member => edges other (List.mem_cons_of_mem _ member), List.flatMap_cons, List.append_assoc]

/-- A carriage return and a newline are one break. -/
theorem parts_append_crlf (first second : List Char) :
    parts (first ++ '\r' :: '\n' :: second) = parts first ++ parts second := by
  induction first with
  | nil =>
    rw [List.nil_append, parts.eq_2, if_pos ⟨rfl, rfl⟩, parts_cons_of_break (by decide) (by simp)]
    rfl
  | cons c rest ih =>
    have same : (c = '\r' ∧ (rest ++ '\r' :: '\n' :: second).head? = some '\n') ↔ c = '\r' ∧ rest.head? = some '\n' := by
      cases rest with
      | nil => simp
      | cons d tail => rfl
    rw [List.cons_append, parts, parts, ih, if_congr same rfl rfl]
    by_cases pair : c = '\r' ∧ rest.head? = some '\n'
    · rw [if_pos pair, if_pos pair]
    · rw [if_neg pair, if_neg pair]
      by_cases breaks : isBreak c = true
      · rw [if_pos breaks, if_pos breaks]
        rfl
      · rw [if_neg breaks, if_neg breaks, consHead_append (parts_ne_nil _)]

/-- What a text shows in front of a newline: a carriage return at its end belongs to the newline. -/
def ended (text : List Char) : List Char := if text.getLast? = some '\r' then text.dropLast else text

theorem parts_append_ended (first second : List Char) :
    parts (first ++ '\n' :: second) = parts (ended first) ++ parts second := by
  unfold ended
  split
  next carriage =>
    obtain ⟨text, rfl⟩ := List.getLast?_eq_some_iff.1 carriage
    rw [List.append_assoc, List.singleton_append, parts_append_crlf, List.dropLast_concat]
  next edge => exact parts_append_newline edge second

/-- A text without breaks belongs to the line that it is put in front of. -/
theorem parts_plain_append {front : List Char} (plain : ∀ c ∈ front, isBreak c = false) (text : List Char) :
    parts (front ++ text) = (front ++ (parts text).headD []) :: (parts text).tail := by
  induction front with
  | nil =>
    cases lines : parts text with
    | nil => exact absurd lines (parts_ne_nil text)
    | cons line rest => rw [List.nil_append, lines]; rfl
  | cons c rest ih =>
    rw [List.cons_append, parts_cons_of_plain (plain c List.mem_cons_self),
      ih fun d member => plain d (List.mem_cons_of_mem _ member)]
    rfl

theorem getLast?_ne_of_plain {text : List Char} (plain : ∀ c ∈ text, isBreak c = false) : text.getLast? ≠ some '\r' := by
  intro carriage
  exact absurd (plain _ (List.mem_of_getLast? carriage)) (by decide)

theorem ended_append {front : List Char} (plain : ∀ c ∈ front, isBreak c = false) (text : List Char) :
    ended (front ++ text) = front ++ ended text := by
  unfold ended
  cases text with
  | nil => rw [List.append_nil, if_neg (getLast?_ne_of_plain plain), if_neg (by simp), List.append_nil]
  | cons c rest =>
    rw [List.getLast?_append_of_ne_nil _ (List.cons_ne_nil c rest), List.dropLast_append_of_ne_nil (List.cons_ne_nil c rest)]
    split <;> rfl

theorem splitlines_of_parts {text : List Char} {lines : List (List Char)} (same : parts text = lines ++ [[]]) :
    splitlines text = lines := by
  rw [splitlines, same, List.getLast?_concat, if_pos rfl, List.dropLast_concat]

theorem parts_append_plain {c : Char} (plain : isBreak c = false) (text : List Char) :
    ∃ lines line, parts text = lines ++ [line] ∧ parts (text ++ [c]) = lines ++ [line ++ [c]] := by
  induction text with
  | nil => exact ⟨[], [], rfl, by rw [List.nil_append, parts_cons_of_plain plain]; rfl⟩
  | cons d rest ih =>
    obtain ⟨lines, line, before, after⟩ := ih
    have same : (d = '\r' ∧ (rest ++ [c]).head? = some '\n') ↔ d = '\r' ∧ rest.head? = some '\n' := by
      cases rest with
      | nil =>
        have other : c ≠ '\n' := by
          rintro rfl
          exact absurd plain (by decide)
        simp [other]
      | cons e tail => rfl
    rw [List.cons_append, parts, parts, before, after, if_congr same rfl rfl]
    by_cases pair : d = '\r' ∧ rest.head? = some '\n'
    · exact ⟨lines, line, if_pos pair, if_pos pair⟩
    · rw [if_neg pair, if_neg pair]
      by_cases breaks : isBreak d = true
      · exact ⟨[] :: lines, line, if_pos breaks, if_pos breaks⟩
      · rw [if_neg breaks, if_neg breaks]
        cases lines with
        | nil => exact ⟨[], d :: line, rfl, rfl⟩
        | cons first later => exact ⟨(d :: first) :: later, line, rfl, rfl⟩

theorem parts_append_break {c : Char} (breaks : isBreak c = true) (text : List Char) :
    parts (text ++ [c]) = parts text ∨ parts (text ++ [c]) = parts text ++ [[]] := by
  induction text with
  | nil =>
    rw [List.nil_append, parts_cons_of_break breaks (by simp)]
    exact .inr rfl
  | cons d rest ih =>
    rw [List.cons_append, parts, parts]
    by_cases pair : d = '\r' ∧ rest.head? = some '\n'
    · cases rest with
      | nil => simp at pair
      | cons e tail =>
        rw [if_pos pair, if_pos (show d = '\r' ∧ (e :: tail ++ [c]).head? = some '\n' from pair)]
        exact ih
    · rw [if_neg pair]
      by_cases here : d = '\r' ∧ (rest ++ [c]).head? = some '\n'
      · -- the new character ends the break that the carriage return has begun
        cases rest with
        | nil =>
          rw [if_pos here, here.1, if_pos (by decide), List.nil_append, parts_cons_of_break breaks (by simp)]
          exact .inl rfl
        | cons e tail => exact absurd here pair
      · rw [if_neg here]
        by_cases splits : isBreak d = true
        · rw [if_pos splits, if_pos splits]
          exact ih.imp (congrArg ([] :: ·)) (congrArg ([] :: ·))
        · rw [if_neg splits, if_neg splits]
          refine ih.imp (congrArg (consHead d)) fun more => ?_
          rw [more, consHead_append (parts_ne_nil _)]

/-- Reading a file translates its newlines, which no line shows. -/
theorem parts_universalNewlines (text : List Char) : parts (universalNewlines text) = parts text := by
  induction text with
  | nil => rfl
  | cons c rest ih =>
    rw [universalNewlines, parts]
    by_cases carriage : c = '\r'
    · by_cases newline : rest.head? = some '\n'
      · rw [if_pos carriage, if_pos newline, if_pos ⟨carriage, newline⟩, ih]
      · rw [if_pos carriage, if_neg newline, if_neg fun both => newline both.2, carriage, if_pos (by decide),
          parts_cons_of_break (by decide) (by simp), ih]
    · rw [if_neg carriage, if_neg fun both => carriage both.1, parts, if_neg fun both => carriage both.1, ih]

/-- The lines of joined texts are the lines of each. -/
theorem parts_joined {lines : List (List Char)} (exist : lines ≠ [])
    (edges : ∀ line ∈ lines, line.getLast? ≠ some '\r') : parts (joined lines) = lines.flatMap parts := by
  induction lines with
  | nil => exact absurd rfl exist
  | cons line rest ih =>
    cases rest with
    | nil => simp [joined]
    | cons next later =>
      rw [joined, parts_append_newline (edges line List.mem_cons_self),
        ih (List.cons_ne_nil _ _) fun other member => edges other (List.mem_cons_of_mem _ member)]
      rfl

theorem flatMap_parts_of_plain {lines : List (List Char)} (plain : ∀ line ∈ lines, ∀ c ∈ line, isBreak c = false) :
    lines.flatMap parts = lines := by
  induction lines with
  | nil => rfl
  | cons line rest ih =>
    rw [List.flatMap_cons, parts_of_plain (plain line List.mem_cons_self),
      ih fun other member => plain other (List.mem_cons_of_mem _ member)]
    rfl

end Parts

/-! Lines up to the white space around them. -/

section Stripped
variable [CharData]

/-- `text.lstrip()`. -/
def lstrip (text : List Char) : List Char := text.dropWhile CharData.isSpace

/-- `text.rstrip()`. -/
def rstrip (text : List Char) : List Char := (text.reverse.dropWhile CharData.isSpace).reverse

/-- `line.strip()`. -/
def strip (line : List Char) : List Char := rstrip (line.dropWhile CharData.isSpace)

theorem strip_toList (text : String) : (Text.strip text).toList = strip text.toList := by
  rw [Text.strip, String.toList_ofList]
  rfl

/-- What the lines of a text say. -/
def stripped (text : List Char) : List (List Char) := (parts text).map strip

@[simp] theorem strip_nil : strip [] = [] := rfl

theorem rstrip_append_space {c : Char} (space : CharData.isSpace c = true) (text : List Char) :
    rstrip (text ++ [c]) = rstrip text := by
  rw [rstrip, List.reverse_append, List.reverse_singleton, List.singleton_append, List.dropWhile_cons_of_pos space]
  rfl

theorem strip_append_space {c : Char} (space : CharData.isSpace c = true) (line : List Char) :
    strip (line ++ [c]) = strip line := by
  rw [strip, List.dropWhile_append]
  split
  next blank =>
    rw [List.isEmpty_iff] at blank
    rw [strip, blank, List.dropWhile_cons_of_pos space]
    rfl
  next => exact rstrip_append_space space _

theorem rstrip_cons {c : Char} (visible : CharData.isSpace c = false) (text : List Char) :
    rstrip (c :: text) = c :: rstrip text := by
  rw [rstrip, List.reverse_cons, List.dropWhile_append]
  split
  next blank =>
    rw [List.isEmpty_iff] at blank
    rw [rstrip, blank, List.dropWhile_cons_of_neg (by simp [visible])]
    rfl
  next => rw [List.reverse_append, List.reverse_singleton, rstrip, List.singleton_append]

theorem rstrip_rstrip (text : List Char) : rstrip (rstrip text) = rstrip text := by
  rw [rstrip, rstrip, List.reverse_reverse, List.dropWhile_idempotent]

/-- A line that starts with a visible character loses only what stands behind it. -/
theorem strip_cons {c : Char} (visible : CharData.isSpace c = false) (line : List Char) :
    strip (c :: line) = c :: rstrip line := by
  rw [strip, List.dropWhile_cons_of_neg (by simp [visible]), rstrip_cons visible]

@[simp] theorem strip_strip (line : List Char) : strip (strip line) = strip line := by
  cases visible : line.dropWhile CharData.isSpace with
  | nil =>
    have own : strip line = [] := by
      rw [strip, visible]
      rfl
    rw [own, strip_nil]
  | cons c rest =>
    have head : CharData.isSpace c = false := by
      have kept := List.head?_dropWhile_not CharData.isSpace line
      rw [visible] at kept
      simpa using kept
    have own : strip line = c :: rstrip rest := by rw [strip, visible, rstrip_cons head]
    rw [own, strip_cons head, rstrip_rstrip]

theorem rstrip_eq_nil_iff {text : List Char} : rstrip text = [] ↔ ∀ c ∈ text, CharData.isSpace c = true := by
  rw [rstrip, List.reverse_eq_nil_iff, List.dropWhile_eq_nil_iff]
  simp

/-- What stands before a text that is not blank stays. -/
theorem rstrip_append {second : List Char} (visible : rstrip second ≠ []) (first : List Char) :
    rstrip (first ++ second) = first ++ rstrip second := by
  rw [rstrip, List.reverse_append, List.dropWhile_append]
  split
  next blank =>
    rw [List.isEmpty_iff] at blank
    exact absurd (List.reverse_eq_nil_iff.2 blank) visible
  next => rw [List.reverse_append, List.reverse_reverse, rstrip]

theorem rstrip_sublist (text : List Char) : rstrip text ⊆ text := by
  intro c member
  exact List.mem_reverse.1 (List.dropWhile_subset _ (List.mem_reverse.1 member))

theorem strip_subset (line : List Char) : strip line ⊆ line :=
  fun _ member => List.dropWhile_subset _ (rstrip_sublist _ member)

theorem strip_of_visible {line : List Char} (visible : ∀ c ∈ line, CharData.isSpace c = false) : strip line = line := by
  have kept : ∀ text : List Char, (∀ c ∈ text, CharData.isSpace c = false) → text.dropWhile CharData.isSpace = text := by
    intro text plain
    cases text with
    | nil => rfl
    | cons c rest => exact List.dropWhile_cons_of_neg (by simp [plain c List.mem_cons_self])
  rw [strip, kept line visible, rstrip, kept _ fun c member => visible c (List.mem_reverse.1 member),
    List.reverse_reverse]

/-- White space around a text of ASCII characters is the same in all tables. -/
theorem strip_of_ascii {text : List Char} (ascii : ∀ c ∈ text, c.toNat < 0x80) : strip text = @strip CharData.ascii text := by
  have same : ∀ text : List Char, (∀ c ∈ text, c.toNat < 0x80) →
      text.dropWhile CharData.isSpace = text.dropWhile asciiSpace := by
    intro text ascii
    induction text with
    | nil => rfl
    | cons c rest ih =>
      rw [List.dropWhile_cons, List.dropWhile_cons, CharData.isSpace_ascii c (ascii c List.mem_cons_self),
        ih fun d member => ascii d (List.mem_cons_of_mem _ member)]
  have front := same text ascii
  have back := same (text.dropWhile asciiSpace).reverse
    fun c member => ascii c (List.dropWhile_subset _ (List.mem_reverse.1 member))
  rw [strip, rstrip, front, back]
  rfl

theorem mem_dropWhile_of_visible {text : List Char} {c : Char} (member : c ∈ text)
    (visible : CharData.isSpace c = false) : c ∈ text.dropWhile CharData.isSpace := by
  rw [← List.takeWhile_append_dropWhile (p := CharData.isSpace) (l := text)] at member
  rcases List.mem_append.1 member with blank | kept
  · rw [List.mem_takeWhile_imp blank] at visible
    cases visible
  · exact kept

theorem strip_ne_nil {line : List Char} {c : Char} (member : c ∈ line) (visible : CharData.isSpace c = false) :
    strip line ≠ [] := by
  intro blank
  have spaces := rstrip_eq_nil_iff.1 blank c (mem_dropWhile_of_visible member visible)
  rw [visible] at spaces
  cases spaces

/-- A text is its `rstrip`, and white space behind it. -/
theorem rstrip_spaces (text : List Char) :
    ∃ spaces, (∀ c ∈ spaces, CharData.isSpace c = true) ∧ text = rstrip text ++ spaces := by
  refine ⟨(text.reverse.takeWhile CharData.isSpace).reverse, ?_, ?_⟩
  · intro c member
    exact List.mem_takeWhile_imp (List.mem_reverse.1 member)
  · rw [rstrip, ← List.reverse_append, List.takeWhile_append_dropWhile, List.reverse_reverse]

theorem getLast_rstrip {text : List Char} {c : Char} (last : (rstrip text).getLast? = some c) :
    CharData.isSpace c = false := by
  rw [rstrip, List.getLast?_reverse] at last
  have kept := List.head?_dropWhile_not CharData.isSpace text.reverse
  rw [last] at kept
  simpa using kept

theorem stripped_append_space {c : Char} (space : CharData.isSpace c = true) (text : List Char) :
    ∃ count, stripped (text ++ [c]) = stripped text ++ List.replicate count [] := by
  by_cases breaks : isBreak c = true
  · rcases parts_append_break breaks text with same | more
    · exact ⟨0, by rw [stripped, same, stripped, List.replicate_zero, List.append_nil]⟩
    · exact ⟨1, by rw [stripped, more, List.map_append, stripped]; rfl⟩
  · obtain ⟨lines, line, before, after⟩ := parts_append_plain (by simpa using breaks) text
    refine ⟨0, ?_⟩
    rw [stripped, stripped, before, after, List.map_append, List.map_append, List.map_singleton,
      strip_append_space space]
    simp

theorem stripped_append_spaces {spaces : List Char} (space : ∀ c ∈ spaces, CharData.isSpace c = true)
    (text : List Char) : ∃ count, stripped (text ++ spaces) = stripped text ++ List.replicate count [] := by
  induction spaces generalizing text with
  | nil => exact ⟨0, by simp⟩
  | cons c rest ih =>
    obtain ⟨first, added⟩ := stripped_append_space (space c List.mem_cons_self) text
    obtain ⟨later, all⟩ := ih (fun d member => space d (List.mem_cons_of_mem _ member)) (text ++ [c])
    refine ⟨first + later, ?_⟩
    rw [List.append_assoc, List.singleton_append] at all
    rw [all, added, List.append_assoc, List.replicate_append_replicate]

/-- `rstrip` takes no more than blank lines away. -/
theorem stripped_rstrip (text : List Char) :
    ∃ count, stripped text = stripped (rstrip text) ++ List.replicate count [] := by
  obtain ⟨spaces, space, split⟩ := rstrip_spaces text
  obtain ⟨count, same⟩ := stripped_append_spaces space (rstrip text)
  exact ⟨count, by rw [← same, ← split]⟩

theorem stripped_splitlines (text : List Char) :
    ∃ count, stripped text = (splitlines text).map strip ++ List.replicate count [] := by
  rw [splitlines, stripped]
  split
  next blank =>
    refine ⟨1, ?_⟩
    obtain ⟨lines, split⟩ := List.getLast?_eq_some_iff.1 blank
    rw [split, List.dropLast_concat, List.map_append]
    rfl
  next => exact ⟨0, by simp⟩

end Stripped

end SoulClaw.Foundation.Lines
