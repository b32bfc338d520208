import SoulClaw.Domain.Gate
import SoulClaw.Foundation.Patterns

/-! The hard safety floor. Its patterns are searched in the `repr` of the arguments, which writes a line
break as a backslash and a letter: white space that separates two words of a command in a string of the
arguments no longer does so there, and the letter runs into a word that starts behind the line break. -/

namespace SoulClaw.Domain.SafetyFloor
open Foundation Tools ToolEffects Patterns

section Floor
variable [CharData] [WordData]

def unicode : Alphabet where
  space := CharData.isSpace
  word := WordData.isWord
  same := sameCase

/-- `re.compile(pattern, re.IGNORECASE).search(text)`. -/
def search (pattern text : String) : Bool := Patterns.search unicode (compile pattern.toList) text.toList

/-- The executor with the patterns of the floor. -/
def floored (tools : ToolRuntime) : ToolRuntime := { tools with search := search }

mutual

/-- The strings of a value, keys and values at any depth. -/
def strings : Json → List String
  | .str text => [text]
  | .arr items => stringsItems items
  | .obj fields => stringsFields fields
  | _ => []

def stringsItems : List Json → List String
  | [] => []
  | item :: rest => strings item ++ stringsItems rest

def stringsFields : List (String × Json) → List String
  | [] => []
  | (key, value) :: rest => key :: strings value ++ stringsFields rest

end

mutual

/-- The value is built from dicts, lists and strings. -/
def textual : Json → Bool
  | .str _ => true
  | .arr items => textualItems items
  | .obj fields => textualFields fields
  | _ => false

def textualItems : List Json → Bool
  | [] => true
  | item :: rest => textual item && textualItems rest

def textualFields : List (String × Json) → Bool
  | [] => true
  | (_, value) :: rest => textual value && textualFields rest

end

/-- A string of the arguments contains a match of a blocked pattern. -/
def dangerous (arguments : Dict) : Bool :=
  blockedPatterns.any fun pattern => (strings (.obj arguments)).any fun text => search pattern text

/-! What a pattern finds of a string in its `repr`. -/

/-- `repr` writes the character as a backslash with letters and digits. -/
def escaped (c : Char) : Bool :=
  c.toNat < 0x20 ∨ c.toNat = 0x7f ∨ 0x7f < c.toNat ∧ CharData.isPrintable c = false

/-- The only white space that `repr` leaves as it is. -/
def plain : Alphabet := { unicode with space := fun c => c = ' ' }

/-- A carriage return is written as a backslash and `r`, where a pattern takes the letter. -/
def returnAt (pattern : List Piece) (text : List Char) : Bool :=
  text.head? = some '\r' && matchesAt plain pattern none ('r' :: text.tail)

/-- The pattern matches at this place of a string as it stands: with no white space but spaces, and no escaped
character before it. -/
def plainlyAt (pattern : List Piece) (before : Option Char) (text : List Char) : Bool :=
  before.all (fun c => !escaped c) && matchesAt plain pattern before text || returnAt pattern text

def plainlyFrom (pattern : List Piece) : Option Char → List Char → Bool
  | before, [] => plainlyAt pattern before []
  | before, c :: text => plainlyAt pattern before (c :: text) || plainlyFrom pattern (some c) text

/-- A string of the arguments contains a match that `repr` leaves as it is. -/
def plainlyDangerous (arguments : Dict) : Bool :=
  blockedPatterns.any fun pattern =>
    (strings (.obj arguments)).any fun text => plainlyFrom (compile pattern.toList) none text.toList

/-- The tool can be called at all: it is known, available, and needs no approval that is missing. -/
def callable (tools : ToolRuntime) (toolName : String) (approved : Approved) : Bool :=
  match tools.registry toolName with
  | none => false
  | some definition =>
      definition.handler.isSome && definition.available && (!definition.requiresApproval || approved.granted)

/-- The execution raises before it runs the handler. -/
def RaisesBeforeHandler (tools : ToolRuntime) (world : World) (toolName : String) (arguments : Dict) (turnId : String)
    (approved : Approved) : Prop :=
  (∃ failure, (execute tools world toolName arguments turnId approved).1 = .error failure) ∧
    (execute tools world toolName arguments turnId approved).2.effects = world.effects

/-! The patterns. -/

/-- The characters that `repr` never escapes. -/
def upright (c : Char) : Bool := 0x21 ≤ c.toNat ∧ c.toNat ≤ 0x7e ∧ c ∉ ['\\', '\'', '"']

def uprightPiece : Piece → Bool
  | .literal c => upright c
  | _ => true

/-- The pattern starts with one of these letters at a boundary. -/
structure Anchored (pattern : List Piece) : Prop where
  start : ∃ first rest, pattern = .boundary :: .literal first :: rest ∧ first ∈ ['r', 'g', 'm', 'c']
  upright : pattern.all uprightPiece = true

omit [CharData] [WordData] in
theorem anchored_of_blocked : ∀ pattern ∈ blockedPatterns, Anchored (compile pattern.toList) := by
  unfold blockedPatterns
  simp only [List.forall_mem_cons, List.not_mem_nil, false_implies, implies_true, and_true]
  refine ⟨⟨⟨'r', _, rfl, by decide⟩, by decide⟩, ⟨⟨'g', _, rfl, by decide⟩, by decide⟩,
    ⟨⟨'g', _, rfl, by decide⟩, by decide⟩, ⟨⟨'m', _, rfl, by decide⟩, by decide⟩,
    ⟨⟨'c', _, rfl, by decide⟩, by decide⟩⟩

/-! Characters. -/

omit [CharData] [WordData] in
theorem toLower_cases (c : Char) : c.toLower = c ∨ 0x41 ≤ c.toNat ∧ c.toNat ≤ 0x5a := by
  unfold Char.toLower
  split
  next capital => exact .inr ⟨capital.1, capital.2⟩
  next => exact .inl rfl

omit [CharData] [WordData] in
theorem upright_toLower {literal : Char} (up : upright literal = true) : upright literal.toLower = true := by
  have checked : ∀ c : Char, c.toNat < 128 → upright c = true → upright c.toLower = true :=
    Text.forall_ascii (by decide +kernel)
  have bounds := (of_decide_eq_true up).2.1
  exact checked literal (by omega) up

theorem isPrintable_folds {letter c : Char} (folded : c ∈ folds letter) :
    0x7f < c.toNat ∧ CharData.isPrintable c = true := by
  have beyond : 0x80 ≤ c.toNat := by
    unfold folds at folded
    split at folded
    · rcases List.mem_pair.1 folded with rfl | rfl <;> decide
    · split at folded
      · rw [List.mem_singleton.1 folded]
        decide
      · split at folded
        · rw [List.mem_singleton.1 folded]
          decide
        · cases folded
  exact ⟨beyond, WordData.isPrintable_of_isWord c beyond (WordData.isWord_folds letter c folded)⟩

omit [WordData] in
theorem escaped_of_upright {c : Char} (up : upright c = true) : escaped c = false ∧ c ∉ ['\\', '\'', '"'] := by
  obtain ⟨low, high, marks⟩ := of_decide_eq_true up
  refine ⟨decide_eq_false ?_, marks⟩
  omega

/-- A literal that stands upright only matches characters that do, and letters beyond ASCII. -/
theorem not_escaped_of_same {literal c : Char} (up : upright literal = true) (same : sameCase literal c = true) :
    escaped c = false ∧ c ∉ ['\\', '\'', '"'] := by
  rcases of_decide_eq_true same with lower | folded
  · rcases toLower_cases c with small | ⟨low, high⟩
    · rw [← small, lower]
      exact escaped_of_upright (upright_toLower up)
    · refine ⟨decide_eq_false (by omega), fun mark => ?_⟩
      simp only [List.mem_cons, List.not_mem_nil, or_false] at mark
      rcases mark with rfl | rfl | rfl
      · exact absurd high (by decide)
      · exact absurd low (by decide)
      · exact absurd low (by decide)
  · obtain ⟨beyond, printable⟩ := isPrintable_folds folded
    refine ⟨decide_eq_false ?_, fun mark => ?_⟩
    · rw [printable]
      simp only [Bool.true_eq_false, and_false, or_false]
      omega
    · simp only [List.mem_cons, List.not_mem_nil, or_false] at mark
      rcases mark with rfl | rfl | rfl <;> exact absurd beyond (by decide)

theorem isWord_of_same {first c : Char} (start : first ∈ ['r', 'g', 'm', 'c']) (same : sameCase first c = true) :
    WordData.isWord c = true := by
  have lower : c.toLower = first := by
    simp only [List.mem_cons, List.not_mem_nil, or_false] at start
    rcases start with rfl | rfl | rfl | rfl <;> simpa [sameCase, folds] using same
  rcases toLower_cases c with small | ⟨low, high⟩
  · rw [← small, lower]
    simp only [List.mem_cons, List.not_mem_nil, or_false] at start
    rcases start with rfl | rfl | rfl | rfl <;> exact WordData.isWord_ascii _ (by decide)
  · have capital : c.isUpper = true := decide_eq_true (show c.val ≥ 'A'.val ∧ c.val ≤ 'Z'.val from ⟨low, high⟩)
    rw [WordData.isWord_ascii c (by omega)]
    show (c.isUpper || c.isLower || c.isDigit || _) = true
    rw [capital]
    rfl

theorem isWord_of_escaped {c : Char} (written : escaped c = true) : WordData.isWord c = false := by
  have checked : ∀ c : Char, c.toNat < 128 → c.toNat < 0x20 ∨ c.toNat = 0x7f → (c.isAlphanum || c = '_') = false :=
    Text.forall_ascii (by decide +kernel)
  rcases of_decide_eq_true written with low | rubout | ⟨beyond, hidden⟩
  · rw [WordData.isWord_ascii c (by omega), checked c (by omega) (.inl low)]
  · rw [WordData.isWord_ascii c (by omega), checked c (by omega) (.inr rubout)]
  · rw [Bool.eq_false_iff]
    intro word
    rw [WordData.isPrintable_of_isWord c beyond word] at hidden
    cases hidden

theorem isSpace_of_not_escaped {c : Char} (shown : escaped c = false) (notBlank : c ≠ ' ') :
    CharData.isSpace c = false := by
  have visible := of_decide_eq_false shown
  rw [not_or, not_or, not_and] at visible
  obtain ⟨low, rubout, printable⟩ := visible
  by_cases small : c.toNat < 0x80
  · have checked : ∀ c : Char, c.toNat < 128 → 0x20 < c.toNat → asciiSpace c = false :=
      Text.forall_ascii (by decide +kernel)
    have different : c.toNat ≠ 0x20 := fun same => notBlank (Char.toNat_inj.1 same)
    rw [CharData.isSpace_ascii c small, checked c small (by omega)]
  · rw [Bool.eq_false_iff]
    intro space
    exact printable (by omega) (WordData.isPrintable_of_isSpace c (by omega) space)

/-- How a character of a string is written. -/
inductive Written (quote c : Char) : List Char → Prop
  | upright (shown : escaped c = false) (mark : c ∉ ['\\', quote]) : Written quote c [c]
  | marked (mark : c ∈ ['\\', quote]) : Written quote c ['\\', c]
  | carriageReturn (is : c = '\r') : Written quote c ['\\', 'r']
  | coded (hidden : escaped c = true) (other : c ≠ '\r') (kind : Char) (code : List Char)
      (named : kind ∈ ['n', 't', 'x', 'u', 'U']) (digits : ∀ digit ∈ code, WordData.isWord digit = true) :
      Written quote c ('\\' :: kind :: code)

theorem isWord_hexDigits {width value : Nat} :
    ∀ digit ∈ Text.hexDigits width value, WordData.isWord digit = true := by
  intro digit member
  obtain ⟨place, _, rfl⟩ := List.mem_map.1 member
  have all : ∀ value < 16, value.digitChar.toNat < 0x80 ∧
      (value.digitChar.isAlphanum || value.digitChar = '_') = true := by decide
  obtain ⟨small, word⟩ := all (value / 16 ^ place % 16) (Nat.mod_lt _ (by decide))
  rw [WordData.isWord_ascii _ small, word]

theorem reprChar_written (quote c : Char) : Written quote c (Text.reprChar quote c) := by
  unfold Text.reprChar
  by_cases mark : c = '\\' ∨ c = quote
  · rw [if_pos mark]
    exact .marked (by simpa using mark)
  rw [if_neg mark]
  by_cases newline : c = '\n'
  · rw [if_pos newline]
    exact .coded (by rw [newline]; rfl) (by rw [newline]; decide) 'n' [] (by decide) (by simp)
  rw [if_neg newline]
  by_cases back : c = '\r'
  · rw [if_pos back]
    exact .carriageReturn back
  rw [if_neg back]
  by_cases tab : c = '\t'
  · rw [if_pos tab]
    exact .coded (by rw [tab]; rfl) (by rw [tab]; decide) 't' [] (by decide) (by simp)
  rw [if_neg tab]
  by_cases control : c.toNat < 0x20 ∨ c.toNat = 0x7f
  · rw [if_pos control]
    exact .coded (decide_eq_true (by omega)) back 'x' _ (by decide) isWord_hexDigits
  rw [if_neg control]
  by_cases shown : c.toNat < 0x7f ∨ CharData.isPrintable c = true
  · rw [if_pos shown]
    refine .upright (decide_eq_false ?_) (by simpa using mark)
    rintro (low | rubout | ⟨beyond, hidden⟩)
    · exact control (.inl low)
    · exact control (.inr rubout)
    · rcases shown with small | printable
      · omega
      · rw [printable] at hidden
        cases hidden
  rw [if_neg shown]
  have hidden : escaped c = true := by
    refine decide_eq_true (.inr (.inr ⟨by omega, ?_⟩))
    rw [Bool.eq_false_iff]
    exact fun printable => shown (.inr printable)
  by_cases latin : c.toNat < 0x100
  · rw [if_pos latin]
    exact .coded hidden back 'x' _ (by decide) isWord_hexDigits
  rw [if_neg latin]
  by_cases basic : c.toNat < 0x10000
  · rw [if_pos basic]
    exact .coded hidden back 'u' _ (by decide) isWord_hexDigits
  · rw [if_neg basic]
    exact .coded hidden back 'U' _ (by decide) isWord_hexDigits

/-! A string in its `repr`. -/

/-- The text between the quotes. -/
def body (quote : Char) (text : List Char) : List Char := text.flatMap (Text.reprChar quote)

omit [WordData] in
theorem body_cons (quote c : Char) (text : List Char) :
    body quote (c :: text) = Text.reprChar quote c ++ body quote text := List.flatMap_cons

/-- An upright character is written as it is, and others start with a backslash. -/
theorem body_head (quote c : Char) (text : List Char) :
    escaped c = false ∧ c ∉ ['\\', quote] ∧ body quote (c :: text) = c :: body quote text ∨
      (escaped c = true ∨ c ∈ ['\\', quote]) ∧ ∃ rest, body quote (c :: text) = '\\' :: rest := by
  rw [body_cons]
  have written := reprChar_written quote c
  generalize Text.reprChar quote c = chars at written
  cases written with
  | upright shown mark => exact .inl ⟨shown, mark, rfl⟩
  | marked mark => exact .inr ⟨.inr mark, _, rfl⟩
  | carriageReturn is => exact .inr ⟨.inl (by rw [is]; rfl), _, rfl⟩
  | coded hidden other kind code named digits => exact .inr ⟨.inl hidden, _, rfl⟩

omit [CharData] [WordData] in
theorem marks_subset {quote c : Char} (isQuote : quote ∈ ['\'', '"']) (mark : c ∈ ['\\', quote]) :
    c ∈ ['\\', '\'', '"'] := by
  rcases List.mem_pair.1 mark with rfl | rfl
  · exact List.mem_cons_self
  · exact List.mem_cons_of_mem _ isQuote

theorem isWord_mark {c : Char} (mark : c ∈ ['\\', '\'', '"']) : WordData.isWord c = false := by
  simp only [List.mem_cons, List.not_mem_nil, or_false] at mark
  rcases mark with rfl | rfl | rfl <;> exact WordData.isWord_ascii _ (by decide)

theorem not_same_of_hidden {literal c : Char} (up : upright literal = true)
    (hidden : escaped c = true ∨ c ∈ ['\\', '\'', '"']) : sameCase literal c = false := by
  rw [Bool.eq_false_iff]
  intro same
  obtain ⟨shown, unmarked⟩ := not_escaped_of_same up same
  rcases hidden with written | mark
  · rw [shown] at written
    cases written
  · exact unmarked mark

theorem inWord_body_head {quote : Char} (isQuote : quote ∈ ['\'', '"']) (text : List Char) :
    unicode.inWord (body quote text).head? = unicode.inWord text.head? := by
  cases text with
  | nil => rfl
  | cons c text =>
    rcases body_head quote c text with ⟨_, _, shown⟩ | ⟨hidden, rest, written⟩
    · rw [shown]
      rfl
    · rw [written]
      have outside : WordData.isWord c = false := by
        rcases hidden with escape | mark
        · exact isWord_of_escaped escape
        · exact isWord_mark (marks_subset isQuote mark)
      exact (isWord_mark (by decide)).trans outside.symm

theorem oneOrMore_body {quote : Char} (isQuote : quote ∈ ['\'', '"'])
    {first second : Option Char → List Char → Bool}
    (alike : ∀ before text, first before (body quote text) = second before text) (text : List Char) :
    oneOrMore unicode.space first (body quote text) = oneOrMore plain.space second text := by
  induction text with
  | nil => rfl
  | cons c text ih =>
    rcases body_head quote c text with ⟨shown, _, same⟩ | ⟨hidden, rest, written⟩
    · rw [same, oneOrMore, oneOrMore, alike, ih]
      by_cases blank : c = ' '
      · rw [blank]
        exact congrArg (· && _) (CharData.isSpace_ascii ' ' (by decide))
      · rw [show plain.space c = false from decide_eq_false blank]
        exact congrArg (· && _) (isSpace_of_not_escaped shown blank)
    · have notBlank : plain.space c = false := by
        refine decide_eq_false fun blank => ?_
        rw [blank] at hidden
        rcases hidden with escape | mark
        · rw [show escaped ' ' = false from rfl] at escape
          cases escape
        · exact absurd (marks_subset isQuote mark) (by decide)
      rw [written, oneOrMore, oneOrMore, notBlank, Bool.false_and,
        show unicode.space '\\' = false from CharData.isSpace_ascii _ (by decide), Bool.false_and]

/-- A pattern of upright literals matches the written text where it matches the string with plain spaces. -/
theorem matchesAt_body {quote : Char} (isQuote : quote ∈ ['\'', '"']) {pattern : List Piece}
    (up : pattern.all uprightPiece = true) (before : Option Char) (text : List Char) :
    matchesAt unicode pattern before (body quote text) = matchesAt plain pattern before text := by
  induction pattern generalizing before text with
  | nil => rfl
  | cons piece rest ih =>
    rw [List.all_cons, Bool.and_eq_true] at up
    have later := ih up.2
    cases piece with
    | boundary => rw [matchesAt, matchesAt, later, inWord_body_head isQuote]; rfl
    | spaces => exact oneOrMore_body isQuote later text
    | literal literal =>
      cases text with
      | nil => rfl
      | cons c text =>
        rcases body_head quote c text with ⟨_, _, shown⟩ | ⟨hidden, rest, written⟩
        · rw [shown, matchesAt, matchesAt, later]
          rfl
        · have apart : sameCase literal c = false :=
            not_same_of_hidden up.1 (hidden.imp_right (marks_subset isQuote))
          rw [written, matchesAt, matchesAt, show unicode.same literal '\\' = false from
            not_same_of_hidden up.1 (.inr (by decide)), show plain.same literal c = false from apart,
            Bool.false_and, Bool.false_and]

section Search
variable {first : Char} {rest : List Piece} (start : first ∈ ['r', 'g', 'm', 'c'])

omit [CharData] [WordData] in
theorem upright_first (start : first ∈ ['r', 'g', 'm', 'c']) : upright first = true := by
  simp only [List.mem_cons, List.not_mem_nil, or_false] at start
  rcases start with rfl | rfl | rfl | rfl <;> decide

omit [CharData] [WordData] in
theorem not_same_kind (start : first ∈ ['r', 'g', 'm', 'c']) {kind : Char}
    (named : kind ∈ ['n', 't', 'x', 'u', 'U']) : sameCase first kind = false := by
  have all : (['r', 'g', 'm', 'c'].all fun first => ['n', 't', 'x', 'u', 'U'].all fun kind =>
      !sameCase first kind) = true := by decide
  simpa using List.all_eq_true.1 (List.all_eq_true.1 all first start) kind named

/-- The pattern is not found inside of a word. -/
theorem searchFrom_word {before : Char} {word text : List Char} (inside : WordData.isWord before = true)
    (digits : ∀ c ∈ word, WordData.isWord c = true) :
    searchFrom unicode (.boundary :: .literal first :: rest) (some before) (word ++ text) =
      searchFrom unicode (.boundary :: .literal first :: rest) (some before) text := by
  induction word generalizing before with
  | nil => rfl
  | cons c word ih =>
    have here : WordData.isWord c = true := digits c List.mem_cons_self
    rw [List.cons_append, searchFrom, matchesAt_inWord inside here, Bool.false_or,
      ih here fun other member => digits other (List.mem_cons_of_mem _ member)]
    exact searchFrom_before _ text (here.trans inside.symm)

theorem plainlyAt_of_not_same {before : Option Char} {c : Char} {text : List Char}
    (different : sameCase first c = false) (other : c ≠ '\r') :
    plainlyAt (.boundary :: .literal first :: rest) before (c :: text) = false := by
  have unread : returnAt (.boundary :: .literal first :: rest) (c :: text) = false := by
    rw [returnAt, List.head?_cons, decide_eq_false (fun same => other (Option.some.inj same)), Bool.false_and]
  rw [plainlyAt, unread, Bool.or_false, matchesAt_of_not_same different, Bool.and_false]

include start

/-- Behind a word the pattern does not match. -/
theorem matchesAt_of_inWord {before : Option Char} (inside : plain.inWord before = true) (text : List Char) :
    matchesAt plain (.boundary :: .literal first :: rest) before text = false := by
  cases text with
  | nil => rw [matchesAt, matchesAt, Bool.and_false]
  | cons c text =>
    rw [matchesAt, matchesAt]
    cases same : plain.same first c with
    | false => rw [Bool.false_and, Bool.and_false]
    | true =>
      rw [inside, show plain.inWord (c :: text).head? = true from isWord_of_same start same]
      rfl

/-- The text before a place ends in a word when it is written. -/
def shownWord (before : Option Char) : Bool := before.any fun c => escaped c || WordData.isWord c

theorem plainly_before {before shown : Option Char} (alike : unicode.inWord before = shownWord shown)
    (text : List Char) :
    matchesAt plain (.boundary :: .literal first :: rest) before text =
      (shown.all (fun c => !escaped c) && matchesAt plain (.boundary :: .literal first :: rest) shown text) := by
  cases inside : unicode.inWord before with
  | true =>
    rw [matchesAt_of_inWord start inside]
    cases shown with
    | none =>
      rw [inside] at alike
      cases alike
    | some c =>
      rw [Option.all_some]
      cases hidden : escaped c with
      | true => rfl
      | false =>
        rw [inside, shownWord, Option.any_some, hidden, Bool.false_or] at alike
        rw [matchesAt_of_inWord start (show plain.inWord (some c) = true from alike.symm), Bool.and_false]
  | false =>
    rw [inside] at alike
    cases shown with
    | none =>
      rw [Option.all_none, Bool.true_and]
      exact matchesAt_before _ text inside
    | some c =>
      rw [shownWord, Option.any_some] at alike
      obtain ⟨upright, outside⟩ := Bool.or_eq_false_iff.1 alike.symm
      rw [Option.all_some, upright, Bool.not_false, Bool.true_and]
      exact matchesAt_before _ text (inside.trans outside.symm)

/-- The search in the written text finds what stands plainly in the string. -/
theorem searchFrom_body {quote : Char} (isQuote : quote ∈ ['\'', '"']) (up : rest.all uprightPiece = true)
    {before shown : Option Char} (alike : unicode.inWord before = shownWord shown) (text : List Char) :
    searchFrom unicode (.boundary :: .literal first :: rest) before (body quote text) =
      plainlyFrom (.boundary :: .literal first :: rest) shown text := by
  have whole : (Piece.boundary :: .literal first :: rest).all uprightPiece = true := by
    rw [List.all_cons, List.all_cons, up, show uprightPiece (.literal first) = true from upright_first start]
    rfl
  have backslash : sameCase first '\\' = false := not_same_of_hidden (upright_first start) (.inr (by decide))
  have outside : WordData.isWord '\\' = false := isWord_mark (by decide)
  induction text generalizing before shown with
  | nil =>
    show searchFrom unicode _ before [] = plainlyAt _ shown []
    rw [searchFrom_nil, plainlyAt, matchesAt, matchesAt, Bool.and_false, Bool.and_false]
    rfl
  | cons c text ih =>
    have written := reprChar_written quote c
    rw [plainlyFrom]
    generalize same : Text.reprChar quote c = chars at written
    cases written with
    | upright standing mark =>
      have plainly : matchesAt unicode (.boundary :: .literal first :: rest) before (c :: body quote text) =
          plainlyAt (.boundary :: .literal first :: rest) shown (c :: text) := by
        have unread : returnAt (.boundary :: .literal first :: rest) (c :: text) = false := by
          refine Bool.and_eq_false_iff.2 (.inl (decide_eq_false fun is => ?_))
          rw [Option.some.inj is] at standing
          cases standing
        have here := matchesAt_body isQuote whole before (c :: text)
        rw [body_cons, same] at here
        rw [plainlyAt, unread, Bool.or_false, ← plainly_before start alike]
        exact here
      have next : unicode.inWord (some c) = shownWord (some c) := by
        rw [shownWord, Option.any_some, standing]
        rfl
      rw [body_cons, same, List.singleton_append, searchFrom, plainly, ih next]
    | marked mark =>
      have marks := marks_subset isQuote mark
      have upright : escaped c = false := by
        simp only [List.mem_cons, List.not_mem_nil, or_false] at marks
        rcases marks with rfl | rfl | rfl <;> rfl
      have apart : sameCase first c = false := not_same_of_hidden (upright_first start) (.inr marks)
      have other : c ≠ '\r' := by
        rintro rfl
        cases upright
      have next : unicode.inWord none = shownWord (some c) := by
        rw [shownWord, Option.any_some, upright, isWord_mark marks]
        rfl
      rw [body_cons, same, plainlyAt_of_not_same apart other, Bool.false_or]
      exact (searchFrom_cons_of_not_same backslash outside).trans
        ((searchFrom_cons_of_not_same apart (isWord_mark marks)).trans (ih next))
    | carriageReturn is =>
      subst is
      have shows : Text.reprChar quote 'r' = ['r'] := by
        rcases List.mem_pair.1 isQuote with rfl | rfl <;> rfl
      have letter : matchesAt unicode (.boundary :: .literal first :: rest) none ('r' :: body quote text) =
          plainlyAt (.boundary :: .literal first :: rest) shown ('\r' :: text) := by
        have here := matchesAt_body isQuote whole none ('r' :: text)
        rw [body_cons, shows] at here
        have back : plain.same first '\r' = false := not_same_of_hidden (upright_first start) (.inl rfl)
        rw [plainlyAt, matchesAt_of_not_same back, Bool.and_false, Bool.false_or]
        exact here
      have next : unicode.inWord (some 'r') = shownWord (some '\r') :=
        (WordData.isWord_ascii 'r' (by decide)).trans rfl
      rw [body_cons, same, ← letter, ← ih next]
      exact searchFrom_cons_of_not_same backslash outside
    | coded hidden other kind code named digits =>
      have apart : sameCase first c = false := not_same_of_hidden (upright_first start) (.inl hidden)
      have word : WordData.isWord kind = true := by
        simp only [List.mem_cons, List.not_mem_nil, or_false] at named
        rcases named with rfl | rfl | rfl | rfl | rfl <;> exact WordData.isWord_ascii _ (by decide)
      have next : unicode.inWord (some kind) = shownWord (some c) := by
        rw [shownWord, Option.any_some, hidden]
        exact word
      rw [body_cons, same, plainlyAt_of_not_same apart other, Bool.false_or, List.cons_append, List.cons_append,
        searchFrom_cons_of_not_same backslash outside, searchFrom, matchesAt_of_not_same (not_same_kind start named),
        Bool.false_or, searchFrom_word word digits, ih next]

end Search

/-! The strings of a value in its `repr`. -/

section Values
variable {pattern : List Piece} (anchored : Anchored pattern)

/-- What the search finds in a text, it finds in its strings. -/
def Found (pattern : List Piece) (text : List Char) (found : List String) : Prop :=
  ∀ after, searchFrom unicode pattern none (text ++ after) =
    (found.any (fun text => plainlyFrom pattern none text.toList) || searchFrom unicode pattern none after)

theorem Found.append {first second : List Char} {some others : List String} (left : Found pattern first some)
    (right : Found pattern second others) : Found pattern (first ++ second) (some ++ others) := by
  intro after
  rw [List.append_assoc, left, right, List.any_append, Bool.or_assoc]

/-- The marks of lists and dictionaries. -/
def punctuation : List Char := ['\x7b', '\x7d', '[', ']', ',', ':', ' ', '\'', '"']

include anchored

theorem found_punctuation {text : List Char} (marks : (text.all fun c => c ∈ punctuation) = true) :
    Found pattern text [] := by
  obtain ⟨first, rest, rfl, start⟩ := anchored.start
  intro after
  induction text with
  | nil => rfl
  | cons c text ih =>
    obtain ⟨mark, others⟩ := Bool.and_eq_true_iff.1 marks
    have mark := of_decide_eq_true mark
    have apart : unicode.same first c = false := by
      have all : (['r', 'g', 'm', 'c'].all fun first => punctuation.all fun c => !sameCase first c) = true := by
        decide
      exact Bool.eq_false_of_not_eq_true' (List.all_eq_true.1 (List.all_eq_true.1 all first start) c mark)
    have outside : unicode.word c = false := by
      have all : (punctuation.all fun c => c.toNat < 0x80 && !(c.isAlphanum || c = '_')) = true := by decide
      have known := List.all_eq_true.1 all c mark
      rw [Bool.and_eq_true, decide_eq_true_eq, Bool.not_eq_true'] at known
      exact (WordData.isWord_ascii c known.1).trans known.2
    rw [List.cons_append, searchFrom_cons_of_not_same apart outside]
    exact ih others

theorem barrier_quote {quote : Char} (isQuote : quote ∈ ['\'', '"']) : Barrier unicode pattern quote where
  notWord := isWord_mark (List.mem_cons_of_mem _ isQuote)
  notSpace := by
    rcases List.mem_pair.1 isQuote with rfl | rfl <;> exact CharData.isSpace_ascii _ (by decide)
  notLiteral known member :=
    not_same_of_hidden (List.all_eq_true.1 anchored.upright _ member) (.inr (List.mem_cons_of_mem _ isQuote))

theorem found_reprStr (text : String) : Found pattern (Text.reprStr text).toList [text] := by
  rw [Text.reprStr]
  generalize same : (if '\'' ∈ text.toList ∧ '"' ∉ text.toList then '"' else '\'') = quote
  have isQuote : quote ∈ ['\'', '"'] := by
    rw [← same]
    split <;> decide
  rw [String.toList_ofList]
  intro after
  have opening : Found pattern [quote] [] := by
    apply found_punctuation anchored
    rcases List.mem_pair.1 isQuote with rfl | rfl <;> decide
  have closing : quote :: text.toList.flatMap (Text.reprChar quote) ++ [quote] ++ after =
      [quote] ++ (text.toList.flatMap (Text.reprChar quote) ++ quote :: after) := by simp
  rw [closing]
  refine (opening _).trans ?_
  rw [searchFrom_append_barrier (barrier_quote anchored isQuote)]
  obtain ⟨first, rest, rfl, start⟩ := anchored.start
  have up := anchored.upright
  rw [List.all_cons, List.all_cons, Bool.and_eq_true, Bool.and_eq_true] at up
  rw [show text.toList.flatMap (Text.reprChar quote) = body quote text.toList from rfl,
    searchFrom_body start isQuote up.2.2 (show unicode.inWord none = shownWord none from rfl)]
  simp

mutual

theorem found_repr : (value : Json) → textual value = true → Found pattern value.repr.toList (strings value)
  | .str text, _ => found_reprStr anchored text
  | .arr items, built => by
      have inner := found_reprItems items built
      have opening : Found pattern "[".toList [] := found_punctuation anchored (by decide)
      have closing : Found pattern "]".toList [] := found_punctuation anchored (by decide)
      rw [Json.repr, String.toList_append, String.toList_append]
      have whole := (opening.append inner).append closing
      rw [List.append_nil] at whole
      exact whole
  | .obj fields, built => by
      have inner := found_reprFields fields built
      have opening : Found pattern "\x7b".toList [] := found_punctuation anchored (by decide)
      have closing : Found pattern "\x7d".toList [] := found_punctuation anchored (by decide)
      rw [Json.repr, String.toList_append, String.toList_append]
      have whole := (opening.append inner).append closing
      rw [List.append_nil] at whole
      exact whole
  | .null, built => by cases built
  | .bool _, built => by cases built
  | .int _, built => by cases built
  | .float _, built => by cases built

theorem found_reprItems : (items : List Json) → textualItems items = true →
    Found pattern (Text.joinWith ", " (Json.reprItems items)).toList (stringsItems items)
  | [], _ => fun _ => rfl
  | item :: rest, built => by
      obtain ⟨here, others⟩ := Bool.and_eq_true_iff.1 built
      have shown := found_repr item here
      have later := found_reprItems rest others
      cases rest with
      | nil =>
        rw [show stringsItems [item] = strings item from List.append_nil _]
        exact shown
      | cons next rest =>
        have comma : Found pattern ", ".toList [] := found_punctuation anchored (by decide)
        have whole := (shown.append comma).append later
        rw [List.append_nil, ← String.toList_append, ← String.toList_append] at whole
        exact whole

theorem found_reprFields : (fields : List (String × Json)) → textualFields fields = true →
    Found pattern (Text.joinWith ", " (Json.reprFields fields)).toList (stringsFields fields)
  | [], _ => fun _ => rfl
  | (key, value) :: rest, built => by
      obtain ⟨here, others⟩ := Bool.and_eq_true_iff.1 built
      have colon : Found pattern ": ".toList [] := found_punctuation anchored (by decide)
      have shown := ((found_reprStr anchored key).append colon).append (found_repr value here)
      rw [List.append_nil, ← String.toList_append, ← String.toList_append] at shown
      have later := found_reprFields rest others
      cases rest with
      | nil =>
        rw [show stringsFields [(key, value)] = key :: strings value from List.append_nil _]
        exact shown
      | cons next rest =>
        have comma : Found pattern ", ".toList [] := found_punctuation anchored (by decide)
        have whole := (shown.append comma).append later
        rw [List.append_nil, ← String.toList_append, ← String.toList_append] at whole
        exact whole

end

/-- The search in the `repr` of a value finds what stands plainly in its strings. -/
theorem search_repr {value : Json} (built : textual value = true) :
    Patterns.search unicode pattern value.repr.toList =
      (strings value).any fun text => plainlyFrom pattern none text.toList := by
  have found := found_repr anchored value built []
  obtain ⟨first, rest, rfl, _⟩ := anchored.start
  rw [List.append_nil, searchFrom_nil, Bool.or_false] at found
  exact found

end Values

/-! The floor. -/

/-- A pattern of the floor is found in the arguments as they are searched. -/
def blocked (arguments : Dict) : Bool := blockedPatterns.any fun pattern => search pattern (Json.obj arguments).repr

theorem blocked_eq {arguments : Dict} (built : textual (.obj arguments) = true) :
    blocked arguments = plainlyDangerous arguments := by
  rw [blocked, plainlyDangerous, Bool.eq_iff_iff, List.any_eq_true, List.any_eq_true]
  refine exists_congr fun pattern => and_congr_right fun member => ?_
  rw [search, search_repr (anchored_of_blocked pattern member) built]

theorem validate_toBool {tool : ToolDefinition} {arguments : Dict} {approved : Approved}
    (free : (!tool.requiresApproval || approved.granted) = true) :
    (validate search tool arguments approved.granted).toBool = !blocked arguments := by
  have open_ : (tool.mutating && tool.requiresApproval && !approved.granted) = false := by
    rw [Bool.and_assoc, Bool.and_eq_false_iff]
    right
    rw [← Bool.not_eq_true', Bool.not_and, Bool.not_not]
    exact free
  rw [validate, open_, blocked]
  cases found : blockedPatterns.find? fun pattern => search pattern (Json.obj arguments).repr with
  | none =>
    have quiet : (blockedPatterns.any fun pattern => search pattern (Json.obj arguments).repr) = false := by
      rw [List.any_eq_false]
      exact List.find?_eq_none.1 found
    rw [quiet]
    rfl
  | some pattern =>
    have loud : (blockedPatterns.any fun pattern => search pattern (Json.obj arguments).repr) = true :=
      List.any_eq_true.2 ⟨pattern, List.mem_of_find?_eq_some found, by simpa using List.find?_some found⟩
    rw [loud]
    rfl

theorem admitted_isSome (tools : ToolRuntime) (toolName : String) (arguments : Dict) (approved : Approved) :
    (admitted (floored tools) toolName arguments approved).isSome =
      (callable tools toolName approved && !blocked arguments) := by
  unfold admitted callable
  rw [show (floored tools).registry toolName = tools.registry toolName from rfl]
  cases known : tools.registry toolName with
  | none => rfl
  | some definition =>
    dsimp only
    cases body : definition.handler with
    | none => rfl
    | some handler =>
      cases available : definition.available with
      | false => rfl
      | true =>
        cases free : !definition.requiresApproval || approved.granted with
        | false => rfl
        | true =>
          have floor : (validate (floored tools).search definition arguments approved.granted).toBool =
              !blocked arguments := validate_toBool free
          rw [floor]
          cases blocked arguments <;> rfl

omit [WordData] in
theorem raises_iff (tools : ToolRuntime) (world : World) (toolName : String) (arguments : Dict) (turnId : String)
    (approved : Approved) :
    RaisesBeforeHandler tools world toolName arguments turnId approved ↔
      (admitted tools toolName arguments approved).isSome = false := by
  cases passed : admitted tools toolName arguments approved with
  | none =>
    refine iff_of_true ?_ rfl
    rcases execute_of_not_admitted tools passed world turnId with ⟨error, raised⟩ | ⟨_, asked⟩
    · rw [RaisesBeforeHandler, raised]
      exact ⟨⟨_, rfl⟩, rfl⟩
    · rw [RaisesBeforeHandler, asked]
      exact ⟨⟨_, rfl⟩, createToolApproval_effects tools world _⟩
  | some called =>
    refine iff_of_false (fun raises => ?_) (by simp)
    have effects := raises.2
    rw [execute_effects, executionTrace, passed] at effects
    dsimp only at effects
    rw [trace.eq_def] at effects
    exact absurd (List.append_right_eq_self.1 effects) (List.cons_ne_nil _ _)

/-- Every execution on dangerous arguments is stopped before its handler, exactly when the tool cannot be
called anyway, the arguments are not dangerous, or one of their strings is so as it stands in `repr`. -/
theorem floor_holds_iff (tools : ToolRuntime) (world : World) (toolName : String) {arguments : Dict}
    (built : textual (.obj arguments) = true) (turnId : String) (approved : Approved) :
    (dangerous arguments = true →
        RaisesBeforeHandler (floored tools) world toolName arguments turnId approved) ↔
      (callable tools toolName approved = false ∨ dangerous arguments = false ∨
        plainlyDangerous arguments = true) := by
  rw [raises_iff, admitted_isSome, blocked_eq built]
  cases callable tools toolName approved <;> cases dangerous arguments <;> cases plainlyDangerous arguments <;> simp

end Floor

section Escaping
attribute [local instance] CharData.ascii

attribute [local instance] WordData.ascii

/-- A plain command is stopped, also when a person has approved the call. -/
theorem floor_holds_plain : RaisesBeforeHandler (floored Gate.answering) {} "gateway_send"
    [("text", .str "please run: rm -rf /")] "" .caller :=
  (floor_holds_iff Gate.answering {} "gateway_send" (by decide +kernel) "" .caller).2
    (.inr (.inr (by decide +kernel))) (by decide +kernel)

/-- The command stands on a line of its own: the arguments are dangerous, and the call runs. -/
theorem floor_misses_line :
    textual (.obj [("text", .str "cd /srv\nrm -rf /")]) = true ∧
    dangerous [("text", .str "cd /srv\nrm -rf /")] = true ∧
    ¬RaisesBeforeHandler (floored Gate.answering) {} "gateway_send" [("text", .str "cd /srv\nrm -rf /")] ""
      .caller := by
  refine ⟨by decide +kernel, by decide +kernel, fun raises => ?_⟩
  have effects := raises.2
  have ran : (execute (floored Gate.answering) {} "gateway_send" [("text", .str "cd /srv\nrm -rf /")] ""
      .caller).2.effects = [.ran gatewaySendTool [("text", .str "cd /srv\nrm -rf /"), ("_approved", .bool true)]
        .caller false] := by
    decide +kernel
  rw [ran] at effects
  cases effects

end Escaping

end SoulClaw.Domain.SafetyFloor
