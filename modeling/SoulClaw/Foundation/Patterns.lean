import SoulClaw.Foundation.Text
import Mathlib.Data.List.Basic

/-! Regular expressions that are sequences of characters, runs of white space and word boundaries, and the
search for one in a text. What counts as white space, as part of a word and as the same character is given by
an alphabet. -/

namespace SoulClaw.Foundation.Patterns

structure Alphabet where
  space : Char → Bool
  word : Char → Bool
  /-- A literal of a pattern matches a character of a text. -/
  same : Char → Char → Bool

inductive Piece where
  /-- `\b`. -/
  | boundary
  /-- `\s+`. -/
  | spaces
  | literal (c : Char)
  deriving DecidableEq, Repr

/-- The syntax of the pieces. -/
def compile : List Char → List Piece
  | [] => []
  | '\\' :: 'b' :: rest => .boundary :: compile rest
  | '\\' :: 's' :: '+' :: rest => .spaces :: compile rest
  | '\\' :: c :: rest => .literal c :: compile rest
  | c :: rest => .literal c :: compile rest

/-- One or more characters of a kind, and then what is asked of the text behind them. -/
def oneOrMore (kind : Char → Bool) (goal : Option Char → List Char → Bool) : List Char → Bool
  | [] => false
  | c :: text => kind c && (goal (some c) text || oneOrMore kind goal text)

section Matching
variable (alphabet : Alphabet)

/-- The place before or behind a text is outside of every word. -/
def Alphabet.inWord (place : Option Char) : Bool := place.any alphabet.word

/-- The pattern matches at the start of a text that stands behind a character. -/
def matchesAt : List Piece → Option Char → List Char → Bool
  | [], _, _ => true
  | .boundary :: rest, before, text =>
      (alphabet.inWord before != alphabet.inWord text.head?) && matchesAt rest before text
  | .spaces :: rest, _, text => oneOrMore alphabet.space (matchesAt rest) text
  | .literal _ :: _, _, [] => false
  | .literal c :: rest, _, found :: text => alphabet.same c found && matchesAt rest (some found) text

/-- The pattern matches somewhere in a text that stands behind a character. -/
def searchFrom (pattern : List Piece) : Option Char → List Char → Bool
  | before, [] => matchesAt alphabet pattern before []
  | before, c :: text => matchesAt alphabet pattern before (c :: text) || searchFrom pattern (some c) text

/-- `pattern.search(text)`. -/
def search (pattern : List Piece) (text : List Char) : Bool := searchFrom alphabet pattern none text

end Matching

/-! What a match sees of the text around it. -/

section Around
variable {alphabet : Alphabet}

/-- A pattern only sees of the character before it whether it is in a word. -/
theorem matchesAt_before (pattern : List Piece) {before other : Option Char} (text : List Char)
    (alike : alphabet.inWord before = alphabet.inWord other) :
    matchesAt alphabet pattern before text = matchesAt alphabet pattern other text := by
  induction pattern with
  | nil => rfl
  | cons piece rest ih =>
    cases piece with
    | boundary => rw [matchesAt, matchesAt, alike, ih]
    | spaces => rfl
    | literal c =>
      cases text with
      | nil => rfl
      | cons found text => rfl

theorem searchFrom_before (pattern : List Piece) {before other : Option Char} (text : List Char)
    (alike : alphabet.inWord before = alphabet.inWord other) :
    searchFrom alphabet pattern before text = searchFrom alphabet pattern other text := by
  cases text with
  | nil => exact matchesAt_before pattern [] alike
  | cons c text => rw [searchFrom, searchFrom, matchesAt_before pattern (c :: text) alike]

/-- The characters that no piece of the pattern takes, outside of every word. -/
structure Barrier (alphabet : Alphabet) (pattern : List Piece) (c : Char) : Prop where
  notWord : alphabet.word c = false
  notSpace : alphabet.space c = false
  notLiteral : ∀ known, .literal known ∈ pattern → alphabet.same known c = false

theorem Barrier.tail {piece : Piece} {rest : List Piece} {c : Char} (barrier : Barrier alphabet (piece :: rest) c) :
    Barrier alphabet rest c where
  notWord := barrier.notWord
  notSpace := barrier.notSpace
  notLiteral known member := barrier.notLiteral known (List.mem_cons_of_mem _ member)

theorem oneOrMore_append_cons {kind : Char → Bool} {goal : Option Char → List Char → Bool} {c : Char}
    (stops : kind c = false) (after : List Char) (text : List Char)
    (alike : ∀ before rest, goal before (rest ++ c :: after) = goal before rest) :
    oneOrMore kind goal (text ++ c :: after) = oneOrMore kind goal text := by
  induction text with
  | nil =>
    show (kind c && _) = false
    rw [stops, Bool.false_and]
  | cons first rest ih => rw [List.cons_append, oneOrMore, oneOrMore, alike, ih]

/-- A match does not reach over a barrier. -/
theorem matchesAt_append_barrier {pattern : List Piece} {c : Char} (barrier : Barrier alphabet pattern c)
    (before : Option Char) (text after : List Char) :
    matchesAt alphabet pattern before (text ++ c :: after) = matchesAt alphabet pattern before text := by
  induction pattern generalizing before text with
  | nil => rfl
  | cons piece rest ih =>
    have later := ih barrier.tail
    cases piece with
    | boundary =>
      have alike : alphabet.inWord (text ++ c :: after).head? = alphabet.inWord text.head? := by
        cases text with
        | nil => exact barrier.notWord
        | cons first text => rfl
      rw [matchesAt, matchesAt, alike, later]
    | spaces =>
      rw [matchesAt, matchesAt]
      exact oneOrMore_append_cons barrier.notSpace after text later
    | literal known =>
      cases text with
      | nil =>
        show (alphabet.same known c && _) = false
        rw [barrier.notLiteral known List.mem_cons_self, Bool.false_and]
      | cons first text => rw [List.cons_append, matchesAt, matchesAt, later]

/-- A barrier splits the search. -/
theorem searchFrom_append_barrier {pattern : List Piece} {c : Char} (barrier : Barrier alphabet pattern c)
    (before : Option Char) (text after : List Char) :
    searchFrom alphabet pattern before (text ++ c :: after) =
      (searchFrom alphabet pattern before text || searchFrom alphabet pattern none after) := by
  have start : searchFrom alphabet pattern (some c) after = searchFrom alphabet pattern none after :=
    searchFrom_before pattern after barrier.notWord
  induction text generalizing before with
  | nil =>
    show (matchesAt alphabet pattern before ([] ++ c :: after) || searchFrom alphabet pattern (some c) after) = _
    rw [start, matchesAt_append_barrier barrier]
    rfl
  | cons first rest ih =>
    rw [List.cons_append, searchFrom, searchFrom, ih, ← List.cons_append, matchesAt_append_barrier barrier,
      Bool.or_assoc]

end Around

/-! Patterns that start with a character at a boundary. -/

section Starting
variable {alphabet : Alphabet} {first : Char} {rest : List Piece}

theorem matchesAt_of_not_same {before : Option Char} {c : Char} {text : List Char}
    (different : alphabet.same first c = false) :
    matchesAt alphabet (.boundary :: .literal first :: rest) before (c :: text) = false := by
  rw [matchesAt, matchesAt, different, Bool.false_and, Bool.and_false]

/-- Inside of a word there is no match. -/
theorem matchesAt_inWord {before c : Char} {text : List Char} (left : alphabet.word before = true)
    (right : alphabet.word c = true) :
    matchesAt alphabet (.boundary :: .literal first :: rest) (some before) (c :: text) = false := by
  have closed : (alphabet.inWord (some before) != alphabet.inWord (c :: text).head?) = false := by
    rw [Alphabet.inWord, Alphabet.inWord, Option.any_some, List.head?_cons, Option.any_some, left, right]
    rfl
  rw [matchesAt, closed, Bool.false_and]

theorem searchFrom_nil (before : Option Char) :
    searchFrom alphabet (.boundary :: .literal first :: rest) before [] = false := by
  rw [searchFrom, matchesAt, matchesAt, Bool.and_false]

/-- A character outside of every word that does not start the pattern is passed over. -/
theorem searchFrom_cons_of_not_same {before : Option Char} {c : Char} {text : List Char}
    (different : alphabet.same first c = false) (outside : alphabet.word c = false) :
    searchFrom alphabet (.boundary :: .literal first :: rest) before (c :: text) =
      searchFrom alphabet (.boundary :: .literal first :: rest) none text := by
  rw [searchFrom, matchesAt_of_not_same different, Bool.false_or]
  exact searchFrom_before _ text outside

end Starting

/-! What `re` knows about characters. -/

/-- The characters beyond ASCII that a letter of a pattern matches under `IGNORECASE`. -/
def folds (letter : Char) : List Char :=
  if letter = 'i' then ['\u0130', '\u0131'] else if letter = 's' then ['\u017f']
  else if letter = 'k' then ['\u212a'] else []

def sameCase (literal c : Char) : Bool :=
  c.toLower = literal.toLower ∨ c ∈ folds literal.toLower

class WordData [CharData] where
  /-- `\w`. -/
  isWord : Char → Bool
  isWord_ascii : ∀ c, c.toNat < 0x80 → isWord c = (c.isAlphanum || c = '_')
  isWord_folds : ∀ letter, ∀ c ∈ folds letter, isWord c = true
  isPrintable_of_isWord : ∀ c, 0x80 ≤ c.toNat → isWord c = true → CharData.isPrintable c = true
  isPrintable_of_isSpace : ∀ c, 0x80 ≤ c.toNat → CharData.isSpace c = true → CharData.isPrintable c = false

section Ascii
attribute [local instance] CharData.ascii

/-- Letters and digits, the underscore, and what the letters of patterns match beyond them. -/
@[reducible] def WordData.ascii : WordData where
  isWord c := c.isAlphanum || c = '_' || c ∈ ['\u0130', '\u0131', '\u017f', '\u212a']
  isWord_ascii c small := by
    have beyond : c ∉ ['\u0130', '\u0131', '\u017f', '\u212a'] := by
      intro member
      simp only [List.mem_cons, List.not_mem_nil, or_false] at member
      rcases member with rfl | rfl | rfl | rfl <;> exact absurd small (by decide)
    rw [decide_eq_false beyond, Bool.or_false]
  isWord_folds letter c member := by
    have beyond : c ∈ ['\u0130', '\u0131', '\u017f', '\u212a'] := by
      unfold folds at member
      split at member
      · rcases List.mem_pair.1 member with rfl | rfl <;> decide
      · split at member
        · rw [List.mem_singleton.1 member]
          decide
        · split at member
          · rw [List.mem_singleton.1 member]
            decide
          · cases member
    rw [decide_eq_true beyond, Bool.or_true]
  isPrintable_of_isWord _ _ _ := rfl
  isPrintable_of_isSpace c beyond space := by
    rcases of_decide_eq_true space with rfl | ⟨_, below⟩ | ⟨_, below⟩
    · exact absurd beyond (by decide)
    · have low : c.toNat ≤ 0x0d := below
      omega
    · have low : c.toNat ≤ 0x1f := below
      omega

end Ascii

end SoulClaw.Foundation.Patterns
