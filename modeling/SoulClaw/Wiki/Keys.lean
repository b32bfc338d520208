import SoulClaw.Foundation.Lines
import SoulClaw.Wiki.Markdown
import Mathlib.Data.List.Chain
import Mathlib.Data.List.DropRight
import Mathlib.Data.List.TakeWhile

/-! The normal form of a page key: what the passes of the normaliser leave of a text, and that a key which has gone
through them stays as it is. -/

namespace SoulClaw.Wiki.Keys
open Foundation Markdown

/-! The passes. -/

theorem mem_subRuns {test : Char → Bool} {mark c : Char} (kept : test c = false) (other : c ≠ mark) (inside : Bool)
    (text : List Char) : c ∈ subRuns test mark inside text ↔ c ∈ text := by
  induction text generalizing inside with
  | nil => rfl
  | cons first rest ih =>
    rw [subRuns]
    by_cases dropped : test first = true
    · rw [if_pos dropped, List.mem_cons]
      have apart : c ≠ first := by
        rintro rfl
        rw [kept] at dropped
        cases dropped
      cases inside with
      | true => rw [if_pos rfl, ih]; simp [apart]
      | false => rw [if_neg Bool.false_ne_true, List.mem_cons, ih]; simp [apart, other]
    · rw [if_neg dropped, List.mem_cons, List.mem_cons, ih]

/-- What is left of a text has been in it, or is the mark. -/
theorem test_of_mem_subRuns {test : Char → Bool} {mark c : Char} {inside : Bool} {text : List Char}
    (member : c ∈ subRuns test mark inside text) : test c = false ∧ c ∈ text ∨ c = mark := by
  induction text generalizing inside with
  | nil => cases member
  | cons first rest ih =>
    rw [subRuns] at member
    by_cases dropped : test first = true
    · rw [if_pos dropped] at member
      cases inside with
      | true =>
        rw [if_pos rfl] at member
        exact (ih member).imp_left (And.imp_right (List.mem_cons_of_mem _))
      | false =>
        rw [if_neg Bool.false_ne_true] at member
        rcases List.mem_cons.1 member with here | later
        · exact .inr here
        · exact (ih later).imp_left (And.imp_right (List.mem_cons_of_mem _))
    · rw [if_neg dropped] at member
      rcases List.mem_cons.1 member with rfl | later
      · exact .inl ⟨(Bool.not_eq_true _).mp dropped, List.mem_cons_self⟩
      · exact (ih later).imp_left (And.imp_right (List.mem_cons_of_mem _))

theorem trim_eq_nil {test : Char → Bool} {text : List Char} : trim test text = [] ↔ ∀ c ∈ text, test c = true := by
  rw [trim, List.reverse_eq_nil_iff, List.dropWhile_eq_nil_iff]
  constructor
  · intro all c member
    rw [← List.takeWhile_append_dropWhile (p := test) (l := text)] at member
    rcases List.mem_append.1 member with left | right
    · exact List.mem_takeWhile_imp left
    · exact all c (List.mem_reverse.2 right)
  · intro all c member
    exact all c ((List.dropWhile_sublist test).subset (List.mem_reverse.1 member))

theorem trim_within (test : Char → Bool) (text : List Char) : trim test text <:+: text :=
  (List.rdropWhile_prefix test (text.dropWhile test)).isInfix.trans (List.dropWhile_suffix test).isInfix

theorem trim_trim (test : Char → Bool) (text : List Char) : trim test (trim test text) = trim test text := by
  have left : (trim test text).dropWhile test = trim test text := by
    obtain ⟨tail, cut⟩ := List.rdropWhile_prefix test (text.dropWhile test)
    cases kept : trim test text with
    | nil => rfl
    | cons c rest =>
      have head := List.head?_dropWhile_not test text
      rw [← cut, show (text.dropWhile test).rdropWhile test = c :: rest from kept] at head
      exact List.dropWhile_cons_of_neg (by simpa using head)
  show ((trim test text).dropWhile test).rdropWhile test = trim test text
  rw [left]
  exact List.rdropWhile_idempotent test (text.dropWhile test)

theorem head?_trim {test : Char → Bool} {text : List Char} {c : Char} (first : (trim test text).head? = some c) :
    test c = false := by
  obtain ⟨rest, kept⟩ := List.head?_eq_some_iff.1 first
  obtain ⟨tail, cut⟩ := List.rdropWhile_prefix test (text.dropWhile test)
  have head := List.head?_dropWhile_not test text
  rw [← cut, show (text.dropWhile test).rdropWhile test = c :: rest from kept] at head
  simpa using head

theorem subRuns_of_none {test : Char → Bool} (mark : Char) (inside : Bool) {text : List Char}
    (none : ∀ c ∈ text, test c = false) : subRuns test mark inside text = text := by
  induction text generalizing inside with
  | nil => rfl
  | cons first rest ih =>
    rw [List.forall_mem_cons] at none
    rw [subRuns, if_neg (by rw [none.1]; exact Bool.false_ne_true), ih false none.2]

/-- No two hyphens stand side by side. -/
def Single (text : List Char) : Prop := text.IsChain fun first second => ¬(first = '-' ∧ second = '-')

theorem subRuns_of_single {inside : Bool} {text : List Char} (single : Single text)
    (start : inside = true → text.head? ≠ some '-') : subRuns (· = '-') '-' inside text = text := by
  induction text generalizing inside with
  | nil => rfl
  | cons first rest ih =>
    have later : Single rest := single.tail
    rw [subRuns]
    by_cases dash : first = '-'
    · have outside : inside = false := by
        cases inside with
        | false => rfl
        | true => exact absurd (by rw [dash]; rfl) (start rfl)
      have next : rest.head? ≠ some '-' := by
        intro follows
        obtain ⟨tail, rfl⟩ := List.head?_eq_some_iff.1 follows
        exact (List.isChain_cons_cons.1 single).1 ⟨dash, rfl⟩
      rw [if_pos (decide_eq_true dash), outside, if_neg Bool.false_ne_true, ih later fun _ => next, dash]
    · rw [if_neg (by simpa using dash), ih later fun inside => absurd inside Bool.false_ne_true]

theorem single_subRuns (inside : Bool) (text : List Char) : Single (subRuns (· = '-') '-' inside text) ∧
    (inside = true → (subRuns (· = '-') '-' inside text).head? ≠ some '-') := by
  induction text generalizing inside with
  | nil => exact ⟨List.isChain_nil, fun _ => Option.some_ne_none _ ∘ Eq.symm⟩
  | cons first rest ih =>
    rw [subRuns]
    by_cases dash : first = '-'
    · rw [if_pos (decide_eq_true dash)]
      obtain ⟨single, start⟩ := ih true
      cases inside with
      | true => exact ⟨single, fun _ => start rfl⟩
      | false =>
        refine ⟨?_, fun inside => absurd inside Bool.false_ne_true⟩
        rw [if_neg Bool.false_ne_true]
        exact List.isChain_cons.2 ⟨fun second follows both => start rfl (both.2 ▸ follows), single⟩
    · rw [if_neg (by simpa using dash)]
      refine ⟨List.isChain_cons.2 ⟨fun second _ both => dash both.1, (ih false).1⟩, fun _ same => dash ?_⟩
      exact Option.some.inj same

/-! Keys. -/

/-- The characters of a normal key. -/
structure Normal (text : List Char) : Prop where
  kept : ∀ c ∈ text, keyChar c = true
  single : Single text
  trimmed : trim (fun c => c ∈ ['-', '/']) text = text

section Normal
variable [CharData]

omit [CharData] in
theorem keyChar_ascii {c : Char} (kept : keyChar c = true) : c.toNat < 0x80 := by
  rcases of_decide_eq_true kept with ⟨low, high⟩ | ⟨low, high⟩ | marks
  · have bound : c.toNat ≤ 0x7a := high
    omega
  · have bound : c.toNat ≤ 0x39 := high
    omega
  · simp only [List.mem_cons, List.not_mem_nil, or_false] at marks
    rcases marks with rfl | rfl | rfl <;> decide

theorem keyChar_plain {c : Char} (kept : keyChar c = true) :
    CharData.isSpace c = false ∧ CharData.lower c = [c] ∧ c ≠ '\\' ∧ c ≠ '.' := by
  have small := keyChar_ascii kept
  have checked : ∀ c : Char, c.toNat < 128 → keyChar c = true →
      asciiSpace c = false ∧ c.toLower = c ∧ c ≠ '\\' ∧ c ≠ '.' := Text.forall_ascii (by decide +kernel)
  obtain ⟨visible, lowered, others⟩ := checked c small kept
  rw [CharData.isSpace_ascii c small, CharData.lower_ascii c small, lowered]
  exact ⟨visible, rfl, others⟩

section Fixed
variable {value : String} (normal : Normal value.toList)
include normal

theorem slashes_of_normal :
    ((Text.strip value).toList.map fun c => if c = '\\' then '/' else c) = value.toList := by
  have stripped : (Text.strip value).toList = value.toList := by
    rw [Lines.strip_toList]
    exact Lines.strip_of_visible fun c member => (keyChar_plain (normal.kept c member)).1
  rw [stripped]
  refine (List.map_congr_left fun c member => ?_).trans (List.map_id _)
  exact if_neg (keyChar_plain (normal.kept c member)).2.2.1

theorem lowered_of_normal : value.toList.flatMap CharData.lower = value.toList := by
  rw [List.flatMap_congr fun c member => (keyChar_plain (normal.kept c member)).2.1]
  exact List.flatMap_singleton' _

theorem passes_of_normal : trim (fun c => c ∈ ['-', '/']) (subRuns (· = '-') '-' false
    (subRuns (fun c => !keyChar c) '-' false (subRuns CharData.isSpace '-' false value.toList))) = value.toList := by
  have spaces : subRuns CharData.isSpace '-' false value.toList = value.toList :=
    subRuns_of_none '-' false fun c member => (keyChar_plain (normal.kept c member)).1
  have others : subRuns (fun c => !keyChar c) '-' false value.toList = value.toList :=
    subRuns_of_none '-' false fun c member => by rw [normal.kept c member]; rfl
  have hyphens : subRuns (· = '-') '-' false value.toList = value.toList :=
    subRuns_of_single normal.single fun inside => absurd inside Bool.false_ne_true
  rw [spaces, others, hyphens, normal.trimmed]

theorem normalizePageKey_of_normal : normalizePageKey value = value := by
  have suffix : withoutMd value.toList = value.toList := by
    unfold withoutMd
    split
    next d m rest reversed =>
      have dot : '.' ∈ value.toList := by
        rw [← List.mem_reverse, reversed]
        simp
      exact absurd rfl (keyChar_plain (normal.kept _ dot)).2.2.2
    next => rfl
  rw [normalizePageKey, slashes_of_normal normal, suffix, lowered_of_normal normal, passes_of_normal normal,
    String.ofList_toList]

end Fixed

omit [CharData] in
/-- What the last passes leave is normal. -/
theorem normal_passes (text : List Char) : Normal (trim (fun c => c ∈ ['-', '/'])
    (subRuns (· = '-') '-' false (subRuns (fun c => !keyChar c) '-' false text))) := by
  have within := trim_within (fun c => c ∈ ['-', '/'])
    (subRuns (· = '-') '-' false (subRuns (fun c => !keyChar c) '-' false text))
  have single : Single (trim (fun c => c ∈ ['-', '/'])
      (subRuns (· = '-') '-' false (subRuns (fun c => !keyChar c) '-' false text))) := by
    obtain ⟨left, right, cut⟩ := within
    have whole := (single_subRuns false (subRuns (fun c => !keyChar c) '-' false text)).1
    rw [← cut] at whole
    exact whole.left_of_append.right_of_append
  refine ⟨fun c member => ?_, single, trim_trim _ _⟩
  have dash : keyChar '-' = true := by decide
  rcases test_of_mem_subRuns (within.subset member) with ⟨_, inner⟩ | rfl
  · rcases test_of_mem_subRuns inner with ⟨kept, _⟩ | rfl
    · simpa using kept
    · exact dash
  · exact dash

theorem normal_normalizePageKey (value : String) : Normal (normalizePageKey value).toList := by
  rw [normalizePageKey, String.toList_ofList]
  exact normal_passes _

@[simp] theorem normalizePageKey_normalizePageKey (value : String) :
    normalizePageKey (normalizePageKey value) = normalizePageKey value :=
  normalizePageKey_of_normal (normal_normalizePageKey value)

/-- A key has no white space. -/
theorem strip_normalizePageKey (value : String) : Text.strip (normalizePageKey value) = normalizePageKey value := by
  apply String.toList_inj.1
  rw [Lines.strip_toList]
  exact Lines.strip_of_visible fun c member => (keyChar_plain ((normal_normalizePageKey value).kept c member)).1

end Normal

end SoulClaw.Wiki.Keys
