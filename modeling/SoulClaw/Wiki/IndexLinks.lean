import SoulClaw.Wiki.Keys
import SoulClaw.Wiki.LinkScan
import SoulClaw.Wiki.Repairs

/-! The links of an index that gets one more link. The line behind the index holds one link, which is the one to the page
unless the index ends within a link. -/

namespace SoulClaw.Wiki.IndexLinks
open Foundation Markdown Repairs LinkScan Keys

/-! The line of a link. -/

/-- No bracket closes, and no line ends as on other systems. -/
def Plain (text : List Char) : Prop := ∀ c ∈ text, c ≠ ']' ∧ c ≠ '\r'

theorem Plain.append {first second : List Char} (left : Plain first) (right : Plain second) : Plain (first ++ second) :=
  List.forall_mem_append.2 ⟨left, right⟩

theorem mem_titled {inWord : Bool} {text : List Char} {c : Char} (member : c ∈ titled inWord text) :
    ∃ d ∈ text, c = d ∨ c = d.toLower ∨ c = d.toUpper := by
  induction text generalizing inWord with
  | nil => cases member
  | cons first rest ih =>
    rw [titled] at member
    have later : ∀ {inWord}, c ∈ titled inWord rest → ∃ d ∈ first :: rest, c = d ∨ c = d.toLower ∨ c = d.toUpper := by
      intro inWord inner
      obtain ⟨d, here, same⟩ := ih inner
      exact ⟨d, List.mem_cons_of_mem _ here, same⟩
    split at member
    · rcases List.mem_cons.1 member with same | inner
      · refine ⟨first, List.mem_cons_self, .inr ?_⟩
        split at same
        · exact .inl same
        · exact .inr same
      · exact later inner
    · rcases List.mem_cons.1 member with same | inner
      · exact ⟨first, List.mem_cons_self, .inl same⟩
      · exact later inner

/-- A character of a key, and what a title makes of it. -/
theorem keyChar_title {d : Char} (kept : keyChar d = true) : ∀ c ∈ [d, d.toLower, d.toUpper], c ≠ ']' ∧ c ≠ '\r' := by
  have checked : ∀ d : Char, d.toNat < 128 → keyChar d = true →
      ([d, d.toLower, d.toUpper].all fun c => decide (c ≠ ']' ∧ c ≠ '\r')) = true := Text.forall_ascii (by decide +kernel)
  exact Text.forall_listed (checked d (keyChar_ascii kept) kept)

section Keys
variable {key : String} (kept : ∀ c ∈ key.toList, keyChar c = true)
include kept

theorem plain_key : Plain key.toList := fun c member => keyChar_title (kept c member) c List.mem_cons_self

theorem plain_indexLabel : Plain (indexLabel key) := by
  intro c member
  obtain ⟨d, inside, same⟩ := mem_titled member
  obtain ⟨e, within, rfl⟩ := List.mem_map.1 inside
  by_cases dash : e = '-'
  · rw [if_pos dash] at same
    rcases same with rfl | rfl | rfl <;> decide
  · rw [if_neg dash] at same
    have letter : keyChar e = true := by
      apply kept
      rw [List.getLastD_eq_getLast?] at within
      cases last : (key.toList.splitOn '/').getLast? with
      | none =>
        rw [last] at within
        cases within
      | some part =>
        rw [last] at within
        exact Lines.mem_of_mem_splitOn (List.mem_of_getLast? last) within
    apply keyChar_title letter
    simpa [or_assoc] using same

theorem plain_linkLine_front : Plain ("\n\n- [[".toList ++ key.toList) :=
  Plain.append (fun c member => by simp at member; rcases member with rfl | rfl | rfl | rfl <;> decide) (plain_key kept)

theorem plain_linkLine_back : Plain (' ' :: indexLabel key ++ ['\n']) :=
  Plain.append (List.forall_mem_cons.2 ⟨by decide, plain_indexLabel kept⟩) fun c member => by
    rw [List.mem_singleton.1 member]
    decide

end Keys

/-- The line of a link closes one pair of brackets. -/
theorem linkLine_eq (key : String) : linkLine key =
    ("\n\n- [[".toList ++ key.toList) ++ ']' :: ']' :: (' ' :: indexLabel key ++ ['\n']) := by
  rw [linkLine, bracketed]
  simp

/-- A text in which one pair of brackets closes has one link at most. -/
theorem length_wikilinksFrom_le {front back : List Char} (opens : ']' ∉ front) (plain : ']' ∉ back) :
    (wikilinksFrom 0 (front ++ ']' :: ']' :: back)).length ≤ 1 := by
  induction front with
  | nil =>
    have closing : wikilinksFrom 0 (']' :: ']' :: back) = [] := by
      rw [wikilinksFrom_cons, wikilinksFrom_cons]
      exact wikilinksFrom_of_open plain
    rw [List.nil_append, closing]
    exact Nat.zero_le 1
  | cons c front ih =>
    rw [List.cons_append, wikilinksFrom_cons]
    cases matched : matchWikilink (c :: (front ++ ']' :: ']' :: back)) with
    | none => exact ih fun member => opens (List.mem_cons_of_mem c member)
    | some found =>
      obtain ⟨link, tail⟩ := found
      obtain ⟨body, whole, within, _⟩ := matchWikilink_eq_some.1 matched
      have behind : back = tail := by
        have after : ∀ {head rest : List Char}, ']' ∉ head →
            (head ++ ']' :: rest).dropWhile (fun d => decide (d ≠ ']')) = ']' :: rest := by
          intro head rest plain'
          have passes : ∀ d ∈ head, decide (d ≠ ']') = true := by
            intro d member
            apply decide_eq_true
            rintro rfl
            exact plain' member
          rw [List.dropWhile_append_of_pos passes]
          exact List.dropWhile_cons_of_neg (by simp)
        have cut := congrArg (List.dropWhile fun d => decide (d ≠ ']')) whole
        rw [← List.cons_append, ← List.cons_append, ← List.cons_append, after opens, after (by simpa using within)] at cut
        exact (List.cons.inj (List.cons.inj cut).2).2
      dsimp only
      rw [← behind, wikilinksFrom_of_open plain]
      exact Nat.le_refl 1

/-! The links of an index. -/

section Links
variable [CharData]

def linkKeys (text : String) : List String := (wikilinks text).map Wikilink.key

/-- The keys of the links that the line to a page makes behind an index. -/
def addedKeys (base key : String) : List String :=
  (wikilinksFrom 0 (openEnd (Lines.rstrip base.toList) ++ linkLine key)).map Wikilink.key

omit [CharData] in
theorem not_mem_openEnd (text : List Char) : ']' ∉ openEnd text := by
  induction text with
  | nil => exact List.not_mem_nil
  | cons c rest ih =>
    rw [openEnd]
    split
    · exact ih
    next open' => exact open'

theorem length_addedKeys_le {key : String} (kept : ∀ c ∈ key.toList, keyChar c = true) (base : String) :
    (addedKeys base key).length ≤ 1 := by
  rw [addedKeys, List.length_map, linkLine_eq, ← List.append_assoc]
  apply length_wikilinksFrom_le
  · rw [List.mem_append, not_or]
    exact ⟨not_mem_openEnd _, fun member => (plain_linkLine_front kept _ member).1 rfl⟩
  · exact fun member => (plain_linkLine_back kept _ member).1 rfl

/-- The white space behind a text has no link. -/
theorem wikilinksFrom_rstrip (text : List Char) : wikilinksFrom 0 (Lines.rstrip text) = wikilinksFrom 0 text := by
  obtain ⟨spaces, blank, split⟩ := Lines.rstrip_spaces text
  have plain : ']' ∉ spaces := by
    intro member
    have visible := blank _ member
    rw [CharData.isSpace_ascii _ (by decide)] at visible
    exact absurd visible (by decide)
  have edge : spaces.head? ≠ some ']' := fun head => plain (List.mem_of_head? head)
  have behind : ']' ∉ openEnd (Lines.rstrip text) ++ spaces := by
    rw [List.mem_append, not_or]
    exact ⟨not_mem_openEnd _, plain⟩
  calc wikilinksFrom 0 (Lines.rstrip text)
    _ = wikilinksFrom 0 (Lines.rstrip text) ++ wikilinksFrom 0 (openEnd (Lines.rstrip text) ++ spaces) := by
      rw [wikilinksFrom_of_open behind, List.append_nil]
    _ = wikilinksFrom 0 (Lines.rstrip text ++ spaces) := (wikilinksFrom_append _ edge).symm
    _ = wikilinksFrom 0 text := by rw [← split]

theorem linkKeys_withLink (text key : String) : linkKeys (withLink text key) =
    if Text.contains (indexBase text) (bracketed key) then linkKeys (indexBase text)
    else linkKeys (indexBase text) ++ addedKeys (indexBase text) key := by
  rw [withLink]
  split
  · rfl
  · have edge : (linkLine key).head? ≠ some ']' := by
      rw [linkLine_eq]
      simp
    rw [linkKeys, wikilinks, String.toList_ofList, wikilinksFrom_append _ edge, wikilinksFrom_rstrip, List.map_append]
    rfl

/-- The links that an index had stay. -/
theorem linkKeys_subset (text key : String) : linkKeys text ⊆ linkKeys (withLink text key) := by
  have base : linkKeys text ⊆ linkKeys (indexBase text) := by
    rw [indexBase]
    by_cases blank : Text.strip text = ""
    · have open' : ']' ∉ text.toList := by
        intro member
        have visible : CharData.isSpace ']' = false := by
          rw [CharData.isSpace_ascii _ (by decide)]
          decide
        apply Lines.strip_ne_nil member visible
        rw [← Lines.strip_toList, blank]
        rfl
      rw [linkKeys, wikilinks, wikilinksFrom_of_open open']
      exact List.nil_subset _
    · rw [if_neg blank]
      exact List.Subset.refl _
  rw [linkKeys_withLink]
  split
  · exact base
  · exact List.subset_append_of_subset_left _ base

/-- The content is read as it has been written. -/
theorem cr_notMem_withLink {text key : String} (kept : ∀ c ∈ key.toList, keyChar c = true) (plain : '\r' ∉ text.toList) :
    '\r' ∉ (withLink text key).toList := by
  have base : '\r' ∉ (indexBase text).toList := by
    rw [indexBase]
    split
    · decide +kernel
    · exact plain
  rw [withLink]
  split
  · exact base
  · rw [String.toList_ofList, List.mem_append, not_or, linkLine_eq]
    refine ⟨fun member => base (Lines.rstrip_sublist _ member), fun member => ?_⟩
    rcases List.mem_append.1 member with front | back
    · exact (plain_linkLine_front kept _ front).2 rfl
    · rcases List.mem_cons.1 back with bracket | back
      · exact absurd bracket (by decide)
      · rcases List.mem_cons.1 back with bracket | back
        · exact absurd bracket (by decide)
        · exact (plain_linkLine_back kept _ back).2 rfl

/-- The index links all the pages but one, and the line of each of the pages is read as a link to that one. -/
def Joinable (text : String) (pages : List String) : Prop :=
  (∀ page ∈ pages, page ∈ linkKeys (indexBase text)) ∨
    ∃ page, (∀ other ∈ pages, other = page ∨ other ∈ linkKeys (indexBase text)) ∧
      ∀ other ∈ pages, Text.contains (indexBase text) (bracketed other) = false ∧ addedKeys (indexBase text) other = [page]

theorem joinable_iff {text : String} {pages : List String} (kept : ∀ page ∈ pages, ∀ c ∈ page.toList, keyChar c = true) :
    Joinable text pages ↔ ∀ other ∈ pages, ∀ page ∈ pages, page ∈ linkKeys (withLink text other) := by
  constructor
  · rintro (linked | ⟨single, others, added⟩) other member page member'
    · rw [linkKeys_withLink]
      split
      · exact linked page member'
      · exact List.mem_append_left _ (linked page member')
    · obtain ⟨absent, line⟩ := added other member
      rw [linkKeys_withLink, absent, if_neg Bool.false_ne_true, line, List.mem_append, List.mem_singleton]
      exact (others page member').symm
  · intro carried
    by_cases linked : ∀ page ∈ pages, page ∈ linkKeys (indexBase text)
    · exact .inl linked
    · rw [not_forall] at linked
      obtain ⟨single, unlinked⟩ := linked
      rw [Classical.not_imp] at unlinked
      -- A page that the index does not link has to be the only one that a line adds.
      have added : ∀ other ∈ pages, ∀ page ∈ pages, page ∉ linkKeys (indexBase text) →
          Text.contains (indexBase text) (bracketed other) = false ∧ addedKeys (indexBase text) other = [page] := by
        intro other member page member' foreign
        have known := carried other member page member'
        rw [linkKeys_withLink] at known
        by_cases present : Text.contains (indexBase text) (bracketed other) = true
        · rw [if_pos present] at known
          exact absurd known foreign
        · rw [if_neg present, List.mem_append, or_iff_right foreign] at known
          refine ⟨(Bool.not_eq_true _).mp present, ?_⟩
          have short := length_addedKeys_le (kept other member) (indexBase text)
          cases keys : addedKeys (indexBase text) other with
          | nil =>
            rw [keys] at known
            cases known
          | cons first rest =>
            rw [keys, List.length_cons] at short
            have none : rest = [] := List.length_eq_zero_iff.1 (by omega)
            rw [keys, none, List.mem_singleton] at known
            rw [none, known]
      refine .inr ⟨single, ?_, fun other member => added other member single unlinked.1 unlinked.2⟩
      intro other member
      by_cases foreign : other ∈ linkKeys (indexBase text)
      · exact .inr foreign
      · have first := (added other member single unlinked.1 unlinked.2).2
        have second := (added other member other member foreign).2
        exact .inl (List.singleton_inj.1 (second.symm.trans first))

end Links

end SoulClaw.Wiki.IndexLinks
