import Mathlib.Data.List.DropRight
import Mathlib.Data.List.Sort
import Mathlib.Data.List.Pairwise
import Mathlib.Data.List.Induction
import Mathlib.Algebra.Order.Floor.Ring
import Mathlib.Data.Rat.Floor

/-! Ranked lists. A greedy selection takes an item unless it is too close to one that was taken before it, and stops when
it has enough. The best items of a list are still the best of those that are kept exactly when every item that is not
kept is outranked by enough of them. -/

namespace SoulClaw.Foundation

/-- `round(value)` of an exact number: to the nearest integer, and to the even one from the middle. -/
def roundEven (value : ℚ) : ℤ :=
  let rest := value - ⌊value⌋
  if rest < 1 / 2 then ⌊value⌋
  else if 1 / 2 < rest then ⌊value⌋ + 1
  else if ⌊value⌋ % 2 = 0 then ⌊value⌋ else ⌊value⌋ + 1

/-- `round(value, 4)`. -/
def round4 (value : ℚ) : ℚ := roundEven (value * 10000) / 10000

/-- `max(values, default=0.0)`. -/
def greatest : List ℚ → ℚ
  | [] => 0
  | value :: rest => rest.foldl max value

theorem le_foldl_max (values : List ℚ) (first bound : ℚ) :
    bound ≤ values.foldl max first ↔ bound ≤ first ∨ ∃ value ∈ values, bound ≤ value := by
  induction values generalizing first with
  | nil => simp
  | cons value rest ih => rw [List.foldl_cons, ih, le_max_iff, List.exists_mem_cons_iff, or_assoc]

theorem le_greatest (values : List ℚ) {bound : ℚ} (positive : 0 < bound) :
    bound ≤ greatest values ↔ ∃ value ∈ values, bound ≤ value := by
  cases values with
  | nil => simpa [greatest] using positive
  | cons value rest => rw [greatest, le_foldl_max, List.exists_mem_cons_iff]

namespace Ranking

section Order
variable {Item Key : Type*} [LinearOrder Key] (key : Item → Key)

/-- `items.sort(key=key, reverse=True)`, which keeps the order of items with equal keys. -/
def rankBy (items : List Item) : List Item := items.insertionSort fun first second => key second ≤ key first

theorem rankBy_perm (items : List Item) : (rankBy key items).Perm items := List.perm_insertionSort _ items

theorem pairwise_rankBy (items : List Item) : (rankBy key items).Pairwise fun first second => key second ≤ key first := by
  have total : Std.Total fun first second : Item => key second ≤ key first := ⟨fun _ _ => le_total _ _⟩
  have trans : IsTrans Item fun first second => key second ≤ key first := ⟨fun _ _ _ upper lower => lower.trans upper⟩
  exact List.pairwise_insertionSort _ items

variable {key}

/-- Items with distinct keys have one ranking. -/
theorem eq_rankBy {items ranked : List Item} (distinct : (items.map key).Nodup) (perm : ranked.Perm items)
    (sorted : ranked.Pairwise fun first second => key second ≤ key first) : ranked = rankBy key items := by
  refine List.Perm.eq_of_pairwise ?_ sorted (pairwise_rankBy key items) (perm.trans (rankBy_perm key items).symm)
  intro first second left right below above
  exact List.inj_on_of_nodup_map distinct (perm.subset left) ((rankBy_perm key items).subset right)
    (le_antisymm above below)

theorem rankBy_eq_of_perm {first second : List Item} (distinct : (second.map key).Nodup) (perm : first.Perm second) :
    rankBy key first = rankBy key second :=
  eq_rankBy distinct ((rankBy_perm key first).trans perm) (pairwise_rankBy key first)

theorem rankBy_filter {items : List Item} (distinct : (items.map key).Nodup) (kept : Item → Bool) :
    rankBy key (items.filter kept) = (rankBy key items).filter kept :=
  (eq_rankBy (distinct.sublist (List.filter_sublist.map key)) ((rankBy_perm key items).filter kept)
    ((pairwise_rankBy key items).sublist List.filter_sublist)).symm

theorem strict_rankBy {items : List Item} (distinct : (items.map key).Nodup) :
    (rankBy key items).Pairwise fun first second => key second < key first := by
  have apart : ((rankBy key items).map key).Nodup := ((rankBy_perm key items).map key).nodup_iff.2 distinct
  exact ((pairwise_rankBy key items).and (List.pairwise_map.1 apart)).imp fun ⟨below, other⟩ =>
    lt_of_le_of_ne below (Ne.symm other)

/-- A filter leaves the start of a list alone exactly when it keeps all of it. -/
theorem take_filter_eq_take_iff (kept : Item → Bool) (ranked : List Item) (count : Nat) :
    (ranked.filter kept).take count = ranked.take count ↔ ∀ item ∈ ranked.take count, kept item = true := by
  constructor
  · intro same item member
    rw [← same] at member
    exact (List.mem_filter.1 (List.mem_of_mem_take member)).2
  · intro all
    conv_lhs => rw [← List.take_append_drop count ranked, List.filter_append, List.filter_eq_self.2 all]
    rcases Nat.le_total ranked.length count with short | long
    · rw [List.drop_of_length_le short, List.filter_nil, List.append_nil, List.take_take, min_self]
    · rw [List.take_append_of_le_length (by rw [List.length_take]; omega), List.take_take, min_self]

section Strict
variable {ranked : List Item} (strict : ranked.Pairwise fun first second => key second < key first)
include strict

/-- If the first items are all kept, they outrank each item that is not kept. -/
theorem outranked_of_kept {kept : Item → Bool} {count : Nat} {item : Item}
    (all : ∀ item ∈ ranked.take count, kept item = true) (member : item ∈ ranked) (out : kept item = false) :
    count ≤ ((ranked.filter kept).filter fun other => key item < key other).length := by
  obtain ⟨before, after, cut⟩ := List.append_of_mem member
  have far : count ≤ before.length := by
    by_contra near
    have within : item ∈ ranked.take count := by
      rw [cut, List.take_append, List.mem_append]
      right
      rw [show count - before.length = (count - before.length - 1) + 1 by omega, List.take_succ_cons]
      exact List.mem_cons_self
    rw [all item within] at out
    cases out
  have start : ranked.take count = before.take count := by rw [cut, List.take_append_of_le_length far]
  have above : ∀ other ∈ before.take count, key item < key other := by
    intro other earlier
    rw [cut, List.pairwise_append] at strict
    exact strict.2.2 other (List.mem_of_mem_take earlier) item List.mem_cons_self
  have own : ((before.take count).filter kept).filter (fun other => key item < key other) = before.take count := by
    rw [List.filter_eq_self.2 fun other earlier => all other (start ▸ earlier),
      List.filter_eq_self.2 fun other earlier => decide_eq_true (above other earlier)]
  calc
    count = (before.take count).length := by rw [List.length_take, min_eq_left far]
    _ = (((before.take count).filter kept).filter fun other => key item < key other).length := by rw [own]
    _ ≤ ((ranked.filter kept).filter fun other => key item < key other).length := by
      apply List.Sublist.length_le
      rw [← start]
      exact ((List.take_sublist _ _).filter kept).filter _

/-- One of the first items is outranked by fewer items. -/
theorem outranking_lt {count : Nat} {item : Item} (within : item ∈ ranked.take count) :
    (ranked.filter fun other => key item < key other).length < count := by
  obtain ⟨before, after, cut⟩ := List.append_of_mem within
  have short : before.length < count := by
    have size := congrArg List.length cut
    rw [List.length_take, List.length_append, List.length_cons] at size
    omega
  have whole : ranked = before ++ item :: (after ++ ranked.drop count) := by
    conv_lhs => rw [← List.take_append_drop count ranked, cut, List.append_assoc, List.cons_append]
  generalize after ++ ranked.drop count = behind at whole
  subst whole
  rw [List.pairwise_append, List.pairwise_cons] at strict
  have none : (item :: behind).filter (fun other => key item < key other) = [] := by
    rw [List.filter_eq_nil_iff]
    intro other member
    rw [decide_eq_true_eq, not_lt]
    rcases List.mem_cons.1 member with rfl | later
    · exact le_rfl
    · exact (strict.2.1.1 other later).le
  calc
    ((before ++ item :: behind).filter fun other => key item < key other).length =
        (before.filter fun other => key item < key other).length := by rw [List.filter_append, none, List.append_nil]
    _ ≤ before.length := List.filter_sublist.length_le
    _ < count := short

end Strict

/-- The best items are the best of those that are kept exactly when an item that is not kept is outranked by as many. -/
theorem top_eq_iff {items : List Item} (distinct : (items.map key).Nodup) (kept : Item → Bool) (count : Nat) :
    (rankBy key (items.filter kept)).take count = (rankBy key items).take count ↔
      ∀ item ∈ items, kept item = false →
        count ≤ ((items.filter kept).filter fun other => key item < key other).length := by
  have strict := strict_rankBy distinct
  have counted : ∀ item, ((items.filter kept).filter fun other => key item < key other).length =
      (((rankBy key items).filter kept).filter fun other => key item < key other).length :=
    fun item => (((rankBy_perm key items).filter kept).filter _).length_eq.symm
  simp only [← (rankBy_perm key items).mem_iff, counted]
  rw [rankBy_filter distinct, take_filter_eq_take_iff]
  constructor
  · intro all item member out
    exact outranked_of_kept strict all member out
  · intro outranked item within
    by_contra out
    have enough := outranked item (List.mem_of_mem_take within) (by simpa using out)
    have fewer := (List.filter_sublist (p := kept) (l := rankBy key items)).filter fun other => key item < key other
    exact absurd (enough.trans fewer.length_le) (outranking_lt strict within).not_ge

end Order

section Taken
variable {Item : Type*} (apart : Item → Item → Prop) [DecidableRel apart]

/-- The items that are apart from every item taken before them. -/
def taken (ranked : List Item) : List Item := (ranked.reverse.pwFilter apart).reverse

@[simp] theorem taken_nil : taken apart [] = [] := rfl

theorem taken_concat (ranked : List Item) (item : Item) :
    taken apart (ranked ++ [item]) =
      if ∀ earlier ∈ taken apart ranked, apart item earlier then taken apart ranked ++ [item]
      else taken apart ranked := by
  have members : (∀ earlier ∈ taken apart ranked, apart item earlier) ↔
      ∀ earlier ∈ ranked.reverse.pwFilter apart, apart item earlier := by
    simp only [taken, List.mem_reverse]
  rw [taken, List.reverse_append, List.reverse_singleton, List.singleton_append]
  split
  next free => rw [List.pwFilter_cons_of_pos (members.1 free), List.reverse_cons, taken]
  next close => rw [List.pwFilter_cons_of_neg (mt members.2 close), taken]

theorem taken_grows (before after : List Item) : taken apart before <+: taken apart (before ++ after) := by
  induction after using List.reverseRecOn with
  | nil => simp
  | append_singleton after item ih =>
    rw [← List.append_assoc, taken_concat]
    split
    · exact ih.trans (List.prefix_append _ _)
    · exact ih

theorem taken_sublist (ranked : List Item) : (taken apart ranked).Sublist ranked := by
  simpa [taken] using (List.pwFilter_sublist (R := apart) ranked.reverse).reverse

theorem pairwise_taken (ranked : List Item) :
    (taken apart ranked).Pairwise fun earlier item => apart item earlier := by
  rw [taken, List.pairwise_reverse]
  exact List.pairwise_pwFilter ranked.reverse

/-- An item before whose place fewer than the limit were selected is selected, or is close to one of them. -/
theorem mem_take_taken_or_close [DecidableEq Item] {limit : Nat} {before after : List Item} {item : Item}
    (early : (before.filter (· ∈ (taken apart (before ++ item :: after)).take limit)).length < limit) :
    item ∈ (taken apart (before ++ item :: after)).take limit ∨
      ∃ earlier ∈ before, earlier ∈ (taken apart (before ++ item :: after)).take limit ∧ ¬ apart item earlier := by
  set ranked := before ++ item :: after with whole
  have split : ranked = (before ++ [item]) ++ after := by simp [whole]
  -- all that was taken before the item is within the limit, for it would otherwise fill the selection
  have few : (taken apart before).length < limit := by
    by_contra many
    have filled : (taken apart ranked).take limit = (taken apart before).take limit :=
      ((List.prefix_iff_eq_take.1 ((List.take_prefix limit _).trans (taken_grows apart before _))).trans
        (by rw [List.length_take, min_eq_left (by omega)])).symm
    have within : ((taken apart before).take limit).Sublist
        (before.filter (· ∈ (taken apart ranked).take limit)) := by
      have own : ((taken apart before).take limit).filter (· ∈ (taken apart ranked).take limit) =
          (taken apart before).take limit :=
        List.filter_eq_self.2 fun earlier member => by simpa [filled] using member
      rw [← own]
      exact (((List.take_sublist _ _).trans (taken_sublist apart before)).filter _)
    have short := within.length_le
    rw [List.length_take] at short
    omega
  have kept : ∀ earlier ∈ taken apart before, earlier ∈ (taken apart ranked).take limit := by
    intro earlier member
    have start := taken_grows apart before (item :: after)
    rw [List.prefix_iff_eq_take.1 start] at member
    exact (List.take_sublist_take_left (by omega)).subset member
  have next := taken_concat apart before item
  split_ifs at next with free
  · left
    have start : taken apart before ++ [item] <+: taken apart ranked := by
      rw [← next, split]
      exact taken_grows apart _ after
    have member : item ∈ taken apart before ++ [item] := by simp
    rw [List.prefix_iff_eq_take.1 start] at member
    exact (List.take_sublist_take_left (by rw [List.length_append, List.length_singleton]; omega)).subset member
  · right
    push Not at free
    obtain ⟨earlier, member, close⟩ := free
    exact ⟨earlier, (taken_sublist apart before).subset member, kept earlier member, close⟩

end Taken

/-! The end of a list in the order in which it was made, read from a ranking that is free where keys are equal. -/

section Ends
variable {Item Key : Type*} [LinearOrder Key] {key : Item → Key}

/-- A ranking of the items with the greatest key first. -/
structure Ranks (key : Item → Key) (items ranked : List Item) : Prop where
  perm : ranked.Perm items
  sorted : ranked.Pairwise fun first second => key second ≤ key first

theorem ranks_rankBy (items : List Item) : Ranks key items (rankBy key items) :=
  ⟨rankBy_perm key items, pairwise_rankBy key items⟩

/-- Each of the last items is greater than the items in front of it, or one of them once more. -/
def Ascends (key : Item → Key) (items : List Item) (count : Nat) : Prop :=
  ∀ front last back, items = front ++ last :: back → back.length < count →
    ∀ earlier ∈ front, earlier = last ∨ key earlier < key last

theorem ascends_zero (items : List Item) : Ascends key items 0 :=
  fun _ _ _ _ short => absurd short (Nat.not_lt_zero _)

theorem ascends_nil (count : Nat) : Ascends key ([] : List Item) count := by
  intro front last back split
  have size := congrArg List.length split
  rw [List.length_nil, List.length_append, List.length_cons] at size
  omega

theorem ascends_concat (items : List Item) (item : Item) (count : Nat) :
    Ascends key (items ++ [item]) (count + 1) ↔
      (∀ earlier ∈ items, earlier = item ∨ key earlier < key item) ∧ Ascends key items count := by
  constructor
  · intro ascends
    refine ⟨ascends items item [] rfl (Nat.succ_pos count), ?_⟩
    intro front last back split short
    apply ascends front last (back ++ [item])
    · rw [split, List.append_assoc, List.cons_append]
    · rw [List.length_append, List.length_singleton]
      omega
  · rintro ⟨above, ascends⟩ front last back split short
    induction back using List.reverseRecOn with
    | nil =>
      obtain ⟨rfl, same⟩ := List.append_inj' split rfl
      rw [← List.singleton_inj.1 same]
      exact above
    | append_singleton back other _ =>
      rw [← List.cons_append, ← List.append_assoc] at split
      obtain ⟨rfl, _⟩ := List.append_inj' split rfl
      rw [List.length_append, List.length_singleton] at short
      exact ascends front last back rfl (by omega)

/-- An item that is above all others comes first in every ranking. -/
theorem Ranks.cons_of_above {items ranked : List Item} {item : Item}
    (above : ∀ earlier ∈ items, earlier = item ∨ key earlier < key item) (ranks : Ranks key (items ++ [item]) ranked) :
    ∃ rest, ranked = item :: rest ∧ Ranks key items rest := by
  have swapped : ranked.Perm (item :: items) := ranks.perm.trans (List.perm_append_singleton item items)
  cases ranked with
  | nil => exact absurd swapped.symm.eq_nil (List.cons_ne_nil _ _)
  | cons first rest =>
    have greatest : key item ≤ key first := by
      rcases List.mem_cons.1 (swapped.symm.subset List.mem_cons_self) with same | later
      · rw [same]
      · exact (List.pairwise_cons.1 ranks.sorted).1 item later
    have same : first = item := by
      rcases List.mem_cons.1 (swapped.subset List.mem_cons_self) with same | member
      · exact same
      · exact (above first member).resolve_right greatest.not_gt
    subst same
    exact ⟨rest, rfl, (List.perm_cons first).1 swapped, (List.pairwise_cons.1 ranks.sorted).2⟩

/-- An item that is not above all others is not the first one of some ranking. -/
theorem exists_ranks_of_not_above [DecidableEq Item] {items : List Item} {item earlier : Item} (member : earlier ∈ items)
    (other : earlier ≠ item) (reaches : key item ≤ key earlier) :
    ∃ first rest, Ranks key (items ++ [item]) (first :: rest) ∧ first ≠ item := by
  have inside : earlier ∈ rankBy key (items.filter (· ≠ item)) :=
    (rankBy_perm key _).symm.subset (List.mem_filter.2 ⟨member, by simpa using other⟩)
  cases top : rankBy key (items.filter (· ≠ item)) with
  | nil =>
    rw [top] at inside
    cases inside
  | cons first rest =>
    have sorted := pairwise_rankBy key (items.filter (· ≠ item))
    rw [top, List.pairwise_cons] at sorted
    rw [top] at inside
    have below : key earlier ≤ key first := by
      rcases List.mem_cons.1 inside with same | later
      · rw [same]
      · exact sorted.1 earlier later
    have held : first ∈ items.filter (· ≠ item) :=
      (rankBy_perm key _).subset (by rw [top]; exact List.mem_cons_self)
    obtain ⟨listed, unlike⟩ := List.mem_filter.1 held
    have greatest : ∀ second ∈ items ++ [item], key second ≤ key first := by
      intro second within
      by_cases same : second = item
      · rw [same]
        exact reaches.trans below
      · have kept : second ∈ first :: rest := by
          rw [← top]
          refine (rankBy_perm key _).symm.subset (List.mem_filter.2 ⟨?_, by simpa using same⟩)
          exact (List.mem_append.1 within).resolve_right fun last => same (List.mem_singleton.1 last)
        rcases List.mem_cons.1 kept with rfl | later
        · exact le_rfl
        · exact sorted.1 second later
    have whole : (items ++ [item]).Perm (first :: (items ++ [item]).erase first) :=
      List.perm_cons_erase (List.mem_append_left _ listed)
    refine ⟨first, rankBy key ((items ++ [item]).erase first), ⟨?_, ?_⟩, by simpa using unlike⟩
    · exact ((rankBy_perm key _).cons first).trans whole.symm
    · refine List.pairwise_cons.2 ⟨?_, pairwise_rankBy key _⟩
      intro second later
      exact greatest second (List.mem_of_mem_erase ((rankBy_perm key _).subset later))

/-- Every ranking starts with the last items, backwards, exactly when these ascend. -/
theorem rtake_of_ranks_iff [DecidableEq Item] (items : List Item) (count : Nat) :
    (∀ ranked, Ranks key items ranked → (ranked.take count).reverse = items.rtake count) ↔ Ascends key items count := by
  induction items using List.reverseRecOn generalizing count with
  | nil =>
    refine iff_of_true ?_ (ascends_nil count)
    intro ranked ranks
    rw [ranks.perm.eq_nil, List.take_nil, List.reverse_nil, List.rtake_nil]
  | append_singleton items item ih =>
    cases count with
    | zero =>
      refine iff_of_true ?_ (ascends_zero _)
      intro ranked _
      rw [List.take_zero, List.reverse_nil, List.rtake_zero]
    | succ count =>
      rw [ascends_concat, ← ih count]
      constructor
      · intro reads
        have above : ∀ earlier ∈ items, earlier = item ∨ key earlier < key item := by
          intro earlier member
          by_contra neither
          rw [not_or, not_lt] at neither
          obtain ⟨first, rest, ranks, unlike⟩ := exists_ranks_of_not_above member neither.1 neither.2
          have read := reads _ ranks
          rw [List.take_succ_cons, List.reverse_cons, List.rtake_concat_succ] at read
          exact unlike (List.singleton_inj.1 (List.append_inj' read rfl).2)
        refine ⟨above, ?_⟩
        intro ranked ranks
        have whole : Ranks key (items ++ [item]) (item :: ranked) := by
          refine ⟨(ranks.perm.cons item).trans (List.perm_append_singleton item items).symm,
            List.pairwise_cons.2 ⟨?_, ranks.sorted⟩⟩
          intro other member
          rcases above other (ranks.perm.subset member) with same | below
          · rw [same]
          · exact below.le
        have read := reads _ whole
        rw [List.take_succ_cons, List.reverse_cons, List.rtake_concat_succ] at read
        exact (List.append_inj' read rfl).1
      · rintro ⟨above, reads⟩ ranked ranks
        obtain ⟨rest, rfl, ranks'⟩ := ranks.cons_of_above above
        rw [List.take_succ_cons, List.reverse_cons, reads rest ranks', List.rtake_concat_succ]

end Ends

end Ranking
end SoulClaw.Foundation
