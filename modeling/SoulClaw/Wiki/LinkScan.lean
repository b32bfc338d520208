import SoulClaw.Wiki.Markdown

/-! The links of a text that is written behind another one. A link ends at the first bracket that closes, so
of the first text only what stands behind its last such bracket takes part in a link with the second. -/

namespace SoulClaw.Wiki.LinkScan
open Foundation Markdown

/-! One link. -/

/-- The link of what stands between the brackets. -/
def inner (body : List Char) : Option Wikilink :=
  let inTarget := fun c => c ∉ [']', '|', '#']
  let anchorPart := optionalPart '#' (fun c => c ∉ [']', '|']) (body.dropWhile inTarget)
  let label := optionalPart '|' (fun c => c ≠ ']') anchorPart.2
  match body.takeWhile inTarget, label.2 with
  | _ :: _, [] => some ⟨String.ofList (body.takeWhile inTarget), label.1.map String.ofList⟩
  | _, _ => none

section Stops
variable {test : Char → Bool} {mark : Char} {after : List Char} (stops : ∀ c ∈ after.head?, test c = false)
include stops

theorem takeWhile_stops (body : List Char) : (body ++ after).takeWhile test = body.takeWhile test := by
  induction body with
  | nil =>
    cases after with
    | nil => rfl
    | cons c rest => exact List.takeWhile_cons_of_neg (by simp [stops c rfl])
  | cons c rest ih => rw [List.cons_append, List.takeWhile_cons, List.takeWhile_cons, ih]

theorem dropWhile_stops (body : List Char) : (body ++ after).dropWhile test = body.dropWhile test ++ after := by
  induction body with
  | nil =>
    cases after with
    | nil => rfl
    | cons c rest => exact List.dropWhile_cons_of_neg (by simp [stops c rfl])
  | cons c rest ih =>
    rw [List.cons_append, List.dropWhile_cons, List.dropWhile_cons, ih]
    split <;> rfl

theorem optionalPart_stops (other : after.head? ≠ some mark) (body : List Char) :
    optionalPart mark test (body ++ after) =
      ((optionalPart mark test body).1, (optionalPart mark test body).2 ++ after) := by
  cases body with
  | nil =>
    cases after with
    | nil => rfl
    | cons c rest =>
      have different : c ≠ mark := fun same => other (congrArg some same)
      rw [List.nil_append, optionalPart, if_neg fun both => different both.1]
      rfl
  | cons c rest =>
    rw [List.cons_append, optionalPart, optionalPart, takeWhile_stops stops, dropWhile_stops stops]
    split <;> rfl

end Stops

theorem optionalPart_subset (mark : Char) (test : Char → Bool) (chars : List Char) :
    (optionalPart mark test chars).2 ⊆ chars := by
  cases chars with
  | nil => exact List.Subset.refl _
  | cons c rest =>
    rw [optionalPart]
    split
    · exact fun d member => List.mem_cons_of_mem _ ((List.dropWhile_sublist test).subset member)
    · exact List.Subset.refl _

theorem matchWikilink_opened {body after tail : List Char} {link : Wikilink} (within : ']' ∉ body)
    (closes : ∀ c ∈ after.head?, c = ']') : matchWikilink ('[' :: '[' :: (body ++ after)) = some (link, tail) ↔
      after = ']' :: ']' :: tail ∧ inner body = some link := by
  have stops : ∀ test : Char → Bool, test ']' = false → ∀ c ∈ after.head?, test c = false := by
    intro test closed c head
    rw [closes c head, closed]
  have other : ∀ mark, mark ≠ ']' → after.head? ≠ some mark := fun mark different head =>
    different (closes mark head)
  rw [matchWikilink]
  dsimp only
  rw [takeWhile_stops (stops _ (by decide)), dropWhile_stops (stops _ (by decide)),
    optionalPart_stops (stops _ (by decide)) (other _ (by decide)),
    optionalPart_stops (stops _ (by decide)) (other _ (by decide)), inner]
  dsimp only
  have part : ∀ (test : Char → Bool) (mark mark' : Char) (test' test'' : Char → Bool) (c : Char),
      c ∈ (optionalPart mark test (optionalPart mark' test' (body.dropWhile test'')).2).2 → c ≠ ']' := by
    rintro test mark mark' test' test'' c member rfl
    exact within ((List.dropWhile_sublist test'').subset (optionalPart_subset _ _ _ (optionalPart_subset _ _ _ member)))
  have plain := part (fun c => c ≠ ']') '|' '#' (fun c => c ∉ [']', '|']) fun c => c ∉ [']', '|', '#']
  generalize optionalPart '|' (fun c => decide (c ≠ ']')) _ = label at plain ⊢
  generalize body.takeWhile (fun c => decide (c ∉ [']', '|', '#'])) = target
  obtain ⟨found, left⟩ := label
  cases target with
  | nil => simp
  | cons d rest =>
    cases left with
    | nil =>
      rw [List.nil_append]
      constructor
      · intro matched
        split at matched
        next =>
          obtain ⟨rfl, rfl⟩ := Prod.mk.inj (Option.some.inj matched)
          exact ⟨rfl, rfl⟩
        next => cases matched
      · rintro ⟨rfl, made⟩
        obtain rfl := Option.some.inj made
        rfl
    | cons c later =>
      have different : c ≠ ']' := plain c List.mem_cons_self
      constructor
      · intro matched
        split at matched
        next _ shape => exact absurd (List.cons.inj shape).1 different
        next => cases matched
      · rintro ⟨_, made⟩
        cases made

/-- A link opens with two brackets and ends at the first one that closes and the next. -/
theorem matchWikilink_eq_some {text tail : List Char} {link : Wikilink} : matchWikilink text = some (link, tail) ↔
    ∃ body, text = '[' :: '[' :: (body ++ ']' :: ']' :: tail) ∧ ']' ∉ body ∧ inner body = some link := by
  constructor
  · intro matched
    obtain ⟨rest, rfl⟩ : ∃ rest, text = '[' :: '[' :: rest := by
      unfold matchWikilink at matched
      split at matched
      next rest => exact ⟨rest, rfl⟩
      next => cases matched
    have split := List.takeWhile_append_dropWhile (p := fun c => decide (c ≠ ']')) (l := rest)
    have within : ']' ∉ rest.takeWhile fun c => decide (c ≠ ']') := by
      intro member
      have differs := List.all_eq_true.1 List.all_takeWhile _ member
      simp at differs
    have closes : ∀ c ∈ (rest.dropWhile fun c => decide (c ≠ ']')).head?, c = ']' := by
      intro c head
      have stopped := List.head?_dropWhile_not (fun c => decide (c ≠ ']')) rest
      rw [head] at stopped
      simpa using stopped
    rw [← split] at matched
    obtain ⟨after, made⟩ := (matchWikilink_opened within closes).1 matched
    exact ⟨_, by rw [← after, split], within, made⟩
  · rintro ⟨body, rfl, within, made⟩
    exact (matchWikilink_opened within (by simp)).2 ⟨rfl, made⟩

/-- A link in a text that closes a bracket does not reach into what is written behind the text. -/
theorem matchWikilink_append {first second tail : List Char} {link : Wikilink} (closed : ']' ∈ first)
    (edge : second.head? ≠ some ']') : matchWikilink (first ++ second) = some (link, tail) ↔
      ∃ front, matchWikilink first = some (link, front) ∧ tail = front ++ second := by
  constructor
  · intro matched
    obtain ⟨body, whole, within, made⟩ := matchWikilink_eq_some.1 matched
    have open' : ']' ∉ '[' :: '[' :: body := by simpa using within
    rw [← List.cons_append, ← List.cons_append] at whole
    rcases List.append_eq_append_iff.1 whole with ⟨gap, before, behind⟩ | ⟨gap, before, behind⟩
    · exact absurd (before ▸ List.mem_append_left gap closed) open'
    · cases gap with
      | nil =>
        rw [List.append_nil] at before
        exact absurd (before ▸ closed) open'
      | cons c rest =>
        obtain ⟨same, inside⟩ := List.cons.inj behind
        cases rest with
        | nil =>
          rw [← show ']' :: tail = second from inside] at edge
          exact absurd rfl edge
        | cons d front =>
          obtain ⟨same', after⟩ := List.cons.inj inside
          rw [← same, ← same'] at before
          exact ⟨front, matchWikilink_eq_some.2 ⟨body, before, within, made⟩, after⟩
  · rintro ⟨front, matched, rfl⟩
    obtain ⟨body, rfl, within, made⟩ := matchWikilink_eq_some.1 matched
    exact matchWikilink_eq_some.2 ⟨body, by simp, within, made⟩

theorem matchWikilink_of_open {text : List Char} (open' : ']' ∉ text) : matchWikilink text = none := by
  rw [Option.eq_none_iff_forall_ne_some]
  rintro ⟨link, tail⟩ matched
  obtain ⟨body, rfl, _, _⟩ := matchWikilink_eq_some.1 matched
  exact open' (by simp)

/-! All links. -/

theorem wikilinksFrom_eq_drop (covered : Nat) (text : List Char) :
    wikilinksFrom covered text = wikilinksFrom 0 (text.drop covered) := by
  induction text generalizing covered with
  | nil => cases covered <;> rfl
  | cons c rest ih =>
    cases covered with
    | zero => rfl
    | succ covered => exact ih covered

/-- The links from a character on: the one there and those behind it, or those behind the character. -/
theorem wikilinksFrom_cons (c : Char) (rest : List Char) : wikilinksFrom 0 (c :: rest) =
    match matchWikilink (c :: rest) with
    | some (link, tail) => link :: wikilinksFrom 0 tail
    | none => wikilinksFrom 0 rest := by
  rw [wikilinksFrom]
  cases matched : matchWikilink (c :: rest) with
  | none => rfl
  | some found =>
    obtain ⟨link, tail⟩ := found
    obtain ⟨body, whole, _, _⟩ := matchWikilink_eq_some.1 matched
    obtain ⟨rfl, rfl⟩ := List.cons.inj whole
    have length : ('[' :: (body ++ ']' :: ']' :: tail)).length - tail.length = ('[' :: (body ++ [']', ']'])).length := by
      simp only [List.length_cons, List.length_append, List.length_nil]
      omega
    have behind : ('[' :: (body ++ ']' :: ']' :: tail)).drop ('[' :: (body ++ [']', ']'])).length = tail := by
      have whole : '[' :: (body ++ ']' :: ']' :: tail) = '[' :: (body ++ [']', ']']) ++ tail := by simp
      rw [whole, List.drop_left]
    dsimp only
    rw [wikilinksFrom_eq_drop, length, behind]

theorem wikilinksFrom_of_open {text : List Char} (open' : ']' ∉ text) : wikilinksFrom 0 text = [] := by
  induction text with
  | nil => rfl
  | cons c rest ih =>
    rw [wikilinksFrom_cons, matchWikilink_of_open open']
    exact ih fun member => open' (List.mem_cons_of_mem c member)

/-- The text behind the last bracket that closes. -/
def openEnd : List Char → List Char
  | [] => []
  | c :: rest => if ']' ∈ c :: rest then openEnd rest else c :: rest

theorem openEnd_of_open {text : List Char} (open' : ']' ∉ text) : openEnd text = text := by
  cases text with
  | nil => rfl
  | cons c rest => exact if_neg open'

theorem openEnd_append (first rest : List Char) : openEnd (first ++ ']' :: rest) = openEnd rest := by
  induction first with
  | nil => exact if_pos List.mem_cons_self
  | cons c first ih =>
    rw [List.cons_append, openEnd, if_pos (by simp), ih]

/-- The links of two texts are those of the first, and those of its open end and the second. -/
theorem wikilinksFrom_append (first : List Char) {second : List Char} (edge : second.head? ≠ some ']') :
    wikilinksFrom 0 (first ++ second) = wikilinksFrom 0 first ++ wikilinksFrom 0 (openEnd first ++ second) := by
  induction length : first.length using Nat.strong_induction_on generalizing first with
  | _ size ih =>
    by_cases closed : ']' ∈ first
    · cases first with
      | nil => cases closed
      | cons c rest =>
        rw [List.cons_append, wikilinksFrom_cons, wikilinksFrom_cons]
        cases matched : matchWikilink (c :: rest) with
        | some found =>
          obtain ⟨link, front⟩ := found
          have reaches : matchWikilink (c :: (rest ++ second)) = some (link, front ++ second) :=
            (matchWikilink_append closed edge).2 ⟨front, matched, rfl⟩
          obtain ⟨body, whole, _, _⟩ := matchWikilink_eq_some.1 matched
          have shorter : front.length < size := by
            rw [← length, whole]
            simp only [List.length_cons, List.length_append]
            omega
          have end' : openEnd (c :: rest) = openEnd front := by
            have split : c :: rest = ('[' :: '[' :: (body ++ [']'])) ++ ']' :: front := by simp [whole]
            rw [split, openEnd_append]
          rw [reaches, end']
          dsimp only
          rw [ih _ shorter front rfl, List.cons_append]
        | none =>
          have misses : matchWikilink (c :: (rest ++ second)) = none := by
            rw [Option.eq_none_iff_forall_ne_some]
            rintro ⟨link, tail⟩ found
            obtain ⟨front, found, _⟩ := (matchWikilink_append closed edge).1 found
            rw [matched] at found
            cases found
          have shorter : rest.length < size := by
            rw [← length]
            exact Nat.lt_succ_self _
          rw [misses, openEnd, if_pos closed]
          exact ih _ shorter rest rfl
    · rw [wikilinksFrom_of_open closed, openEnd_of_open closed, List.nil_append]

end SoulClaw.Wiki.LinkScan
