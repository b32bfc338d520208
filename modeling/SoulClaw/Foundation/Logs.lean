import Mathlib.Data.List.Sort
import Mathlib.Logic.Relation

/-! Logs that share one table. Every entry names its log and carries a number, one more than the greatest number of
its log when it was added. A reader takes pages of entries behind the last number that it has seen. -/

namespace SoulClaw.Foundation.Logs

variable {Entry Key : Type*} [DecidableEq Key] (key : Entry → Key) (number : Entry → Nat)

/-- The entries of one log, in the order in which they were added. -/
def under (entries : List Entry) (log : Key) : List Entry := entries.filter fun entry => key entry = log

def nextNumber (entries : List Entry) (log : Key) : Nat :=
  match ((under key entries log).map number).max? with
  | some latest => latest + 1
  | none => 1

/-- The next entries behind the number `after`. -/
def page (entries : List Entry) (log : Key) (after : Int) (limit : Nat) : List Entry :=
  (((under key entries log).filter fun entry => after < number entry).insertionSort fun first second =>
    number first ≤ number second).take limit

/-- One entry is added. -/
def Adds (before after : List Entry) : Prop :=
  ∃ entry, number entry = nextNumber key number before (key entry) ∧ after = before ++ [entry]

/-- Any number of entries are added. -/
abbrev Grows : List Entry → List Entry → Prop := Relation.ReflTransGen (Adds key number)

/-- The numbers of every log count its entries. -/
def Numbered (entries : List Entry) : Prop :=
  ∀ log, (under key entries log).map number = List.range' 1 (under key entries log).length

section Additions
variable {key number} {before after entries : List Entry}

theorem under_append_singleton (entries : List Entry) (entry : Entry) (log : Key) :
    under key (entries ++ [entry]) log =
      if key entry = log then under key entries log ++ [entry] else under key entries log := by
  unfold under
  rw [List.filter_append]
  by_cases own : key entry = log
  · rw [if_pos own, List.filter_cons_of_pos (by simpa using own)]
    rfl
  · rw [if_neg own, List.filter_cons_of_neg (by simpa using own), List.filter_nil, List.append_nil]

theorem max?_range' (length : Nat) :
    (List.range' 1 length).max? = if length = 0 then none else some length := by
  cases length with
  | zero => rfl
  | succ length =>
    rw [if_neg (Nat.succ_ne_zero _), List.max?_eq_some_iff]
    constructor
    · rw [List.mem_range'_1]
      omega
    · intro other member
      rw [List.mem_range'_1] at member
      omega

theorem nextNumber_of_numbered (numbered : Numbered key number entries) (log : Key) :
    nextNumber key number entries log = (under key entries log).length + 1 := by
  rw [nextNumber, numbered log, max?_range']
  split
  next latest found =>
    split at found
    · cases found
    · exact congrArg (· + 1) (Option.some.inj found).symm
  next found =>
    split at found
    next empty => rw [empty]
    next => cases found

theorem Numbered.nil : Numbered key number ([] : List Entry) := fun _ => rfl

theorem Adds.numbered (numbered : Numbered key number before) (added : Adds key number before after) :
    Numbered key number after := by
  obtain ⟨entry, next, rfl⟩ := added
  intro log
  rw [under_append_singleton]
  by_cases own : key entry = log
  · rw [if_pos own, List.map_append, numbered log, List.length_append, List.map_singleton, next, own,
      nextNumber_of_numbered numbered, List.length_singleton, List.range'_1_concat, Nat.add_comm]
  · rw [if_neg own, numbered log]

theorem Adds.isPrefix (added : Adds key number before after) (log : Key) :
    under key before log <+: under key after log := by
  obtain ⟨entry, _, rfl⟩ := added
  rw [under_append_singleton]
  split
  · exact List.prefix_append _ _
  · exact List.prefix_rfl

theorem Grows.numbered (grown : Grows key number before after) (numbered : Numbered key number before) :
    Numbered key number after := by
  induction grown with
  | refl => exact numbered
  | tail _ added ih => exact added.numbered ih

theorem Grows.isPrefix (grown : Grows key number before after) (log : Key) :
    under key before log <+: under key after log := by
  induction grown with
  | refl => exact List.prefix_rfl
  | tail _ added ih => exact ih.trans (added.isPrefix log)

end Additions

/-! A reader. -/

section Reading
variable {key number} {entries seen : List Entry} {log : Key}

/-- The number of the last entry that a reader has seen. -/
def lastSeen (number : Entry → Nat) (seen : List Entry) : Nat := (seen.getLast?.map number).getD 0

/-- Behind a number stand all entries but as many as it counts. -/
theorem filter_of_counted {counted : List Entry} {start : Nat}
    (numbers : counted.map number = List.range' start counted.length) (after : Nat) :
    counted.filter (fun entry => (after : Int) < number entry) = counted.drop (after + 1 - start) := by
  induction counted generalizing start with
  | nil => simp
  | cons entry rest ih =>
    rw [List.map_cons, List.length_cons, List.range'_succ] at numbers
    obtain ⟨first, others⟩ := List.cons.inj numbers
    have later := ih others
    by_cases behind : after < start
    · rw [List.filter_cons_of_pos (by simp [first, behind]), later]
      have none : after + 1 - start = 0 := by omega
      have tail : after + 1 - (start + 1) = 0 := by omega
      rw [none, tail, List.drop_zero, List.drop_zero]
    · rw [List.filter_cons_of_neg (by simpa [first] using behind), later]
      have one : after + 1 - start = after + 1 - (start + 1) + 1 := by omega
      rw [one, List.drop_succ_cons]

theorem page_of_numbered (numbered : Numbered key number entries) (log : Key) (after limit : Nat) :
    page key number entries log after limit = ((under key entries log).drop after).take limit := by
  have sorted : (under key entries log).Pairwise fun first second => number first ≤ number second := by
    have increasing : ((under key entries log).map number).Pairwise (· ≤ ·) := by
      rw [numbered log]
      exact (List.pairwise_lt_range' 1).imp Nat.le_of_lt
    exact List.pairwise_map.1 increasing
  have behind := filter_of_counted (numbered log) after
  rw [Nat.add_sub_cancel] at behind
  rw [page, behind, (sorted.sublist (List.drop_sublist _ _)).insertionSort_eq]

theorem lastSeen_of_isPrefix (numbered : Numbered key number entries) (read : seen <+: under key entries log) :
    lastSeen number seen = seen.length := by
  obtain ⟨rest, split⟩ := read
  have numbers : seen.map number = List.range' 1 seen.length := by
    have all := congrArg (List.take seen.length) (numbered log)
    rw [← split, List.map_append, List.length_append, List.take_left' (List.length_map _)] at all
    rw [all, List.take_range'_of_length_ge (Nat.le_add_right _ _)]
  rw [lastSeen, ← List.getLast?_map, numbers]
  cases seen with
  | nil => rfl
  | cons first later =>
    rw [List.length_cons, List.range'_1_concat, List.getLast?_concat]
    exact Nat.add_comm _ _

/-- What a reader has seen after one more page is the start of the log. -/
theorem isPrefix_append_page (numbered : Numbered key number entries) (read : seen <+: under key entries log)
    (limit : Nat) : seen ++ page key number entries log (lastSeen number seen) limit <+: under key entries log := by
  rw [lastSeen_of_isPrefix numbered read, page_of_numbered numbered]
  obtain ⟨rest, split⟩ := read
  rw [← split, List.drop_left, List.prefix_append_right_inj]
  exact List.take_prefix _ _

/-- A reader who finds nothing more has seen the whole log. -/
theorem eq_of_page_eq_nil (numbered : Numbered key number entries) (read : seen <+: under key entries log)
    {limit : Nat} (positive : 0 < limit) (empty : page key number entries log (lastSeen number seen) limit = []) :
    seen = under key entries log := by
  rw [lastSeen_of_isPrefix numbered read, page_of_numbered numbered] at empty
  obtain ⟨rest, split⟩ := read
  rw [← split, List.drop_left] at empty
  have nothing : rest = [] := by
    rcases List.take_eq_nil_iff.1 empty with zero | none
    · omega
    · exact none
  rw [← split, nothing, List.append_nil]

end Reading

end SoulClaw.Foundation.Logs
