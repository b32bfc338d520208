import SoulClaw.Foundation.Text
import Mathlib.Algebra.Ring.Nat

/-! Python dates. A day is its ordinal in the proleptic Gregorian calendar, and `isoformat` writes the date and the
time of day with fixed separators, so that the text of a time gives back its date, its hour and its minute. -/

namespace SoulClaw.Foundation.Calendar

structure Date where
  year : Nat
  month : Nat
  day : Nat
  deriving DecidableEq, Repr

def isLeap (year : Nat) : Bool := year % 4 = 0 ∧ (year % 100 ≠ 0 ∨ year % 400 = 0)

def monthLengths (leap : Bool) : List Nat := [31, if leap then 29 else 28, 31, 30, 31, 30, 31, 31, 30, 31, 30, 31]

/-- The days of the years before this one. -/
def daysBeforeYear (year : Nat) : Nat := (year - 1) * 365 + (year - 1) / 4 - (year - 1) / 100 + (year - 1) / 400

def toOrdinal (date : Date) : Nat :=
  daysBeforeYear date.year + ((monthLengths (isLeap date.year)).take (date.month - 1)).sum + date.day

/-- The segment that a position falls in, and the place in this segment. -/
def segment : List Nat → Nat → Nat × Nat
  | [], place => (0, place)
  | length :: rest, place =>
      if place < length then (0, place)
      else ((segment rest (place - length)).1 + 1, (segment rest (place - length)).2)

/-- The year of a day that is counted from the first one, and its place in the year: the cycles of 400, 100 and 4
years and the single years are divided off in turn. -/
def yearOf (days : Nat) : Nat × Nat :=
  let n400 := days / 146097
  let days := days % 146097
  let n100 := days / 36524
  let days := days % 36524
  let n4 := days / 1461
  let days := days % 1461
  let n1 := days / 365
  -- The last day of a leap year, or of a cycle of 400 years, would open a fifth year.
  if n1 = 4 ∨ n100 = 4 then (n400 * 400 + n100 * 100 + n4 * 4 + n1, 365)
  else (n400 * 400 + n100 * 100 + n4 * 4 + n1 + 1, days % 365)

def ofOrdinal (ordinal : Nat) : Date :=
  let year := yearOf (ordinal - 1)
  let month := segment (monthLengths (isLeap year.1)) year.2
  ⟨year.1, month.1 + 1, month.2 + 1⟩

theorem segment_sum (lengths : List Nat) (place : Nat) :
    (lengths.take (segment lengths place).1).sum + (segment lengths place).2 = place := by
  induction lengths generalizing place with
  | nil => exact Nat.zero_add place
  | cons length rest ih =>
    rw [segment]
    by_cases inside : place < length
    · rw [if_pos inside, List.take_zero, List.sum_nil, Nat.zero_add]
    · rw [if_neg inside, List.take_succ_cons, List.sum_cons, Nat.add_assoc, ih]
      omega

/-- The days before a year whose place in the three cycles is known. -/
theorem daysBeforeYear_cycles (n400 : Nat) {n100 n4 n1 : Nat} (centuries : n100 ≤ 3) (fours : n4 ≤ 24)
    (years : n1 ≤ 3) : daysBeforeYear (n400 * 400 + n100 * 100 + n4 * 4 + n1 + 1) =
      n400 * 146097 + n100 * 36524 + n4 * 1461 + n1 * 365 := by
  have byFour : (n400 * 400 + n100 * 100 + n4 * 4 + n1) / 4 = n400 * 100 + n100 * 25 + n4 := by omega
  have byCentury : (n400 * 400 + n100 * 100 + n4 * 4 + n1) / 100 = n400 * 4 + n100 := by omega
  have byCycle : (n400 * 400 + n100 * 100 + n4 * 4 + n1) / 400 = n400 := by omega
  rw [daysBeforeYear, Nat.add_sub_cancel, byFour, byCentury, byCycle]
  omega

/-- The days before the year of a day, and its place in the year, are the days before it. -/
theorem yearOf_days (days : Nat) : daysBeforeYear (yearOf days).1 + (yearOf days).2 = days := by
  rw [yearOf]
  generalize cycles : days / 146097 = n400
  generalize century : days % 146097 / 36524 = n100
  generalize four : days % 146097 % 36524 / 1461 = n4
  generalize single : days % 146097 % 36524 % 1461 / 365 = n1
  by_cases last : n1 = 4 ∨ n100 = 4
  · rw [if_pos last]
    rcases last with rfl | rfl
    · have whole : daysBeforeYear (n400 * 400 + n100 * 100 + n4 * 4 + 4) = _ :=
        @daysBeforeYear_cycles n400 n100 n4 3 (by omega) (by omega) le_rfl
      dsimp only
      omega
    · have whole := daysBeforeYear_cycles n400 (le_refl 3) (le_refl 24) (le_refl 3)
      have same : n400 * 400 + 4 * 100 + n4 * 4 + n1 = n400 * 400 + 3 * 100 + 24 * 4 + 3 + 1 := by omega
      rw [← same] at whole
      dsimp only
      omega
  · rw [if_neg last, daysBeforeYear_cycles n400 (by omega) (by omega) (by omega)]
    omega

theorem toOrdinal_ofOrdinal {ordinal : Nat} (positive : 0 < ordinal) : toOrdinal (ofOrdinal ordinal) = ordinal := by
  have days := yearOf_days (ordinal - 1)
  have within := segment_sum (monthLengths (isLeap (yearOf (ordinal - 1)).1)) (yearOf (ordinal - 1)).2
  rw [toOrdinal, ofOrdinal]
  dsimp only
  rw [Nat.add_sub_cancel]
  omega

/-! The text of a time. -/

/-- A number in at least so many digits, as `format(value, "04d")` writes it. -/
def padded (width value : Nat) : List Char :=
  List.replicate (width - (Nat.toDigits 10 value).length) '0' ++ Nat.toDigits 10 value

/-- The first day of 1970. -/
def epoch : Nat := 719163

/-- The date of a time that is given in seconds since the epoch, in UTC. -/
def dateOf (seconds : Nat) : Date := ofOrdinal (epoch + seconds / 86400)

/-- The fraction of a second, which is left out if it is zero. -/
def fraction (microseconds : Nat) : List Char := if microseconds = 0 then [] else '.' :: padded 6 microseconds

/-- `datetime.isoformat()` of a time in UTC. -/
def isoformat (seconds microseconds : Nat) : List Char :=
  padded 4 (dateOf seconds).year ++ '-' :: (padded 2 (dateOf seconds).month ++ '-' :: (padded 2 (dateOf seconds).day ++
    'T' :: (padded 2 (seconds % 86400 / 3600) ++ ':' :: (padded 2 (seconds % 3600 / 60) ++
      ':' :: (padded 2 (seconds % 60) ++ (fraction microseconds ++ "+00:00".toList))))))

theorem padded_value (width value : Nat) : Nat.ofDigitChars 10 (padded width value) 0 = value := by
  rw [padded, Nat.ofDigitChars_append, Nat.ofDigitChars_replicate_zero, Nat.mul_zero, Nat.ofDigitChars_ten_toDigits]

theorem isDigit_of_mem_padded {width value : Nat} {c : Char} (member : c ∈ padded width value) : c.isDigit = true := by
  rcases List.mem_append.1 member with zeros | digits
  · rw [List.eq_of_mem_replicate zeros]
    rfl
  · exact Nat.isDigit_of_mem_toDigits (by decide) (by decide) digits

/-- A number that is followed by a separator is read back. -/
theorem padded_cut {width value other : Nat} {separator : Char} {tail rest : List Char}
    (apart : separator.isDigit = false)
    (same : padded width value ++ separator :: tail = padded width other ++ separator :: rest) :
    value = other ∧ tail = rest := by
  have outside : ∀ value, separator ∉ padded width value := fun value member => by
    rw [isDigit_of_mem_padded member] at apart
    cases apart
  obtain ⟨numbers, tails⟩ := Text.cut_inj (outside value) (outside other) same
  refine ⟨?_, tails⟩
  rw [← padded_value width value, numbers, padded_value]

theorem dateOf_day {first second : Nat} (same : dateOf first = dateOf second) : first / 86400 = second / 86400 := by
  have ordinals := congrArg toOrdinal same
  rw [dateOf, dateOf, toOrdinal_ofOrdinal (by rw [epoch]; omega), toOrdinal_ofOrdinal (by rw [epoch]; omega)] at ordinals
  omega

/-- A text without a fraction tells the second. -/
theorem isoformat_injective : Function.Injective (isoformat · 0) := by
  intro first second same
  obtain ⟨years, same⟩ := padded_cut (by decide) same
  obtain ⟨months, same⟩ := padded_cut (by decide) same
  obtain ⟨days, same⟩ := padded_cut (by decide) same
  obtain ⟨hours, same⟩ := padded_cut (by decide) same
  obtain ⟨minutes, same⟩ := padded_cut (by decide) same
  obtain ⟨seconds, _⟩ := padded_cut (by decide) same
  have dates : dateOf first = dateOf second := by
    generalize dateOf first = date at years months days
    generalize dateOf second = other at years months days
    cases date
    cases other
    simp only at years months days
    rw [years, months, days]
  have sameDay := dateOf_day dates
  omega

/-- The text of a time is made of digits and of its separators. -/
theorem mem_isoformat {seconds microseconds : Nat} {c : Char} (member : c ∈ isoformat seconds microseconds) :
    c.isDigit = true ∨ c ∈ ['-', 'T', ':', '.', '+'] := by
  have digits : ∀ width value, c ∈ padded width value → c.isDigit = true := fun _ _ => isDigit_of_mem_padded
  have zone : c ∈ "+00:00".toList → c.isDigit = true ∨ c ∈ ['-', 'T', ':', '.', '+'] := by
    have chars : ∀ d ∈ "+00:00".toList, d.isDigit = true ∨ d ∈ ['-', 'T', ':', '.', '+'] :=
      Text.forall_listed (by decide)
    exact chars c
  have part : c ∈ fraction microseconds → c.isDigit = true ∨ c ∈ ['-', 'T', ':', '.', '+'] := by
    rw [fraction]
    split
    · exact fun none => absurd none List.not_mem_nil
    · rintro (_ | ⟨_, number⟩)
      · simp
      · exact .inl (digits _ _ number)
  simp only [isoformat, List.mem_append, List.mem_cons] at member
  rcases member with number | rfl | number | rfl | number | rfl | number | rfl | number | rfl | number | less | last
  all_goals first | exact .inl (digits _ _ number) | exact part less | exact zone last | simp

example : String.ofList (isoformat 1782356405 0) = "2026-06-25T03:00:05+00:00" := by decide +kernel

end SoulClaw.Foundation.Calendar
