import SoulClaw.Infra.Breaker

/-! The delay before another attempt. The exponential is cut at the cap of the policy, and the jitter is added to
what is left of it. -/

namespace SoulClaw.Infra.Delays
open Foundation Resilience

/-- The exponential, cut at the cap. -/
def base (policy : ResiliencePolicy) (attempt : Int) : Rat :=
  min policy.maxDelaySeconds (policy.baseDelaySeconds * 2 ^ (max 0 (attempt - 1)).toNat)

def jitter (policy : ResiliencePolicy) (attempt : Int) : Rat := base policy attempt * max 0 policy.jitterRatio

/-- What is drawn from the unit interval is a sample of the jitter. -/
theorem abs_drawn_le {spread draw : Rat} (nonneg : 0 ≤ spread) (least : 0 ≤ draw) (most : draw ≤ 1) :
    |-spread + 2 * spread * draw| ≤ spread := by
  have above : spread * draw ≤ spread * 1 := mul_le_mul_of_nonneg_left most nonneg
  have below : 0 ≤ spread * draw := mul_nonneg nonneg least
  rw [abs_le]
  constructor <;> linarith

section Delay
variable [FloatData]

/-- `retry_delay` in exact arithmetic, where no power of two overflows; `sample` is what
`random.uniform(-jitter, jitter)` returns. -/
def exactDelay (policy : ResiliencePolicy) (attempt : Int) (failure : Failure) (sample : Rat) : PyFloat :=
  match retryAfterSeconds failure with
  | some retryAfter => PyFloat.min (.finite policy.maxDelaySeconds) retryAfter
  | none => .finite (max 0 (base policy attempt + sample))

/-- Where the arithmetic of floats does not overflow, a delay is that of a sample. -/
theorem retryDelay_eq_exactDelay {policy : ResiliencePolicy} {attempt : Nat} (early : attempt ≤ 1024) (failure : Failure)
    {draw : Rat} (nonneg : 0 ≤ jitter policy attempt) (least : 0 ≤ draw) (most : draw ≤ 1) :
    ∃ sample, |sample| ≤ jitter policy attempt ∧
      retryDelay policy attempt failure draw = .ok (exactDelay policy attempt failure sample) := by
  have exponent : (max 0 ((attempt : Int) - 1)).toNat = attempt - 1 := by omega
  have below : attempt - 1 < 1024 := by omega
  refine ⟨_, abs_drawn_le nonneg least most, ?_⟩
  rw [retryDelay, exactDelay]
  cases retryAfterSeconds failure with
  | some retryAfter => rfl
  | none =>
    rw [timesPower, if_pos below, jitter, base, exponent]
    rfl

end Delay

/-! The cap. -/

structure NonNegative (policy : ResiliencePolicy) : Prop where
  base : 0 ≤ policy.baseDelaySeconds
  cap : 0 ≤ policy.maxDelaySeconds
  ratio : 0 ≤ policy.jitterRatio

def Capped (policy : ResiliencePolicy) (delay : PyFloat) : Prop :=
  ∃ seconds, delay = .finite seconds ∧ 0 ≤ seconds ∧ seconds ≤ policy.maxDelaySeconds

section Cap
variable {policy : ResiliencePolicy} {attempt : Int}

theorem capped_finite_iff {seconds : Rat} :
    Capped policy (.finite seconds) ↔ 0 ≤ seconds ∧ seconds ≤ policy.maxDelaySeconds := by
  constructor
  · rintro ⟨_, same, bounds⟩
    cases same
    exact bounds
  · intro bounds
    exact ⟨seconds, rfl, bounds⟩

theorem base_nonneg (nonneg : NonNegative policy) : 0 ≤ base policy attempt :=
  le_min nonneg.cap (mul_nonneg nonneg.base (by positivity))

theorem jitter_eq (nonneg : NonNegative policy) : jitter policy attempt = base policy attempt * policy.jitterRatio := by
  rw [jitter, max_eq_right nonneg.ratio]

theorem jitter_nonneg (nonneg : NonNegative policy) : 0 ≤ jitter policy attempt := by
  rw [jitter_eq nonneg]
  exact mul_nonneg (base_nonneg nonneg) nonneg.ratio

/-- A sample stays under the cap when the exponential leaves room for it. -/
theorem capped_sample_iff (nonneg : NonNegative policy) (sample : Rat) :
    Capped policy (.finite (max 0 (base policy attempt + sample))) ↔
      sample ≤ policy.maxDelaySeconds - base policy attempt := by
  rw [capped_finite_iff, max_le_iff, le_sub_iff_add_le']
  exact ⟨fun bounds => bounds.2.2, fun room => ⟨le_max_left .., nonneg.cap, room⟩⟩

/-- The largest sample stays under the cap. -/
theorem jitter_le_iff (nonneg : NonNegative policy) :
    jitter policy attempt ≤ policy.maxDelaySeconds - base policy attempt ↔
      policy.jitterRatio = 0 ∨ policy.maxDelaySeconds = 0 ∨
        policy.baseDelaySeconds * 2 ^ (max 0 (attempt - 1)).toNat * (1 + policy.jitterRatio) ≤ policy.maxDelaySeconds := by
  have grown : jitter policy attempt ≤ policy.maxDelaySeconds - base policy attempt ↔
      base policy attempt * (1 + policy.jitterRatio) ≤ policy.maxDelaySeconds := by
    rw [jitter_eq nonneg, le_sub_iff_add_le', mul_one_add]
  rw [grown, base]
  generalize policy.baseDelaySeconds * 2 ^ (max 0 (attempt - 1)).toNat = delay
  rcases le_total policy.maxDelaySeconds delay with cut | under
  · rw [min_eq_left cut]
    constructor
    · intro within
      have nothing : policy.maxDelaySeconds * policy.jitterRatio = 0 := by
        refine le_antisymm ?_ (mul_nonneg nonneg.cap nonneg.ratio)
        linarith
      exact (mul_eq_zero.1 nothing).elim (fun none => Or.inr (Or.inl none)) Or.inl
    · rintro (still | none | within)
      · rw [still, add_zero, mul_one]
      · rw [none, zero_mul]
      · exact (mul_le_mul_of_nonneg_right cut (by linarith [nonneg.ratio])).trans within
  · rw [min_eq_right under]
    constructor
    · intro within
      exact Or.inr (Or.inr within)
    · rintro (still | none | within)
      · rw [still, add_zero, mul_one]
        exact under
      · have least : delay * (1 + policy.jitterRatio) ≤ 0 :=
          mul_nonpos_of_nonpos_of_nonneg (none ▸ under) (by linarith [nonneg.ratio])
        exact least.trans nonneg.cap
      · exact within

variable [FloatData] {failure : Failure}

/-- What a server asks for is cut at the cap. -/
theorem capped_retryAfter (nonneg : NonNegative policy) {retryAfter : PyFloat}
    (known : retryAfterSeconds failure = some retryAfter) (sample : Rat) :
    Capped policy (exactDelay policy attempt failure sample) := by
  obtain ⟨header, rfl⟩ := Breaker.retryAfterSeconds_cases known
  rw [exactDelay, known]
  exact Breaker.min_retryAfter nonneg.cap header

theorem exactDelay_computed (absent : retryAfterSeconds failure = none) (sample : Rat) :
    exactDelay policy attempt failure sample = .finite (max 0 (base policy attempt + sample)) := by
  rw [exactDelay, absent]

end Cap

/-- A delay stays under the cap of its policy exactly when a server has asked for it, or the exponential leaves room
for the sample; all samples stay under it when the exponential leaves room for the whole jitter. -/
theorem delay_capped_iff [FloatData] {policy : ResiliencePolicy} (nonneg : NonNegative policy) (attempt : Int)
    (failure : Failure) :
    (∀ sample, |sample| ≤ jitter policy attempt →
      (Capped policy (exactDelay policy attempt failure sample) ↔
        (retryAfterSeconds failure).isSome ∨ sample ≤ policy.maxDelaySeconds - base policy attempt)) ∧
    ((∀ sample, |sample| ≤ jitter policy attempt → Capped policy (exactDelay policy attempt failure sample)) ↔
      (retryAfterSeconds failure).isSome ∨ policy.jitterRatio = 0 ∨ policy.maxDelaySeconds = 0 ∨
        policy.baseDelaySeconds * 2 ^ (max 0 (attempt - 1)).toNat * (1 + policy.jitterRatio) ≤ policy.maxDelaySeconds) := by
  cases known : retryAfterSeconds failure with
  | some retryAfter =>
    have capped : ∀ sample, Capped policy (exactDelay policy attempt failure sample) := capped_retryAfter nonneg known
    exact ⟨fun sample _ => iff_of_true (capped sample) (Or.inl rfl),
      iff_of_true (fun sample _ => capped sample) (Or.inl rfl)⟩
  | none =>
    have each : ∀ sample, Capped policy (exactDelay policy attempt failure sample) ↔
        sample ≤ policy.maxDelaySeconds - base policy attempt := by
      intro sample
      rw [exactDelay_computed known]
      exact capped_sample_iff nonneg sample
    simp only [Option.isSome_none, Bool.false_eq_true, false_or, each, implies_true, true_and]
    rw [← jitter_le_iff nonneg]
    constructor
    · intro within
      exact within _ (abs_of_nonneg (jitter_nonneg nonneg)).le
    · intro most sample drawn
      exact ((le_abs_self sample).trans drawn).trans most

section Demo
attribute [local instance] FloatData.decimal

private def search : ResiliencePolicy := { name := "search" }

private def dropped : Failure := ⟨.transport, "connection reset"⟩

private theorem search_nonneg : NonNegative search := by
  constructor <;> norm_num [search]

private theorem power_search : (max 0 ((5 : Int) - 1)).toNat = 4 := rfl

private theorem base_search : base search 5 = 4 := by
  rw [base, power_search]
  norm_num [search]

/-- The second attempt of the default policy keeps the cap, and the fifth does not. -/
theorem delay_capped_search :
    (∀ sample, |sample| ≤ jitter search 2 → Capped search (exactDelay search 2 dropped sample)) ∧
      ¬∀ sample, |sample| ≤ jitter search 5 → Capped search (exactDelay search 5 dropped sample) := by
  constructor
  · refine (delay_capped_iff search_nonneg 2 dropped).2.2 (Or.inr (Or.inr (Or.inr ?_)))
    norm_num [search]
  · rw [(delay_capped_iff search_nonneg 5 dropped).2, power_search]
    norm_num [search, retryAfterSeconds, dropped]

/-- The exponential of the fifth attempt is the cap, and half of the jitter goes beyond it. -/
theorem delay_exceeds_cap : NonNegative search ∧ |(2 / 5 : Rat)| ≤ jitter search 5 ∧
    exactDelay search 5 dropped (2 / 5) = .finite (22 / 5) ∧ search.maxDelaySeconds = 4 ∧
    ¬Capped search (exactDelay search 5 dropped (2 / 5)) := by
  have delayed : exactDelay search 5 dropped (2 / 5) = .finite (22 / 5) := by
    have absent : retryAfterSeconds dropped = none := rfl
    rw [exactDelay_computed absent, base_search]
    norm_num
  refine ⟨search_nonneg, ?_, delayed, rfl, ?_⟩
  · rw [jitter, base_search]
    norm_num [search, abs_of_nonneg]
  · rw [delayed, capped_finite_iff]
    norm_num [search]

end Demo

end SoulClaw.Infra.Delays
