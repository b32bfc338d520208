import SoulClaw.Infra.Windows

/-! The rate limiter in front of the application: the requests that `RateLimitMiddleware` lets through and the
completions that the client of the model asks for. They share one limiter, and none of them uses up what another one
may have. -/

namespace SoulClaw.Api.Throttle
open Foundation Infra.RateLimit Infra.Windows

/-! The calls. -/

structure Settings where
  metricsPath : String := "/metrics"
  rateLimitAdminPerMinute : Int := 120
  rateLimitTurnPerMinute : Int := 20
  rateLimitGatewayPerMinute : Int := 120
  rateLimitLlmPerMinute : Int := 60
  openaiApiKey : Option String := none
  openaiModel : Option String := none
  llmProvider : String := "openai-compatible"

structure Request where
  path : String
  authorization : Option String := none
  /-- The host of the client, where it is known. -/
  client : Option String := none

/-- `_rate_limit_exempt`. -/
def rateLimitExempt (path : String) (settings : Settings) : Bool :=
  path ∈ ["/api/health", "/api/health/live", "/api/health/ready", settings.metricsPath]

/-- `_rate_limit_policy`. -/
def rateLimitPolicy (path : String) (settings : Settings) : String × Int :=
  if path = "/api/runs/turn" then ("turn", settings.rateLimitTurnPerMinute)
  else if path ∈ ["/api/gateways/inbound", "/api/gateways/webhook"] then ("gateway", settings.rateLimitGatewayPerMinute)
  else ("admin", settings.rateLimitAdminPerMinute)

/-- `auth[-32:]`. -/
def lastCharacters (text : String) : String := String.ofList (text.toList.drop (text.toList.length - 32))

/-- `_rate_limit_identity`. -/
def rateLimitIdentity (request : Request) : String :=
  let auth := request.authorization.getD ""
  if auth = "" then request.client.getD "unknown" else lastCharacters auth

/-- When a call happens, and what becomes of its Redis commands. -/
structure Moment where
  now : Int
  incr : Fate := .answered
  expire : Fate := .answered
  ttl : Fate := .answered

def Moment.check (moment : Moment) (policy identity : String) (limit : Int) : Check :=
  { policy, identity, limit, now := moment.now, incr := moment.incr, expire := moment.expire, ttl := moment.ttl }

inductive Answer where
  /-- The endpoint answers; the limiter adds headers if it was asked. -/
  | served (headers : List (String × String))
  /-- The model is asked. -/
  | asked
  /-- Status 429, or `RateLimitExceeded`. -/
  | refused (policy : String) (retryAfter : Int)
  | notConfigured
  | raised
  deriving DecidableEq, Repr

/-- The endpoint runs, or the model is asked. -/
def Answer.admitted : Answer → Bool
  | .served _ | .asked => true
  | _ => false

section Model
variable [AlnumData]

/-- `enforce`; what `RateLimitExceeded` carries stands on the left. -/
def enforce (limiter : FixedWindowRateLimiter) (world : World) (check : Check) :
    Except Answer RateLimitDecision × World :=
  match limiter.check world check with
  | (.error _, world) => (.error .raised, world)
  | (.ok decision, world) =>
      if decision.allowed then (.ok decision, world) else (.error (.refused check.policy decision.retryAfter), world)

def headersOf (decision : RateLimitDecision) : List (String × String) :=
  [("X-RateLimit-Limit", toString decision.limit), ("X-RateLimit-Remaining", toString decision.remaining),
    ("X-RateLimit-Reset", toString decision.resetAt)]

/-- `RateLimitMiddleware.dispatch`. -/
def dispatch (limiter : FixedWindowRateLimiter) (settings : Settings) (world : World) (request : Request)
    (moment : Moment) : Answer × World :=
  if rateLimitExempt request.path settings then (.served [], world)
  else
    let (policy, limit) := rateLimitPolicy request.path settings
    match enforce limiter world (moment.check policy (rateLimitIdentity request) limit) with
    | (.error answer, world) => (answer, world)
    | (.ok decision, world) => (.served (headersOf decision), world)

/-- `bool(self.settings.openai_api_key and self.settings.openai_model)`. -/
def configured (settings : Settings) : Bool :=
  settings.openaiApiKey.getD "" ≠ "" ∧ settings.openaiModel.getD "" ≠ ""

/-- `OpenAICompatibleClient.complete`, up to the request that it sends. -/
def complete (limiter : FixedWindowRateLimiter) (settings : Settings) (world : World) (moment : Moment) : Answer × World :=
  if !configured settings then (.notConfigured, world)
  else
    let model := settings.openaiModel.getD ""
    let identity := if model = "" then settings.llmProvider else model
    match enforce limiter world (moment.check "llm" identity settings.rateLimitLlmPerMinute) with
    | (.error answer, world) => (answer, world)
    | (.ok _, world) => (.asked, world)

inductive Call where
  | request (request : Request)
  | completion

structure Arrival where
  call : Call
  moment : Moment

def serve (limiter : FixedWindowRateLimiter) (settings : Settings) (world : World) (arrival : Arrival) : Answer × World :=
  match arrival.call with
  | .request request => dispatch limiter settings world request arrival.moment
  | .completion => complete limiter settings world arrival.moment

/-- The answers to arrivals, one after the other. -/
def answers (limiter : FixedWindowRateLimiter) (settings : Settings) : World → List Arrival → List Answer
  | _, [] => []
  | world, arrival :: rest =>
      (serve limiter settings world arrival).1 :: answers limiter settings (serve limiter settings world arrival).2 rest

/-! What the limiter is asked. -/

/-- The limit of a policy. -/
def limitOf (settings : Settings) (policy : String) : Int :=
  if policy = "turn" then settings.rateLimitTurnPerMinute
  else if policy = "gateway" then settings.rateLimitGatewayPerMinute
  else if policy = "admin" then settings.rateLimitAdminPerMinute
  else settings.rateLimitLlmPerMinute

/-- The policy and the identity of a call that the limiter is asked for. -/
def account (settings : Settings) : Call → Option (String × String)
  | .request request =>
      if rateLimitExempt request.path settings then none
      else some ((rateLimitPolicy request.path settings).1, rateLimitIdentity request)
  | .completion => if configured settings then some ("llm", settings.openaiModel.getD "") else none

def checkOf (settings : Settings) (arrival : Arrival) : Option Check :=
  (account settings arrival.call).map fun known => arrival.moment.check known.1 known.2 (limitOf settings known.1)

/-- The answer to a call that the limiter has decided on. -/
def answerTo (call : Call) (decision : RateLimitDecision) : Answer :=
  if decision.allowed then
    match call with
    | .request _ => .served (headersOf decision)
    | .completion => .asked
  else .refused decision.policy decision.retryAfter

omit [AlnumData] in
@[simp] theorem admitted_answerTo (call : Call) (decision : RateLimitDecision) :
    (answerTo call decision).admitted = decision.allowed := by
  unfold answerTo
  cases decision.allowed <;> cases call <;> rfl

omit [AlnumData] in
theorem answerTo_of_blocked {call : Call} {decision : RateLimitDecision} (blocked : decision.allowed = false) :
    answerTo call decision = .refused decision.policy decision.retryAfter := by
  rw [answerTo.eq_def, blocked]
  rfl

/-- The answer to a call that the limiter is not asked for. -/
def unasked : Call → Answer
  | .request _ => .served []
  | .completion => .notConfigured

def policies : List String := ["turn", "gateway", "admin", "llm"]

omit [AlnumData] in
theorem rateLimitPolicy_eq (path : String) (settings : Settings) :
    (rateLimitPolicy path settings).1 ∈ policies ∧
      (rateLimitPolicy path settings).2 = limitOf settings (rateLimitPolicy path settings).1 := by
  unfold rateLimitPolicy
  split_ifs <;> simp [policies, limitOf]

omit [AlnumData] in
theorem checkOf_eq_some {settings : Settings} {arrival : Arrival} {check : Check}
    (asked : checkOf settings arrival = some check) :
    check.policy ∈ policies ∧ check.limit = limitOf settings check.policy ∧ check.windowSeconds = 60 ∧
      check.now = arrival.moment.now := by
  obtain ⟨known, found, rfl⟩ := Option.map_eq_some_iff.1 asked
  refine ⟨?_, rfl, rfl, rfl⟩
  show known.1 ∈ policies
  obtain ⟨call, moment⟩ := arrival
  cases call with
  | request request =>
    simp only [account] at found
    split_ifs at found
    obtain rfl := Option.some.inj found
    exact (rateLimitPolicy_eq request.path settings).1
  | completion =>
    simp only [account] at found
    split_ifs at found
    obtain rfl := Option.some.inj found
    exact show "llm" ∈ policies by decide

omit [AlnumData] in
theorem checkOf_of_account {settings : Settings} {arrival : Arrival} {policy identity : String}
    (found : account settings arrival.call = some (policy, identity)) :
    checkOf settings arrival = some (arrival.moment.check policy identity (limitOf settings policy)) := by
  rw [checkOf, found, Option.map_some]

/-! Keys. -/

/-- The first character after the prefix of a key tells the policies apart. -/
theorem key_eq_iff {first second : Check} (known : first.policy ∈ policies) (known' : second.policy ∈ policies) :
    first.key = second.key ↔ first.policy = second.policy ∧ safeIdentity first.identity = safeIdentity second.identity := by
  constructor
  · intro same
    have texts : first.policy.toList ++ (":".toList ++ (safeIdentity first.identity).toList) =
        second.policy.toList ++ (":".toList ++ (safeIdentity second.identity).toList) := by
      have joined := congrArg String.toList same
      simpa only [Check.key, String.toList_append, List.append_assoc, List.append_cancel_left_eq] using joined
    have heads : ∀ one ∈ policies, ∀ other ∈ policies, one.toList.head? = other.toList.head? → one = other := by decide
    have filled : ∀ one ∈ policies, one.toList ≠ [] := by decide
    have policy : first.policy = second.policy := by
      apply heads _ known _ known'
      have front := congrArg List.head? texts
      rwa [List.head?_append_of_ne_nil _ (filled _ known), List.head?_append_of_ne_nil _ (filled _ known')] at front
    rw [policy, List.append_cancel_left_eq, List.append_cancel_left_eq] at texts
    exact ⟨policy, String.toList_injective texts⟩
  · intro same
    rw [Check.key, Check.key, same.1, same.2]

/-- Arrivals of one run, none of which goes back in time. -/
def Ordered (arrivals : List Arrival) : Prop :=
  arrivals.Pairwise fun first second => first.moment.now ≤ second.moment.now

theorem steady_of_ordered {settings : Settings} {arrivals : List Arrival} (ordered : Ordered arrivals) :
    Steady (arrivals.filterMap (checkOf settings)) where
  clock := by
    rw [List.pairwise_filterMap]
    apply ordered.imp
    intro first second before one asked other asked'
    rw [(checkOf_eq_some asked).2.2.2, (checkOf_eq_some asked').2.2.2]
    exact before
  window := by
    intro check member
    obtain ⟨arrival, _, asked⟩ := List.mem_filterMap.1 member
    rw [(checkOf_eq_some asked).2.2.1]
    decide
  uniform := by
    intro first member second member' same
    obtain ⟨one, _, asked⟩ := List.mem_filterMap.1 member
    obtain ⟨other, _, asked'⟩ := List.mem_filterMap.1 member'
    obtain ⟨known, limit, window, _⟩ := checkOf_eq_some asked
    obtain ⟨known', limit', window', _⟩ := checkOf_eq_some asked'
    have policy := ((key_eq_iff known known').1 same).1
    refine ⟨window.trans window'.symm, ?_⟩
    rw [Check.effectiveLimit, Check.effectiveLimit, limit, limit', policy]

/-! One arrival. -/

variable {limiter : FixedWindowRateLimiter} {settings : Settings} {world : World} {arrival : Arrival} {check : Check}
  {earlier : List Check}

theorem serve_unasked (free : checkOf settings arrival = none) :
    serve limiter settings world arrival = (unasked arrival.call, world) := by
  have free : account settings arrival.call = none := Option.map_eq_none_iff.1 free
  obtain ⟨call, moment⟩ := arrival
  cases call with
  | request request =>
    simp only [account] at free
    split_ifs at free with exempt
    simp only [serve, dispatch, exempt, if_true, unasked]
  | completion =>
    simp only [account] at free
    split_ifs at free with known
    simp only [serve, complete, known, Bool.not_false, if_true, unasked]

/-- A call that the limiter is asked for is answered as it decides. -/
theorem serve_asked (asked : checkOf settings arrival = some check) {decision : RateLimitDecision} {next : World}
    (checked : limiter.check world check = (.ok decision, next)) (own : decision.policy = check.policy) :
    serve limiter settings world arrival = (answerTo arrival.call decision, next) := by
  obtain ⟨known, found, rfl⟩ := Option.map_eq_some_iff.1 asked
  obtain ⟨call, moment⟩ := arrival
  cases call with
  | request request =>
    simp only [account] at found
    split_ifs at found with exempt
    obtain rfl := Option.some.inj found
    have limit := (rateLimitPolicy_eq request.path settings).2
    simp only [serve, dispatch, if_neg exempt, enforce, limit, checked, answerTo, own]
    split_ifs <;> rfl
  | completion =>
    simp only [account] at found
    split_ifs at found with known
    obtain rfl := Option.some.inj found
    have model : settings.openaiModel.getD "" ≠ "" := by
      have both : settings.openaiApiKey.getD "" ≠ "" ∧ settings.openaiModel.getD "" ≠ "" := by simpa [configured] using known
      exact both.2
    have limit : limitOf settings "llm" = settings.rateLimitLlmPerMinute := rfl
    rw [limit] at checked
    simp only [serve, complete, known, Bool.not_true, Bool.false_eq_true, if_false, if_neg model, enforce, checked,
      answerTo, own]
    split_ifs <;> rfl

/-! Runs. -/

section Alone
variable (enabled : limiter.rateLimitEnabled = true) (alone : limiter.redis = false)
include enabled alone

/-- Without Redis, a call is answered as the exact count of the calls before it says. -/
theorem serve_exact (asked : checkOf settings arrival = some check) (steady : Steady (earlier ++ [check]))
    (tracks : Tracks world.memory earlier) : ∃ next,
      serve limiter settings world arrival = (answerTo arrival.call (exactDecision earlier check), next) ∧
        Tracks next.memory (earlier ++ [check]) := by
  have checked : limiter.check world check = world.fallBack check := by
    rw [FixedWindowRateLimiter.check, enabled, alone]
    rfl
  rw [World.fallBack, checkMemory_exact steady tracks] at checked
  exact ⟨_, serve_asked asked checked rfl, tracks_append steady tracks⟩

/-- The answer to an arrival depends only on the calls that the limiter was asked for before it. -/
theorem answer_exact {front back : List Arrival} (ordered : Ordered (front ++ arrival :: back)) :
    (answers limiter settings .initial (front ++ arrival :: back))[front.length]? =
      some ((checkOf settings arrival).elim (unasked arrival.call) fun check =>
        answerTo arrival.call (exactDecision (front.filterMap (checkOf settings)) check)) := by
  have run : ∀ (rest : List Arrival) (before : List Check) (world : World), Tracks world.memory before →
      Steady (before ++ (rest ++ arrival :: back).filterMap (checkOf settings)) →
      (answers limiter settings world (rest ++ arrival :: back))[rest.length]? =
        some ((checkOf settings arrival).elim (unasked arrival.call) fun check =>
          answerTo arrival.call (exactDecision (before ++ rest.filterMap (checkOf settings)) check)) := by
    intro rest
    induction rest with
    | nil =>
      intro before world tracks steady
      rw [List.nil_append, answers, List.length_nil, List.getElem?_cons_zero, List.filterMap_nil, List.append_nil]
      cases asked : checkOf settings arrival with
      | none => rw [serve_unasked asked, Option.elim_none]
      | some check =>
        rw [List.nil_append, List.filterMap_cons_some asked, List.append_cons] at steady
        obtain ⟨next, served, _⟩ := serve_exact enabled alone asked (steady.sublist (List.sublist_append_left _ _)) tracks
        rw [served, Option.elim_some]
    | cons first rest ih =>
      intro before world tracks steady
      rw [List.cons_append, answers, List.length_cons, List.getElem?_cons_succ]
      cases asked : checkOf settings first with
      | none =>
        rw [List.cons_append, List.filterMap_cons_none asked] at steady
        rw [serve_unasked asked, List.filterMap_cons_none asked]
        exact ih before world tracks steady
      | some check =>
        rw [List.cons_append, List.filterMap_cons_some asked, List.append_cons] at steady
        obtain ⟨next, served, tracks⟩ := serve_exact enabled alone asked (steady.sublist (List.sublist_append_left _ _)) tracks
        rw [served, List.filterMap_cons_some asked, List.append_cons before]
        exact ih (before ++ [check]) next tracks steady
  have nothing : Tracks World.initial.memory [] := fun _ _ listed => absurd listed List.not_mem_nil
  exact run front [] .initial nothing (steady_of_ordered ordered)

end Alone

/-- A call on the same account in the same minute. -/
def Shares (settings : Settings) (arrival other : Arrival) : Prop :=
  (account settings other.call).map (fun known => (known.1, safeIdentity known.2)) =
      (account settings arrival.call).map (fun known => (known.1, safeIdentity known.2)) ∧
    other.moment.now / 60 = arrival.moment.now / 60

instance instDecidableShares (settings : Settings) (arrival other : Arrival) :
    Decidable (Shares settings arrival other) := inferInstanceAs (Decidable (_ ∧ _))

theorem inWindow_iff {other : Arrival} {call : Check} (asked : checkOf settings arrival = some check)
    (asked' : checkOf settings other = some call) : InWindow check call ↔ Shares settings arrival other := by
  have window := (checkOf_eq_some asked).2.2.1
  have time := (checkOf_eq_some asked).2.2.2
  have time' := (checkOf_eq_some asked').2.2.2
  have keys := key_eq_iff (checkOf_eq_some asked').1 (checkOf_eq_some asked).1
  obtain ⟨known, found, rfl⟩ := Option.map_eq_some_iff.1 asked
  obtain ⟨known', found', rfl⟩ := Option.map_eq_some_iff.1 asked'
  rw [InWindow, keys, windowEnd, windowOf, window, time, time', Shares, found, found', Option.map_some, Option.map_some,
    Option.some.injEq, Prod.mk.injEq]
  apply and_congr Iff.rfl
  omega

theorem callsInWindow_eq (asked : checkOf settings arrival = some check) (front : List Arrival) :
    callsInWindow (front.filterMap (checkOf settings)) check = front.countP (Shares settings arrival) := by
  induction front with
  | nil => rfl
  | cons other rest ih =>
    rw [List.countP_cons, ← ih]
    cases asked' : checkOf settings other with
    | none =>
      have free : account settings other.call = none := Option.map_eq_none_iff.1 asked'
      obtain ⟨known, found, _⟩ := Option.map_eq_some_iff.1 asked
      have apart : ¬Shares settings arrival other := by
        intro shared
        have same := shared.1
        rw [free, found] at same
        cases same
      rw [List.filterMap_cons_none asked', decide_eq_false apart]
      rfl
    | some call =>
      rw [List.filterMap_cons_some asked', callsInWindow, List.filter_cons, callsInWindow]
      by_cases inside : InWindow check call
      · rw [decide_eq_true inside, decide_eq_true ((inWindow_iff asked asked').1 inside)]
        rfl
      · rw [decide_eq_false inside, decide_eq_false fun shared => inside ((inWindow_iff asked asked').2 shared)]
        rfl

/-- What the calls on one account in one minute leave for an arrival. -/
structure Budgeted (settings : Settings) (front : List Arrival) (arrival : Arrival) (answer : Answer) : Prop where
  free : account settings arrival.call = none → answer = unasked arrival.call
  admitted : ∀ policy identity, account settings arrival.call = some (policy, identity) →
    (answer.admitted = true ↔ front.countP (Shares settings arrival) < max 1 (limitOf settings policy))
  refused : ∀ policy identity, account settings arrival.call = some (policy, identity) → answer.admitted = false →
    answer = .refused policy (60 - arrival.moment.now % 60)

/-- In each minute, the first calls on an account are admitted, as many as the limit of its policy says, and the others
are told how long the minute still lasts. Other accounts and exempt paths make no difference. -/
theorem budget_of_account (enabled : limiter.rateLimitEnabled = true) (alone : limiter.redis = false)
    {front back : List Arrival} (ordered : Ordered (front ++ arrival :: back)) : ∃ answer,
      (answers limiter settings .initial (front ++ arrival :: back))[front.length]? = some answer ∧
        Budgeted settings front arrival answer := by
  refine ⟨_, answer_exact enabled alone ordered, ?_, ?_, ?_⟩
  · intro free
    rw [checkOf, free]
    rfl
  · intro policy identity found
    have asked := checkOf_of_account found
    rw [asked, Option.elim_some, admitted_answerTo, exactDecision, callsInWindow_eq asked]
    exact decide_eq_true_iff
  · intro policy identity found refused
    have asked := checkOf_of_account found
    rw [asked, Option.elim_some] at refused ⊢
    rw [admitted_answerTo] at refused
    rw [answerTo_of_blocked refused]
    congr 1
    have wait : (arrival.moment.now / 60 + 1) * 60 - arrival.moment.now = 60 - arrival.moment.now % 60 := by omega
    exact (if_neg (of_decide_eq_false refused)).trans wait

end Model

section Demo
attribute [local instance] AlnumData.ascii

/-- A turn for one client, and a completion, with one of each in a minute. -/
private def oneEach : Settings :=
  { rateLimitTurnPerMinute := 1, rateLimitLlmPerMinute := 1, openaiApiKey := some "key", openaiModel := some "model" }

private def turnOf (client : String) (now : Int) : Arrival :=
  ⟨.request ⟨"/api/runs/turn", none, some client⟩, ⟨now, .answered, .answered, .answered⟩⟩

theorem second_turn_refused : ∃ answer,
    (answers { redis := false } oneEach .initial
      ([turnOf "a" 61, ⟨.completion, ⟨62, .answered, .answered, .answered⟩⟩] ++ turnOf "a" 63 :: [turnOf "b" 64]))[2]? =
        some answer ∧
      Budgeted oneEach [turnOf "a" 61, ⟨.completion, ⟨62, .answered, .answered, .answered⟩⟩] (turnOf "a" 63) answer := by
  apply budget_of_account rfl rfl
  simp [Ordered, turnOf]

end Demo

end SoulClaw.Api.Throttle
