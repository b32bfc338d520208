import SoulClaw.Infra.Breaker
import SoulClaw.Infra.Metrics

/-! What is reported of a circuit against what a call would meet. A circuit whose time is over stays open in its
state until a call clears it, and the reports read the state. -/

namespace SoulClaw.Infra.CircuitReports
open Foundation Resilience Metrics

/-! The service: its circuits, and what has been reported of them. -/

structure Service where
  manager : ResilienceManager
  observability : Observability

def Service.initial : Service := ⟨ResilienceManager.initial, Observability.initial⟩

inductive Event (Value : Type) where
  | called (policy : ResiliencePolicy) (invocation : Invocation Value)
  | collected (db : Database) (rates : RateLimitState)

section Reports
variable [FloatData] [GroupOrder] {Value : Type}

/-- The service after its reliability has been collected. -/
def Service.collect (service : Service) (db : Database) (rates : RateLimitState) : Service :=
  { service with observability := (collectReliability service.observability db service.manager.state rates).2 }

def step (service : Service) : Event Value → Option Service
  | .called policy invocation => some { service with manager := service.manager.call policy invocation }
  | .collected db rates => some (service.collect db rates)

/-- The names of the manager are those of its circuits, and only circuits have been reported. -/
structure Listed (service : Service) : Prop where
  names : ∀ name, name ∈ service.manager.names ↔ (service.manager.world.states name).isSome
  nodup : service.manager.names.Nodup
  reported : ∀ name, (service.observability.circuitOpen name).isSome → name ∈ service.manager.names

end Reports

/-! A pass over the circuits. -/

section Passes

theorem setCircuits_apply {state : List (String × CircuitReport)} (nodup : (state.map Prod.fst).Nodup)
    (metric : Metric String) (name : String) : setCircuits metric state name =
      match state.lookup name with
      | some report => some (if report.openedUntil.isSome then 1 else 0)
      | none => metric name := by
  have shown := foldl_set_apply (fun report : CircuitReport => if report.openedUntil.isSome then 1 else 0) nodup metric name
  rw [setCircuits, shown]
  cases state.lookup name <;> rfl

/-- The items that the names of a table make, each under its name. -/
theorem lookup_filterMap {Value Item : Type} (find : String → Option Value) (item : Value → Item) (names : List String)
    (name : String) : (names.filterMap fun name => (find name).map fun value => (name, item value)).lookup name =
      if name ∈ names then (find name).map item else none := by
  induction names with
  | nil => rfl
  | cons first rest ih =>
    by_cases here : name = first
    · subst here
      rw [if_pos List.mem_cons_self]
      cases found : find name with
      | none =>
        rw [List.filterMap_cons_none (by rw [found]; rfl), ih, found]
        split <;> rfl
      | some value => rw [List.filterMap_cons_some (by rw [found]; rfl), List.lookup_cons_self]; rfl
    · have same : (name ∈ first :: rest) ↔ name ∈ rest := by simp [here]
      rw [if_congr same rfl rfl, ← ih]
      cases found : find first with
      | none => rw [List.filterMap_cons_none (by rw [found]; rfl)]
      | some value =>
        rw [List.filterMap_cons_some (by rw [found]; rfl), List.lookup_cons, beq_false_of_ne here]

theorem map_fst_filterMap {Value Item : Type} (find : String → Option Value) (item : Value → Item) (names : List String) :
    (names.filterMap fun name => (find name).map fun value => (name, item value)).map Prod.fst =
      names.filter fun name => (find name).isSome := by
  induction names with
  | nil => rfl
  | cons first rest ih =>
    cases found : find first with
    | none => rw [List.filterMap_cons_none (by rw [found]; rfl), ih, List.filter_cons_of_neg (by simp [found])]
    | some value =>
      rw [List.filterMap_cons_some (by rw [found]; rfl), List.map_cons, ih, List.filter_cons_of_pos (by simp [found])]

theorem nodup_state {manager : ResilienceManager} (nodup : manager.names.Nodup) : (manager.state.map Prod.fst).Nodup := by
  rw [ResilienceManager.state, map_fst_filterMap]
  exact ((List.perm_insertionSort _ manager.names).nodup_iff.2 nodup).filter _

theorem lookup_state (manager : ResilienceManager) (name : String) : manager.state.lookup name =
    if name ∈ manager.names then (manager.world.states name).map circuitReport else none := by
  rw [ResilienceManager.state, lookup_filterMap, if_congr (List.mem_insertionSort _) rfl rfl]

theorem mem_state {manager : ResilienceManager} {item : String × CircuitReport} : item ∈ manager.state ↔
    item.1 ∈ manager.names ∧ (manager.world.states item.1).map circuitReport = some item.2 := by
  rw [ResilienceManager.state, List.mem_filterMap]
  constructor
  · rintro ⟨name, member, made⟩
    obtain ⟨state, found, rfl⟩ := Option.map_eq_some_iff.1 made
    exact ⟨(List.mem_insertionSort _).1 member, by rw [found]; rfl⟩
  · intro ⟨member, found⟩
    obtain ⟨state, known, report⟩ := Option.map_eq_some_iff.1 found
    exact ⟨item.1, (List.mem_insertionSort _).2 member, by rw [known, ← Prod.eta item, ← report]; rfl⟩

end Passes

section Runs
variable [FloatData] [GroupOrder] {Value : Type}

/-! The runs of the service. -/

omit [GroupOrder] in
/-- A call leaves a circuit under its own name, and no other name changes. -/
theorem isSome_call (policy : ResiliencePolicy) (invocation : Invocation Value) (world : World) (name : String) :
    ((Resilience.call policy invocation world).2.states name).isSome ↔ name = policy.name ∨ (world.states name).isSome := by
  have updated : ∃ state, (Resilience.call policy invocation world).2.states =
      Function.update world.states policy.name (some state) := by
    rw [Resilience.call]
    dsimp only
    split
    · exact ⟨_, rfl⟩
    · split <;> exact ⟨_, rfl⟩
  obtain ⟨state, same⟩ := updated
  rw [same]
  by_cases here : name = policy.name
  · rw [here, Function.update_self]
    exact iff_of_true rfl (Or.inl rfl)
  · rw [Function.update_of_ne here, or_iff_right here]

theorem listed_step {service next : Service} {event : Event Value} (listed : Listed service)
    (taken : step service event = some next) : Listed next := by
  cases event with
  | called policy invocation =>
    cases taken
    have names : ∀ name, name ∈ (service.manager.call policy invocation).names ↔
        name = policy.name ∨ name ∈ service.manager.names := by
      intro name
      rw [ResilienceManager.call]
      dsimp only
      split
      next known =>
        constructor
        · exact Or.inr
        · rintro (rfl | member)
          · exact known
          · exact member
      next => rw [List.mem_append, List.mem_singleton, or_comm]
    refine ⟨?_, ?_, ?_⟩
    · intro name
      rw [names, listed.names, ResilienceManager.call]
      exact (isSome_call policy invocation service.manager.world name).symm
    · rw [ResilienceManager.call]
      dsimp only
      split
      next => exact listed.nodup
      next fresh => exact List.Nodup.append listed.nodup (List.nodup_singleton _) (by simpa using fresh)
    · intro name reported
      exact (names name).2 (Or.inr (listed.reported name reported))
  | collected db rates =>
    cases taken
    refine ⟨listed.names, listed.nodup, ?_⟩
    intro name reported
    have shown : (service.collect db rates).observability.circuitOpen name =
        setCircuits service.observability.circuitOpen service.manager.state name := rfl
    rw [shown, setCircuits_apply (nodup_state listed.nodup), lookup_state] at reported
    by_cases member : name ∈ service.manager.names
    · exact member
    · rw [if_neg member] at reported
      exact listed.reported name reported

theorem listed_run {service : Service} {events : List (Event Value)}
    (ran : Runs.run step Service.initial events = some service) : Listed service := by
  refine Runs.run_invariant Listed (fun _ _ _ => listed_step) ?_ ran
  exact ⟨fun name => by simp [Service.initial, ResilienceManager.initial, World.initial], List.nodup_nil,
    fun name reported => by simp [Service.initial, Observability.initial] at reported⟩

/-! What a call meets. -/

omit [GroupOrder] in
theorem attempts_not_refused (policy : ResiliencePolicy) (invocation : Invocation Value) (left attempt : Nat)
    (last : Option Failure) (until' : Rat) : (attempts policy invocation left attempt last).ending ≠ .refused until' := by
  induction left generalizing attempt last with
  | zero => cases last <;> simp [attempts]
  | succ left ih =>
    rw [attempts]
    split
    · simp
    · split
      · simp
      · split
        · simp
        · exact ih _ _

omit [GroupOrder] in
/-- A call is refused exactly while its circuit is open. -/
theorem refused_iff (policy : ResiliencePolicy) (invocation : Invocation Value) (world : World) :
    (∃ until', (Resilience.call policy invocation world).1.ending = .refused until') ↔
      ∃ until' ∈ (world.states policy.name).bind CircuitState.openedUntil, invocation.start < until' := by
  have opened : ((world.states policy.name).getD {}).openedUntil = (world.states policy.name).bind CircuitState.openedUntil := by
    cases world.states policy.name <;> rfl
  rw [← opened]
  constructor
  · rintro ⟨until', refused⟩
    by_contra through
    rw [Resilience.call] at refused
    dsimp only at refused
    rw [Breaker.filter_of_through through] at refused
    have never := attempts_not_refused policy invocation (attemptLimit policy) 1 none until'
    dsimp only at refused
    split at refused <;> exact never refused
  · rintro ⟨until', known, ahead⟩
    exact ⟨until', by rw [Breaker.call_of_open known ahead]⟩

/-! The reports. -/

def reportsOpen (alerts : List Alert) (name : String) : Prop :=
  ∃ alert ∈ alerts, alert.kind = "circuit_open" ∧ ∃ report, alert.details = .circuit name report

omit [FloatData] in
theorem gauge_open_iff {service : Service} (listed : Listed service) (db : Database) (rates : RateLimitState)
    (name : String) : (service.collect db rates).observability.circuitOpen name = some 1 ↔
      ((service.manager.world.states name).bind CircuitState.openedUntil).isSome := by
  have shown : (service.collect db rates).observability.circuitOpen name =
      setCircuits service.observability.circuitOpen service.manager.state name := rfl
  rw [shown, setCircuits_apply (nodup_state listed.nodup), lookup_state]
  by_cases member : name ∈ service.manager.names
  · obtain ⟨state, known⟩ := Option.isSome_iff_exists.1 ((listed.names name).1 member)
    rw [if_pos member, known]
    cases opened : state.openedUntil <;> simp [circuitReport, opened]
  · have unknown : service.manager.world.states name = none :=
      Option.not_isSome_iff_eq_none.1 fun known => member ((listed.names name).2 known)
    have unreported : service.observability.circuitOpen name = none :=
      Option.not_isSome_iff_eq_none.1 fun known => member (listed.reported name known)
    rw [if_neg member, unknown]
    simp [unreported]

omit [FloatData] [GroupOrder] in
/-- The other alerts are of no circuit. -/
theorem mem_circuitAlerts {db : Database} {readiness : Readiness} {state : List (String × CircuitReport)} {alert : Alert}
    {name : String} {report : CircuitReport} (details : alert.details = .circuit name report) :
    alert ∈ reliabilityAlerts db readiness state ↔ ∃ item ∈ state, circuitAlert item = some alert := by
  rw [reliabilityAlerts, List.mem_append, List.mem_filterMap, or_iff_right_iff_imp]
  have counted : ∀ severity kind text count, countAlert severity kind text count ≠ some alert := by
    intro severity kind text count made
    rw [countAlert] at made
    split at made <;> cases made
    cases details
  intro other
  rw [List.reduceOption_mem_iff] at other
  simp only [List.mem_cons, List.not_mem_nil, or_false, Ne.symm (counted _ _ _ _)] at other
  split at other <;> cases other
  cases details

omit [FloatData] [GroupOrder] in
theorem alert_open_iff {service : Service} (listed : Listed service) (db : Database) (readiness : Readiness)
    (name : String) : reportsOpen (reliabilityAlerts db readiness service.manager.state) name ↔
      ((service.manager.world.states name).bind CircuitState.openedUntil).isSome := by
  constructor
  · rintro ⟨alert, member, _, report, details⟩
    obtain ⟨item, known, made⟩ := (mem_circuitAlerts details).1 member
    obtain ⟨_, found⟩ := mem_state.1 known
    rw [circuitAlert] at made
    split at made
    next opened =>
      cases made
      obtain ⟨rfl, rfl⟩ := AlertDetails.circuit.inj details
      obtain ⟨state, there, same⟩ := Option.map_eq_some_iff.1 found
      rw [there]
      rw [← same] at opened
      exact opened
    next => cases made
  · intro opened
    obtain ⟨until', known⟩ := Option.isSome_iff_exists.1 opened
    obtain ⟨state, there, time⟩ := Option.bind_eq_some_iff.1 known
    have item : (name, circuitReport state) ∈ service.manager.state :=
      mem_state.2 ⟨(listed.names name).2 (by rw [there]; rfl), by rw [there]; rfl⟩
    have made : circuitAlert (name, circuitReport state) =
        some ⟨"critical", "circuit_open", "circuit " ++ name ++ " is open", .circuit name (circuitReport state)⟩ :=
      if_pos (by rw [circuitReport, time]; rfl)
    exact ⟨_, (mem_circuitAlerts rfl).2 ⟨_, item, made⟩, rfl, _, rfl⟩

/-- In every reachable state and at every time, both reports tell whether a call would be refused exactly when the
circuit is not one whose time is over and that no call has cleared since. -/
theorem circuit_reports_iff {service : Service} {events : List (Event Value)}
    (ran : Runs.run step Service.initial events = some service) (policy : ResiliencePolicy)
    (invocation : Invocation Value) (db : Database) (rates : RateLimitState) (readiness : Readiness) :
    (((service.collect db rates).observability.circuitOpen policy.name = some 1 ↔
        ∃ until', (Resilience.call policy invocation service.manager.world).1.ending = .refused until') ∧
      (reportsOpen (reliabilityAlerts db readiness service.manager.state) policy.name ↔
        ∃ until', (Resilience.call policy invocation service.manager.world).1.ending = .refused until')) ↔
    ¬∃ until' ∈ (service.manager.world.states policy.name).bind CircuitState.openedUntil, until' ≤ invocation.start := by
  have listed := listed_run ran
  rw [gauge_open_iff listed, alert_open_iff listed, and_self_iff, refused_iff]
  cases (service.manager.world.states policy.name).bind CircuitState.openedUntil with
  | none => simp
  | some until' => simp

end Runs

section Demo
attribute [local instance] FloatData.decimal GroupOrder.inserted

private def mcp : ResiliencePolicy := { name := "mcp.call", maxAttempts := 1, failureThreshold := 1 }

private def begun (time : Rat) : Invocation Unit :=
  ⟨.call, time, time + 1, fun _ => .error ⟨.transport, "connection refused"⟩, fun _ => 0⟩

/-- One failed call at the time 0, after which the circuit is open until the time 31. -/
private def tripped : Service :=
  { Service.initial with manager := Service.initial.manager.call mcp (begun 0) }

private theorem tripped_run :
    Runs.run step Service.initial [Event.called mcp (begun 0)] = some tripped := rfl

private theorem tripped_open :
    (tripped.manager.world.states "mcp.call").bind CircuitState.openedUntil = some 31 := by decide +kernel

theorem circuit_reports_tripped :
    ((tripped.collect {} {}).observability.circuitOpen mcp.name = some 1 ↔
      ∃ until', (Resilience.call mcp (begun 10) tripped.manager.world).1.ending = .refused until') ∧
    (reportsOpen (reliabilityAlerts {} ⟨true, .null⟩ tripped.manager.state) mcp.name ↔
      ∃ until', (Resilience.call mcp (begun 10) tripped.manager.world).1.ending = .refused until') := by
  refine (circuit_reports_iff tripped_run mcp (begun 10) {} {} ⟨true, .null⟩).2 ?_
  intro ⟨until', known, ended⟩
  have time : until' = 31 := (Option.some.inj (tripped_open.symm.trans known)).symm
  rw [time] at ended
  exact absurd ended (by norm_num [begun])

/-- At the time 100 nothing has come since, and both reports say that the circuit is open, yet a call goes through. -/
theorem circuit_reports_stale :
    Runs.run step Service.initial [Event.called mcp (begun 0)] = some tripped ∧
      (tripped.collect {} {}).observability.circuitOpen "mcp.call" = some 1 ∧
      reportsOpen (reliabilityAlerts {} ⟨true, .null⟩ tripped.manager.state) "mcp.call" ∧
      ¬∃ until', (Resilience.call mcp (begun 100) tripped.manager.world).1.ending = .refused until' := by
  have listed := listed_run tripped_run
  have opened : ((tripped.manager.world.states "mcp.call").bind CircuitState.openedUntil).isSome := by
    rw [tripped_open]
    rfl
  refine ⟨tripped_run, (gauge_open_iff listed {} {} _).2 opened, (alert_open_iff listed {} _ _).2 opened, ?_⟩
  rw [refused_iff]
  rintro ⟨until', known, ahead⟩
  have time : until' = 31 := (Option.some.inj (tripped_open.symm.trans known)).symm
  rw [time] at ahead
  exact absurd ahead (by norm_num [begun])

end Demo

end SoulClaw.Infra.CircuitReports
