import SoulClaw.Infra.Resilience
import Mathlib.Data.List.Dedup
import Mathlib.Data.List.ReduceOption
import Mathlib.Data.List.Sort

/-! What is reported of the reliability of the service: the gauges that `collect_reliability` sets, which keep what
they have been set to, and the alerts. -/

namespace SoulClaw.Infra.Metrics
open Foundation Resilience

/-! Metrics. -/

/-- The value under each combination of labels that has been used. -/
abbrev Metric (Labels : Type) := Labels → Option Int

section Metric
variable {Labels : Type} [DecidableEq Labels]

def Metric.set (metric : Metric Labels) (labels : Labels) (value : Int) : Metric Labels :=
  Function.update metric labels (some value)

def Metric.inc (metric : Metric Labels) (labels : Labels) (amount : Int) : Metric Labels :=
  Function.update metric labels (some ((metric labels).getD 0 + amount))

/-- A loop that sets the metric for each entry of a dictionary. -/
theorem foldl_set_apply {Value : Type} (value : Value → Int) {items : List (Labels × Value)}
    (nodup : (items.map Prod.fst).Nodup) (metric : Metric Labels) (labels : Labels) :
    items.foldl (fun metric item => metric.set item.1 (value item.2)) metric labels =
      match items.lookup labels with
      | some entry => some (value entry)
      | none => metric labels := by
  induction items generalizing metric with
  | nil => rfl
  | cons item rest ih =>
    obtain ⟨first, entry⟩ := item
    rw [List.map_cons, List.nodup_cons] at nodup
    rw [List.foldl_cons, ih nodup.2, List.lookup_cons]
    by_cases here : labels = first
    · subst here
      have absent : rest.lookup labels = none := by
        rw [List.lookup_eq_none_iff]
        intro other member
        rw [bne_iff_ne]
        intro same
        exact nodup.1 (List.mem_map.2 ⟨other, member, same.symm⟩)
      rw [absent, beq_self_eq_true]
      exact Function.update_self ..
    · rw [beq_false_of_ne here]
      cases rest.lookup labels with
      | some later => rfl
      | none => exact Function.update_of_ne here ..

end Metric

/-! The rows that are counted. -/

/-- The statuses of the rows of three tables, and the backoffs of the cron jobs. -/
structure Database where
  jobs : List String := []
  outbox : List String := []
  idempotency : List String := []
  backoffUntil : List (Option Rat) := []
  deriving DecidableEq, Repr

/-- The three kinds of rows that are counted by status. -/
inductive Kind where
  | jobs
  | outbox
  | idempotency
  deriving DecidableEq, Repr

def Database.rows (db : Database) : Kind → List String
  | .jobs => db.jobs
  | .outbox => db.outbox
  | .idempotency => db.idempotency

/-- The order in which a query returns its groups. -/
class GroupOrder where
  arrange : List String → List String
  arrange_perm : ∀ groups, (arrange groups).Perm groups

@[reducible] def GroupOrder.inserted : GroupOrder := ⟨id, fun _ => List.Perm.refl _⟩

/-- `status or "unknown"`. -/
def statusLabel (status : String) : String := if status = "" then "unknown" else status

/-- A dictionary of counts. -/
abbrev Counts := List (String × Nat)

/-- A known key keeps its place. -/
def Counts.set : Counts → String → Nat → Counts
  | [], label, count => [(label, count)]
  | (known, old) :: rest, label, count =>
      if known = label then (known, count) :: rest else (known, old) :: Counts.set rest label count

section Queries
variable [GroupOrder]

/-- `_status_counts`: a query returns the groups that have rows. -/
def statusCounts (rows : List String) : Counts :=
  (GroupOrder.arrange rows.dedup).foldl (fun counts status => counts.set (statusLabel status) (rows.count status)) []

end Queries

def cronBackoff (db : Database) : Nat := db.backoffUntil.countP Option.isSome

/-! Circuits. -/

/-- What `state` tells of a circuit. -/
structure CircuitReport where
  failures : Nat
  openedUntil : Option Rat
  lastError : String
  deriving DecidableEq, Repr

def circuitReport (state : CircuitState) : CircuitReport := ⟨state.failures, state.openedUntil, state.lastError⟩

/-- `ResilienceManager`: the circuits, with their names in the order of their first calls. -/
structure ResilienceManager where
  world : World
  names : List String

def ResilienceManager.initial : ResilienceManager := ⟨World.initial, []⟩

def ResilienceManager.state (manager : ResilienceManager) : List (String × CircuitReport) :=
  (manager.names.insertionSort (· ≤ ·)).filterMap fun name =>
    (manager.world.states name).map fun state => (name, circuitReport state)

section Manager
variable [FloatData] {Value : Type}

/-- The manager after a call. -/
def ResilienceManager.call (manager : ResilienceManager) (policy : ResiliencePolicy) (invocation : Invocation Value) :
    ResilienceManager where
  world := (Resilience.call policy invocation manager.world).2
  names := if policy.name ∈ manager.names then manager.names else manager.names ++ [policy.name]

end Manager

/-! `collect_reliability`. -/

structure RateLimitState where
  hits : List (String × Int) := []
  blocked : List (String × Int) := []

structure Observability where
  jobs : Metric String
  outbox : Metric String
  idempotency : Metric String
  cronBackoff : Int
  circuitOpen : Metric String
  rateLimitHits : Metric (String × String)

def Observability.initial : Observability := ⟨fun _ => none, fun _ => none, fun _ => none, 0, fun _ => none, fun _ => none⟩

def Observability.gauge (observability : Observability) : Kind → Metric String
  | .jobs => observability.jobs
  | .outbox => observability.outbox
  | .idempotency => observability.idempotency

/-- What `collect_reliability` returns. -/
structure Collected where
  jobs : Counts
  outbox : Counts
  idempotency : Counts
  cronBackoff : Nat
  deriving DecidableEq, Repr

def setCounts (metric : Metric String) (counts : Counts) : Metric String :=
  counts.foldl (fun metric item => metric.set item.1 item.2) metric

def setCircuits (metric : Metric String) (state : List (String × CircuitReport)) : Metric String :=
  state.foldl (fun metric item => metric.set item.1 (if item.2.openedUntil.isSome then 1 else 0)) metric

/-- A counter that is raised by nothing appears all the same. -/
def touchHits (rates : RateLimitState) (metric : Metric (String × String)) : Metric (String × String) :=
  rates.hits.foldl (fun metric item =>
    let blocked := (rates.blocked.lookup item.1).getD 0
    let allowed := max 0 (item.2 - blocked)
    let metric := if allowed ≠ 0 then metric.inc (item.1, "allowed") 0 else metric
    if blocked ≠ 0 then metric.inc (item.1, "blocked") 0 else metric) metric

section Collect
variable [GroupOrder]

def collected (db : Database) : Collected where
  jobs := statusCounts db.jobs
  outbox := statusCounts db.outbox
  idempotency := statusCounts db.idempotency
  cronBackoff := cronBackoff db

def collectReliability (observability : Observability) (db : Database) (state : List (String × CircuitReport))
    (rates : RateLimitState) : Collected × Observability :=
  (collected db,
    { jobs := setCounts observability.jobs (statusCounts db.jobs)
      outbox := setCounts observability.outbox (statusCounts db.outbox)
      idempotency := setCounts observability.idempotency (statusCounts db.idempotency)
      cronBackoff := cronBackoff db
      circuitOpen := setCircuits observability.circuitOpen state
      rateLimitHits := touchHits rates observability.rateLimitHits })

end Collect

/-! `reliability_alerts`. -/

structure Readiness where
  ok : Bool
  checks : Json

/-- The fields that an alert has besides its message. -/
inductive AlertDetails where
  | checks (details : Json)
  | count (count : Nat)
  | circuit (name : String) (details : CircuitReport)
  deriving DecidableEq

structure Alert where
  severity : String
  kind : String
  message : String
  details : AlertDetails
  deriving DecidableEq

def countAlert (severity kind text : String) (count : Nat) : Option Alert :=
  if count = 0 then none else some ⟨severity, kind, toString count ++ text, .count count⟩

def circuitAlert (item : String × CircuitReport) : Option Alert :=
  if item.2.openedUntil.isSome then
    some ⟨"critical", "circuit_open", "circuit " ++ item.1 ++ " is open", .circuit item.1 item.2⟩
  else none

/-- `reliability_alerts`, whose `resilience_state` is in the order of the names. -/
def reliabilityAlerts (db : Database) (readiness : Readiness) (state : List (String × CircuitReport)) : List Alert :=
  [if readiness.ok then none else some ⟨"critical", "readiness", "readiness check failed", .checks readiness.checks⟩,
    countAlert "critical" "dead_letter" " background jobs are in dead letter" (db.jobs.count "dead_letter"),
    countAlert "warning" "outbox_backlog" " outbox messages await dispatch"
      (db.outbox.countP fun status => status ∈ ["pending", "retrying"]),
    countAlert "warning" "cron_backoff" " cron jobs are in backoff" (cronBackoff db)].reduceOption ++
  state.filterMap circuitAlert

end SoulClaw.Infra.Metrics
