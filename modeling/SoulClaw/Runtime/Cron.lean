import SoulClaw.Foundation.Calendar
import SoulClaw.Foundation.JsonText
import SoulClaw.Worker.Queue

/-! The cron scheduler. Its table holds the schedules; a tick hands the due ones to the background queue, and the
control plane changes them in between. -/

namespace SoulClaw.Runtime.Cron
open Foundation Domain.Jobs Worker

/-- `croniter` and `ZoneInfo`. A time is an instant, in whatever zone it is given. -/
structure Croniter where
  Zone : Type
  zoneInfo : String → Except PyException Zone
  isValid : String → Bool
  /-- `croniter(cron_expr, base.astimezone(zone)).get_next(datetime)`. -/
  getNext : String → Zone → Time → Except PyException Time

structure CronJob where
  name : String
  cronExpr : String
  timezone : String := "Asia/Hong_Kong"
  instruction : String := ""
  enabled : Bool := true
  lastRunAt : Option Time := none
  nextRunAt : Option Time := none
  backoffUntil : Option Time := none
  lastStatus : String := "never_run"
  lastResult : Dict := []
  runCount : Nat := 0
  failureCount : Nat := 0
  lastEnqueueKey : String := ""
  metadata : Dict := []
  deriving DecidableEq, Repr

/-- What the events of `_run_job` tell of one run of a cron job: the job as it was, and the background job or the
error. `jobsBefore` counts the background jobs before the run. -/
structure Firing where
  cron : Nat
  name : String
  metadata : Dict
  time : Time
  outcome : Except PyException Nat
  jobsBefore : Nat
  deriving DecidableEq, Repr

structure Rows where
  db : Db
  crons : Table CronJob
  firings : List Firing
  deriving DecidableEq, Repr

/-! What a run writes into the row. -/

def cronBackoffSeconds (failureCount : Nat) : Nat := min 900 (2 ^ min (max 1 failureCount) 10)

namespace CronJob

def succeeded (key : String) (result : Dict) (job : CronJob) : CronJob :=
  { job with lastStatus := "succeeded", lastResult := result, backoffUntil := none, lastEnqueueKey := key }

def failed (now : Time) (error : String) (job : CronJob) : CronJob :=
  { job with
    lastStatus := "failed"
    failureCount := job.failureCount + 1
    lastResult := [("error", .str error)]
    backoffUntil := some (now + cronBackoffSeconds (job.failureCount + 1)) }

def finished (now next : Time) (job : CronJob) : CronJob :=
  { job with lastRunAt := some now, runCount := job.runCount + 1, nextRunAt := some next }

end CronJob

/-! The select of `tick`. -/

def dueCondition (now : Time) (job : CronJob) : Bool :=
  job.enabled ∧ job.nextRunAt.all (· ≤ now) ∧ job.backoffUntil.all (· ≤ now)

/-- `next_run_at` ascending with nulls first, then the name. -/
def dueOrder (first second : CronJob) : Bool :=
  match first.nextRunAt, second.nextRunAt with
  | none, none => first.name ≤ second.name
  | none, some _ => true
  | some _, none => false
  | some due, some other => due < other ∨ due = other ∧ first.name ≤ second.name

def dueJobs (crons : Table CronJob) (now : Time) (limit : Nat) : List Nat :=
  ((crons.select (dueCondition now)).insertionSort fun first second =>
    (crons.get? first).any fun job => (crons.get? second).any (dueOrder job)).take limit

def findCron (crons : Table CronJob) (name : String) : Option Nat := crons.find? fun job => job.name = name

section Scheduler
variable (croniter : Croniter)

def computeNextRun (cronExpr timezone : String) (base : Time) : Except PyException Time := do
  let zone ← croniter.zoneInfo timezone
  croniter.getNext cronExpr zone base

/-! The control plane. -/

structure CronArguments where
  name : String
  cronExpr : String
  timezone : String := "Asia/Hong_Kong"
  instruction : String := ""
  enabled : Bool := true
  metadata : Dict := []
  deriving DecidableEq, Repr

def invalidExpression : PyException := ⟨.valueError, "invalid cron expression"⟩

/-- `compute_next_run(cron_expr, timezone) if enabled else None`. -/
def firstRun (arguments : CronArguments) (now : Time) : Except PyException (Option Time) :=
  if arguments.enabled then some <$> computeNextRun croniter arguments.cronExpr arguments.timezone now
  else return none

def upsertCronJob (crons : Table CronJob) (arguments : CronArguments) (now : Time) :
    Except PyException (Table CronJob) := do
  if !croniter.isValid arguments.cronExpr then throw invalidExpression
  let next ← firstRun croniter arguments now
  let write (job : CronJob) : CronJob :=
    { job with
      cronExpr := arguments.cronExpr
      timezone := arguments.timezone
      instruction := arguments.instruction
      enabled := arguments.enabled
      metadata := arguments.metadata
      nextRunAt := next }
  match findCron crons arguments.name with
  | some id => return crons.modify id write
  | none => return crons.insert (write { name := arguments.name, cronExpr := arguments.cronExpr })

/-- The caller catches what is raised and commits the rows as they are then. -/
def ensureSystemCronJob (crons : Table CronJob) (arguments : CronArguments) (now : Time) : Table CronJob :=
  if !croniter.isValid arguments.cronExpr then crons
  else
    let next := computeNextRun croniter arguments.cronExpr arguments.timezone now
    let describe (job : CronJob) : CronJob :=
      { job with
        cronExpr := arguments.cronExpr
        timezone := arguments.timezone
        instruction := arguments.instruction
        metadata := arguments.metadata }
    match findCron crons arguments.name with
    | none =>
        let added : CronJob := { name := arguments.name, cronExpr := arguments.cronExpr, enabled := arguments.enabled }
        if arguments.enabled then
          match next with
          | .error _ => crons.insert added
          | .ok next => crons.insert { describe added with nextRunAt := some next }
        else crons.insert (describe added)
    | some id => crons.modify id fun job =>
        if job.enabled ∧ ((job.cronExpr ≠ arguments.cronExpr ∨ job.timezone ≠ arguments.timezone) ∨
            job.nextRunAt = none) then
          match next with
          | .error _ => describe job
          | .ok next => { describe job with nextRunAt := some next }
        else describe job

def scheduleOne (now : Time) (crons : Table CronJob) (id : Nat) : Except PyException (Table CronJob) :=
  match crons.get? id with
  | none => return crons
  | some job => do
      let next ← computeNextRun croniter job.cronExpr job.timezone now
      return crons.set id { job with nextRunAt := some next }

def scheduleMissing (crons : Table CronJob) (now : Time) : Except PyException (Table CronJob) :=
  (crons.select fun job => job.enabled ∧ job.nextRunAt = none).foldlM (scheduleOne croniter now) crons

/-! The tick. -/

variable (sha256 : String → String)

/-- `now.replace(second=0, microsecond=0).isoformat()`. -/
def window (now : Time) : String := String.ofList (Calendar.isoformat (now - now % 60) 0)

def keyPayload (cron : Nat) (name : String) (metadata : Dict) (now : Time) : Json :=
  .obj [("cron_job_id", .str (toString cron)), ("name", .str name), ("window", .str (window now)),
    ("metadata", .obj metadata)]

def cronEnqueueKey (cron : Nat) (name : String) (metadata : Dict) (now : Time) : String :=
  "cron:" ++ name ++ ":" ++ sha256 (keyPayload cron name metadata now).sortKeys.dumps

def isDreamReviewJob (job : CronJob) : Bool := job.metadata.get "system_task" = .str "dream_review"

def isHeartbeatJob (job : CronJob) : Bool := job.metadata.get "system_task" = .str "heartbeat"

section Run
variable [CharData] [NumberData]

/-- The task and the payload; `int` raises on what it cannot convert. -/
def cronTask (job : CronJob) : Except PyException (String × Dict) :=
  if isDreamReviewJob job then do
    let windowHours ← ((job.metadata.get "window_hours").or (.int 24)).toInt
    let limit ← ((job.metadata.get "limit").or (.int 50)).toInt
    return ("dream_review", [("window_hours", .int windowHours), ("limit", .int limit)])
  else if isHeartbeatJob job then return ("heartbeat_check", [])
  else return (((job.metadata.get "task_name").or (.str "dream_review")).toStr, (job.metadata.get "payload").dict)

def enqueueCron (db : Db) (cron : Nat) (job : CronJob) (now : Time) (queueIds : Nat → String) :
    Except PyException (Db × Nat) := do
  let (taskName, payload) ← cronTask job
  enqueueBackgroundJob sha256 db
    { taskName := taskName
      payload := payload
      triggeredBy := "cron:" ++ job.name
      cronJobId := toString cron
      idempotencyKey := cronEnqueueKey sha256 cron job.name job.metadata now
      queueId := queueIds db.jobs.size }

/-- A task of the system is named as such, another one after the background job. -/
def enqueuedTask (db : Db) (job : CronJob) (background : Nat) : String :=
  if isDreamReviewJob job then "dream_review"
  else if isHeartbeatJob job then "heartbeat_check"
  else ((db.jobs.get? background).map (·.taskName)).getD ""

def resultPayload (db : Db) (job : CronJob) (background : Nat) : Dict :=
  [("mode", .str "enqueue"), ("task_name", .str (enqueuedTask db job background)),
    ("job_id", .str (toString background))]

/-- The background rows and the row of the cron job behind the `try` statement. -/
def settled (db : Db) (cron : Nat) (job : CronJob) (now : Time) (queueIds : Nat → String) : Db × CronJob :=
  match enqueueCron sha256 db cron job now queueIds with
  | .ok (after, background) =>
      (after, job.succeeded (cronEnqueueKey sha256 cron job.name job.metadata now) (resultPayload after job background))
  | .error error => (db, job.failed now error.str)

def firing (db : Db) (cron : Nat) (job : CronJob) (now : Time) (queueIds : Nat → String) : Firing where
  cron := cron
  name := job.name
  metadata := job.metadata
  time := now
  outcome := (·.2) <$> enqueueCron sha256 db cron job now queueIds
  jobsBefore := db.jobs.size

/-- What the next time cannot be computed for raises out of the `finally` clause. -/
def runJob (now : Time) (queueIds : Nat → String) (rows : Rows) (cron : Nat) : Except PyException Rows :=
  match rows.crons.get? cron with
  | none => return rows
  | some job => do
      let (db, written) := settled sha256 rows.db cron job now queueIds
      let next ← computeNextRun croniter job.cronExpr job.timezone now
      return {
        db := db
        crons := rows.crons.set cron (written.finished now next)
        firings := rows.firings ++ [firing sha256 rows.db cron job now queueIds] }

/-- The rows that the tick commits. -/
def tickRows (rows : Rows) (now : Time) (broker : Nat → Option String) (queueIds : Nat → String) (limit : Nat) :
    Except PyException Rows := do
  let db ← Queue.dispatchRetryableJobs rows.db (dispatchOutbox rows.db now broker 100).db now queueIds
  (dueJobs rows.crons now limit).foldlM (runJob croniter sha256 now queueIds) { rows with db := db }

/-! The scheduler, the control plane and the queue as one system. -/

structure State where
  queue : Queue.State
  crons : Table CronJob
  firings : List Firing
  deriving DecidableEq, Repr

def State.initial : State := ⟨.initial, .empty, []⟩

def State.rows (state : State) : Rows := ⟨state.queue.db, state.crons, state.firings⟩

inductive Action where
  /-- Any step of the queue but a tick. -/
  | queue (action : Queue.Action)
  | upsertCronJob (arguments : CronArguments)
  | ensureSystemCronJob (arguments : CronArguments)
  | scheduleMissing
  | tick (broker : Nat → Option String) (queueIds : Nat → String) (limit : Nat)

def step (state : State) : Action → Option State
  | .queue (.tick _ _ _) => none
  | .queue action => (Queue.step sha256 state.queue action).map fun queue => { state with queue := queue }
  | .upsertCronJob arguments =>
      some { state with
        crons := (upsertCronJob croniter state.crons arguments state.queue.now).toOption.getD state.crons }
  | .ensureSystemCronJob arguments =>
      some { state with crons := ensureSystemCronJob croniter state.crons arguments state.queue.now }
  | .scheduleMissing =>
      some { state with crons := (scheduleMissing croniter state.crons state.queue.now).toOption.getD state.crons }
  | .tick broker queueIds limit =>
      let rows := (tickRows croniter sha256 state.rows state.queue.now broker queueIds limit).toOption.getD state.rows
      -- What was handed to the broker stays there when the rows are rolled back.
      let accepted := (dispatchOutbox state.queue.db state.queue.now broker 100).accepted
      some {
        queue := { state.queue with
          db := rows.db
          deliveries := Queue.deliver state.queue.deliveries accepted }
        crons := rows.crons
        firings := rows.firings }

abbrev run := Runs.run (step croniter sha256)

variable {croniter sha256}

/-- A step of the queue leaves the schedules alone. -/
theorem queue_step {state next : State} {action : Queue.Action}
    (taken : step croniter sha256 state (.queue action) = some next) :
    (∀ broker queueIds requests, action ≠ .tick broker queueIds requests) ∧
      ∃ queue, Queue.step sha256 state.queue action = some queue ∧ next = { state with queue := queue } := by
  have mapped : ∀ other : Queue.Action, step croniter sha256 state (.queue other) =
      (Queue.step sha256 state.queue other).map (fun queue => { state with queue := queue }) →
        step croniter sha256 state (.queue other) = some next →
          ∃ queue, Queue.step sha256 state.queue other = some queue ∧ next = { state with queue := queue } := by
    intro other same taken
    obtain ⟨queue, done, rfl⟩ := Option.map_eq_some_iff.1 (same ▸ taken)
    exact ⟨queue, done, rfl⟩
  cases action with
  | tick broker queueIds requests => cases taken
  | _ => exact ⟨fun _ _ _ => Queue.Action.noConfusion, mapped _ rfl taken⟩

/-- What a run leaves behind: the rows of its `try` statement, and itself as the latest firing. -/
theorem runJob_cases {now : Time} {queueIds : Nat → String} {rows after : Rows} {cron : Nat}
    (ran : runJob croniter sha256 now queueIds rows cron = .ok after) :
    rows.crons.get? cron = none ∧ after = rows ∨
      ∃ job next, rows.crons.get? cron = some job ∧
        after = ⟨(settled sha256 rows.db cron job now queueIds).1,
          rows.crons.set cron ((settled sha256 rows.db cron job now queueIds).2.finished now next),
          rows.firings ++ [firing sha256 rows.db cron job now queueIds]⟩ := by
  rw [runJob] at ran
  cases found : rows.crons.get? cron with
  | none =>
    rw [found] at ran
    cases ran
    exact .inl ⟨rfl, rfl⟩
  | some job =>
    rw [found] at ran
    dsimp only at ran
    cases computed : computeNextRun croniter job.cronExpr job.timezone now with
    | error error =>
      rw [computed] at ran
      cases ran
    | ok next =>
      rw [computed] at ran
      cases ran
      exact .inr ⟨job, next, rfl, rfl⟩

theorem tickRows_invariant {rows after : Rows} {now : Time} {broker : Nat → Option String} {queueIds : Nat → String}
    {limit : Nat} (invariant : Rows → Prop)
    (dispatched : ∀ db, Queue.dispatchRetryableJobs rows.db (dispatchOutbox rows.db now broker 100).db now queueIds =
      .ok db → invariant { rows with db := db })
    (preserved : ∀ before cron next, invariant before → runJob croniter sha256 now queueIds before cron = .ok next →
      invariant next)
    (ran : tickRows croniter sha256 rows now broker queueIds limit = .ok after) : invariant after := by
  rw [tickRows] at ran
  cases retried : Queue.dispatchRetryableJobs rows.db (dispatchOutbox rows.db now broker 100).db now queueIds with
  | error error =>
    rw [retried] at ran
    cases ran
  | ok db =>
    rw [retried] at ran
    exact Runs.foldlM_invariant invariant preserved (dispatched db retried) ran

end Run
end Scheduler

end SoulClaw.Runtime.Cron
