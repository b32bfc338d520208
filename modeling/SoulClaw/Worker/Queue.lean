import SoulClaw.Foundation.Runs
import SoulClaw.Domain.Jobs

/-! The background queue as one system: the database rows, the deliveries that the broker
holds or workers have taken, and the clock. Every transaction is one step, except that a
worker's start can also be split into its read and its commit. -/

namespace SoulClaw.Worker.Queue
open Foundation Domain.Jobs

/-- How far the handling of one delivery by `_run_job` has come. -/
inductive Phase where
  | waiting
  /-- The start transaction has read the job row and passed `should_run`. -/
  | loaded (row : BackgroundJob)
  /-- The start transaction has committed and `fn` executes with the captured attempt. -/
  | running (attempt maxAttempts : Nat)
  | finished (attempt : Option Nat)
  | crashed (attempt : Nat)
  deriving DecidableEq, Repr

structure Delivery where
  job : Nat
  phase : Phase := .waiting
  deriving DecidableEq, Repr

structure State where
  now : Time
  db : Db
  deliveries : Table Delivery
  deriving DecidableEq, Repr

def State.initial : State := ⟨0, .empty, .empty⟩

def deliver (deliveries : Table Delivery) (accepted : List Nat) : Table Delivery :=
  accepted.foldl (fun table job => table.insert ⟨job, .waiting⟩) deliveries

/-! The transactions of `_run_job`. -/

/-- `int(job.max_attempts or 3)`. -/
def capturedBound (row : BackgroundJob) : Nat := if row.maxAttempts = 0 then 3 else row.maxAttempts

/-- The attempt and its bound when the run starts, `none` when it is skipped. -/
def startRun (db : Db) (job : Nat) (now : Time) (lockOwner : String) :
    Except PyException (Db × Option (Nat × Nat)) := do
  let row ← getJob db job
  if !shouldRun row now then return (db, none)
  let db ← markStarted db job now lockOwner
  let row ← getJob db job
  return (db, some (row.attemptCount, capturedBound row))

/-- The columns that the flush writes when the start was computed on the row `loaded`:
those whose value the start changed. -/
def writeStart (loaded row : BackgroundJob) (now : Time) (lockOwner : String) : BackgroundJob :=
  { row with
    status := .running
    attemptCount := loaded.attemptCount + 1
    startedAt := some now
    finishedAt := if loaded.finishedAt = none then row.finishedAt else none
    error := if loaded.error = "" then row.error else ""
    lockedAt := some now
    lockOwner := lockOwner }

def failRun (db : Db) (job : Nat) (now : Time) (attempt maxAttempts : Nat) (error : String) :
    Except PyException Db :=
  if attempt ≥ maxAttempts then markDeadLetter db job now error else markRetrying db job now error

/-! The transaction of `CronScheduler.tick`. -/

def rescheduleReady (queueIds : Nat → String) (db : Db) (id : Nat) : Except PyException Db := do
  let job ← getJob db id
  let (db, _) ← rescheduleJob db id ("retry:" ++ toString job.attemptCount) (queueIds id)
  return db

/-- The session does not flush before it queries, so the rows to retry are selected from
the rows that were committed before the tick. -/
def dispatchRetryableJobs (committed db : Db) (now : Time) (queueIds : Nat → String) :
    Except PyException Db :=
  (readyForRetry committed now 100).foldlM (rescheduleReady queueIds) db

section System
variable (sha256 : String → String)

/-- A due cron job whose enqueue raises is recorded as failed and does not end the tick. -/
def enqueueDue (db : Db) (requests : List EnqueueRequest) : Db :=
  requests.foldl (fun db request =>
    match enqueueBackgroundJob sha256 db request with
    | .ok (db, _) => db
    | .error _ => db) db

/-- The rows after the tick and the deliveries that the broker accepted during it. An
exception rolls the rows back, but what was handed to the broker stays there. -/
def tick (db : Db) (now : Time) (broker : Nat → Option String) (queueIds : Nat → String)
    (requests : List EnqueueRequest) : Db × List Nat :=
  let dispatched := dispatchOutbox db now broker 100
  match dispatchRetryableJobs db dispatched.db now queueIds with
  | .ok rescheduled => (enqueueDue sha256 rescheduled requests, dispatched.accepted)
  | .error _ => (db, dispatched.accepted)

inductive Action where
  | enqueue (request : EnqueueRequest)
  | cancel (job : Nat)
  /-- `replay_outbox` after the commit of `committed` new outbox rows. -/
  | replayOutbox (broker : Nat → Option String) (committed : Nat)
  | tick (broker : Nat → Option String) (queueIds : Nat → String) (requests : List EnqueueRequest)
  /-- The broker delivers a job once more. -/
  | redeliver (job : Nat)
  | start (delivery : Nat) (lockOwner : String)
  | load (delivery : Nat)
  | commitStart (delivery : Nat) (lockOwner : String)
  | succeed (delivery : Nat) (result : Json)
  | fail (delivery : Nat) (error : String)
  | crash (delivery : Nat)
  | advance (seconds : Nat)

/-- Whole transactions only: no start that is split into its read and its commit. -/
def Action.atomic : Action → Bool
  | load _ | commitStart _ _ => false
  | _ => true

def settle (state : State) (id job : Nat) (phase : Phase) (outcome : Except PyException Db) : State :=
  { state with
    db := outcome.toOption.getD state.db
    deliveries := state.deliveries.set id ⟨job, phase⟩ }

def step (state : State) : Action → Option State
  | .enqueue request =>
      match enqueueBackgroundJob sha256 state.db request with
      | .ok (db, _) => some { state with db := db }
      | .error _ => some state
  | .cancel job =>
      match Domain.Jobs.cancel state.db job state.now with
      | .ok db => some { state with db := db }
      | .error _ => some state
  | .replayOutbox broker committed =>
      let dispatched := dispatchOutbox state.db state.now broker (max 100 committed)
      some { state with
        db := dispatched.db
        deliveries := deliver state.deliveries dispatched.accepted }
  | .tick broker queueIds requests =>
      let (db, accepted) := tick sha256 state.db state.now broker queueIds requests
      some { state with db := db, deliveries := deliver state.deliveries accepted }
  | .redeliver job =>
      if job < state.db.jobs.size then
        some { state with deliveries := state.deliveries.insert ⟨job, .waiting⟩ }
      else none
  | .start id lockOwner =>
      match state.deliveries.get? id with
      | some ⟨job, .waiting⟩ =>
          match startRun state.db job state.now lockOwner with
          | .ok (db, some (attempt, maxAttempts)) =>
              some (settle state id job (.running attempt maxAttempts) (.ok db))
          | .ok (db, none) => some (settle state id job (.finished none) (.ok db))
          | .error error => some (settle state id job (.finished none) (.error error))
      | _ => none
  | .load id =>
      match state.deliveries.get? id with
      | some ⟨job, .waiting⟩ =>
          match state.db.jobs.get? job with
          | some row =>
              if shouldRun row state.now then some (settle state id job (.loaded row) (.ok state.db))
              else some (settle state id job (.finished none) (.ok state.db))
          | none => some (settle state id job (.finished none) (.ok state.db))
      | _ => none
  | .commitStart id lockOwner =>
      match state.deliveries.get? id with
      | some ⟨job, .loaded loaded⟩ =>
          match state.db.jobs.get? job with
          | some row =>
              some (settle state id job (.running (loaded.attemptCount + 1) (capturedBound loaded))
                (.ok (state.db.setJob job (writeStart loaded row state.now lockOwner))))
          | none => none
      | _ => none
  | .succeed id result =>
      match state.deliveries.get? id with
      | some ⟨job, .running attempt _⟩ =>
          some (settle state id job (.finished (some attempt))
            (markSucceeded state.db job state.now result))
      | _ => none
  | .fail id error =>
      match state.deliveries.get? id with
      | some ⟨job, .running attempt maxAttempts⟩ =>
          some (settle state id job (.finished (some attempt))
            (failRun state.db job state.now attempt maxAttempts error))
      | _ => none
  | .crash id =>
      match state.deliveries.get? id with
      | some ⟨job, .running attempt _⟩ =>
          some { state with deliveries := state.deliveries.set id ⟨job, .crashed attempt⟩ }
      | _ => none
  | .advance seconds => some { state with now := state.now + seconds }

abbrev run := Runs.run (step sha256)

/-- What an action can leave in the rows: the rows from before, or those of its transaction. -/
inductive Written (state : State) : Action → Db → Prop
  | quiet {action : Action} : Written state action state.db
  | enqueue {request : EnqueueRequest} {result : Db × Nat}
      (done : enqueueBackgroundJob sha256 state.db request = .ok result) : Written state (.enqueue request) result.1
  | cancel {job : Nat} {db : Db} (done : Domain.Jobs.cancel state.db job state.now = .ok db) :
      Written state (.cancel job) db
  | replayOutbox {broker : Nat → Option String} {committed : Nat} :
      Written state (.replayOutbox broker committed) (dispatchOutbox state.db state.now broker (max 100 committed)).db
  | tick {broker : Nat → Option String} {queueIds : Nat → String} {requests : List EnqueueRequest} :
      Written state (.tick broker queueIds requests) (tick sha256 state.db state.now broker queueIds requests).1
  | start {id job : Nat} {lockOwner : String} {db : Db} {attempt : Option (Nat × Nat)}
      (done : startRun state.db job state.now lockOwner = .ok (db, attempt)) : Written state (.start id lockOwner) db
  | commitStart {id job : Nat} {lockOwner : String} {loaded row : BackgroundJob}
      (found : state.db.jobs.get? job = some row) :
      Written state (.commitStart id lockOwner) (state.db.setJob job (writeStart loaded row state.now lockOwner))
  | succeed {id job attempt bound : Nat} {result : Json} {db : Db}
      (delivered : state.deliveries.get? id = some ⟨job, .running attempt bound⟩)
      (done : markSucceeded state.db job state.now result = .ok db) : Written state (.succeed id result) db
  | fail {id job attempt bound : Nat} {error : String} {db : Db}
      (delivered : state.deliveries.get? id = some ⟨job, .running attempt bound⟩)
      (done : failRun state.db job state.now attempt bound error = .ok db) : Written state (.fail id error) db

variable {sha256}

theorem written_settle {state : State} {action : Action} {id job : Nat} {phase : Phase}
    {outcome : Except PyException Db} (written : ∀ db, outcome = .ok db → Written sha256 state action db) :
    Written sha256 state action (settle state id job phase outcome).db := by
  cases outcome with
  | error _ => exact .quiet
  | ok db => exact written db rfl

theorem step_written {state next : State} {action : Action} (taken : step sha256 state action = some next) :
    Written sha256 state action next.db := by
  cases action with
  | enqueue request =>
    rw [step] at taken
    split at taken
    next done =>
      cases taken
      exact .enqueue done
    next =>
      cases taken
      exact .quiet
  | cancel job =>
    rw [step] at taken
    split at taken
    next done =>
      cases taken
      exact .cancel done
    next =>
      cases taken
      exact .quiet
  | replayOutbox broker committed =>
    cases taken
    exact .replayOutbox
  | tick broker queueIds requests =>
    cases taken
    exact .tick
  | redeliver job =>
    rw [step] at taken
    split at taken
    · cases taken
      exact .quiet
    · cases taken
  | start id lockOwner =>
    rw [step] at taken
    split at taken
    next job delivered =>
      split at taken
      next done =>
        cases taken
        exact .start done
      next done =>
        cases taken
        exact .start done
      next =>
        cases taken
        exact .quiet
    next => cases taken
  | load id =>
    rw [step] at taken
    split at taken
    next job delivered =>
      split at taken
      · split at taken <;> cases taken <;> exact .quiet
      · cases taken
        exact .quiet
    next => cases taken
  | commitStart id lockOwner =>
    rw [step] at taken
    split at taken
    next job loaded delivered =>
      split at taken
      next row found =>
        cases taken
        exact .commitStart found
      next => cases taken
    next => cases taken
  | succeed id result =>
    rw [step] at taken
    split at taken
    next job attempt bound delivered =>
      cases taken
      exact written_settle fun _ done => .succeed delivered done
    next => cases taken
  | fail id error =>
    rw [step] at taken
    split at taken
    next job attempt bound delivered =>
      cases taken
      exact written_settle fun _ done => .fail delivered done
    next => cases taken
  | crash id =>
    rw [step] at taken
    split at taken
    · cases taken
      exact .quiet
    · cases taken
  | advance seconds =>
    cases taken
    exact .quiet

end System

/-- A request under a key of its own, with the digest of its payload. -/
def nightlyCompile : EnqueueRequest :=
  { taskName := "wiki_compile", idempotencyKey := "nightly", queueId := "q-1" }

def nightlyDigest (_payload : String) : String :=
  "3021d41bd5991b3bde0657e49d93032fa2310a9a24770309fb444a414291d08b"

end SoulClaw.Worker.Queue
