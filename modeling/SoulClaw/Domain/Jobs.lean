import SoulClaw.Foundation.Table
import SoulClaw.Foundation.Text

/-! The background job repository and queue facade: the job, outbox and idempotency rows
and every operation that writes them. An operation takes the committed rows and returns
the rows its transaction leaves behind, or the exception it raises. -/

namespace SoulClaw.Domain.Jobs
open Foundation

/-- Seconds on the clock that the processes share. -/
abbrev Time := Nat

inductive JobStatus where
  | queued
  | running
  | retrying
  | succeeded
  | failed
  | deadLetter
  | cancelled
  deriving DecidableEq, Repr

def JobStatus.name : JobStatus → String
  | queued => "queued"
  | running => "running"
  | retrying => "retrying"
  | succeeded => "succeeded"
  | failed => "failed"
  | deadLetter => "dead_letter"
  | cancelled => "cancelled"

def terminalJobStatuses : List JobStatus := [.succeeded, .failed, .deadLetter, .cancelled]

def retryableJobStatuses : List JobStatus := [.queued, .retrying]

abbrev JobStatus.Terminal (status : JobStatus) : Prop := status ∈ terminalJobStatuses

structure BackgroundJob where
  taskName : String
  queueId : String := ""
  status : JobStatus := .queued
  idempotencyKey : String := ""
  payload : Dict := []
  result : Json := .obj []
  error : String := ""
  triggeredBy : String := ""
  cronJobId : String := ""
  attemptCount : Nat := 0
  maxAttempts : Nat := 3
  nextRetryAt : Option Time := none
  lockedAt : Option Time := none
  lockOwner : String := ""
  deadLetterReason : String := ""
  startedAt : Option Time := none
  finishedAt : Option Time := none
  deriving DecidableEq, Repr

inductive OutboxStatus where
  | pending
  | retrying
  | dispatched
  | deadLetter
  deriving DecidableEq, Repr

structure DispatchPayload where
  taskName : String
  jobId : Nat
  payload : Dict
  queueId : String
  deriving DecidableEq, Repr

structure OutboxMessage where
  topic : String := "celery.dispatch"
  aggregateId : Nat
  idempotencyKey : String
  status : OutboxStatus := .pending
  payload : DispatchPayload
  attemptCount : Nat := 0
  maxAttempts : Nat := 5
  nextAttemptAt : Option Time := none
  lastError : String := ""
  dispatchedAt : Option Time := none
  deriving DecidableEq, Repr

inductive IdempotencyStatus where
  | processing
  | succeeded
  | failed
  deriving DecidableEq, Repr

structure IdempotencyRecord where
  scope : String
  idempotencyKey : String
  requestHash : String := ""
  status : IdempotencyStatus := .processing
  response : Json := .obj []
  deriving DecidableEq, Repr

structure Db where
  jobs : Table BackgroundJob
  outbox : Table OutboxMessage
  idempotency : Table IdempotencyRecord
  deriving DecidableEq, Repr

def Db.empty : Db := ⟨.empty, .empty, .empty⟩

def Db.setJob (db : Db) (id : Nat) (job : BackgroundJob) : Db :=
  { db with jobs := db.jobs.set id job }

def Db.setOutbox (db : Db) (id : Nat) (message : OutboxMessage) : Db :=
  { db with outbox := db.outbox.set id message }

/-- `_get`. -/
def getJob (db : Db) (id : Nat) : Except PyException BackgroundJob :=
  match db.jobs.get? id with
  | some job => .ok job
  | none => .error ⟨.keyError, "background job not found: " ++ toString id⟩

def retryDelaySeconds (attemptCount : Nat) : Nat := min 300 (2 ^ min (max 1 attemptCount) 8)

def jobToResponse (id : Nat) (job : BackgroundJob) : Json :=
  .obj [("job_id", .str (toString id)), ("task_name", .str job.taskName),
    ("queue_id", .str job.queueId), ("status", .str job.status.name),
    ("result", job.result), ("error", .str job.error)]

/-! What each operation writes into the job row. -/

namespace BackgroundJob

def enqueued (queueId : String) (job : BackgroundJob) : BackgroundJob :=
  { job with queueId := queueId, status := .queued }

def started (now : Time) (lockOwner : String) (job : BackgroundJob) : BackgroundJob :=
  { job with
    status := .running
    attemptCount := job.attemptCount + 1
    startedAt := some now
    finishedAt := none
    error := ""
    lockedAt := some now
    lockOwner := lockOwner }

def succeeded (now : Time) (result : Json) (job : BackgroundJob) : BackgroundJob :=
  { job with
    status := .succeeded
    result := result
    finishedAt := some now
    nextRetryAt := none
    deadLetterReason := ""
    lockedAt := none
    lockOwner := "" }

def failed (now : Time) (error : String) (job : BackgroundJob) : BackgroundJob :=
  { job with
    status := .failed, error := error, finishedAt := some now, lockedAt := none, lockOwner := "" }

def retrying (now : Time) (error : String) (job : BackgroundJob) : BackgroundJob :=
  { job with
    status := .retrying
    error := error
    nextRetryAt := some (now + retryDelaySeconds job.attemptCount)
    lockedAt := none
    lockOwner := "" }

def deadLettered (now : Time) (error : String) (job : BackgroundJob) : BackgroundJob :=
  { job with
    status := .deadLetter
    error := error
    deadLetterReason := error
    finishedAt := some now
    nextRetryAt := none
    lockedAt := none
    lockOwner := "" }

def cancelled (now : Time) (job : BackgroundJob) : BackgroundJob :=
  { job with
    status := .cancelled, finishedAt := some now, lockedAt := none, lockOwner := "" }

end BackgroundJob

/-! Idempotency records. -/

def findIdempotency (db : Db) (scope key : String) : Option Nat :=
  db.idempotency.find? fun record => record.scope = scope ∧ record.idempotencyKey = key

def completeIdempotency (db : Db) (scope key : String) (response : Json)
    (status : IdempotencyStatus) : Db :=
  if key = "" then db
  else
    match findIdempotency db scope key with
    | some id =>
        match db.idempotency.get? id with
        | some record => { db with
            idempotency := db.idempotency.set id
              { record with status := status, response := response } }
        | none => db
    | none => { db with
        idempotency := db.idempotency.insert
          { scope := scope, idempotencyKey := key, status := status, response := response } }

structure IdempotencyVerdict where
  replayed : Bool
  conflict : Bool
  deriving DecidableEq, Repr

def idempotencyStatus (db : Db) (scope key requestHash : String) : Db × IdempotencyVerdict :=
  if key = "" then (db, ⟨false, false⟩)
  else
    match (findIdempotency db scope key).bind db.idempotency.get? with
    | none =>
        ({ db with
          idempotency := db.idempotency.insert
            { scope := scope, idempotencyKey := key, requestHash := requestHash } },
          ⟨false, false⟩)
    | some record =>
        if record.requestHash ≠ "" ∧ requestHash ≠ "" ∧ record.requestHash ≠ requestHash then
          (db, ⟨false, true⟩)
        else (db, ⟨record.status = .succeeded ∨ record.status = .failed, false⟩)

/-! The service operations on one job. -/

def markEnqueued (db : Db) (id : Nat) (queueId : String) : Except PyException Db := do
  let job ← getJob db id
  return db.setJob id (job.enqueued queueId)

def markStarted (db : Db) (id : Nat) (now : Time) (lockOwner : String) :
    Except PyException Db := do
  let job ← getJob db id
  if job.status.Terminal then return db
  return db.setJob id (job.started now lockOwner)

def markSucceeded (db : Db) (id : Nat) (now : Time) (result : Json) : Except PyException Db := do
  let job ← getJob db id
  let job := job.succeeded now result
  return completeIdempotency (db.setJob id job) "background_job" job.idempotencyKey
    (jobToResponse id job) .succeeded

def markFailed (db : Db) (id : Nat) (now : Time) (error : String) : Except PyException Db := do
  let job ← getJob db id
  return db.setJob id (job.failed now error)

def markRetrying (db : Db) (id : Nat) (now : Time) (error : String) : Except PyException Db := do
  let job ← getJob db id
  return db.setJob id (job.retrying now error)

def markDeadLetter (db : Db) (id : Nat) (now : Time) (error : String) :
    Except PyException Db := do
  let job ← getJob db id
  let job := job.deadLettered now error
  return completeIdempotency (db.setJob id job) "background_job" job.idempotencyKey
    (jobToResponse id job) .failed

def shouldRun (job : BackgroundJob) (now : Time) : Bool :=
  if job.status ∈ terminalJobStatuses ∨ job.status = .running then false
  else
    match job.nextRetryAt with
    | some due => due ≤ now
    | none => true

def cancel (db : Db) (id : Nat) (now : Time) : Except PyException Db := do
  let job ← getJob db id
  if job.status ∉ [.queued, .retrying, .running] then
    throw ⟨.valueError, "job is not cancellable: " ++ job.status.name⟩
  return db.setJob id (job.cancelled now)

/-- The bounds that the selects put on a caller's limit. -/
def clampLimit (limit : Nat) : Nat := max 1 (min limit 500)

/-- The `where` clauses of `ready_for_retry`. -/
def readyCondition (now : Time) (job : BackgroundJob) : Bool :=
  job.status = .retrying ∧ job.nextRetryAt.all (· ≤ now)

/-- `next_retry_at` ascending with nulls first; the sort is stable, so rows that are due at
the same time keep the order of their creation. -/
def retryOrder (db : Db) (first second : Nat) : Prop :=
  ((db.jobs.get? first).bind (·.nextRetryAt)).elim True fun due =>
    ((db.jobs.get? second).bind (·.nextRetryAt)).elim False fun other => due ≤ other

instance (db : Db) : DecidableRel (retryOrder db) := fun first second => by
  unfold retryOrder
  cases (db.jobs.get? first).bind (·.nextRetryAt) <;>
    cases (db.jobs.get? second).bind (·.nextRetryAt) <;> simp only [Option.elim] <;> infer_instance

def readyForRetry (db : Db) (now : Time) (limit : Nat) : List Nat :=
  ((db.jobs.select (readyCondition now)).insertionSort (retryOrder db)).take (clampLimit limit)

/-! The transactional outbox. -/

def keyBase (id : Nat) (job : BackgroundJob) : String :=
  if job.idempotencyKey = "" then "job:" ++ toString id else job.idempotencyKey

def dispatchKey (id : Nat) (job : BackgroundJob) (reason : String) : String :=
  "dispatch:" ++ keyBase id job ++ ":" ++ reason ++ ":" ++ toString job.attemptCount

def findOutbox (db : Db) (key : String) : Option Nat :=
  db.outbox.find? fun message => message.idempotencyKey = key

def createOutbox (db : Db) (id : Nat) (job : BackgroundJob) (queueId key : String) : Db × Nat :=
  match findOutbox db key with
  | some existing => (db, existing)
  | none =>
      ({ db with
        outbox := db.outbox.insert
          { aggregateId := id
            idempotencyKey := key
            payload := ⟨job.taskName, id, job.payload, queueId⟩ } },
        db.outbox.size)

/-- The dispatch itself happens after the commit, in a transaction of its own. -/
def scheduleDispatch (db : Db) (id : Nat) (reason queueId : String) :
    Except PyException (Db × Nat) := do
  let db ← markEnqueued db id queueId
  let job ← getJob db id
  return createOutbox db id job queueId (dispatchKey id job reason)

def rescheduleJob (db : Db) (id : Nat) (reason queueId : String) :
    Except PyException (Db × Nat) := do
  let job ← getJob db id
  if job.status ∉ retryableJobStatuses then
    throw ⟨.valueError, "job is not retryable: " ++ job.status.name⟩
  scheduleDispatch db id reason queueId

def taskNames : List String :=
  ["dream_review", "wiki_compile", "wiki_lint", "wiki_repair", "skill_scan", "mcp_refresh",
    "heartbeat_check"]

/-- `refused` is the error with which the broker turns the message down, if it does. -/
def dispatchTask (taskName : String) (refused : Option String) : Except String Unit :=
  if taskName ∉ taskNames then .error ("unsupported background task: " ++ taskName)
  else
    match refused with
    | some error => .error error
    | none => .ok ()

/-- The rows after the attempt, and the job that the broker now holds a delivery of or the
error that is raised again. -/
def dispatchOutboxMessage (db : Db) (id : Nat) (message : OutboxMessage) (now : Time)
    (refused : Option String) : Db × Except String Nat :=
  if message.topic ≠ "celery.dispatch" then
    (db, .error ("unsupported outbox topic: " ++ message.topic))
  else
    let message := { message with attemptCount := message.attemptCount + 1 }
    match dispatchTask message.payload.taskName refused with
    | .error error =>
        if message.attemptCount ≥ message.maxAttempts then
          let db := db.setOutbox id
            { message with lastError := error, status := .deadLetter, dispatchedAt := some now }
          match markDeadLetter db message.aggregateId now error with
          | .ok db => (db, .error error)
          | .error _ => (db, .error error)
        else
          (db.setOutbox id
            { message with
              lastError := error
              status := .retrying
              nextAttemptAt := some (now + retryDelaySeconds message.attemptCount) },
            .error error)
    | .ok () =>
        (db.setOutbox id
          { message with
            status := .dispatched, lastError := "", nextAttemptAt := none, dispatchedAt := some now },
          .ok message.payload.jobId)

def outboxDue (now : Time) (message : OutboxMessage) : Bool :=
  (message.status = .pending ∨ message.status = .retrying) ∧ message.nextAttemptAt.all (· ≤ now)

structure DispatchReport where
  dispatched : Nat := 0
  failed : Nat := 0
  deadLetter : Nat := 0
  deriving DecidableEq, Repr

/-- The rows so far, the deliveries that the broker accepted and the counts. -/
structure Dispatched where
  db : Db
  accepted : List Nat := []
  report : DispatchReport := {}
  deriving DecidableEq, Repr

def dispatchOne (now : Time) (broker : Nat → Option String) (progress : Dispatched) (id : Nat) :
    Dispatched :=
  match progress.db.outbox.get? id with
  | none => progress
  | some message =>
      let (db, outcome) := dispatchOutboxMessage progress.db id message now (broker id)
      match outcome with
      | .ok job =>
          ⟨db, progress.accepted ++ [job],
            { progress.report with dispatched := progress.report.dispatched + 1 }⟩
      | .error _ =>
          let dead := ((db.outbox.get? id).map (·.status)) = some .deadLetter
          ⟨db, progress.accepted,
            { progress.report with
              failed := progress.report.failed + 1
              deadLetter := progress.report.deadLetter + if dead then 1 else 0 }⟩

def dispatchOutbox (db : Db) (now : Time) (broker : Nat → Option String) (limit : Nat) :
    Dispatched :=
  ((db.outbox.select (outboxDue now)).take (clampLimit limit)).foldl (dispatchOne now broker) ⟨db, [], {}⟩

/-! Creation and enqueueing. -/

structure EnqueueRequest where
  taskName : String
  payload : Dict := []
  triggeredBy : String := ""
  cronJobId : String := ""
  idempotencyKey : String := ""
  maxAttempts : Int := 3
  /-- The `uuid4` that the dispatch draws. -/
  queueId : String := ""
  deriving DecidableEq, Repr

section Enqueue
variable (sha256 : String → String)

def stableHash (payload : Json) : String := sha256 payload.sortKeys.dumps

def requestPayload (request : EnqueueRequest) : Json :=
  .obj [("task_name", .str request.taskName), ("payload", .obj request.payload),
    ("triggered_by", .str request.triggeredBy), ("cron_job_id", .str request.cronJobId)]

def jobIdempotencyKey (request : EnqueueRequest) : String :=
  "job:" ++ request.taskName ++ ":" ++ stableHash sha256 (requestPayload request)

def findJob (db : Db) (key : String) : Option Nat :=
  db.jobs.find? fun job => job.idempotencyKey = key

/-- `max(1, int(max_attempts or 3))`. -/
def attemptBound (maxAttempts : Int) : Nat :=
  (max 1 (if maxAttempts = 0 then 3 else maxAttempts)).toNat

def create (db : Db) (request : EnqueueRequest) (key : String) : Db × Nat :=
  let insertNew : Db × Nat :=
    ({ db with
      jobs := db.jobs.insert
        { taskName := request.taskName
          payload := request.payload
          triggeredBy := request.triggeredBy
          cronJobId := request.cronJobId
          status := .queued
          idempotencyKey := key
          maxAttempts := attemptBound request.maxAttempts } },
      db.jobs.size)
  if key = "" then insertNew
  else
    match findJob db key with
    | some existing => (db, existing)
    | none => insertNew

/-- The key a request is enqueued under. -/
def requestKey (request : EnqueueRequest) : String :=
  if request.idempotencyKey = "" then jobIdempotencyKey sha256 request else request.idempotencyKey

def enqueueBackgroundJob (db : Db) (request : EnqueueRequest) : Except PyException (Db × Nat) := do
  let key := requestKey sha256 request
  let (db, verdict) :=
    idempotencyStatus db "background_job" key (stableHash sha256 (requestPayload request))
  if verdict.conflict then
    throw ⟨.valueError, "idempotency key reused with different payload: " ++ key⟩
  match findJob db key with
  | some existing => return (db, existing)
  | none =>
      let (db, id) := create db request key
      let (db, _) ← scheduleDispatch db id "enqueue" request.queueId
      return (db, id)

end Enqueue

end SoulClaw.Domain.Jobs
