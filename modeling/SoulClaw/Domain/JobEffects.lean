import SoulClaw.Domain.Jobs

/-! What the operations of the job repository leave of the job and the outbox rows. These
are the only facts about them that the results on the queue use. -/

namespace SoulClaw.Domain.Jobs
open Foundation

theorem getJob_of_some {db : Db} {id : Nat} {job : BackgroundJob}
    (found : db.jobs.get? id = some job) : getJob db id = .ok job := by
  rw [getJob, found]

theorem getJob_of_none {db : Db} {id : Nat} (missing : db.jobs.get? id = none) :
    ∃ error, getJob db id = .error error := by
  rw [getJob, missing]
  exact ⟨_, rfl⟩

theorem getJob_bind {Result : Type} {db : Db} {id : Nat} {body : BackgroundJob → Except PyException Result}
    {result : Result} (done : getJob db id >>= body = .ok result) :
    ∃ job, db.jobs.get? id = some job ∧ body job = .ok result := by
  cases found : db.jobs.get? id with
  | none =>
    obtain ⟨error, failed⟩ := getJob_of_none found
    rw [failed] at done
    cases done
  | some job =>
    rw [getJob_of_some found] at done
    exact ⟨job, rfl, done⟩

@[simp] theorem completeIdempotency_jobs (db : Db) (scope key : String) (response : Json)
    (status : IdempotencyStatus) :
    (completeIdempotency db scope key response status).jobs = db.jobs := by
  unfold completeIdempotency
  repeat' split
  all_goals rfl

@[simp] theorem completeIdempotency_outbox (db : Db) (scope key : String) (response : Json)
    (status : IdempotencyStatus) :
    (completeIdempotency db scope key response status).outbox = db.outbox := by
  unfold completeIdempotency
  repeat' split
  all_goals rfl

@[simp] theorem idempotencyStatus_jobs (db : Db) (scope key requestHash : String) :
    (idempotencyStatus db scope key requestHash).1.jobs = db.jobs := by
  unfold idempotencyStatus
  repeat' split
  all_goals rfl

@[simp] theorem idempotencyStatus_outbox (db : Db) (scope key requestHash : String) :
    (idempotencyStatus db scope key requestHash).1.outbox = db.outbox := by
  unfold idempotencyStatus
  repeat' split
  all_goals rfl

/-- The rows when the transaction has committed or has been rolled back. -/
def settled (before : Db) (outcome : Except PyException Db) : Db := outcome.toOption.getD before

/-- The transaction changed row `id` as `write` says, and no other job and no outbox row. -/
structure WritesJob (before : Db) (id : Nat) (write : BackgroundJob → BackgroundJob)
    (outcome : Except PyException Db) : Prop where
  jobs : (settled before outcome).jobs = before.jobs.modify id write
  outbox : (settled before outcome).outbox = before.outbox

private theorem writesJob_of_get {before : Db} {id : Nat} {write : BackgroundJob → BackgroundJob}
    {commit : BackgroundJob → Db} (jobs : ∀ job, (commit job).jobs = before.jobs.set id (write job))
    (outbox : ∀ job, (commit job).outbox = before.outbox) :
    WritesJob before id write (do let job ← getJob before id; return commit job) := by
  cases found : before.jobs.get? id with
  | none =>
    obtain ⟨error, failed⟩ := getJob_of_none found
    rw [failed]
    exact ⟨(Table.modify_of_none write found).symm, rfl⟩
  | some job =>
    rw [getJob_of_some found]
    exact ⟨(jobs job).trans (Table.modify_of_some write found).symm, outbox job⟩

theorem markSucceeded_writes (db : Db) (id : Nat) (now : Time) (result : Json) :
    WritesJob db id (·.succeeded now result) (markSucceeded db id now result) :=
  writesJob_of_get (fun _ => by simp [Db.setJob]) (fun _ => by simp [Db.setJob])

theorem markRetrying_writes (db : Db) (id : Nat) (now : Time) (error : String) :
    WritesJob db id (·.retrying now error) (markRetrying db id now error) :=
  writesJob_of_get (fun _ => rfl) (fun _ => rfl)

theorem markDeadLetter_writes (db : Db) (id : Nat) (now : Time) (error : String) :
    WritesJob db id (·.deadLettered now error) (markDeadLetter db id now error) :=
  writesJob_of_get (fun _ => by simp [Db.setJob]) (fun _ => by simp [Db.setJob])

theorem markStarted_eq {db : Db} {id : Nat} {job : BackgroundJob}
    (found : db.jobs.get? id = some job) (active : ¬job.status.Terminal) (now : Time)
    (lockOwner : String) :
    markStarted db id now lockOwner = .ok (db.setJob id (job.started now lockOwner)) := by
  unfold markStarted
  rw [getJob_of_some found]
  exact if_neg active

/-- A job that is not cancellable is left as it is. -/
theorem cancel_cases (db : Db) (id : Nat) (now : Time) :
    (∃ error, cancel db id now = .error error) ∨
    ∃ job, db.jobs.get? id = some job ∧ job.status ∈ [.queued, .retrying, .running] ∧
      cancel db id now = .ok (db.setJob id (job.cancelled now)) := by
  unfold cancel
  cases found : db.jobs.get? id with
  | none =>
    obtain ⟨error, failed⟩ := getJob_of_none found
    rw [failed]
    exact .inl ⟨error, rfl⟩
  | some job =>
    rw [getJob_of_some found]
    by_cases cancellable : job.status ∈ [.queued, .retrying, .running]
    · exact .inr ⟨job, rfl, cancellable, if_neg (not_not_intro cancellable)⟩
    · exact .inl ⟨_, if_pos cancellable⟩

def dispatchMessage (id : Nat) (job : BackgroundJob) (queueId key : String) : OutboxMessage :=
  { aggregateId := id
    idempotencyKey := key
    payload := ⟨job.taskName, id, job.payload, queueId⟩ }

/-- The outbox after a dispatch was asked for: it has a row with the key of `message`, and
that is a new row unless there was one before. -/
def Placed (before : Table OutboxMessage) (message : OutboxMessage)
    (after : Table OutboxMessage) : Prop :=
  (∃ id old, before.get? id = some old ∧ old.idempotencyKey = message.idempotencyKey ∧
    after = before) ∨
  ((∀ id old, before.get? id = some old → old.idempotencyKey ≠ message.idempotencyKey) ∧
    after = before.insert message)

theorem Placed.of_fresh {before after : Table OutboxMessage} {message : OutboxMessage}
    (placed : Placed before message after)
    (fresh : ∀ row old, before.get? row = some old → old.idempotencyKey ≠ message.idempotencyKey) :
    after = before.insert message := by
  rcases placed with ⟨row, old, known, same, _⟩ | ⟨_, inserted⟩
  · exact absurd same (fresh row old known)
  · exact inserted

theorem createOutbox_spec (db : Db) (id : Nat) (job : BackgroundJob) (queueId key : String) :
    ∃ after, (createOutbox db id job queueId key).1 = { db with outbox := after } ∧
      Placed db.outbox (dispatchMessage id job queueId key) after := by
  unfold createOutbox
  cases known : findOutbox db key with
  | some existing =>
    obtain ⟨old, found, same⟩ := Table.find?_eq_some known
    exact ⟨db.outbox, rfl, .inl ⟨existing, old, found, of_decide_eq_true same, rfl⟩⟩
  | none =>
    refine ⟨_, rfl, .inr ⟨fun id old found => ?_, rfl⟩⟩
    exact of_decide_eq_false (Table.find?_eq_none.1 known id old found)

theorem scheduleDispatch_spec {db : Db} {id : Nat} {job : BackgroundJob}
    (found : db.jobs.get? id = some job) (reason queueId : String) :
    ∃ after row, scheduleDispatch db id reason queueId =
        .ok ({ db with jobs := db.jobs.set id (job.enqueued queueId), outbox := after }, row) ∧
      Placed db.outbox (dispatchMessage id job queueId (dispatchKey id job reason)) after := by
  have marked : markEnqueued db id queueId = .ok (db.setJob id (job.enqueued queueId)) := by
    rw [markEnqueued, getJob_of_some found]
    rfl
  have reread : getJob (db.setJob id (job.enqueued queueId)) id = .ok (job.enqueued queueId) :=
    getJob_of_some (Table.get?_set_self _ found)
  obtain ⟨after, created, placed⟩ := createOutbox_spec (db.setJob id (job.enqueued queueId)) id
    (job.enqueued queueId) queueId (dispatchKey id job reason)
  refine ⟨after, (createOutbox (db.setJob id (job.enqueued queueId)) id
    (job.enqueued queueId) queueId (dispatchKey id job reason)).2, ?_, placed⟩
  rw [scheduleDispatch, marked]
  change (getJob _ id >>= _) = _
  rw [reread]
  exact congrArg Except.ok (Prod.ext created rfl)

theorem rescheduleJob_eq {db : Db} {id : Nat} {job : BackgroundJob}
    (found : db.jobs.get? id = some job) (retryable : job.status ∈ retryableJobStatuses)
    (reason queueId : String) :
    rescheduleJob db id reason queueId = scheduleDispatch db id reason queueId := by
  unfold rescheduleJob
  rw [getJob_of_some found]
  exact if_neg (not_not_intro retryable)

theorem rescheduleJob_refused {db : Db} {id : Nat} {job : BackgroundJob}
    (found : db.jobs.get? id = some job) (refused : job.status ∉ retryableJobStatuses)
    (reason queueId : String) : ∃ error, rescheduleJob db id reason queueId = .error error := by
  unfold rescheduleJob
  rw [getJob_of_some found]
  exact ⟨_, if_pos refused⟩

namespace OutboxMessage

def sent (now : Time) (message : OutboxMessage) : OutboxMessage :=
  { message with
    attemptCount := message.attemptCount + 1
    status := .dispatched
    lastError := ""
    nextAttemptAt := none
    dispatchedAt := some now }

def postponed (now : Time) (error : String) (message : OutboxMessage) : OutboxMessage :=
  { message with
    attemptCount := message.attemptCount + 1
    lastError := error
    status := .retrying
    nextAttemptAt := some (now + retryDelaySeconds (message.attemptCount + 1)) }

def buried (now : Time) (error : String) (message : OutboxMessage) : OutboxMessage :=
  { message with
    attemptCount := message.attemptCount + 1
    lastError := error
    status := .deadLetter
    dispatchedAt := some now }

end OutboxMessage

theorem dispatchOutboxMessage_topic (db : Db) (id : Nat) {message : OutboxMessage} (now : Time)
    (refused : Option String) (other : message.topic ≠ "celery.dispatch") :
    ∃ error, dispatchOutboxMessage db id message now refused = (db, .error error) :=
  ⟨_, if_pos other⟩

section Dispatch
variable (db : Db) (id : Nat) {message : OutboxMessage} (now : Time) {refused : Option String}
  (topic : message.topic = "celery.dispatch")
include topic

theorem dispatchOutboxMessage_sent (taken : dispatchTask message.payload.taskName refused = .ok ()) :
    dispatchOutboxMessage db id message now refused =
      (db.setOutbox id (message.sent now), .ok message.payload.jobId) := by
  rw [dispatchOutboxMessage, if_neg (not_not_intro topic)]
  simp only [taken]
  rfl

theorem dispatchOutboxMessage_postponed {error : String}
    (failed : dispatchTask message.payload.taskName refused = .error error)
    (left : message.attemptCount + 1 < message.maxAttempts) :
    dispatchOutboxMessage db id message now refused =
      (db.setOutbox id (message.postponed now error), .error error) := by
  rw [dispatchOutboxMessage, if_neg (not_not_intro topic)]
  simp only [failed]
  exact if_neg (Nat.not_le.2 left)

theorem dispatchOutboxMessage_buried {error : String}
    (failed : dispatchTask message.payload.taskName refused = .error error)
    (spent : message.maxAttempts ≤ message.attemptCount + 1) :
    ∃ after, dispatchOutboxMessage db id message now refused = (after, .error error) ∧
      after.outbox = db.outbox.set id (message.buried now error) ∧
      after.jobs = db.jobs.modify message.aggregateId (·.deadLettered now error) := by
  have writes := markDeadLetter_writes (db.setOutbox id (message.buried now error))
    message.aggregateId now error
  rw [dispatchOutboxMessage, if_neg (not_not_intro topic)]
  simp only [failed, ge_iff_le, if_pos spent]
  split
  next after outcome =>
    have writes : WritesJob _ _ _ (.ok after) := outcome ▸ writes
    exact ⟨after, rfl, writes.outbox, writes.jobs⟩
  next failure outcome =>
    have writes : WritesJob _ _ _ (.error failure) := outcome ▸ writes
    exact ⟨_, rfl, writes.outbox, writes.jobs⟩

end Dispatch

/-- What one message of a batch comes to: it is not dispatchable at all, handed to the
broker, put off or given up together with its job. -/
inductive Attempted (now : Time) (refused : Option String) (before : Dispatched) (id : Nat)
    (after : Dispatched) : Prop
  | idle (undispatchable : ∀ message, before.db.outbox.get? id = some message →
        message.topic ≠ "celery.dispatch")
      (same : after.db = before.db) (accepted : after.accepted = before.accepted)
  | sent (message : OutboxMessage) (found : before.db.outbox.get? id = some message)
      (taken : dispatchTask message.payload.taskName refused = .ok ())
      (outbox : after.db.outbox = before.db.outbox.set id (message.sent now))
      (jobs : after.db.jobs = before.db.jobs)
      (accepted : after.accepted = before.accepted ++ [message.payload.jobId])
  | postponed (message : OutboxMessage) (error : String)
      (found : before.db.outbox.get? id = some message)
      (failed : dispatchTask message.payload.taskName refused = .error error)
      (left : message.attemptCount + 1 < message.maxAttempts)
      (outbox : after.db.outbox = before.db.outbox.set id (message.postponed now error))
      (jobs : after.db.jobs = before.db.jobs) (accepted : after.accepted = before.accepted)
  | buried (message : OutboxMessage) (error : String)
      (found : before.db.outbox.get? id = some message) (topic : message.topic = "celery.dispatch")
      (failed : dispatchTask message.payload.taskName refused = .error error)
      (spent : message.maxAttempts ≤ message.attemptCount + 1)
      (outbox : after.db.outbox = before.db.outbox.set id (message.buried now error))
      (jobs : after.db.jobs =
        before.db.jobs.modify message.aggregateId (·.deadLettered now error))
      (accepted : after.accepted = before.accepted)

theorem dispatchOne_attempted (now : Time) (broker : Nat → Option String) (progress : Dispatched)
    (id : Nat) : Attempted now (broker id) progress id (dispatchOne now broker progress id) := by
  unfold dispatchOne
  cases found : progress.db.outbox.get? id with
  | none => exact .idle (fun _ absurd => by rw [found] at absurd; cases absurd) rfl rfl
  | some message =>
    dsimp only
    by_cases topic : message.topic = "celery.dispatch"
    · cases outcome : dispatchTask message.payload.taskName (broker id) with
      | ok _ =>
        rw [dispatchOutboxMessage_sent progress.db id now topic outcome]
        exact .sent message found outcome rfl rfl rfl
      | error error =>
        by_cases left : message.attemptCount + 1 < message.maxAttempts
        · rw [dispatchOutboxMessage_postponed progress.db id now topic outcome left]
          exact .postponed message error found outcome left rfl rfl rfl
        · obtain ⟨after, taken, outbox, jobs⟩ := dispatchOutboxMessage_buried progress.db id now topic
            outcome (Nat.not_lt.1 left)
          rw [taken]
          exact .buried message error found topic outcome (Nat.not_lt.1 left) outbox jobs rfl
    · obtain ⟨error, taken⟩ := dispatchOutboxMessage_topic progress.db id now (broker id) topic
      rw [taken]
      refine .idle (fun other known => ?_) rfl rfl
      rw [found] at known
      exact Option.some.inj known ▸ topic

theorem Attempted.outbox_ne {now : Time} {refused : Option String} {before after : Dispatched}
    {id other : Nat} (attempted : Attempted now refused before id after) (different : other ≠ id) :
    after.db.outbox.get? other = before.db.outbox.get? other := by
  cases attempted with
  | idle _ same _ => rw [same]
  | sent _ _ _ outbox _ _ => rw [outbox, Table.get?_set_ne _ _ different]
  | postponed _ _ _ _ _ outbox _ _ => rw [outbox, Table.get?_set_ne _ _ different]
  | buried _ _ _ _ _ _ outbox _ _ => rw [outbox, Table.get?_set_ne _ _ different]

/-- The messages of a batch. -/
def dueBatch (db : Db) (now : Time) (limit : Nat) : List Nat :=
  (db.outbox.select (outboxDue now)).take (clampLimit limit)

theorem dueBatch_nodup (db : Db) (now : Time) (limit : Nat) : (dueBatch db now limit).Nodup :=
  (Table.select_nodup _ _).sublist (List.take_sublist _ _)

theorem mem_dueBatch {db : Db} {now : Time} {limit id : Nat} (selected : id ∈ dueBatch db now limit) :
    ∃ message, db.outbox.get? id = some message ∧ outboxDue now message = true :=
  Table.mem_select.1 (List.mem_of_mem_take selected)

/-- A batch is one attempt for each of its messages, on the row as it was before the batch.
The invariant also sees which messages are done. -/
theorem dispatchOutbox_induction {db : Db} {now : Time} {broker : Nat → Option String} {limit : Nat}
    (invariant : List Nat → Dispatched → Prop) (start : invariant [] ⟨db, [], {}⟩)
    (preserved : ∀ done before after id message, invariant done before →
      id ∈ dueBatch db now limit → db.outbox.get? id = some message →
      outboxDue now message = true → before.db.outbox.get? id = some message →
      Attempted now (broker id) before id after → invariant (done ++ [id]) after) :
    invariant (dueBatch db now limit) (dispatchOutbox db now broker limit) := by
  have batch : ∀ (ids done : List Nat) (progress : Dispatched), ids.Nodup →
      (∀ id ∈ ids, id ∈ dueBatch db now limit) →
      (∀ id ∈ ids, progress.db.outbox.get? id = db.outbox.get? id) → invariant done progress →
      invariant (done ++ ids) (ids.foldl (dispatchOne now broker) progress) := by
    intro ids
    induction ids with
    | nil =>
      intro done progress _ _ _ holds
      rw [List.append_nil]
      exact holds
    | cons id rest ih =>
      intro done progress distinct selected same holds
      obtain ⟨fresh, later⟩ := List.nodup_cons.1 distinct
      obtain ⟨message, found, due⟩ := mem_dueBatch (selected id List.mem_cons_self)
      have attempted := dispatchOne_attempted now broker progress id
      have current : progress.db.outbox.get? id = some message :=
        (same id List.mem_cons_self).trans found
      rw [List.append_cons]
      apply ih _ _ later
      · exact fun other member => selected other (List.mem_cons_of_mem _ member)
      · intro other member
        have different : other ≠ id := fun equal => fresh (equal ▸ member)
        rw [attempted.outbox_ne different, same other (List.mem_cons_of_mem _ member)]
      · exact preserved done progress _ id message holds (selected id List.mem_cons_self) found due
          current attempted
  exact batch _ [] _ (dueBatch_nodup db now limit) (fun _ member => member) (fun _ _ => rfl) start

/-- The row that `create` inserts. -/
def newJob (request : EnqueueRequest) (key : String) : BackgroundJob :=
  { taskName := request.taskName
    payload := request.payload
    triggeredBy := request.triggeredBy
    cronJobId := request.cronJobId
    status := .queued
    idempotencyKey := key
    maxAttempts := attemptBound request.maxAttempts }

theorem attemptBound_pos (maxAttempts : Int) : 1 ≤ attemptBound maxAttempts := by
  unfold attemptBound
  split <;> omega

theorem create_new {db : Db} {key : String} (request : EnqueueRequest)
    (unknown : findJob db key = none) :
    create db request key = ({ db with jobs := db.jobs.insert (newJob request key) }, db.jobs.size) := by
  unfold create
  split
  · rfl
  · rw [unknown]
    rfl

theorem schedule_new {db : Db} {key : String} (request : EnqueueRequest)
    (unknown : findJob db key = none) : ∃ after row,
      scheduleDispatch (create db request key).1 (create db request key).2 "enqueue"
          request.queueId =
        .ok (⟨db.jobs.insert ((newJob request key).enqueued request.queueId), after,
          db.idempotency⟩, row) ∧
      Placed db.outbox (dispatchMessage db.jobs.size (newJob request key) request.queueId
        (dispatchKey db.jobs.size (newJob request key) "enqueue")) after := by
  rw [create_new request unknown]
  obtain ⟨after, row, scheduled, placed⟩ :=
    @scheduleDispatch_spec ⟨db.jobs.insert (newJob request key), db.outbox, db.idempotency⟩ _ _
      (Table.get?_insert_self db.jobs _) "enqueue" request.queueId
  rw [Table.set_insert] at scheduled
  exact ⟨after, row, scheduled, placed⟩

section Enqueue
variable (sha256 : String → String)

theorem requestKey_ne_empty (request : EnqueueRequest) : requestKey sha256 request ≠ "" := by
  unfold requestKey
  split
  · intro empty
    have chars := congrArg String.toList empty
    simp [jobIdempotencyKey, String.toList_append] at chars
  · assumption

/-- An enqueue fails, finds the job of its key or adds a job and asks for its dispatch. -/
theorem enqueueBackgroundJob_cases (db : Db) (request : EnqueueRequest) :
    (∃ error, enqueueBackgroundJob sha256 db request = .error error) ∨
    (∃ after id, enqueueBackgroundJob sha256 db request = .ok (after, id) ∧
      after.jobs = db.jobs ∧ after.outbox = db.outbox) ∨
    ∃ after, enqueueBackgroundJob sha256 db request = .ok (after, db.jobs.size) ∧
      (∀ id job, db.jobs.get? id = some job →
        job.idempotencyKey ≠ requestKey sha256 request) ∧
      after.jobs = db.jobs.insert
        ((newJob request (requestKey sha256 request)).enqueued request.queueId) ∧
      Placed db.outbox
        (dispatchMessage db.jobs.size (newJob request (requestKey sha256 request)) request.queueId
          (dispatchKey db.jobs.size (newJob request (requestKey sha256 request)) "enqueue"))
        after.outbox := by
  unfold enqueueBackgroundJob
  simp only
  have jobs := idempotencyStatus_jobs db "background_job" (requestKey sha256 request)
    (stableHash sha256 (requestPayload request))
  have outbox := idempotencyStatus_outbox db "background_job" (requestKey sha256 request)
    (stableHash sha256 (requestPayload request))
  generalize idempotencyStatus db "background_job" (requestKey sha256 request)
    (stableHash sha256 (requestPayload request)) = checked at jobs outbox
  obtain ⟨checked, verdict⟩ := checked
  dsimp only at jobs outbox ⊢
  by_cases conflict : verdict.conflict = true
  · exact .inl ⟨_, by rw [if_pos conflict]; rfl⟩
  rw [if_neg conflict]
  cases known : findJob checked (requestKey sha256 request) with
  | some existing => exact .inr (.inl ⟨checked, existing, rfl, jobs, outbox⟩)
  | none =>
    have fresh : ∀ id job, db.jobs.get? id = some job →
        job.idempotencyKey ≠ requestKey sha256 request := by
      intro id job found
      exact of_decide_eq_false (Table.find?_eq_none.1 known id job (jobs ▸ found))
    obtain ⟨after, row, scheduled, placed⟩ := schedule_new request known
    rw [outbox, jobs] at placed
    refine .inr (.inr ⟨⟨_, after, checked.idempotency⟩, ?_, fresh, rfl, placed⟩)
    dsimp only
    rw [scheduled, create_new request known, ← jobs]
    rfl

end Enqueue

end SoulClaw.Domain.Jobs
