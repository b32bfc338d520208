import SoulClaw.Domain.JobEffects

/-! When `enqueue_background_job` refuses a request, when it returns the job of an earlier
request, and when it adds a job. -/

namespace SoulClaw.Domain.Idempotency
open Foundation Jobs

/-- The components of a request that its hash is made of; the order of the keys of a
dictionary does not count. -/
structure SameRequest (first second : EnqueueRequest) : Prop where
  taskName : first.taskName = second.taskName
  payload : (Json.obj first.payload).sortKeys = (Json.obj second.payload).sortKeys
  triggeredBy : first.triggeredBy = second.triggeredBy
  cronJobId : first.cronJobId = second.cronJobId

theorem SameRequest.symm {first second : EnqueueRequest} (same : SameRequest first second) :
    SameRequest second first :=
  ⟨same.taskName.symm, same.payload.symm, same.triggeredBy.symm, same.cronJobId.symm⟩

theorem SameRequest.trans {first second third : EnqueueRequest} (left : SameRequest first second)
    (right : SameRequest second third) : SameRequest first third :=
  ⟨left.taskName.trans right.taskName, left.payload.trans right.payload,
    left.triggeredBy.trans right.triggeredBy, left.cronJobId.trans right.cronJobId⟩

theorem sortKeys_requestPayload (request : EnqueueRequest) :
    (requestPayload request).sortKeys =
      .obj ([("task_name", .str request.taskName), ("payload", (Json.obj request.payload).sortKeys),
        ("triggered_by", .str request.triggeredBy), ("cron_job_id", .str request.cronJobId)].insertionSort
          fun a b => a.1 ≤ b.1) := rfl

section Enqueue
variable (sha256 : String → String)

def requestHash (request : EnqueueRequest) : String := stableHash sha256 (requestPayload request)

theorem SameRequest.hash_eq {first second : EnqueueRequest} (same : SameRequest first second) :
    requestHash sha256 first = requestHash sha256 second := by
  rw [requestHash, requestHash, stableHash, stableHash, sortKeys_requestPayload, sortKeys_requestPayload,
    same.taskName, same.payload, same.triggeredBy, same.cronJobId]

variable (db : Db) (request : EnqueueRequest)

/-- The record that an enqueue finds. -/
def foundRecord (key : String) : Option IdempotencyRecord :=
  (findIdempotency db "background_job" key).bind db.idempotency.get?

/-- The job that an enqueue finds. -/
def foundJob (key : String) : Option BackgroundJob := (findJob db key).bind db.jobs.get?

/-- The record under the key of the request has been made for another request. -/
def Conflicts : Prop :=
  ∃ record ∈ foundRecord db (requestKey sha256 request), record.requestHash ≠ "" ∧
    requestHash sha256 request ≠ "" ∧ record.requestHash ≠ requestHash sha256 request

/-- The rows behind `idempotency_status`. -/
def checkedDb : Db :=
  (idempotencyStatus db "background_job" (requestKey sha256 request) (requestHash sha256 request)).1

def checkedVerdict : IdempotencyVerdict :=
  (idempotencyStatus db "background_job" (requestKey sha256 request) (requestHash sha256 request)).2

/-- The record of a key that is new. -/
def newRecord : IdempotencyRecord :=
  { scope := "background_job"
    idempotencyKey := requestKey sha256 request
    requestHash := requestHash sha256 request }

theorem checkedDb_known {record : IdempotencyRecord}
    (found : foundRecord db (requestKey sha256 request) = some record) : checkedDb sha256 db request = db := by
  rw [foundRecord] at found
  rw [checkedDb, idempotencyStatus, if_neg (requestKey_ne_empty sha256 request), found]
  simp only
  split
  · rfl
  · rfl

theorem checkedDb_unknown (missing : foundRecord db (requestKey sha256 request) = none) :
    checkedDb sha256 db request =
      { db with idempotency := db.idempotency.insert (newRecord sha256 request) } := by
  rw [foundRecord] at missing
  rw [checkedDb, idempotencyStatus, if_neg (requestKey_ne_empty sha256 request), missing]
  rfl

theorem conflict_iff : (checkedVerdict sha256 db request).conflict = true ↔ Conflicts sha256 db request := by
  rw [checkedVerdict, Conflicts, idempotencyStatus, if_neg (requestKey_ne_empty sha256 request), foundRecord]
  cases (findIdempotency db "background_job" (requestKey sha256 request)).bind db.idempotency.get? with
  | none => simp
  | some record =>
    simp only [Option.mem_def, Option.some.injEq, exists_eq_left']
    by_cases differs : record.requestHash ≠ "" ∧ requestHash sha256 request ≠ "" ∧
        record.requestHash ≠ requestHash sha256 request
    · rw [if_pos differs]
      exact iff_of_true rfl differs
    · rw [if_neg differs]
      exact iff_of_false (by simp) differs

instance : Decidable (Conflicts sha256 db request) := decidable_of_iff _ (conflict_iff sha256 db request)

theorem checkedDb_jobs : (checkedDb sha256 db request).jobs = db.jobs := idempotencyStatus_jobs _ _ _ _

theorem findJob_checkedDb (key : String) : findJob (checkedDb sha256 db request) key = findJob db key := by
  rw [findJob, findJob, checkedDb_jobs]

def reusedError : PyException :=
  ⟨.valueError, "idempotency key reused with different payload: " ++ requestKey sha256 request⟩

theorem enqueue_refused (conflicts : Conflicts sha256 db request) :
    enqueueBackgroundJob sha256 db request = .error (reusedError sha256 request) := by
  have verdict := (conflict_iff sha256 db request).2 conflicts
  rw [checkedVerdict, requestHash] at verdict
  unfold enqueueBackgroundJob
  simp only [if_pos verdict]
  rfl

variable {sha256 db request}

theorem enqueue_known (open_ : ¬Conflicts sha256 db request) {id : Nat}
    (known : findJob db (requestKey sha256 request) = some id) :
    enqueueBackgroundJob sha256 db request = .ok (checkedDb sha256 db request, id) := by
  have verdict := mt (conflict_iff sha256 db request).1 open_
  rw [← findJob_checkedDb sha256 db request, checkedDb, requestHash] at known
  rw [checkedVerdict, requestHash] at verdict
  unfold enqueueBackgroundJob
  simp only [if_neg verdict, known]
  rfl

theorem enqueue_new (open_ : ¬Conflicts sha256 db request)
    (unknown : findJob db (requestKey sha256 request) = none) :
    ∃ after, enqueueBackgroundJob sha256 db request = .ok (after, db.jobs.size) ∧
      after.jobs = db.jobs.insert ((newJob request (requestKey sha256 request)).enqueued request.queueId) ∧
      after.idempotency = (checkedDb sha256 db request).idempotency := by
  have verdict := mt (conflict_iff sha256 db request).1 open_
  rw [← findJob_checkedDb sha256 db request] at unknown
  obtain ⟨outbox, row, scheduled, _⟩ := schedule_new request unknown
  rw [checkedDb_jobs] at scheduled
  have created : (create (checkedDb sha256 db request) request (requestKey sha256 request)).2 =
      db.jobs.size := by
    rw [create_new request unknown, ← checkedDb_jobs sha256 db request]
  refine ⟨⟨_, outbox, (checkedDb sha256 db request).idempotency⟩, ?_, rfl, rfl⟩
  rw [checkedDb, requestHash] at unknown scheduled created ⊢
  rw [checkedVerdict, requestHash] at verdict
  unfold enqueueBackgroundJob
  simp only [if_neg verdict, unknown]
  rw [scheduled, created]
  rfl

end Enqueue

end SoulClaw.Domain.Idempotency
