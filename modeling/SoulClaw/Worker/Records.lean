import SoulClaw.Worker.Keys

/-! The idempotency records of the queue. A job that succeeds or is dead-lettered completes its record; one that is
cancelled does not, and one that is retried after its end leaves its record completed. -/

namespace SoulClaw.Worker.Records
open Foundation Domain.Jobs Domain.Idempotency Queue Moves Keys

/-- The status of the record of a job. -/
def recordStatus : JobStatus → IdempotencyStatus
  | .queued | .running | .retrying => .processing
  | .succeeded => .succeeded
  | .failed | .deadLetter | .cancelled => .failed

/-- The record of a job has the status that goes with the job, and is replayed if the job has ended. -/
structure Follows (db : Db) (job : BackgroundJob) (record : IdempotencyRecord) : Prop where
  processing : record.status = .processing ↔ ¬job.status.Terminal
  succeeded : job.status = .succeeded → record.status = .succeeded
  failed : job.status.Terminal → job.status ≠ .succeeded → record.status = .failed
  replayed : ∀ hash, (idempotencyStatus db "background_job" job.idempotencyKey hash).2.conflict = false →
    ((idempotencyStatus db "background_job" job.idempotencyKey hash).2.replayed = true ↔ job.status.Terminal)

def InStep (db : Db) : Prop :=
  ∀ id job, db.jobs.get? id = some job → ∃ record, foundRecord db job.idempotencyKey = some record ∧ Follows db job record

/-- The status of the record under a key. -/
def statusUnder (db : Db) (key : String) : Option IdempotencyStatus := (foundRecord db key).map (·.status)

/-- Every job has a key, and the ledger is exact. -/
structure Keyed (sha256 : String → String) (db : Db) : Prop where
  exact_ : (ledger db).Exact sha256 Set.univ
  named : ∀ id request, (ledger db).jobs id = some request → request.idempotencyKey ≠ ""

section Status
variable {db after : Db} {sha256 : String → String}

theorem follows_iff {job : BackgroundJob} {record : IdempotencyRecord} (some' : job.idempotencyKey ≠ "")
    (found : foundRecord db job.idempotencyKey = some record) :
    Follows db job record ↔ record.status = recordStatus job.status := by
  constructor
  · intro follows
    cases status : job.status with
    | queued => exact follows.processing.2 (by rw [status]; decide)
    | running => exact follows.processing.2 (by rw [status]; decide)
    | retrying => exact follows.processing.2 (by rw [status]; decide)
    | succeeded => exact follows.succeeded status
    | failed => exact follows.failed (by rw [status]; decide) (by rw [status]; decide)
    | deadLetter => exact follows.failed (by rw [status]; decide) (by rw [status]; decide)
    | cancelled => exact follows.failed (by rw [status]; decide) (by rw [status]; decide)
  · intro same
    have ended : (record.status = .succeeded ∨ record.status = .failed) ↔ job.status.Terminal := by
      rw [same]
      cases job.status <;> decide
    refine ⟨?_, ?_, ?_, ?_⟩
    · rw [same]
      cases job.status <;> decide
    · intro succeeded
      rw [same, succeeded]
      rfl
    · rw [same]
      cases job.status <;> decide
    · intro hash calm
      rw [foundRecord] at found
      rw [idempotencyStatus, if_neg some', found] at calm ⊢
      dsimp only at calm ⊢
      split at calm
      next conflicts => cases calm
      next conflicts =>
        rw [if_neg conflicts]
        rw [decide_eq_true_iff]
        exact ended

theorem inStep_iff (keyed : Keyed sha256 db) : InStep db ↔
    ∀ id job, db.jobs.get? id = some job → statusUnder db job.idempotencyKey = some (recordStatus job.status) := by
  refine forall_congr' fun id => forall_congr' fun job => forall_congr' fun found => ?_
  obtain ⟨record, known, _⟩ := foundRecord_of_job keyed.exact_ found
  have some' : job.idempotencyKey ≠ "" := keyed.named id (jobRequest job) (congrArg (Option.map jobRequest) found)
  rw [statusUnder, known, Option.map_some, Option.some.injEq, ← follows_iff some' known]
  constructor
  · intro ⟨other, same, follows⟩
    obtain rfl := Option.some.inj same
    exact follows
  · intro follows
    exact ⟨record, rfl, follows⟩

theorem statusUnder_congr (same : after.idempotency = db.idempotency) (key : String) :
    statusUnder after key = statusUnder db key := by
  rw [statusUnder, statusUnder, foundRecord, foundRecord, findIdempotency, findIdempotency, same]

/-- Completing a record changes its status, and those of no other keys. -/
theorem statusUnder_complete {key other : String} (some' : key ≠ "") (known : (statusUnder db key).isSome)
    (response : Json) (status : IdempotencyStatus) :
    statusUnder (completeIdempotency db "background_job" key response status) other =
      if other = key then some status else statusUnder db other := by
  rw [statusUnder, foundRecord, Option.isSome_map] at known
  obtain ⟨row, found⟩ := Option.isSome_iff_exists.1 known
  obtain ⟨id, search, there⟩ := Option.bind_eq_some_iff.1 found
  obtain ⟨_, _, matched⟩ := Table.find?_eq_some search
  rw [completeIdempotency, if_neg some', search]
  dsimp only
  rw [there]
  dsimp only
  rw [statusUnder, statusUnder, foundRecord, foundRecord, findIdempotency, findIdempotency]
  dsimp only
  rw [Table.find?_set there (by rfl)]
  by_cases own : other = key
  · subst own
    rw [findIdempotency] at search
    rw [if_pos rfl, search, Option.bind_some, Table.get?_set_self _ there, Option.map_some]
  · rw [if_neg own]
    cases place : db.idempotency.find? fun record => record.scope = "background_job" ∧ record.idempotencyKey = other with
    | none => rfl
    | some first =>
      have apart : first ≠ id := by
        rintro rfl
        obtain ⟨record, here, named⟩ := Table.find?_eq_some place
        obtain rfl := Option.some.inj (there.symm.trans here)
        obtain ⟨record', here', named'⟩ := Table.find?_eq_some search
        obtain rfl := Option.some.inj (there.symm.trans here')
        exact own ((of_decide_eq_true named).2.symm.trans (of_decide_eq_true named').2)
      rw [Option.bind_some, Option.bind_some, Table.get?_set_ne _ _ apart]

/-! One job. -/

variable {id : Nat} {job next : BackgroundJob}

/-- A job under the same key, and the other jobs under other keys. -/
theorem inStep_set (keyed : Keyed sha256 db) (found : db.jobs.get? id = some job)
    (same : next.idempotencyKey = job.idempotencyKey) (jobs : after.jobs = db.jobs.set id next)
    (records : ∀ key, key ≠ job.idempotencyKey → statusUnder after key = statusUnder db key)
    (keyed' : Keyed sha256 after) (holds : InStep db) :
    InStep after ↔ statusUnder after job.idempotencyKey = some (recordStatus next.status) := by
  rw [inStep_iff keyed']
  rw [inStep_iff keyed] at holds
  constructor
  · intro all
    have here := all id next (by rw [jobs, Table.get?_set_self _ found])
    rwa [same] at here
  · intro own other row known
    rw [jobs] at known
    by_cases here : other = id
    · subst here
      rw [Table.get?_set_self _ found] at known
      obtain rfl := Option.some.inj known
      rwa [same]
    · rw [Table.get?_set_ne _ _ here] at known
      have apart : row.idempotencyKey ≠ job.idempotencyKey := fun equal =>
        here (keyed.exact_.jobKeys other id _ _ (congrArg (Option.map jobRequest) known)
          (congrArg (Option.map jobRequest) found) equal)
      rw [records _ apart]
      exact holds other row known

theorem Keyed.of_ledger (keyed : Keyed sha256 db) (same : ledger after = ledger db) : Keyed sha256 after :=
  ⟨same ▸ keyed.exact_, same ▸ keyed.named⟩

theorem statusUnder_job (keyed : Keyed sha256 db) (holds : InStep db) (found : db.jobs.get? id = some job) :
    statusUnder db job.idempotencyKey = some (recordStatus job.status) := (inStep_iff keyed).1 holds id job found

/-- A job that is written with another status and no change of the records. -/
theorem inStep_setJob (keyed : Keyed sha256 db) (holds : InStep db) (found : db.jobs.get? id = some job)
    (same : jobRequest next = jobRequest job) (outbox : Table OutboxMessage) :
    InStep { db.setJob id next with outbox } ↔ recordStatus job.status = recordStatus next.status := by
  have keyed' : Keyed sha256 { db.setJob id next with outbox } := keyed.of_ledger (ledger_setJob found same)
  have unchanged : ∀ key, statusUnder { db.setJob id next with outbox } key = statusUnder db key :=
    statusUnder_congr rfl
  rw [inStep_set keyed found (congrArg EnqueueRequest.idempotencyKey same) rfl (fun key _ => unchanged key) keyed' holds,
    unchanged, statusUnder_job keyed holds found, Option.some.injEq]

/-- A job that is written together with its record. -/
theorem inStep_completed (keyed : Keyed sha256 db) (holds : InStep db) (found : db.jobs.get? id = some job)
    (same : jobRequest next = jobRequest job) (response : Json) {status : IdempotencyStatus}
    (fits : status = recordStatus next.status) :
    InStep (completeIdempotency (db.setJob id next) "background_job" next.idempotencyKey response status) := by
  have key : next.idempotencyKey = job.idempotencyKey := congrArg EnqueueRequest.idempotencyKey same
  have keyed' := keyed.of_ledger (ledger_completed keyed.exact_ found same response status)
  have some' : next.idempotencyKey ≠ "" := by
    rw [key]
    exact keyed.named id (jobRequest job) (congrArg (Option.map jobRequest) found)
  have unchanged : ∀ other, statusUnder (db.setJob id next) other = statusUnder db other := statusUnder_congr rfl
  have known : (statusUnder (db.setJob id next) next.idempotencyKey).isSome := by
    rw [unchanged, key, statusUnder_job keyed holds found]
    rfl
  refine (inStep_set keyed found key (completeIdempotency_jobs ..) (fun other apart => ?_) keyed' holds).2 ?_
  · rw [statusUnder_complete some' known, if_neg (key ▸ apart), unchanged]
  · rw [statusUnder_complete some' known, if_pos key.symm, fits]

/-! The operations on one job. -/

variable {now : Time}

theorem inStep_markSucceeded (keyed : Keyed sha256 db) (holds : InStep db) {result : Json}
    (done : markSucceeded db id now result = .ok after) : InStep after := by
  obtain ⟨job, found, written⟩ := getJob_bind done
  cases written
  have same : jobRequest (job.succeeded now result) = jobRequest job := rfl
  exact inStep_completed keyed holds found same _ rfl

theorem inStep_markDeadLetter (keyed : Keyed sha256 db) (holds : InStep db) {error : String}
    (done : markDeadLetter db id now error = .ok after) : InStep after := by
  obtain ⟨job, found, written⟩ := getJob_bind done
  cases written
  have same : jobRequest (job.deadLettered now error) = jobRequest job := rfl
  exact inStep_completed keyed holds found same _ rfl

theorem recordStatus_processing (status : JobStatus) : recordStatus status = .processing ↔ ¬status.Terminal := by
  cases status <;> decide

theorem inStep_markRetrying (keyed : Keyed sha256 db) (holds : InStep db) {error : String}
    (done : markRetrying db id now error = .ok after) :
    InStep after ↔ ∀ job, db.jobs.get? id = some job → ¬job.status.Terminal := by
  obtain ⟨job, found, written⟩ := getJob_bind done
  cases written
  have same : jobRequest (job.retrying now error) = jobRequest job := rfl
  have kept := inStep_setJob keyed holds found same db.outbox
  refine kept.trans ((recordStatus_processing job.status).trans ?_)
  constructor
  · intro active other known
    obtain rfl := Option.some.inj (found.symm.trans known)
    exact active
  · intro all
    exact all job found

theorem inStep_cancel (keyed : Keyed sha256 db) (holds : InStep db) (done : cancel db id now = .ok after) :
    ¬InStep after := by
  rcases cancel_cases db id now with ⟨error, failed⟩ | ⟨job, found, cancellable, taken⟩
  · cases failed.symm.trans done
  · cases taken.symm.trans done
    have same : jobRequest (job.cancelled now) = jobRequest job := rfl
    have kept := inStep_setJob keyed holds found same db.outbox
    rw [show db.setJob id (job.cancelled now) = { db.setJob id (job.cancelled now) with outbox := db.outbox } from rfl, kept]
    revert cancellable
    generalize job.status = status
    change status ∈ _ → recordStatus status ≠ .failed
    cases status <;> decide

theorem inStep_startRun (keyed : Keyed sha256 db) (holds : InStep db) {lockOwner : String}
    {started : Option (Nat × Nat)} (done : startRun db id now lockOwner = .ok (after, started)) : InStep after := by
  by_cases idle : ∀ row, db.jobs.get? id = some row → shouldRun row now = false
  · rcases startRun_skipped lockOwner idle with ⟨error, failed⟩ | skipped
    · cases failed.symm.trans done
    · cases skipped.symm.trans done
      exact holds
  · push Not at idle
    obtain ⟨row, found, runs⟩ := idle
    have runs : shouldRun row now = true := by simpa using runs
    cases (startRun_begins lockOwner found runs).symm.trans done
    have same : jobRequest (row.started now lockOwner) = jobRequest row := rfl
    refine (inStep_setJob keyed holds found same db.outbox).2 ?_
    exact (recordStatus_processing row.status).2 (shouldRun_active runs).1

/-! The batches and the loops of the scheduler. -/

/-- What a batch keeps. -/
structure Sound (sha256 : String → String) (db : Db) : Prop where
  keyed : Keyed sha256 db
  inStep : InStep db

theorem Sound.setOutbox (sound : Sound sha256 db) (row : Nat) (message : OutboxMessage) :
    Sound sha256 (db.setOutbox row message) := by
  have keyed : Keyed sha256 (db.setOutbox row message) := sound.keyed.of_ledger (ledger_setOutbox db row message)
  have unchanged : ∀ key, statusUnder (db.setOutbox row message) key = statusUnder db key := statusUnder_congr rfl
  refine ⟨keyed, (inStep_iff keyed).2 fun id job found => ?_⟩
  rw [unchanged]
  exact statusUnder_job sound.keyed sound.inStep found

theorem Sound.dispatchOutboxMessage (sound : Sound sha256 db) (row : Nat) (message : OutboxMessage) (now : Time)
    (refused : Option String) : Sound sha256 (dispatchOutboxMessage db row message now refused).1 := by
  rw [Domain.Jobs.dispatchOutboxMessage]
  by_cases topic : message.topic ≠ "celery.dispatch"
  · rw [if_pos topic]
    exact sound
  · rw [if_neg topic]
    dsimp only
    cases dispatchTask message.payload.taskName refused with
    | ok sent => exact sound.setOutbox row _
    | error error =>
      dsimp only
      by_cases spent : message.attemptCount + 1 ≥ message.maxAttempts
      · rw [if_pos spent]
        split
        next after done =>
          have before := sound.setOutbox row
            { message with
              attemptCount := message.attemptCount + 1
              lastError := error
              status := .deadLetter
              dispatchedAt := some now }
          exact ⟨before.keyed.of_ledger (ledger_markDeadLetter before.keyed.exact_ done),
            inStep_markDeadLetter before.keyed before.inStep done⟩
        next => exact sound.setOutbox row _
      · rw [if_neg spent]
        exact sound.setOutbox row _

theorem Sound.dispatchOutbox (sound : Sound sha256 db) (broker : Nat → Option String) (limit : Nat) :
    Sound sha256 (dispatchOutbox db now broker limit).db := by
  have one : ∀ (progress : Dispatched) (row : Nat), Sound sha256 progress.db →
      Sound sha256 (dispatchOne now broker progress row).db := by
    intro progress row sound
    rw [dispatchOne]
    cases progress.db.outbox.get? row with
    | none => exact sound
    | some message =>
      have attempted := sound.dispatchOutboxMessage row message now (broker row)
      dsimp only
      generalize Domain.Jobs.dispatchOutboxMessage progress.db row message now (broker row) = ended at attempted ⊢
      obtain ⟨after, outcome⟩ := ended
      cases outcome <;> exact attempted
  have batch : ∀ (rows : List Nat) (progress : Dispatched), Sound sha256 progress.db →
      Sound sha256 (rows.foldl (dispatchOne now broker) progress).db := by
    intro rows
    induction rows with
    | nil => exact fun _ sound => sound
    | cons row rest ih => exact fun progress sound => ih _ (one progress row sound)
  exact batch _ _ sound

theorem Sound.rescheduleReady {queueIds : Nat → String} (sound : Sound sha256 db)
    (done : rescheduleReady queueIds db id = .ok after) : Sound sha256 after := by
  have keyed := sound.keyed.of_ledger (ledger_rescheduleReady done)
  obtain ⟨job, outbox, found, retryable, rfl⟩ := rescheduleReady_rescheduled done
  have same : jobRequest (job.enqueued (queueIds id)) = jobRequest job := rfl
  refine ⟨keyed, (inStep_setJob sound.keyed sound.inStep found same outbox).2 ?_⟩
  revert retryable
  change job.status ∈ _ → _ = recordStatus .queued
  cases job.status <;> decide

theorem Sound.rescheduleAll {queueIds : Nat → String} {ids : List Nat} (sound : Sound sha256 db)
    (done : ids.foldlM (Queue.rescheduleReady queueIds) db = .ok after) : Sound sha256 after :=
  Runs.foldlM_invariant (Sound sha256) (fun _ _ _ holds taken => holds.rescheduleReady taken) sound done

/-! The enqueues. -/

theorem statusUnder_added {record : IdempotencyRecord} (records : after.idempotency = db.idempotency.insert record)
    (inScope : record.scope = "background_job") (fresh : foundRecord db record.idempotencyKey = none) (key : String) :
    statusUnder after key = if key = record.idempotencyKey then some record.status else statusUnder db key := by
  rw [statusUnder, foundRecord, findIdempotency, records]
  by_cases own : key = record.idempotencyKey
  · subst own
    rw [if_pos rfl]
    cases search : (db.idempotency.insert record).find? fun other =>
        other.scope = "background_job" ∧ other.idempotencyKey = record.idempotencyKey with
    | none =>
      have other := Table.find?_eq_none.1 search _ _ (Table.get?_insert_self db.idempotency record)
      exact absurd (of_decide_eq_false other) (not_not_intro ⟨inScope, rfl⟩)
    | some place =>
      obtain ⟨row, found, matched⟩ := Table.find?_eq_some search
      rw [Option.bind_some, found, Option.map_some]
      rcases Table.insert_cases found with old | ⟨_, rfl⟩
      · have missing : findIdempotency db "background_job" record.idempotencyKey = none := by
          cases known : findIdempotency db "background_job" record.idempotencyKey with
          | none => rfl
          | some first =>
            obtain ⟨row, there, _⟩ := Table.find?_eq_some known
            rw [foundRecord, known, Option.bind_some, there] at fresh
            cases fresh
        have none := Table.find?_eq_none.1 missing place row old
        rw [matched] at none
        cases none
      · rfl
  · have same := @Table.find?_insert_of_false _
      (fun other : IdempotencyRecord => decide (other.scope = "background_job" ∧ other.idempotencyKey = key)) record
      (decide_eq_false fun both => own both.2.symm) db.idempotency
    rw [if_neg own, statusUnder, foundRecord, findIdempotency, same]
    cases search : db.idempotency.find? fun other => other.scope = "background_job" ∧ other.idempotencyKey = key with
    | none => rfl
    | some first =>
      obtain ⟨row, found, _⟩ := Table.find?_eq_some search
      rw [Option.bind_some, Option.bind_some, found, Table.get?_insert_of_some record found]

theorem Keyed.enqueue {request : EnqueueRequest} (keyed : Keyed sha256 db)
    (done : enqueueBackgroundJob sha256 db request = .ok (after, id)) : Keyed sha256 after := by
  refine ⟨exact_enqueue keyed.exact_ (Set.mem_univ request) done, fun place stored listed => ?_⟩
  obtain ⟨job, found, rfl⟩ := Option.map_eq_some_iff.1 listed
  rcases enqueueBackgroundJob_cases sha256 db request with
    ⟨error, failed⟩ | ⟨_, _, done', jobs, _⟩ | ⟨_, done', _, jobs, _⟩
  · cases failed.symm.trans done
  · obtain ⟨rfl, rfl⟩ := Prod.mk.inj (Except.ok.inj (done'.symm.trans done))
    rw [jobs] at found
    exact keyed.named place _ (congrArg (Option.map jobRequest) found)
  · obtain ⟨rfl, rfl⟩ := Prod.mk.inj (Except.ok.inj (done'.symm.trans done))
    rw [jobs] at found
    rcases Table.insert_cases found with old | ⟨_, rfl⟩
    · exact keyed.named place _ (congrArg (Option.map jobRequest) old)
    · exact requestKey_ne_empty sha256 request

theorem Keyed.enqueueDue (keyed : Keyed sha256 db) (requests : List EnqueueRequest) :
    Keyed sha256 (enqueueDue sha256 db requests) := by
  induction requests generalizing db with
  | nil => exact keyed
  | cons request rest ih =>
    rw [Queue.enqueueDue, List.foldl_cons]
    cases outcome : enqueueBackgroundJob sha256 db request with
    | error _ => exact ih keyed
    | ok result => exact ih (keyed.enqueue outcome)

theorem Keyed.tick (keyed : Keyed sha256 db) (broker : Nat → Option String) (queueIds : Nat → String)
    (requests : List EnqueueRequest) : Keyed sha256 (tick sha256 db now broker queueIds requests).1 := by
  have dispatched := ledger_dispatchOutbox keyed.exact_ now broker 100
  rw [Queue.tick]
  cases outcome : dispatchRetryableJobs db (Domain.Jobs.dispatchOutbox db now broker 100).db now queueIds with
  | error _ => exact keyed
  | ok rescheduled => exact (keyed.of_ledger ((ledger_rescheduleAll outcome).trans dispatched)).enqueueDue requests

/-- A known key adds nothing, and a new one a queued job with a record that is being processed. -/
theorem Sound.enqueue {request : EnqueueRequest} (sound : Sound sha256 db)
    (done : enqueueBackgroundJob sha256 db request = .ok (after, id)) : Sound sha256 after := by
  by_cases conflicts : Conflicts sha256 db request
  · rw [enqueue_refused sha256 db request conflicts] at done
    cases done
  · have keyed := sound.keyed.enqueue done
    cases search : findJob db (requestKey sha256 request) with
    | some first =>
      obtain ⟨job, found, matched⟩ := Table.find?_eq_some search
      obtain ⟨record, known, _⟩ := foundRecord_of_job sound.keyed.exact_ found
      rw [of_decide_eq_true matched] at known
      rw [enqueue_known conflicts search, checkedDb_known sha256 db request known] at done
      cases done
      exact sound
    | none =>
      have fresh : ∀ id job, db.jobs.get? id = some job → job.idempotencyKey ≠ requestKey sha256 request :=
        fun id job found => of_decide_eq_false (Table.find?_eq_none.1 search id job found)
      have unknown := foundRecord_of_fresh sound.keyed.exact_ fresh
      obtain ⟨added, taken, jobs, records⟩ := enqueue_new conflicts search
      obtain rfl : added = after := congrArg Prod.fst (Except.ok.inj (taken.symm.trans done))
      rw [checkedDb_unknown sha256 db request unknown] at records
      have named : ∀ id job, added.jobs.get? id = some job →
          db.jobs.get? id = some job ∨ job = (newJob request (requestKey sha256 request)).enqueued request.queueId := by
        intro id job found
        rw [jobs] at found
        exact (Table.insert_cases found).imp_right And.right
      refine ⟨keyed, (inStep_iff keyed).2 fun id job found => ?_⟩
      rw [statusUnder_added records rfl unknown]
      rcases named id job found with old | rfl
      · exact (if_neg (fresh id job old)).trans (statusUnder_job sound.keyed sound.inStep old)
      · exact if_pos rfl

theorem Sound.enqueueDue (sound : Sound sha256 db) (requests : List EnqueueRequest) :
    Sound sha256 (enqueueDue sha256 db requests) := by
  induction requests generalizing db with
  | nil => exact sound
  | cons request rest ih =>
    rw [Queue.enqueueDue, List.foldl_cons]
    cases outcome : enqueueBackgroundJob sha256 db request with
    | error _ => exact ih sound
    | ok result => exact ih (sound.enqueue outcome)

theorem Sound.tick (sound : Sound sha256 db) (broker : Nat → Option String) (queueIds : Nat → String)
    (requests : List EnqueueRequest) : Sound sha256 (tick sha256 db now broker queueIds requests).1 := by
  rw [Queue.tick]
  cases outcome : dispatchRetryableJobs db (Domain.Jobs.dispatchOutbox db now broker 100).db now queueIds with
  | error _ => exact sound
  | ok rescheduled => exact ((sound.dispatchOutbox broker 100).rescheduleAll outcome).enqueueDue requests

end Status

/-! Runs. -/

/-- The step cancels no job that can be cancelled, and fails no attempt that leaves another one when its job has ended. -/
def keepsPace (state : State) : Action → Bool
  | .cancel job => (state.db.jobs.get? job).all fun row => decide row.status.Terminal
  | .fail id _ =>
      match state.deliveries.get? id with
      | some ⟨job, .running attempt bound⟩ =>
          bound ≤ attempt ∨ (state.db.jobs.get? job).all fun row => decide ¬row.status.Terminal
      | _ => true
  | _ => true

section Runs
variable {sha256 : String → String} {state next : State} {action : Action}

theorem keyed_step (keyed : Keyed sha256 state.db) (taken : step sha256 state action = some next) :
    Keyed sha256 next.db := by
  rcases ledger_step keyed.exact_ taken with same | ⟨request, id, rfl, done⟩ | ⟨broker, queueIds, due, rfl, ended⟩
  · exact keyed.of_ledger same
  · exact keyed.enqueue done
  · rw [ended]
    exact keyed.tick broker queueIds due

theorem inStep_cancelStep {job : Nat} (keyed : Keyed sha256 state.db) (holds : InStep state.db)
    (taken : step sha256 state (.cancel job) = some next) : InStep next.db ↔ keepsPace state (.cancel job) = true := by
  rw [step] at taken
  rw [keepsPace]
  cases found : state.db.jobs.get? job with
  | none =>
    obtain ⟨error, failed⟩ : ∃ error, cancel state.db job state.now = .error error := by
      rcases cancel_cases state.db job state.now with failed | ⟨row, there, _⟩
      · exact failed
      · cases found.symm.trans there
    rw [failed] at taken
    cases taken
    exact iff_of_true holds rfl
  | some row =>
    by_cases ended : row.status.Terminal
    · obtain ⟨error, failed⟩ : ∃ error, cancel state.db job state.now = .error error := by
        rcases cancel_cases state.db job state.now with failed | ⟨other, there, cancellable, _⟩
        · exact failed
        · obtain rfl := Option.some.inj (found.symm.trans there)
          exfalso
          revert ended cancellable
          cases row.status <;> decide
      rw [failed] at taken
      cases taken
      exact iff_of_true holds (decide_eq_true ended)
    · have cancelled : cancel state.db job state.now = .ok (state.db.setJob job (row.cancelled state.now)) := by
        have cancellable : row.status ∈ [JobStatus.queued, .retrying, .running] := by
          revert ended
          cases row.status <;> decide
        rw [cancel, getJob_of_some found]
        exact if_neg (not_not_intro cancellable)
      rw [cancelled] at taken
      cases taken
      refine iff_of_false (inStep_cancel keyed holds cancelled) ?_
      rw [Option.all_some, decide_eq_true_iff]
      exact ended

theorem inStep_failStep {id job attempt bound : Nat} {error : String} (keyed : Keyed sha256 state.db)
    (holds : InStep state.db) (delivered : state.deliveries.get? id = some ⟨job, .running attempt bound⟩)
    (taken : step sha256 state (.fail id error) = some next) :
    InStep next.db ↔ keepsPace state (.fail id error) = true := by
  rw [step, delivered] at taken
  cases taken
  rw [keepsPace, delivered, settle]
  dsimp only
  rw [decide_eq_true_iff, failRun]
  by_cases spent : attempt ≥ bound
  · rw [if_pos spent]
    refine iff_of_true ?_ (Or.inl spent)
    cases done : markDeadLetter state.db job state.now error with
    | error raised => exact holds
    | ok after => exact inStep_markDeadLetter keyed holds done
  · rw [if_neg spent, or_iff_right spent]
    cases found : state.db.jobs.get? job with
    | none =>
      obtain ⟨raised, failed⟩ := getJob_of_none found
      have failed' : markRetrying state.db job state.now error = .error raised := by
        rw [markRetrying, failed]
        rfl
      rw [failed']
      exact iff_of_true holds rfl
    | some row =>
      have done : markRetrying state.db job state.now error = .ok (state.db.setJob job (row.retrying state.now error)) := by
        rw [markRetrying, getJob_of_some found]
        rfl
      rw [done, Option.all_some, decide_eq_true_iff]
      refine (inStep_markRetrying keyed holds done).trans ⟨fun all => all row found, fun active other there => ?_⟩
      obtain rfl := Option.some.inj (found.symm.trans there)
      exact active

theorem inStep_written {db : Db} (keyed : Keyed sha256 state.db) (holds : InStep state.db) (atomic : action.atomic = true)
    (uncancelled : ∀ job, action ≠ .cancel job) (unfailed : ∀ id error, action ≠ .fail id error)
    (written : Written sha256 state action db) : InStep db := by
  cases written with
  | quiet => exact holds
  | enqueue done => exact (Sound.enqueue ⟨keyed, holds⟩ done).inStep
  | cancel done => exact absurd rfl (uncancelled _)
  | replayOutbox => exact (Sound.dispatchOutbox ⟨keyed, holds⟩ _ _).inStep
  | tick => exact (Sound.tick ⟨keyed, holds⟩ _ _ _).inStep
  | start done => exact inStep_startRun keyed holds done
  | commitStart => cases atomic
  | succeed _ done => exact inStep_markSucceeded keyed holds done
  | fail _ done => exact absurd rfl (unfailed _ _)

theorem inStep_step (keyed : Keyed sha256 state.db) (holds : InStep state.db) (atomic : action.atomic = true)
    (taken : step sha256 state action = some next) : InStep next.db ↔ keepsPace state action = true := by
  cases action with
  | cancel job => exact inStep_cancelStep keyed holds taken
  | fail id error =>
    rcases delivered : state.deliveries.get? id with _ | ⟨job, phase⟩
    · rw [step, delivered] at taken
      cases taken
    · cases phase with
      | running attempt bound => exact inStep_failStep keyed holds delivered taken
      | _ =>
        rw [step, delivered] at taken
        cases taken
  | _ =>
    refine iff_of_true (inStep_written keyed holds atomic ?_ ?_ (step_written taken)) rfl
    · intro job same
      cases same
    · intro id error same
      cases same

theorem inStep_initial : InStep Db.empty := by
  intro id job found
  rw [Db.empty, Table.get?_empty] at found
  cases found

theorem keyed_initial : Keyed sha256 Db.empty := by
  refine ⟨exact_initial sha256 Set.univ, fun id request listed => ?_⟩
  rw [ledger, Db.empty] at listed
  dsimp only at listed
  rw [Table.get?_empty] at listed
  cases listed

/-- The records follow the jobs to every state of a run of whole transactions iff no step of it cancels a job that can be
cancelled or retries one that has ended. -/
theorem records_follow_iff (sha256 : String → String) (actions : List Action)
    (atomic : ∀ action ∈ actions, action.atomic = true) :
    Runs.Along (step sha256) (fun state action => keepsPace state action = true) State.initial actions ↔
      ∀ passed state, passed <+: actions → run sha256 .initial passed = some state → InStep state.db := by
  have idle : ∀ state action, step sha256 state action = none → keepsPace state action = true := by
    intro state action none
    cases action with
    | cancel job =>
      rw [step] at none
      split at none <;> cases none
    | fail id error =>
      rw [keepsPace]
      rcases delivered : state.deliveries.get? id with _ | ⟨job, phase⟩
      · rfl
      · cases phase with
        | running attempt bound =>
          rw [step, delivered] at none
          cases none
        | _ => rfl
    | _ => rfl
  exact @Runs.along_iff_of_exact_within _ _ (step sha256) (fun state action => keepsPace state action = true)
    (fun action => action.atomic = true) (fun state => Keyed sha256 state.db) (fun state => InStep state.db) idle
    (fun _ _ _ keyed taken => keyed_step keyed taken) (fun _ _ _ keyed holds whole taken =>
      inStep_step keyed holds whole taken) .initial actions atomic keyed_initial inStep_initial

end Runs

/-- A job that fails once and then succeeds. -/
def retriedOnce : List Action :=
  [.enqueue nightlyCompile, .replayOutbox (fun _ => none) 1, .start 0 "host:1", .fail 0 "timeout", .advance 60,
    .tick (fun _ => none) (fun _ => "q-2") [], .advance 60, .tick (fun _ => none) (fun _ => "q-3") [], .start 1 "host:1",
    .succeed 1 (.obj [])]

theorem records_follow_retriedOnce : (∀ action ∈ retriedOnce, action.atomic = true) ∧
    ∀ passed state, passed <+: retriedOnce → run nightlyDigest .initial passed = some state → InStep state.db :=
  ⟨by decide, (records_follow_iff nightlyDigest retriedOnce (by decide)).1 (by decide)⟩

/-- The job is cancelled, and its record is being processed for ever. -/
theorem cancelled_record_open : ∃ state job record,
    run nightlyDigest .initial [.enqueue nightlyCompile, .cancel 0] = some state ∧ state.db.jobs.get? 0 = some job ∧
      job.status = .cancelled ∧ foundRecord state.db job.idempotencyKey = some record ∧ record.status = .processing ∧
      (idempotencyStatus state.db "background_job" job.idempotencyKey record.requestHash).2 = ⟨false, false⟩ ∧
      ¬InStep state.db := by
  refine ⟨_, _, _, rfl, rfl, rfl, rfl, rfl, rfl, fun inStep => ?_⟩
  obtain ⟨record, found, follows⟩ := inStep 0 _ rfl
  cases found
  exact absurd (follows.processing.1 rfl) (by decide)

end SoulClaw.Worker.Records
