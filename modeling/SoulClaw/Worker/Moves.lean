import SoulClaw.Domain.JobEffects
import SoulClaw.Worker.Queue

/-! The abstract queue: what a transaction can do to one outbox row, one job and one
delivery. Idempotency records are forgotten, and each transaction of the system is a
sequence of these moves, so a property that every move keeps holds in every run. -/

namespace SoulClaw.Worker.Moves
open Foundation Domain.Jobs Queue

structure View where
  now : Time
  jobs : Table BackgroundJob
  outbox : Table OutboxMessage
  deliveries : Table Delivery

def viewOf (now : Time) (db : Db) (deliveries : Table Delivery) : View :=
  ⟨now, db.jobs, db.outbox, deliveries⟩

def view (state : State) : View := viewOf state.now state.db state.deliveries

theorem viewOf_eq (now : Time) (deliveries : Table Delivery) {db : Db} {jobs : Table BackgroundJob}
    {outbox : Table OutboxMessage} (sameJobs : db.jobs = jobs) (sameOutbox : db.outbox = outbox) :
    viewOf now db deliveries = ⟨now, jobs, outbox, deliveries⟩ := by
  subst sameJobs sameOutbox
  rfl

theorem deliver_append_singleton (deliveries : Table Delivery) (accepted : List Nat) (job : Nat) :
    deliver deliveries (accepted ++ [job]) =
      (deliver deliveries accepted).insert ⟨job, .waiting⟩ := by
  rw [deliver, List.foldl_append]
  rfl

inductive Kind where
  | start
  | cancel
  | other
  deriving DecidableEq

def kind : Action → Kind
  | .start _ _ => .start
  | .cancel _ => .cancel
  | _ => .other

inductive Move : Kind → View → View → Prop
  | accept {v : View} {id : Nat} {message : OutboxMessage} (found : v.outbox.get? id = some message)
      (due : outboxDue v.now message) :
      Move .other v { v with
        outbox := v.outbox.set id (message.sent v.now)
        deliveries := v.deliveries.insert ⟨message.payload.jobId, .waiting⟩ }
  | postpone {v : View} {id : Nat} {message : OutboxMessage} (error : String)
      (found : v.outbox.get? id = some message) (due : outboxDue v.now message)
      (left : message.attemptCount + 1 < message.maxAttempts) :
      Move .other v { v with outbox := v.outbox.set id (message.postponed v.now error) }
  | bury {v : View} {id : Nat} {message : OutboxMessage} (error : String)
      (found : v.outbox.get? id = some message) (due : outboxDue v.now message)
      (spent : message.maxAttempts ≤ message.attemptCount + 1) :
      Move .other v { v with
        outbox := v.outbox.set id (message.buried v.now error)
        jobs := v.jobs.modify message.aggregateId (·.deadLettered v.now error) }
  | reschedule {v : View} {id : Nat} {job : BackgroundJob} {outbox : Table OutboxMessage}
      (queueId : String) (found : v.jobs.get? id = some job) (ready : readyCondition v.now job)
      (placed : Placed v.outbox (dispatchMessage id job queueId
        (dispatchKey id job ("retry:" ++ toString job.attemptCount))) outbox) :
      Move .other v { v with jobs := v.jobs.set id (job.enqueued queueId), outbox := outbox }
  | create {v : View} {outbox : Table OutboxMessage} (request : EnqueueRequest) {key : String}
      (nonempty : key ≠ "") (fresh : ∀ id job, v.jobs.get? id = some job → job.idempotencyKey ≠ key)
      (placed : Placed v.outbox (dispatchMessage v.jobs.size (newJob request key) request.queueId
        (dispatchKey v.jobs.size (newJob request key) "enqueue")) outbox) :
      Move .other v { v with
        jobs := v.jobs.insert ((newJob request key).enqueued request.queueId)
        outbox := outbox }
  | begin {v : View} {id job : Nat} {row : BackgroundJob} (lockOwner : String)
      (delivered : v.deliveries.get? id = some ⟨job, .waiting⟩)
      (found : v.jobs.get? job = some row) (runs : shouldRun row v.now = true) :
      Move .start v { v with
        jobs := v.jobs.set job (row.started v.now lockOwner)
        deliveries := v.deliveries.set id
          ⟨job, .running (row.attemptCount + 1) (capturedBound row)⟩ }
  | skip {v : View} {id job : Nat} (delivered : v.deliveries.get? id = some ⟨job, .waiting⟩)
      (idle : ∀ row, v.jobs.get? job = some row → shouldRun row v.now = false) :
      Move .start v { v with deliveries := v.deliveries.set id ⟨job, .finished none⟩ }
  | succeed {v : View} {id job attempt bound : Nat} (result : Json)
      (delivered : v.deliveries.get? id = some ⟨job, .running attempt bound⟩) :
      Move .other v { v with
        jobs := v.jobs.modify job (·.succeeded v.now result)
        deliveries := v.deliveries.set id ⟨job, .finished (some attempt)⟩ }
  | retry {v : View} {id job attempt bound : Nat} (error : String)
      (delivered : v.deliveries.get? id = some ⟨job, .running attempt bound⟩)
      (left : attempt < bound) :
      Move .other v { v with
        jobs := v.jobs.modify job (·.retrying v.now error)
        deliveries := v.deliveries.set id ⟨job, .finished (some attempt)⟩ }
  | exhaust {v : View} {id job attempt bound : Nat} (error : String)
      (delivered : v.deliveries.get? id = some ⟨job, .running attempt bound⟩)
      (spent : bound ≤ attempt) :
      Move .other v { v with
        jobs := v.jobs.modify job (·.deadLettered v.now error)
        deliveries := v.deliveries.set id ⟨job, .finished (some attempt)⟩ }
  | cancel {v : View} {id : Nat} {row : BackgroundJob} (found : v.jobs.get? id = some row)
      (cancellable : row.status ∈ [.queued, .retrying, .running]) :
      Move .cancel v { v with jobs := v.jobs.set id (row.cancelled v.now) }
  | redeliver {v : View} (job : Nat) :
      Move .other v { v with deliveries := v.deliveries.insert ⟨job, .waiting⟩ }
  | crash {v : View} {id job attempt bound : Nat}
      (delivered : v.deliveries.get? id = some ⟨job, .running attempt bound⟩) :
      Move .other v { v with deliveries := v.deliveries.set id ⟨job, .crashed attempt⟩ }
  | advance {v : View} (seconds : Nat) : Move .other v { v with now := v.now + seconds }

abbrev Sequence (kind : Kind) : View → View → Prop := Relation.ReflTransGen (Move kind)

/-- What every move of a kind keeps, the moves of that kind keep. -/
theorem moves_invariant {kind : Kind} {invariant : View → Prop}
    (preserved : ∀ before after, invariant before → Move kind before after → invariant after)
    {before after : View} (start : invariant before) (moved : Sequence kind before after) :
    invariant after := by
  induction moved with
  | refl => exact start
  | tail _ last ih => exact preserved _ _ ih last

/-! One message and one batch of the outbox. -/

theorem attempted_moves {now : Time} {refused : Option String} {before after : Dispatched} {id : Nat}
    {message : OutboxMessage} (deliveries : Table Delivery)
    (found : before.db.outbox.get? id = some message) (due : outboxDue now message)
    (attempted : Attempted now refused before id after) :
    Sequence .other (viewOf now before.db (deliver deliveries before.accepted))
      (viewOf now after.db (deliver deliveries after.accepted)) := by
  cases attempted with
  | idle _ same accepted =>
    rw [same, accepted]
  | sent current known _ outbox jobs accepted =>
    obtain rfl := Option.some.inj (found.symm.trans known)
    rw [accepted, deliver_append_singleton, viewOf_eq now _ jobs outbox]
    exact .single (.accept found due)
  | postponed current error known _ left outbox jobs accepted =>
    obtain rfl := Option.some.inj (found.symm.trans known)
    rw [accepted, viewOf_eq now _ jobs outbox]
    exact .single (.postpone error found due left)
  | buried current error known _ _ spent outbox jobs accepted =>
    obtain rfl := Option.some.inj (found.symm.trans known)
    rw [accepted, viewOf_eq now _ jobs outbox]
    exact .single (.bury error found due spent)

theorem dispatchOutbox_moves (db : Db) (now : Time) (broker : Nat → Option String) (limit : Nat)
    (deliveries : Table Delivery) :
    Sequence .other (viewOf now db deliveries)
      (viewOf now (dispatchOutbox db now broker limit).db
        (deliver deliveries (dispatchOutbox db now broker limit).accepted)) := by
  refine dispatchOutbox_induction (fun _ progress => Sequence .other (viewOf now db deliveries)
    (viewOf now progress.db (deliver deliveries progress.accepted))) .refl ?_
  intro _ before after id message moved _ _ due found attempted
  exact moved.trans (attempted_moves deliveries found due attempted)

/-! The transactions of the scheduler. -/

theorem rescheduleReady_ready {db : Db} {now : Time} {id : Nat} {job : BackgroundJob}
    (queueIds : Nat → String) (found : db.jobs.get? id = some job)
    (ready : readyCondition now job = true) (deliveries : Table Delivery) :
    ∃ after, rescheduleReady queueIds db id = .ok after ∧
      after.jobs = db.jobs.set id (job.enqueued (queueIds id)) ∧
      Move .other (viewOf now db deliveries) (viewOf now after deliveries) := by
  have retrying : job.status = .retrying := (of_decide_eq_true ready).1
  have retryable : job.status ∈ retryableJobStatuses := by
    rw [retrying]
    decide
  obtain ⟨outbox, row, scheduled, placed⟩ := scheduleDispatch_spec found
    ("retry:" ++ toString job.attemptCount) (queueIds id)
  refine ⟨{ db with jobs := _, outbox := outbox }, ?_, rfl, .reschedule (queueIds id) found ready placed⟩
  rw [rescheduleReady, getJob_of_some found]
  change (rescheduleJob _ _ _ _ >>= _) = _
  rw [rescheduleJob_eq found retryable, scheduled]
  rfl

theorem rescheduleReady_refused {db : Db} {id : Nat} {job : BackgroundJob}
    (queueIds : Nat → String) (found : db.jobs.get? id = some job)
    (refused : job.status ∉ retryableJobStatuses) :
    ∃ error, rescheduleReady queueIds db id = .error error := by
  obtain ⟨error, failed⟩ := rescheduleJob_refused found refused
    ("retry:" ++ toString job.attemptCount) (queueIds id)
  refine ⟨error, ?_⟩
  rw [rescheduleReady, getJob_of_some found]
  change (rescheduleJob _ _ _ _ >>= _) = _
  rw [failed]
  rfl

/-- A job that was rescheduled could be retried, and only its row was written. -/
theorem rescheduleReady_rescheduled {queueIds : Nat → String} {db after : Db} {id : Nat}
    (done : rescheduleReady queueIds db id = .ok after) :
    ∃ job outbox, db.jobs.get? id = some job ∧ job.status ∈ retryableJobStatuses ∧
      after = { db with jobs := db.jobs.set id (job.enqueued (queueIds id)), outbox := outbox } := by
  obtain ⟨job, found, scheduled⟩ := getJob_bind done
  by_cases retryable : job.status ∈ retryableJobStatuses
  · obtain ⟨outbox, row, written, _⟩ := scheduleDispatch_spec found
      ("retry:" ++ toString job.attemptCount) (queueIds id)
    change (rescheduleJob _ _ _ _ >>= _) = _ at scheduled
    rw [rescheduleJob_eq found retryable, written] at scheduled
    cases scheduled
    exact ⟨job, outbox, found, retryable, rfl⟩
  · obtain ⟨error, failed⟩ := rescheduleReady_refused queueIds found retryable
    rw [failed] at done
    cases done

/-- The jobs that were selected may have been dead-lettered by the batch before. Then the
loop raises; otherwise it reschedules one job after another. -/
theorem rescheduleAll_moves {now : Time} (queueIds : Nat → String) (deliveries : Table Delivery)
    (ids : List Nat) (distinct : ids.Nodup) {db after : Db}
    (selected : ∀ id ∈ ids, ∃ job, db.jobs.get? id = some job ∧
      (readyCondition now job = true ∨ job.status = .deadLetter))
    (taken : ids.foldlM (rescheduleReady queueIds) db = .ok after) :
    Sequence .other (viewOf now db deliveries) (viewOf now after deliveries) := by
  induction ids generalizing db with
  | nil =>
    cases taken
    exact .refl
  | cons id rest ih =>
    obtain ⟨job, found, ready | dead⟩ := selected id List.mem_cons_self
    · obtain ⟨next, done, jobs, moved⟩ := rescheduleReady_ready queueIds found ready deliveries
      rw [List.foldlM_cons, done] at taken
      refine .head moved (ih (List.nodup_cons.1 distinct).2 ?_ taken)
      intro other member
      have different : other ≠ id := by
        rintro rfl
        exact (List.nodup_cons.1 distinct).1 member
      rw [jobs, Table.get?_set_ne _ _ different]
      exact selected other (List.mem_cons_of_mem _ member)
    · have refused : job.status ∉ retryableJobStatuses := by
        rw [dead]
        decide
      obtain ⟨error, failed⟩ := rescheduleReady_refused queueIds found refused
      rw [List.foldlM_cons, failed] at taken
      cases taken

section System
variable (sha256 : String → String)

theorem enqueue_moves (db : Db) (now : Time) (request : EnqueueRequest)
    (deliveries : Table Delivery) {after : Db} {id : Nat}
    (taken : enqueueBackgroundJob sha256 db request = .ok (after, id)) :
    Sequence .other (viewOf now db deliveries) (viewOf now after deliveries) := by
  rcases enqueueBackgroundJob_cases sha256 db request with
    ⟨error, failed⟩ | ⟨_, _, done, jobs, outbox⟩ | ⟨_, done, fresh, jobs, placed⟩
  · rw [failed] at taken
    cases taken
  · rw [done] at taken
    cases taken
    rw [viewOf_eq now _ jobs outbox]
    exact .refl
  · rw [done] at taken
    cases taken
    rw [viewOf_eq now _ jobs rfl]
    exact .single (.create request (requestKey_ne_empty sha256 request) fresh placed)

theorem enqueueDue_moves (db : Db) (now : Time) (requests : List EnqueueRequest)
    (deliveries : Table Delivery) :
    Sequence .other (viewOf now db deliveries)
      (viewOf now (enqueueDue sha256 db requests) deliveries) := by
  induction requests generalizing db with
  | nil => exact .refl
  | cons request rest ih =>
    rw [enqueueDue, List.foldl_cons]
    cases outcome : enqueueBackgroundJob sha256 db request with
    | error _ => exact ih db
    | ok result => exact (enqueue_moves sha256 db now request deliveries outcome).trans (ih _)

/-- What was handed to the broker before a rollback is a redelivery. -/
theorem deliver_moves (v : View) (accepted : List Nat) :
    Sequence .other v { v with deliveries := deliver v.deliveries accepted } := by
  induction accepted generalizing v with
  | nil => exact .refl
  | cons job rest ih => exact .head (.redeliver job) (ih _)

theorem readyForRetry_nodup (db : Db) (now : Time) (limit : Nat) :
    (readyForRetry db now limit).Nodup :=
  (((List.perm_insertionSort _ _).nodup_iff).2 (Table.select_nodup _ _)).sublist
    (List.take_sublist _ _)

theorem mem_readyForRetry {db : Db} {now : Time} {limit id : Nat}
    (selected : id ∈ readyForRetry db now limit) :
    ∃ job, db.jobs.get? id = some job ∧ readyCondition now job = true :=
  Table.mem_select.1 ((List.perm_insertionSort _ _).mem_iff.1 (List.mem_of_mem_take selected))

/-- A batch leaves a job alone or dead-letters it. -/
theorem dispatchOutbox_job (db : Db) (now : Time) (broker : Nat → Option String) (limit : Nat)
    {id : Nat} {job : BackgroundJob} (found : db.jobs.get? id = some job) :
    ∃ after, (dispatchOutbox db now broker limit).db.jobs.get? id = some after ∧
      (after = job ∨ after.status = .deadLetter) := by
  refine dispatchOutbox_induction (fun _ progress => ∃ after,
    progress.db.jobs.get? id = some after ∧ (after = job ∨ after.status = .deadLetter))
    ⟨job, found, .inl rfl⟩ ?_
  rintro _ before after _ _ ⟨current, known, kept⟩ _ _ _ _ attempted
  cases attempted with
  | idle _ same _ => exact ⟨current, same ▸ known, kept⟩
  | sent _ _ _ _ jobs _ => exact ⟨current, jobs ▸ known, kept⟩
  | postponed _ _ _ _ _ _ jobs _ => exact ⟨current, jobs ▸ known, kept⟩
  | buried message error _ _ _ _ _ jobs _ =>
    rw [jobs, Table.get?_modify, known]
    by_cases same : id = message.aggregateId
    · rw [if_pos same]
      exact ⟨_, rfl, .inr rfl⟩
    · rw [if_neg same]
      exact ⟨current, rfl, kept⟩

theorem tick_moves (db : Db) (now : Time) (broker : Nat → Option String)
    (queueIds : Nat → String) (requests : List EnqueueRequest) (deliveries : Table Delivery) :
    Sequence .other (viewOf now db deliveries)
      (viewOf now (tick sha256 db now broker queueIds requests).1
        (deliver deliveries (tick sha256 db now broker queueIds requests).2)) := by
  unfold tick
  dsimp only
  cases outcome : dispatchRetryableJobs db (dispatchOutbox db now broker 100).db now queueIds with
  | error _ => exact deliver_moves _ _
  | ok rescheduled =>
    refine (dispatchOutbox_moves db now broker 100 deliveries).trans
      (.trans (rescheduleAll_moves queueIds _ _ (readyForRetry_nodup db now 100) ?_ outcome)
        (enqueueDue_moves sha256 rescheduled now requests _))
    intro id selected
    obtain ⟨job, found, ready⟩ := mem_readyForRetry selected
    obtain ⟨after, known, rfl | dead⟩ := dispatchOutbox_job db now broker 100 found
    · exact ⟨after, known, .inl ready⟩
    · exact ⟨after, known, .inr dead⟩

/-! The transactions of a worker. -/

theorem shouldRun_active {row : BackgroundJob} {now : Time} (runs : shouldRun row now = true) :
    ¬row.status.Terminal ∧ row.status ≠ .running := by
  unfold shouldRun at runs
  by_cases ended : row.status ∈ terminalJobStatuses ∨ row.status = .running
  · rw [if_pos ended] at runs
    cases runs
  · exact ⟨fun terminal => ended (.inl terminal), fun running => ended (.inr running)⟩

theorem startRun_skipped {db : Db} {job : Nat} {now : Time} (lockOwner : String)
    (idle : ∀ row, db.jobs.get? job = some row → shouldRun row now = false) :
    (∃ error, startRun db job now lockOwner = .error error) ∨
      startRun db job now lockOwner = .ok (db, none) := by
  unfold startRun
  cases found : db.jobs.get? job with
  | none =>
    obtain ⟨error, failed⟩ := getJob_of_none found
    rw [failed]
    exact .inl ⟨error, rfl⟩
  | some row =>
    rw [getJob_of_some found]
    refine .inr ?_
    change (if (!shouldRun row now) = true then _ else _) = _
    rw [idle row found]
    rfl

theorem startRun_begins {db : Db} {job : Nat} {row : BackgroundJob} {now : Time} (lockOwner : String)
    (found : db.jobs.get? job = some row) (runs : shouldRun row now = true) :
    startRun db job now lockOwner = .ok (db.setJob job (row.started now lockOwner),
      some (row.attemptCount + 1, capturedBound row)) := by
  unfold startRun
  rw [getJob_of_some found]
  change (if (!shouldRun row now) = true then _ else _) = _
  rw [runs]
  change (markStarted _ _ _ _ >>= _) = _
  rw [markStarted_eq found (shouldRun_active runs).1]
  change (getJob _ _ >>= _) = _
  have reread : (db.setJob job (row.started now lockOwner)).jobs.get? job =
      some (row.started now lockOwner) := Table.get?_set_self _ found
  rw [getJob_of_some reread]
  rfl

theorem failRun_writes (db : Db) (job : Nat) (now : Time) (attempt bound : Nat) (error : String) :
    WritesJob db job
      (fun row => if attempt < bound then row.retrying now error else row.deadLettered now error)
      (failRun db job now attempt bound error) := by
  unfold failRun
  by_cases left : attempt < bound
  · rw [if_neg (Nat.not_le.2 left)]
    simpa only [if_pos left] using markRetrying_writes db job now error
  · rw [if_pos (Nat.not_lt.1 left)]
    simpa only [if_neg left] using markDeadLetter_writes db job now error

theorem settle_view (state : State) (id job : Nat) (phase : Phase) {outcome : Except PyException Db}
    {write : BackgroundJob → BackgroundJob} (writes : WritesJob state.db job write outcome) :
    view (settle state id job phase outcome) =
      { view state with
        jobs := state.db.jobs.modify job write
        deliveries := state.deliveries.set id ⟨job, phase⟩ } :=
  viewOf_eq _ _ writes.jobs writes.outbox

/-- Every whole transaction is a sequence of moves of its kind. -/
theorem step_moves {state next : State} {action : Action} (atomic : action.atomic = true)
    (taken : step sha256 state action = some next) :
    Sequence (kind action) (view state) (view next) := by
  cases action with
  | enqueue request =>
    rw [step] at taken
    split at taken
    next after _ outcome =>
      cases taken
      exact enqueue_moves sha256 state.db state.now request state.deliveries outcome
    next =>
      cases taken
      exact .refl
  | cancel job =>
    rw [step] at taken
    rcases cancel_cases state.db job state.now with ⟨error, failed⟩ | ⟨row, found, cancellable, done⟩
    · rw [failed] at taken
      cases taken
      exact .refl
    · rw [done] at taken
      cases taken
      exact .single (.cancel found cancellable)
  | replayOutbox broker committed =>
    cases taken
    exact dispatchOutbox_moves state.db state.now broker _ state.deliveries
  | tick broker queueIds requests =>
    cases taken
    exact tick_moves sha256 state.db state.now broker queueIds requests state.deliveries
  | redeliver job =>
    rw [step] at taken
    split at taken
    · cases taken
      exact .single (.redeliver job)
    · cases taken
  | start id lockOwner =>
    rw [step] at taken
    split at taken
    next job delivered =>
      by_cases idle : ∀ row, state.db.jobs.get? job = some row → shouldRun row state.now = false
      · rcases startRun_skipped lockOwner idle with ⟨error, failed⟩ | skipped
        · rw [failed] at taken
          cases taken
          exact .single (.skip delivered idle)
        · rw [skipped] at taken
          cases taken
          exact .single (.skip delivered idle)
      · push Not at idle
        obtain ⟨row, found, runs⟩ := idle
        have runs : shouldRun row state.now = true := by simpa using runs
        rw [startRun_begins lockOwner found runs] at taken
        cases taken
        exact .single (.begin lockOwner delivered found runs)
    next => cases taken
  | load id => cases atomic
  | commitStart id lockOwner => cases atomic
  | succeed id result =>
    rw [step] at taken
    split at taken
    next job attempt bound delivered =>
      cases taken
      rw [settle_view state id job _ (markSucceeded_writes state.db job state.now result)]
      exact .single (.succeed result delivered)
    next => cases taken
  | fail id error =>
    rw [step] at taken
    split at taken
    next job attempt bound delivered =>
      cases taken
      rw [settle_view state id job _ (failRun_writes state.db job state.now attempt bound error)]
      by_cases left : attempt < bound
      · simp only [if_pos left]
        exact .single (.retry error delivered left)
      · simp only [if_neg left]
        exact .single (.exhaust error delivered (Nat.not_lt.1 left))
    next => cases taken
  | crash id =>
    rw [step] at taken
    split at taken
    next job attempt bound delivered =>
      cases taken
      exact .single (.crash delivered)
    next => cases taken
  | advance seconds =>
    cases taken
    exact .single (.advance seconds)

/-- What every move keeps holds at the end of every run of whole transactions. -/
theorem run_moves_invariant {invariant : View → Prop}
    (preserved : ∀ kind before after, invariant before → Move kind before after → invariant after)
    {state last : State} {actions : List Action} (start : invariant (view state))
    (atomic : ∀ action ∈ actions, action.atomic = true) (ran : run sha256 state actions = some last) :
    invariant (view last) :=
  Runs.run_invariant_along (fun s => invariant (view s))
    (fun _ action _ holds whole taken =>
      moves_invariant (preserved (kind action)) holds (step_moves sha256 whole taken))
    start (Runs.along_of_forall_mem state actions atomic) ran

end System

/-! What the deliveries say about their jobs. -/

section Observe
variable {Seen : Type} (observer : Phase → Option Seen)

/-- The job of a delivery together with what the observer sees in its phase. -/
def observe (deliveries : Table Delivery) (id : Nat) : Option (Nat × Seen) :=
  (deliveries.get? id).bind fun delivery => (observer delivery.phase).map (delivery.job, ·)

variable {observer}

theorem observe_of_get {deliveries : Table Delivery} {id job : Nat} {phase : Phase}
    (found : deliveries.get? id = some ⟨job, phase⟩) :
    observe observer deliveries id = (observer phase).map (job, ·) := by
  rw [observe, found]
  rfl

theorem observe_insert (unseen : observer .waiting = none) (deliveries : Table Delivery)
    (job : Nat) :
    observe observer (deliveries.insert ⟨job, .waiting⟩) = observe observer deliveries := by
  funext id
  unfold observe
  rw [Table.get?_insert]
  split
  next fresh =>
    rw [Table.get?_of_size_le (Nat.le_of_eq fresh.symm)]
    simp [unseen]
  next => rfl

theorem observe_set {deliveries : Table Delivery} {id : Nat} {old : Delivery}
    (found : deliveries.get? id = some old) (job : Nat) (phase : Phase) :
    observe observer (deliveries.set id ⟨job, phase⟩) =
      fun other => if other = id then (observer phase).map (job, ·)
        else observe observer deliveries other := by
  funext other
  unfold observe
  by_cases same : other = id
  · rw [if_pos same, same, Table.get?_set_self _ found]
    rfl
  · rw [if_neg same, Table.get?_set_ne _ _ same]

/-- A phase that shows the same as the one before does not change what is seen. -/
theorem observe_set_same {deliveries : Table Delivery} {id job : Nat} {phase next : Phase}
    (found : deliveries.get? id = some ⟨job, phase⟩) (same : observer next = observer phase) :
    observe observer (deliveries.set id ⟨job, next⟩) = observe observer deliveries := by
  rw [observe_set found]
  funext other
  by_cases here : other = id
  · rw [if_pos here, here, observe_of_get found, same]
  · rw [if_neg here]

end Observe

end SoulClaw.Worker.Moves
