import SoulClaw.Worker.Attempts

/-! The coupling of jobs, outbox rows and deliveries. A queued job is always on its way to
a worker, and the keys of the outbox name each dispatch of each job once. -/

namespace SoulClaw.Worker.Coupling
open Foundation Domain.Jobs Queue Moves Attempts

/-! Dispatch keys. -/

def keyOf (base reason : String) (attempt : Nat) : String :=
  "dispatch:" ++ base ++ ":" ++ reason ++ ":" ++ toString attempt

def enqueueKey (base : String) : String := keyOf base "enqueue" 0

def retryKey (base : String) (attempt : Nat) : String :=
  keyOf base ("retry:" ++ toString attempt) attempt

theorem keyOf_inj {base other reason cause : String} {attempt later : Nat}
    (same : keyOf base reason attempt = keyOf other cause later) :
    base ++ ":" ++ reason = other ++ ":" ++ cause ∧ attempt = later := by
  have split : ("dispatch:" ++ (base ++ ":" ++ reason)) ++ (String.singleton ':' ++ toString attempt) =
      ("dispatch:" ++ (other ++ ":" ++ cause)) ++ (String.singleton ':' ++ toString later) := by
    simpa [keyOf, String.append_assoc] using same
  obtain ⟨heads, counts⟩ := Text.append_separator_inj (Text.colon_notMem_toString attempt)
    (Text.colon_notMem_toString later) split
  exact ⟨(String.append_right_inj _).1 heads, Text.toString_nat_injective counts⟩

theorem enqueueKey_inj {base other : String} (same : enqueueKey base = enqueueKey other) :
    base = other := by
  have heads := (keyOf_inj same).1
  rw [String.append_assoc, String.append_assoc] at heads
  exact (String.append_left_inj _).1 heads

theorem retryKey_inj {base other : String} {attempt later : Nat}
    (same : retryKey base attempt = retryKey other later) : base = other ∧ attempt = later := by
  obtain ⟨heads, rfl⟩ := keyOf_inj same
  rw [String.append_assoc, String.append_assoc] at heads
  exact ⟨(String.append_left_inj _).1 heads, rfl⟩

/-- A retry never asks for the key of a first dispatch: their reasons end differently. -/
theorem enqueueKey_ne_retryKey (base other : String) (attempt : Nat) :
    enqueueKey base ≠ retryKey other attempt := by
  intro same
  obtain ⟨heads, rfl⟩ := keyOf_inj same
  have zero : toString 0 = "0" := by decide
  rw [zero] at heads
  have split : base ++ (String.singleton ':' ++ "enqueue") =
      (other ++ ":" ++ "retry") ++ (String.singleton ':' ++ "0") := by
    simpa [String.append_assoc] using heads
  have tails := (Text.append_separator_inj (by decide) (by decide) split).2
  exact absurd tails (by decide)

theorem dispatchKey_enqueue (id : Nat) (request : EnqueueRequest) {key : String}
    (nonempty : key ≠ "") : dispatchKey id (newJob request key) "enqueue" = enqueueKey key := by
  have base : keyBase id (newJob request key) = key := if_neg nonempty
  rw [dispatchKey, base]
  rfl

theorem dispatchKey_retry (id : Nat) {job : BackgroundJob} (keyed : job.idempotencyKey ≠ "") :
    dispatchKey id job ("retry:" ++ toString job.attemptCount) =
      retryKey job.idempotencyKey job.attemptCount := by
  rw [dispatchKey, keyBase, if_neg keyed]
  rfl

/-! Where an outbox row comes from. -/

/-- The attempt of a retry dispatch is over, or it waits for its run. -/
def Spent (runner : Nat → Option (Nat × Nat)) (id : Nat) (job : BackgroundJob) (attempt : Nat) : Prop :=
  attempt < job.attemptCount ∨
    attempt = job.attemptCount ∧ job.status ≠ .retrying ∧ ∀ delivery count,
      runner delivery ≠ some (id, count)

structure Placement (jobs : Table BackgroundJob) (runner : Nat → Option (Nat × Nat))
    (message : OutboxMessage) : Prop where
  topic : message.topic = "celery.dispatch"
  target : message.payload.jobId = message.aggregateId
  origin : ∃ job, jobs.get? message.aggregateId = some job ∧
    (message.idempotencyKey = enqueueKey job.idempotencyKey ∨
      ∃ attempt, message.idempotencyKey = retryKey job.idempotencyKey attempt ∧
        Spent runner message.aggregateId job attempt)

namespace Placement
variable {jobs : Table BackgroundJob} {runner : Nat → Option (Nat × Nat)} {message : OutboxMessage}
  (placement : Placement jobs runner message)
include placement

theorem of_same {other : OutboxMessage} (topic : other.topic = message.topic)
    (payload : other.payload = message.payload) (aggregate : other.aggregateId = message.aggregateId)
    (key : other.idempotencyKey = message.idempotencyKey) : Placement jobs runner other := by
  refine ⟨topic.trans placement.topic, ?_, ?_⟩
  · rw [payload, aggregate, placement.target]
  · rw [key, aggregate]
    exact placement.origin

theorem insert (row : BackgroundJob) : Placement (jobs.insert row) runner message := by
  obtain ⟨job, found, source⟩ := placement.origin
  exact ⟨placement.topic, placement.target, job, Table.get?_insert_of_some row found, source⟩

/-- A write to a job row. Its dispatches stay spent when the counter grows, when the row
does not become `retrying`, and when the write ends the run of the job. -/
theorem modify {id : Nat} {change : BackgroundJob → BackgroundJob}
    {later : Nat → Option (Nat × Nat)}
    (others : ∀ delivery job count, job ≠ id → later delivery = some (job, count) →
      runner delivery = some (job, count))
    (written : ∀ row, jobs.get? id = some row →
      (change row).idempotencyKey = row.idempotencyKey ∧
      (row.attemptCount < (change row).attemptCount ∨
        (change row).attemptCount = row.attemptCount ∧
          ((∃ delivery count, runner delivery = some (id, count)) ∨
            (change row).status ≠ .retrying ∧ ∀ delivery count, later delivery = some (id, count) →
              runner delivery = some (id, count)))) :
    Placement (jobs.modify id change) later message := by
  obtain ⟨job, found, source⟩ := placement.origin
  refine ⟨placement.topic, placement.target, ?_⟩
  rw [Table.get?_modify]
  by_cases here : message.aggregateId = id
  · subst here
    obtain ⟨key, counter⟩ := written job found
    rw [if_pos rfl, found]
    refine ⟨_, rfl, ?_⟩
    rw [key]
    refine source.imp_right ?_
    rintro ⟨attempt, same, spent⟩
    refine ⟨attempt, same, ?_⟩
    rcases counter with grown | ⟨kept, ⟨delivery, count, running⟩ | ⟨idle, closed⟩⟩
    · refine .inl ?_
      rcases spent with passed | ⟨equal, _⟩
      · exact passed.trans grown
      · exact equal ▸ grown
    · rcases spent with passed | ⟨_, _, free⟩
      · exact .inl (kept ▸ passed)
      · exact absurd running (free delivery count)
    · rcases spent with passed | ⟨equal, _, free⟩
      · exact .inl (kept ▸ passed)
      · exact .inr ⟨kept ▸ equal, idle, fun delivery count running =>
          free delivery count (closed delivery count running)⟩
  · rw [if_neg here]
    refine ⟨job, found, source.imp_right ?_⟩
    rintro ⟨attempt, same, spent⟩
    refine ⟨attempt, same, spent.imp_right ?_⟩
    rintro ⟨equal, idle, free⟩
    exact ⟨equal, idle, fun delivery count running =>
      free delivery count (others delivery _ count here running)⟩

end Placement

/-! Jobs on their way to a worker. -/

abbrev Active (message : OutboxMessage) : Prop :=
  message.status = .pending ∨ message.status = .retrying

def ActiveRow (outbox : Table OutboxMessage) (id : Nat) : Prop :=
  ∃ row message, outbox.get? row = some message ∧ message.aggregateId = id ∧ Active message

def WaitingDelivery (deliveries : Table Delivery) (id : Nat) : Prop :=
  ∃ delivery, deliveries.get? delivery = some ⟨id, .waiting⟩

theorem outboxDue_active {now : Time} {message : OutboxMessage} (due : outboxDue now message = true) :
    Active message := (of_decide_eq_true due).1

theorem ActiveRow.insert {outbox : Table OutboxMessage} {id : Nat} (active : ActiveRow outbox id)
    (message : OutboxMessage) : ActiveRow (outbox.insert message) id := by
  obtain ⟨row, old, found, target, waits⟩ := active
  exact ⟨row, old, Table.get?_insert_of_some message found, target, waits⟩

theorem ActiveRow.set {outbox : Table OutboxMessage} {id row : Nat} {old next : OutboxMessage}
    (active : ActiveRow outbox id) (found : outbox.get? row = some old)
    (target : next.aggregateId = old.aggregateId) (kept : old.aggregateId = id → Active next) :
    ActiveRow (outbox.set row next) id := by
  obtain ⟨other, current, known, aggregate, waits⟩ := active
  by_cases here : other = row
  · subst here
    obtain rfl := Option.some.inj (known.symm.trans found)
    exact ⟨other, next, Table.get?_set_self next found, target.trans aggregate, kept aggregate⟩
  · exact ⟨other, current, by rw [Table.get?_set_ne _ _ here, known], aggregate, waits⟩

theorem WaitingDelivery.insert {deliveries : Table Delivery} {id : Nat}
    (waiting : WaitingDelivery deliveries id) (delivery : Delivery) :
    WaitingDelivery (deliveries.insert delivery) id := by
  obtain ⟨place, found⟩ := waiting
  exact ⟨place, Table.get?_insert_of_some delivery found⟩

theorem WaitingDelivery.set {deliveries : Table Delivery} {id place : Nat} {old : Delivery}
    (waiting : WaitingDelivery deliveries id) (next : Delivery)
    (found : deliveries.get? place = some old) (other : old ≠ ⟨id, .waiting⟩) :
    WaitingDelivery (deliveries.set place next) id := by
  obtain ⟨known, delivered⟩ := waiting
  have different : known ≠ place := by
    rintro rfl
    exact other (Option.some.inj (found.symm.trans delivered))
  exact ⟨known, by rw [Table.get?_set_ne _ _ different, delivered]⟩

/-- Every job has a key of its own, and a queued job may run now. -/
structure Keyed (now : Time) (jobs : Table BackgroundJob) : Prop where
  nonempty : ∀ id job, jobs.get? id = some job → job.idempotencyKey ≠ ""
  distinct : ∀ first second job other, jobs.get? first = some job →
    jobs.get? second = some other → job.idempotencyKey = other.idempotencyKey → first = second
  due : ∀ id job, jobs.get? id = some job → job.status = .queued →
    job.nextRetryAt.all (· ≤ now) = true

namespace Keyed
variable {now : Time} {jobs : Table BackgroundJob} (keyed : Keyed now jobs)
include keyed

theorem modify {id : Nat} {change : BackgroundJob → BackgroundJob}
    (key : ∀ row, (change row).idempotencyKey = row.idempotencyKey)
    (due : ∀ row, jobs.get? id = some row → (change row).status = .queued →
      (change row).nextRetryAt.all (· ≤ now) = true) : Keyed now (jobs.modify id change) := by
  have origin : ∀ {other job}, (jobs.modify id change).get? other = some job →
      ∃ old, jobs.get? other = some old ∧ job.idempotencyKey = old.idempotencyKey := by
    intro other job found
    obtain ⟨old, known, ⟨_, same⟩ | ⟨_, changed⟩⟩ := Table.modify_cases found
    · exact ⟨old, known, by rw [same]⟩
    · exact ⟨old, known, by rw [changed, key]⟩
  refine ⟨?_, ?_, ?_⟩
  · intro other job found
    obtain ⟨old, known, same⟩ := origin found
    exact same ▸ keyed.nonempty other old known
  · intro first second job other one two same
    obtain ⟨old, known, left⟩ := origin one
    obtain ⟨rival, present, right⟩ := origin two
    exact keyed.distinct first second old rival known present (left.symm.trans (same.trans right))
  · intro other job found queued
    obtain ⟨old, known, ⟨_, same⟩ | ⟨here, changed⟩⟩ := Table.modify_cases found
    · exact keyed.due other job (same ▸ known) queued
    · rw [changed] at queued ⊢
      exact due old (here ▸ known) queued

theorem insert {row : BackgroundJob} (nonempty : row.idempotencyKey ≠ "")
    (fresh : ∀ id job, jobs.get? id = some job → job.idempotencyKey ≠ row.idempotencyKey)
    (due : row.nextRetryAt = none) : Keyed now (jobs.insert row) := by
  refine ⟨?_, ?_, ?_⟩
  · intro id job found
    rcases Table.insert_cases found with known | ⟨_, new⟩
    · exact keyed.nonempty id job known
    · exact new ▸ nonempty
  · intro first second job other one two same
    rcases Table.insert_cases one with left | ⟨here, new⟩
    · rcases Table.insert_cases two with right | ⟨_, new⟩
      · exact keyed.distinct first second job other left right same
      · exact absurd same (new ▸ fresh first job left)
    · rcases Table.insert_cases two with right | ⟨there, _⟩
      · exact absurd same.symm (new ▸ fresh second other right)
      · exact here.trans there.symm
  · intro id job found queued
    rcases Table.insert_cases found with known | ⟨_, new⟩
    · exact keyed.due id job known queued
    · rw [new, due]
      rfl

theorem later (seconds : Nat) : Keyed (now + seconds) jobs := by
  refine ⟨keyed.nonempty, keyed.distinct, fun id job found queued => ?_⟩
  have due := keyed.due id job found queued
  rw [Option.all_eq_true] at due ⊢
  intro time at'
  exact decide_eq_true ((of_decide_eq_true (due time at')).trans (Nat.le_add_right _ _))

end Keyed

/-- A queued job has an outbox row that will be dispatched, or a delivery of it waits. -/
def OnTheWay (jobs : Table BackgroundJob) (outbox : Table OutboxMessage)
    (deliveries : Table Delivery) : Prop :=
  ∀ id job, jobs.get? id = some job → job.status = .queued →
    ActiveRow outbox id ∨ WaitingDelivery deliveries id

/-- The coupling invariant of the three stores. -/
structure Coupled (v : View) : Prop where
  attempts : SingleRunner v
  keyed : Keyed v.now v.jobs
  placements : ∀ row message, v.outbox.get? row = some message →
    Placement v.jobs (observe openAttempt v.deliveries) message
  onTheWay : OnTheWay v.jobs v.outbox v.deliveries

theorem retry_fresh {v : View} (coupled : Coupled v) {id : Nat} {job : BackgroundJob}
    (found : v.jobs.get? id = some job) (retrying : job.status = .retrying) (row : Nat)
    (old : OutboxMessage) (known : v.outbox.get? row = some old) :
    old.idempotencyKey ≠ dispatchKey id job ("retry:" ++ toString job.attemptCount) := by
  rw [dispatchKey_retry id (coupled.keyed.nonempty id job found)]
  intro same
  obtain ⟨owner, present, first | ⟨attempt, later, spent⟩⟩ := (coupled.placements row old known).origin
  · exact enqueueKey_ne_retryKey _ _ _ (first.symm.trans same)
  · obtain ⟨keys, rfl⟩ := retryKey_inj (later.symm.trans same)
    obtain rfl := coupled.keyed.distinct _ _ _ _ present found keys
    obtain rfl := Option.some.inj (found.symm.trans present)
    rcases spent with passed | ⟨_, idle, _⟩
    · exact Nat.lt_irrefl _ passed
    · exact idle retrying

theorem enqueue_fresh {v : View} (coupled : Coupled v) {key : String}
    (fresh : ∀ id job, v.jobs.get? id = some job → job.idempotencyKey ≠ key) (row : Nat)
    (old : OutboxMessage) (known : v.outbox.get? row = some old) :
    old.idempotencyKey ≠ enqueueKey key := by
  intro same
  obtain ⟨owner, present, first | ⟨attempt, later, _⟩⟩ := (coupled.placements row old known).origin
  · exact fresh _ owner present (enqueueKey_inj (first.symm.trans same))
  · exact enqueueKey_ne_retryKey _ _ _ (same.symm.trans later)

/-! What the stores keep when one row changes. -/

theorem placements_set {jobs : Table BackgroundJob} {runner : Nat → Option (Nat × Nat)}
    {outbox : Table OutboxMessage} {row : Nat} {old next : OutboxMessage}
    (placements : ∀ id message, outbox.get? id = some message → Placement jobs runner message)
    (found : outbox.get? row = some old) (kept : Placement jobs runner next) :
    ∀ id message, (outbox.set row next).get? id = some message → Placement jobs runner message := by
  intro id message known
  by_cases here : id = row
  · rw [here, Table.get?_set_self next found] at known
    exact Option.some.inj known ▸ kept
  · rw [Table.get?_set_ne _ _ here] at known
    exact placements id message known

theorem placements_insert {jobs : Table BackgroundJob} {runner : Nat → Option (Nat × Nat)}
    {outbox : Table OutboxMessage} {next : OutboxMessage}
    (placements : ∀ id message, outbox.get? id = some message → Placement jobs runner message)
    (kept : Placement jobs runner next) :
    ∀ id message, (outbox.insert next).get? id = some message → Placement jobs runner message := by
  intro id message known
  rcases Table.insert_cases known with old | ⟨_, new⟩
  · exact placements id message old
  · exact new ▸ kept

namespace OnTheWay
variable {jobs : Table BackgroundJob} {outbox : Table OutboxMessage} {deliveries : Table Delivery}
  (way : OnTheWay jobs outbox deliveries)
include way

theorem modify {id : Nat} {change : BackgroundJob → BackgroundJob}
    (away : ∀ row, (change row).status ≠ .queued) :
    OnTheWay (jobs.modify id change) outbox deliveries := by
  intro other job found queued
  obtain ⟨old, known, ⟨_, same⟩ | ⟨_, changed⟩⟩ := Table.modify_cases found
  · exact way other job (same ▸ known) queued
  · exact absurd queued (changed ▸ away old)

theorem deliver (delivery : Delivery) : OnTheWay jobs outbox (deliveries.insert delivery) :=
  fun id job found queued => (way id job found queued).imp_right (·.insert delivery)

/-- A delivery that does not wait for a queued job may move on. -/
theorem proceed {place : Nat} {old : Delivery} (next : Delivery)
    (found : deliveries.get? place = some old)
    (other : ∀ id job, jobs.get? id = some job → job.status = .queued → old ≠ ⟨id, .waiting⟩) :
    OnTheWay jobs outbox (deliveries.set place next) :=
  fun id job known queued => (way id job known queued).imp_right
    fun waiting => waiting.set next found (other id job known queued)

end OnTheWay

theorem queued_runs {job : BackgroundJob} {now : Time} (queued : job.status = .queued)
    (due : job.nextRetryAt.all (· ≤ now) = true) : shouldRun job now = true := by
  unfold shouldRun
  rw [queued, if_neg (by decide)]
  cases next : job.nextRetryAt with
  | none => rfl
  | some time =>
    rw [next] at due
    exact due

section Steps
variable {v : View} (coupled : Coupled v)
include coupled

/-- The row of a message that stays the dispatch of its job is replaced. -/
theorem Coupled.setOutbox {row : Nat} {old : OutboxMessage} (next : OutboxMessage)
    (found : v.outbox.get? row = some old) (topic : next.topic = old.topic)
    (payload : next.payload = old.payload) (target : next.aggregateId = old.aggregateId)
    (key : next.idempotencyKey = old.idempotencyKey) :
    ∀ id message, (v.outbox.set row next).get? id = some message →
      Placement v.jobs (observe openAttempt v.deliveries) message :=
  placements_set coupled.placements found
    ((coupled.placements row old found).of_same topic payload target key)

theorem coupled_accept {row : Nat} {message : OutboxMessage}
    (found : v.outbox.get? row = some message) :
    OnTheWay v.jobs (v.outbox.set row (message.sent v.now))
      (v.deliveries.insert ⟨message.payload.jobId, .waiting⟩) := by
  intro id job known queued
  rcases coupled.onTheWay id job known queued with active | waiting
  · by_cases target : message.aggregateId = id
    · have delivered := (coupled.placements row message found).target.trans target
      exact .inr ⟨v.deliveries.size, delivered ▸ Table.get?_insert_self _ _⟩
    · exact .inl (active.set found rfl fun same => absurd same target)
  · exact .inr (waiting.insert _)

theorem coupled_bury {row : Nat} {message : OutboxMessage} (error : String)
    (found : v.outbox.get? row = some message) :
    OnTheWay (v.jobs.modify message.aggregateId (·.deadLettered v.now error))
      (v.outbox.set row (message.buried v.now error)) v.deliveries := by
  intro id job known queued
  obtain ⟨old, before, ⟨other, same⟩ | ⟨_, changed⟩⟩ := Table.modify_cases known
  · have way := coupled.onTheWay id job (same ▸ before) queued
    exact way.imp_left fun active => active.set found rfl fun target => absurd target.symm other
  · rw [changed] at queued
    cases queued

theorem coupled_reschedule {id : Nat} {job : BackgroundJob} (queueId : String)
    (found : v.jobs.get? id = some job) (ready : readyCondition v.now job = true)
    (attempts : SingleRunner { v with
      jobs := v.jobs.set id (job.enqueued queueId)
      outbox := v.outbox.insert (dispatchMessage id job queueId
        (dispatchKey id job ("retry:" ++ toString job.attemptCount))) }) :
    Coupled { v with
      jobs := v.jobs.set id (job.enqueued queueId)
      outbox := v.outbox.insert (dispatchMessage id job queueId
        (dispatchKey id job ("retry:" ++ toString job.attemptCount))) } := by
  have retryable := ready_retryable ready
  have nonempty := coupled.keyed.nonempty id job found
  have free := coupled.attempts.owned.idle found retryable
  have written : v.jobs.set id (job.enqueued queueId) = v.jobs.modify id (·.enqueued queueId) :=
    (Table.modify_of_some (BackgroundJob.enqueued queueId) found).symm
  refine ⟨attempts, ?_, ?_, ?_⟩
  · dsimp only
    rw [written]
    refine coupled.keyed.modify ?_ ?_
    · exact fun _ => rfl
    · intro row known _
      obtain rfl := Option.some.inj (found.symm.trans known)
      exact (of_decide_eq_true ready).2
  · dsimp only
    apply placements_insert
    · intro place message known
      rw [written]
      exact (coupled.placements place message known).modify (fun _ _ _ _ running => running)
        fun row _ => ⟨rfl, .inr ⟨rfl, .inr ⟨by simp [BackgroundJob.enqueued], fun _ _ running => running⟩⟩⟩
    · refine ⟨rfl, rfl, _, Table.get?_set_self _ found, .inr ⟨job.attemptCount, ?_, .inr ⟨rfl, ?_, free⟩⟩⟩
      · exact dispatchKey_retry id nonempty
      · simp [BackgroundJob.enqueued]
  · intro other row known queued
    by_cases here : other = id
    · exact .inl ⟨v.outbox.size, _, Table.get?_insert_self _ _, here.symm, .inl rfl⟩
    · dsimp only at known
      rw [Table.get?_set_ne _ _ here] at known
      exact (coupled.onTheWay other row known queued).imp_left (·.insert _)

theorem coupled_create (request : EnqueueRequest) {key : String} (nonempty : key ≠ "")
    (fresh : ∀ id job, v.jobs.get? id = some job → job.idempotencyKey ≠ key)
    (attempts : SingleRunner { v with
      jobs := v.jobs.insert ((newJob request key).enqueued request.queueId)
      outbox := v.outbox.insert (dispatchMessage v.jobs.size (newJob request key) request.queueId
        (dispatchKey v.jobs.size (newJob request key) "enqueue")) }) :
    Coupled { v with
      jobs := v.jobs.insert ((newJob request key).enqueued request.queueId)
      outbox := v.outbox.insert (dispatchMessage v.jobs.size (newJob request key) request.queueId
        (dispatchKey v.jobs.size (newJob request key) "enqueue")) } := by
  refine ⟨attempts, coupled.keyed.insert nonempty fresh rfl, ?_, ?_⟩
  · apply placements_insert
    · exact fun place message known => (coupled.placements place message known).insert _
    · exact ⟨rfl, rfl, _, Table.get?_insert_self _ _, .inl (dispatchKey_enqueue _ request nonempty)⟩
  · intro id job known queued
    rcases Table.insert_cases known with old | ⟨here, _⟩
    · exact (coupled.onTheWay id job old queued).imp_left (·.insert _)
    · exact .inl ⟨v.outbox.size, _, Table.get?_insert_self _ _, here.symm, .inl rfl⟩

theorem coupled_begin {id job : Nat} {row : BackgroundJob} (lockOwner : String)
    (delivered : v.deliveries.get? id = some ⟨job, .waiting⟩)
    (found : v.jobs.get? job = some row)
    (attempts : SingleRunner { v with
      jobs := v.jobs.set job (row.started v.now lockOwner)
      deliveries := v.deliveries.set id ⟨job, .running (row.attemptCount + 1) (capturedBound row)⟩ }) :
    Coupled { v with
      jobs := v.jobs.set job (row.started v.now lockOwner)
      deliveries := v.deliveries.set id
        ⟨job, .running (row.attemptCount + 1) (capturedBound row)⟩ } := by
  have written : v.jobs.set job (row.started v.now lockOwner) =
      v.jobs.modify job (·.started v.now lockOwner) :=
    (Table.modify_of_some (BackgroundJob.started v.now lockOwner) found).symm
  have away : ∀ row : BackgroundJob, (row.started v.now lockOwner).status ≠ .queued := by
    simp [BackgroundJob.started]
  refine ⟨attempts, ?_, ?_, ?_⟩
  · dsimp only
    rw [written]
    exact coupled.keyed.modify (fun _ => rfl) fun row _ queued => absurd queued (away row)
  · intro place message known
    rw [written, observe_set delivered]
    refine (coupled.placements place message known).modify ?_ fun row _ => ⟨rfl, .inl (Nat.lt_succ_self _)⟩
    intro delivery other count different running
    split at running
    · cases running
      exact absurd rfl different
    · exact running
  · dsimp only
    rw [written]
    refine (coupled.onTheWay.modify away).proceed _ delivered ?_
    intro other current known queued same
    cases same
    obtain ⟨_, _, ⟨different, _⟩ | ⟨_, changed⟩⟩ := Table.modify_cases known
    · exact different rfl
    · exact away _ (changed ▸ queued)

/-- The end of a run, whatever it writes. -/
theorem coupled_finish {id job attempt bound : Nat} {change : BackgroundJob → BackgroundJob}
    (delivered : v.deliveries.get? id = some ⟨job, .running attempt bound⟩)
    (key : ∀ row, (change row).idempotencyKey = row.idempotencyKey)
    (counter : ∀ row, (change row).attemptCount = row.attemptCount)
    (away : ∀ row, (change row).status ≠ .queued)
    (attempts : SingleRunner { v with
      jobs := v.jobs.modify job change
      deliveries := v.deliveries.set id ⟨job, .finished (some attempt)⟩ }) :
    Coupled { v with
      jobs := v.jobs.modify job change
      deliveries := v.deliveries.set id ⟨job, .finished (some attempt)⟩ } := by
  refine ⟨attempts, coupled.keyed.modify key fun row _ queued => absurd queued (away row), ?_, ?_⟩
  · intro place message known
    rw [observe_set delivered]
    refine (coupled.placements place message known).modify ?_
      fun row _ => ⟨key row, .inr ⟨counter row, .inl ⟨id, attempt, observe_of_get delivered⟩⟩⟩
    intro delivery other count _ running
    split at running
    · cases running
    · exact running
  · exact (coupled.onTheWay.modify away).proceed _ delivered fun _ _ _ _ same => by cases same

end Steps

theorem coupled_initial : Coupled (view State.initial) where
  attempts := singleRunner_initial
  keyed := ⟨fun _ _ found => (by cases found), fun _ _ _ _ found => (by cases found),
    fun _ _ found => (by cases found)⟩
  placements := fun _ _ found => (by cases found)
  onTheWay := fun _ _ found => (by cases found)

theorem coupled_move (kind : Kind) (before after : View) (coupled : Coupled before)
    (moved : Move kind before after) : Coupled after := by
  have attempts := singleRunner_move kind before after coupled.attempts moved
  cases moved with
  | accept found due =>
    refine ⟨attempts, coupled.keyed, ?_, coupled_accept coupled found⟩
    dsimp only
    rw [observe_insert rfl]
    exact coupled.setOutbox _ found rfl rfl rfl rfl
  | postpone error found due left =>
    refine ⟨attempts, coupled.keyed, coupled.setOutbox _ found rfl rfl rfl rfl, ?_⟩
    exact fun id job known queued => (coupled.onTheWay id job known queued).imp_left
      fun active => active.set found rfl fun _ => .inr rfl
  | bury error found due spent =>
    have away : ∀ row : BackgroundJob, (row.deadLettered before.now error).status ≠ .queued := by
      simp [BackgroundJob.deadLettered]
    refine ⟨attempts, coupled.keyed.modify (fun _ => rfl) fun row _ queued => absurd queued (away row),
      ?_, coupled_bury coupled error found⟩
    intro place message known
    have placement := coupled.setOutbox (OutboxMessage.buried before.now error _) found rfl rfl rfl rfl
      place message known
    exact placement.modify
      (fun _ _ _ _ running => running) fun row _ => ⟨rfl, .inr ⟨rfl, .inr
        ⟨by simp [BackgroundJob.deadLettered], fun _ _ running => running⟩⟩⟩
  | reschedule queueId found ready placed =>
    have retrying := (of_decide_eq_true ready).1
    obtain rfl := placed.of_fresh (retry_fresh coupled found retrying)
    exact coupled_reschedule coupled queueId found ready attempts
  | @create _ _ request key nonempty fresh placed =>
    have free := enqueue_fresh coupled fresh
    rw [← dispatchKey_enqueue before.jobs.size request nonempty] at free
    obtain rfl := placed.of_fresh free
    exact coupled_create coupled request nonempty fresh attempts
  | begin lockOwner delivered found runs => exact coupled_begin coupled lockOwner delivered found attempts
  | skip delivered idle =>
    refine ⟨attempts, coupled.keyed, ?_, ?_⟩
    · dsimp only
      rw [observe_set_same delivered]
      · exact coupled.placements
      · rfl
    · refine coupled.onTheWay.proceed _ delivered fun other job known queued same => ?_
      cases same
      have runs := queued_runs queued (coupled.keyed.due _ job known queued)
      rw [idle job known] at runs
      cases runs
  | succeed result delivered =>
    exact coupled_finish coupled delivered (fun _ => rfl) (fun _ => rfl)
      (by simp [BackgroundJob.succeeded]) attempts
  | retry error delivered left =>
    exact coupled_finish coupled delivered (fun _ => rfl) (fun _ => rfl)
      (by simp [BackgroundJob.retrying]) attempts
  | exhaust error delivered spent =>
    exact coupled_finish coupled delivered (fun _ => rfl) (fun _ => rfl)
      (by simp [BackgroundJob.deadLettered]) attempts
  | cancel found cancellable =>
    have away : ∀ row : BackgroundJob, (row.cancelled before.now).status ≠ .queued := by
      simp [BackgroundJob.cancelled]
    have written := (Table.modify_of_some (fun row => row.cancelled before.now) found).symm
    refine ⟨attempts, ?_, ?_, ?_⟩
    · dsimp only
      rw [written]
      exact coupled.keyed.modify (fun _ => rfl) fun row _ queued => absurd queued (away row)
    · intro place message known
      rw [written]
      exact (coupled.placements place message known).modify (fun _ _ _ _ running => running)
        fun row _ => ⟨rfl, .inr ⟨rfl, .inr ⟨by simp [BackgroundJob.cancelled],
          fun _ _ running => running⟩⟩⟩
    · dsimp only
      rw [written]
      exact coupled.onTheWay.modify away
  | redeliver job =>
    refine ⟨attempts, coupled.keyed, ?_, coupled.onTheWay.deliver _⟩
    dsimp only
    rw [observe_insert rfl]
    exact coupled.placements
  | crash delivered =>
    refine ⟨attempts, coupled.keyed, ?_,
      coupled.onTheWay.proceed _ delivered fun _ _ _ _ same => by cases same⟩
    dsimp only
    rw [observe_set_same delivered]
    · exact coupled.placements
    · rfl
  | advance seconds => exact ⟨attempts, coupled.keyed.later seconds, coupled.placements, coupled.onTheWay⟩

/-! Rows that a transaction adds. -/

def NewRow (known : Nat) (outbox : Table OutboxMessage) (id : Nat) : Prop :=
  ∃ row message, known ≤ row ∧ outbox.get? row = some message ∧ message.aggregateId = id

def QueuedJob (jobs : Table BackgroundJob) (id : Nat) : Prop :=
  ∃ job, jobs.get? id = some job ∧ job.status = .queued

theorem NewRow.insert {known id : Nat} {outbox : Table OutboxMessage} (new : NewRow known outbox id)
    (message : OutboxMessage) : NewRow known (outbox.insert message) id := by
  obtain ⟨row, old, bound, found, target⟩ := new
  exact ⟨row, old, bound, Table.get?_insert_of_some message found, target⟩

theorem NewRow.set {known id row : Nat} {outbox : Table OutboxMessage} {old next : OutboxMessage}
    (new : NewRow known outbox id) (found : outbox.get? row = some old)
    (target : next.aggregateId = old.aggregateId) : NewRow known (outbox.set row next) id := by
  obtain ⟨place, message, bound, present, aggregate⟩ := new
  by_cases here : place = row
  · subst here
    obtain rfl := Option.some.inj (present.symm.trans found)
    exact ⟨place, next, bound, Table.get?_set_self next found, target.trans aggregate⟩
  · exact ⟨place, message, bound, by rw [Table.get?_set_ne _ _ here, present], aggregate⟩

theorem queued_of_modify {jobs : Table BackgroundJob} {id other : Nat}
    {change : BackgroundJob → BackgroundJob} (away : ∀ row, (change row).status ≠ .queued)
    (queued : QueuedJob (jobs.modify id change) other) : QueuedJob jobs other := by
  obtain ⟨job, found, waits⟩ := queued
  obtain ⟨old, known, ⟨_, same⟩ | ⟨_, changed⟩⟩ := Table.modify_cases found
  · exact ⟨old, known, same ▸ waits⟩
  · exact absurd waits (changed ▸ away old)

/-- What one move adds: rows stay where they are, and a job that becomes queued gets a new one. -/
structure Adds (before after : View) : Prop where
  size : before.outbox.size ≤ after.outbox.size
  rows : ∀ known id, NewRow known before.outbox id → NewRow known after.outbox id
  queued : ∀ id, QueuedJob after.jobs id → QueuedJob before.jobs id ∨
    NewRow before.outbox.size after.outbox id

private theorem adds_quiet {before after : View} (jobs : ∀ id, QueuedJob after.jobs id →
    QueuedJob before.jobs id) (outbox : after.outbox = before.outbox) : Adds before after :=
  ⟨Nat.le_of_eq (by rw [outbox]), fun _ _ new => outbox ▸ new, fun id queued => .inl (jobs id queued)⟩

private theorem adds_replaced {before after : View} {row : Nat} {old next : OutboxMessage}
    (jobs : ∀ id, QueuedJob after.jobs id → QueuedJob before.jobs id)
    (outbox : after.outbox = before.outbox.set row next)
    (found : before.outbox.get? row = some old) (target : next.aggregateId = old.aggregateId) :
    Adds before after := by
  refine ⟨?_, ?_, fun id queued => .inl (jobs id queued)⟩
  · rw [outbox, Table.size_set]
  · intro known id new
    exact outbox ▸ new.set found target

theorem adds_move {kind : Kind} {before after : View} (coupled : Coupled before)
    (moved : Move kind before after) : Adds before after := by
  cases moved with
  | accept found due => exact adds_replaced (fun _ queued => queued) rfl found rfl
  | postpone error found due left => exact adds_replaced (fun _ queued => queued) rfl found rfl
  | bury error found due spent =>
    exact adds_replaced (fun _ => queued_of_modify (by simp [BackgroundJob.deadLettered])) rfl found rfl
  | @reschedule _ id _ _ queueId found ready placed =>
    obtain rfl := placed.of_fresh (retry_fresh coupled found (of_decide_eq_true ready).1)
    refine ⟨by simp, fun _ _ new => new.insert _, ?_⟩
    intro other waits
    obtain ⟨row, known, queued⟩ := waits
    by_cases here : other = id
    · exact .inr ⟨_, _, Nat.le_refl _, Table.get?_insert_self _ _, here.symm⟩
    · rw [Table.get?_set_ne _ _ here] at known
      exact .inl ⟨row, known, queued⟩
  | @create _ _ request key nonempty fresh placed =>
    have free := enqueue_fresh coupled fresh
    rw [← dispatchKey_enqueue before.jobs.size request nonempty] at free
    obtain rfl := placed.of_fresh free
    refine ⟨by simp, fun _ _ new => new.insert _, ?_⟩
    intro other waits
    obtain ⟨row, known, queued⟩ := waits
    rcases Table.insert_cases known with old | ⟨here, _⟩
    · exact .inl ⟨row, old, queued⟩
    · exact .inr ⟨_, _, Nat.le_refl _, Table.get?_insert_self _ _, here.symm⟩
  | begin lockOwner delivered found runs =>
    refine adds_quiet (fun _ queued => ?_) rfl
    rw [← Table.modify_of_some (BackgroundJob.started before.now lockOwner) found] at queued
    exact queued_of_modify (by simp [BackgroundJob.started]) queued
  | skip delivered idle => exact adds_quiet (fun _ queued => queued) rfl
  | succeed result delivered =>
    exact adds_quiet (fun _ => queued_of_modify (by simp [BackgroundJob.succeeded])) rfl
  | retry error delivered left =>
    exact adds_quiet (fun _ => queued_of_modify (by simp [BackgroundJob.retrying])) rfl
  | exhaust error delivered spent =>
    exact adds_quiet (fun _ => queued_of_modify (by simp [BackgroundJob.deadLettered])) rfl
  | cancel found cancellable =>
    refine adds_quiet (fun _ queued => ?_) rfl
    rw [← Table.modify_of_some (BackgroundJob.cancelled before.now) found] at queued
    exact queued_of_modify (by simp [BackgroundJob.cancelled]) queued
  | redeliver job => exact adds_quiet (fun _ queued => queued) rfl
  | crash delivered => exact adds_quiet (fun _ queued => queued) rfl
  | advance seconds => exact adds_quiet (fun _ queued => queued) rfl

theorem adds_sequence {kind : Kind} {before after : View} (coupled : Coupled before)
    (moved : Sequence kind before after) : Adds before after := by
  induction moved with
  | refl => exact adds_quiet (fun _ queued => queued) rfl
  | @tail middle last earlier step ih =>
    have now := adds_move (moves_invariant (coupled_move kind) coupled earlier) step
    refine ⟨ih.size.trans now.size, fun known id new => now.rows known id (ih.rows known id new), ?_⟩
    intro id queued
    rcases now.queued id queued with old | ⟨row, message, bound, found, target⟩
    · exact (ih.queued id old).imp_right (now.rows _ id)
    · exact .inr ⟨row, message, ih.size.trans bound, found, target⟩

section System
variable (sha256 : String → String)

/-- In every run of whole transactions a queued job has an outbox row that is still to be
dispatched, or a delivery that will run it. A job that waits for its retry is selected as
soon as it is due. The key of the next dispatch is not taken, so every transaction that
makes a job queued adds an outbox row for it. -/
theorem no_lost_job {actions : List Action} {state : State}
    (atomic : ∀ action ∈ actions, action.atomic = true)
    (ran : run sha256 State.initial actions = some state) :
    (∀ id job, state.db.jobs.get? id = some job → job.status = .queued →
      ActiveRow state.db.outbox id ∨
        WaitingDelivery state.deliveries id ∧ shouldRun job state.now = true) ∧
    (∀ id job, state.db.jobs.get? id = some job → job.status = .retrying →
      ∀ now, (∀ due ∈ job.nextRetryAt, due ≤ now) → id ∈ state.db.jobs.select (readyCondition now)) ∧
    (∀ id job, state.db.jobs.get? id = some job → job.status = .retrying →
      findOutbox state.db (dispatchKey id job ("retry:" ++ toString job.attemptCount)) = none) ∧
    (∀ request, findJob state.db (requestKey sha256 request) = none →
      findOutbox state.db (dispatchKey state.db.jobs.size
        (newJob request (requestKey sha256 request)) "enqueue") = none) ∧
    ∀ action next, action.atomic = true → step sha256 state action = some next →
      ∀ id, QueuedJob next.db.jobs id → QueuedJob state.db.jobs id ∨
        NewRow state.db.outbox.size next.db.outbox id := by
  have coupled : Coupled (view state) :=
    run_moves_invariant sha256 coupled_move coupled_initial atomic ran
  refine ⟨?_, ?_, ?_, ?_, ?_⟩
  · intro id job found queued
    refine (coupled.onTheWay id job found queued).imp_right fun waiting => ⟨waiting, ?_⟩
    exact queued_runs queued (coupled.keyed.due id job found queued)
  · intro id job found retrying now due
    refine Table.mem_select.2 ⟨job, found, decide_eq_true ⟨retrying, ?_⟩⟩
    rw [Option.all_eq_true]
    exact fun time member => decide_eq_true (due time member)
  · intro id job found retrying
    refine Table.find?_eq_none.2 fun row message known => decide_eq_false ?_
    exact retry_fresh coupled found retrying row message known
  · intro request unknown
    have fresh : ∀ id job, state.db.jobs.get? id = some job →
        job.idempotencyKey ≠ requestKey sha256 request :=
      fun id job found => of_decide_eq_false (Table.find?_eq_none.1 unknown id job found)
    refine Table.find?_eq_none.2 fun row message known => decide_eq_false ?_
    rw [dispatchKey_enqueue _ request (requestKey_ne_empty sha256 request)]
    exact enqueue_fresh coupled fresh row message known
  · intro action next whole taken id queued
    exact (adds_sequence coupled (step_moves sha256 whole taken)).queued id queued

end System

theorem no_lost_job_firstRunFails : ∃ state job,
    run nightlyDigest State.initial firstRunFails = some state ∧
    state.db.jobs.get? 0 = some job ∧ job.status = .retrying ∧
    findOutbox state.db (dispatchKey 0 job ("retry:" ++ toString job.attemptCount)) = none := by
  refine ⟨_, _, rfl, rfl, rfl, ?_⟩
  have atomic : ∀ action ∈ firstRunFails, action.atomic = true := by decide
  exact (no_lost_job nightlyDigest atomic rfl).2.2.1 0 _ rfl rfl

end SoulClaw.Worker.Coupling
