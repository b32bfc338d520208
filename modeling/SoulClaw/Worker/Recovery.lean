import SoulClaw.Worker.Drain

/-! Recovery from crashes. Nothing looks at the lock of a running job, so a job whose worker
died comes to an end only while one of its outbox rows can still be dead-lettered. Every
other job that has not ended can be brought to its end by the steps of the system itself. -/

namespace SoulClaw.Worker.Recovery
open Foundation Domain.Jobs Queue Moves Attempts Coupling Drain

/-- Every whole transaction but the cancel of an operator. -/
def unattended : Action → Bool
  | .load _ | .commitStart _ _ | .cancel _ => false
  | _ => true

theorem own_unattended {action : Action} (mine : own action = true) : unattended action = true := by
  cases action <;> simp_all [own, unattended]

theorem unattended_atomic {action : Action} (free : unattended action = true) :
    action.atomic = true := by
  cases action <;> simp_all [unattended, Action.atomic]

theorem unattended_kind {action : Action} (free : unattended action = true) :
    kind action ≠ .cancel := by
  cases action <;> simp_all [unattended, kind]

/-! Jobs that are lost. -/

def LiveRunner (deliveries : Table Delivery) (id : Nat) : Prop :=
  ∃ delivery attempt bound, deliveries.get? delivery = some ⟨id, .running attempt bound⟩

/-- The job runs, but nobody will end its run and no message can give it up. -/
structure Stranded (v : View) (id : Nat) : Prop where
  running : ∃ job, v.jobs.get? id = some job ∧ job.status = .running
  orphaned : ¬LiveRunner v.deliveries id
  silent : ¬ActiveRow v.outbox id

namespace Stranded
variable {v : View} {id : Nat} (stranded : Stranded v id)
include stranded

theorem modify_other {other : Nat} (change : BackgroundJob → BackgroundJob) (different : id ≠ other) :
    ∃ job, (v.jobs.modify other change).get? id = some job ∧ job.status = .running := by
  rw [Table.get?_modify, if_neg different]
  exact stranded.running

theorem set_other {other : Nat} (next : BackgroundJob) (different : id ≠ other) :
    ∃ job, (v.jobs.set other next).get? id = some job ∧ job.status = .running := by
  rw [Table.get?_set_ne _ _ different]
  exact stranded.running

theorem runs_not {job : BackgroundJob} (found : v.jobs.get? id = some job) :
    job.status ∉ retryableJobStatuses := by
  obtain ⟨row, known, running⟩ := stranded.running
  obtain rfl := Option.some.inj (known.symm.trans found)
  rw [running]
  decide

end Stranded

theorem not_live_insert {deliveries : Table Delivery} {id job : Nat}
    (orphaned : ¬LiveRunner deliveries id) : ¬LiveRunner (deliveries.insert ⟨job, .waiting⟩) id := by
  rintro ⟨delivery, attempt, bound, found⟩
  rcases Table.insert_cases found with known | ⟨_, new⟩
  · exact orphaned ⟨delivery, attempt, bound, known⟩
  · cases new

theorem not_live_set {deliveries : Table Delivery} {id place : Nat} {old next : Delivery}
    (orphaned : ¬LiveRunner deliveries id) (found : deliveries.get? place = some old)
    (quiet : ∀ attempt bound, next ≠ ⟨id, .running attempt bound⟩) :
    ¬LiveRunner (deliveries.set place next) id := by
  rintro ⟨delivery, attempt, bound, known⟩
  by_cases here : delivery = place
  · rw [here, Table.get?_set_self next found] at known
    exact quiet attempt bound (Option.some.inj known)
  · rw [Table.get?_set_ne _ _ here] at known
    exact orphaned ⟨delivery, attempt, bound, known⟩

theorem not_active_set {outbox : Table OutboxMessage} {id row : Nat} {old next : OutboxMessage}
    (silent : ¬ActiveRow outbox id) (found : outbox.get? row = some old)
    (target : next.aggregateId = old.aggregateId) (active : Active old) :
    ¬ActiveRow (outbox.set row next) id := by
  rintro ⟨place, message, known, aggregate, waits⟩
  by_cases here : place = row
  · rw [here, Table.get?_set_self next found] at known
    obtain rfl := Option.some.inj known
    exact silent ⟨row, old, found, target.symm.trans aggregate, active⟩
  · rw [Table.get?_set_ne _ _ here] at known
    exact silent ⟨place, message, known, aggregate, waits⟩

theorem not_active_placed {before after : Table OutboxMessage} {id : Nat} {message : OutboxMessage}
    (silent : ¬ActiveRow before id) (placed : Placed before message after)
    (other : message.aggregateId ≠ id) : ¬ActiveRow after id := by
  rcases placed with ⟨_, _, _, _, same⟩ | ⟨_, inserted⟩
  · exact same ▸ silent
  · rw [inserted]
    rintro ⟨row, found, known, aggregate, waits⟩
    rcases Table.insert_cases known with old | ⟨_, new⟩
    · exact silent ⟨row, found, old, aggregate, waits⟩
    · exact other (new ▸ aggregate)

theorem stranded_move {kind : Kind} {id : Nat} (other : kind ≠ .cancel) (before after : View)
    (stranded : Stranded before id) (moved : Move kind before after) : Stranded after id := by
  obtain ⟨row, present, running⟩ := stranded.running
  cases moved with
  | accept found due =>
    exact ⟨stranded.running, not_live_insert stranded.orphaned,
      not_active_set stranded.silent found rfl (outboxDue_active due)⟩
  | postpone error found due left =>
    exact ⟨stranded.running, stranded.orphaned,
      not_active_set stranded.silent found rfl (outboxDue_active due)⟩
  | bury error found due spent =>
    have different : id ≠ _ := fun same =>
      stranded.silent ⟨_, _, found, same.symm, outboxDue_active due⟩
    exact ⟨stranded.modify_other _ different, stranded.orphaned,
      not_active_set stranded.silent found rfl (outboxDue_active due)⟩
  | @reschedule _ job _ _ queueId found ready placed =>
    have different : id ≠ job := by
      intro same
      subst same
      exact stranded.runs_not found (ready_retryable ready)
    exact ⟨stranded.set_other _ different, stranded.orphaned,
      not_active_placed stranded.silent placed different.symm⟩
  | create request nonempty fresh placed =>
    have different : id ≠ before.jobs.size := Nat.ne_of_lt (Table.get?_lt present)
    exact ⟨⟨row, Table.get?_insert_of_some _ present, running⟩, stranded.orphaned,
      not_active_placed stranded.silent placed different.symm⟩
  | @begin _ delivery job _ lockOwner delivered found runs =>
    have different : id ≠ job := by
      intro same
      subst same
      exact stranded.runs_not found (runs_retryable runs)
    refine ⟨stranded.set_other _ different, ?_, stranded.silent⟩
    exact not_live_set stranded.orphaned delivered fun _ _ same =>
      different (congrArg Delivery.job same).symm
  | skip delivered idle =>
    exact ⟨stranded.running, not_live_set stranded.orphaned delivered (by simp),
      stranded.silent⟩
  | @succeed _ _ job _ _ result delivered =>
    have different : id ≠ job := fun same => stranded.orphaned ⟨_, _, _, same ▸ delivered⟩
    exact ⟨stranded.modify_other _ different,
      not_live_set stranded.orphaned delivered (by simp), stranded.silent⟩
  | @retry _ _ job _ _ error delivered left =>
    have different : id ≠ job := fun same => stranded.orphaned ⟨_, _, _, same ▸ delivered⟩
    exact ⟨stranded.modify_other _ different,
      not_live_set stranded.orphaned delivered (by simp), stranded.silent⟩
  | @exhaust _ _ job _ _ error delivered spent =>
    have different : id ≠ job := fun same => stranded.orphaned ⟨_, _, _, same ▸ delivered⟩
    exact ⟨stranded.modify_other _ different,
      not_live_set stranded.orphaned delivered (by simp), stranded.silent⟩
  | cancel found cancellable => exact absurd rfl other
  | redeliver job => exact ⟨stranded.running, not_live_insert stranded.orphaned, stranded.silent⟩
  | crash delivered =>
    exact ⟨stranded.running, not_live_set stranded.orphaned delivered (by simp),
      stranded.silent⟩
  | advance seconds => exact ⟨stranded.running, stranded.orphaned, stranded.silent⟩

section System
variable (sha256 : String → String)

/-- A stranded job stays so until an operator cancels it. -/
theorem stranded_run {state last : State} {actions : List Action} {id : Nat}
    (stranded : Stranded (view state) id) (free : ∀ action ∈ actions, unattended action = true)
    (ran : run sha256 state actions = some last) : Stranded (view last) id := by
  refine Runs.run_invariant_along (fun s => Stranded (view s) id) ?_ stranded
    (Runs.along_of_forall_mem state actions free) ran
  intro _ _ _ holds alone taken
  exact moves_invariant (stranded_move (unattended_kind alone)) holds
    (step_moves sha256 (unattended_atomic alone) taken)

/-! Jobs that come to an end. -/

/-- The system by itself can bring the job to a terminal status. -/
def Ends (state : State) (id : Nat) : Prop :=
  ∃ last job, Leads sha256 state last ∧ last.db.jobs.get? id = some job ∧ job.status.Terminal

variable {sha256}

theorem Ends.after {state next : State} {id : Nat} (leads : Leads sha256 state next)
    (ends : Ends sha256 next id) : Ends sha256 state id := by
  obtain ⟨last, job, rest, found, terminal⟩ := ends
  exact ⟨last, job, leads.trans rest, found, terminal⟩

theorem ends_of_dead {state : State} {id : Nat} (dead : Dead state.db.jobs id) : Ends sha256 state id := by
  obtain ⟨job, found, status⟩ := dead
  refine ⟨state, job, Leads.refl state, found, ?_⟩
  rw [status]
  decide

theorem ends_of_runner {state : State} {id : Nat} {job : BackgroundJob}
    (found : state.db.jobs.get? id = some job) (live : LiveRunner state.deliveries id) :
    Ends sha256 state id := by
  obtain ⟨delivery, attempt, bound, delivered⟩ := live
  have taken : step sha256 state (.succeed delivery .null) = some (settle state delivery id
      (.finished (some attempt)) (markSucceeded state.db id state.now .null)) := by
    rw [step, delivered]
  refine ⟨_, job.succeeded state.now .null, .step rfl taken (.refl _), ?_, ?_⟩
  · change (settled state.db _).jobs.get? id = _
    rw [(markSucceeded_writes state.db id state.now .null).jobs, Table.get?_modify, if_pos rfl, found]
    rfl
  · change JobStatus.succeeded.Terminal
    decide

theorem ends_of_waiting {state : State} {id : Nat} {job : BackgroundJob}
    (found : state.db.jobs.get? id = some job) (runs : shouldRun job state.now = true)
    (waiting : WaitingDelivery state.deliveries id) : Ends sha256 state id := by
  obtain ⟨delivery, delivered⟩ := waiting
  let next := settle state delivery id (.running (job.attemptCount + 1) (capturedBound job))
    (.ok (state.db.setJob id (job.started state.now "")))
  have taken : step sha256 state (.start delivery "") = some next := by
    rw [step, delivered]
    simp only [startRun_begins "" found runs]
    rfl
  have begun : next.db.jobs.get? id = some (job.started state.now "") := Table.get?_set_self _ found
  have live : LiveRunner next.deliveries id := ⟨delivery, _, _, Table.get?_set_self _ delivered⟩
  exact Ends.after (.step rfl taken (.refl _)) (ends_of_runner begun live)

/-- A message that waits can be refused until it gives up its job. -/
theorem ends_of_active {state : State} {id : Nat} (coupled : Coupled (view state))
    (active : ActiveRow state.db.outbox id) : Ends sha256 state id := by
  obtain ⟨row, message, found, rfl, waits⟩ := active
  obtain ⟨last, leads, drains, idle⟩ := drain sha256 row (some "refused") state coupled
  obtain ⟨later, reached, _, still⟩ := drains.rows row message found
  rcases still waits with active | dead | ⟨taken, _⟩
  · exact absurd active (idle row later reached)
  · exact Ends.after leads (ends_of_dead dead)
  · exact absurd ⟨rfl, by simp⟩ taken

theorem ends_of_queued {state : State} {id : Nat} {job : BackgroundJob} (coupled : Coupled (view state))
    (found : state.db.jobs.get? id = some job) (queued : job.status = .queued) :
    Ends sha256 state id := by
  rcases coupled.onTheWay id job found queued with active | waiting
  · obtain ⟨row, message, known, rfl, waits⟩ := active
    obtain ⟨last, leads, drains, idle⟩ := drain sha256 row none state coupled
    obtain ⟨later, reached, _, still⟩ := drains.rows row message known
    rcases still waits with active | dead | ⟨_, waiting⟩
    · exact absurd active (idle row later reached)
    · exact Ends.after leads (ends_of_dead dead)
    · obtain ⟨current, present, rfl | dead⟩ := drains.jobs _ job found
      · have runs := queued_runs queued ((leads.coupled coupled).keyed.due _ current present queued)
        exact Ends.after leads (ends_of_waiting present runs waiting)
      · exact Ends.after leads (ends_of_dead ⟨current, present, dead⟩)
  · exact ends_of_waiting found (queued_runs queued (coupled.keyed.due id job found queued)) waiting

/-! Jobs that wait for a retry. -/

def retryWaits (job : BackgroundJob) : Nat := if job.status = .retrying then 1 else 0

theorem rescheduleAll_ready {now : Time} (queueIds : Nat → String) (ids : List Nat)
    (distinct : ids.Nodup) {db : Db} (ready : ∀ id ∈ ids, ∃ job, db.jobs.get? id = some job ∧
      readyCondition now job = true) :
    ∃ after, ids.foldlM (rescheduleReady queueIds) db = .ok after ∧
      after.jobs.size = db.jobs.size ∧ ∀ id job, db.jobs.get? id = some job →
        ∃ later, after.jobs.get? id = some later ∧
          (id ∈ ids ∧ later.status = .queued ∨ id ∉ ids ∧ later = job) := by
  induction ids generalizing db with
  | nil => exact ⟨db, rfl, rfl, fun id job found => ⟨job, found, .inr ⟨List.not_mem_nil, rfl⟩⟩⟩
  | cons head rest ih =>
    obtain ⟨fresh, distinct⟩ := List.nodup_cons.1 distinct
    obtain ⟨row, known, due⟩ := ready head List.mem_cons_self
    obtain ⟨next, done, jobs, _⟩ := rescheduleReady_ready queueIds known due Table.empty
    have others : ∀ id ∈ rest, ∃ job, next.jobs.get? id = some job ∧ readyCondition now job = true := by
      intro id member
      have different : id ≠ head := fun same => fresh (same ▸ member)
      rw [jobs, Table.get?_set_ne _ _ different]
      exact ready id (List.mem_cons_of_mem _ member)
    obtain ⟨after, taken, size, written⟩ := ih distinct others
    refine ⟨after, ?_, ?_, ?_⟩
    · rw [List.foldlM_cons, done]
      exact taken
    · rw [size, jobs, Table.size_set]
    · intro id job found
      by_cases here : id = head
      · subst here
        have begun : next.jobs.get? id = some (row.enqueued (queueIds id)) := by
          rw [jobs]
          exact Table.get?_set_self _ known
        obtain ⟨later, reached, ⟨member, _⟩ | ⟨_, same⟩⟩ := written id _ begun
        · exact absurd member fresh
        · exact ⟨later, reached, .inl ⟨List.mem_cons_self, same ▸ rfl⟩⟩
      · have kept : next.jobs.get? id = some job := by
          rw [jobs, Table.get?_set_ne _ _ here, found]
        obtain ⟨later, reached, ⟨member, queued⟩ | ⟨absent, same⟩⟩ := written id job kept
        · exact ⟨later, reached, .inl ⟨List.mem_cons_of_mem _ member, queued⟩⟩
        · refine ⟨later, reached, .inr ⟨fun member => ?_, same⟩⟩
          exact (List.mem_cons.1 member).elim here absent

theorem dispatchOutbox_idle {db : Db} (idle : Idle db.outbox) (now : Time)
    (broker : Nat → Option String) (limit : Nat) :
    dispatchOutbox db now broker limit = ⟨db, [], {}⟩ := by
  have none : db.outbox.select (outboxDue now) = [] := by
    refine List.eq_nil_iff_forall_not_mem.2 fun row member => ?_
    obtain ⟨message, found, due⟩ := Table.mem_select.1 member
    exact idle row message found (outboxDue_active due)
  rw [dispatchOutbox, none, List.take_nil]
  rfl

theorem readyCondition_later {job : BackgroundJob} {seconds : Nat} (retrying : job.status = .retrying)
    (late : job.nextRetryAt.getD 0 ≤ seconds) (now : Time) :
    readyCondition (now + seconds) job = true := by
  refine decide_eq_true ⟨retrying, ?_⟩
  cases due : job.nextRetryAt with
  | none => rfl
  | some time =>
    rw [due] at late
    exact decide_eq_true (late.trans (Nat.le_add_left seconds now))

theorem readyForRetry_ne_nil {db : Db} {now : Time} {id : Nat} {job : BackgroundJob} (limit : Nat)
    (found : db.jobs.get? id = some job) (ready : readyCondition now job = true) :
    readyForRetry db now limit ≠ [] := by
  have member : id ∈ (db.jobs.select (readyCondition now)).insertionSort (retryOrder db) :=
    (List.perm_insertionSort _ _).mem_iff.2 (Table.mem_select.2 ⟨job, found, ready⟩)
  have positive : clampLimit limit ≠ 0 := by
    unfold clampLimit
    omega
  intro empty
  rcases List.take_eq_nil_iff.1 empty with zero | none
  · exact positive zero
  · rw [none] at member
    cases member

/-- One tick on an idle outbox puts at least one of the waiting retries on its way. -/
theorem tick_retries (sha256 : String → String) {state : State} (idle : Idle state.db.outbox) {id : Nat} {job : BackgroundJob}
    (found : state.db.jobs.get? id = some job) (retrying : job.status = .retrying) :
    ∃ next, Leads sha256 state next ∧
      next.db.jobs.total retryWaits < state.db.jobs.total retryWaits ∧
      ∃ later, next.db.jobs.get? id = some later ∧ (later.status = .queued ∨ later = job) := by
  obtain ⟨seconds, late⟩ := state.db.jobs.exists_bound fun row => row.nextRetryAt.getD 0
  let waited : State := { state with now := state.now + seconds }
  have advanced : step sha256 state (.advance seconds) = some waited := rfl
  have due : readyCondition waited.now job = true :=
    readyCondition_later retrying (late id job found) state.now
  let ids := readyForRetry state.db waited.now 100
  have ready : ∀ row ∈ ids, ∃ job, state.db.jobs.get? row = some job ∧
      readyCondition waited.now job = true := fun row member => mem_readyForRetry member
  obtain ⟨after, taken, size, written⟩ := rescheduleAll_ready (fun _ => "") ids
    (readyForRetry_nodup _ _ _) ready
  let next : State := { waited with db := after }
  have ticked : step sha256 waited (.tick (fun _ => none) (fun _ => "") []) = some next := by
    have retried : dispatchRetryableJobs state.db state.db waited.now (fun _ => "") = .ok after := taken
    simp only [step, tick, dispatchOutbox_idle idle, retried, waited]
    rfl
  refine ⟨next, .step rfl advanced (.step rfl ticked (.refl next)), ?_, ?_⟩
  · obtain ⟨first, member⟩ := List.exists_mem_of_ne_nil _ (readyForRetry_ne_nil 100 found due)
    obtain ⟨row, known, waits⟩ := ready first member
    obtain ⟨later, reached, ⟨_, queued⟩ | ⟨absent, _⟩⟩ := written first row known
    · apply Table.total_lt ?_ size known reached
      · simp [retryWaits, queued, (of_decide_eq_true waits).1]
      · intro other current present
        obtain ⟨last, here, ⟨_, queued⟩ | ⟨_, same⟩⟩ := written other current present
        · exact ⟨last, here, by simp [retryWaits, queued]⟩
        · exact ⟨last, here, same ▸ Nat.le_refl _⟩
    · exact absurd member absent
  · obtain ⟨later, reached, ⟨_, queued⟩ | ⟨_, same⟩⟩ := written id job found
    · exact ⟨later, reached, .inl queued⟩
    · exact ⟨later, reached, .inr same⟩

theorem Drains.retryWaits_le {refused : Nat → Prop} {before after : View}
    (drains : Drains refused before after) :
    after.jobs.total retryWaits ≤ before.jobs.total retryWaits := by
  refine Table.total_le (fun id job found => ?_) drains.size
  obtain ⟨later, reached, rfl | dead⟩ := drains.jobs id job found
  · exact ⟨later, reached, Nat.le_refl _⟩
  · exact ⟨later, reached, by simp [retryWaits, dead]⟩

theorem ends_of_retrying {state : State} {id : Nat} {job : BackgroundJob}
    (coupled : Coupled (view state)) (found : state.db.jobs.get? id = some job)
    (retrying : job.status = .retrying) : Ends sha256 state id := by
  induction waits : state.db.jobs.total retryWaits using Nat.strong_induction_on generalizing state job with
  | _ count ih =>
    obtain ⟨idle, drained, drains, quiet⟩ := drain sha256 0 none state coupled
    obtain ⟨current, present, rfl | dead⟩ := drains.jobs id job found
    · obtain ⟨next, leads, fewer, later, reached, queued | rfl⟩ :=
        tick_retries sha256 quiet present retrying
      · have coupled := leads.coupled (drained.coupled coupled)
        exact Ends.after (drained.trans leads) (ends_of_queued coupled reached queued)
      · have less : next.db.jobs.total retryWaits < count :=
          waits ▸ fewer.trans_le (Drains.retryWaits_le drains)
        exact Ends.after (drained.trans leads)
          (ih _ less (leads.coupled (drained.coupled coupled)) reached retrying rfl)
    · exact Ends.after drained (ends_of_dead ⟨current, present, dead⟩)

variable (sha256)

/-- After any run of whole transactions with crashes, a job that has not ended can be ended
by the system itself exactly when it does not run, somebody still runs it or a message that
waits can give it up. Otherwise it runs until an operator cancels it. -/
theorem recoverable_iff {actions : List Action} {state : State}
    (atomic : ∀ action ∈ actions, action.atomic = true)
    (ran : run sha256 State.initial actions = some state) {id : Nat} {job : BackgroundJob}
    (found : state.db.jobs.get? id = some job) (pending : ¬job.status.Terminal) :
    (Ends sha256 state id ↔ job.status ≠ .running ∨ LiveRunner state.deliveries id ∨
      ActiveRow state.db.outbox id) ∧
    (job.status = .running → ¬LiveRunner state.deliveries id → ¬ActiveRow state.db.outbox id →
      ∀ plan last, (∀ action ∈ plan, unattended action = true) →
        run sha256 state plan = some last →
        ∃ later, last.db.jobs.get? id = some later ∧ later.status = .running) := by
  have coupled : Coupled (view state) :=
    run_moves_invariant sha256 coupled_move coupled_initial atomic ran
  have stays : job.status = .running → ¬LiveRunner state.deliveries id →
      ¬ActiveRow state.db.outbox id → Stranded (view state) id :=
    fun running orphaned silent => ⟨⟨job, found, running⟩, orphaned, silent⟩
  refine ⟨⟨?_, ?_⟩, ?_⟩
  · rintro ⟨last, later, ⟨plan, mine, reached⟩, known, terminal⟩
    by_contra lost
    push Not at lost
    obtain ⟨running, orphaned, silent⟩ := lost
    have stranded := stranded_run sha256 (stays running orphaned silent)
      (fun action member => own_unattended (mine action member)) reached
    obtain ⟨row, present, still⟩ := stranded.running
    obtain rfl := Option.some.inj (known.symm.trans present)
    rw [still] at terminal
    exact absurd terminal (by decide)
  · rintro (idle | live | active)
    · cases status : job.status with
      | queued => exact ends_of_queued coupled found status
      | retrying => exact ends_of_retrying coupled found status
      | running => exact absurd status idle
      | succeeded | failed | deadLetter | cancelled =>
        rw [status] at pending
        exact absurd (by decide) pending
    · exact ends_of_runner found live
    · exact ends_of_active coupled active
  · intro running orphaned silent plan last free reached
    exact (stranded_run sha256 (stays running orphaned silent) free reached).running

end System

/-- The worker of the first run dies before it can write its result. -/
def crashedMidRun : List Action :=
  [.enqueue nightlyCompile, .replayOutbox (fun _ => none) 1, .start 0 "host:1", .crash 0]

theorem crashedMidRun_stranded : ∃ state, run nightlyDigest State.initial crashedMidRun = some state ∧
    Stranded (view state) 0 := by
  refine ⟨_, rfl, ⟨_, rfl, rfl⟩, ?_, ?_⟩
  · rintro ⟨delivery, attempt, bound, found⟩
    cases delivery <;> cases found
  · rintro ⟨row, message, found, _, active⟩
    cases row with
    | zero =>
      cases found
      revert active
      decide
    | succ _ => cases found

/-- The job of the dead worker runs in every continuation without an operator. -/
theorem crashed_job_never_ends : ∃ state, run nightlyDigest State.initial crashedMidRun = some state ∧
    ∀ plan last, (∀ action ∈ plan, own action = true) → run nightlyDigest state plan = some last →
      ∃ job, last.db.jobs.get? 0 = some job ∧ job.status = .running := by
  obtain ⟨state, ran, stranded⟩ := crashedMidRun_stranded
  refine ⟨state, ran, fun plan last mine reached => ?_⟩
  exact (stranded_run nightlyDigest stranded
    (fun action member => own_unattended (mine action member)) reached).running

theorem recoverable_iff_firstRunFails : ∃ state,
    run nightlyDigest State.initial firstRunFails = some state ∧ Ends nightlyDigest state 0 := by
  refine ⟨_, rfl, ?_⟩
  have atomic : ∀ action ∈ firstRunFails, action.atomic = true := by decide
  have failed : JobStatus.retrying ≠ .running := by decide
  exact (recoverable_iff nightlyDigest atomic rfl rfl (by decide)).1.2 (.inl failed)

end SoulClaw.Worker.Recovery
