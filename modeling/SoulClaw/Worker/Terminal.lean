import SoulClaw.Worker.Moves

/-! Terminal statuses. The success and failure writes of a run and the dead-lettering of an
outbox message do not look at the status they overwrite; a run in which they never meet an
ended job keeps every terminal status. -/

namespace SoulClaw.Worker.Terminal
open Foundation Domain.Jobs Queue Moves

/-- The job of a message that is refused and has no attempt left. -/
def givenUp (db : Db) (broker : Nat → Option String) (id : Nat) : Option Nat :=
  match db.outbox.get? id with
  | some message =>
      match dispatchTask message.payload.taskName (broker id) with
      | .error _ =>
          if message.topic = "celery.dispatch" ∧ message.maxAttempts ≤ message.attemptCount + 1 then
            some message.aggregateId
          else none
      | .ok _ => none
  | none => none

def batchGivenUp (db : Db) (now : Time) (broker : Nat → Option String) (limit : Nat) : List Nat :=
  (dueBatch db now limit).filterMap (givenUp db broker)

/-- The tick raises because it has given up a job that it then reschedules. -/
def rolledBack (db : Db) (now : Time) (broker : Nat → Option String) : Bool :=
  (readyForRetry db now 100).any (· ∈ batchGivenUp db now broker 100)

/-- The statuses that the step writes into job rows without a look at the old ones. -/
def blindWrites (state : State) : Action → List (Nat × JobStatus)
  | .succeed id _ =>
      match state.deliveries.get? id with
      | some ⟨job, .running _ _⟩ => [(job, .succeeded)]
      | _ => []
  | .fail id _ =>
      match state.deliveries.get? id with
      | some ⟨job, .running attempt bound⟩ =>
          [(job, if attempt < bound then .retrying else .deadLetter)]
      | _ => []
  | .replayOutbox broker committed =>
      (batchGivenUp state.db state.now broker (max 100 committed)).map (·, .deadLetter)
  | .tick broker _ _ =>
      if rolledBack state.db state.now broker then []
      else (batchGivenUp state.db state.now broker 100).map (·, .deadLetter)
  | _ => []

def overwritable (db : Db) (id : Nat) (next : JobStatus) : Bool :=
  (db.jobs.get? id).all fun job => job.status ∉ terminalJobStatuses ∨ job.status = next

/-- No ended job is in the way of the step. -/
def spares (state : State) (action : Action) : Bool :=
  (blindWrites state action).all fun write => overwritable state.db write.1 write.2

/-- Every job that has ended keeps its status. -/
def TerminalKept (before after : Table BackgroundJob) : Prop :=
  ∀ id job, before.get? id = some job → job.status.Terminal →
    ∃ later, after.get? id = some later ∧ later.status = job.status

theorem TerminalKept.refl (jobs : Table BackgroundJob) : TerminalKept jobs jobs :=
  fun _ job found _ => ⟨job, found, rfl⟩

theorem TerminalKept.trans {first second third : Table BackgroundJob}
    (one : TerminalKept first second) (two : TerminalKept second third) : TerminalKept first third := by
  intro id job found terminal
  obtain ⟨middle, known, same⟩ := one id job found terminal
  obtain ⟨last, present, equal⟩ := two id middle known (same ▸ terminal)
  exact ⟨last, present, equal.trans same⟩

theorem terminalKept_insert (jobs : Table BackgroundJob) (row : BackgroundJob) :
    TerminalKept jobs (jobs.insert row) :=
  fun _ job found _ => ⟨job, Table.get?_insert_of_some row found, rfl⟩

theorem terminalKept_set {jobs : Table BackgroundJob} {id : Nat} {row : BackgroundJob}
    (found : jobs.get? id = some row) (active : ¬row.status.Terminal) (next : BackgroundJob) :
    TerminalKept jobs (jobs.set id next) := by
  intro other job known terminal
  have different : other ≠ id := by
    intro same
    subst same
    exact active (Option.some.inj (found.symm.trans known) ▸ terminal)
  exact ⟨job, by rw [Table.get?_set_ne _ _ different, known], rfl⟩

theorem terminalKept_modify {db : Db} {id : Nat} {next : JobStatus}
    {change : BackgroundJob → BackgroundJob} (status : ∀ row, (change row).status = next)
    (free : overwritable db id next = true) : TerminalKept db.jobs (db.jobs.modify id change) := by
  intro other job known terminal
  rw [Table.get?_modify, known]
  by_cases here : other = id
  · subst here
    rw [if_pos rfl]
    refine ⟨change job, rfl, ?_⟩
    rw [overwritable, known] at free
    rcases of_decide_eq_true free with active | same
    · exact absurd terminal active
    · exact (status job).trans same.symm
  · rw [if_neg here]
    exact ⟨job, rfl, rfl⟩

/-! The batches and the loops of the scheduler. -/

/-- A batch gives up only jobs that it lists, and leaves the others alone. -/
theorem terminalKept_dispatch {db : Db} {now : Time} {broker : Nat → Option String} {limit : Nat}
    (free : ∀ job ∈ batchGivenUp db now broker limit, overwritable db job .deadLetter = true) :
    TerminalKept db.jobs (dispatchOutbox db now broker limit).db.jobs := by
  refine dispatchOutbox_induction (fun _ progress => TerminalKept db.jobs progress.db.jobs)
    (TerminalKept.refl _) ?_
  intro _ before after id message kept selected found _ current attempted
  cases attempted with
  | idle _ same _ => exact same ▸ kept
  | sent _ _ _ _ jobs _ => exact jobs ▸ kept
  | postponed _ _ _ _ _ _ jobs _ => exact jobs ▸ kept
  | buried known error present topic failed spent _ jobs _ =>
    obtain rfl := Option.some.inj (current.symm.trans present)
    have listed : message.aggregateId ∈ batchGivenUp db now broker limit := by
      refine List.mem_filterMap.2 ⟨id, selected, ?_⟩
      rw [givenUp, found]
      simp only [failed, if_pos (And.intro topic spent)]
    have open' := free _ listed
    intro other job start terminal
    obtain ⟨later, reached, same⟩ := kept other job start terminal
    rw [jobs, Table.get?_modify, reached]
    by_cases here : other = message.aggregateId
    · subst here
      rw [if_pos rfl]
      refine ⟨_, rfl, ?_⟩
      rw [overwritable, start] at open'
      rcases of_decide_eq_true open' with active | dead
      · exact absurd terminal active
      · exact dead.symm
    · rw [if_neg here]
      exact ⟨later, rfl, same⟩

theorem terminalKept_reschedule {queueIds : Nat → String} {db after : Db} {id : Nat}
    (taken : rescheduleReady queueIds db id = .ok after) : TerminalKept db.jobs after.jobs := by
  obtain ⟨job, outbox, found, retryable, rfl⟩ := rescheduleReady_rescheduled taken
  have active : ¬job.status.Terminal := by
    revert retryable
    cases job.status <;> decide
  exact terminalKept_set found active _

theorem terminalKept_rescheduleAll {queueIds : Nat → String} (ids : List Nat) {db after : Db}
    (taken : ids.foldlM (rescheduleReady queueIds) db = .ok after) :
    TerminalKept db.jobs after.jobs := by
  induction ids generalizing db with
  | nil =>
    cases taken
    exact TerminalKept.refl _
  | cons id rest ih =>
    rw [List.foldlM_cons] at taken
    cases outcome : rescheduleReady queueIds db id with
    | error _ =>
      rw [outcome] at taken
      cases taken
    | ok next =>
      rw [outcome] at taken
      exact (terminalKept_reschedule outcome).trans (ih taken)

/-- A job that the batch gives up is dead when the batch ends. -/
theorem givenUp_ends {db : Db} {now : Time} {broker : Nat → Option String} {limit id : Nat}
    {job : BackgroundJob} (listed : id ∈ batchGivenUp db now broker limit)
    (found : db.jobs.get? id = some job) :
    ∃ later, (dispatchOutbox db now broker limit).db.jobs.get? id = some later ∧
      later.status = .deadLetter := by
  have ends : ∃ later, (dispatchOutbox db now broker limit).db.jobs.get? id = some later ∧
      (later.status = .deadLetter ∨ ∀ row ∈ dueBatch db now limit, givenUp db broker row ≠ some id) := by
    refine dispatchOutbox_induction (fun done progress => ∃ later,
      progress.db.jobs.get? id = some later ∧
        (later.status = .deadLetter ∨ ∀ row ∈ done, givenUp db broker row ≠ some id))
      ⟨job, found, .inr fun _ member => by cases member⟩ ?_
    rintro done before after row message ⟨later, reached, state⟩ _ known _ current attempted
    have spared : givenUp db broker row ≠ some id → later.status = .deadLetter ∨
        ∀ other ∈ done ++ [row], givenUp db broker other ≠ some id := by
      intro free
      refine state.imp_right fun open' other member => ?_
      rcases List.mem_append.1 member with earlier | last
      · exact open' other earlier
      · exact List.mem_singleton.1 last ▸ free
    cases attempted with
    | idle undispatchable same _ =>
      refine ⟨later, same ▸ reached, spared ?_⟩
      have topic := undispatchable message current
      rw [givenUp, known]
      simp only [topic, false_and, if_false]
      split <;> simp
    | sent known' present taken _ jobs _ =>
      obtain rfl := Option.some.inj (current.symm.trans present)
      refine ⟨later, jobs ▸ reached, spared ?_⟩
      rw [givenUp, known]
      simp [taken]
    | postponed known' error present failed left _ jobs _ =>
      obtain rfl := Option.some.inj (current.symm.trans present)
      refine ⟨later, jobs ▸ reached, spared ?_⟩
      rw [givenUp, known]
      simp only [failed, Nat.not_le.2 left, and_false, if_false]
      simp
    | buried known' error present topic failed spent _ jobs _ =>
      obtain rfl := Option.some.inj (current.symm.trans present)
      rw [jobs, Table.get?_modify, reached]
      by_cases here : id = message.aggregateId
      · rw [if_pos here]
        exact ⟨_, rfl, .inl rfl⟩
      · rw [if_neg here]
        refine ⟨later, rfl, spared ?_⟩
        rw [givenUp, known]
        simp only [failed, if_pos (And.intro topic spent)]
        exact fun same => here (Option.some.inj same).symm
  obtain ⟨later, reached, dead | open'⟩ := ends
  · exact ⟨later, reached, dead⟩
  · obtain ⟨row, member, given⟩ := List.mem_filterMap.1 listed
    exact absurd given (open' row member)

theorem rescheduleAll_refused (queueIds : Nat → String) (ids : List Nat) {db : Db} {id : Nat}
    {job : BackgroundJob} (member : id ∈ ids) (found : db.jobs.get? id = some job)
    (dead : job.status = .deadLetter) :
    ∃ error, ids.foldlM (rescheduleReady queueIds) db = .error error := by
  induction ids generalizing db job with
  | nil => cases member
  | cons head rest ih =>
    rw [List.foldlM_cons]
    cases outcome : rescheduleReady queueIds db head with
    | error error => exact ⟨error, rfl⟩
    | ok next =>
      by_cases here : id = head
      · subst here
        have refused : job.status ∉ retryableJobStatuses := by
          rw [dead]
          decide
        obtain ⟨error, failed⟩ := rescheduleReady_refused queueIds found refused
        rw [failed] at outcome
        cases outcome
      · have terminal : job.status.Terminal := by
          rw [dead]
          decide
        obtain ⟨later, reached, same⟩ := terminalKept_reschedule outcome id job found terminal
        have later_member : id ∈ rest := (List.mem_cons.1 member).resolve_left here
        exact ih later_member reached (same.trans dead)

section System
variable (sha256 : String → String)

theorem terminalKept_enqueue {db after : Db} {request : EnqueueRequest} {id : Nat}
    (taken : enqueueBackgroundJob sha256 db request = .ok (after, id)) :
    TerminalKept db.jobs after.jobs := by
  rcases enqueueBackgroundJob_cases sha256 db request with
    ⟨error, failed⟩ | ⟨_, _, done, jobs, _⟩ | ⟨_, done, _, jobs, _⟩
  · rw [failed] at taken
    cases taken
  · rw [done] at taken
    cases taken
    rw [jobs]
    exact TerminalKept.refl _
  · rw [done] at taken
    cases taken
    rw [jobs]
    exact terminalKept_insert _ _

theorem terminalKept_enqueueDue (db : Db) (requests : List EnqueueRequest) :
    TerminalKept db.jobs (enqueueDue sha256 db requests).jobs := by
  induction requests generalizing db with
  | nil => exact TerminalKept.refl _
  | cons request rest ih =>
    rw [enqueueDue, List.foldl_cons]
    cases outcome : enqueueBackgroundJob sha256 db request with
    | error _ => exact ih db
    | ok result => exact (terminalKept_enqueue sha256 outcome).trans (ih _)

theorem terminalKept_rolledBack {db : Db} {now : Time} {broker : Nat → Option String}
    (queueIds : Nat → String) (requests : List EnqueueRequest)
    (raised : rolledBack db now broker = true) :
    TerminalKept db.jobs (tick sha256 db now broker queueIds requests).1.jobs := by
  obtain ⟨id, ready, given⟩ := List.any_eq_true.1 raised
  obtain ⟨job, found, _⟩ := mem_readyForRetry ready
  obtain ⟨later, reached, dead⟩ := givenUp_ends (of_decide_eq_true given) found
  obtain ⟨error, failed⟩ := rescheduleAll_refused queueIds _ ready reached dead
  unfold tick
  dsimp only
  rw [dispatchRetryableJobs, failed]
  exact TerminalKept.refl _

theorem terminalKept_tick {db : Db} {now : Time} {broker : Nat → Option String}
    (queueIds : Nat → String) (requests : List EnqueueRequest)
    (free : ∀ job ∈ batchGivenUp db now broker 100, overwritable db job .deadLetter = true) :
    TerminalKept db.jobs (tick sha256 db now broker queueIds requests).1.jobs := by
  unfold tick
  dsimp only
  cases outcome : dispatchRetryableJobs db (dispatchOutbox db now broker 100).db now queueIds with
  | error _ => exact TerminalKept.refl _
  | ok rescheduled =>
    exact ((terminalKept_dispatch free).trans (terminalKept_rescheduleAll _ outcome)).trans
      (terminalKept_enqueueDue sha256 rescheduled requests)

theorem terminalKept_step {state next : State} {action : Action} (atomic : action.atomic = true)
    (spared : spares state action = true) (taken : step sha256 state action = some next) :
    TerminalKept state.db.jobs next.db.jobs := by
  have written := step_written taken
  generalize next.db = db at written ⊢
  cases written with
  | quiet => exact TerminalKept.refl _
  | enqueue done => exact terminalKept_enqueue sha256 done
  | @cancel job db done =>
    rcases cancel_cases state.db job state.now with ⟨error, failed⟩ | ⟨row, found, cancellable, cancelled⟩
    · cases failed.symm.trans done
    · obtain rfl := Except.ok.inj (cancelled.symm.trans done)
      have active : ¬row.status.Terminal := by
        revert cancellable
        cases row.status <;> decide
      exact terminalKept_set found active _
  | replayOutbox =>
    rw [spares, blindWrites, List.all_map, List.all_eq_true] at spared
    exact terminalKept_dispatch spared
  | @tick broker queueIds requests =>
    rw [spares, blindWrites] at spared
    split at spared
    next raised => exact terminalKept_rolledBack sha256 queueIds requests raised
    next =>
      rw [List.all_map, List.all_eq_true] at spared
      exact terminalKept_tick sha256 queueIds requests spared
  | @start id job lockOwner db attempt done =>
    by_cases idle : ∀ row, state.db.jobs.get? job = some row → shouldRun row state.now = false
    · rcases startRun_skipped lockOwner idle with ⟨error, failed⟩ | skipped
      · cases failed.symm.trans done
      · cases skipped.symm.trans done
        exact TerminalKept.refl _
    · push Not at idle
      obtain ⟨row, found, runs⟩ := idle
      have runs : shouldRun row state.now = true := by simpa using runs
      cases (startRun_begins lockOwner found runs).symm.trans done
      exact terminalKept_set found (shouldRun_active runs).1 _
  | commitStart => cases atomic
  | @succeed id job attempt bound result db delivered done =>
    rw [spares, blindWrites, delivered] at spared
    have writes := markSucceeded_writes state.db job state.now result
    rw [done] at writes
    change TerminalKept _ (settled state.db (.ok db)).jobs
    rw [writes.jobs]
    exact terminalKept_modify (fun _ => rfl) (by simpa using spared)
  | @fail id job attempt bound error db delivered done =>
    rw [spares, blindWrites, delivered] at spared
    have writes := failRun_writes state.db job state.now attempt bound error
    rw [done] at writes
    change TerminalKept _ (settled state.db (.ok db)).jobs
    rw [writes.jobs]
    refine terminalKept_modify (fun row => ?_) (by simpa using spared)
    split <;> rfl

/-- A run of whole transactions whose steps all spare the ended jobs keeps the status of
every job from the moment it has ended. -/
theorem terminal_statuses_absorbing {state last : State} {actions : List Action}
    (atomic : ∀ action ∈ actions, action.atomic = true)
    (spared : Runs.Along (step sha256) (fun s a => spares s a = true) state actions)
    (ran : run sha256 state actions = some last) : TerminalKept state.db.jobs last.db.jobs := by
  have whole : Runs.Along (step sha256) (fun _ a => a.atomic = true) state actions :=
    Runs.along_of_forall_mem state actions atomic
  refine Runs.run_relation_along (fun _ => True) (fun s t => TerminalKept s.db.jobs t.db.jobs)
    (fun _ => TerminalKept.refl _) (fun _ _ _ => TerminalKept.trans) ?_ trivial (whole.and spared) ran
  exact fun _ _ _ _ guarded taken => ⟨trivial, terminalKept_step sha256 guarded.1 guarded.2 taken⟩

end System

/-- A run that succeeds, and what can still happen to its job. -/
def firstRunSucceeds : List Action :=
  [.enqueue nightlyCompile, .replayOutbox (fun _ => none) 1, .start 0 "host:1", .succeed 0 (.obj [])]

def afterwards : List Action :=
  [.redeliver 0, .start 1 "host:2", .cancel 0, .advance 60, .tick (fun _ => some "refused") (fun _ => "q-2") []]

theorem terminal_statuses_absorbing_afterwards : ∃ state last,
    run nightlyDigest State.initial firstRunSucceeds = some state ∧
    run nightlyDigest state afterwards = some last ∧ TerminalKept state.db.jobs last.db.jobs := by
  refine ⟨_, _, rfl, rfl, ?_⟩
  exact terminal_statuses_absorbing nightlyDigest (by decide : ∀ action ∈ afterwards, action.atomic = true)
    (by decide) rfl

/-- The operator cancels the job while its first run executes. -/
def cancelledMidRun : List Action :=
  [.enqueue nightlyCompile, .replayOutbox (fun _ => none) 1, .start 0 "host:1", .cancel 0]

/-- The success of that run overwrites `cancelled`. -/
theorem cancelled_job_becomes_succeeded : ∃ state next cancelled later,
    run nightlyDigest State.initial cancelledMidRun = some state ∧
    state.db.jobs.get? 0 = some cancelled ∧ cancelled.status = .cancelled ∧
    step nightlyDigest state (.succeed 0 (.obj [])) = some next ∧
    next.db.jobs.get? 0 = some later ∧ later.status = .succeeded :=
  ⟨_, _, _, _, rfl, rfl, rfl, rfl, rfl, rfl⟩

end SoulClaw.Worker.Terminal
