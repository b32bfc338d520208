import SoulClaw.Runtime.Cron

/-! The row of a cron job against the runs that it has had. Its failure counter counts all failing runs, so that the
backoff after a failing run depends on those that a later run has recovered from. -/

namespace SoulClaw.Runtime.Cron
open Foundation Domain.Jobs Worker

/-! What the history of a cron job says. -/

def Firing.failed (firing : Firing) : Bool :=
  match firing.outcome with
  | .ok _ => false
  | .error _ => true

/-- The runs of one cron job, in their order. -/
def history (firings : List Firing) (cron : Nat) : List Firing := firings.filter fun firing => firing.cron = cron

def failures (runs : List Firing) : Nat := runs.countP Firing.failed

/-- The failing runs since the last successful one. -/
def failuresSince (runs : List Firing) : Nat :=
  runs.foldl (fun count firing => if firing.failed then count + 1 else 0) 0

/-- No failing run has been followed by a successful one. -/
def Unrecovered (runs : List Firing) : Prop :=
  runs.Pairwise fun earlier later => earlier.failed = true → later.failed = true

section History
variable (firings runs : List Firing) (last : Firing)

theorem history_append_self : history (firings ++ [last]) last.cron = history firings last.cron ++ [last] := by
  rw [history, List.filter_append, List.filter_singleton, decide_eq_true rfl]
  rfl

theorem history_append_other {cron : Nat} (other : last.cron ≠ cron) :
    history (firings ++ [last]) cron = history firings cron := by
  rw [history, List.filter_append, List.filter_singleton, decide_eq_false other]
  exact List.append_nil _

theorem failures_append : failures (runs ++ [last]) = failures runs + if last.failed then 1 else 0 := by
  rw [failures, List.countP_append, List.countP_singleton]
  rfl

theorem failuresSince_append : failuresSince (runs ++ [last]) = if last.failed then failuresSince runs + 1 else 0 := by
  rw [failuresSince, List.foldl_append]
  rfl

theorem failuresSince_le : failuresSince runs ≤ failures runs := by
  induction runs using List.reverseRecOn with
  | nil => exact le_rfl
  | append_singleton runs last ih =>
    rw [failuresSince_append, failures_append]
    cases last.failed with
    | true => exact Nat.add_le_add_right ih 1
    | false => exact Nat.zero_le _

/-- The failing runs are those since the last successful one, exactly if none of them has been recovered from. -/
theorem failuresSince_eq_iff : failuresSince runs = failures runs ↔ Unrecovered runs := by
  induction runs using List.reverseRecOn with
  | nil => exact iff_of_true rfl .nil
  | append_singleton runs last ih =>
    have split : Unrecovered (runs ++ [last]) ↔
        Unrecovered runs ∧ ∀ earlier ∈ runs, earlier.failed = true → last.failed = true := by
      simp [Unrecovered, List.pairwise_append]
    rw [failuresSince_append, failures_append, split]
    cases failed : last.failed with
    | true =>
      rw [if_pos rfl, if_pos rfl, Nat.add_left_inj, ih]
      simp
    | false =>
      rw [if_neg Bool.false_ne_true, if_neg Bool.false_ne_true, Nat.add_zero, eq_comm, failures, List.countP_eq_zero]
      constructor
      · intro none_
        refine ⟨List.Pairwise.imp_of_mem ?_ (List.pairwise_of_forall fun _ _ => trivial), ?_⟩
        · intro earlier later member _ _ failed
          exact absurd failed (none_ earlier member)
        · intro earlier member failed
          exact absurd failed (none_ earlier member)
      · rintro ⟨_, recovered⟩ earlier member failed
        exact Bool.false_ne_true (recovered earlier member failed)

end History

/-! The row follows its history. -/

/-- What the last run has left in the row. -/
structure Recorded (job : CronJob) (runs : List Firing) (last : Firing) : Prop where
  succeeded : ∀ background, last.outcome = .ok background →
    job.lastStatus = "succeeded" ∧ job.lastResult.get "job_id" = .str (toString background) ∧ job.backoffUntil = none
  failed : last.failed = true →
    job.lastStatus = "failed" ∧ job.backoffUntil = some (last.time + cronBackoffSeconds (failures (runs ++ [last])))

structure Follows (job : CronJob) (runs : List Firing) : Prop where
  named : ∀ firing ∈ runs, firing.name = job.name
  failures : job.failureCount = failures runs
  recorded : ∀ earlier last, runs = earlier ++ [last] → Recorded job earlier last

/-- Every row follows its history, and there is no history without a row. -/
structure Tracked (crons : Table CronJob) (firings : List Firing) : Prop where
  follows : ∀ cron job, crons.get? cron = some job → Follows job (history firings cron)
  known : ∀ firing ∈ firings, firing.cron < crons.size

/-- The name, which nothing writes, and the columns that only a run writes. -/
structure Progress where
  name : String
  lastStatus : String
  lastResult : Dict
  backoffUntil : Option Time
  failureCount : Nat

def CronJob.progress (job : CronJob) : Progress :=
  ⟨job.name, job.lastStatus, job.lastResult, job.backoffUntil, job.failureCount⟩

theorem Follows.of_progress {job next : CronJob} {runs : List Firing} (follows : Follows job runs)
    (same : next.progress = job.progress) : Follows next runs := by
  obtain ⟨name, status, result, backoff, count⟩ := Progress.mk.inj same
  constructor
  · rw [name]
    exact follows.named
  · rw [count]
    exact follows.failures
  · intro earlier last split
    have recorded := follows.recorded earlier last split
    constructor
    · rw [status, result, backoff]
      exact recorded.succeeded
    · rw [status, backoff]
      exact recorded.failed

theorem follows_new {job : CronJob} (count : job.failureCount = 0) : Follows job [] where
  named := by simp
  failures := count
  recorded := by
    intro earlier last split
    simp at split

theorem history_new {crons : Table CronJob} {firings : List Firing} (tracked : Tracked crons firings) {cron : Nat}
    (outside : crons.size ≤ cron) : history firings cron = [] := by
  rw [history, List.filter_eq_nil_iff]
  intro firing member here
  have known := tracked.known firing member
  have same : firing.cron = cron := of_decide_eq_true here
  omega

/-! What the control plane writes. -/

theorem Tracked.modify {crons : Table CronJob} {firings : List Firing} (tracked : Tracked crons firings) (id : Nat)
    {change : CronJob → CronJob} (quiet : ∀ job, (change job).progress = job.progress) :
    Tracked (crons.modify id change) firings where
  follows := by
    intro cron job found
    obtain ⟨old, known, ⟨_, rfl⟩ | ⟨_, rfl⟩⟩ := Table.modify_cases found
    · exact tracked.follows cron job known
    · exact (tracked.follows cron old known).of_progress (quiet old)
  known := by
    rw [Table.size_modify]
    exact tracked.known

theorem Tracked.set {crons : Table CronJob} {firings : List Firing} (tracked : Tracked crons firings) {id : Nat}
    {old next : CronJob} (found : crons.get? id = some old) (quiet : next.progress = old.progress) :
    Tracked (crons.set id next) firings where
  follows := by
    intro cron job there
    by_cases here : cron = id
    · subst here
      rw [Table.get?_set_self next found] at there
      cases there
      exact (tracked.follows cron old found).of_progress quiet
    · rw [Table.get?_set_ne _ _ here] at there
      exact tracked.follows cron job there
  known := by
    rw [Table.size_set]
    exact tracked.known

theorem Tracked.insert {crons : Table CronJob} {firings : List Firing} (tracked : Tracked crons firings)
    {added : CronJob} (new : added.failureCount = 0) : Tracked (crons.insert added) firings where
  follows := by
    intro cron job found
    rcases Table.insert_cases found with old | ⟨rfl, rfl⟩
    · exact tracked.follows cron job old
    · rw [history_new tracked le_rfl]
      exact follows_new new
  known := by
    intro firing member
    rw [Table.size_insert]
    exact Nat.lt_succ_of_lt (tracked.known firing member)

section Control
variable {croniter : Croniter} {crons after : Table CronJob} {firings : List Firing}

theorem tracked_upsertCronJob (tracked : Tracked crons firings) {arguments : CronArguments} {now : Time}
    (done : upsertCronJob croniter crons arguments now = .ok after) : Tracked after firings := by
  rw [upsertCronJob] at done
  by_cases invalid : (!croniter.isValid arguments.cronExpr) = true
  · rw [if_pos invalid] at done
    cases done
  · rw [if_neg invalid] at done
    cases computed : firstRun croniter arguments now with
    | error error =>
      rw [computed] at done
      cases done
    | ok next =>
      rw [computed] at done
      cases search : findCron crons arguments.name with
      | none =>
        rw [search] at done
        cases done
        exact tracked.insert rfl
      | some id =>
        rw [search] at done
        cases done
        exact tracked.modify id fun _ => rfl

theorem tracked_ensureSystemCronJob (tracked : Tracked crons firings) (arguments : CronArguments) (now : Time) :
    Tracked (ensureSystemCronJob croniter crons arguments now) firings := by
  rw [ensureSystemCronJob]
  by_cases invalid : (!croniter.isValid arguments.cronExpr) = true
  · rw [if_pos invalid]
    exact tracked
  · rw [if_neg invalid]
    cases findCron crons arguments.name with
    | none =>
      dsimp only
      by_cases enabled : arguments.enabled = true
      · rw [if_pos enabled]
        cases computeNextRun croniter arguments.cronExpr arguments.timezone now with
        | error error => exact tracked.insert rfl
        | ok next => exact tracked.insert rfl
      · rw [if_neg enabled]
        exact tracked.insert rfl
    | some id =>
      refine tracked.modify id fun job => ?_
      split
      · cases computeNextRun croniter arguments.cronExpr arguments.timezone now with
        | error error => rfl
        | ok next => rfl
      · rfl

theorem tracked_scheduleMissing (tracked : Tracked crons firings) {now : Time}
    (done : scheduleMissing croniter crons now = .ok after) : Tracked after firings := by
  refine Runs.foldlM_invariant (Tracked · firings) ?_ tracked done
  intro before id next tracked taken
  rw [scheduleOne] at taken
  cases found : before.get? id with
  | none =>
    rw [found] at taken
    cases taken
    exact tracked
  | some job =>
    rw [found] at taken
    dsimp only at taken
    cases computed : computeNextRun croniter job.cronExpr job.timezone now with
    | error error =>
      rw [computed] at taken
      cases taken
    | ok time =>
      rw [computed] at taken
      cases taken
      exact tracked.set found rfl

end Control

/-! What a run writes. -/

section Run
variable [CharData] [NumberData] {croniter : Croniter} {sha256 : String → String}

/-- The run becomes the last one of the history, and the row follows. -/
theorem follows_settled {db : Db} {cron : Nat} {job : CronJob} {runs : List Firing} (follows : Follows job runs)
    (now next : Time) (queueIds : Nat → String) :
    Follows ((settled sha256 db cron job now queueIds).2.finished now next)
      (runs ++ [firing sha256 db cron job now queueIds]) := by
  have appended : ∀ earlier last, runs ++ [firing sha256 db cron job now queueIds] = earlier ++ [last] →
      runs = earlier ∧ firing sha256 db cron job now queueIds = last := by
    intro earlier last same
    simpa using List.append_inj' same rfl
  have named : ∀ fired ∈ runs ++ [firing sha256 db cron job now queueIds], fired.name = job.name := by
    intro fired member
    rcases List.mem_append.1 member with earlier | new
    · exact follows.named fired earlier
    · rw [List.mem_singleton.1 new]
      rfl
  rw [settled]
  cases enqueued : enqueueCron sha256 db cron job now queueIds with
  | ok result =>
    have outcome : (firing sha256 db cron job now queueIds).outcome = .ok result.2 := by
      rw [firing, enqueued]
      rfl
    have succeeded : (firing sha256 db cron job now queueIds).failed = false := by rw [Firing.failed, outcome]
    constructor
    · exact named
    · rw [failures_append, succeeded, ← follows.failures]
      rfl
    · intro earlier last same
      obtain ⟨rfl, rfl⟩ := appended earlier last same
      constructor
      · intro background ended
        rw [outcome, Except.ok.injEq] at ended
        rw [← ended]
        exact ⟨rfl, rfl, rfl⟩
      · intro failed
        rw [succeeded] at failed
        cases failed
  | error error =>
    have outcome : (firing sha256 db cron job now queueIds).outcome = .error error := by
      rw [firing, enqueued]
      rfl
    have failed : (firing sha256 db cron job now queueIds).failed = true := by rw [Firing.failed, outcome]
    have count : failures (runs ++ [firing sha256 db cron job now queueIds]) = job.failureCount + 1 := by
      rw [failures_append, failed, ← follows.failures, if_pos rfl]
    constructor
    · exact named
    · exact count.symm
    · intro earlier last same
      obtain ⟨rfl, rfl⟩ := appended earlier last same
      constructor
      · intro background ended
        rw [outcome] at ended
        cases ended
      · intro _
        rw [count]
        exact ⟨rfl, rfl⟩

theorem tracked_runJob {now : Time} {queueIds : Nat → String} {rows after : Rows} {cron : Nat}
    (tracked : Tracked rows.crons rows.firings) (ran : runJob croniter sha256 now queueIds rows cron = .ok after) :
    Tracked after.crons after.firings := by
  rcases runJob_cases ran with ⟨_, rfl⟩ | ⟨job, next, found, rfl⟩
  · exact tracked
  · constructor
    · intro other row there
      by_cases here : other = cron
      · subst here
        rw [Table.get?_set_self _ found] at there
        cases there
        have same := history_append_self rows.firings (firing sha256 rows.db other job now queueIds)
        exact same ▸ follows_settled (tracked.follows other job found) now next queueIds
      · rw [Table.get?_set_ne _ _ here] at there
        rw [history_append_other _ _ (Ne.symm here)]
        exact tracked.follows other row there
    · intro fired member
      rw [Table.size_set]
      rcases List.mem_append.1 member with earlier | new
      · exact tracked.known fired earlier
      · rw [List.mem_singleton.1 new]
        exact Table.get?_lt found

theorem tracked_step {state next : State} {action : Action} (tracked : Tracked state.crons state.firings)
    (taken : step croniter sha256 state action = some next) : Tracked next.crons next.firings := by
  have kept : ∀ outcome : Except PyException (Table CronJob),
      (∀ crons, outcome = .ok crons → Tracked crons state.firings) →
        Tracked (outcome.toOption.getD state.crons) state.firings := by
    intro outcome done
    cases outcome with
    | error error => exact tracked
    | ok crons => exact done crons rfl
  cases action with
  | queue action =>
    obtain ⟨_, queue, _, rfl⟩ := queue_step taken
    exact tracked
  | upsertCronJob arguments =>
    cases taken
    exact kept _ fun _ => tracked_upsertCronJob tracked
  | ensureSystemCronJob arguments =>
    cases taken
    exact tracked_ensureSystemCronJob tracked arguments state.queue.now
  | scheduleMissing =>
    cases taken
    exact kept _ fun _ => tracked_scheduleMissing tracked
  | tick broker queueIds limit =>
    cases taken
    cases outcome : tickRows croniter sha256 state.rows state.queue.now broker queueIds limit with
    | error error => exact tracked
    | ok rows =>
      exact tickRows_invariant (fun rows => Tracked rows.crons rows.firings) (fun _ _ => tracked)
        (fun _ _ _ tracked ran => tracked_runJob tracked ran) outcome

theorem tracked_run {actions : List Action} {state : State} (ran : run croniter sha256 .initial actions = some state) :
    Tracked state.crons state.firings := by
  have start : Tracked State.initial.crons State.initial.firings := by
    constructor
    · intro cron job found
      cases found
    · intro firing member
      cases member
  exact Runs.run_invariant (fun state => Tracked state.crons state.firings)
    (fun _ _ _ tracked taken => tracked_step tracked taken) start ran

/-! The delay. -/

omit [CharData] [NumberData] in
theorem cronBackoffSeconds_eq_iff {total since : Nat} (some' : 1 ≤ since) (within : since ≤ total) :
    cronBackoffSeconds total = min 900 (2 ^ min 10 since) ↔ since = total ∨ 10 ≤ since := by
  have delays : ∀ first ≤ 10, ∀ second ≤ 10, min 900 (2 ^ first) = min 900 (2 ^ second) → first = second := by decide
  rw [cronBackoffSeconds]
  constructor
  · intro same
    have exponents := delays _ (min_le_right _ _) _ (min_le_left _ _) same
    omega
  · intro counts
    have exponents : min (max 1 total) 10 = min 10 since := by omega
    rw [exponents]

/-- A failing run backs off by the failing runs since the last successful one, exactly if no failure has been
recovered from before it or these runs alone reach the longest delay. -/
theorem backoff_restarts_iff {actions : List Action} {state : State}
    (ran : run croniter sha256 .initial actions = some state) {cron : Nat} {job : CronJob}
    (found : state.crons.get? cron = some job) {earlier : List Firing} {last : Firing}
    (fired : history state.firings cron = earlier ++ [last]) (failed : last.failed = true) :
    job.backoffUntil = some (last.time + min 900 (2 ^ min 10 (failuresSince (earlier ++ [last])))) ↔
      Unrecovered earlier ∨ 9 ≤ failuresSince earlier := by
  have follows := (tracked_run ran).follows cron job found
  have recorded := ((follows.recorded earlier last fired).failed failed).2
  have since : failuresSince (earlier ++ [last]) = failuresSince earlier + 1 := by
    rw [failuresSince_append, if_pos failed]
  have total : failures (earlier ++ [last]) = failures earlier + 1 := by
    rw [failures_append, if_pos failed]
  have within := failuresSince_le earlier
  rw [recorded, since, total, Option.some.injEq, Nat.add_left_cancel_iff,
    cronBackoffSeconds_eq_iff (by omega) (by omega), ← failuresSince_eq_iff]
  omega

end Run

/-! A report whose window is first unreadable, then mended, then unreadable again. -/

def everyMinute : Croniter where
  Zone := Unit
  zoneInfo _ := .ok ()
  isValid expression := expression = "* * * * *"
  getNext _ _ base := .ok (base - base % 60 + 60)

def unreadable : Dict := [("system_task", .str "dream_review"), ("window_hours", .arr [.int 24])]

def mended : Dict := [("system_task", .str "dream_review")]

def scheduled (metadata : Dict) : Action :=
  .upsertCronJob { name := "report", cronExpr := "* * * * *", timezone := "UTC", metadata := metadata }

/-- The digests of the request and of the key that the report is enqueued under. -/
def reportDigest (text : String) : String :=
  if text = "\x7b\"cron_job_id\": \"0\", \"payload\": \x7b\"limit\": 50, \"window_hours\": 24\x7d, \"task_name\": \"dream_review\", \"triggered_by\": \"cron:report\"\x7d"
  then "573ebae26e64f24c58f71f1f16a68be5a0c74ddf71ec6793b9f5a05bce602d48"
  else "427232192c515142de5136d566bc762a05c2ef1567e8836b50b6ddd95cb85805"

def polled : List Action := [.queue (.advance 60), .tick (fun _ => none) (fun _ => "q-1") 10]

def unreadableWindow : PyException := ⟨.typeError, "int() argument must not be 'list'"⟩

def firstReport : Firing := ⟨0, "report", unreadable, 60, .error unreadableWindow, 0⟩

def mendedReport : Firing := ⟨0, "report", mended, 120, .ok 0, 0⟩

def lastReport : Firing := ⟨0, "report", unreadable, 180, .error unreadableWindow, 1⟩

section Report
attribute [local instance] CharData.ascii NumberData.decimal

/-- The first failing run backs off by two seconds. -/
theorem backoff_restarts_report : ∃ state job,
    run everyMinute reportDigest .initial (scheduled unreadable :: polled) = some state ∧
    state.crons.get? 0 = some job ∧ job.backoffUntil = some (60 + 2) := by
  have ends : (run everyMinute reportDigest .initial (scheduled unreadable :: polled)).map
      (fun state => ((state.crons.get? 0).isSome, history state.firings 0)) = some (true, [firstReport]) := by
    decide +kernel
  obtain ⟨state, ran, same⟩ := Option.map_eq_some_iff.1 ends
  obtain ⟨job, found⟩ := Option.isSome_iff_exists.1 (congrArg Prod.fst same)
  have fired : history state.firings 0 = [] ++ [firstReport] := congrArg Prod.snd same
  exact ⟨state, job, ran, found, (backoff_restarts_iff ran found fired rfl).2 (.inl .nil)⟩

def reportRun : List Action :=
  scheduled unreadable :: polled ++ scheduled mended :: polled ++ scheduled unreadable :: polled

/-- After a successful run one more failure backs off by four seconds. -/
theorem backoff_keeps_failures : ∃ state job,
    run everyMinute reportDigest .initial reportRun = some state ∧ state.crons.get? 0 = some job ∧
    history state.firings 0 = [firstReport, mendedReport] ++ [lastReport] ∧ lastReport.failed = true ∧
    failuresSince ([firstReport, mendedReport] ++ [lastReport]) = 1 ∧
    job.backoffUntil ≠ some (lastReport.time + min 900 (2 ^ min 10 1)) := by
  have ends : (run everyMinute reportDigest .initial reportRun).map (fun state =>
      ((state.crons.get? 0).map (·.backoffUntil), history state.firings 0)) =
        some (some (some 184), [firstReport, mendedReport, lastReport]) := by
    decide +kernel
  obtain ⟨state, ran, same⟩ := Option.map_eq_some_iff.1 ends
  obtain ⟨job, found, until_⟩ := Option.map_eq_some_iff.1 (congrArg Prod.fst same)
  refine ⟨state, job, ran, found, congrArg Prod.snd same, rfl, rfl, ?_⟩
  rw [until_]
  decide

end Report

end SoulClaw.Runtime.Cron
