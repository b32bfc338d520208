import SoulClaw.Domain.Idempotency
import SoulClaw.Worker.Moves
import Mathlib.Data.Set.Basic

/-! The keys of the queue over whole runs. The ledger of the rows is what an enqueue compares
a request with: the request of every job, and the key and the hash of every record. Only an
enqueue writes it; a worker that completes a job finds the record that the enqueue made. -/

namespace SoulClaw.Worker.Keys
open Foundation Domain.Jobs Domain.Idempotency Queue Moves

/-- The request that a job has been made for. -/
def jobRequest (job : BackgroundJob) : EnqueueRequest where
  taskName := job.taskName
  payload := job.payload
  triggeredBy := job.triggeredBy
  cronJobId := job.cronJobId
  idempotencyKey := job.idempotencyKey

structure RecordKey where
  scope : String
  idempotencyKey : String
  requestHash : String
  deriving DecidableEq

def recordKey (record : IdempotencyRecord) : RecordKey :=
  ⟨record.scope, record.idempotencyKey, record.requestHash⟩

structure Ledger where
  jobs : Nat → Option EnqueueRequest
  records : Nat → Option RecordKey

def ledger (db : Db) : Ledger where
  jobs id := (db.jobs.get? id).map jobRequest
  records id := (db.idempotency.get? id).map recordKey

/-- Every job has one record under its key, with the hash of its request, and every record of
the scope belongs to a job. -/
structure Ledger.Exact (sha256 : String → String) (requests : Set EnqueueRequest) (ledger : Ledger) :
    Prop where
  jobKeys : ∀ first second job other, ledger.jobs first = some job → ledger.jobs second = some other →
    job.idempotencyKey = other.idempotencyKey → first = second
  recordKeys : ∀ first second record other, ledger.records first = some record →
    ledger.records second = some other → record.scope = other.scope →
    record.idempotencyKey = other.idempotencyKey → first = second
  recorded : ∀ id job, ledger.jobs id = some job →
    ∃ place, ledger.records place = some ⟨"background_job", job.idempotencyKey, requestHash sha256 job⟩
  backed : ∀ place record, ledger.records place = some record → record.scope = "background_job" →
    ∃ id job, ledger.jobs id = some job ∧ job.idempotencyKey = record.idempotencyKey
  origin : ∀ id job, ledger.jobs id = some job → ∃ request ∈ requests, SameRequest request job

theorem exact_initial (sha256 : String → String) (requests : Set EnqueueRequest) :
    (ledger Db.empty).Exact sha256 requests := by
  have jobs : ∀ id, (ledger Db.empty).jobs id = none := fun id => by simp [ledger, Db.empty]
  have records : ∀ id, (ledger Db.empty).records id = none := fun id => by simp [ledger, Db.empty]
  constructor
  · intro first second job other found
    rw [jobs] at found
    cases found
  · intro first second record other found
    rw [records] at found
    cases found
  · intro id job found
    rw [jobs] at found
    cases found
  · intro place record found
    rw [records] at found
    cases found
  · intro id job found
    rw [jobs] at found
    cases found

/-! Writes that leave the ledger as it is. -/

theorem ledger_setJob {db : Db} {id : Nat} {job next : BackgroundJob} (found : db.jobs.get? id = some job)
    (same : jobRequest next = jobRequest job) : ledger (db.setJob id next) = ledger db := by
  rw [ledger, ledger, Db.setJob]
  congr 1
  funext other
  exact Table.map_get?_set found same other

theorem ledger_completeIdempotency {db : Db} {scope key : String} {record : RecordKey} {place : Nat}
    (known : (ledger db).records place = some record) (sameScope : record.scope = scope)
    (keyed : record.idempotencyKey = key) (response : Json) (status : IdempotencyStatus) :
    ledger (completeIdempotency db scope key response status) = ledger db := by
  obtain ⟨row, found, same⟩ := Option.map_eq_some_iff.1 known
  rw [completeIdempotency]
  by_cases empty : key = ""
  · rw [if_pos empty]
  · rw [if_neg empty]
    cases search : findIdempotency db scope key with
    | none =>
      have other := Table.find?_eq_none.1 search place row found
      rw [← same] at sameScope keyed
      exact absurd (of_decide_eq_false other) (not_not_intro ⟨sameScope, keyed⟩)
    | some id =>
      obtain ⟨old, there, _⟩ := Table.find?_eq_some search
      simp only [there]
      rw [ledger, ledger]
      congr 1
      funext other
      have untouched : recordKey { old with status := status, response := response } = recordKey old := rfl
      exact Table.map_get?_set there untouched other

section Exact
variable {sha256 : String → String} {requests : Set EnqueueRequest}

/-- The end of a job finds the record that its enqueue made. -/
theorem ledger_completed {db : Db} (kept : (ledger db).Exact sha256 requests) {id : Nat}
    {job next : BackgroundJob} (found : db.jobs.get? id = some job) (same : jobRequest next = jobRequest job)
    (response : Json) (status : IdempotencyStatus) :
    ledger (completeIdempotency (db.setJob id next) "background_job" next.idempotencyKey response status) =
      ledger db := by
  have unchanged := ledger_setJob found same
  have listed : (ledger db).jobs id = some (jobRequest job) := congrArg (Option.map jobRequest) found
  obtain ⟨place, known⟩ := kept.recorded id _ listed
  rw [← unchanged] at known
  have keyed : (jobRequest job).idempotencyKey = next.idempotencyKey := same ▸ rfl
  rw [ledger_completeIdempotency known rfl keyed, unchanged]

variable {db after : Db}

theorem ledger_markSucceeded (kept : (ledger db).Exact sha256 requests) {id : Nat} {now : Time} {result : Json}
    (done : markSucceeded db id now result = .ok after) : ledger after = ledger db := by
  obtain ⟨job, found, written⟩ := getJob_bind done
  cases written
  have same : jobRequest (job.succeeded now result) = jobRequest job := rfl
  exact ledger_completed kept found same _ _

theorem ledger_markDeadLetter (kept : (ledger db).Exact sha256 requests) {id : Nat} {now : Time} {error : String}
    (done : markDeadLetter db id now error = .ok after) : ledger after = ledger db := by
  obtain ⟨job, found, written⟩ := getJob_bind done
  cases written
  have same : jobRequest (job.deadLettered now error) = jobRequest job := rfl
  exact ledger_completed kept found same _ _

theorem ledger_markRetrying {id : Nat} {now : Time} {error : String}
    (done : markRetrying db id now error = .ok after) : ledger after = ledger db := by
  obtain ⟨job, found, written⟩ := getJob_bind done
  cases written
  exact ledger_setJob found rfl

theorem ledger_failRun (kept : (ledger db).Exact sha256 requests) {id : Nat} {now : Time} {attempt bound : Nat}
    {error : String} (done : failRun db id now attempt bound error = .ok after) : ledger after = ledger db := by
  rw [failRun] at done
  by_cases spent : attempt ≥ bound
  · rw [if_pos spent] at done
    exact ledger_markDeadLetter kept done
  · rw [if_neg spent] at done
    exact ledger_markRetrying done

theorem ledger_cancel {id : Nat} {now : Time} (done : cancel db id now = .ok after) :
    ledger after = ledger db := by
  rcases cancel_cases db id now with ⟨error, failed⟩ | ⟨job, found, _, taken⟩
  · rw [failed] at done
    cases done
  · rw [taken] at done
    cases done
    exact ledger_setJob found rfl

theorem ledger_startRun {id : Nat} {now : Time} {lockOwner : String} {started : Option (Nat × Nat)}
    (done : startRun db id now lockOwner = .ok (after, started)) : ledger after = ledger db := by
  by_cases idle : ∀ row, db.jobs.get? id = some row → shouldRun row now = false
  · rcases startRun_skipped lockOwner idle with ⟨error, failed⟩ | skipped
    · rw [failed] at done
      cases done
    · rw [skipped] at done
      cases done
      rfl
  · push Not at idle
    obtain ⟨row, found, runs⟩ := idle
    rw [startRun_begins lockOwner found (by simpa using runs)] at done
    cases done
    exact ledger_setJob found rfl

/-! The batch of the outbox, and the jobs that are rescheduled. -/

theorem ledger_setOutbox (db : Db) (id : Nat) (message : OutboxMessage) :
    ledger (db.setOutbox id message) = ledger db := rfl

theorem ledger_dispatchOutboxMessage (kept : (ledger db).Exact sha256 requests) (id : Nat)
    (message : OutboxMessage) (now : Time) (refused : Option String) :
    ledger (dispatchOutboxMessage db id message now refused).1 = ledger db := by
  rw [dispatchOutboxMessage]
  by_cases topic : message.topic ≠ "celery.dispatch"
  · rw [if_pos topic]
  · rw [if_neg topic]
    simp only
    cases dispatchTask message.payload.taskName refused with
    | ok sent => exact ledger_setOutbox db id _
    | error error =>
      simp only
      by_cases spent : message.attemptCount + 1 ≥ message.maxAttempts
      · rw [if_pos spent]
        split
        next after done =>
          have unchanged := ledger_setOutbox db id
            { message with
              attemptCount := message.attemptCount + 1
              lastError := error
              status := .deadLetter
              dispatchedAt := some now }
          rw [← unchanged] at kept
          exact (ledger_markDeadLetter kept done).trans unchanged
        next => exact ledger_setOutbox db id _
      · rw [if_neg spent]
        exact ledger_setOutbox db id _

theorem ledger_dispatchOne {progress : Dispatched} (kept : (ledger progress.db).Exact sha256 requests)
    (now : Time) (broker : Nat → Option String) (id : Nat) :
    ledger (dispatchOne now broker progress id).db = ledger progress.db := by
  rw [dispatchOne]
  cases progress.db.outbox.get? id with
  | none => rfl
  | some message =>
    have attempted := ledger_dispatchOutboxMessage kept id message now (broker id)
    simp only
    generalize dispatchOutboxMessage progress.db id message now (broker id) = ended at attempted ⊢
    obtain ⟨after, outcome⟩ := ended
    cases outcome with
    | ok job => exact attempted
    | error error => exact attempted

theorem ledger_dispatchOutbox (kept : (ledger db).Exact sha256 requests) (now : Time)
    (broker : Nat → Option String) (limit : Nat) :
    ledger (dispatchOutbox db now broker limit).db = ledger db := by
  have batch : ∀ (ids : List Nat) (progress : Dispatched), (ledger progress.db).Exact sha256 requests →
      ledger (ids.foldl (dispatchOne now broker) progress).db = ledger progress.db := by
    intro ids
    induction ids with
    | nil => exact fun _ _ => rfl
    | cons id rest ih =>
      intro progress kept
      have first := ledger_dispatchOne kept now broker id
      rw [List.foldl_cons, ih _ (first ▸ kept), first]
  exact batch _ _ kept

theorem ledger_rescheduleReady {queueIds : Nat → String} {id : Nat}
    (done : rescheduleReady queueIds db id = .ok after) : ledger after = ledger db := by
  obtain ⟨job, outbox, found, _, rfl⟩ := rescheduleReady_rescheduled done
  have same : jobRequest (job.enqueued (queueIds id)) = jobRequest job := rfl
  exact ledger_setJob found same

theorem ledger_rescheduleAll {queueIds : Nat → String} {ids : List Nat}
    (done : ids.foldlM (rescheduleReady queueIds) db = .ok after) : ledger after = ledger db := by
  induction ids generalizing db with
  | nil =>
    cases done
    rfl
  | cons id rest ih =>
    rw [List.foldlM_cons] at done
    cases first : rescheduleReady queueIds db id with
    | error error =>
      rw [first] at done
      cases done
    | ok next =>
      rw [first] at done
      exact (ih done).trans (ledger_rescheduleReady first)

/-! The row that an enqueue adds. -/

section Added
variable {Row Column : Type} {rows next : Nat → Option Row} {id : Nat} {row : Row}

theorem added_cases (added : ∀ other, next other = if other = id then some row else rows other)
    {other : Nat} {known : Row} (found : next other = some known) :
    other = id ∧ known = row ∨ rows other = some known := by
  rw [added] at found
  by_cases here : other = id
  · rw [if_pos here] at found
    exact .inl ⟨here, (Option.some.inj found).symm⟩
  · rw [if_neg here] at found
    exact .inr found

theorem added_old (added : ∀ other, next other = if other = id then some row else rows other)
    (free : rows id = none) {other : Nat} {known : Row} (found : rows other = some known) :
    next other = some known := by
  have elsewhere : other ≠ id := by
    rintro rfl
    rw [free] at found
    cases found
  rw [added, if_neg elsewhere, found]

/-- A column stays unique if no row has the value that is added. -/
theorem added_unique {column : Row → Column}
    (added : ∀ other, next other = if other = id then some row else rows other)
    (unique : ∀ first second one two, rows first = some one → rows second = some two →
      column one = column two → first = second)
    (fresh : ∀ other known, rows other = some known → column known ≠ column row) :
    ∀ first second one two, next first = some one → next second = some two →
      column one = column two → first = second := by
  intro first second one two found there same
  rcases added_cases added found with ⟨rfl, rfl⟩ | old
  · rcases added_cases added there with ⟨rfl, _⟩ | older
    · rfl
    · exact absurd same.symm (fresh second two older)
  · rcases added_cases added there with ⟨rfl, rfl⟩ | older
    · exact absurd same (fresh first one old)
    · exact unique first second one two old older same

end Added

/-- A job and a record under a key that no job has. -/
theorem Ledger.Exact.add {ledger next : Ledger} (kept : ledger.Exact sha256 requests) {id place : Nat}
    {request job : EnqueueRequest} (newJob : ledger.jobs id = none) (newRecord : ledger.records place = none)
    (fresh : ∀ other known, ledger.jobs other = some known → known.idempotencyKey ≠ job.idempotencyKey)
    (member : request ∈ requests) (same : SameRequest request job)
    (jobs : ∀ other, next.jobs other = if other = id then some job else ledger.jobs other)
    (records : ∀ other, next.records other = if other = place then
      some ⟨"background_job", job.idempotencyKey, requestHash sha256 job⟩ else ledger.records other) :
    next.Exact sha256 requests where
  jobKeys := added_unique jobs kept.jobKeys fresh
  recordKeys := by
    have unique : ∀ first second one two, next.records first = some one → next.records second = some two →
        (one.scope, one.idempotencyKey) = (two.scope, two.idempotencyKey) → first = second := by
      refine @added_unique _ _ _ _ _ _ (fun record => (record.scope, record.idempotencyKey)) records ?_ ?_
      · intro first second one two found there same
        obtain ⟨scope, keyed⟩ := Prod.mk.inj same
        exact kept.recordKeys first second one two found there scope keyed
      · intro other known found same
        obtain ⟨scope, keyed⟩ := Prod.mk.inj same
        obtain ⟨owner, owned, listed, sameKey⟩ := kept.backed other known found scope
        exact fresh owner owned listed (sameKey.trans keyed)
    intro first second one two found there scope keyed
    exact unique first second one two found there (Prod.ext scope keyed)
  recorded := by
    intro other known found
    rcases added_cases jobs found with ⟨rfl, rfl⟩ | old
    · exact ⟨place, by rw [records, if_pos rfl]⟩
    · obtain ⟨spot, listed⟩ := kept.recorded other known old
      exact ⟨spot, added_old records newRecord listed⟩
  backed := by
    intro other known found scope
    rcases added_cases records found with ⟨rfl, rfl⟩ | old
    · exact ⟨id, job, by rw [jobs, if_pos rfl], rfl⟩
    · obtain ⟨owner, owned, listed, keyed⟩ := kept.backed other known old scope
      exact ⟨owner, owned, added_old jobs newJob listed, keyed⟩
  origin := by
    intro other known found
    rcases added_cases jobs found with ⟨rfl, rfl⟩ | old
    · exact ⟨request, member, same⟩
    · exact kept.origin other known old

/-- The record of a job is the one that an enqueue under its key finds. -/
theorem foundRecord_of_job (kept : (ledger db).Exact sha256 requests) {id : Nat} {job : BackgroundJob}
    (found : db.jobs.get? id = some job) : ∃ record, foundRecord db job.idempotencyKey = some record ∧
      record.requestHash = requestHash sha256 (jobRequest job) := by
  have listed : (ledger db).jobs id = some (jobRequest job) := congrArg (Option.map jobRequest) found
  obtain ⟨place, known⟩ := kept.recorded id _ listed
  obtain ⟨row, there, same⟩ := Option.map_eq_some_iff.1 known
  have keys := congrArg RecordKey.idempotencyKey same
  have inScope := congrArg RecordKey.scope same
  rw [foundRecord]
  cases search : findIdempotency db "background_job" job.idempotencyKey with
  | none =>
    have other := Table.find?_eq_none.1 search place row there
    exact absurd (of_decide_eq_false other) (not_not_intro ⟨inScope, keys⟩)
  | some first =>
    obtain ⟨record, recorded, matched⟩ := Table.find?_eq_some search
    have matched := of_decide_eq_true matched
    have shown : (ledger db).records first = some (recordKey record) := congrArg (Option.map recordKey) recorded
    have here : first = place := kept.recordKeys first place _ _ shown known matched.1 matched.2
    rw [here, there] at recorded
    cases recorded
    exact ⟨row, by rw [Option.bind_some, here, there], congrArg RecordKey.requestHash same⟩

theorem foundRecord_of_fresh (kept : (ledger db).Exact sha256 requests) {key : String}
    (fresh : ∀ id job, db.jobs.get? id = some job → job.idempotencyKey ≠ key) : foundRecord db key = none := by
  rw [foundRecord]
  cases search : findIdempotency db "background_job" key with
  | none => rfl
  | some place =>
    obtain ⟨record, recorded, matched⟩ := Table.find?_eq_some search
    have matched := of_decide_eq_true matched
    have shown : (ledger db).records place = some (recordKey record) := congrArg (Option.map recordKey) recorded
    obtain ⟨id, request, listed, keyed⟩ := kept.backed place _ shown matched.1
    obtain ⟨job, found, same⟩ := Option.map_eq_some_iff.1 listed
    rw [← same] at keyed
    exact absurd (keyed.trans matched.2) (fresh id job found)

theorem findJob_of_job (kept : (ledger db).Exact sha256 requests) {id : Nat} {job : BackgroundJob}
    (found : db.jobs.get? id = some job) : findJob db job.idempotencyKey = some id := by
  cases search : findJob db job.idempotencyKey with
  | none => exact absurd rfl (of_decide_eq_false (Table.find?_eq_none.1 search id job found))
  | some first =>
    obtain ⟨other, there, matched⟩ := Table.find?_eq_some search
    have same : first = id := kept.jobKeys first id _ _ (congrArg (Option.map jobRequest) there)
      (congrArg (Option.map jobRequest) found) (of_decide_eq_true matched)
    rw [same]

/-! The enqueues. -/

/-- On these requests the hash is a digest that tells different requests apart. -/
structure Faithful (sha256 : String → String) (requests : Set EnqueueRequest) : Prop where
  digest : ∀ request ∈ requests, requestHash sha256 request ≠ ""
  injective : ∀ first ∈ requests, ∀ second ∈ requests,
    requestHash sha256 first = requestHash sha256 second → SameRequest first second

/-- A request that meets a job under its key conflicts, exactly if the job has been made for
another request. -/
theorem conflicts_iff (faithful : Faithful sha256 requests) (kept : (ledger db).Exact sha256 requests)
    {request : EnqueueRequest} (member : request ∈ requests) {id : Nat} {job : BackgroundJob}
    (found : db.jobs.get? id = some job) (keyed : job.idempotencyKey = requestKey sha256 request) :
    Conflicts sha256 db request ↔ ¬SameRequest request (jobRequest job) := by
  obtain ⟨record, known, hashed⟩ := foundRecord_of_job kept found
  obtain ⟨source, sourced, same⟩ := kept.origin id _ (congrArg (Option.map jobRequest) found)
  rw [keyed] at known
  rw [← same.hash_eq sha256] at hashed
  have differs : Conflicts sha256 db request ↔ requestHash sha256 source ≠ requestHash sha256 request := by
    rw [Conflicts, known, ← hashed]
    constructor
    · rintro ⟨_, ⟨⟩, _, _, different⟩
      exact different
    · intro different
      exact ⟨record, rfl, hashed ▸ faithful.digest source sourced, faithful.digest request member, different⟩
  rw [differs, not_iff_not]
  constructor
  · exact fun equal => (faithful.injective source sourced request member equal).symm.trans same
  · exact fun equal => same.hash_eq sha256 |>.trans (equal.hash_eq sha256).symm

theorem exact_enqueue (kept : (ledger db).Exact sha256 requests) {request : EnqueueRequest}
    (member : request ∈ requests) {id : Nat}
    (done : enqueueBackgroundJob sha256 db request = .ok (after, id)) : (ledger after).Exact sha256 requests := by
  by_cases conflicts : Conflicts sha256 db request
  · rw [enqueue_refused sha256 db request conflicts] at done
    cases done
  · cases search : findJob db (requestKey sha256 request) with
    | some first =>
      obtain ⟨job, found, matched⟩ := Table.find?_eq_some search
      obtain ⟨record, known, _⟩ := foundRecord_of_job kept found
      rw [of_decide_eq_true matched] at known
      rw [enqueue_known conflicts search, checkedDb_known sha256 db request known] at done
      cases done
      exact kept
    | none =>
      have fresh : ∀ id job, db.jobs.get? id = some job → job.idempotencyKey ≠ requestKey sha256 request :=
        fun id job found => of_decide_eq_false (Table.find?_eq_none.1 search id job found)
      obtain ⟨added, taken, jobs, records⟩ := enqueue_new conflicts search
      rw [taken] at done
      cases done
      rw [checkedDb_unknown sha256 db request (foundRecord_of_fresh kept fresh)] at records
      have sameRequest : SameRequest request
          (jobRequest ((newJob request (requestKey sha256 request)).enqueued request.queueId)) :=
        ⟨rfl, rfl, rfl, rfl⟩
      have jobFree : (ledger db).jobs db.jobs.size = none :=
        congrArg (Option.map jobRequest) (Table.get?_of_size_le (Nat.le_refl _))
      have recordFree : (ledger db).records db.idempotency.size = none :=
        congrArg (Option.map recordKey) (Table.get?_of_size_le (Nat.le_refl _))
      refine kept.add jobFree recordFree ?_ member sameRequest ?_ ?_
      · intro other known listed
        obtain ⟨job, found, same⟩ := Option.map_eq_some_iff.1 listed
        exact same ▸ fresh other job found
      · intro other
        change (after.jobs.get? other).map jobRequest = _
        rw [jobs, Table.get?_insert, apply_ite (Option.map jobRequest)]
        rfl
      · intro other
        change (after.idempotency.get? other).map recordKey = _
        rw [records, Table.get?_insert, apply_ite (Option.map recordKey)]
        rfl

theorem exact_enqueueDue (kept : (ledger db).Exact sha256 requests) (due : List EnqueueRequest)
    (members : ∀ request ∈ due, request ∈ requests) :
    (ledger (enqueueDue sha256 db due)).Exact sha256 requests := by
  induction due generalizing db with
  | nil => exact kept
  | cons request rest ih =>
    rw [enqueueDue, List.foldl_cons]
    have others : ∀ request ∈ rest, request ∈ requests :=
      fun request member => members request (List.mem_cons_of_mem _ member)
    cases outcome : enqueueBackgroundJob sha256 db request with
    | error _ => exact ih kept others
    | ok result => exact ih (exact_enqueue kept (members request List.mem_cons_self) outcome) others

theorem exact_tick (kept : (ledger db).Exact sha256 requests) (now : Time) (broker : Nat → Option String)
    (queueIds : Nat → String) (due : List EnqueueRequest) (members : ∀ request ∈ due, request ∈ requests) :
    (ledger (tick sha256 db now broker queueIds due).1).Exact sha256 requests := by
  rw [tick]
  have dispatched := ledger_dispatchOutbox kept now broker 100
  cases outcome : dispatchRetryableJobs db (dispatchOutbox db now broker 100).db now queueIds with
  | error _ => exact kept
  | ok rescheduled =>
    have same := (ledger_rescheduleAll outcome).trans dispatched
    exact exact_enqueueDue (same ▸ kept) due members

/-! The runs. -/

/-- The requests that an action hands to `enqueue_background_job`. -/
def submitted : Action → List EnqueueRequest
  | .enqueue request => [request]
  | .tick _ _ due => due
  | _ => []

/-- A step leaves the ledger as it is, or it enqueues. -/
theorem ledger_step {state next : State} {action : Action} (kept : (ledger state.db).Exact sha256 requests)
    (taken : step sha256 state action = some next) :
    ledger next.db = ledger state.db ∨
      (∃ request id, action = .enqueue request ∧ enqueueBackgroundJob sha256 state.db request = .ok (next.db, id)) ∨
      ∃ broker queueIds due, action = .tick broker queueIds due ∧
        next.db = (tick sha256 state.db state.now broker queueIds due).1 := by
  have written := step_written taken
  generalize next.db = db at written ⊢
  cases written with
  | quiet => exact .inl rfl
  | enqueue done => exact .inr (.inl ⟨_, _, rfl, done⟩)
  | cancel done => exact .inl (ledger_cancel done)
  | replayOutbox => exact .inl (ledger_dispatchOutbox kept state.now _ _)
  | tick => exact .inr (.inr ⟨_, _, _, rfl, rfl⟩)
  | start done => exact .inl (ledger_startRun done)
  | commitStart found => exact .inl (ledger_setJob found rfl)
  | succeed _ done => exact .inl (ledger_markSucceeded kept done)
  | fail _ done => exact .inl (ledger_failRun kept done)

theorem exact_step {state next : State} {action : Action} (kept : (ledger state.db).Exact sha256 requests)
    (members : ∀ request ∈ submitted action, request ∈ requests)
    (taken : step sha256 state action = some next) : (ledger next.db).Exact sha256 requests := by
  rcases ledger_step kept taken with same | ⟨request, id, rfl, done⟩ | ⟨broker, queueIds, due, rfl, ended⟩
  · exact same ▸ kept
  · exact exact_enqueue kept (members request (List.mem_singleton_self _)) done
  · rw [ended]
    exact exact_tick kept state.now broker queueIds due members

theorem exact_run {actions : List Action} {state : State}
    (members : ∀ action ∈ actions, ∀ request ∈ submitted action, request ∈ requests)
    (ran : run sha256 .initial actions = some state) : (ledger state.db).Exact sha256 requests := by
  have preserved : ∀ state action next, (ledger state.db).Exact sha256 requests →
      (∀ request ∈ submitted action, request ∈ requests) → step sha256 state action = some next →
      (ledger next.db).Exact sha256 requests :=
    fun _ _ _ kept allowed taken => exact_step kept allowed taken
  exact Runs.run_invariant_along _ preserved (exact_initial sha256 requests)
    (Runs.along_of_forall_mem State.initial actions members) ran

/-- One job and one record for a key; a known key returns its job and writes nothing, or is
refused before anything is written. -/
theorem keys_exact (faithful : Faithful sha256 requests) {actions : List Action} {state : State}
    (members : ∀ action ∈ actions, ∀ request ∈ submitted action, request ∈ requests)
    (ran : run sha256 .initial actions = some state) :
    (∀ first second job other, state.db.jobs.get? first = some job → state.db.jobs.get? second = some other →
      job.idempotencyKey ≠ "" → job.idempotencyKey = other.idempotencyKey → first = second) ∧
    (∀ first second record other, state.db.idempotency.get? first = some record →
      state.db.idempotency.get? second = some other → record.scope = "background_job" →
      other.scope = "background_job" → record.idempotencyKey = other.idempotencyKey → first = second) ∧
    ∀ request ∈ requests, ∀ id job, state.db.jobs.get? id = some job →
      job.idempotencyKey = requestKey sha256 request →
      (SameRequest request (jobRequest job) →
        enqueueBackgroundJob sha256 state.db request = .ok (state.db, id)) ∧
      (¬SameRequest request (jobRequest job) →
        enqueueBackgroundJob sha256 state.db request = .error (reusedError sha256 request) ∧
        checkedDb sha256 state.db request = state.db ∧
        step sha256 state (.enqueue request) = some state) := by
  have kept := exact_run members ran
  refine ⟨?_, ?_, ?_⟩
  · intro first second job other found there _ keyed
    exact kept.jobKeys first second _ _ (congrArg (Option.map jobRequest) found)
      (congrArg (Option.map jobRequest) there) keyed
  · intro first second record other found there inScope otherScope keyed
    exact kept.recordKeys first second _ _ (congrArg (Option.map recordKey) found)
      (congrArg (Option.map recordKey) there) (inScope.trans otherScope.symm) keyed
  · intro request member id job found keyed
    have conflicts := conflicts_iff faithful kept member found keyed
    obtain ⟨record, known, _⟩ := foundRecord_of_job kept found
    have owner := findJob_of_job kept found
    rw [keyed] at known owner
    have unwritten := checkedDb_known sha256 state.db request known
    refine ⟨?_, ?_⟩
    · intro same
      rw [enqueue_known (fun conflict => conflicts.1 conflict same) owner, unwritten]
    · intro different
      have refused := enqueue_refused sha256 state.db request (conflicts.2 different)
      refine ⟨refused, unwritten, ?_⟩
      rw [step, refused]

end Exact

/-- The digests of two requests that share a key. -/
def nightlyDigests (text : String) : String :=
  if text = "\x7b\"cron_job_id\": \"\", \"payload\": \x7b\x7d, \"task_name\": \"wiki_compile\", \"triggered_by\": \"\"\x7d"
  then "3021d41bd5991b3bde0657e49d93032fa2310a9a24770309fb444a414291d08b"
  else "072b43de8d99c18340d06e8dde55af52bcd210639e8a611a8315cbc10869692e"

def nightlyLint : EnqueueRequest := { nightlyCompile with taskName := "wiki_lint" }

theorem nightlyDigests_faithful :
    Faithful nightlyDigests {request | request = nightlyCompile ∨ request = nightlyLint} where
  digest := by
    rintro request (rfl | rfl)
    · decide +kernel
    · decide +kernel
  injective := by
    rintro first (rfl | rfl) second (rfl | rfl) equal
    · exact ⟨rfl, rfl, rfl, rfl⟩
    · exact absurd equal (by decide +kernel)
    · exact absurd equal (by decide +kernel)
    · exact ⟨rfl, rfl, rfl, rfl⟩

/-- The second request finds the job of the first one; a lint under the same key is refused. -/
theorem keys_exact_nightly : ∃ state, run nightlyDigests .initial [.enqueue nightlyCompile] = some state ∧
    enqueueBackgroundJob nightlyDigests state.db nightlyCompile = .ok (state.db, 0) ∧
    enqueueBackgroundJob nightlyDigests state.db nightlyLint =
      .error (reusedError nightlyDigests nightlyLint) := by
  have ends : (run nightlyDigests .initial [.enqueue nightlyCompile]).map
      (fun state => (state.db.jobs.get? 0).map jobRequest) =
        some (some { nightlyCompile with queueId := "" }) := by decide +kernel
  obtain ⟨state, ran, listed⟩ := Option.map_eq_some_iff.1 ends
  obtain ⟨job, found, made⟩ := Option.map_eq_some_iff.1 listed
  have members : ∀ action ∈ [Action.enqueue nightlyCompile], ∀ request ∈ submitted action,
      request ∈ ({request | request = nightlyCompile ∨ request = nightlyLint} : Set EnqueueRequest) := by
    intro action only request member
    rw [List.mem_singleton.1 only] at member
    exact .inl (List.mem_singleton.1 member)
  have keyed : job.idempotencyKey = "nightly" := congrArg EnqueueRequest.idempotencyKey made
  have known := (keys_exact nightlyDigests_faithful members ran).2.2
  refine ⟨state, ran, ?_, ?_⟩
  · refine (known nightlyCompile (.inl rfl) 0 job found keyed).1 ?_
    rw [made]
    exact ⟨rfl, rfl, rfl, rfl⟩
  · refine ((known nightlyLint (.inr rfl) 0 job found keyed).2 ?_).1
    rw [made]
    intro same
    exact absurd same.taskName (by decide)

/-! Whether the job that a request gets will still run. -/

/-- The status of the job that an enqueue returns. -/
def returnedStatus (sha256 : String → String) (db : Db) (request : EnqueueRequest) : Option JobStatus :=
  match enqueueBackgroundJob sha256 db request with
  | .ok (after, id) => (after.jobs.get? id).map (·.status)
  | .error _ => none

section Returned
variable {sha256 : String → String} {db : Db} {request : EnqueueRequest}

theorem returnedStatus_known (open_ : ¬Conflicts sha256 db request) {id : Nat} {job : BackgroundJob}
    (known : findJob db (requestKey sha256 request) = some id) (found : db.jobs.get? id = some job) :
    returnedStatus sha256 db request = some job.status := by
  rw [returnedStatus, enqueue_known open_ known]
  simp only
  rw [checkedDb_jobs, found]
  rfl

theorem returnedStatus_new (open_ : ¬Conflicts sha256 db request)
    (unknown : findJob db (requestKey sha256 request) = none) :
    returnedStatus sha256 db request = some .queued := by
  obtain ⟨after, taken, jobs, _⟩ := enqueue_new open_ unknown
  rw [returnedStatus, taken]
  simp only
  rw [jobs, Table.get?_insert_self]
  rfl

/-- The request gets a job that is not terminal, exactly if no other request used its key and
the job that has the key, if there is one, is not terminal. -/
theorem returns_active_iff (sha256 : String → String) (db : Db) (request : EnqueueRequest) :
    (∃ status, returnedStatus sha256 db request = some status ∧ ¬status.Terminal) ↔
      ¬Conflicts sha256 db request ∧
        ∀ job ∈ foundJob db (requestKey sha256 request), ¬job.status.Terminal := by
  by_cases conflicts : Conflicts sha256 db request
  · refine iff_of_false ?_ fun holds => holds.1 conflicts
    rw [returnedStatus, enqueue_refused sha256 db request conflicts]
    simp
  · rw [foundJob]
    cases known : findJob db (requestKey sha256 request) with
    | none =>
      rw [returnedStatus_new conflicts known]
      refine iff_of_true ⟨.queued, rfl, by decide⟩ ⟨conflicts, ?_⟩
      intro job found
      cases found
    | some id =>
      obtain ⟨job, found, _⟩ := Table.find?_eq_some known
      rw [returnedStatus_known conflicts known found, Option.bind_some, found]
      constructor
      · intro ⟨status, same, active⟩
        cases same
        refine ⟨conflicts, ?_⟩
        intro other this
        cases this
        exact active
      · intro ⟨_, active⟩
        exact ⟨job.status, rfl, active job rfl⟩

end Returned

/-- A heartbeat that an administrator asks for, and the digest of it. -/
def heartbeat : EnqueueRequest := { taskName := "heartbeat_check", triggeredBy := "admin", queueId := "q-1" }

def heartbeatDigest (_payload : String) : String :=
  "c4e4d3fdaaafef3ff2b3c85b0fcedafe1a138d427a5ece09607ccf8ebaa4bc79"

/-- After the first heartbeat has succeeded, a second one gets the job that has ended. -/
theorem second_heartbeat_ended : heartbeat.idempotencyKey = "" ∧ ∃ state status,
    run heartbeatDigest .initial [.enqueue heartbeat, .replayOutbox (fun _ => none) 1, .start 0 "worker",
      .succeed 0 (.obj [])] = some state ∧
    returnedStatus heartbeatDigest state.db heartbeat = some status ∧ status.Terminal := by
  have ends : (run heartbeatDigest .initial [.enqueue heartbeat, .replayOutbox (fun _ => none) 1,
      .start 0 "worker", .succeed 0 (.obj [])]).map
        (fun state => returnedStatus heartbeatDigest state.db heartbeat) = some (some .succeeded) := by
    decide +kernel
  obtain ⟨state, ran, returned⟩ := Option.map_eq_some_iff.1 ends
  exact ⟨rfl, state, .succeeded, ran, returned, by decide⟩

end SoulClaw.Worker.Keys
