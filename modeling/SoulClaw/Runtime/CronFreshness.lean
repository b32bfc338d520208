import SoulClaw.Foundation.JsonRead
import SoulClaw.Runtime.CronBackoff
import SoulClaw.Worker.Keys

/-! Which successful runs of a cron job have made a background job. The key of a run names the job, its metadata and
the minute, and the queue answers a known key with the job that has it. -/

namespace SoulClaw.Runtime.Cron
open Foundation Domain.Jobs Domain.Idempotency Worker Worker.Keys

/-! The key of a run. -/

def metadataText (metadata : Dict) : String := (Json.obj metadata).sortKeys.dumps

/-- The text that the digest in the key is made of. -/
def keyText (firing : Firing) : String :=
  (keyPayload firing.cron firing.name firing.metadata firing.time).sortKeys.dumps

def Firing.key (sha256 : String → String) (firing : Firing) : String :=
  cronEnqueueKey sha256 firing.cron firing.name firing.metadata firing.time

/-- The window and the metadata are the same. -/
structure SameSlot (first second : Firing) : Prop where
  minute : first.time / 60 = second.time / 60
  metadata : metadataText first.metadata = metadataText second.metadata

/-- The digest has no colon, and tells the texts of these runs apart. -/
structure Digests (sha256 : String → String) (firings : List Firing) : Prop where
  colonless : ∀ firing ∈ firings, ':' ∉ (sha256 (keyText firing)).toList
  injective : ∀ first ∈ firings, ∀ second ∈ firings, sha256 (keyText first) = sha256 (keyText second) →
    keyText first = keyText second

theorem window_eq_iff (first second : Time) : window first = window second ↔ first / 60 = second / 60 := by
  rw [window, window, String.ofList_inj, Calendar.isoformat_injective.eq_iff]
  have start : ∀ time : Nat, time - time % 60 = 60 * (time / 60) := fun time => by omega
  rw [start, start, Nat.mul_right_inj (by decide)]

theorem sortKeys_keyPayload (firing : Firing) :
    (keyPayload firing.cron firing.name firing.metadata firing.time).sortKeys =
      .obj [("cron_job_id", .str (toString firing.cron)), ("metadata", (Json.obj firing.metadata).sortKeys),
        ("name", .str firing.name), ("window", .str (window firing.time))] := by
  have window_metadata : ¬"window" ≤ "metadata" := by decide
  have name_metadata : ¬"name" ≤ "metadata" := by decide
  have name_window : "name" ≤ "window" := by decide
  have cron_metadata : "cron_job_id" ≤ "metadata" := by decide
  simp only [keyPayload, Json.sortKeys, Json.sortKeysFields, List.insertionSort, List.orderedInsert, List.foldr,
    if_pos name_window, if_pos cron_metadata, if_neg window_metadata, if_neg name_metadata]

/-- A quoted string is followed by what stands behind its closing quote. -/
theorem quoted_inj {first second : String} {tail rest : List Char}
    (same : first.toList.flatMap Text.dumpsChar ++ '"' :: tail = second.toList.flatMap Text.dumpsChar ++ '"' :: rest) :
    first = second ∧ tail = rest := by
  let fuel := (first.toList.flatMap Text.dumpsChar).length + (second.toList.flatMap Text.dumpsChar).length + 1
  have read := @Loads.stringBody_dumps first.toList tail fuel (by omega)
  have other := @Loads.stringBody_dumps second.toList rest fuel (by omega)
  rw [same, other, Option.some.injEq, Prod.mk.injEq] at read
  exact ⟨String.toList_injective read.1.symm, read.2.symm⟩

theorem dumpsChar_literal {c : Char} (literal : Loads.isLiteral c = true) : Text.dumpsChar c = [c] := by
  obtain ⟨quote, slash, visible⟩ := of_decide_eq_true literal
  have control : ∀ d : Char, d.toNat < 0x20 → c ≠ d := by
    rintro d low rfl
    omega
  rw [Text.dumpsChar, if_neg (by simp [quote, slash]), if_neg (control _ (by decide)), if_neg (control _ (by decide)),
    if_neg (control _ (by decide)), if_neg (control _ (by decide)), if_neg (control _ (by decide)), if_neg (by omega)]

/-- Nothing in the window has to be escaped. -/
theorem literal_of_mem_isoformat {seconds : Nat} {c : Char} (member : c ∈ Calendar.isoformat seconds 0) :
    Loads.isLiteral c = true := by
  rcases Calendar.mem_isoformat member with digit | separator
  · have bounds := Char.isDigit_iff_toNat.1 digit
    have zero : '0'.toNat = 48 := rfl
    refine decide_eq_true ⟨?_, ?_, by omega⟩
    · rintro rfl
      exact absurd digit (by decide)
    · rintro rfl
      exact absurd digit (by decide)
  · have literals : ∀ d ∈ ['-', 'T', ':', '.', '+'], Loads.isLiteral d = true := Text.forall_listed (by decide)
    exact literals c separator

theorem window_dumps (time : Time) : (window time).toList.flatMap Text.dumpsChar = (window time).toList := by
  have each : ∀ chars : List Char, (∀ c ∈ chars, Loads.isLiteral c = true) → chars.flatMap Text.dumpsChar = chars := by
    intro chars literals
    induction chars with
    | nil => rfl
    | cons c rest ih =>
      rw [List.flatMap_cons, dumpsChar_literal (literals c List.mem_cons_self),
        ih fun d member => literals d (List.mem_cons_of_mem _ member)]
      rfl
  rw [window, String.toList_ofList]
  exact each _ fun _ => literal_of_mem_isoformat

theorem quote_notMem_window (time : Time) : '"' ∉ (window time).toList := by
  rw [window, String.toList_ofList]
  exact fun member => absurd (literal_of_mem_isoformat member) (by decide)

/-- A key with what opens its value. -/
def introduced (key : String) : List Char := '"' :: (key.toList.flatMap Text.dumpsChar ++ ['"', ':', ' '])

/-- What the text says between the id and the window. -/
def middleText (metadata : Dict) (name : String) : List Char :=
  ',' :: ' ' :: (introduced "metadata" ++ ((metadataText metadata).toList ++
    ',' :: ' ' :: (introduced "name" ++ ((Json.str name).dumps.toList ++ ',' :: ' ' :: introduced "window"))))

theorem keyText_eq (firing : Firing) : (keyText firing).toList =
    '\x7b' :: (introduced "cron_job_id" ++ '"' :: ((toString firing.cron).toList.flatMap Text.dumpsChar ++ '"' ::
      (middleText firing.metadata firing.name ++ '"' :: ((window firing.time).toList ++ ['"', '\x7d'])))) := by
  rw [keyText, sortKeys_keyPayload, Loads.dumps_obj, Loads.fieldsText_cons, Loads.fieldsText_cons,
    Loads.fieldsText_cons, Loads.fieldsText_singleton, Loads.dumps_str, Loads.dumps_str, Loads.dumps_str, window_dumps]
  simp only [introduced, middleText, metadataText, Loads.dumps_str, List.append_assoc, List.cons_append,
    List.nil_append]

/-- The text of a run tells its job, its metadata and its window, between runs of one name. -/
theorem keyText_inj {first second : Firing} (named : first.name = second.name) (same : keyText first = keyText second) :
    first.cron = second.cron ∧ SameSlot first second := by
  have chars := congrArg String.toList same
  rw [keyText_eq, keyText_eq, named] at chars
  obtain ⟨crons, chars⟩ := quoted_inj (List.cons.inj (List.append_cancel_left (List.cons.inj chars).2)).2
  have windows : middleText first.metadata second.name = middleText second.metadata second.name ∧
      (window first.time).toList = (window second.time).toList := by
    rw [← List.cons_append, ← List.cons_append, ← List.append_assoc, ← List.append_assoc] at chars
    rcases Text.cut_eq_cut_iff.1 (List.append_cancel_right chars) with both | ⟨rest, _, tail⟩ | ⟨rest, _, tail⟩
    · exact both
    · exact absurd (tail ▸ by simp) (quote_notMem_window first.time)
    · exact absurd (tail ▸ by simp) (quote_notMem_window second.time)
  have metadata := List.append_cancel_left (List.cons.inj (List.cons.inj windows.1).2).2
  refine ⟨Text.toString_nat_injective crons, ?_, ?_⟩
  · exact (window_eq_iff _ _).1 (String.toList_injective windows.2)
  · exact String.toList_injective (List.append_cancel_right metadata)

section Keys
variable {sha256 : String → String} {first second : Firing}

theorem key_eq (firing : Firing) : firing.key sha256 = "cron:" ++ firing.name ++ ":" ++ sha256 (keyText firing) := rfl

/-- Runs of one job in one slot have one key. -/
theorem key_of_sameSlot (crons : first.cron = second.cron) (named : first.name = second.name)
    (slot : SameSlot first second) : first.key sha256 = second.key sha256 := by
  have texts : keyText first = keyText second := by
    rw [keyText, keyText, sortKeys_keyPayload, sortKeys_keyPayload, crons, named, (window_eq_iff _ _).2 slot.minute]
    have metadata := slot.metadata
    rw [metadataText, metadataText] at metadata
    simp only [Json.dumps, Json.dumpsFields, metadata]
  rw [key_eq, key_eq, named, texts]

/-- Runs with one key are runs of one job in one slot. -/
theorem sameSlot_of_key {firings : List Firing} (digests : Digests sha256 firings) (member : first ∈ firings)
    (other : second ∈ firings) (same : first.key sha256 = second.key sha256) :
    first.cron = second.cron ∧ SameSlot first second := by
  rw [key_eq, key_eq, @String.append_assoc _ ":" _, @String.append_assoc _ ":" _] at same
  have cut : "cron:" ++ first.name = "cron:" ++ second.name ∧ sha256 (keyText first) = sha256 (keyText second) :=
    @Text.append_separator_inj _ _ _ _ ':' (digests.colonless first member) (digests.colonless second other) same
  exact keyText_inj (String.append_right_inj _ |>.1 cut.1) (digests.injective first member second other cut.2)

/-- The key of a run is none that the queue makes itself. -/
theorem key_ne_jobIdempotencyKey (firing : Firing) (request : EnqueueRequest) :
    firing.key sha256 ≠ jobIdempotencyKey sha256 request := by
  intro same
  rw [key_eq, jobIdempotencyKey] at same
  have chars := congrArg String.toList same
  simp only [String.toList_append] at chars
  exact absurd (congrArg List.head? chars) (by simp)

theorem key_ne_empty (firing : Firing) : firing.key sha256 ≠ "" := by
  intro same
  rw [key_eq] at same
  have chars := congrArg String.toList same
  simp at chars

/-! The jobs of the keys. -/

/-- The key of a background job. -/
def keyOf (db : Db) (id : Nat) : Option String := (db.jobs.get? id).map (·.idempotencyKey)

variable {db after : Db}

theorem keyOf_of_ledger (same : ledger after = ledger db) (id : Nat) : keyOf after id = keyOf db id := by
  have keys : ∀ db : Db, keyOf db id = ((ledger db).jobs id).map (·.idempotencyKey) := by
    intro db
    rw [keyOf, ledger, Option.map_map]
    rfl
  rw [keys, keys, same]

/-- An enqueue gets the job that has its key, or adds one where none has it. -/
theorem enqueue_keys {request : EnqueueRequest} {id : Nat}
    (done : enqueueBackgroundJob sha256 db request = .ok (after, id)) :
    (∀ other, keyOf after other = keyOf db other) ∧ keyOf db id = some (requestKey sha256 request) ∨
      id = db.jobs.size ∧ (∀ other, keyOf db other ≠ some (requestKey sha256 request)) ∧
        ∀ other, keyOf after other = if other = id then some (requestKey sha256 request) else keyOf db other := by
  by_cases conflicts : Conflicts sha256 db request
  · rw [enqueue_refused sha256 db request conflicts] at done
    cases done
  · cases search : findJob db (requestKey sha256 request) with
    | some first =>
      obtain ⟨job, found, matched⟩ := Table.find?_eq_some search
      rw [enqueue_known conflicts search] at done
      cases done
      refine .inl ⟨fun other => ?_, ?_⟩
      · rw [keyOf, checkedDb_jobs]
        rfl
      · rw [keyOf, found, Option.map_some, of_decide_eq_true matched]
    | none =>
      obtain ⟨added, taken, jobs, _⟩ := enqueue_new conflicts search
      rw [taken] at done
      cases done
      refine .inr ⟨rfl, ?_, ?_⟩
      · intro other known
        obtain ⟨job, found, keyed⟩ := Option.map_eq_some_iff.1 known
        exact of_decide_eq_false (Table.find?_eq_none.1 search other job found) keyed
      · intro other
        rw [keyOf, jobs, Table.get?_insert, apply_ite (Option.map _)]
        rfl

end Keys

/-! The keys along the runs. -/

/-- The run has made the background job that it has got. -/
def Firing.Fresh (firing : Firing) : Prop := ∃ background, firing.outcome = .ok background ∧ firing.jobsBefore ≤ background

/-- A successful run is fresh, exactly if none of the successful runs before it had its key. -/
def Judged (sha256 : String → String) (earlier : List Firing) (firing : Firing) : Prop :=
  firing.failed = false → (firing.Fresh ↔ ∀ other ∈ earlier, other.failed = false → other.key sha256 ≠ firing.key sha256)

structure Keyed (sha256 : String → String) (db : Db) (firings : List Firing) : Prop where
  exact_ : (ledger db).Exact sha256 Set.univ
  made : ∀ firing ∈ firings, ∀ background, firing.outcome = .ok background →
    keyOf db background = some (firing.key sha256)
  origin : ∀ id key, keyOf db id = some key → (∃ request, key = jobIdempotencyKey sha256 request) ∨
    ∃ firing ∈ firings, firing.outcome = .ok id ∧ firing.key sha256 = key
  judged : ∀ earlier firing later, firings = earlier ++ firing :: later → Judged sha256 earlier firing

theorem ok_of_failed {firing : Firing} (succeeded : firing.failed = false) : ∃ background, firing.outcome = .ok background := by
  rw [Firing.failed] at succeeded
  cases outcome : firing.outcome with
  | ok background => exact ⟨background, rfl⟩
  | error error =>
    rw [outcome] at succeeded
    cases succeeded

theorem keyOf_size (db : Db) : keyOf db db.jobs.size = none := by
  rw [keyOf, Table.get?_of_size_le le_rfl]
  rfl

/-- What holds of every place of a list and of its new end. -/
theorem judged_append {sha256 : String → String} {firings : List Firing} {last : Firing}
    (old : ∀ earlier firing later, firings = earlier ++ firing :: later → Judged sha256 earlier firing)
    (new : Judged sha256 firings last) (earlier : List Firing) (firing : Firing) (later : List Firing)
    (split : firings ++ [last] = earlier ++ firing :: later) : Judged sha256 earlier firing := by
  rcases List.eq_nil_or_concat later with rfl | ⟨front, final, rfl⟩
  · obtain ⟨rfl, ends⟩ := List.append_inj' split rfl
    cases ends
    exact new
  · have longer : firings ++ [last] = (earlier ++ firing :: front) ++ [final] := by
      rw [split, List.concat_eq_append, List.append_assoc, List.cons_append]
    exact old earlier firing front (List.append_inj' longer rfl).1

section Keyed
variable {sha256 : String → String} {db after : Db} {firings : List Firing}

theorem Keyed.same (kept : Keyed sha256 db firings) (same : ledger after = ledger db) : Keyed sha256 after firings where
  exact_ := same ▸ kept.exact_
  made := by
    intro firing member background outcome
    rw [keyOf_of_ledger same]
    exact kept.made firing member background outcome
  origin := by
    intro id key found
    rw [keyOf_of_ledger same] at found
    exact kept.origin id key found
  judged := kept.judged

/-- The keys before an enqueue are the keys of the same jobs after it. -/
theorem enqueue_keeps {request : EnqueueRequest} {id : Nat} (done : enqueueBackgroundJob sha256 db request = .ok (after, id))
    {other : Nat} {key : String} (known : keyOf db other = some key) : keyOf after other = some key := by
  rcases enqueue_keys done with ⟨same, _⟩ | ⟨size, _, added⟩
  · rw [same, known]
  · have elsewhere : other ≠ id := by
      rintro rfl
      rw [size, keyOf_size] at known
      cases known
    rw [added, if_neg elsewhere, known]

theorem enqueue_adds {request : EnqueueRequest} {id : Nat} (done : enqueueBackgroundJob sha256 db request = .ok (after, id))
    {other : Nat} {key : String} (found : keyOf after other = some key) :
    keyOf db other = some key ∨ other = id ∧ key = requestKey sha256 request := by
  rcases enqueue_keys done with ⟨same, _⟩ | ⟨_, _, added⟩
  · rw [same] at found
    exact .inl found
  · rw [added] at found
    by_cases here : other = id
    · rw [if_pos here] at found
      exact .inr ⟨here, (Option.some.inj found).symm⟩
    · rw [if_neg here] at found
      exact .inl found

/-- An enqueue that brings no key of its own. -/
theorem Keyed.enqueue (kept : Keyed sha256 db firings) {request : EnqueueRequest} (bare : request.idempotencyKey = "")
    {id : Nat} (done : enqueueBackgroundJob sha256 db request = .ok (after, id)) : Keyed sha256 after firings where
  exact_ := exact_enqueue kept.exact_ (Set.mem_univ _) done
  made := fun firing member background outcome => enqueue_keeps done (kept.made firing member background outcome)
  origin := by
    intro other key found
    rcases enqueue_adds done found with known | ⟨_, rfl⟩
    · exact kept.origin other key known
    · rw [requestKey, if_pos bare]
      exact .inl ⟨request, rfl⟩
  judged := kept.judged

theorem Keyed.failed (kept : Keyed sha256 db firings) {firing : Firing} (failed : firing.failed = true) :
    Keyed sha256 db (firings ++ [firing]) where
  exact_ := kept.exact_
  made := by
    intro other member background outcome
    rcases List.mem_append.1 member with earlier | new
    · exact kept.made other earlier background outcome
    · rw [List.mem_singleton.1 new] at outcome
      rw [Firing.failed, outcome] at failed
      cases failed
  origin := by
    intro id key found
    rcases kept.origin id key found with own | ⟨other, member, outcome, keyed⟩
    · exact .inl own
    · exact .inr ⟨other, List.mem_append_left _ member, outcome, keyed⟩
  judged := by
    refine judged_append kept.judged fun succeeded => ?_
    rw [failed] at succeeded
    cases succeeded

/-- The run gets a job that was there, or one that it adds, as its key was known or not. -/
theorem judged_enqueue (kept : Keyed sha256 db firings) {firing : Firing} {request : EnqueueRequest}
    (keyed : requestKey sha256 request = firing.key sha256) {id : Nat}
    (done : enqueueBackgroundJob sha256 db request = .ok (after, id)) (outcome : firing.outcome = .ok id)
    (before : firing.jobsBefore = db.jobs.size) : Judged sha256 firings firing := by
  intro _
  rcases enqueue_keys done with ⟨_, known⟩ | ⟨size, free, _⟩
  · rw [keyed] at known
    refine iff_of_false ?_ ?_
    · rintro ⟨background, got, new⟩
      rw [outcome, Except.ok.injEq] at got
      subst got
      rw [before] at new
      rw [keyOf, Table.get?_of_size_le new] at known
      cases known
    · intro unlike
      rcases kept.origin id _ known with ⟨own, same⟩ | ⟨other, member, made, same⟩
      · exact key_ne_jobIdempotencyKey firing own same
      · exact unlike other member (by rw [Firing.failed, made]) same
  · refine iff_of_true ⟨id, outcome, by rw [before, size]⟩ ?_
    intro other member succeeded same
    obtain ⟨background, made⟩ := ok_of_failed succeeded
    rw [keyed, ← same] at free
    exact free background (kept.made other member background made)

theorem Keyed.succeeded (kept : Keyed sha256 db firings) {firing : Firing} {request : EnqueueRequest}
    (keyed : requestKey sha256 request = firing.key sha256) {id : Nat}
    (done : enqueueBackgroundJob sha256 db request = .ok (after, id)) (outcome : firing.outcome = .ok id)
    (before : firing.jobsBefore = db.jobs.size) : Keyed sha256 after (firings ++ [firing]) where
  exact_ := exact_enqueue kept.exact_ (Set.mem_univ _) done
  made := by
    intro other member background made
    rcases List.mem_append.1 member with earlier | new
    · exact enqueue_keeps done (kept.made other earlier background made)
    · rw [List.mem_singleton.1 new] at made ⊢
      rw [outcome, Except.ok.injEq] at made
      subst made
      rcases enqueue_keys done with ⟨same, known⟩ | ⟨_, _, added⟩
      · rw [same, known, keyed]
      · rw [added, if_pos rfl, keyed]
  origin := by
    intro other key found
    rcases enqueue_adds done found with known | ⟨rfl, rfl⟩
    · rcases kept.origin other key known with own | ⟨earlier, member, made, same⟩
      · exact .inl own
      · exact .inr ⟨earlier, List.mem_append_left _ member, made, same⟩
    · exact .inr ⟨firing, List.mem_append_right _ (List.mem_singleton_self _), outcome, keyed.symm⟩
  judged := judged_append kept.judged (judged_enqueue kept keyed done outcome before)

end Keyed

section System
variable [CharData] [NumberData] {croniter : Croniter} {sha256 : String → String}

theorem enqueueCron_request {db : Db} {cron : Nat} {job : CronJob} {now : Time} {queueIds : Nat → String}
    {result : Db × Nat} (done : enqueueCron sha256 db cron job now queueIds = .ok result) :
    ∃ request, requestKey sha256 request = (firing sha256 db cron job now queueIds).key sha256 ∧
      enqueueBackgroundJob sha256 db request = .ok result := by
  rw [enqueueCron] at done
  cases task : cronTask job with
  | error error =>
    rw [task] at done
    cases done
  | ok pair =>
    rw [task] at done
    obtain ⟨taskName, payload⟩ := pair
    change enqueueBackgroundJob sha256 db ⟨taskName, payload, "cron:" ++ job.name, toString cron,
      cronEnqueueKey sha256 cron job.name job.metadata now, 3, queueIds db.jobs.size⟩ = .ok result at done
    refine ⟨_, ?_, done⟩
    rw [requestKey, if_neg]
    · rfl
    · exact key_ne_empty (firing sha256 db cron job now queueIds)

theorem keyed_runJob {now : Time} {queueIds : Nat → String} {rows after : Rows} {cron : Nat}
    (kept : Keyed sha256 rows.db rows.firings) (ran : runJob croniter sha256 now queueIds rows cron = .ok after) :
    Keyed sha256 after.db after.firings := by
  rcases runJob_cases ran with ⟨_, rfl⟩ | ⟨job, next, _, rfl⟩
  · exact kept
  · dsimp only
    rw [settled]
    cases enqueued : enqueueCron sha256 rows.db cron job now queueIds with
    | error error =>
      refine kept.failed ?_
      rw [Firing.failed, firing, enqueued]
      rfl
    | ok result =>
      obtain ⟨request, keyed, done⟩ := enqueueCron_request enqueued
      have outcome : (firing sha256 rows.db cron job now queueIds).outcome = .ok result.2 := by
        rw [firing, enqueued]
        rfl
      exact kept.succeeded keyed done outcome rfl

/-- The callers of the queue other than the scheduler bring no key. -/
def Bare : Action → Prop
  | .queue (.enqueue request) => request.idempotencyKey = ""
  | _ => True

theorem keyed_step {state next : State} {action : Action} (kept : Keyed sha256 state.queue.db state.firings)
    (bare : Bare action) (taken : step croniter sha256 state action = some next) :
    Keyed sha256 next.queue.db next.firings := by
  cases action with
  | queue action =>
    obtain ⟨untimed, queue, done, rfl⟩ := queue_step taken
    rcases ledger_step kept.exact_ done with same | ⟨request, id, rfl, enqueued⟩ | ⟨broker, queueIds, due, rfl, _⟩
    · exact kept.same same
    · exact kept.enqueue bare enqueued
    · exact absurd rfl (untimed broker queueIds due)
  | upsertCronJob arguments =>
    cases taken
    exact kept
  | ensureSystemCronJob arguments =>
    cases taken
    exact kept
  | scheduleMissing =>
    cases taken
    exact kept
  | tick broker queueIds limit =>
    cases taken
    cases outcome : tickRows croniter sha256 state.rows state.queue.now broker queueIds limit with
    | error error => exact kept
    | ok rows =>
      refine tickRows_invariant (fun rows => Keyed sha256 rows.db rows.firings) ?_
        (fun _ _ _ kept ran => keyed_runJob kept ran) outcome
      intro db retried
      have dispatched := ledger_dispatchOutbox kept.exact_ state.queue.now broker 100
      exact kept.same ((ledger_rescheduleAll retried).trans dispatched)

theorem keyed_run {actions : List Action} {state : State} (bare : ∀ action ∈ actions, Bare action)
    (ran : run croniter sha256 .initial actions = some state) : Keyed sha256 state.queue.db state.firings := by
  have start : Keyed sha256 State.initial.queue.db State.initial.firings := by
    refine ⟨exact_initial sha256 Set.univ, ?_, ?_, ?_⟩
    · intro firing member
      cases member
    · intro id key found
      cases found
    · intro earlier firing later split
      simp [State.initial] at split
  have preserved : ∀ state action next, Keyed sha256 state.queue.db state.firings → Bare action →
      step croniter sha256 state action = some next → Keyed sha256 next.queue.db next.firings :=
    fun _ _ _ kept bare taken => keyed_step kept bare taken
  exact Runs.run_invariant_along _ preserved start (Runs.along_of_forall_mem State.initial actions bare) ran

omit [CharData] [NumberData] in
/-- Where the last run of a job stands among all runs. -/
theorem last_split {firings earlier : List Firing} {last : Firing} {cron : Nat}
    (fired : history firings cron = earlier ++ [last]) :
    ∃ before after, firings = before ++ last :: after ∧ history before cron = earlier ∧ last.cron = cron := by
  obtain ⟨front, back, rfl, first, rest⟩ := List.filter_eq_append_iff.1 fired
  obtain ⟨skipped, after, rfl, others, here, _⟩ := List.filter_eq_cons_iff.1 rest
  refine ⟨front ++ skipped, after, (List.append_assoc _ _ _).symm, ?_, of_decide_eq_true here⟩
  rw [history, List.filter_append, first, List.filter_eq_nil_iff.2 others, List.append_nil]

/-- A run that is recorded as succeeded refers to a background job that it has made, exactly if no successful run of
the job before it lies in the same minute with the same metadata. -/
theorem recorded_fresh_iff {actions : List Action} {state : State} (bare : ∀ action ∈ actions, Bare action)
    (ran : run croniter sha256 .initial actions = some state) (digests : Digests sha256 state.firings) {cron : Nat}
    {job : CronJob} (found : state.crons.get? cron = some job) {earlier : List Firing} {last : Firing}
    (fired : history state.firings cron = earlier ++ [last]) (succeeded : job.lastStatus = "succeeded") :
    (∃ background, job.lastResult.get "job_id" = .str (toString background) ∧ last.jobsBefore ≤ background) ↔
      ∀ other ∈ earlier, other.failed = false → ¬SameSlot other last := by
  have follows := (tracked_run ran).follows cron job found
  have recorded := follows.recorded earlier last fired
  have passed : last.failed = false := by
    rw [← Bool.not_eq_true]
    intro failed
    have status := (recorded.failed failed).1
    rw [succeeded] at status
    exact absurd status (by decide)
  obtain ⟨background, outcome⟩ := ok_of_failed passed
  have refers := (recorded.succeeded background outcome).2.1
  have fresh : (∃ background, job.lastResult.get "job_id" = .str (toString background) ∧ last.jobsBefore ≤ background) ↔
      last.Fresh := by
    constructor
    · rintro ⟨other, named, new⟩
      rw [refers, Json.str.injEq, Text.toString_nat_injective.eq_iff] at named
      exact ⟨background, outcome, named ▸ new⟩
    · rintro ⟨other, made, new⟩
      rw [outcome, Except.ok.injEq] at made
      exact ⟨background, refers, made ▸ new⟩
  obtain ⟨before, after, split, before_eq, here⟩ := last_split fired
  rw [fresh, (keyed_run bare ran).judged before last after split passed, ← before_eq]
  have lastIn : last ∈ state.firings := by
    rw [split]
    exact List.mem_append_right _ List.mem_cons_self
  have inBefore : ∀ other ∈ before, other ∈ state.firings := by
    intro other member
    rw [split]
    exact List.mem_append_left _ member
  have named : ∀ firing ∈ state.firings, firing.cron = cron → firing.name = job.name := fun firing member same =>
    follows.named firing (List.mem_filter.2 ⟨member, decide_eq_true same⟩)
  constructor
  · intro unlike other member succeeded slot
    obtain ⟨among, same⟩ := List.mem_filter.1 member
    have same := of_decide_eq_true same
    have names : other.name = last.name :=
      (named other (inBefore other among) same).trans (named last lastIn here).symm
    exact unlike other among succeeded (key_of_sameSlot (same.trans here.symm) names slot)
  · intro apart other among succeeded same
    obtain ⟨crons, slot⟩ := sameSlot_of_key digests (inBefore other among) lastIn same
    exact apart other (List.mem_filter.2 ⟨among, decide_eq_true (crons.trans here)⟩) succeeded slot

end System

/-! A job that is due every fifteen seconds. -/

def everyQuarter : Croniter where
  Zone := Unit
  zoneInfo _ := .ok ()
  isValid expression := expression = "* * * * * */15"
  getNext _ _ base := .ok (base - base % 15 + 15)

/-- The digests of the request and of the key. -/
def pollDigest (text : String) : String :=
  if text = "\x7b\"cron_job_id\": \"0\", \"payload\": \x7b\x7d, \"task_name\": \"dream_review\", \"triggered_by\": \"cron:poll\"\x7d"
  then "78b92344789104318a3b93772ac42e454b3f7d32b6b95ca21912104272c61e10"
  else "4c5b63586d79026b859012ea1d1719eaaf7bc7c67f5d9a71724470fd0a1e9d9c"

def quarter : List Action := [.queue (.advance 15), .tick (fun _ => none) (fun _ => "q-1") 10]

def pollRun : List Action :=
  .upsertCronJob { name := "poll", cronExpr := "* * * * * */15", timezone := "UTC" } :: quarter

def firstPoll : Firing := ⟨0, "poll", [], 15, .ok 0, 0⟩

def secondPoll : Firing := ⟨0, "poll", [], 30, .ok 0, 1⟩

section Poll
attribute [local instance] CharData.ascii NumberData.decimal

/-- The first run refers to the job that it has made. -/
theorem recorded_fresh_poll : ∃ state job, run everyQuarter pollDigest .initial pollRun = some state ∧
    state.crons.get? 0 = some job ∧ job.lastStatus = "succeeded" ∧
    ∃ background, job.lastResult.get "job_id" = .str (toString background) ∧ firstPoll.jobsBefore ≤ background := by
  have ends : (run everyQuarter pollDigest .initial pollRun).map
      (fun state => ((state.crons.get? 0).map (·.lastStatus), state.firings)) =
        some (some "succeeded", [firstPoll]) := by
    decide +kernel
  obtain ⟨state, ran, same⟩ := Option.map_eq_some_iff.1 ends
  obtain ⟨job, found, succeeded⟩ := Option.map_eq_some_iff.1 (congrArg Prod.fst same)
  have firings : state.firings = [firstPoll] := congrArg Prod.snd same
  have bare : ∀ action ∈ pollRun, Bare action := by
    intro action member
    simp only [pollRun, quarter, List.mem_cons, List.not_mem_nil, or_false] at member
    rcases member with rfl | rfl | rfl <;> trivial
  have digests : Digests pollDigest state.firings := by
    rw [firings]
    constructor
    · intro firing member
      rw [List.mem_singleton.1 member]
      decide +kernel
    · intro first member second other _
      rw [List.mem_singleton.1 member, List.mem_singleton.1 other]
  have fired : history state.firings 0 = [] ++ [firstPoll] := by
    rw [firings]
    rfl
  exact ⟨state, job, ran, found, succeeded,
    (recorded_fresh_iff bare ran digests found fired succeeded).2 fun _ member => absurd member List.not_mem_nil⟩

/-- The second run in the minute is recorded as succeeded with the job of the first one. -/
theorem second_poll_stale : ∃ state job,
    run everyQuarter pollDigest .initial (pollRun ++ quarter) = some state ∧ state.crons.get? 0 = some job ∧
    history state.firings 0 = [firstPoll] ++ [secondPoll] ∧ job.lastStatus = "succeeded" ∧
    job.lastResult.get "job_id" = .str "0" ∧
    ¬∃ background, job.lastResult.get "job_id" = .str (toString background) ∧ secondPoll.jobsBefore ≤ background := by
  have ends : (run everyQuarter pollDigest .initial (pollRun ++ quarter)).map (fun state =>
      ((state.crons.get? 0).map fun job => (job.lastStatus, job.lastResult.get "job_id"), history state.firings 0)) =
        some (some ("succeeded", .str "0"), [firstPoll, secondPoll]) := by
    decide +kernel
  obtain ⟨state, ran, same⟩ := Option.map_eq_some_iff.1 ends
  obtain ⟨job, found, row⟩ := Option.map_eq_some_iff.1 (congrArg Prod.fst same)
  have refers : job.lastResult.get "job_id" = .str (toString 0) := congrArg Prod.snd row
  refine ⟨state, job, ran, found, congrArg Prod.snd same, congrArg Prod.fst row, refers, ?_⟩
  rintro ⟨background, named, new⟩
  rw [refers, Json.str.injEq, Text.toString_nat_injective.eq_iff] at named
  rw [← named] at new
  exact absurd new (by decide)

end Poll

end SoulClaw.Runtime.Cron
