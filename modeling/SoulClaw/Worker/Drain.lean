import SoulClaw.Worker.Coupling

/-! Draining the outbox. Each attempt uses up one of the attempts of its message, so enough
replays after enough time leave no message that waits. -/

namespace SoulClaw.Worker.Drain
open Foundation Domain.Jobs Queue Moves Attempts Coupling

/-- The steps that the system takes by itself: no enqueue, no operator and no crash. -/
def own : Action → Bool
  | .replayOutbox _ _ | .tick _ _ _ | .start _ _ | .succeed _ _ | .fail _ _ | .advance _ => true
  | _ => false

/-- A broker that refuses one message, if there is a reason for it, and takes the others. -/
def policy (target : Nat) (reason : Option String) (row : Nat) : Option String :=
  if row = target then reason else none

def Refused (target : Nat) (reason : Option String) (row : Nat) : Prop :=
  row = target ∧ reason ≠ none

def Dead (jobs : Table BackgroundJob) (id : Nat) : Prop :=
  ∃ job, jobs.get? id = some job ∧ job.status = .deadLetter

/-- The attempts that a message can still use up. -/
def remaining (message : OutboxMessage) : Nat :=
  if Active message then 1 + (message.maxAttempts - message.attemptCount) else 0

/-- What attempts at outbox messages do: jobs may only be given up, deliveries only be
added, and a message that no longer waits has given up its job or reached the broker. -/
structure Drains (refused : Nat → Prop) (before after : View) : Prop where
  now : before.now ≤ after.now
  size : after.jobs.size = before.jobs.size
  jobs : ∀ id job, before.jobs.get? id = some job →
    ∃ later, after.jobs.get? id = some later ∧ (later = job ∨ later.status = .deadLetter)
  deliveries : ∀ id delivery, before.deliveries.get? id = some delivery →
    after.deliveries.get? id = some delivery
  rows : ∀ row message, before.outbox.get? row = some message →
    ∃ later, after.outbox.get? row = some later ∧ later.aggregateId = message.aggregateId ∧
      (Active message → Active later ∨ Dead after.jobs message.aggregateId ∨
        ¬refused row ∧ WaitingDelivery after.deliveries message.aggregateId)

namespace Drains
variable {refused : Nat → Prop}

theorem refl (v : View) : Drains refused v v :=
  ⟨Nat.le_refl _, rfl, fun _ job found => ⟨job, found, .inl rfl⟩, fun _ _ found => found,
    fun _ message found => ⟨message, found, rfl, .inl⟩⟩

theorem later {v : View} (seconds : Nat) : Drains refused v { v with now := v.now + seconds } :=
  ⟨Nat.le_add_right _ _, rfl, fun _ job found => ⟨job, found, .inl rfl⟩, fun _ _ found => found,
    fun _ message found => ⟨message, found, rfl, .inl⟩⟩

theorem dead {before after : View} (drains : Drains refused before after) {id : Nat}
    (dead : Dead before.jobs id) : Dead after.jobs id := by
  obtain ⟨job, found, ended⟩ := dead
  obtain ⟨later, reached, same | gone⟩ := drains.jobs id job found
  · exact ⟨later, reached, same ▸ ended⟩
  · exact ⟨later, reached, gone⟩

theorem trans {first second third : View} (one : Drains refused first second)
    (two : Drains refused second third) : Drains refused first third := by
  refine ⟨one.now.trans two.now, two.size.trans one.size, ?_,
    fun id delivery found => two.deliveries id _ (one.deliveries id delivery found), ?_⟩
  · intro id job found
    obtain ⟨middle, reached, same | gone⟩ := one.jobs id job found
    · exact same ▸ two.jobs id middle reached
    · obtain ⟨last, present, ended⟩ := two.dead ⟨middle, reached, gone⟩
      exact ⟨last, present, .inr ended⟩
  · intro row message found
    obtain ⟨middle, reached, target, waits⟩ := one.rows row message found
    obtain ⟨last, present, aggregate, still⟩ := two.rows row middle reached
    refine ⟨last, present, aggregate.trans target, fun active => ?_⟩
    rcases waits active with active | gone | ⟨taken, delivery, delivered⟩
    · exact target ▸ still active
    · exact .inr (.inl (two.dead gone))
    · exact .inr (.inr ⟨taken, delivery, two.deliveries _ _ delivered⟩)

end Drains

/-! One attempt. -/

section Attempt
variable {now : Time} {target row : Nat} {reason : Option String} {before after : Dispatched}
  {message : OutboxMessage} (found : before.db.outbox.get? row = some message)
  (due : outboxDue now message = true) (topic : message.topic = "celery.dispatch")
  (attempted : Attempted now (policy target reason row) before row after)
include found due attempted

theorem attempted_drains (deliveries : Table Delivery)
    (goal : message.payload.jobId = message.aggregateId)
    (known : ∃ job, before.db.jobs.get? message.aggregateId = some job) :
    Drains (Refused target reason) (viewOf now before.db (deliver deliveries before.accepted))
      (viewOf now after.db (deliver deliveries after.accepted)) := by
  have others : ∀ next : OutboxMessage, next.aggregateId = message.aggregateId →
      ∀ place old, before.db.outbox.get? place = some old →
      ∃ later, (before.db.outbox.set row next).get? place = some later ∧
        later.aggregateId = old.aggregateId ∧ (place = row ∧ old = message ∧ later = next ∨ later = old) := by
    intro next same place old present
    by_cases here : place = row
    · subst here
      obtain rfl := Option.some.inj (found.symm.trans present)
      exact ⟨next, Table.get?_set_self next found, same, .inl ⟨rfl, rfl, rfl⟩⟩
    · exact ⟨old, by rw [Table.get?_set_ne _ _ here, present], rfl, .inr rfl⟩
  cases attempted with
  | idle _ same accepted =>
    rw [same, accepted]
    exact Drains.refl _
  | sent current present taken outbox jobs accepted =>
    obtain rfl := Option.some.inj (found.symm.trans present)
    rw [accepted, deliver_append_singleton, viewOf_eq now _ jobs outbox]
    refine ⟨Nat.le_refl _, rfl, fun _ job found => ⟨job, found, .inl rfl⟩,
      fun _ _ found => Table.get?_insert_of_some _ found, fun place old here => ?_⟩
    obtain ⟨later, reached, aggregate, ⟨rfl, rfl, rfl⟩ | rfl⟩ := others (message.sent now) rfl place old here
    · refine ⟨_, reached, aggregate, fun _ => .inr (.inr ⟨?_, ?_⟩)⟩
      · rintro ⟨rfl, refusing⟩
        rw [policy, if_pos rfl] at taken
        obtain ⟨error, given⟩ := Option.ne_none_iff_exists'.1 refusing
        rw [given, dispatchTask] at taken
        split at taken <;> cases taken
      · exact ⟨(deliver deliveries before.accepted).size, by rw [goal]; exact Table.get?_insert_self _ _⟩
    · exact ⟨later, reached, rfl, .inl⟩
  | postponed current error present failed left outbox jobs accepted =>
    obtain rfl := Option.some.inj (found.symm.trans present)
    rw [accepted, viewOf_eq now _ jobs outbox]
    refine ⟨Nat.le_refl _, rfl, fun _ job found => ⟨job, found, .inl rfl⟩, fun _ _ found => found,
      fun place old here => ?_⟩
    obtain ⟨later, reached, aggregate, ⟨rfl, rfl, rfl⟩ | rfl⟩ := others (message.postponed now error) rfl place old here
    · exact ⟨_, reached, aggregate, fun _ => .inl (.inr rfl)⟩
    · exact ⟨later, reached, rfl, .inl⟩
  | buried current error present _ failed spent outbox jobs accepted =>
    obtain rfl := Option.some.inj (found.symm.trans present)
    rw [accepted, viewOf_eq now _ jobs outbox]
    refine ⟨Nat.le_refl _, Table.size_modify .., fun id job here => ?_, fun _ _ found => found,
      fun place old here => ?_⟩
    · dsimp only [viewOf] at here ⊢
      rw [Table.get?_modify, here]
      by_cases same : id = message.aggregateId
      · rw [if_pos same]
        exact ⟨_, rfl, .inr rfl⟩
      · rw [if_neg same]
        exact ⟨job, rfl, .inl rfl⟩
    · obtain ⟨later, reached, aggregate, ⟨rfl, rfl, rfl⟩ | rfl⟩ := others (message.buried now error) rfl place old here
      · refine ⟨_, reached, aggregate, fun _ => .inr (.inl ?_)⟩
        obtain ⟨job, owner⟩ := known
        refine ⟨job.deadLettered now error, ?_, rfl⟩
        dsimp only
        rw [Table.get?_modify, if_pos rfl, owner]
        rfl
      · exact ⟨later, reached, rfl, .inl⟩

include topic in
theorem attempted_remaining :
    after.db.outbox.total remaining < before.db.outbox.total remaining := by
  have active : Active message := outboxDue_active due
  have positive : remaining message = 1 + (message.maxAttempts - message.attemptCount) := if_pos active
  cases attempted with
  | idle undispatchable _ _ => exact absurd topic (undispatchable message found)
  | sent current present taken outbox jobs accepted =>
    obtain rfl := Option.some.inj (found.symm.trans present)
    rw [outbox]
    apply Table.total_set_lt found
    have gone : remaining (message.sent now) = 0 := if_neg (by simp [OutboxMessage.sent])
    omega
  | postponed current error present failed left outbox jobs accepted =>
    obtain rfl := Option.some.inj (found.symm.trans present)
    rw [outbox]
    apply Table.total_set_lt found
    have waits : remaining (message.postponed now error) =
        1 + (message.maxAttempts - (message.attemptCount + 1)) := if_pos (.inr rfl)
    omega
  | buried current error present _ failed spent outbox jobs accepted =>
    obtain rfl := Option.some.inj (found.symm.trans present)
    rw [outbox]
    apply Table.total_set_lt found
    have gone : remaining (message.buried now error) = 0 := if_neg (by simp [OutboxMessage.buried])
    omega

end Attempt

/-! Batches and runs of them. -/

section Batch
variable {db : Db} (now : Time) (target : Nat) (reason : Option String) (limit : Nat)
  (deliveries : Table Delivery) {runner : Nat → Option (Nat × Nat)}
  (placements : ∀ row message, db.outbox.get? row = some message → Placement db.jobs runner message)
include placements

/-- A batch drains, and a batch that is not empty uses up attempts. -/
theorem batch_drains :
    Drains (Refused target reason) (viewOf now db deliveries)
      (viewOf now (dispatchOutbox db now (policy target reason) limit).db
        (deliver deliveries (dispatchOutbox db now (policy target reason) limit).accepted)) ∧
    (dueBatch db now limit = [] ∨
      (dispatchOutbox db now (policy target reason) limit).db.outbox.total remaining <
        db.outbox.total remaining) := by
  refine dispatchOutbox_induction (fun done progress =>
    Drains (Refused target reason) (viewOf now db deliveries)
      (viewOf now progress.db (deliver deliveries progress.accepted)) ∧
    (done = [] ∧ progress.db.outbox = db.outbox ∨
      progress.db.outbox.total remaining < db.outbox.total remaining)) ?_ ?_ |>.imp_right ?_
  · exact ⟨Drains.refl _, .inl ⟨rfl, rfl⟩⟩
  · rintro done before after row message ⟨drains, used⟩ _ start due found attempted
    have placement := placements row message start
    obtain ⟨job, owner, _⟩ := placement.origin
    obtain ⟨later, known, _⟩ := drains.jobs _ job owner
    have less := attempted_remaining found due placement.topic attempted
    refine ⟨drains.trans (attempted_drains found due attempted deliveries placement.target ⟨later, known⟩),
      .inr ?_⟩
    rcases used with ⟨_, same⟩ | used
    · exact same ▸ less
    · exact less.trans used
  · exact Or.imp_left And.left

end Batch

section System
variable (sha256 : String → String)

theorem own_atomic {action : Action} (mine : own action = true) : action.atomic = true := by
  cases action <;> simp_all [own, Action.atomic]

theorem coupled_own {state last : State} {plan : List Action} (coupled : Coupled (view state))
    (mine : ∀ action ∈ plan, own action = true) (ran : run sha256 state plan = some last) :
    Coupled (view last) :=
  run_moves_invariant sha256 coupled_move coupled (fun action member => own_atomic (mine action member)) ran

/-- A plan of the system's own steps that leads from one state to the other. -/
def Leads (state last : State) : Prop :=
  ∃ plan, (∀ action ∈ plan, own action = true) ∧ run sha256 state plan = some last

variable {sha256}

theorem Leads.refl (state : State) : Leads sha256 state state :=
  ⟨[], fun _ member => (by cases member), rfl⟩

theorem Leads.step {state next last : State} {action : Action} (mine : own action = true)
    (taken : step sha256 state action = some next) (later : Leads sha256 next last) :
    Leads sha256 state last := by
  obtain ⟨plan, rest, ran⟩ := later
  refine ⟨action :: plan, fun other member => ?_, Runs.run_cons_eq_some.2 ⟨next, taken, ran⟩⟩
  rcases List.mem_cons.1 member with same | member
  · exact same ▸ mine
  · exact rest other member

theorem Leads.trans {first second third : State} (one : Leads sha256 first second)
    (two : Leads sha256 second third) : Leads sha256 first third := by
  obtain ⟨before, mine, ran⟩ := one
  obtain ⟨after, rest, reached⟩ := two
  refine ⟨before ++ after, fun action member => ?_, ?_⟩
  · exact (List.mem_append.1 member).elim (mine action) (rest action)
  · rw [run, Runs.run_append]
    exact Option.bind_eq_some_iff.2 ⟨second, ran, reached⟩

theorem Leads.coupled {state last : State} (leads : Leads sha256 state last)
    (coupled : Coupled (view state)) : Coupled (view last) := by
  obtain ⟨plan, mine, ran⟩ := leads
  exact coupled_own sha256 coupled mine ran

theorem outboxDue_later {message : OutboxMessage} {seconds : Nat} (active : Active message)
    (late : message.nextAttemptAt.getD 0 ≤ seconds) (now : Time) :
    outboxDue (now + seconds) message = true := by
  refine decide_eq_true ⟨active, ?_⟩
  cases due : message.nextAttemptAt with
  | none => rfl
  | some time =>
    rw [due] at late
    exact decide_eq_true (late.trans (Nat.le_add_left seconds now))

theorem dueBatch_ne_nil {db : Db} {now : Time} {row : Nat} {message : OutboxMessage} (limit : Nat)
    (found : db.outbox.get? row = some message) (due : outboxDue now message = true) :
    dueBatch db now limit ≠ [] := by
  have member : row ∈ db.outbox.select (outboxDue now) := Table.mem_select.2 ⟨message, found, due⟩
  have positive : clampLimit limit ≠ 0 := by
    unfold clampLimit
    omega
  intro empty
  rcases List.take_eq_nil_iff.1 empty with zero | none
  · exact positive zero
  · rw [none] at member
    cases member

def Idle (outbox : Table OutboxMessage) : Prop :=
  ∀ row message, outbox.get? row = some message → ¬Active message

variable (sha256)

/-- After enough replays no message waits. -/
theorem drain (target : Nat) (reason : Option String) (state : State) (coupled : Coupled (view state)) :
    ∃ last, Leads sha256 state last ∧ Drains (Refused target reason) (view state) (view last) ∧
      Idle last.db.outbox := by
  induction work : state.db.outbox.total remaining using Nat.strong_induction_on generalizing state with
  | _ count ih =>
    by_cases idle : Idle state.db.outbox
    · exact ⟨state, Leads.refl state, Drains.refl _, idle⟩
    · obtain ⟨seconds, late⟩ := state.db.outbox.exists_bound fun message => message.nextAttemptAt.getD 0
      let waited : State := { state with now := state.now + seconds }
      let progress := dispatchOutbox state.db waited.now (policy target reason) 100
      let next : State := { waited with
        db := progress.db
        deliveries := deliver state.deliveries progress.accepted }
      have advanced : step sha256 state (.advance seconds) = some waited := rfl
      have replayed : step sha256 waited (.replayOutbox (policy target reason) 0) = some next := rfl
      have leads : Leads sha256 state next := .step rfl advanced (.step rfl replayed (.refl next))
      obtain ⟨drains, empty | used⟩ := batch_drains waited.now target reason 100
        state.deliveries coupled.placements
      · unfold Idle at idle
        push Not at idle
        obtain ⟨row, message, found, active⟩ := idle
        have late := late row message found
        exact absurd empty (dueBatch_ne_nil 100 found (outboxDue_later active late state.now))
      · obtain ⟨last, rest, drained, quiet⟩ := ih _ (work ▸ used) next (leads.coupled coupled) rfl
        exact ⟨last, leads.trans rest, ((Drains.later seconds).trans drains).trans drained, quiet⟩

end System

end SoulClaw.Worker.Drain
