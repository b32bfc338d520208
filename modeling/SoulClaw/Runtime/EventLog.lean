import SoulClaw.Runtime.RemoteTasks
import SoulClaw.Runtime.StreamFold

/-! The events of the tasks. Whatever the runtime does with a task, it numbers the events of every task from one on,
and a reader that asks for what stands behind the last event it knows misses nothing and gets nothing twice. -/

namespace SoulClaw.Runtime.EventLog
open Foundation Domain.A2ATasks A2A RemoteResults Streaming StreamTurns StreamFold RemoteTasks

section Operations
variable [CharData] (uuid4 : Nat → Uuid)

theorem persisted_logged (store : Store) (taskId : String) (artifacts : List Dict) :
    Logged store (persisted uuid4 store taskId artifacts) := by
  unfold persisted
  induction artifacts generalizing store with
  | nil => exact Logged.refl store
  | cons artifact rest ih =>
    rw [List.foldl_cons]
    exact (addArtifact_logged store taskId _).trans (ih _)

theorem recorded_logged (store : Store) (taskId : String) (result : Dict) :
    Logged store (recorded uuid4 store taskId result) := by
  unfold recorded
  split
  · exact (addEvent_logged store taskId _ _).trans (persisted_logged uuid4 _ taskId _)
  · exact (persisted_logged uuid4 store taskId _).trans (addEvent_logged _ taskId _ _)

theorem turned_logged (store : Store) (taskId : String) (fold : Fold) (result : Dict) :
    Logged store (turned uuid4 store taskId fold result) :=
  (recorded_logged uuid4 store taskId result).trans (markTask_logged _ taskId _)

variable [UpperData]

theorem turns_logged (store : Store) (taskId : String) (fold : Fold) (results : List Dict) :
    Logged store (turns uuid4 taskId store fold results) := by
  induction results generalizing store fold with
  | nil => exact Logged.refl store
  | cons result rest ih =>
    rw [turns]
    exact (turned_logged uuid4 store taskId _ result).trans (ih _ _)

theorem sendStreamingMessage_logged (store : Store) (taskId : String) (results : List Dict) (ending : Option Failure) :
    Logged store (sendStreamingMessage uuid4 store taskId results ending).2 := by
  have looped : Logged store (loop uuid4 ending taskId store {} results).2 := by
    rw [loop_store]
    exact turns_logged uuid4 store taskId _ _
  unfold sendStreamingMessage
  cases ran : loop uuid4 ending taskId store {} results with
  | mk returned left =>
    rw [ran] at looped
    cases returned with
    | error failure => exact looped
    | ok fold => exact looped.trans (markTask_logged left taskId _)

theorem applyReply_logged (store : Store) (taskId : String) (response : Dict) :
    Logged store (applyReply uuid4 store taskId response).2 :=
  (persisted_logged uuid4 store taskId _).trans (markTask_logged _ taskId _)

variable (remote : Remote)

theorem sendPlain_logged (store : Store) (taskId : String) (params : Dict) (sent : List Sent) :
    Logged store (sendPlain uuid4 remote store taskId params sent).store := by
  unfold sendPlain
  dsimp only
  split
  · exact Logged.refl store
  · exact applyReply_logged uuid4 store taskId _

theorem sendWith_logged (store : Store) (connection : A2AAgentConnection) (taskId : String) (params : Dict) :
    Logged store (sendWith uuid4 remote store connection taskId params).store := by
  unfold sendWith
  split
  · dsimp only
    have streamed := sendStreamingMessage_logged uuid4 store taskId (callJsonrpcStream (remote.stream params)).1
      (callJsonrpcStream (remote.stream params)).2
    cases ran : sendStreamingMessage uuid4 store taskId (callJsonrpcStream (remote.stream params)).1
      (callJsonrpcStream (remote.stream params)).2 with
    | mk returned left =>
      rw [ran] at streamed
      cases returned with
      | ok report => exact streamed
      | error failure =>
        dsimp only
        split
        · exact (streamed.trans (addEvent_logged left taskId _ _)).trans (sendPlain_logged uuid4 remote _ taskId params _)
        · exact streamed
  · exact sendPlain_logged uuid4 remote store taskId params []

theorem sendA2aMessage_logged (store : Store) (connection : A2AAgentConnection) (task : A2ATask)
    (request : A2ADelegateRequest) : Logged store (sendA2aMessage uuid4 remote store connection task request).store := by
  have counted : Logged store { store with drawn := store.drawn + 1 } := Logged.of_events rfl
  exact counted.trans (sendWith_logged uuid4 remote _ connection task.taskId _)

theorem delegate_logged (connections : List A2AAgentConnection) (store : Store) (request : A2ADelegateRequest) :
    Logged store (delegate uuid4 remote connections store request).store := by
  unfold delegate
  split
  · exact Logged.refl store
  next connection _ =>
    split
    · exact Logged.refl store
    next task created made =>
      have started : Logged store (markTask created task.taskId { status := "working" }) :=
        (createTask_logged made).trans (markTask_logged created task.taskId _)
      have sent := sendA2aMessage_logged uuid4 remote (markTask created task.taskId { status := "working" }) connection
        task request
      dsimp only
      split
      · exact started.trans sent
      · exact (started.trans sent).trans (markTask_logged _ task.taskId _)

omit [UpperData] in
theorem cancelTask_logged (first : FirstRow) (connections : List A2AAgentConnection) (store : Store) (taskId : String) :
    Logged store (cancelTask remote first connections store taskId).2.1 := by
  unfold cancelTask
  split
  · exact Logged.refl store
  next task _ =>
    split
    · exact Logged.refl store
    · dsimp only
      split
      · split
        · exact Logged.refl store
        · exact markTask_logged store task.taskId _
      · exact markTask_logged store task.taskId _

end Operations

/-! Runs: transactions one after the other, and a reader of one task in between. -/

/-- What a transaction can do to tasks. -/
inductive Operation where
  | createTask (draft : Draft)
  | markTask (taskId : String) (mark : Mark)
  | addArtifact (taskId : String) (draft : ArtifactDraft)
  | addEvent (taskId eventType : String) (payload : Dict)
  | stream (taskId : String) (results : List Dict) (ending : Option Failure)
  | reply (taskId : String) (response : Dict)
  | delegate (remote : Remote) (connections : List A2AAgentConnection) (request : A2ADelegateRequest)
  | cancel (remote : Remote) (first : FirstRow) (connections : List A2AAgentConnection) (taskId : String)

inductive Action where
  /-- A transaction, which is committed or rolled back. -/
  | transact (operations : List Operation) (commits : Bool)
  /-- The reader asks for the events behind the last one that it has seen. -/
  | read (limit : Int)

structure State where
  store : Store := {}
  seen : List A2AEvent := []

section Runs
variable [CharData] [UpperData] (uuid4 : Nat → Uuid)

def perform (store : Store) : Operation → Store
  | .createTask draft =>
      match createTask uuid4 store draft with
      | .ok (_, next) => next
      | .error _ => store
  | .markTask taskId mark => markTask store taskId mark
  | .addArtifact taskId draft => (addArtifact uuid4 store taskId draft).2
  | .addEvent taskId eventType payload => addEvent store taskId eventType payload
  | .stream taskId results ending => (sendStreamingMessage uuid4 store taskId results ending).2
  | .reply taskId response => (applyReply uuid4 store taskId response).2
  | .delegate remote connections request => (delegate uuid4 remote connections store request).store
  | .cancel remote first connections taskId => (cancelTask remote first connections store taskId).2.1

/-- The rows that a transaction leaves; what it has drawn stays drawn. -/
def transact (store : Store) (operations : List Operation) (commits : Bool) : Store :=
  let after := operations.foldl (perform uuid4) store
  if commits then after else { store with drawn := after.drawn }

/-- The number that the reader of a task asks behind. -/
def lastSequence (seen : List A2AEvent) : Nat := (seen.getLast?.map A2AEvent.sequence).getD 0

def step (taskId : String) (state : State) : Action → State
  | .transact operations commits => { state with store := transact uuid4 state.store operations commits }
  | .read limit =>
      { state with seen := state.seen ++ listEvents state.store taskId (lastSequence state.seen) limit }

def run (taskId : String) (actions : List Action) : State := actions.foldl (step uuid4 taskId) {}

theorem perform_logged (store : Store) (operation : Operation) : Logged store (perform uuid4 store operation) := by
  cases operation with
  | createTask draft =>
    rw [perform]
    split
    next made => exact createTask_logged made
    next => exact Logged.refl store
  | markTask taskId mark => exact markTask_logged store taskId mark
  | addArtifact taskId draft => exact addArtifact_logged store taskId draft
  | addEvent taskId eventType payload => exact addEvent_logged store taskId eventType payload
  | stream taskId results ending => exact sendStreamingMessage_logged uuid4 store taskId results ending
  | reply taskId response => exact applyReply_logged uuid4 store taskId response
  | delegate remote connections request => exact delegate_logged uuid4 remote connections store request
  | cancel remote first connections taskId => exact cancelTask_logged remote first connections store taskId

theorem performs_logged (store : Store) (operations : List Operation) :
    Logged store (operations.foldl (perform uuid4) store) := by
  induction operations generalizing store with
  | nil => exact Logged.refl store
  | cons operation rest ih =>
    rw [List.foldl_cons]
    exact (perform_logged uuid4 store operation).trans (ih _)

theorem transact_logged (store : Store) (operations : List Operation) (commits : Bool) :
    Logged store (transact uuid4 store operations commits) := by
  unfold transact
  cases commits with
  | true => exact performs_logged uuid4 store operations
  | false => exact Logged.of_events rfl

/-- The events of a task. -/
def eventsOf (store : Store) (taskId : String) : List A2AEvent :=
  Logs.under A2AEvent.taskId store.events taskId

/-- The events of every task are numbered, and the reader has seen the start of those of its task. -/
structure Sound (taskId : String) (state : State) : Prop where
  numbered : Logs.Numbered A2AEvent.taskId A2AEvent.sequence state.store.events
  read : state.seen <+: eventsOf state.store taskId

theorem step_sound {taskId : String} {state : State} (sound : Sound taskId state) (action : Action) :
    Sound taskId (step uuid4 taskId state action) := by
  cases action with
  | transact operations commits =>
    have logged := transact_logged uuid4 state.store operations commits
    exact ⟨Logs.Grows.numbered logged sound.numbered, sound.read.trans (Logs.Grows.isPrefix logged taskId)⟩
  | read limit =>
    refine ⟨sound.numbered, ?_⟩
    show state.seen ++ listEvents state.store taskId (lastSequence state.seen) limit <+: _
    rw [listEvents_eq_page]
    exact Logs.isPrefix_append_page sound.numbered sound.read _

theorem run_sound (taskId : String) (actions : List Action) : Sound taskId (run uuid4 taskId actions) := by
  have start : Sound taskId ({} : State) := ⟨Logs.Numbered.nil, List.prefix_rfl⟩
  have kept : ∀ (actions : List Action) (state : State), Sound taskId state →
      Sound taskId (actions.foldl (step uuid4 taskId) state) := by
    intro actions
    induction actions with
    | nil => exact fun state sound => sound
    | cons action rest ih => exact fun state sound => ih _ (step_sound uuid4 sound action)
  exact kept actions {} start

/-- In every run the events of every task are numbered from one on in the order in which they were added. What a reader
of a task has read is the start of its events, and all of them when the next page, however short, is empty. -/
theorem tailed_without_gaps (taskId : String) (actions : List Action) :
    let state := run uuid4 taskId actions
    (∀ other, (eventsOf state.store other).map A2AEvent.sequence =
        List.range' 1 (eventsOf state.store other).length) ∧
      state.seen <+: eventsOf state.store taskId ∧
      ∀ limit, listEvents state.store taskId (lastSequence state.seen) limit = [] →
        state.seen = eventsOf state.store taskId := by
  intro state
  have sound : Sound taskId state := run_sound uuid4 taskId actions
  refine ⟨sound.numbered, sound.read, ?_⟩
  intro limit empty
  have positive : 0 < (max 1 (min limit 1000)).toNat := by omega
  rw [listEvents_eq_page] at empty
  exact Logs.eq_of_page_eq_nil sound.numbered sound.read positive empty

end Runs

end SoulClaw.Runtime.EventLog
