import SoulClaw.Runtime.StreamFaults

/-! The identifiers that a remote agent gives its task in the course of a delegation, and the rows that a delegation
leaves alone. -/

namespace SoulClaw.Runtime.TaskIds
open Foundation Domain.A2ATasks A2A RemoteResults Streaming StreamTurns StreamFold StreamFaults RemoteTasks

/-- The row of a task holds these remote identifiers. -/
def HasIds (store : Store) (taskId : String) (ids : String × String) : Prop :=
  ∃ row, getTask store taskId = some row ∧ row.remoteTaskId = ids.1 ∧ row.remoteContextId = ids.2

/-- No other task than this one has changed. -/
def Spares (taskId : String) (before after : Store) : Prop :=
  ∀ other, other ≠ taskId → getTask after other = getTask before other

section Marks
variable {taskId : String} {before between after store : Store} {ids : String × String}

theorem Spares.refl (taskId : String) (store : Store) : Spares taskId store store := fun _ _ => rfl

theorem Spares.trans (earlier : Spares taskId before between) (later : Spares taskId between after) :
    Spares taskId before after := fun other apart => (later other apart).trans (earlier other apart)

theorem getTask_of_tasks (same : after.tasks = before.tasks) (other : String) : getTask after other = getTask before other := by
  unfold getTask
  rw [same]

theorem Spares.of_tasks (taskId : String) (same : after.tasks = before.tasks) : Spares taskId before after :=
  fun other _ => getTask_of_tasks same other

theorem HasIds.of_tasks (held : HasIds before taskId ids) (same : after.tasks = before.tasks) : HasIds after taskId ids := by
  obtain ⟨row, found, kept⟩ := held
  exact ⟨row, (getTask_of_tasks same taskId).trans found, kept⟩

theorem markTask_spares (store : Store) (taskId : String) (mark : Mark) : Spares taskId store (markTask store taskId mark) := by
  intro other apart
  rw [getTask_markTask, if_neg apart]

theorem HasIds.marked (held : HasIds store taskId ids) (mark : Mark) :
    HasIds (markTask store taskId mark) taskId
      (orKept mark.remoteTaskId ids.1, orKept mark.remoteContextId ids.2) := by
  obtain ⟨row, found, task, context⟩ := held
  refine ⟨mark.change.apply row, ?_, ?_, ?_⟩
  · rw [getTask_markTask, if_pos rfl, found]
    rfl
  · rw [← task]
    rfl
  · rw [← context]
    rfl

/-- A mark that gives no identifier leaves them. -/
theorem HasIds.marked_plainly (held : HasIds store taskId ids) (mark : Mark) (noTask : mark.remoteTaskId = "")
    (noContext : mark.remoteContextId = "") : HasIds (markTask store taskId mark) taskId ids := by
  have marked := held.marked mark
  rw [noTask, noContext, orKept_empty, orKept_empty] at marked
  exact marked

end Marks

section Streams
variable [CharData] [UpperData] (uuid4 : Nat → Uuid)

/-- The identifiers behind the results that the loop takes. -/
def streamIds (ids : String × String) (results : List Dict) : String × String :=
  let taken := handled "working" results
  (lastNonEmpty ids.1 (taken.map taskIdGiven), lastNonEmpty ids.2 (taken.map contextIdGiven))

/-- The streamed message fails so that the plain one is tried. -/
def fallsBackBehind (results : List Dict) (ending : Option Failure) : Bool :=
  results.all (fun result => !malformed result && !closing (statusGiven result)) && ending.any Failure.fallsBack

theorem fallsBackBehind_iff (store : Store) (taskId : String) (results : List Dict) (ending : Option Failure) :
    fallsBackBehind results ending = true ↔
      ∃ failure, (sendStreamingMessage uuid4 store taskId results ending).1 = .error failure ∧ failure.fallsBack = true := by
  rw [fallsBack_iff, fallsBackBehind, Bool.and_eq_true, Option.any_eq_true, List.all_eq_true]
  simp only [Bool.and_eq_true, Bool.not_eq_true']

omit [UpperData] in
theorem turned_spares (store : Store) (taskId : String) (fold : Fold) (result : Dict) :
    Spares taskId store (turned uuid4 store taskId fold result) := by
  intro other apart
  rw [getTask_turned, if_neg apart]

theorem turns_spares (store : Store) (taskId : String) (fold : Fold) (results : List Dict) :
    Spares taskId store (turns uuid4 taskId store fold results) := by
  induction results generalizing store fold with
  | nil => exact Spares.refl taskId store
  | cons result rest ih =>
    rw [turns]
    exact (turned_spares uuid4 store taskId _ result).trans (ih _ _)

/-- A loop that returns remembers the results that it has taken. -/
theorem remembered_of_loop {ending : Option Failure} {taskId : String} {store left : Store} {results : List Dict}
    {fold : Fold} (ran : loop uuid4 ending taskId store {} results = (.ok fold, left)) :
    fold = remembered {} (handled "working" results) := by
  have returned := congrArg Prod.fst ran
  by_cases broken : ∃ result ∈ processed "working" results, malformed result = true
  · have reached : ∃ result ∈ processed ({} : Fold).status results, malformed result = true := broken
    obtain ⟨message, raised⟩ := loop_raises uuid4 taskId ending reached store
    rw [raised] at returned
    cases returned
  · have wellFormed : ∀ result ∈ processed "working" results, malformed result = false :=
      fun result member => by simpa using fun bad => broken ⟨result, member, bad⟩
    rw [loop_returned uuid4 taskId ending working_open wellFormed] at returned
    rw [handled_of_wellFormed wellFormed]
    split at returned
    · exact (Except.ok.inj returned).symm
    · cases ending with
      | none => exact (Except.ok.inj returned).symm
      | some failure => cases returned

theorem sendStreamingMessage_ids {store : Store} {taskId : String} {ids : String × String}
    (held : HasIds store taskId ids) (results : List Dict) (ending : Option Failure) :
    let after := (sendStreamingMessage uuid4 store taskId results ending).2
    HasIds after taskId (streamIds ids results) ∧ Spares taskId store after := by
  obtain ⟨task, found, taskIds, contextIds⟩ := held
  have start : Agrees {} task := ⟨.inl rfl, .inl rfl⟩
  obtain ⟨row, stored, agrees, tasks, contexts⟩ := getTask_turns uuid4 found start (handled "working" results)
  rw [taskIds] at tasks
  rw [contextIds] at contexts
  have left := loop_store uuid4 taskId ending store {} results
  have spared := turns_spares uuid4 store taskId {} (handled "working" results)
  unfold sendStreamingMessage
  cases ran : loop uuid4 ending taskId store {} results with
  | mk returned rows =>
    rw [ran] at left
    have same : rows = turns uuid4 taskId store {} (handled "working" results) := left
    rw [← same] at stored spared
    cases returned with
    | error failure => exact ⟨⟨row, stored, tasks, contexts⟩, spared⟩
    | ok fold =>
      rw [← remembered_of_loop uuid4 ran] at agrees
      refine ⟨⟨(finalMark fold).change.apply row, ?_, ?_, ?_⟩, spared.trans (markTask_spares rows taskId _)⟩
      · show getTask (finish rows taskId fold).2 taskId = _
        rw [finish_store, getTask_markTask, if_pos rfl, stored]
        rfl
      · exact (orKept_of_agrees agrees.1).trans tasks
      · exact (orKept_of_agrees agrees.2).trans contexts

end Streams

section Delegations
variable [CharData] [UpperData] (uuid4 : Nat → Uuid) (remote : Remote)

/-- The identifiers behind the answer to a plain message. -/
def plainIds (ids : String × String) (params : Dict) : String × String :=
  match callJsonrpc remote "SendMessage" params with
  | .error _ => ids
  | .ok response =>
      let given := replyIds (replyResult response)
      (orKept given.1 ids.1, orKept given.2 ids.2)

/-- The identifiers that a delegation leaves with its task. -/
def idsGiven (connection : A2AAgentConnection) (params : Dict) : String × String :=
  if supportsStreaming connection then
    let (results, ending) := callJsonrpcStream (remote.stream params)
    if fallsBackBehind results ending then plainIds remote (streamIds ("", "") results) params
    else streamIds ("", "") results
  else plainIds remote ("", "") params

omit [UpperData] in
theorem persisted_spares (store : Store) (taskId : String) (artifacts : List Dict) :
    Spares taskId store (persisted uuid4 store taskId artifacts) :=
  Spares.of_tasks taskId (persisted_tasks uuid4 store taskId artifacts)

theorem sendPlain_ids {store : Store} {taskId : String} {ids : String × String} (held : HasIds store taskId ids)
    (params : Dict) (sent : List Sent) :
    let after := (sendPlain uuid4 remote store taskId params sent).store
    HasIds after taskId (plainIds remote ids params) ∧ Spares taskId store after := by
  unfold sendPlain plainIds
  dsimp only
  cases callJsonrpc remote "SendMessage" params with
  | error failure => exact ⟨held, Spares.refl taskId store⟩
  | ok response =>
    let artifacts := objects ((replyResult response).get "artifacts").list
    have kept := held.of_tasks (persisted_tasks uuid4 store taskId artifacts)
    exact ⟨kept.marked _, (persisted_spares uuid4 store taskId artifacts).trans (markTask_spares _ taskId _)⟩

theorem sendWith_ids {store : Store} {connection : A2AAgentConnection} {taskId : String}
    (held : HasIds store taskId ("", "")) (params : Dict) :
    let after := (sendWith uuid4 remote store connection taskId params).store
    HasIds after taskId (idsGiven remote connection params) ∧ Spares taskId store after := by
  unfold sendWith idsGiven
  by_cases streams : supportsStreaming connection = true
  · rw [if_pos streams, if_pos streams]
    generalize callJsonrpcStream (remote.stream params) = yielded
    obtain ⟨results, ending⟩ := yielded
    dsimp only
    have falls := fallsBackBehind_iff uuid4 store taskId results ending
    obtain ⟨streamed, spared⟩ := sendStreamingMessage_ids uuid4 held results ending
    cases ran : sendStreamingMessage uuid4 store taskId results ending with
    | mk returned left =>
      rw [ran] at falls streamed spared
      cases returned with
      | ok report =>
        rw [if_neg fun yes => by obtain ⟨_, failed, _⟩ := falls.1 yes; cases failed]
        exact ⟨streamed, spared⟩
      | error failure =>
        dsimp only
        by_cases again : failure.fallsBack = true
        · rw [if_pos again, if_pos (falls.2 ⟨failure, rfl, again⟩)]
          obtain ⟨plain, later⟩ := sendPlain_ids uuid4 remote (streamed.of_tasks (addEvent_tasks left taskId _ _)) params _
          exact ⟨plain, spared.trans later⟩
        · rw [if_neg again, if_neg fun yes => by obtain ⟨_, failed, good⟩ := falls.1 yes; cases failed; exact again good]
          exact ⟨streamed, spared⟩
  · rw [if_neg streams, if_neg streams]
    exact sendPlain_ids uuid4 remote held params []

theorem sendA2aMessage_ids {store : Store} (connection : A2AAgentConnection) {task : A2ATask}
    (held : HasIds store task.taskId ("", "")) (request : A2ADelegateRequest) :
    let after := (sendA2aMessage uuid4 remote store connection task request).store
    let params := messageParams (uuid4 store.drawn).hex task.contextId connection request
    HasIds after task.taskId (idsGiven remote connection params) ∧ Spares task.taskId store after := by
  have counted : HasIds { store with drawn := store.drawn + 1 } task.taskId ("", "") := held.of_tasks rfl
  exact sendWith_ids uuid4 remote counted (messageParams (uuid4 store.drawn).hex task.contextId connection request)

/-- The task that a delegation creates, and the parameters of its message. -/
def begun (connections : List A2AAgentConnection) (store : Store) (request : A2ADelegateRequest) :
    Option (A2AAgentConnection × A2ATask × Dict) :=
  match selectConnection connections request with
  | .error _ => none
  | .ok connection =>
      match createTask uuid4 store (taskDraft connection request) with
      | .error _ => none
      | .ok (task, created) =>
          some (connection, task, messageParams (uuid4 created.drawn).hex task.contextId connection request)

theorem delegate_of_not_begun {connections : List A2AAgentConnection} {store : Store} {request : A2ADelegateRequest}
    (refused : begun uuid4 connections store request = none) :
    (delegate uuid4 remote connections store request).store = store := by
  unfold begun at refused
  cases chosen : selectConnection connections request with
  | error raised =>
    unfold delegate
    rw [chosen]
  | ok connection =>
    rw [chosen] at refused
    dsimp only at refused
    cases made : createTask uuid4 store (taskDraft connection request) with
    | error raised =>
      unfold delegate
      rw [chosen]
      dsimp only
      rw [made]
    | ok pair =>
      rw [made] at refused
      cases refused

omit [UpperData] in
theorem begun_eq_some {connections : List A2AAgentConnection} {store : Store} {request : A2ADelegateRequest}
    {connection : A2AAgentConnection} {task : A2ATask} {params : Dict}
    (begins : begun uuid4 connections store request = some (connection, task, params)) :
    ∃ created, selectConnection connections request = .ok connection ∧
      createTask uuid4 store (taskDraft connection request) = .ok (task, created) ∧
      params = messageParams (uuid4 created.drawn).hex task.contextId connection request := by
  unfold begun at begins
  split at begins
  · cases begins
  next chosen =>
    split at begins
    · cases begins
    next made =>
      rw [Option.some.injEq, Prod.mk.injEq, Prod.mk.injEq] at begins
      obtain ⟨rfl, rfl, rfl⟩ := begins
      exact ⟨_, chosen, made, rfl⟩

/-- A delegation that begins adds its task, with the identifiers that the remote agent gives it. -/
theorem delegate_ids {connections : List A2AAgentConnection} {store : Store} {request : A2ADelegateRequest}
    {connection : A2AAgentConnection} {task : A2ATask} {params : Dict}
    (begins : begun uuid4 connections store request = some (connection, task, params)) :
    let after := (delegate uuid4 remote connections store request).store
    task.taskId = "a2a_task_" ++ (uuid4 store.drawn).hex ∧ getTask store task.taskId = none ∧
      HasIds after task.taskId (idsGiven remote connection params) ∧ Spares task.taskId store after := by
  obtain ⟨created, chosen, made, rfl⟩ := begun_eq_some uuid4 begins
  obtain ⟨id, noTask, noContext, absent, stored, others⟩ := createTask_tasks made
  let working : Mark := { status := "working" }
  have new : HasIds created task.taskId ("", "") := ⟨task, stored, noTask, noContext⟩
  have started : HasIds (markTask created task.taskId working) task.taskId ("", "") := new.marked_plainly working rfl rfl
  have spares : Spares task.taskId store (markTask created task.taskId working) :=
    Spares.trans others (markTask_spares created task.taskId working)
  obtain ⟨held, spared⟩ := sendA2aMessage_ids uuid4 remote connection started request
  unfold delegate
  rw [chosen]
  dsimp only
  rw [made]
  dsimp only
  refine ⟨id, absent, ?_⟩
  split
  · exact ⟨held, spares.trans spared⟩
  next failure _ =>
    let failed : Mark := { status := "failed", error := failure.str }
    have marked := held.marked_plainly failed rfl rfl
    exact ⟨marked, (spares.trans spared).trans (markTask_spares _ task.taskId failed)⟩

end Delegations

end SoulClaw.Runtime.TaskIds
