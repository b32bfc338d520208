import SoulClaw.Runtime.StreamTurns
import Mathlib.Data.List.TakeWhile

/-! The stream loop as a fold. It takes the results up to the first one behind which the task is at rest, and what it
stores and returns is read off these results. -/

namespace SoulClaw.Runtime.StreamFold
open Foundation Domain.A2ATasks A2A RemoteResults Streaming StreamTurns

/-- The last text that is not empty, or the one from before. -/
def lastNonEmpty (before : String) (texts : List String) : String := (texts.filter (· ≠ "")).getLast?.getD before

theorem lastNonEmpty_cons (before text : String) (texts : List String) :
    lastNonEmpty before (text :: texts) = lastNonEmpty (orKept text before) texts := by
  unfold lastNonEmpty orKept
  by_cases empty : text = ""
  · rw [if_pos empty, List.filter_cons_of_neg (by simpa using empty)]
  · rw [if_neg empty, List.filter_cons_of_pos (by simpa using empty), List.getLast?_cons, Option.getD_some]

section Processed
variable [CharData] [UpperData]

/-- The local status behind some results. -/
def statusAfter (status : String) (results : List Dict) : String := lastNonEmpty status (results.map statusGiven)

theorem statusAfter_cons (status : String) (result : Dict) (rest : List Dict) :
    statusAfter status (result :: rest) = statusAfter (orKept (statusGiven result) status) rest := by
  rw [statusAfter, List.map_cons, lastNonEmpty_cons, statusAfter]

/-- The results up to the first one behind which the local status is terminal or paused, or all of them. -/
structure Processed (status : String) (results done : List Dict) : Prop where
  start : done <+: results
  stops : closing (statusAfter status done) = true ∨ done = results
  first : ∀ shorter, shorter <+: done → shorter ≠ done → closing (statusAfter status shorter) = false

/-- The results that the loop takes. -/
def processed (status : String) : List Dict → List Dict
  | [] => []
  | result :: rest =>
      let reached := orKept (statusGiven result) status
      result :: if closing reached then [] else processed reached rest

theorem processed_cons_of_closing {status : String} {result : Dict} (rest : List Dict)
    (closes : closing (orKept (statusGiven result) status) = true) : processed status (result :: rest) = [result] := by
  rw [processed, if_pos closes]

theorem processed_cons_of_open {status : String} {result : Dict} (rest : List Dict)
    (goesOn : closing (orKept (statusGiven result) status) = false) :
    processed status (result :: rest) = result :: processed (orKept (statusGiven result) status) rest := by
  rw [processed, if_neg (by simp [goesOn])]

theorem processed_spec {status : String} (goesOn : closing status = false) (results : List Dict) :
    Processed status results (processed status results) := by
  induction results generalizing status with
  | nil => exact ⟨List.prefix_rfl, .inr rfl, fun shorter start other => absurd (List.prefix_nil.1 start) other⟩
  | cons result rest ih =>
    cases reached : closing (orKept (statusGiven result) status) with
    | true =>
      rw [processed_cons_of_closing rest reached]
      refine ⟨⟨rest, rfl⟩, .inl ?_, ?_⟩
      · rw [statusAfter_cons]
        exact reached
      · intro shorter start other
        rcases List.prefix_cons_iff.1 start with rfl | ⟨tail, rfl, within⟩
        · exact goesOn
        · rw [List.prefix_nil.1 within] at other
          exact absurd rfl other
    | false =>
      obtain ⟨start, stops, first⟩ := ih reached
      rw [processed_cons_of_open rest reached]
      refine ⟨List.cons_prefix_cons.2 ⟨rfl, start⟩, ?_, ?_⟩
      · rw [statusAfter_cons]
        exact stops.imp_right (congrArg (result :: ·))
      · intro shorter begins other
        rcases List.prefix_cons_iff.1 begins with rfl | ⟨tail, rfl, within⟩
        · exact goesOn
        · rw [statusAfter_cons]
          exact first tail within fun same => other (congrArg (result :: ·) same)

theorem processed_processed (status : String) (results : List Dict) :
    processed status (processed status results) = processed status results := by
  induction results generalizing status with
  | nil => rfl
  | cons result rest ih =>
    cases reached : closing (orKept (statusGiven result) status) with
    | true => rw [processed_cons_of_closing rest reached, processed_cons_of_closing [] reached]
    | false => rw [processed_cons_of_open rest reached, processed_cons_of_open _ reached, ih]

theorem processed_subset (status : String) (results : List Dict) : processed status results ⊆ results := by
  induction results generalizing status with
  | nil => exact List.Subset.refl _
  | cons result rest ih =>
    rw [processed]
    apply List.cons_subset_cons
    split
    · exact List.nil_subset _
    · exact ih _

end Processed

/-! The loop over well formed results. -/

section Loop
variable [CharData] [UpperData] (uuid4 : Nat → Uuid) (taskId : String)

/-- What the loop remembers behind some results. -/
def remembered (fold : Fold) (results : List Dict) : Fold := results.foldl next fold

/-- The rows behind some results. -/
def turns (uuid4 : Nat → Uuid) (taskId : String) : Store → Fold → List Dict → Store
  | store, _, [] => store
  | store, fold, result :: rest => turns uuid4 taskId (turned uuid4 store taskId (next fold result) result) (next fold result) rest

/-- The results that the loop has taken when it ends, which a malformed one ends early. -/
def handled (status : String) (results : List Dict) : List Dict :=
  (processed status results).takeWhile fun result => !malformed result

theorem handled_of_wellFormed {status : String} {results : List Dict}
    (wellFormed : ∀ result ∈ processed status results, malformed result = false) :
    handled status results = processed status results := by
  apply List.takeWhile_eq_self_iff.2
  intro result member
  rw [wellFormed result member]
  rfl

theorem handled_cons_of_malformed {status : String} {result : Dict} (rest : List Dict)
    (broken : malformed result = true) : handled status (result :: rest) = [] := by
  rw [handled, processed, List.takeWhile_cons_of_neg (by simp [broken])]

theorem handled_cons_of_closing {status : String} {result : Dict} (rest : List Dict)
    (wellFormed : malformed result = false) (closes : closing (orKept (statusGiven result) status) = true) :
    handled status (result :: rest) = [result] := by
  rw [handled, processed_cons_of_closing rest closes, List.takeWhile_cons_of_pos (by simp [wellFormed]),
    List.takeWhile_nil]

theorem handled_cons_of_open {status : String} {result : Dict} (rest : List Dict)
    (wellFormed : malformed result = false) (goesOn : closing (orKept (statusGiven result) status) = false) :
    handled status (result :: rest) = result :: handled (orKept (statusGiven result) status) rest := by
  rw [handled, processed_cons_of_open rest goesOn, List.takeWhile_cons_of_pos (by simp [wellFormed]), handled]

theorem next_status (fold : Fold) (result : Dict) : (next fold result).status = orKept (statusGiven result) fold.status :=
  rfl

/-- However the loop ends, it has stored the turns that it has taken. -/
theorem loop_store (ending : Option Failure) (store : Store) (fold : Fold) (results : List Dict) :
    (loop uuid4 ending taskId store fold results).2 = turns uuid4 taskId store fold (handled fold.status results) := by
  induction results generalizing store fold with
  | nil => cases ending <;> rfl
  | cons result rest ih =>
    cases broken : malformed result with
    | true =>
      obtain ⟨message, failed⟩ := processResult_of_malformed uuid4 broken store taskId fold
      rw [loop, failed, handled_cons_of_malformed rest broken]
      rfl
    | false =>
      rw [loop, processResult_of_wellFormed uuid4 broken]
      dsimp only
      rw [next_status]
      cases reached : closing (orKept (statusGiven result) fold.status) with
      | true =>
        rw [if_pos rfl, handled_cons_of_closing rest broken reached]
        rfl
      | false =>
        rw [if_neg Bool.false_ne_true, ih, handled_cons_of_open rest broken reached]
        rfl

/-- The loop over well formed results returns when it stops early or the stream just ends. -/
theorem loop_returned (ending : Option Failure) {fold : Fold} {results : List Dict} (goesOn : closing fold.status = false)
    (wellFormed : ∀ result ∈ processed fold.status results, malformed result = false) (store : Store) :
    (loop uuid4 ending taskId store fold results).1 =
      if closing (statusAfter fold.status (processed fold.status results)) then
        .ok (remembered fold (processed fold.status results))
      else
        match ending with
        | some failure => .error failure
        | none => .ok (remembered fold (processed fold.status results)) := by
  induction results generalizing store fold with
  | nil =>
    have start : closing (statusAfter fold.status (processed fold.status [])) = false := goesOn
    rw [if_neg (by simp [start])]
    cases ending <;> rfl
  | cons result rest ih =>
    have first : malformed result = false := wellFormed result (by rw [processed]; exact List.mem_cons_self)
    rw [loop, processResult_of_wellFormed uuid4 first]
    dsimp only
    rw [next_status]
    cases reached : closing (orKept (statusGiven result) fold.status) with
    | true =>
      rw [processed_cons_of_closing rest reached, statusAfter_cons]
      have stops : closing (statusAfter (orKept (statusGiven result) fold.status) []) = true := reached
      rw [if_pos rfl, if_pos stops]
      rfl
    | false =>
      rw [processed_cons_of_open rest reached] at wellFormed
      have later : ∀ other ∈ processed (next fold result).status rest, malformed other = false :=
        fun other member => wellFormed other (List.mem_cons_of_mem _ member)
      rw [if_neg Bool.false_ne_true, processed_cons_of_open rest reached, statusAfter_cons]
      exact ih reached later _

/-- A malformed result among those that the loop reaches makes it raise. -/
theorem loop_raises (ending : Option Failure) {fold : Fold} {results : List Dict}
    (broken : ∃ result ∈ processed fold.status results, malformed result = true) (store : Store) :
    ∃ message, (loop uuid4 ending taskId store fold results).1 = .error (.raised ⟨.attributeError, message⟩) := by
  induction results generalizing store fold with
  | nil =>
    obtain ⟨result, member, _⟩ := broken
    exact absurd member List.not_mem_nil
  | cons result rest ih =>
    cases first : malformed result with
    | true =>
      obtain ⟨message, failed⟩ := processResult_of_malformed uuid4 first store taskId fold
      rw [loop, failed]
      exact ⟨message, rfl⟩
    | false =>
      rw [loop, processResult_of_wellFormed uuid4 first]
      dsimp only
      rw [next_status]
      obtain ⟨other, member, bad⟩ := broken
      cases reached : closing (orKept (statusGiven result) fold.status) with
      | true =>
        rw [processed_cons_of_closing rest reached, List.mem_singleton] at member
        rw [member, first] at bad
        cases bad
      | false =>
        rw [processed_cons_of_open rest reached] at member
        rcases List.mem_cons.1 member with rfl | later
        · rw [first] at bad
          cases bad
        · rw [if_neg Bool.false_ne_true]
          exact ih ⟨other, later, bad⟩ _

end Loop

/-! What the turns leave of the task. -/

section Rows
variable [CharData] (uuid4 : Nat → Uuid) {taskId : String}

theorem persisted_tasks (store : Store) (taskId : String) (artifacts : List Dict) :
    (persisted uuid4 store taskId artifacts).tasks = store.tasks := by
  unfold persisted
  induction artifacts generalizing store with
  | nil => rfl
  | cons artifact rest ih =>
    rw [List.foldl_cons, ih]
    exact addArtifact_tasks uuid4 store taskId _

theorem recorded_tasks (store : Store) (taskId : String) (result : Dict) :
    (recorded uuid4 store taskId result).tasks = store.tasks := by
  unfold recorded
  split
  · exact persisted_tasks uuid4 _ taskId _
  · exact persisted_tasks uuid4 store taskId _

theorem getTask_turned (store : Store) (fold : Fold) (result : Dict) (other : String) :
    getTask (turned uuid4 store taskId fold result) other =
      if other = taskId then (getTask store taskId).map (markOf fold).change.apply else getTask store other := by
  rw [turned, getTask_markTask]
  unfold getTask
  rw [recorded_tasks]

/-- An identifier that the loop remembers is the one that is stored. -/
def Agrees (fold : Fold) (task : A2ATask) : Prop :=
  (fold.remoteTaskId = "" ∨ fold.remoteTaskId = task.remoteTaskId) ∧
    (fold.remoteContextId = "" ∨ fold.remoteContextId = task.remoteContextId)

omit [CharData] in
theorem orKept_of_agrees {kept stored : String} (agrees : kept = "" ∨ kept = stored) : orKept kept stored = stored := by
  rcases agrees with rfl | rfl
  · exact orKept_empty stored
  · exact ite_self kept

/-- The next identifier and the stored one, of a value that a result may give. -/
theorem remembered_or_stored (given : Json) {kept stored : String} (agrees : kept = "" ∨ kept = stored) :
    orKept (text (given.or (.str kept))) stored = orKept (text given) stored ∧
      (text (given.or (.str kept)) = "" ∨
        text (given.or (.str kept)) = orKept (text (given.or (.str kept))) stored) := by
  rw [text_or_str, text_eq]
  by_cases truthy : given.truthy = true
  · rw [if_pos truthy, if_pos truthy]
    refine ⟨rfl, ?_⟩
    by_cases empty : given.toStr = ""
    · exact .inl empty
    · exact .inr (if_neg empty).symm
  · rw [if_neg truthy, if_neg truthy, orKept_empty, orKept_of_agrees agrees]
    exact ⟨rfl, agrees⟩

variable [UpperData]

theorem agrees_next {fold : Fold} {task : A2ATask} (agrees : Agrees fold task) (result : Dict) :
    let marked := (markOf (next fold result)).change.apply task
    Agrees (next fold result) marked ∧ marked.remoteTaskId = orKept (taskIdGiven result) task.remoteTaskId ∧
      marked.remoteContextId = orKept (contextIdGiven result) task.remoteContextId := by
  let carried := carrier (kindOf result)
  have task_ := remembered_or_stored (((carried.get "id").or (carried.get "taskId")).or (carried.get "task_id")) agrees.1
  have context := remembered_or_stored ((carried.get "contextId").or (carried.get "context_id")) agrees.2
  exact ⟨⟨task_.2, context.2⟩, task_.1, context.1⟩

/-- The row of the task behind some turns: it holds the last identifiers that they give. -/
theorem getTask_turns {store : Store} {fold : Fold} {task : A2ATask} (found : getTask store taskId = some task)
    (agrees : Agrees fold task) (results : List Dict) :
    ∃ row, getTask (turns uuid4 taskId store fold results) taskId = some row ∧
      Agrees (remembered fold results) row ∧
      row.remoteTaskId = lastNonEmpty task.remoteTaskId (results.map taskIdGiven) ∧
      row.remoteContextId = lastNonEmpty task.remoteContextId (results.map contextIdGiven) := by
  induction results generalizing store fold task with
  | nil => exact ⟨task, found, agrees, rfl, rfl⟩
  | cons result rest ih =>
    obtain ⟨agrees, taskIds, contextIds⟩ := agrees_next agrees result
    have marked : getTask (turned uuid4 store taskId (next fold result) result) taskId =
        some ((markOf (next fold result)).change.apply task) := by
      rw [getTask_turned, if_pos rfl, found]
      rfl
    obtain ⟨row, stored, later, tasks, contexts⟩ := ih marked agrees
    refine ⟨row, stored, later, ?_, ?_⟩
    · rw [tasks, taskIds, List.map_cons, lastNonEmpty_cons]
    · rw [contexts, contextIds, List.map_cons, lastNonEmpty_cons]

theorem remembered_status (fold : Fold) (results : List Dict) :
    (remembered fold results).status = statusAfter fold.status results := by
  induction results generalizing fold with
  | nil => rfl
  | cons result rest ih =>
    have head : remembered fold (result :: rest) = remembered (next fold result) rest := rfl
    rw [head, ih, statusAfter_cons, next_status]

theorem remembered_answer (fold : Fold) (results : List Dict) :
    (remembered fold results).answer = lastNonEmpty fold.answer (results.map answerGiven) := by
  induction results generalizing fold with
  | nil => rfl
  | cons result rest ih =>
    have head : remembered fold (result :: rest) = remembered (next fold result) rest := rfl
    have answer : (next fold result).answer = orKept (answerGiven result) fold.answer := rfl
    rw [head, ih, List.map_cons, lastNonEmpty_cons, answer]

end Rows

/-! The events of the remote agent. -/

section Events

/-- An event whose type starts with `a2a.`. -/
def isRemote (event : A2AEvent) : Bool := "a2a.".toList.isPrefixOf event.eventType.toList

/-- The types and the payloads of the `a2a.` events of a task. -/
def remoteEvents (store : Store) (taskId : String) : List (String × Dict) :=
  (store.events.filter fun event => event.taskId = taskId && isRemote event).map fun event =>
    (event.eventType, event.payload)

theorem remoteEvents_addEvent (store : Store) (taskId eventType : String) (payload : Dict) :
    remoteEvents (addEvent store taskId eventType payload) taskId =
      remoteEvents store taskId ++
        if "a2a.".toList.isPrefixOf eventType.toList then [(eventType, payload)] else [] := by
  unfold remoteEvents addEvent
  rw [List.filter_append, List.map_append]
  congr 1
  rw [List.filter_cons]
  simp only [isRemote, decide_true, Bool.true_and]
  split <;> rfl

theorem remoteEvents_of_events {before after : Store} (same : after.events = before.events) (taskId : String) :
    remoteEvents after taskId = remoteEvents before taskId := by
  unfold remoteEvents
  rw [same]

theorem remoteEvents_markTask (store : Store) (taskId : String) (mark : Mark) :
    remoteEvents (markTask store taskId mark) taskId = remoteEvents store taskId := by
  have other : "a2a.".toList.isPrefixOf ("task." ++ mark.status).toList = false := by
    rw [String.toList_append]
    rfl
  unfold markTask
  dsimp only
  rw [remoteEvents_addEvent, other, if_neg Bool.false_ne_true, List.append_nil]
  exact remoteEvents_of_events rfl taskId

variable (uuid4 : Nat → Uuid)

theorem remoteEvents_addArtifact (store : Store) (taskId : String) (draft : ArtifactDraft) :
    remoteEvents (addArtifact uuid4 store taskId draft).2 taskId = remoteEvents store taskId := by
  unfold addArtifact
  dsimp only
  rw [remoteEvents_addEvent, if_neg (by decide), List.append_nil]
  exact remoteEvents_of_events (drawUnless_events store draft.artifactId "artifact_") taskId

theorem remoteEvents_persisted [CharData] (store : Store) (taskId : String) (artifacts : List Dict) :
    remoteEvents (persisted uuid4 store taskId artifacts) taskId = remoteEvents store taskId := by
  unfold persisted
  induction artifacts generalizing store with
  | nil => rfl
  | cons artifact rest ih =>
    rw [List.foldl_cons, ih]
    exact remoteEvents_addArtifact uuid4 store taskId _

theorem isPrefixOf_loggedEvent (kind : ResultKind) : "a2a.".toList.isPrefixOf (loggedEvent kind).1.toList = true := by
  cases kind with
  | task => show "a2a.".toList.isPrefixOf "a2a.task".toList = true; decide
  | statusUpdate => show "a2a.".toList.isPrefixOf "a2a.status_update".toList = true; decide
  | artifactUpdate => show "a2a.".toList.isPrefixOf "a2a.artifact_update".toList = true; decide
  | message => show "a2a.".toList.isPrefixOf "a2a.message".toList = true; decide
  | event => show "a2a.".toList.isPrefixOf "a2a.event".toList = true; decide

theorem remoteEvents_log (store : Store) (taskId : String) (kind : ResultKind) :
    remoteEvents (Store.log store taskId (loggedEvent kind)) taskId = remoteEvents store taskId ++ [loggedEvent kind] := by
  rw [Store.log, remoteEvents_addEvent, if_pos (isPrefixOf_loggedEvent kind)]

/-- A turn adds one event of the remote agent. -/
theorem remoteEvents_turned [CharData] (store : Store) (taskId : String) (fold : Fold) (result : Dict) :
    remoteEvents (turned uuid4 store taskId fold result) taskId =
      remoteEvents store taskId ++ [loggedEvent (kindOf result)] := by
  rw [turned, remoteEvents_markTask, recorded]
  split
  · rw [remoteEvents_persisted, remoteEvents_log]
  · rw [remoteEvents_log, remoteEvents_persisted]

theorem remoteEvents_turns [CharData] [UpperData] (store : Store) (taskId : String) (fold : Fold) (results : List Dict) :
    remoteEvents (turns uuid4 taskId store fold results) taskId =
      remoteEvents store taskId ++ results.map fun result => loggedEvent (kindOf result) := by
  induction results generalizing store fold with
  | nil => rw [turns, List.map_nil, List.append_nil]
  | cons result rest ih =>
    rw [turns, ih, remoteEvents_turned, List.map_cons, List.append_assoc]
    rfl

end Events

/-! The whole message. -/

section Message

theorem working_open : closing "working" = false := by decide

variable [CharData] [UpperData] (uuid4 : Nat → Uuid) (taskId : String)

/-- How the task is marked behind the loop. -/
def finalMark (fold : Fold) : Mark :=
  { markOf fold with
    result := some [("remote", .obj fold.lastRemote), ("answer", .str fold.answer), ("events", .int fold.eventCount)] }

omit [CharData] [UpperData] in
theorem finish_store (store : Store) (fold : Fold) :
    (finish store taskId fold).2 = markTask store taskId (finalMark fold) := rfl

/-- The message of a task, of results among which no malformed one is reached. -/
theorem sendStreamingMessage_of_wellFormed {results : List Dict}
    (wellFormed : ∀ result ∈ processed "working" results, malformed result = false) (store : Store) :
    let done := processed "working" results
    let finished := finish (turns uuid4 taskId store {} done) taskId (remembered {} done)
    sendStreamingMessage uuid4 store taskId results none = (.ok finished.1, finished.2) := by
  have returned : (loop uuid4 none taskId store {} results).1 = .ok (remembered {} (processed "working" results)) := by
    rw [loop_returned uuid4 taskId none working_open wellFormed]
    exact ite_self _
  have left := loop_store uuid4 taskId none store {} results
  rw [handled_of_wellFormed wellFormed] at left
  unfold sendStreamingMessage
  rw [show loop uuid4 none taskId store {} results = (_, _) from Prod.ext returned left]

/-- Over well formed results, the message of a task processes a first part of them and ignores the others; what it
stores and returns is what this part says last. -/
theorem sendStreamingMessage_folds {store : Store} {task : A2ATask} (found : getTask store taskId = some task)
    {results : List Dict} (wellFormed : ∀ result ∈ results, malformed result = false) :
    ∃ done report after row, Processed "working" results done ∧
      sendStreamingMessage uuid4 store taskId results none = (.ok report, after) ∧
      sendStreamingMessage uuid4 store taskId done none = (.ok report, after) ∧
      getTask after taskId = some row ∧
      row.status = settled (statusAfter "working" done) ∧
      Dict.get report "status" = .str (settled (statusAfter "working" done)) ∧
      row.remoteTaskId = lastNonEmpty task.remoteTaskId (done.map taskIdGiven) ∧
      row.remoteContextId = lastNonEmpty task.remoteContextId (done.map contextIdGiven) ∧
      Dict.get report "answer" = .str (lastNonEmpty "" (done.map answerGiven)) ∧
      remoteEvents after taskId = remoteEvents store taskId ++ done.map fun result => loggedEvent (kindOf result) := by
  let done := processed "working" results
  have good : ∀ result ∈ done, malformed result = false :=
    fun result member => wellFormed result (processed_subset "working" results member)
  have again : processed "working" done = done := processed_processed "working" results
  have goodAgain : ∀ result ∈ processed "working" done, malformed result = false := by
    rw [again]
    exact good
  have sent := sendStreamingMessage_of_wellFormed uuid4 taskId good store
  have sentAgain := sendStreamingMessage_of_wellFormed uuid4 taskId goodAgain store
  rw [again] at sentAgain
  have start : Agrees {} task := ⟨.inl rfl, .inl rfl⟩
  obtain ⟨row, stored, agrees, taskIds, contextIds⟩ := getTask_turns uuid4 found start done
  have status : (remembered {} done).status = statusAfter "working" done := remembered_status {} done
  have answer : (remembered {} done).answer = lastNonEmpty "" (done.map answerGiven) := remembered_answer {} done
  let fold := remembered {} done
  let left := turns uuid4 taskId store {} done
  let final := (finalMark fold).change.apply row
  have marked : getTask (finish left taskId fold).2 taskId = some final := by
    rw [finish_store, getTask_markTask, if_pos rfl, stored]
    rfl
  have settledStatus : settled fold.status = settled (statusAfter "working" done) := by rw [status]
  have events : remoteEvents (finish left taskId fold).2 taskId =
      remoteEvents store taskId ++ done.map fun result => loggedEvent (kindOf result) := by
    rw [finish_store, remoteEvents_markTask, remoteEvents_turns]
  exact ⟨done, (finish left taskId fold).1, (finish left taskId fold).2, final, processed_spec working_open results, sent,
    sentAgain, marked, settledStatus, congrArg Json.str settledStatus, (orKept_of_agrees agrees.1).trans taskIds,
    (orKept_of_agrees agrees.2).trans contextIds, congrArg Json.str answer, events⟩

end Message

section Demo
attribute [local instance] CharData.ascii UpperData.ascii

def researchTask : A2ATask :=
  { taskId := "a2a_task_1", connectionName := "searcher", capability := "research", contextId := "a2a_ctx_1",
    inputText := "question", status := "working" }

def researchStore : Store := { tasks := ⟨[researchTask], List.nodup_singleton _⟩ }

/-- A task, a message of the agent, the end of the task, and a message behind it. -/
def researchResults : List Dict :=
  [[("task", .obj [("id", .str "remote-1"), ("status", .obj [("state", .str "TASK_STATE_WORKING")])])],
    [("message", .obj [("contextId", .str "context-1"), ("parts", .arr [.obj [("text", .str "answer")]])])],
    [("statusUpdate", .obj [("status", .obj [("state", .str "TASK_STATE_COMPLETED")])])],
    [("message", .obj [("parts", .arr [.obj [("text", .str "late")]])])]]

theorem sendStreamingMessage_folds_research :
    (getTask researchStore "a2a_task_1" = some researchTask ∧ ∀ result ∈ researchResults, malformed result = false) ∧
      ∃ done report after, Processed "working" researchResults done ∧
        sendStreamingMessage (fun _ => ⟨0⟩) researchStore "a2a_task_1" researchResults none = (.ok report, after) ∧
        Dict.get report "answer" = .str (lastNonEmpty "" (done.map answerGiven)) := by
  have found : getTask researchStore "a2a_task_1" = some researchTask := by decide +kernel
  have wellFormed : ∀ result ∈ researchResults, malformed result = false := by decide +kernel
  obtain ⟨done, report, after, row, spec, sent, _, _, _, _, _, _, answer, _⟩ :=
    sendStreamingMessage_folds (fun _ => ⟨0⟩) "a2a_task_1" found wellFormed
  exact ⟨⟨found, wellFormed⟩, done, report, after, spec, sent, answer⟩

end Demo

end SoulClaw.Runtime.StreamFold
