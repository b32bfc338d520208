import SoulClaw.Runtime.TaskIds
import SoulClaw.Foundation.Runs

/-! The identifier under which a task is published, and the lookup that answers it. The lookup compares one text with
three columns, which the service and any number of remote agents fill. -/

namespace SoulClaw.Runtime.PublishedIds
open Foundation Domain.A2ATasks A2A RemoteResults Streaming StreamTurns StreamFold RemoteTasks TaskIds

/-! The published task. -/

def a2aStateByLocalStatus : List (String × String) :=
  [("submitted", "TASK_STATE_SUBMITTED"), ("working", "TASK_STATE_WORKING"),
    ("input-required", "TASK_STATE_INPUT_REQUIRED"), ("completed", "TASK_STATE_COMPLETED"),
    ("failed", "TASK_STATE_FAILED"), ("canceled", "TASK_STATE_CANCELED"), ("cancelled", "TASK_STATE_CANCELED"),
    ("rejected", "TASK_STATE_REJECTED"), ("auth-required", "TASK_STATE_AUTH_REQUIRED")]

def publicTaskId (task : A2ATask) : String := orKept task.remoteTaskId task.taskId

def publicContextId (task : A2ATask) : String := orKept task.remoteContextId task.contextId

def artifactParts (artifact : A2AArtifact) : List Json :=
  if artifact.parts ≠ [] then artifact.parts
  else if artifact.content ≠ "" then
    [.obj [("text", .str artifact.content), ("mediaType", .str (orKept artifact.mimeType "text/plain"))]]
  else if artifact.uri ≠ "" then
    [.obj [("file", .obj [("uri", .str artifact.uri), ("mimeType", .str artifact.mimeType)])]]
  else []

section Publishing
variable [CharData] (uuid4 : Nat → Uuid)

def a2aState (status : String) : String :=
  (a2aStateByLocalStatus.lookup (replaceChar '_' '-' (normalized (orKept status "working")))).getD
    (orKept status "TASK_STATE_WORKING")

/-- `task_to_a2a` at the time `now`, which draws an identifier for every message in it. -/
def taskToA2a (now : String) (store : Store) (task : A2ATask) : Dict × Store :=
  let say := fun (drawn : Nat) (role said : String) =>
    Json.obj (message (uuid4 drawn).hex role said (publicContextId task) (publicTaskId task) [])
  let answer := Dict.get task.result "answer"
  let answered := answer.truthy
  let told := task.error ≠ "" ∨ answered
  let later := if answered then store.drawn + 2 else store.drawn + 1
  ([("id", .str (publicTaskId task)),
    ("contextId", .str (publicContextId task)),
    ("status", .obj
      [("state", .str (a2aState task.status)),
        ("timestamp", .str now),
        ("message", if told then say later "agent" (if task.error ≠ "" then task.error else answer.toStr) else .null)]),
    ("artifacts", .arr ((listArtifacts store task.taskId).map fun artifact => .obj
      [("artifactId", .str artifact.artifactId), ("name", .str artifact.name),
        ("parts", .arr (artifactParts artifact)), ("metadata", .obj artifact.metadata)])),
    ("history", .arr (say store.drawn "user" task.inputText ::
      if answered then [say (store.drawn + 1) "agent" answer.toStr] else [])),
    ("metadata", .obj (task.metadata.foldl (fun dict field => Dict.set dict field.1 field.2)
      [("localTaskId", .str task.taskId), ("connectionName", .str task.connectionName),
        ("capability", .str task.capability)]))],
    { store with drawn := if told then later + 1 else later })

/-- `_task_from_params`. -/
def taskFromParams (first : FirstRow) (store : Store) (params : Dict) : Except PyException A2ATask :=
  let taskId := text (((params.get "id").or (params.get "taskId")).or (params.get "task_id"))
  match getTaskByAnyId first store taskId with
  | none => .error ⟨.keyError, "A2A task not found: " ++ taskId⟩
  | some task => .ok task

end Publishing

/-! The requests that name a task. -/

inductive Method where
  | getTask
  | cancelTask
  | subscribeToTask
  deriving DecidableEq, Repr

section Lookup
variable [CharData]

/-- The task that `handle_jsonrpc` acts on; to cancel it, `cancel_task` looks it up again under its own identifier. -/
def actsOn (first : FirstRow) (store : Store) (method : Method) (params : Dict) : Except PyException A2ATask :=
  match taskFromParams first store params with
  | .error raised => .error raised
  | .ok task =>
      match method with
      | .getTask | .subscribeToTask => .ok task
      | .cancelTask =>
          match getTaskByAnyId first store task.taskId with
          | none => .error ⟨.keyError, "A2A task not found: " ++ task.taskId⟩
          | some again => .ok again

/-- Every request for a published identifier acts on the task for which it is published. -/
def Identified (uuid4 : Nat → Uuid) (store : Store) : Prop :=
  ∀ task ∈ store.tasks.rows, ∀ first method now,
    actsOn first store method [("id", Dict.get (taskToA2a uuid4 now store task).1 "id")] = .ok task

/-! Identifiers that tell tasks apart. -/

/-- The columns that the lookup reads. -/
def columns (task : A2ATask) : List String := [task.taskId, task.remoteTaskId, task.remoteContextId]

omit [CharData] in
theorem answersTo_iff {task : A2ATask} {id : String} : task.answersTo id = true ↔ id ∈ columns task := by
  unfold A2ATask.answersTo columns
  rw [decide_eq_true_eq]
  simp only [List.mem_cons, List.not_mem_nil, or_false, eq_comm]

/-- What the lookup searches for when it is given the published identifier or the local one. -/
def keysOf (taskId remoteTaskId : String) : List String :=
  [Text.strip (orKept remoteTaskId taskId), Text.strip taskId]

def keys (task : A2ATask) : List String := keysOf task.taskId task.remoteTaskId

/-- The keys of a task stand in its own columns and in no other ones. -/
def Told (store : Store) : Prop :=
  ∀ task ∈ store.tasks.rows, ∀ key ∈ keys task, key ≠ "" ∧ key ∈ columns task ∧
    ∀ other ∈ store.tasks.rows, other.taskId ≠ task.taskId → key ∉ columns other

/-- A new task with these identifiers is told apart from all the others. -/
def admits (store : Store) (taskId : String) (ids : String × String) : Bool :=
  (keysOf taskId ids.1).all (fun key => key ≠ "" && [taskId, ids.1, ids.2].contains key) &&
    store.tasks.rows.all fun other =>
      (keysOf taskId ids.1).all (fun key => !(columns other).contains key) &&
        (keys other).all fun key => !([taskId, ids.1, ids.2].contains key)

omit [CharData] in
theorem mem_rows_iff {store : Store} {task : A2ATask} :
    task ∈ store.tasks.rows ↔ getTask store task.taskId = some task := by
  unfold getTask
  rw [Keyed.find?_eq_some_iff]
  exact (and_iff_left rfl).symm

omit [CharData] in
theorem mem_rows_of_getTask {store : Store} {taskId : String} {task : A2ATask}
    (found : getTask store taskId = some task) : task ∈ store.tasks.rows ∧ task.taskId = taskId :=
  Keyed.find?_eq_some_iff.1 found

/-- The lookup returns the only task that has the key. -/
theorem getTaskByAnyId_of_alone {store : Store} {task : A2ATask} {id : String} (member : task ∈ store.tasks.rows)
    (visible : Text.strip id ≠ "") (own : Text.strip id ∈ columns task)
    (alone : ∀ other ∈ store.tasks.rows, other.taskId ≠ task.taskId → Text.strip id ∉ columns other) (first : FirstRow) :
    getTaskByAnyId first store id = some task := by
  have answers : task ∈ store.tasks.rows.filter fun row => row.answersTo (Text.strip id) :=
    List.mem_filter.2 ⟨member, answersTo_iff.2 own⟩
  unfold getTaskByAnyId
  dsimp only
  rw [if_neg visible]
  cases picked : first.pick (store.tasks.rows.filter fun row => row.answersTo (Text.strip id)) with
  | none =>
    rw [first.complete picked] at answers
    exact absurd answers List.not_mem_nil
  | some row =>
    obtain ⟨stored, hit⟩ := List.mem_filter.1 (first.picked picked)
    have same : row.taskId = task.taskId := by
      by_contra apart
      exact alone row stored apart (answersTo_iff.1 hit)
    have found := mem_rows_iff.1 stored
    rw [same, mem_rows_iff.1 member] at found
    exact found.symm

/-- A database that returns this task first. -/
def preferring (task : A2ATask) : FirstRow where
  pick rows := if task ∈ rows then some task else rows.head?
  picked := by
    intro rows row picked
    split at picked
    next member => exact Option.some.inj picked ▸ member
    next => exact List.mem_of_mem_head? picked
  complete := by
    intro rows none_
    split at none_
    · cases none_
    · exact List.head?_eq_none_iff.1 none_

/-- Whichever row comes first, the lookup returns a task exactly when it alone has the key. -/
theorem getTaskByAnyId_iff {store : Store} {task : A2ATask} {id : String} (member : task ∈ store.tasks.rows) :
    (∀ first, getTaskByAnyId first store id = some task) ↔
      Text.strip id ≠ "" ∧ Text.strip id ∈ columns task ∧
        ∀ other ∈ store.tasks.rows, other.taskId ≠ task.taskId → Text.strip id ∉ columns other := by
  constructor
  · intro found
    have visible : Text.strip id ≠ "" := by
      intro empty
      have none_ := found FirstRow.oldest
      unfold getTaskByAnyId at none_
      dsimp only at none_
      rw [if_pos empty] at none_
      cases none_
    have picks : ∀ first : FirstRow,
        first.pick (store.tasks.rows.filter fun row => row.answersTo (Text.strip id)) = some task := by
      intro first
      have returned := found first
      unfold getTaskByAnyId at returned
      dsimp only at returned
      rwa [if_neg visible] at returned
    refine ⟨visible, ?_, ?_⟩
    · have picked := List.mem_filter.1 (FirstRow.oldest.picked (picks FirstRow.oldest))
      exact answersTo_iff.1 picked.2
    · intro other stored apart key
      have hit : other ∈ store.tasks.rows.filter fun row => row.answersTo (Text.strip id) :=
        List.mem_filter.2 ⟨stored, answersTo_iff.2 key⟩
      have picked : some other = some task := (if_pos hit).symm.trans (picks (preferring other))
      exact apart (congrArg A2ATask.taskId (Option.some.inj picked))
  · rintro ⟨visible, own, alone⟩ first
    exact getTaskByAnyId_of_alone member visible own alone first

theorem told_iff {store : Store} :
    Told store ↔ ∀ task ∈ store.tasks.rows, ∀ first, getTaskByAnyId first store (publicTaskId task) = some task ∧
      getTaskByAnyId first store task.taskId = some task := by
  refine forall₂_congr fun task member => ?_
  rw [forall_and, getTaskByAnyId_iff member, getTaskByAnyId_iff member]
  unfold keys keysOf
  rw [List.forall_mem_cons, List.forall_mem_cons, and_iff_left (List.forall_mem_nil _)]
  rfl

theorem text_param {id : String} (visible : id ≠ "") :
    text (((Dict.get [("id", .str id)] "id").or (Dict.get [("id", .str id)] "taskId")).or
      (Dict.get [("id", .str id)] "task_id")) = id := by
  have truthy : (Json.str id).truthy = true := by simpa [Json.truthy] using visible
  have given : Dict.get [("id", .str id)] "id" = .str id := rfl
  rw [given, Json.or_of_truthy truthy, Json.or_of_truthy truthy, text_str]

theorem taskFromParams_eq_ok {first : FirstRow} {store : Store} {id : String} {task : A2ATask} :
    taskFromParams first store [("id", .str id)] = .ok task ↔ getTaskByAnyId first store id = some task := by
  have none_ : getTaskByAnyId first store "" = none := rfl
  unfold taskFromParams
  dsimp only
  by_cases visible : id = ""
  · subst visible
    have empty : text (((Dict.get [("id", .str "")] "id").or (Dict.get [("id", .str "")] "taskId")).or
      (Dict.get [("id", .str "")] "task_id")) = "" := rfl
    rw [empty, none_]
    exact iff_of_false (fun yes => by cases yes) fun yes => by cases yes
  · rw [text_param visible]
    cases getTaskByAnyId first store id with
    | none => exact iff_of_false (fun yes => by cases yes) fun yes => by cases yes
    | some row => exact ⟨fun yes => congrArg some (Except.ok.inj yes), fun yes => congrArg Except.ok (Option.some.inj yes)⟩

/-- Requests act on the tasks they name exactly when the identifiers tell the tasks apart. -/
theorem identified_iff_told (uuid4 : Nat → Uuid) (store : Store) : Identified uuid4 store ↔ Told store := by
  rw [told_iff]
  refine forall₂_congr fun task _ => forall_congr' fun first => ?_
  have named : ∀ now, Dict.get (taskToA2a uuid4 now store task).1 "id" = .str (publicTaskId task) := fun _ => rfl
  simp only [named]
  constructor
  · intro acts
    have got : taskFromParams first store [("id", .str (publicTaskId task))] = .ok task := by
      have acted := acts .getTask ""
      unfold actsOn at acted
      split at acted
      · cases acted
      next row got => rw [got, ← acted]
    refine ⟨taskFromParams_eq_ok.1 got, ?_⟩
    have cancelled := acts .cancelTask ""
    unfold actsOn at cancelled
    rw [got] at cancelled
    dsimp only at cancelled
    split at cancelled
    · cases cancelled
    next row again => rw [again, Except.ok.inj cancelled]
  · rintro ⟨published, own⟩ method now
    unfold actsOn
    rw [taskFromParams_eq_ok.2 published]
    cases method with
    | getTask => rfl
    | subscribeToTask => rfl
    | cancelTask =>
      dsimp only
      rw [own]

end Lookup

/-! Runs. -/

section Steps
variable [CharData]

/-- Told apart is a matter of the columns. -/
theorem Told.of_columns {before after : Store} (told : Told before)
    (same : ∀ row ∈ after.tasks.rows, ∃ old ∈ before.tasks.rows, columns old = columns row) : Told after := by
  have local_ : ∀ {first second : A2ATask}, columns first = columns second → first.taskId = second.taskId :=
    fun equal => (List.cons.inj equal).1
  have remote : ∀ {first second : A2ATask}, columns first = columns second → keys first = keys second := by
    intro first second equal
    have tail := (List.cons.inj (List.cons.inj equal).2).1
    unfold keys
    rw [local_ equal, tail]
  intro task member key searched
  obtain ⟨old, stored, equal⟩ := same task member
  rw [← remote equal] at searched
  obtain ⟨visible, own, alone⟩ := told old stored key searched
  rw [equal] at own
  refine ⟨visible, own, fun other otherMember apart => ?_⟩
  obtain ⟨older, kept, equal'⟩ := same other otherMember
  rw [← equal']
  apply alone older kept
  rw [local_ equal, local_ equal']
  exact apart

theorem admits_iff {store : Store} {taskId : String} {ids : String × String} :
    admits store taskId ids = true ↔
      (∀ key ∈ keysOf taskId ids.1, key ≠ "" ∧ key ∈ [taskId, ids.1, ids.2]) ∧
        ∀ other ∈ store.tasks.rows, (∀ key ∈ keysOf taskId ids.1, key ∉ columns other) ∧
          ∀ key ∈ keys other, key ∉ [taskId, ids.1, ids.2] := by
  unfold admits
  simp only [Bool.and_eq_true, List.all_eq_true, List.contains_iff_mem, Bool.not_eq_true', decide_eq_true_eq,
    Bool.eq_false_iff, ne_eq]

/-- A store that gains one task tells its tasks apart exactly when the new one is admitted. -/
theorem told_added_iff {before after : Store} {taskId : String} {ids : String × String} (told : Told before)
    (absent : getTask before taskId = none) (held : HasIds after taskId ids) (spared : Spares taskId before after) :
    Told after ↔ admits before taskId ids = true := by
  obtain ⟨new, found, remote, context⟩ := held
  obtain ⟨stored, named⟩ := mem_rows_of_getTask found
  have newColumns : columns new = [taskId, ids.1, ids.2] := by
    unfold columns
    rw [named, remote, context]
  have newKeys : keys new = keysOf taskId ids.1 := by
    unfold keys
    rw [named, remote]
  have old : ∀ {row}, row ∈ before.tasks.rows → row.taskId ≠ taskId ∧ row ∈ after.tasks.rows := by
    intro row member
    have here := mem_rows_iff.1 member
    have apart : row.taskId ≠ taskId := by
      intro same
      rw [same, absent] at here
      cases here
    exact ⟨apart, mem_rows_iff.2 ((spared row.taskId apart).trans here)⟩
  have cases_ : ∀ {row}, row ∈ after.tasks.rows → row.taskId ≠ taskId → row ∈ before.tasks.rows := by
    intro row member apart
    exact mem_rows_iff.2 ((spared row.taskId apart).symm.trans (mem_rows_iff.1 member))
  have same : ∀ {row}, row ∈ after.tasks.rows → row.taskId = taskId → row = new := by
    intro row member equal
    have here := mem_rows_iff.1 member
    rw [equal, found] at here
    exact (Option.some.inj here).symm
  rw [admits_iff, ← newColumns, ← newKeys]
  constructor
  · intro later
    refine ⟨fun key searched => ⟨(later new stored key searched).1, (later new stored key searched).2.1⟩, ?_⟩
    intro other member
    obtain ⟨apart, kept⟩ := old member
    rw [← named] at apart
    exact ⟨fun key searched => (later new stored key searched).2.2 other kept apart,
      fun key searched => (later other kept key searched).2.2 new stored apart.symm⟩
  · rintro ⟨own, others⟩ task member key searched
    by_cases isNew : task.taskId = taskId
    · obtain rfl := same member isNew
      refine ⟨(own key searched).1, (own key searched).2, fun other otherMember apart => ?_⟩
      rw [named] at apart
      exact (others other (cases_ otherMember apart)).1 key searched
    · have earlier := cases_ member isNew
      obtain ⟨visible, mine, alone⟩ := told task earlier key searched
      refine ⟨visible, mine, fun other otherMember apart => ?_⟩
      by_cases otherNew : other.taskId = taskId
      · obtain rfl := same otherMember otherNew
        exact (others task earlier).2 key searched
      · exact alone other (cases_ otherMember otherNew) apart

variable [UpperData]

/-- What happens to the tasks, in transactions that are committed or rolled back. -/
inductive Action where
  | delegate (remote : Remote) (connections : List A2AAgentConnection) (request : A2ADelegateRequest) (commits : Bool)
  | cancel (remote : Remote) (first : FirstRow) (connections : List A2AAgentConnection) (taskId : String)
      (commits : Bool)

variable (uuid4 : Nat → Uuid)

/-- The rows of a transaction; what it has drawn stays drawn. -/
def concluded (store after : Store) (commits : Bool) : Store :=
  if commits then after else { store with drawn := after.drawn }

def step (store : Store) : Action → Option Store
  | .delegate remote connections request commits =>
      some (concluded store (delegate uuid4 remote connections store request).store commits)
  | .cancel remote first connections taskId commits =>
      some (concluded store (cancelTask remote first connections store taskId).2.1 commits)

/-- A delegation that is committed gives its task identifiers that no other task has, where a lookup can find them. -/
def admitted (store : Store) : Action → Bool
  | .delegate remote connections request true =>
      match begun uuid4 connections store request with
      | none => true
      | some (connection, task, params) => admits store task.taskId (idsGiven remote connection params)
  | .delegate _ _ _ false => true
  | .cancel .. => true

omit [UpperData] in
theorem Told.rolledBack {store : Store} (told : Told store) (after : Store) : Told (concluded store after false) :=
  told.of_columns fun row member => ⟨row, member, rfl⟩

omit [UpperData] in
theorem Told.cancelled {store : Store} (told : Told store) (remote : Remote) (first : FirstRow)
    (connections : List A2AAgentConnection) (taskId : String) :
    Told (cancelTask remote first connections store taskId).2.1 := by
  have marked : ∀ taskId, Told (markTask store taskId { status := "canceled" }) := by
    intro taskId
    apply told.of_columns
    intro row member
    have found := mem_rows_iff.1 member
    rw [getTask_markTask] at found
    by_cases same : row.taskId = taskId
    · rw [if_pos same] at found
      obtain ⟨old, stored, rfl⟩ := Option.map_eq_some_iff.1 found
      exact ⟨old, (mem_rows_of_getTask stored).1, rfl⟩
    · rw [if_neg same] at found
      exact ⟨row, mem_rows_iff.2 found, rfl⟩
  unfold cancelTask
  split
  · exact told
  · split
    · exact told
    · dsimp only
      split
      · split
        · exact told
        · exact marked _
      · exact marked _

/-- A step keeps the tasks told apart exactly when it is admitted. -/
theorem told_step_iff {store next : Store} {action : Action} (told : Told store)
    (taken : step uuid4 store action = some next) : Told next ↔ admitted uuid4 store action = true := by
  cases action with
  | delegate remote connections request commits =>
    obtain rfl := Option.some.inj taken
    cases commits with
    | false => exact iff_of_true (told.rolledBack _) rfl
    | true =>
      show Told (delegate uuid4 remote connections store request).store ↔ _
      rw [admitted]
      cases begins : begun uuid4 connections store request with
      | none =>
        rw [delegate_of_not_begun uuid4 remote begins]
        exact iff_of_true told rfl
      | some start =>
        obtain ⟨connection, task, params⟩ := start
        obtain ⟨_, absent, held, spared⟩ := delegate_ids uuid4 remote begins
        exact told_added_iff told absent held spared
  | cancel remote first connections taskId commits =>
    obtain rfl := Option.some.inj taken
    cases commits with
    | false => exact iff_of_true (told.rolledBack _) rfl
    | true => exact iff_of_true (told.cancelled remote first connections taskId) rfl

/-- Along a run, requests for published identifiers act on the tasks they name in every state that is passed, exactly
when every delegation is admitted. -/
theorem identified_along_iff (actions : List Action) :
    Runs.Along (step uuid4) (fun store action => admitted uuid4 store action = true) {} actions ↔
      ∀ passed last, passed <+: actions → Runs.run (step uuid4) {} passed = some last → Identified uuid4 last := by
  simp only [identified_iff_told]
  apply Runs.along_iff_of_exact Told
  · intro store action
    cases action with
    | delegate => exact ⟨_, rfl⟩
    | cancel => exact ⟨_, rfl⟩
  · exact fun store action next told taken => told_step_iff uuid4 told taken
  · exact fun task member => absurd member List.not_mem_nil

end Steps

section TwoAgents
attribute [local instance] CharData.ascii UpperData.ascii

/-- An agent that gives every task this identifier. -/
def naming (id : String) : Remote where
  stream _ := .unreachable "unused"
  call _ _ := .ok (.obj [("result", .obj [("task", .obj [("id", .str id), ("contextId", .str "context")])])])

def plainAgent (name : String) : A2AAgentConnection :=
  { name, agentCard := [("capabilities", .obj [("streaming", .bool false)])] }

def asked (name : String) : A2ADelegateRequest := { capability := "research", query := "question", connectionName := name }

/-- Two agents that number their tasks alike. -/
def twoAgents : List Action :=
  [.delegate (naming "task-1") [plainAgent "first", plainAgent "second"] (asked "first") true,
    .delegate (naming "task-1") [plainAgent "first", plainAgent "second"] (asked "second") true]

def inTurn (drawn : Nat) : Uuid := ⟨⟨drawn % 2 ^ 128, Nat.mod_lt _ (Nat.two_pow_pos 128)⟩⟩

/-- The lookup of the identifier that is published for the second task finds the first. -/
theorem alike_numbers_confuse :
    ¬∀ last, Runs.run (step inTurn) {} twoAgents = some last → Identified inTurn last := by
  intro claimed
  have wrong : ∃ last ∈ Runs.run (step inTurn) {} twoAgents, ∃ task ∈ last.tasks.rows,
      getTaskByAnyId FirstRow.oldest last (publicTaskId task) ≠ some task := by decide +kernel
  obtain ⟨last, ran, task, member, other⟩ := wrong
  have told := (identified_iff_told inTurn last).1 (claimed last ran)
  exact other (told_iff.1 told task member FirstRow.oldest).1

end TwoAgents

end SoulClaw.Runtime.PublishedIds
