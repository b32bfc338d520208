import SoulClaw.Foundation.Keyed
import SoulClaw.Foundation.Logs
import SoulClaw.Foundation.Uuid

/-! `A2AService`: the tasks that are handed to remote agents, their artifacts and their events. Identifiers that the
service draws come from a supply; the store counts what has been drawn. -/

namespace SoulClaw.Domain.A2ATasks
open Foundation

structure A2ATask where
  taskId : String
  connectionName : String
  capability : String
  contextId : String
  remoteTaskId : String := ""
  remoteContextId : String := ""
  status : String := "submitted"
  inputText : String
  result : Dict := []
  error : String := ""
  metadata : Dict := []
  deriving DecidableEq, Repr

structure A2AArtifact where
  taskId : String
  artifactId : String
  name : String
  mimeType : String
  uri : String := ""
  content : String
  parts : List Json
  metadata : Dict := []
  deriving DecidableEq, Repr

structure A2AEvent where
  taskId : String
  eventType : String
  sequence : Nat
  payload : Dict
  deriving DecidableEq, Repr

structure Store where
  tasks : Keyed A2ATask.taskId := .empty
  artifacts : List A2AArtifact := []
  events : List A2AEvent := []
  drawn : Nat := 0

/-! Events. -/

/-- The number behind the latest event of a task. -/
def nextSequence (events : List A2AEvent) (taskId : String) : Nat :=
  match ((events.filter fun event => event.taskId = taskId).map A2AEvent.sequence).max? with
  | some latest => latest + 1
  | none => 1

def addEvent (store : Store) (taskId eventType : String) (payload : Dict) : Store :=
  { store with
    events := store.events ++ [{ taskId, eventType, sequence := nextSequence store.events taskId, payload }] }

def listEvents (store : Store) (taskId : String) (afterSequence : Int) (limit : Int) : List A2AEvent :=
  ((store.events.filter fun event => event.taskId = taskId ∧ afterSequence < event.sequence).insertionSort
    fun first second => first.sequence ≤ second.sequence).take (max 1 (min limit 1000)).toNat

/-! Tasks. -/

def getTask (store : Store) (taskId : String) : Option A2ATask := store.tasks.find? taskId

/-- The arguments of `mark_task`. -/
structure Mark where
  status : String
  result : Option Dict := none
  error : String := ""
  remoteTaskId : String := ""
  remoteContextId : String := ""

/-- A column keeps its value when there is no new one. -/
def orKept (value kept : String) : String := if value = "" then kept else value

def Mark.change (mark : Mark) : KeptChange A2ATask.taskId where
  apply task :=
    { task with
      status := mark.status
      remoteTaskId := orKept mark.remoteTaskId task.remoteTaskId
      remoteContextId := orKept mark.remoteContextId task.remoteContextId
      result := mark.result.getD task.result
      error := mark.error }
  keeps _ := rfl

def markTask (store : Store) (taskId : String) (mark : Mark) : Store :=
  let previous := ((getTask store taskId).map A2ATask.status).getD ""
  addEvent { store with tasks := store.tasks.modify taskId mark.change } taskId ("task." ++ mark.status)
    [("previous_status", .str previous), ("error", .str mark.error), ("result", .obj (mark.result.getD []))]

section Draws
variable (uuid4 : Nat → Uuid)

/-- `given or f"{kind}{uuid.uuid4().hex}"`. -/
def drawUnless (store : Store) (given kind : String) : String × Store :=
  if given = "" then (kind ++ (uuid4 store.drawn).hex, { store with drawn := store.drawn + 1 }) else (given, store)

/-- The arguments of `create_task`. -/
structure Draft where
  connectionName : String
  capability : String
  inputText : String
  contextId : String := ""
  metadata : Dict := []
  taskId : String := ""

def createTask (store : Store) (draft : Draft) : Except PyException (A2ATask × Store) :=
  let (taskId, store) := drawUnless uuid4 store draft.taskId "a2a_task_"
  let (contextId, store) := drawUnless uuid4 store draft.contextId "a2a_ctx_"
  let task : A2ATask :=
    { taskId, contextId
      connectionName := draft.connectionName
      capability := draft.capability
      inputText := draft.inputText
      metadata := draft.metadata }
  match store.tasks.insert? task with
  | none => .error ⟨.integrityError, "UNIQUE constraint failed: a2a_tasks.task_id"⟩
  | some tasks =>
      .ok (task, addEvent { store with tasks } taskId "task.submitted"
        [("connection", .str draft.connectionName), ("capability", .str draft.capability)])

/-- The arguments of `add_artifact`. -/
structure ArtifactDraft where
  artifactId : String := ""
  name : String := ""
  mimeType : String := "text/plain"
  content : String := ""
  parts : List Json := []
  metadata : Dict := []
  deriving DecidableEq

/-- The parts that stand in the row of an artifact. -/
def ArtifactDraft.storedParts (draft : ArtifactDraft) : List Json :=
  if draft.parts ≠ [] then draft.parts
  else if draft.content = "" then []
  else [.obj [("text", .str draft.content),
    ("mediaType", .str (if draft.mimeType = "" then "text/plain" else draft.mimeType))]]

def addArtifact (store : Store) (taskId : String) (draft : ArtifactDraft) : A2AArtifact × Store :=
  let (artifactId, store) := drawUnless uuid4 store draft.artifactId "artifact_"
  let artifact : A2AArtifact :=
    { taskId, artifactId
      name := draft.name
      mimeType := draft.mimeType
      content := draft.content
      parts := draft.storedParts
      metadata := draft.metadata }
  (artifact, addEvent { store with artifacts := store.artifacts ++ [artifact] } taskId "artifact.updated"
    [("artifact_id", .str artifactId), ("name", .str draft.name), ("mime_type", .str draft.mimeType)])

end Draws

def listArtifacts (store : Store) (taskId : String) : List A2AArtifact :=
  store.artifacts.filter fun artifact => artifact.taskId = taskId

/-! The lookup by any identifier, which asks for no order. -/

/-- The row that the database returns first, of those that a query selects. -/
structure FirstRow where
  pick : List A2ATask → Option A2ATask
  picked : ∀ {rows task}, pick rows = some task → task ∈ rows
  complete : ∀ {rows}, pick rows = none → rows = []

def FirstRow.oldest : FirstRow where
  pick := List.head?
  picked := List.mem_of_mem_head?
  complete := List.head?_eq_none_iff.1

def A2ATask.answersTo (task : A2ATask) (id : String) : Bool :=
  task.taskId = id ∨ task.remoteTaskId = id ∨ task.remoteContextId = id

def getTaskByAnyId [CharData] (first : FirstRow) (store : Store) (taskId : String) : Option A2ATask :=
  let taskId := Text.strip taskId
  if taskId = "" then none else first.pick (store.tasks.rows.filter fun task => task.answersTo taskId)

/-! What the operations leave of the tasks. -/

section Tasks

@[simp] theorem addEvent_tasks (store : Store) (taskId eventType : String) (payload : Dict) :
    (addEvent store taskId eventType payload).tasks = store.tasks := rfl

theorem getTask_markTask (store : Store) (taskId : String) (mark : Mark) (other : String) :
    getTask (markTask store taskId mark) other =
      if other = taskId then (getTask store taskId).map mark.change.apply else getTask store other :=
  Keyed.find?_modify store.tasks taskId other mark.change

theorem drawUnless_tasks (uuid4 : Nat → Uuid) (store : Store) (given kind : String) :
    (drawUnless uuid4 store given kind).2.tasks = store.tasks := by
  unfold drawUnless
  split <;> rfl

theorem addArtifact_tasks (uuid4 : Nat → Uuid) (store : Store) (taskId : String) (draft : ArtifactDraft) :
    (addArtifact uuid4 store taskId draft).2.tasks = store.tasks :=
  drawUnless_tasks uuid4 store draft.artifactId "artifact_"

/-- A new task is a new row, which the remote agent has not named yet. -/
theorem createTask_tasks {uuid4 : Nat → Uuid} {store next : Store} {draft : Draft} {task : A2ATask}
    (created : createTask uuid4 store draft = .ok (task, next)) :
    task.taskId = (drawUnless uuid4 store draft.taskId "a2a_task_").1 ∧ task.remoteTaskId = "" ∧
      task.remoteContextId = "" ∧ getTask store task.taskId = none ∧ getTask next task.taskId = some task ∧
      ∀ other, other ≠ task.taskId → getTask next other = getTask store other := by
  unfold createTask at created
  dsimp only at created
  have tasks := drawUnless_tasks uuid4 store draft.taskId "a2a_task_"
  generalize drawUnless uuid4 store draft.taskId "a2a_task_" = drawn at created tasks ⊢
  have later := drawUnless_tasks uuid4 drawn.2 draft.contextId "a2a_ctx_"
  generalize drawUnless uuid4 drawn.2 draft.contextId "a2a_ctx_" = context at created later
  split at created
  · cases created
  next rows inserted =>
    rw [Except.ok.injEq, Prod.mk.injEq] at created
    obtain ⟨rfl, rfl⟩ := created
    obtain ⟨absent, added⟩ := Keyed.rows_of_insert? inserted
    rw [later, tasks] at absent added
    have none_ : getTask store drawn.1 = none := by
      apply List.find?_eq_none.2
      intro row member same
      exact absent (List.mem_map.2 ⟨row, member, of_decide_eq_true same⟩)
    refine ⟨rfl, rfl, rfl, none_, ?_, ?_⟩
    · show rows.find? drawn.1 = _
      rw [Keyed.find?, added, List.find?_append, show store.tasks.rows.find? _ = none from none_]
      simp
    · intro other apart
      show rows.find? other = store.tasks.find? other
      rw [Keyed.find?, added, List.find?_append]
      have elsewhere : ¬drawn.1 = other := fun same => apart same.symm
      rw [List.find?_cons_of_neg (by simpa using elsewhere)]
      simp [Keyed.find?]

end Tasks

/-! What the operations leave of the events. -/

section Events

/-- Events have been added, and numbered task by task. -/
abbrev Logged (before after : Store) : Prop :=
  Logs.Grows A2AEvent.taskId A2AEvent.sequence before.events after.events

theorem Logged.refl (store : Store) : Logged store store := Relation.ReflTransGen.refl

theorem Logged.of_events {before after : Store} (same : after.events = before.events) : Logged before after := by
  unfold Logged
  rw [same]

theorem addEvent_logged (store : Store) (taskId eventType : String) (payload : Dict) :
    Logged store (addEvent store taskId eventType payload) := .single ⟨_, rfl, rfl⟩

theorem markTask_logged (store : Store) (taskId : String) (mark : Mark) : Logged store (markTask store taskId mark) :=
  .single ⟨_, rfl, rfl⟩

variable {uuid4 : Nat → Uuid}

@[simp] theorem drawUnless_events (store : Store) (given kind : String) :
    (drawUnless uuid4 store given kind).2.events = store.events := by
  unfold drawUnless
  split <;> rfl

theorem createTask_logged {store next : Store} {draft : Draft} {task : A2ATask}
    (created : createTask uuid4 store draft = .ok (task, next)) : Logged store next := by
  unfold createTask at created
  dsimp only at created
  generalize first : drawUnless uuid4 store draft.taskId "a2a_task_" = drawn at created
  generalize second : drawUnless uuid4 drawn.2 draft.contextId "a2a_ctx_" = later at created
  have events : later.2.events = store.events := by
    rw [← second, drawUnless_events, ← first, drawUnless_events]
  split at created
  · cases created
  · rw [Except.ok.injEq, Prod.mk.injEq] at created
    rw [← created.2]
    exact (Logged.of_events events).trans (.single ⟨_, rfl, rfl⟩)

theorem addArtifact_logged (store : Store) (taskId : String) (draft : ArtifactDraft) :
    Logged store (addArtifact uuid4 store taskId draft).2 :=
  (Logged.of_events (drawUnless_events store draft.artifactId "artifact_")).trans (.single ⟨_, rfl, rfl⟩)

theorem listEvents_eq_page (store : Store) (taskId : String) (afterSequence limit : Int) :
    listEvents store taskId afterSequence limit =
      Logs.page A2AEvent.taskId A2AEvent.sequence store.events taskId afterSequence (max 1 (min limit 1000)).toNat := by
  unfold listEvents Logs.page Logs.under
  rw [List.filter_filter]
  congr 2
  apply List.filter_congr
  intro event _
  rw [Bool.decide_and, Bool.and_comm]

end Events

end SoulClaw.Domain.A2ATasks
