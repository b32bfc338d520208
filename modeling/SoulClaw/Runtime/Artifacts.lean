import SoulClaw.Runtime.RemoteTasks
import SoulClaw.Runtime.StreamFold

/-! The artifacts of a task. They arrive as updates, in task snapshots and in plain answers, and every one of these ways
inserts a row for every artifact that it sees. -/

namespace SoulClaw.Runtime.Artifacts
open Foundation Domain.A2ATasks A2A RemoteResults Streaming StreamTurns StreamFold RemoteTasks

/-- What is processed for a task: a turn of the stream loop, or the answer to a plain message. -/
inductive Reply where
  | streamed (fold : Fold) (result : Dict)
  | answered (response : Dict)

section Storing
variable [CharData] (uuid4 : Nat → Uuid)

/-- The identifier that the remote agent gives an artifact. -/
def remoteId (artifact : Dict) : String := (artifactDraft artifact).artifactId

/-- The identifiers and the parts under which artifacts are stored, of which those without an identifier draw one. -/
def assigned : Nat → List Dict → List (String × List Json)
  | _, [] => []
  | drawn, artifact :: rest =>
      if remoteId artifact = "" then
        ("artifact_" ++ (uuid4 drawn).hex, (artifactDraft artifact).storedParts) :: assigned (drawn + 1) rest
      else (remoteId artifact, (artifactDraft artifact).storedParts) :: assigned drawn rest

/-- The identifiers and the parts of the artifacts of a task. -/
def stored (store : Store) (taskId : String) : List (String × List Json) :=
  (listArtifacts store taskId).map fun row => (row.artifactId, row.parts)

/-- How many identifiers some artifacts draw. -/
def draws (artifacts : List Dict) : Nat := artifacts.countP fun artifact => remoteId artifact = ""

omit [CharData] in
theorem stored_of_artifacts {before after : Store} (same : after.artifacts = before.artifacts) (taskId : String) :
    stored after taskId = stored before taskId := by
  unfold stored listArtifacts
  rw [same]

theorem persistA2aArtifact_stored (store : Store) (taskId : String) (artifact : Dict) :
    let after := (persistA2aArtifact uuid4 store taskId artifact).2
    stored after taskId = stored store taskId ++ assigned uuid4 store.drawn [artifact] ∧
      after.drawn = store.drawn + draws [artifact] := by
  have own : ∀ row : A2AArtifact, row.taskId = taskId →
      (store.artifacts ++ [row]).filter (fun row => row.taskId = taskId) =
        store.artifacts.filter (fun row => row.taskId = taskId) ++ [row] := by
    intro row same
    rw [List.filter_append, List.filter_cons_of_pos (by simpa using same), List.filter_nil]
  unfold persistA2aArtifact addArtifact drawUnless
  dsimp only
  by_cases empty : (artifactDraft artifact).artifactId = ""
  · have counted : draws [artifact] = 1 := by simp [draws, remoteId, empty]
    rw [if_pos empty, counted, assigned, remoteId, if_pos empty]
    refine ⟨?_, rfl⟩
    unfold stored listArtifacts addEvent
    dsimp only
    rw [own _ rfl, List.map_append]
    rfl
  · have counted : draws [artifact] = 0 := by simp [draws, remoteId, empty]
    rw [if_neg empty, counted, assigned, remoteId, if_neg empty]
    refine ⟨?_, rfl⟩
    unfold stored listArtifacts addEvent
    dsimp only
    rw [own _ rfl, List.map_append]
    rfl

theorem assigned_append (drawn : Nat) (first second : List Dict) :
    assigned uuid4 drawn (first ++ second) = assigned uuid4 drawn first ++ assigned uuid4 (drawn + draws first) second := by
  induction first generalizing drawn with
  | nil => rfl
  | cons artifact rest ih =>
    rw [List.cons_append, assigned, assigned]
    by_cases empty : remoteId artifact = ""
    · have counted : drawn + draws (artifact :: rest) = drawn + 1 + draws rest := by
        rw [draws, List.countP_cons_of_pos (by simpa using empty), draws]
        omega
      rw [if_pos empty, if_pos empty, ih, counted, List.cons_append]
    · have counted : draws (artifact :: rest) = draws rest := List.countP_cons_of_neg (by simpa using empty)
      rw [if_neg empty, if_neg empty, ih, counted, List.cons_append]

theorem draws_append (first second : List Dict) : draws (first ++ second) = draws first + draws second :=
  List.countP_append

/-- The rows of a task behind an operation that processes some artifacts. -/
def Stores (taskId : String) (artifacts : List Dict) (before after : Store) : Prop :=
  stored after taskId = stored before taskId ++ assigned uuid4 before.drawn artifacts ∧
    after.drawn = before.drawn + draws artifacts

theorem Stores.nil {taskId : String} {before after : Store} (same : after.artifacts = before.artifacts)
    (drawn : after.drawn = before.drawn) : Stores uuid4 taskId [] before after := by
  refine ⟨?_, drawn⟩
  rw [stored_of_artifacts same, assigned, List.append_nil]

variable {uuid4} in
theorem Stores.trans {taskId : String} {first second : List Dict} {before between after : Store}
    (earlier : Stores uuid4 taskId first before between) (later : Stores uuid4 taskId second between after) :
    Stores uuid4 taskId (first ++ second) before after := by
  constructor
  · rw [later.1, earlier.1, earlier.2, List.append_assoc, assigned_append]
  · rw [later.2, earlier.2, draws_append, Nat.add_assoc]

theorem persisted_stores (store : Store) (taskId : String) (artifacts : List Dict) :
    Stores uuid4 taskId artifacts store (persisted uuid4 store taskId artifacts) := by
  unfold persisted
  induction artifacts generalizing store with
  | nil => exact Stores.nil uuid4 rfl rfl
  | cons artifact rest ih =>
    rw [List.foldl_cons]
    exact Stores.trans (persistA2aArtifact_stored uuid4 store taskId artifact) (ih _)

theorem recorded_stores (store : Store) (taskId : String) (result : Dict) :
    Stores uuid4 taskId (artifactsGiven result) store (recorded uuid4 store taskId result) := by
  unfold recorded
  split
  · exact Stores.trans (Stores.nil uuid4 rfl rfl) (persisted_stores uuid4 _ taskId _)
  · have logged := Stores.trans (persisted_stores uuid4 store taskId (artifactsGiven result)) (Stores.nil uuid4 rfl rfl)
    rw [List.append_nil] at logged
    exact logged

/-- The parts of a stored artifact are those of the remote one: its text is empty when it has none. -/
theorem storedParts_artifactDraft (artifact : Dict) : (artifactDraft artifact).storedParts = (artifact.get "parts").list := by
  unfold ArtifactDraft.storedParts artifactDraft
  dsimp only
  by_cases empty : (artifact.get "parts").list = []
  · have silent : textFromParts (.arr []) = "" := rfl
    rw [if_neg (by simpa using empty), empty]
    exact if_pos silent
  · rw [if_pos empty]

end Storing

/-! Sequences of replies. -/

section Receiving
variable [CharData] [UpperData] (uuid4 : Nat → Uuid)

/-- A turn that raises leaves the rows as they are. -/
def receive (taskId : String) (store : Store) : Reply → Store
  | .streamed fold result =>
      match processResult uuid4 store taskId fold result with
      | .ok (_, next) => next
      | .error _ => store
  | .answered response => (applyReply uuid4 store taskId response).2

omit [CharData] [UpperData] in
/-- The artifacts that a reply names. -/
def occurrences : Reply → List Dict
  | .streamed _ result => artifactsGiven result
  | .answered response => objects ((replyResult response).get "artifacts").list

omit [CharData] [UpperData] in
theorem artifactsGiven_of_malformed {result : Dict} (broken : malformed result = true) : artifactsGiven result = [] := by
  unfold artifactsGiven
  cases kind : kindOf result with
  | statusUpdate update => rfl
  | _ => simp [malformed, kind] at broken

theorem receive_stores (taskId : String) (store : Store) (reply : Reply) :
    Stores uuid4 taskId (occurrences reply) store (receive uuid4 taskId store reply) := by
  cases reply with
  | streamed fold result =>
    rw [receive, occurrences]
    cases broken : malformed result with
    | true =>
      obtain ⟨message, failed⟩ := processResult_of_malformed uuid4 broken store taskId fold
      rw [failed, artifactsGiven_of_malformed broken]
      exact Stores.nil uuid4 rfl rfl
    | false =>
      rw [processResult_of_wellFormed uuid4 broken]
      have marked := Stores.trans (recorded_stores uuid4 store taskId result) (Stores.nil uuid4 rfl rfl)
      rw [List.append_nil] at marked
      exact marked
  | answered response =>
    have marked := Stores.trans
      (persisted_stores uuid4 store taskId (objects ((replyResult response).get "artifacts").list))
      (Stores.nil uuid4 rfl rfl)
    rw [List.append_nil] at marked
    exact marked

theorem received_stores (taskId : String) (store : Store) (replies : List Reply) :
    Stores uuid4 taskId (replies.flatMap occurrences) store (replies.foldl (receive uuid4 taskId) store) := by
  induction replies generalizing store with
  | nil => exact Stores.nil uuid4 rfl rfl
  | cons reply rest ih =>
    rw [List.foldl_cons, List.flatMap_cons]
    exact Stores.trans (receive_stores uuid4 taskId store reply) (ih _)

omit [UpperData] in
/-- Under an identifier that the service does not draw stand the parts of its occurrences. -/
theorem filter_assigned {id : String} (visible : id ≠ "") (undrawn : ∀ n, "artifact_" ++ (uuid4 n).hex ≠ id)
    (drawn : Nat) (artifacts : List Dict) :
    ((assigned uuid4 drawn artifacts).filter fun row => row.1 = id).map Prod.snd =
      (artifacts.filter fun artifact => remoteId artifact = id).map fun artifact => (artifact.get "parts").list := by
  induction artifacts generalizing drawn with
  | nil => rfl
  | cons artifact rest ih =>
    rw [assigned]
    by_cases empty : remoteId artifact = ""
    · have other : ¬remoteId artifact = id := fun same => visible (same ▸ empty)
      rw [if_pos empty, List.filter_cons_of_neg (by simpa using undrawn drawn),
        List.filter_cons_of_neg (by simpa using other), ih]
    · rw [if_neg empty]
      by_cases own : remoteId artifact = id
      · rw [List.filter_cons_of_pos (by simpa using own), List.filter_cons_of_pos (by simpa using own), List.map_cons,
          List.map_cons, ih, storedParts_artifactDraft]
      · rw [List.filter_cons_of_neg (by simpa using own), List.filter_cons_of_neg (by simpa using own), ih]

omit [CharData] [UpperData] in
theorem filter_stored (store : Store) (taskId id : String) :
    ((listArtifacts store taskId).filter fun row => row.artifactId = id).map A2AArtifact.parts =
      ((stored store taskId).filter fun row => row.1 = id).map Prod.snd := by
  rw [stored, List.filter_map, List.map_map]
  rfl

/-- Every occurrence of an artifact adds one row, with the parts that it has there. -/
theorem rows_follow_occurrences (taskId : String) (store : Store) (replies : List Reply) {id : String}
    (visible : id ≠ "") (undrawn : ∀ n, "artifact_" ++ (uuid4 n).hex ≠ id) :
    let rows := fun store : Store => (listArtifacts store taskId).filter fun row => row.artifactId = id
    (rows (replies.foldl (receive uuid4 taskId) store)).map A2AArtifact.parts =
      (rows store).map A2AArtifact.parts ++
        ((replies.flatMap occurrences).filter fun artifact => remoteId artifact = id).map fun artifact =>
          (artifact.get "parts").list := by
  intro rows
  rw [filter_stored, (received_stores uuid4 taskId store replies).1, List.filter_append, List.map_append,
    filter_assigned uuid4 visible undrawn, ← filter_stored]

end Receiving

section Repeated
attribute [local instance] CharData.ascii UpperData.ascii

def report : Json :=
  .obj [("artifactId", .str "final-report"), ("parts", .arr [.obj [("text", .str "final report")]])]

/-- An update with the report, and the task with the same report. -/
def repeatedReport : List Reply :=
  [.streamed {} [("artifactUpdate", .obj [("artifact", report)])],
    .streamed {} [("task", .obj [("id", .str "remote-1"), ("artifacts", .arr [report])])]]

/-- The report is stored twice. -/
theorem repeated_report_doubles :
    ¬((listArtifacts (repeatedReport.foldl (receive (fun _ => ⟨0⟩) "a2a_task_1") researchStore) "a2a_task_1").filter
      fun row => row.artifactId = "final-report").length ≤ 1 := by
  decide +kernel

theorem rows_follow_occurrences_report :
    ("final-report" ≠ "" ∧ ∀ _ : Nat, "artifact_" ++ Uuid.hex ⟨0⟩ ≠ "final-report") ∧
      ((listArtifacts (repeatedReport.foldl (receive (fun _ => ⟨0⟩) "a2a_task_1") researchStore) "a2a_task_1").filter
        fun row => row.artifactId = "final-report").map A2AArtifact.parts =
      [[.obj [("text", .str "final report")]], [.obj [("text", .str "final report")]]] := by
  have visible : "final-report" ≠ "" := by decide
  have undrawn : ∀ _ : Nat, "artifact_" ++ Uuid.hex ⟨0⟩ ≠ "final-report" := fun _ => by decide +kernel
  refine ⟨⟨visible, undrawn⟩, ?_⟩
  have rows := rows_follow_occurrences (fun _ => ⟨0⟩) "a2a_task_1" researchStore repeatedReport visible undrawn
  rw [rows]
  decide +kernel

end Repeated

end SoulClaw.Runtime.Artifacts
