import SoulClaw.Runtime.Streaming

/-! `A2ARuntimeManager`: the choice of a connection, the message that starts a delegation, the fallback from the
stream to a plain message, and the cancellation of a task. The requests that leave for the remote agent are listed. -/

namespace SoulClaw.Runtime.RemoteTasks
open Foundation Domain.A2ATasks A2A RemoteResults Streaming

structure A2AAgentConnection where
  name : String
  enabled : Bool := true
  agentCard : Dict := []
  config : Dict := []
  capabilities : List Json := []
  skills : List Dict := []
  deriving DecidableEq, Repr

section Choice
variable [CharData] (connections : List A2AAgentConnection)

def requireConnection (connectionName : String) : Except PyException A2AAgentConnection :=
  match connections.find? fun connection => connection.name = connectionName with
  | none => .error ⟨.keyError, "A2A connection not found: " ++ connectionName⟩
  | some connection =>
      if connection.enabled then .ok connection
      else .error ⟨.runtimeError, "A2A connection disabled: " ++ connectionName⟩

/-- The words that a skill is found by. -/
def skillTokens (skill : Dict) : Except PyException (List String) :=
  (((skill.get "tags").or (.arr [])).toList).map fun tags =>
    Text.lower (text (skill.get "id")) :: Text.lower (text (skill.get "name")) ::
      tags.map fun tag => Text.lower tag.toStr

def connectionTokens (connection : A2AAgentConnection) : Except PyException (List String) :=
  (connection.skills.mapM skillTokens).map fun tokens =>
    (connection.capabilities.map fun item => Text.lower item.toStr) ++ tokens.flatten

def offers (tokens : List String) (capability : String) : Bool :=
  capability ≠ "" && tokens.any fun token =>
    token ≠ "" && (Text.contains token capability || Text.contains capability token)

/-- The first enabled connection, in the order of their names, that offers the capability. -/
def firstOffering (capability asked : String) : List A2AAgentConnection → Except PyException A2AAgentConnection
  | [] => .error ⟨.keyError, "no enabled A2A connection matches capability: " ++ asked⟩
  | connection :: rest => do
      let tokens ← connectionTokens connection
      if offers tokens capability then .ok connection else firstOffering capability asked rest

/-- `_select_connection`. -/
def selectConnection (request : A2ADelegateRequest) : Except PyException A2AAgentConnection :=
  if request.connectionName ≠ "" then requireConnection connections request.connectionName
  else firstOffering (normalized request.capability) request.capability
    ((connections.filter A2AAgentConnection.enabled).take 500)

end Choice

/-! The message. -/

section Messages
variable [CharData]

def supportsStreaming (connection : A2AAgentConnection) : Bool :=
  (((connection.agentCard.get "capabilities").dict.lookup "streaming").map Json.truthy).getD true

/-- The visible texts of a list, where it has any. -/
def modesOf (modes : Json) : Option (List Json) :=
  match ((modes.list.map fun item => Text.strip item.toStr).filter (· ≠ "")).map Json.str with
  | [] => none
  | values => some values

def acceptedOutputModes (connection : A2AAgentConnection) : List Json :=
  let configured := (connection.config.get "accepted_output_modes").or (connection.config.get "acceptedOutputModes")
  ((modesOf configured).or (modesOf (connection.agentCard.get "defaultOutputModes"))).getD
    [.str "text/markdown", .str "text/html", .str "application/json", .str "text/plain"]

/-- `_message`, with the identifier that it draws. -/
def message (messageId role text contextId taskId : String) (metadata : Dict) : Dict :=
  [("messageId", .str ("msg_" ++ messageId)),
    ("role", .str (if Text.lower role = "agent" then "ROLE_AGENT" else "ROLE_USER")),
    ("parts", .arr [.obj [("text", .str text)]])] ++
  (if contextId = "" then [] else [("contextId", .str contextId)]) ++
  (if taskId = "" then [] else [("taskId", .str taskId)]) ++
  (if metadata = [] then [] else [("metadata", .obj metadata)])

def messageParams (messageId contextId : String) (connection : A2AAgentConnection) (request : A2ADelegateRequest) :
    Dict :=
  [("message", .obj (message messageId "user" request.query contextId ""
      [("capability", .str request.capability), ("context", .obj request.context), ("files", .arr request.files),
        ("options", .obj request.options)])),
    ("configuration", .obj [("acceptedOutputModes", .arr (acceptedOutputModes connection))])]

end Messages

/-! The delegation. -/

section Sending
variable [CharData] [UpperData] (uuid4 : Nat → Uuid)

omit [UpperData] in
/-- The result that the answer to a plain message stands for. -/
def replyResult (response : Dict) : Dict :=
  let result : Dict := match response.get "result" with
    | .obj result => result
    | other => [("raw", other)]
  match result.get "task", result.get "message" with
  | .obj task, _ => task
  | _, .obj message => [("message", .obj message)]
  | _, _ => result

omit [UpperData] in
/-- The identifiers that the answer to a plain message gives. -/
def replyIds (result : Dict) : String × String :=
  (text ((result.get "id").or (result.get "taskId")), text (result.get "contextId"))

/-- What `_send_a2a_message` does with the answer to a plain message. -/
def applyReply (store : Store) (taskId : String) (response : Dict) : Dict × Store :=
  let result := replyResult response
  let (remoteTaskId, remoteContextId) := replyIds result
  let answer := answerFromA2aResult result
  let status := settled (statusFromA2aTask result)
  let store := persistArtifacts uuid4 store taskId (result.get "artifacts").list
  let store := markTask store taskId
    { status
      result := some [("remote", .obj result), ("answer", .str answer)]
      remoteTaskId, remoteContextId }
  ([("task_id", .str taskId), ("remote_task_id", .str remoteTaskId), ("status", .str status),
    ("answer", .str answer), ("remote", .obj result), ("artifacts", summaries store taskId)], store)

/-- What a delegation returns or raises, the rows that it leaves and the requests that it has sent. -/
structure Outcome where
  returned : Except Failure Dict
  store : Store
  sent : List Sent

variable (remote : Remote)

/-- The plain message. -/
def sendPlain (store : Store) (taskId : String) (params : Dict) (sent : List Sent) : Outcome :=
  let sent := sent ++ [⟨"SendMessage", params⟩]
  match callJsonrpc remote "SendMessage" params with
  | .error failure => ⟨.error failure, store, sent⟩
  | .ok response =>
      let (report, store) := applyReply uuid4 store taskId response
      ⟨.ok report, store, sent⟩

/-- The stream, and the plain message after a failure that says that there is no streaming. -/
def sendWith (store : Store) (connection : A2AAgentConnection) (taskId : String) (params : Dict) : Outcome :=
  if supportsStreaming connection then
    let sent : List Sent := [⟨"SendStreamingMessage", params⟩]
    let (results, ending) := callJsonrpcStream (remote.stream params)
    match sendStreamingMessage uuid4 store taskId results ending with
    | (.ok report, store) => ⟨.ok report, store, sent⟩
    | (.error failure, store) =>
        if failure.fallsBack then
          let store := addEvent store taskId "a2a.streaming_fallback"
            [("error", .str failure.str), ("method", .str "SendStreamingMessage")]
          sendPlain uuid4 remote store taskId params sent
        else ⟨.error failure, store, sent⟩
  else sendPlain uuid4 remote store taskId params []

/-- `_send_a2a_message`. -/
def sendA2aMessage (store : Store) (connection : A2AAgentConnection) (task : A2ATask) (request : A2ADelegateRequest) :
    Outcome :=
  let params := messageParams (uuid4 store.drawn).hex task.contextId connection request
  sendWith uuid4 remote { store with drawn := store.drawn + 1 } connection task.taskId params

omit [UpperData] in
/-- The task that `delegate` creates. -/
def taskDraft (connection : A2AAgentConnection) (request : A2ADelegateRequest) : Draft where
  connectionName := connection.name
  capability := request.capability
  inputText := request.query
  contextId := text ((request.context.get "context_id").or (request.options.get "context_id"))
  metadata := [("context", .obj request.context), ("files", .arr request.files), ("options", .obj request.options)]

/-- `delegate`. -/
def delegate (connections : List A2AAgentConnection) (store : Store) (request : A2ADelegateRequest) : Outcome :=
  match selectConnection connections request with
  | .error raised => ⟨.error (.raised raised), store, []⟩
  | .ok connection =>
      match createTask uuid4 store (taskDraft connection request) with
      | .error raised => ⟨.error (.raised raised), store, []⟩
      | .ok (task, store) =>
          let store := markTask store task.taskId { status := "working" }
          let outcome := sendA2aMessage uuid4 remote store connection task request
          match outcome.returned with
          | .ok _ => outcome
          | .error failure =>
              { outcome with
                store := markTask outcome.store task.taskId { status := "failed", error := failure.str } }

/-- `cancel_task`, up to what it returns of the task. -/
def cancelTask (first : FirstRow) (connections : List A2AAgentConnection) (store : Store) (taskId : String) :
    Except Failure String × Store × List Sent :=
  match getTaskByAnyId first store taskId with
  | none => (.error (.raised ⟨.keyError, "A2A task not found: " ++ taskId⟩), store, [])
  | some task =>
      if task.status ∈ terminalTaskStates then (.ok task.taskId, store, [])
      else
        let known := connections.any fun connection => connection.name = task.connectionName
        if known ∧ task.remoteTaskId ≠ "" then
          let params : Dict := [("id", .str task.remoteTaskId)]
          let sent : List Sent := [⟨"CancelTask", params⟩]
          match callJsonrpc remote "CancelTask" params with
          | .error failure => (.error failure, store, sent)
          | .ok _ => (.ok task.taskId, markTask store task.taskId { status := "canceled" }, sent)
        else (.ok task.taskId, markTask store task.taskId { status := "canceled" }, [])

end Sending

end SoulClaw.Runtime.RemoteTasks
