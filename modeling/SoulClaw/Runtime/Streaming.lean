import SoulClaw.Runtime.RemoteResults

/-! The delegation of a task to a remote agent: the stream of results that the agent sends, the loop over them, and the
plain message that the runtime falls back to. How the agent answers is a parameter. -/

namespace SoulClaw.Runtime.Streaming
open Foundation Domain.A2ATasks A2A RemoteResults

/-- What ends a request early. -/
inductive Failure where
  | raised (error : PyException)
  | httpStatus (code : Int) (message : String)
  | transport (message : String)
  deriving DecidableEq, Repr

/-- What the remote agent does with a stream request: it refuses, or it sends events, after which the connection ends
or breaks. -/
inductive StreamReply where
  | refused (code : Int) (message : String)
  | unreachable (message : String)
  | opened (events : List Dict) (broken : Option String := none)

structure Remote where
  /-- The answer to a stream request with these parameters. -/
  stream : Dict → StreamReply
  /-- The JSON body of the answer to a call with these parameters. -/
  call : String → Dict → Except Failure Json

/-- A request that has been sent to the remote agent. -/
structure Sent where
  method : String
  params : Dict
  deriving DecidableEq, Repr

section Requests
variable [CharData]

/-- `str(exc)`. -/
def Failure.str : Failure → String
  | .raised error => error.str
  | .httpStatus _ message => message
  | .transport message => message

/-! The stream of results. -/

def envelopeOf (event : Dict) : Dict :=
  match event.get "data" with
  | .obj data => data
  | _ => event

/-- The results that `_call_jsonrpc_stream` yields of the events, and what it raises behind them. -/
def yields (broken : Option String) : List Dict → List Dict × Option Failure
  | [] => ([], broken.map .transport)
  | event :: rest =>
      let envelope := envelopeOf event
      if (envelope.get "error").truthy then ([], some (.raised ⟨.runtimeError, (envelope.get "error").dumps⟩))
      else
        match envelope.get "result" with
        | .obj result =>
            let later := yields broken rest
            (result :: later.1, later.2)
        | _ => yields broken rest

def callJsonrpcStream : StreamReply → List Dict × Option Failure
  | .refused code message => ([], some (.httpStatus code message))
  | .unreachable message => ([], some (.transport message))
  | .opened events broken => yields broken events

def callJsonrpc (remote : Remote) (method : String) (params : Dict) : Except Failure Dict :=
  match remote.call method params with
  | .error failure => .error failure
  | .ok (.obj data) =>
      if (Dict.get data "error").truthy then .error (.raised ⟨.runtimeError, (Dict.get data "error").dumps⟩)
      else .ok data
  | .ok other => .ok [("result", other)]

def unsupportedTokens : List String :=
  ["sendstreamingmessage", "streaming", "method not found", "not supported", "-32601"]

def looksLikeStreamingUnsupported (message : String) : Bool :=
  unsupportedTokens.any fun token => Text.contains (Text.lower message) token

/-- The failures after which the plain message is tried. -/
def Failure.fallsBack : Failure → Bool
  | .httpStatus code _ => code ∈ [400, 404, 405, 501]
  | .raised error => error.kind = .runtimeError && looksLikeStreamingUnsupported error.message
  | .transport _ => false

end Requests

/-! The loop. -/

structure Fold where
  remoteTaskId : String := ""
  remoteContextId : String := ""
  status : String := "working"
  answer : String := ""
  eventCount : Nat := 0
  lastRemote : Dict := []
  deriving DecidableEq, Repr

section Loop
variable [CharData] [UpperData] (uuid4 : Nat → Uuid)

/-- `_persist_a2a_artifact`. -/
def persistA2aArtifact (store : Store) (taskId : String) (artifact : Dict) : A2AArtifact × Store :=
  addArtifact uuid4 store taskId (artifactDraft artifact)

/-- The loop over the artifacts of a remote task. -/
def persistArtifacts (store : Store) (taskId : String) (artifacts : List Json) : Store :=
  (objects artifacts).foldl (fun store artifact => (persistA2aArtifact uuid4 store taskId artifact).2) store

def persistTaskArtifacts (store : Store) (taskId : String) (remoteTask : Dict) : Store :=
  persistArtifacts uuid4 store taskId (remoteTask.get "artifacts").list

omit [UpperData] in
def Fold.readIds (fold : Fold) (result : Dict) : Fold :=
  let (remoteTaskId, remoteContextId) := remoteIdsFromResult result fold.remoteTaskId fold.remoteContextId
  { fold with remoteTaskId, remoteContextId }

/-- `update.get("status", {}).get("message", {})`. -/
def statusMessage (update : Dict) : Except PyException Json :=
  ((update.lookup "status").getD (.obj [])).receiver.map fun status => (status.lookup "message").getD (.obj [])

def Store.log (store : Store) (taskId : String) (event : String × Dict) : Store :=
  addEvent store taskId event.1 event.2

/-- The branch that a result takes. -/
def handleResult (store : Store) (taskId : String) (fold : Fold) (result : Dict) : Except PyException (Fold × Store) :=
  let event := loggedEvent (kindOf result)
  match kindOf result with
  | .task task =>
      let fold := fold.readIds task
      .ok ({ fold with
              status := orKept (statusFromA2aTask task) fold.status
              answer := orKept (answerFromA2aResult task) fold.answer },
        persistTaskArtifacts uuid4 (Store.log store taskId event) taskId task)
  | .statusUpdate update =>
      let fold := fold.readIds update
      (statusMessage update).map fun message =>
        ({ fold with
            status := orKept (statusFromStatusUpdate update) fold.status
            answer := orKept (textFromMessage message.dict) fold.answer },
          Store.log store taskId event)
  | .artifactUpdate update =>
      let fold := fold.readIds update
      let artifact := (update.get "artifact").dict
      if artifact = [] then .ok (fold, Store.log store taskId event)
      else
        let (persisted, store) := persistA2aArtifact uuid4 store taskId artifact
        .ok ({ fold with answer := orKept persisted.content fold.answer }, Store.log store taskId event)
  | .message message =>
      let fold := fold.readIds message
      .ok ({ fold with answer := orKept (textFromMessage message) fold.answer }, Store.log store taskId event)
  | .event _ => .ok (fold, Store.log store taskId event)

/-- One turn of the loop. -/
def processResult (store : Store) (taskId : String) (fold : Fold) (result : Dict) :
    Except PyException (Fold × Store) :=
  (handleResult uuid4 store taskId { fold with eventCount := fold.eventCount + 1, lastRemote := result } result).map
    fun (fold, store) =>
      (fold, markTask store taskId
        { status := settled fold.status
          remoteTaskId := fold.remoteTaskId
          remoteContextId := fold.remoteContextId })

/-- The loop over the results, behind which the stream raises `ending`. -/
def loop (ending : Option Failure) (taskId : String) : Store → Fold → List Dict → Except Failure Fold × Store
  | store, fold, [] =>
      match ending with
      | some failure => (.error failure, store)
      | none => (.ok fold, store)
  | store, fold, result :: rest =>
      match processResult uuid4 store taskId fold result with
      | .error raised => (.error (.raised raised), store)
      | .ok (fold, store) => if closing fold.status then (.ok fold, store) else loop ending taskId store fold rest

def artifactSummary (artifact : A2AArtifact) : Dict :=
  [("artifact_id", .str artifact.artifactId), ("name", .str artifact.name), ("mime_type", .str artifact.mimeType),
    ("uri", .str artifact.uri), ("content_length", .int artifact.content.length)]

def summaries (store : Store) (taskId : String) : Json :=
  .arr ((listArtifacts store taskId).map fun artifact => .obj (artifactSummary artifact))

/-- What `_send_a2a_streaming_message` stores and returns behind the loop. -/
def finish (store : Store) (taskId : String) (fold : Fold) : Dict × Store :=
  let status := settled fold.status
  let store := markTask store taskId
    { status
      result := some [("remote", .obj fold.lastRemote), ("answer", .str fold.answer), ("events", .int fold.eventCount)]
      remoteTaskId := fold.remoteTaskId
      remoteContextId := fold.remoteContextId }
  ([("task_id", .str taskId), ("remote_task_id", .str fold.remoteTaskId), ("status", .str status),
    ("answer", .str fold.answer), ("events", .int fold.eventCount), ("remote", .obj fold.lastRemote),
    ("artifacts", summaries store taskId)], store)

/-- `_send_a2a_streaming_message`, of the results that the stream yields. -/
def sendStreamingMessage (store : Store) (taskId : String) (results : List Dict) (ending : Option Failure) :
    Except Failure Dict × Store :=
  match loop uuid4 ending taskId store {} results with
  | (.error failure, store) => (.error failure, store)
  | (.ok fold, store) =>
      let (report, store) := finish store taskId fold
      (.ok report, store)

end Loop

end SoulClaw.Runtime.Streaming
