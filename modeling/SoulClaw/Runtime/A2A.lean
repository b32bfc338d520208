import SoulClaw.Foundation.Text

/-! The A2A delegation request, the policy that says which requests a human has to approve,
and the request that a JSON-RPC message stands for. -/

namespace SoulClaw.Runtime.A2A
open Foundation

structure A2ADelegateRequest where
  capability : String
  query : String
  context : Dict := []
  files : List Json := []
  options : Dict := []
  connectionName : String := ""
  deriving DecidableEq, Repr

def highRiskCapabilities : List String :=
  ["code", "code-writing", "coding", "schedule", "calendar", "document-write", "write", "send",
    "external-write"]

variable [CharData]

/-- `str(value or "")`. -/
def text (value : Json) : String := (value.or (.str "")).toStr

theorem text_str (value : String) : text (.str value) = value := by
  unfold text
  by_cases empty : value = ""
  · rw [empty]
    rfl
  · rw [Json.or_of_truthy (by simpa [Json.truthy] using empty), Json.toStr]

def normalized (value : String) : String := Text.lower (Text.strip value)

def risk (options : Dict) : String :=
  normalized (text ((options.get "risk").or (options.get "risk_level")))

def requiresApproval (capability : String) (options : Dict) : Bool :=
  (risk options = "high" ∨ risk options = "critical") ∨
    highRiskCapabilities.any fun token => Text.contains (normalized capability) token

def A2ADelegateRequest.highRisk (request : A2ADelegateRequest) : Bool :=
  requiresApproval request.capability request.options

/-! The parts of a JSON-RPC message. -/

def textOfPart : Json → Option String
  | .obj part =>
      match Dict.get part "text", Dict.get part "data" with
      | .str text, _ => some text
      | _, .obj data => some (Json.obj data).dumps
      | _, _ => none
  | _ => none

def textFromParts (parts : Json) : String :=
  match parts with
  | .arr items => Text.strip (Text.joinWith "\n" (items.filterMap textOfPart))
  | _ => ""

def textFromMessage (message : Dict) : String := textFromParts (message.get "parts")

/-- The request that `_jsonrpc_message_send` reads from its parameters. -/
def messageSendRequest (params : Dict) : A2ADelegateRequest :=
  let message := match params.get "message" with
    | .obj message => message
    | _ => params
  let metadata := (message.get "metadata").dict
  { capability := (((metadata.get "capability").or (params.get "capability")).or
      (.str "deep-research")).toStr
    query := textFromMessage message
    context := (metadata.get "context").dict
    files := (metadata.get "files").list
    options := (metadata.get "options").dict
    connectionName := text ((metadata.get "connection_name").or (params.get "connection_name")) }

/-- The request that the tool `a2a_delegate` reads from its arguments. -/
def delegateToolRequest (arguments : Dict) : A2ADelegateRequest where
  capability := text (arguments.get "capability")
  query := text (arguments.get "query")
  context := (arguments.get "context").dict
  files := (arguments.get "files").list
  options := (arguments.get "options").dict
  connectionName := text (arguments.get "connection_name")

/-! The turn that hands a research question over. -/

def researchTriggers : List String :=
  ["deepresearch", "deep research", "deep-research", "深度研究", "深入调研", "全面调研", "广泛调研",
    "research report"]

/-- `_should_delegate_to_deep_research`. -/
def shouldDelegate (message : String) : Bool :=
  researchTriggers.any fun trigger => Text.contains (Text.lower message) trigger

def deepResearchRequest (message sessionId turnId : String) : A2ADelegateRequest where
  capability := "deep-research"
  query := message
  context := [("session_id", .str sessionId), ("turn_id", .str turnId)]

theorem risk_nil : risk [] = "" := by
  have empty : text ((Dict.get [] "risk").or (Dict.get [] "risk_level")) = "" := rfl
  rw [risk, empty, normalized]
  simp [Text.strip, Text.lower]

/-- A lower case ASCII word is left as it is. -/
theorem normalized_of_ascii {word : String} (ascii : Text.isAscii word = true)
    (first : (word.toList.head?.all fun c => !asciiSpace c) = true)
    (last : (word.toList.getLast?.all fun c => !asciiSpace c) = true)
    (small : String.ofList (word.toList.map Char.toLower) = word) : normalized word = word := by
  have edge : ∀ (c : Char) (place : Option Char), c ∈ place → c ∈ word.toList →
      (place.all fun c => !asciiSpace c) = true → CharData.isSpace c = false := by
    intro c place here member free
    rw [CharData.isSpace_ascii c (Text.lt_of_isAscii ascii member)]
    cases here
    simpa using free
  have stripped : Text.strip word = word := by
    apply Text.strip_of_edges
    · exact fun c member => edge c _ member (List.mem_of_mem_head? member) first
    · exact fun c member => edge c _ member (List.mem_of_mem_getLast? member) last
  rw [normalized, stripped, Text.lower_of_ascii ascii, small]

/-- The capability that a turn delegates to needs no approval. -/
theorem deepResearchRequest_highRisk (message sessionId turnId : String) :
    (deepResearchRequest message sessionId turnId).highRisk = false := by
  have capability : normalized "deep-research" = "deep-research" :=
    normalized_of_ascii (by decide) (by decide) (by decide) (by decide)
  unfold A2ADelegateRequest.highRisk requiresApproval
  simp only [deepResearchRequest, capability, risk_nil]
  decide

end SoulClaw.Runtime.A2A
