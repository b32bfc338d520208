import SoulClaw.Domain.Gate

/-! `POST /api/tools/{name}/run`. The executor leaves the approval of a gated call in the session of the
request, the endpoint turns the exception into an answer with status 403, and `get_db`, which is handed that
`HTTPException` at its `yield`, rolls the session back. -/

namespace SoulClaw.Api.ToolRuns
open Foundation Domain Domain.Approvals Domain.Tools Domain.ToolEffects

structure ToolRunRequest where
  arguments : Dict := []
  turnId : String := ""
  approved : Bool := false
  deriving DecidableEq, Repr

section Endpoint
variable [CharData] (tools : ToolRuntime)

/-- The answer to what `execute` raises; a `ToolApprovalRequired` is a `PermissionError`. -/
def runToolError : Failure → HttpError
  | .approvalRequired message _ _ => ⟨403, message⟩
  | .raised error =>
      match error.kind with
      | .keyError => ⟨404, error.str⟩
      | .permissionError => ⟨403, error.str⟩
      | .valueError => ⟨400, error.str⟩
      | _ => ⟨500, error.str⟩

def callerApproval (approved : Bool) : Approved := if approved then .caller else .no

/-- The execution that the endpoint starts in its session. -/
def executed (world : World) (toolName : String) (payload : ToolRunRequest) : Except Failure Dict × World :=
  execute tools world toolName payload.arguments payload.turnId (callerApproval payload.approved)

/-- `run_tool`. -/
def runToolEndpoint (world : World) (toolName : String) (payload : ToolRunRequest) : Except HttpError Dict × World :=
  match executed tools world toolName payload with
  | (.ok result, after) => (.ok result, after)
  | (.error failure, after) => (.error (runToolError failure), after)

/-- `get_db`: the session is committed, or rolled back by the exception. -/
def getDb {Answer : Type} (before : World) : Except HttpError Answer × World → Except HttpError Answer × World
  | (.ok answer, after) => (.ok answer, after)
  | (.error error, after) => (.error error, before.rollback after)

/-- The request with its transaction. -/
def postRun (world : World) (toolName : String) (payload : ToolRunRequest) : Except HttpError Dict × World :=
  getDb world (runToolEndpoint tools world toolName payload)

/-- The call gets past the checks of the executor, so that its handler is what asks for an approval. -/
def reachesHandler (toolName : String) (payload : ToolRunRequest) : Bool :=
  (admitted tools toolName payload.arguments (callerApproval payload.approved)).isSome

/-- The approval of a gated call is pending in a database, together with the run of a call that its
handler has gated. -/
structure Holds (before after : World) (toolName : String) (payload : ToolRunRequest) (id : Nat) : Prop where
  approval : ∃ approval, after.approvals.get? id = some approval ∧ approval.status = .pending
  toolRun : reachesHandler tools toolName payload = true →
    ∃ run, after.toolRuns.get? before.toolRuns.size = some run ∧ run.status = .approvalRequired

variable {tools}

omit [CharData] in
theorem createToolApproval_asked {world after : World} {request : ApprovalRequest} {id : Nat}
    (asked : createToolApproval tools world request = (some id, after)) :
    id = world.approvals.size ∧ after = { world with approvals := world.approvals.insert request.row } := by
  rcases createToolApproval_approvals tools world request with ⟨absent, _⟩ | ⟨made, added⟩
  · rw [asked] at absent
    cases absent
  · rw [asked] at made added
    exact ⟨Option.some.inj made, added⟩

/-- The session of a call that its handler gates. -/
theorem runTool_holds {world after : World} {definition : ToolDefinition} {handler : Handler}
    {toolName turnId message named : String} {arguments : Dict} {approved : Approved} {id : Nat}
    (gated : runTool tools world definition handler toolName arguments turnId approved =
      (.error (.approvalRequired message named (some id)), after)) :
    id = world.approvals.size ∧
      (∃ request : ApprovalRequest, after.approvals = world.approvals.insert request.row) ∧
      ∃ run, after.toolRuns = world.toolRuns.insert run ∧ run.status = .approvalRequired := by
  let run : ToolRun := { turnId := turnId, toolName := toolName, arguments := arguments }
  have logged := handle_world tools approved (tools.recursionLimit + 1) false (world.startRun run)
    definition handler (handlerArguments arguments approved)
  unfold handlerArguments at logged
  unfold runTool at gated
  dsimp only at gated
  cases called : handle tools approved (tools.recursionLimit + 1) false (world.startRun run) definition handler
      (if approved.granted then arguments.set "_approved" (.bool true) else arguments) with
  | mk outcome middle =>
    rw [called] at logged gated
    obtain rfl : middle = _ := logged
    cases outcome with
    | ok result => cases gated
    | error error =>
      by_cases denied : error.kind = .permissionError
      · simp only [if_pos denied] at gated
        rcases asked : createToolApproval tools (logAll (world.startRun run) _)
          (toolApprovalRequest toolName arguments turnId true) with ⟨approval, created⟩
        rw [asked] at gated
        simp only [Prod.mk.injEq, Except.error.injEq, Failure.approvalRequired.injEq] at gated
        obtain ⟨⟨_, _, rfl⟩, rfl⟩ := gated
        obtain ⟨fresh, rfl⟩ := createToolApproval_asked asked
        refine ⟨fresh, ⟨_, rfl⟩, _, toolRuns_finishRun .approvalRequired _ rfl, rfl⟩
      · simp only [if_neg denied] at gated
        cases gated

/-- The session of a gated call holds its approval and its run. -/
theorem executed_holds {world after : World} {toolName message named : String} {payload : ToolRunRequest} {id : Nat}
    (gated : executed tools world toolName payload = (.error (.approvalRequired message named (some id)), after)) :
    id = world.approvals.size ∧ Holds tools world after toolName payload id := by
  unfold executed at gated
  cases passed : admitted tools toolName payload.arguments (callerApproval payload.approved) with
  | some called =>
    rw [execute_of_admitted tools passed] at gated
    obtain ⟨fresh, ⟨request, added⟩, run, started, status⟩ := runTool_holds gated
    refine ⟨fresh, ⟨request.row, ?_, rfl⟩, fun _ => ⟨run, ?_, status⟩⟩
    · rw [added, fresh, Table.get?_insert_self]
    · rw [started, Table.get?_insert_self]
  | none =>
    rcases execute_of_not_admitted tools passed world payload.turnId with ⟨error, raised⟩ | ⟨_, asked⟩
    · rw [raised] at gated
      cases gated
    · rw [asked] at gated
      rcases created : createToolApproval tools world
        (toolApprovalRequest toolName payload.arguments payload.turnId false) with ⟨approval, made⟩
      rw [created] at gated
      simp only [Prod.mk.injEq, Except.error.injEq, Failure.approvalRequired.injEq] at gated
      obtain ⟨⟨_, _, rfl⟩, rfl⟩ := gated
      obtain ⟨fresh, rfl⟩ := createToolApproval_asked created
      refine ⟨fresh, ⟨(toolApprovalRequest toolName payload.arguments payload.turnId false).row, ?_, rfl⟩,
        fun reached => ?_⟩
      · rw [fresh, Table.get?_insert_self]
      · rw [reachesHandler, passed] at reached
        cases reached

/-- A request whose call is gated is answered with status 403, and the committed database is the one before:
it holds neither the approval nor the run. -/
theorem gated_run_forgotten {world : World} {toolName message named : String} {payload : ToolRunRequest} {id : Nat}
    (gated : (executed tools world toolName payload).1 = .error (.approvalRequired message named (some id))) :
    (postRun tools world toolName payload).1 = .error ⟨403, message⟩ ∧
      (postRun tools world toolName payload).2.approvals.get? id = none ∧
      (postRun tools world toolName payload).2.toolRuns.get? world.toolRuns.size = none ∧
      ¬Holds tools world (postRun tools world toolName payload).2 toolName payload id := by
  rcases whole : executed tools world toolName payload with ⟨outcome, after⟩
  rw [whole] at gated
  obtain rfl : outcome = _ := gated
  have answered : postRun tools world toolName payload = (.error ⟨403, message⟩, world.rollback after) := by
    rw [postRun, runToolEndpoint, whole]
    rfl
  have unknown : world.approvals.get? id = none :=
    Table.get?_of_size_le (executed_holds whole).1.ge
  rw [answered]
  refine ⟨rfl, unknown, Table.get?_of_size_le le_rfl, fun held => ?_⟩
  obtain ⟨approval, found, _⟩ := held.approval
  rw [show (world.rollback after).approvals.get? id = none from unknown] at found
  cases found

end Endpoint

section Forgotten
attribute [local instance] CharData.ascii

def sendRequest : ToolRunRequest where
  arguments := [("gateway_name", .str "hook"), ("text", .str "hello")]

def nestedRequest : ToolRunRequest where
  arguments := [("tool_name", .str "gateway_send"), ("arguments", .obj sendRequest.arguments)]

/-- `gateway_send` is gated by the executor, and through `tool_call` by its handler. -/
theorem gated_sends_forgotten :
    (postRun Gate.answering {} "gateway_send" sendRequest).1 = .error ⟨403, "tool requires approval: gateway_send"⟩ ∧
    ¬Holds Gate.answering {} (postRun Gate.answering {} "gateway_send" sendRequest).2 "gateway_send" sendRequest 0 ∧
    reachesHandler Gate.answering "tool_call" nestedRequest = true ∧
    (postRun Gate.answering {} "tool_call" nestedRequest).1 = .error ⟨403, "tool requires approval: gateway_send"⟩ ∧
    ¬Holds Gate.answering {} (postRun Gate.answering {} "tool_call" nestedRequest).2 "tool_call" nestedRequest 0 := by
  have direct : (executed Gate.answering {} "gateway_send" sendRequest).1 =
      .error (.approvalRequired "tool requires approval: gateway_send" "gateway_send" (some 0)) := by
    decide +kernel
  have nested : (executed Gate.answering {} "tool_call" nestedRequest).1 =
      .error (.approvalRequired "tool requires approval: gateway_send" "tool_call" (some 0)) := by
    decide +kernel
  exact ⟨(gated_run_forgotten direct).1, (gated_run_forgotten direct).2.2.2, by decide +kernel,
    (gated_run_forgotten nested).1, (gated_run_forgotten nested).2.2.2⟩

/-- The call leaves a pending approval in its session, and the committed database does not know it. -/
theorem send_approval_lost :
    (executed Gate.answering {} "gateway_send" sendRequest).1 =
      .error (.approvalRequired "tool requires approval: gateway_send" "gateway_send" (some 0)) ∧
    ((executed Gate.answering {} "gateway_send" sendRequest).2.approvals.get? 0).map Approval.status =
      some .pending ∧
    ¬Holds Gate.answering {} (postRun Gate.answering {} "gateway_send" sendRequest).2 "gateway_send" sendRequest 0 := by
  have unknown : (postRun Gate.answering {} "gateway_send" sendRequest).2.approvals.get? 0 = none := by
    decide +kernel
  refine ⟨by decide +kernel, by decide +kernel, fun held => ?_⟩
  obtain ⟨approval, found, _⟩ := held.approval
  rw [unknown] at found
  cases found

end Forgotten

end SoulClaw.Api.ToolRuns
