import SoulClaw.Api.SingleUse

/-! Errors inside a resumed round. `_execute_tool_calls` turns the exception of a call into
its result and goes on; the copy of its loop in `resume_turn` catches only the request for an
approval, so any other exception ends the resumption. -/

namespace SoulClaw.Runtime.Containment
open Foundation Domain.Approvals Domain.Tools A2A Agent ResumeTurn

section Contained
variable [CharData] (runtime : AgentRuntime)

/-! The rest of a round with the errors contained. -/

/-- The calls behind the approved one, as `_execute_tool_calls` treats them. -/
def containedCalls (turnId : String) : Int → List Json → List Json → World →
    Except RoundStop (List Json) × World
  | _, results, [], world => (.ok results, world)
  | index, results, call :: rest, world =>
      match call.receiver with
      | .error error => (.error (.raised error), world)
      | .ok call =>
          match execute runtime.tools world (callName call) (callArguments call) turnId
            (callApproved call) with
          | (.ok result, world) =>
              containedCalls turnId (index + 1) (results ++ [.obj result]) rest world
          | (.error (.approvalRequired message _ approvalId), world) =>
              (.error (.asked call index results message approvalId), world)
          | (.error (.raised error), world) =>
              containedCalls turnId (index + 1) (results ++ [.obj (errorResult call error)]) rest world

/-- Where no call asks, these are the results of `_execute_tool_calls`. -/
theorem containedCalls_eq_executeToolCalls (turnId : String) (calls : List Dict) (index : Int)
    (results finished : List Json) (world after : World) :
    containedCalls runtime turnId index results (calls.map .obj) world = (.ok finished, after) ↔
      executeToolCalls runtime.tools turnId results calls world = (.ok finished, after) := by
  induction calls generalizing index results world with
  | nil => simp only [List.map_nil, containedCalls, executeToolCalls, Prod.mk.injEq, Except.ok.injEq]
  | cons call rest ih =>
    rw [List.map_cons, containedCalls, executeToolCalls]
    simp only [Json.receiver]
    generalize execute runtime.tools world (callName call) (callArguments call) turnId
      (callApproved call) = step
    obtain ⟨outcome, between⟩ := step
    cases outcome with
    | ok result => exact ih _ _ _
    | error failure =>
      cases failure with
      | raised error => exact ih _ _ _
      | approvalRequired message toolName approvalId => simp

def containedRound (id : Nat) (turnId : String) (pending : Dict) (round : Round) (world : World) :
    Except RoundStop (List Json) × World :=
  match sliceFrom round.toolCalls round.pendingIndex with
  | [] => (.ok round.completedResults, world)
  | _ :: rest =>
      let next := containedCalls runtime turnId (round.pendingIndex + 1)
      match execute runtime.tools world (callName pending) (callArguments pending) turnId (.stored id) with
      | (.ok result, world) => next (round.completedResults ++ [.obj result]) rest world
      | (.error (.approvalRequired message _ approvalId), world) =>
          (.error (.asked pending round.pendingIndex round.completedResults message approvalId), world)
      | (.error (.raised error), world) =>
          next (round.completedResults ++ [.obj (errorResult pending error)]) rest world

/-! The exception with which an execution of the round ends. -/

def raisedLater (turnId : String) : List Json → World → Option PyException
  | [], _ => none
  | call :: rest, world =>
      match call.receiver with
      | .error _ => none
      | .ok call =>
          match execute runtime.tools world (callName call) (callArguments call) turnId
            (callApproved call) with
          | (.ok _, world) => raisedLater turnId rest world
          | (.error (.approvalRequired _ _ _), _) => none
          | (.error (.raised error), _) => some error

/-- The first exception of an execution, other than the request for an approval. -/
def raisedInRound (id : Nat) (turnId : String) (pending : Dict) (round : Round) (world : World) :
    Option PyException :=
  match sliceFrom round.toolCalls round.pendingIndex with
  | [] => none
  | _ :: rest =>
      match execute runtime.tools world (callName pending) (callArguments pending) turnId (.stored id) with
      | (.ok _, world) => raisedLater runtime turnId rest world
      | (.error (.approvalRequired _ _ _), _) => none
      | (.error (.raised error), _) => some error

theorem resumeCalls_raised (turnId : String) (index : Int) (results calls : List Json) (world : World) :
    match raisedLater runtime turnId calls world with
    | some error => (resumeCalls runtime turnId index results calls world).1 = .error (.raised error)
    | none => resumeCalls runtime turnId index results calls world =
        containedCalls runtime turnId index results calls world := by
  induction calls generalizing index results world with
  | nil => rfl
  | cons call rest ih =>
    rw [raisedLater, resumeCalls, containedCalls]
    cases call.receiver with
    | error error => rfl
    | ok call =>
      simp only
      generalize execute runtime.tools world (callName call) (callArguments call) turnId
        (callApproved call) = step
      obtain ⟨outcome, after⟩ := step
      cases outcome with
      | ok result => exact ih _ _ _
      | error failure => cases failure <;> rfl

theorem resumeRound_raised (id : Nat) (turnId : String) (pending : Dict) (round : Round) (world : World) :
    match raisedInRound runtime id turnId pending round world with
    | some error => (resumeRound runtime id turnId pending round world).1 = .error (.raised error)
    | none => resumeRound runtime id turnId pending round world =
        containedRound runtime id turnId pending round world := by
  rw [raisedInRound, resumeRound, containedRound]
  cases sliceFrom round.toolCalls round.pendingIndex with
  | nil => rfl
  | cons call rest =>
    simp only
    generalize execute runtime.tools world (callName pending) (callArguments pending) turnId
      (.stored id) = step
    obtain ⟨outcome, after⟩ := step
    cases outcome with
    | ok result => exact resumeCalls_raised runtime turnId _ _ rest after
    | error failure => cases failure <;> rfl

end Contained

/-! The resumption around the round. -/

abbrev RoundRunner := Nat → String → Dict → Round → World → Except RoundStop (List Json) × World

section Turn
variable [CharData] [NumberData] (runtime : AgentRuntime)

/-- `executeTurn`, with another way to run the rest of the round. -/
def executeTurnBy (run : RoundRunner) (world : World) (id : Nat) (editedArguments checkpoint : Dict)
    (decision : Decision) : Except PyException AgentTurnResult × World :=
  let turnId := checkpointTurnId checkpoint
  let pending := pendingCall editedArguments checkpoint
  let world := setApproval world id fun approval => { approval with status := .approved }
  if !runtime.toolsConfigured then
    (.error ⟨.runtimeError, "tool executor is not configured"⟩, world)
  else
    match readRound checkpoint pending with
    | .error error => (.error error, world)
    | .ok round =>
        match run id turnId pending round world with
        | (.error (.raised error), world) => (.error error, world)
        | (.error (.asked call index results message approvalId), world) =>
            let toolResults := round.priorResults ++ results ++
              [.obj (approvalResult message (.str (callName call)) approvalId)]
            (.ok (pausedTurn turnId approvalId call toolResults),
              saveApprovalCheckpoint world approvalId
                (roundCheckpoint checkpoint toolResults results call index))
        | (.ok results, world) =>
            match closeRound checkpoint round pending results with
            | .error error => (.error error, world)
            | .ok (messages, allCalls) =>
                resumeLoop runtime world id decision turnId checkpoint messages allCalls
                  (round.priorResults ++ results)

/-- `resumeTurn`, with another way to run the rest of the round. -/
def resumeTurnBy (run : RoundRunner) (world : World) (id : Nat) (decision : String)
    (editedArguments : Dict) (response : String) : Except PyException AgentTurnResult × World :=
  match world.approvals.get? id with
  | none => (.error ⟨.keyError, "approval not found: " ++ toString id⟩, world)
  | some approval =>
      match resumable approval.turnCheckpoint with
      | .error error => (.error error, world)
      | .ok () =>
          match readDecision decision with
          | none => (.error ⟨.valueError, "decision must be approve, edit, reject, or respond"⟩, world)
          | some .respond => respondTurn world id approval response
          | some .reject => rejectTurn world id approval response
          | some .approve =>
              executeTurnBy runtime run world id approval.editedArguments approval.turnCheckpoint .approve
          | some .edit =>
              let edited := if editedArguments = [] then approval.editedArguments else editedArguments
              executeTurnBy runtime run
                (setApproval world id fun approval => { approval with editedArguments := edited }) id edited
                approval.turnCheckpoint .edit

theorem executeTurn_eq (world : World) (id : Nat) (editedArguments checkpoint : Dict) (decision : Decision) :
    executeTurn runtime world id editedArguments checkpoint decision =
      executeTurnBy runtime (resumeRound runtime) world id editedArguments checkpoint decision := by
  unfold executeTurn executeTurnBy
  rfl

theorem resumeTurn_eq (world : World) (id : Nat) (decision : String) (editedArguments : Dict)
    (response : String) :
    resumeTurn runtime world id decision editedArguments response =
      resumeTurnBy runtime (resumeRound runtime) world id decision editedArguments response := by
  unfold resumeTurn resumeTurnBy
  cases world.approvals.get? id with
  | none => rfl
  | some approval =>
    simp only
    cases resumable approval.turnCheckpoint with
    | error error => rfl
    | ok =>
      simp only
      cases readDecision decision with
      | none => rfl
      | some chosen =>
        cases chosen with
        | respond => rfl
        | reject => rfl
        | approve => exact executeTurn_eq runtime _ id _ _ _
        | edit => exact executeTurn_eq runtime _ id _ _ _

/-- The resumption as the tool loop of a turn would do it. -/
def containedTurn (world : World) (id : Nat) (decision : String) (editedArguments : Dict)
    (response : String) : Except PyException AgentTurnResult × World :=
  resumeTurnBy runtime (containedRound runtime) world id decision editedArguments response

def raisedInExecution (world : World) (id : Nat) (editedArguments checkpoint : Dict) :
    Option PyException :=
  let pending := pendingCall editedArguments checkpoint
  if !runtime.toolsConfigured then none
  else
    match readRound checkpoint pending with
    | .error _ => none
    | .ok round =>
        raisedInRound runtime id (checkpointTurnId checkpoint) pending round
          (setApproval world id fun approval => { approval with status := .approved })

/-- The first exception, other than the request for an approval, with which an execution of the
resumed round ends. -/
def raisedInTurn (world : World) (id : Nat) (decision : String) (editedArguments : Dict) :
    Option PyException :=
  match world.approvals.get? id with
  | none => none
  | some approval =>
      match resumable approval.turnCheckpoint with
      | .error _ => none
      | .ok () =>
          match readDecision decision with
          | some .approve =>
              raisedInExecution runtime world id approval.editedArguments approval.turnCheckpoint
          | some .edit =>
              let edited := if editedArguments = [] then approval.editedArguments else editedArguments
              raisedInExecution runtime
                (setApproval world id fun approval => { approval with editedArguments := edited }) id edited
                approval.turnCheckpoint
          | _ => none

/-- No exception of an execution escapes, and the turn goes on as the tool loop does. -/
def Contains (world : World) (id : Nat) (decision : String) (editedArguments : Dict)
    (response : String) : Prop :=
  (∀ error, raisedInTurn runtime world id decision editedArguments = some error →
    (resumeTurn runtime world id decision editedArguments response).1 ≠ .error error) ∧
  resumeTurn runtime world id decision editedArguments response =
    containedTurn runtime world id decision editedArguments response

theorem executeTurn_raised (world : World) (id : Nat) (editedArguments checkpoint : Dict)
    (decision : Decision) :
    match raisedInExecution runtime world id editedArguments checkpoint with
    | some error =>
        (executeTurnBy runtime (resumeRound runtime) world id editedArguments checkpoint decision).1 =
          .error error
    | none =>
        executeTurnBy runtime (resumeRound runtime) world id editedArguments checkpoint decision =
          executeTurnBy runtime (containedRound runtime) world id editedArguments checkpoint decision := by
  unfold raisedInExecution executeTurnBy
  cases runtime.toolsConfigured with
  | false => rfl
  | true =>
    simp only [Bool.not_true, Bool.false_eq_true, if_false]
    cases readRound checkpoint (pendingCall editedArguments checkpoint) with
    | error error => rfl
    | ok round =>
      have rounds := resumeRound_raised runtime id (checkpointTurnId checkpoint)
        (pendingCall editedArguments checkpoint) round
        (setApproval world id fun approval => { approval with status := .approved })
      simp only
      generalize raisedInRound runtime id _ _ round _ = raised at rounds ⊢
      cases raised with
      | none =>
        simp only at rounds ⊢
        rw [rounds]
      | some error =>
        simp only at rounds ⊢
        generalize resumeRound runtime id _ _ round _ = step at rounds ⊢
        obtain ⟨outcome, after⟩ := step
        cases rounds
        rfl

theorem resumeTurn_raised (world : World) (id : Nat) (decision : String) (editedArguments : Dict)
    (response : String) :
    match raisedInTurn runtime world id decision editedArguments with
    | some error => (resumeTurn runtime world id decision editedArguments response).1 = .error error
    | none => resumeTurn runtime world id decision editedArguments response =
        containedTurn runtime world id decision editedArguments response := by
  rw [resumeTurn_eq, containedTurn, raisedInTurn]
  unfold resumeTurnBy
  cases world.approvals.get? id with
  | none => rfl
  | some approval =>
    simp only
    cases resumable approval.turnCheckpoint with
    | error error => rfl
    | ok =>
      simp only
      cases readDecision decision with
      | none => rfl
      | some chosen =>
        cases chosen with
        | respond => rfl
        | reject => rfl
        | approve => exact executeTurn_raised runtime _ id _ _ _
        | edit => exact executeTurn_raised runtime _ id _ _ _

/-- The errors of a resumed round are contained exactly if there are none. -/
theorem resumeTurn_contains_iff (world : World) (id : Nat) (decision : String) (editedArguments : Dict)
    (response : String) :
    Contains runtime world id decision editedArguments response ↔
      raisedInTurn runtime world id decision editedArguments = none := by
  have outcome := resumeTurn_raised runtime world id decision editedArguments response
  unfold Contains
  cases raised : raisedInTurn runtime world id decision editedArguments with
  | none =>
    rw [raised] at outcome
    refine ⟨fun _ => rfl, fun _ => ⟨?_, outcome⟩⟩
    intro error found
    cases found
  | some error =>
    rw [raised] at outcome
    exact ⟨fun contains => absurd outcome (contains.1 error rfl), fun absent => by cases absent⟩

end Turn

/-! A round of two calls: an outbound message, and a tool that nobody has registered. -/

def pairCalls : List Dict :=
  [callOf ⟨"gateway_send", .obj [("text", .str "hi")], "call_1"⟩, callOf ⟨"missing", .obj [], "call_2"⟩]

def pairStop : LoopInterrupt where
  interrupt :=
    { approvalId := some 0
      pendingToolCall := callOf ⟨"gateway_send", .obj [("text", .str "hi")], "call_1"⟩
      completedResults := []
      approvalResult := approvalResult "tool requires approval: gateway_send" (.str "gateway_send") (some 0)
      pendingIndex := 0 }
  messages := turnMessages {} "Send it."
  toolCalls := pairCalls.map .obj
  toolResults :=
    [.obj (approvalResult "tool requires approval: gateway_send" (.str "gateway_send") (some 0))]
  roundToolCalls := pairCalls.map .obj
  roundIndex := 0

/-- The approval at which the turn is paused. -/
def pairWorld : World :=
  { approvals := (createApproval .empty
      { subjectType := "tool_run", turnCheckpoint := turnCheckpoint "session" "turn" "Send it." pairStop }).2 }

attribute [local instance] CharData.ascii NumberData.decimal in
/-- The message goes out, the error of the second call escapes, and the endpoint takes the
decision back with everything else that was written. -/
theorem failing_call_escapes :
    ¬Contains Api.SingleUse.quietRuntime pairWorld 0 "approve" [] "" ∧
    (resumeTurn Api.SingleUse.quietRuntime pairWorld 0 "approve" [] "").1 =
      .error ⟨.keyError, "tool not found: missing"⟩ ∧
    (Api.Approvals.resumeEndpoint Api.SingleUse.quietRuntime pairWorld 0 "approve" [] "").2.approvals =
      pairWorld.approvals ∧
    (Api.Approvals.resumeEndpoint Api.SingleUse.quietRuntime pairWorld 0 "approve" [] "").2.effects.length = 1 := by
  have escaped : (resumeTurn Api.SingleUse.quietRuntime pairWorld 0 "approve" [] "").1 =
      .error ⟨.keyError, "tool not found: missing"⟩ := by decide +kernel
  have raised : raisedInTurn Api.SingleUse.quietRuntime pairWorld 0 "approve" [] =
      some ⟨.keyError, "tool not found: missing"⟩ := by decide +kernel
  exact ⟨fun contains => contains.1 _ raised escaped, escaped, by decide +kernel, by decide +kernel⟩

end SoulClaw.Runtime.Containment
