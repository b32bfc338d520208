import SoulClaw.Foundation.Runs
import SoulClaw.Runtime.Resumed

/-! What the transcript of a turn shows of its calls, and what has been executed. A round that
is interrupted keeps the calls of the model in its checkpoint; the arguments that a human
edits reach the transcript only if no other call of the round asks afterwards. -/

namespace SoulClaw.Runtime.Transcript
open Foundation Domain.Approvals Domain.Tools Domain.ToolEffects A2A Agent ResumeTurn IdealTurn Rounds
  Checkpoints

/-! The calls that are handed to the executor and answered, in order. -/

section Answered
variable [CharData]

def executionOfCall (call : Dict) : Execution := (callName call, callArguments call)

/-- In `_execute_tool_calls`, where an exception is an answer too. -/
def answered (tools : ToolRuntime) (turnId : String) : List Dict → World → List Execution
  | [], _ => []
  | call :: rest, world =>
      match execute tools world (callName call) (callArguments call) turnId (callApproved call) with
      | (.error (.approvalRequired _ _ _), _) => []
      | (_, world) => executionOfCall call :: answered tools turnId rest world

variable (runtime : AgentRuntime)

def answeredLater (turnId : String) : List Json → World → List Execution
  | [], _ => []
  | call :: rest, world =>
      match call.receiver with
      | .error _ => []
      | .ok call =>
          match execute runtime.tools world (callName call) (callArguments call) turnId
            (callApproved call) with
          | (.ok _, world) => executionOfCall call :: answeredLater turnId rest world
          | (.error _, _) => []

/-- In the resumption of a round. -/
def answeredRound (id : Nat) (turnId : String) (pending : Dict) (round : Round) (world : World) :
    List Execution :=
  match sliceFrom round.toolCalls round.pendingIndex with
  | [] => []
  | _ :: rest =>
      match execute runtime.tools world (callName pending) (callArguments pending) turnId (.stored id) with
      | (.ok _, world) => executionOfCall pending :: answeredLater runtime turnId rest world
      | (.error _, _) => []

end Answered

/-! The rounds that are written to the transcript. -/

/-- An assistant message for a round, and what has been executed for it. -/
structure Shown where
  message : Json
  executed : List Execution
  deriving DecidableEq, Repr

/-- The name and the arguments of an entry of `tool_calls`. -/
def shownCall (entry : Json) : Json × Json :=
  let function := (entry.dict.get "function").dict
  (function.get "name", function.get "arguments")

/-- The message carries, for every call of the round, what has been executed. -/
def Shown.Carries (shown : Shown) : Prop :=
  (shown.message.dict.get "tool_calls").list.map shownCall =
    shown.executed.map fun execution => (.str execution.1, .str (Json.obj execution.2).dumps)

instance (shown : Shown) : Decidable shown.Carries := by unfold Shown.Carries; infer_instance

section Rounds
variable [CharData] [NumberData] (runtime : AgentRuntime) (turnId : String)

/-- The rounds of `_continue_llm_loop`, and what has been executed of one that is interrupted. -/
def loopRounds : Nat → LLMResponse → List Json → World → List Shown × List Execution
  | 0, _, _, _ => ([], [])
  | remaining + 1, response, messages, world =>
      let calls := response.toolCalls.map callOf
      if calls = [] then ([], [])
      else
        let executed := if runtime.toolsConfigured then answered runtime.tools turnId calls world else []
        match executeRound runtime turnId calls world with
        | (.error _, _) => ([], executed)
        | (.ok results, world) =>
            let messages := roundMessages messages calls results
            match complete runtime world messages with
            | (.error _, _) => ([⟨assistantMessage calls, executed⟩], [])
            | (.ok response, world) =>
                let (rounds, interrupted) := loopRounds remaining response messages world
                (⟨assistantMessage calls, executed⟩ :: rounds, interrupted)

def turnRounds (messages : List Json) (world : World) : List Shown × List Execution :=
  if !runtime.llmConfigured then ([], [])
  else
    match complete runtime world messages with
    | (.error _, _) => ([], [])
    | (.ok response, world) => loopRounds runtime turnId 4 response messages world

/-- The rounds behind the one that a resumption completes. -/
def laterRounds (checkpoint : Dict) (messages : List Json) (world : World) :
    List Shown × List Execution :=
  if !runtime.llmConfigured || messages.isEmpty then ([], [])
  else
    match complete runtime world messages with
    | (.error _, _) => ([], [])
    | (.ok response, world) =>
        match ((checkpoint.get "round_index").or (.int 0)).toInt with
        | .error _ => ([], [])
        | .ok roundIndex =>
            loopRounds runtime turnId (maxRounds - (roundIndex + 1)).toNat response messages world

/-- The rounds that `resume_turn` writes when it executes the pending call; `done` has been
executed of the interrupted round before. -/
def resumedRounds (world : World) (id : Nat) (editedArguments checkpoint : Dict) (done : List Execution) :
    List Shown × List Execution :=
  let turnId := checkpointTurnId checkpoint
  let pending := pendingCall editedArguments checkpoint
  let world := setApproval world id fun approval => { approval with status := .approved }
  if !runtime.toolsConfigured then ([], [])
  else
    match readRound checkpoint pending with
    | .error _ => ([], [])
    | .ok round =>
        let executed := done ++ answeredRound runtime id turnId pending round world
        match resumeRound runtime id turnId pending round world with
        | (.error (.raised _), _) => ([], [])
        | (.error (.asked _ _ _ _ _), _) => ([], executed)
        | (.ok results, world) =>
            match closeRound checkpoint round pending results with
            | .error _ => ([], [])
            | .ok (messages, _) =>
                let written := messages[(checkpoint.get "messages").list.length]?
                let (rounds, interrupted) := laterRounds runtime turnId checkpoint messages world
                (⟨written.getD .null, executed⟩ :: rounds, interrupted)

end Rounds

/-! One turn and its resumptions. -/

structure Resumption where
  approval : Nat
  decision : String
  editedArguments : Dict := []
  response : String := ""
  deriving DecidableEq, Repr

/-- The world, the rounds written by resumptions, and for each approval of the turn what has
been executed of the round that it interrupts. -/
structure TurnState where
  world : World
  rounds : List Shown := []
  pauses : Nat → Option (List Execution) := fun _ => none

section System
variable [CharData] [NumberData] (runtime : AgentRuntime)

def pauseAt (pauses : Nat → Option (List Execution)) (turn : AgentTurnResult) (executed : List Execution) :
    Nat → Option (List Execution) :=
  match turn.status, turn.approvalId with
  | .approvalRequired, some id => Function.update pauses id (some executed)
  | _, _ => pauses

/-- The turn up to its first approval. -/
def startTurn (context : TurnContext) (world : World) (message sessionId turnId : String) : TurnState :=
  let (turn, after) := runTurn runtime context world message sessionId turnId none
  { world := after
    pauses := pauseAt (fun _ => none) turn (turnRounds runtime turnId (turnMessages context message) world).2 }

/-- The arguments with which a decision replaces those of the pending call. -/
def decidedArguments (approval : Approval) (resumption : Resumption) : Dict :=
  match readDecision resumption.decision with
  | some .edit =>
      if resumption.editedArguments = [] then approval.editedArguments else resumption.editedArguments
  | _ => approval.editedArguments

/-- The state in which the pending call is executed. -/
def decidedWorld (world : World) (approval : Approval) (resumption : Resumption) : World :=
  match readDecision resumption.decision with
  | some .edit => setApproval world resumption.approval fun row =>
      { row with editedArguments := decidedArguments approval resumption }
  | _ => world

def Executes (resumption : Resumption) : Prop :=
  readDecision resumption.decision = some .approve ∨ readDecision resumption.decision = some .edit

instance (resumption : Resumption) : Decidable (Executes resumption) := by unfold Executes; infer_instance

/-- One call of `resume_turn` on an approval of the turn; an exception rolls it back. -/
def step (state : TurnState) (resumption : Resumption) : Option TurnState :=
  match state.pauses resumption.approval, state.world.approvals.get? resumption.approval with
  | some done, some approval =>
      match resumeTurn runtime state.world resumption.approval resumption.decision
        resumption.editedArguments resumption.response with
      | (.error _, after) => some { state with world := state.world.rollback after }
      | (.ok turn, after) =>
          let (rounds, interrupted) :=
            if Executes resumption then
              resumedRounds runtime (decidedWorld state.world approval resumption) resumption.approval
                (decidedArguments approval resumption) approval.turnCheckpoint done
            else ([], [])
          some
            { world := after
              rounds := state.rounds ++ rounds
              pauses := pauseAt state.pauses turn interrupted }
  | _, _ => none

end System

/-! Rows that are only added. -/

def Grows (before after : World) : Prop := before.approvals.rows <+: after.approvals.rows

theorem Grows.refl (world : World) : Grows world world := List.prefix_rfl

theorem Grows.trans {first second third : World} (earlier : Grows first second)
    (later : Grows second third) : Grows first third := List.IsPrefix.trans earlier later

theorem Grows.size {before after : World} (grows : Grows before after) :
    before.approvals.size ≤ after.approvals.size := grows.length_le

/-- An approval that has been asked for between the two states. -/
def Fresh (before after : World) (approvalId : Option Nat) : Prop :=
  ∀ id, approvalId = some id → before.approvals.size ≤ id ∧ id < after.approvals.size

theorem Fresh.before {first second third : World} {approvalId : Option Nat} (grows : Grows first second)
    (fresh : Fresh second third approvalId) : Fresh first third approvalId := by
  intro id asked
  have bounds := fresh id asked
  exact ⟨grows.size.trans bounds.1, bounds.2⟩

section Executions
variable [CharData]

theorem execute_grows (tools : ToolRuntime) (world : World) (toolName : String) (arguments : Dict)
    (turnId : String) (approved : Approved) :
    Grows world (execute tools world toolName arguments turnId approved).2 ∧
      ∀ message name approvalId, (execute tools world toolName arguments turnId approved).1 =
        .error (.approvalRequired message name approvalId) →
        Fresh world (execute tools world toolName arguments turnId approved).2 approvalId := by
  have spec := execute_executed tools world toolName arguments turnId approved
  generalize execute tools world toolName arguments turnId approved = step at spec ⊢
  cases spec with
  | succeeded _ _ approvals =>
    refine ⟨by rw [Grows, approvals], ?_⟩
    intro message name approvalId raised
    cases raised
  | raised _ approvals =>
    refine ⟨by rw [Grows, approvals], ?_⟩
    intro message name approvalId raised
    cases raised
  | asked message request approval approvals =>
    rcases approvals with ⟨absent, same⟩ | ⟨made, added⟩
    · refine ⟨by rw [Grows, same], ?_⟩
      intro message name approvalId raised id known
      cases raised
      rw [absent] at known
      cases known
    · refine ⟨by rw [Grows, added]; exact List.prefix_append _ _, ?_⟩
      intro message name approvalId raised id known
      cases raised
      rw [made] at known
      rw [← Option.some.inj known, added, Table.size_insert]
      exact ⟨Nat.le_refl _, Nat.lt_succ_self _⟩

theorem executionOfCall_callOf (call : LLMToolCall) : executionOfCall (callOf call) = executionOf call := by
  rw [executionOfCall, callName_callOf, callArguments_callOf, executionOf]

/-- The round stops at the call, and those before it have been answered. -/
structure Interrupts (world : World) (calls before : List LLMToolCall) (call : LLMToolCall)
    (executed : List Execution) (approvalId : Option Nat) (after : World) : Prop where
  place : before ++ [call] <+: calls
  executed : executed = before.map executionOf
  fresh : Fresh world after approvalId

omit [CharData] in
theorem Interrupts.later {world between after : World} {first call : LLMToolCall}
    {rest before : List LLMToolCall} {executed : List Execution} {approvalId : Option Nat}
    (grows : Grows world between) (stops : Interrupts between rest before call executed approvalId after) :
    Interrupts world (first :: rest) (first :: before) call (executionOf first :: executed) approvalId after where
  place := List.cons_prefix_cons.2 ⟨rfl, stops.place⟩
  executed := congrArg (executionOf first :: ·) stops.executed
  fresh := stops.fresh.before grows

theorem executeToolCalls_answered (tools : ToolRuntime) (turnId : String) (calls : List LLMToolCall)
    (results : List Json) (world : World) :
    Grows world (executeToolCalls tools turnId results (calls.map callOf) world).2 ∧
      match (executeToolCalls tools turnId results (calls.map callOf) world).1 with
      | .ok _ => answered tools turnId (calls.map callOf) world = calls.map executionOf
      | .error stop => ∃ before call, stop.pendingToolCall = callOf call ∧
          stop.pendingIndex = results.length + before.length ∧
          Interrupts world calls before call (answered tools turnId (calls.map callOf) world)
            stop.approvalId (executeToolCalls tools turnId results (calls.map callOf) world).2 := by
  induction calls generalizing results world with
  | nil => exact ⟨Grows.refl world, rfl⟩
  | cons call rest ih =>
    have first := execute_grows tools world (callName (callOf call)) (callArguments (callOf call)) turnId
      (callApproved (callOf call))
    rw [List.map_cons, List.map_cons, executeToolCalls, answered, executionOfCall_callOf]
    generalize execute tools world (callName (callOf call)) (callArguments (callOf call)) turnId
      (callApproved (callOf call)) = step at first ⊢
    obtain ⟨outcome, between⟩ := step
    have continues : ∀ more : Json,
        Grows world (executeToolCalls tools turnId (results ++ [more]) (rest.map callOf) between).2 ∧
        match (executeToolCalls tools turnId (results ++ [more]) (rest.map callOf) between).1 with
        | .ok _ => executionOf call :: answered tools turnId (rest.map callOf) between =
            executionOf call :: rest.map executionOf
        | .error stop => ∃ before other, stop.pendingToolCall = callOf other ∧
            stop.pendingIndex = results.length + before.length ∧
            Interrupts world (call :: rest) before other
              (executionOf call :: answered tools turnId (rest.map callOf) between) stop.approvalId
              (executeToolCalls tools turnId (results ++ [more]) (rest.map callOf) between).2 := by
      intro more
      have later := ih (results ++ [more]) between
      refine ⟨first.1.trans later.1, ?_⟩
      generalize executeToolCalls tools turnId (results ++ [more]) (rest.map callOf) between = ran at later ⊢
      obtain ⟨ended, after⟩ := ran
      cases ended with
      | ok finished => exact congrArg (executionOf call :: ·) later.2
      | error stop =>
        obtain ⟨before, other, pending, index, stops⟩ := later.2
        refine ⟨call :: before, other, pending, ?_, stops.later first.1⟩
        simp only [index, List.length_append, List.length_cons, List.length_nil]
        omega
    cases outcome with
    | ok report => exact continues _
    | error failure =>
      cases failure with
      | raised error => exact continues _
      | approvalRequired message toolName approvalId =>
        refine ⟨first.1, [], call, rfl, rfl, ?_⟩
        exact ⟨List.prefix_append [call] rest, rfl, first.2 message toolName approvalId rfl⟩

/-- The calls of a round as the checkpoint has them. -/
def rawCalls (calls : List LLMToolCall) : List Json := calls.map fun call => .obj (callOf call)

variable (runtime : AgentRuntime)

theorem resumeCalls_answered (turnId : String) (calls : List LLMToolCall) (index : Nat)
    (results : List Json) (world : World) :
    Grows world (resumeCalls runtime turnId index results (rawCalls calls) world).2 ∧
      match (resumeCalls runtime turnId index results (rawCalls calls) world).1 with
      | .ok _ => answeredLater runtime turnId (rawCalls calls) world = calls.map executionOf
      | .error (.raised _) => True
      | .error (.asked pending place _ _ approvalId) => ∃ before call, pending = callOf call ∧
          place = ((index + before.length : Nat) : Int) ∧
          Interrupts world calls before call (answeredLater runtime turnId (rawCalls calls) world) approvalId
            (resumeCalls runtime turnId index results (rawCalls calls) world).2 := by
  induction calls generalizing index results world with
  | nil => exact ⟨Grows.refl world, rfl⟩
  | cons call rest ih =>
    have first := execute_grows runtime.tools world (callName (callOf call)) (callArguments (callOf call))
      turnId (callApproved (callOf call))
    rw [rawCalls, List.map_cons, resumeCalls, answeredLater]
    simp only [Json.receiver, executionOfCall_callOf]
    generalize execute runtime.tools world (callName (callOf call)) (callArguments (callOf call)) turnId
      (callApproved (callOf call)) = step at first ⊢
    obtain ⟨outcome, between⟩ := step
    cases outcome with
    | error failure =>
      cases failure with
      | raised error => exact ⟨first.1, trivial⟩
      | approvalRequired message toolName approvalId =>
        refine ⟨first.1, [], call, rfl, rfl, ?_⟩
        exact ⟨List.prefix_append [call] rest, rfl, first.2 message toolName approvalId rfl⟩
    | ok report =>
      have later := ih (index + 1) (results ++ [.obj report]) between
      refine ⟨first.1.trans later.1, ?_⟩
      simp only [rawCalls, Int.natCast_add, Int.cast_ofNat_Int] at later ⊢
      generalize resumeCalls runtime turnId ((index : Int) + 1) (results ++ [.obj report])
        (rest.map fun call => .obj (callOf call)) between = ran at later ⊢
      obtain ⟨ended, after⟩ := ran
      cases ended with
      | ok finished => exact congrArg (executionOf call :: ·) later.2
      | error stop =>
        cases stop with
        | raised error => trivial
        | asked pending place results message approvalId =>
          obtain ⟨before, other, same, spot, stops⟩ := later.2
          refine ⟨call :: before, other, same, ?_, stops.later first.1⟩
          rw [spot, List.length_cons]
          omega

/-- The rest of a round of the model, whose pending call may have been edited. -/
theorem resumeRound_answered (id : Nat) (turnId : String) (pending : LLMToolCall) {round : Round}
    {before rest : List LLMToolCall} {call : LLMToolCall}
    (calls : round.toolCalls = rawCalls (before ++ call :: rest))
    (index : round.pendingIndex = before.length) (world : World) :
    Grows world (resumeRound runtime id turnId (callOf pending) round world).2 ∧
      match (resumeRound runtime id turnId (callOf pending) round world).1 with
      | .ok _ => answeredRound runtime id turnId (callOf pending) round world =
          executionOf pending :: rest.map executionOf
      | .error (.raised _) => True
      | .error (.asked next place _ _ approvalId) =>
          (next = callOf pending ∧ place = before.length ∧
            answeredRound runtime id turnId (callOf pending) round world = [] ∧
            Fresh world (resumeRound runtime id turnId (callOf pending) round world).2 approvalId) ∨
          ∃ more other, next = callOf other ∧ place = ((before.length + 1 + more.length : Nat) : Int) ∧
            more ++ [other] <+: rest ∧
            answeredRound runtime id turnId (callOf pending) round world =
              executionOf pending :: more.map executionOf ∧
            Fresh world (resumeRound runtime id turnId (callOf pending) round world).2 approvalId := by
  have slice : sliceFrom round.toolCalls round.pendingIndex = .obj (callOf call) :: rawCalls rest := by
    rw [calls, index, sliceFrom_natCast, rawCalls, List.map_append, List.drop_append_of_le_length (by simp),
      List.drop_of_length_le (by simp), List.nil_append, List.map_cons]
    rfl
  have first := execute_grows runtime.tools world (callName (callOf pending)) (callArguments (callOf pending))
    turnId (.stored id)
  rw [resumeRound, answeredRound, slice]
  simp only [executionOfCall_callOf]
  generalize execute runtime.tools world (callName (callOf pending)) (callArguments (callOf pending)) turnId
    (.stored id) = step at first ⊢
  obtain ⟨outcome, between⟩ := step
  cases outcome with
  | error failure =>
    cases failure with
    | raised error => exact ⟨first.1, trivial⟩
    | approvalRequired message toolName approvalId =>
      exact ⟨first.1, .inl ⟨rfl, index, rfl, first.2 message toolName approvalId rfl⟩⟩
  | ok report =>
    have later := resumeCalls_answered runtime turnId rest (before.length + 1)
      (round.completedResults ++ [.obj report]) between
    rw [index]
    refine ⟨first.1.trans later.1, ?_⟩
    simp only [Int.natCast_add, Int.cast_ofNat_Int] at later ⊢
    generalize resumeCalls runtime turnId ((before.length : Int) + 1)
      (round.completedResults ++ [.obj report]) (rawCalls rest) between = ran at later ⊢
    obtain ⟨ended, after⟩ := ran
    cases ended with
    | ok finished => exact congrArg (executionOf pending :: ·) later.2
    | error stop =>
      cases stop with
      | raised error => trivial
      | asked next place results message approvalId =>
        obtain ⟨more, other, same, spot, stops⟩ := later.2
        refine .inr ⟨more, other, same, spot, stops.place, ?_, stops.fresh.before first.1⟩
        exact congrArg (executionOf pending :: ·) stops.executed

end Executions

/-! What is shown of a call, and the rounds of the loop. -/

/-- The call of the round and its execution agree in what the transcript shows. -/
def Shows (call : LLMToolCall) (execution : Execution) : Prop :=
  call.name = execution.1 ∧ (call.arguments.or (.obj [])).dumps = (Json.obj execution.2).dumps

/-- The approval pauses a round whose calls so far have been executed as they are shown. -/
structure StopKept (stop : LoopInterrupt) (done : List Execution) (before rest : List LLMToolCall)
    (call asking : LLMToolCall) : Prop where
  calls : stop.roundToolCalls = rawCalls (before ++ call :: rest)
  pending : stop.interrupt.pendingToolCall = callOf asking
  name : asking.name = call.name
  index : stop.interrupt.pendingIndex = before.length
  executed : List.Forall₂ Shows before done
  rest : ∀ other ∈ rest, Shows other (executionOf other)

/-- The pending call asks once more. -/
theorem StopKept.again {stop : LoopInterrupt} {done : List Execution} {before rest : List LLMToolCall}
    {call asking pending : LLMToolCall} (kept : StopKept stop done before rest call asking)
    (named : pending.name = asking.name) (toolResults results : List Json) :
    StopKept (laterInterrupt stop toolResults results (callOf pending) before.length) done before rest call
      pending :=
  ⟨kept.calls, rfl, named.trans kept.name, rfl, kept.executed, kept.rest⟩

theorem forall₂_executionOf {calls : List LLMToolCall}
    (shown : ∀ call ∈ calls, Shows call (executionOf call)) :
    List.Forall₂ Shows calls (calls.map executionOf) := by
  rw [List.forall₂_map_right_iff, List.forall₂_same]
  exact shown

/-- A later call asks, after the pending one has been executed as it is shown. -/
theorem StopKept.later {stop : LoopInterrupt} {done : List Execution} {before rest more others : List LLMToolCall}
    {call asking other : LLMToolCall} {execution : Execution}
    (kept : StopKept stop done before rest call asking) (entry : Shows call execution)
    (split : more ++ other :: others = rest) (toolResults results : List Json) :
    StopKept (laterInterrupt stop toolResults results (callOf other) (before.length + 1 + more.length))
      (done ++ execution :: more.map executionOf) (before ++ call :: more) others other other where
  calls := by
    rw [List.append_assoc, List.cons_append, split]
    exact kept.calls
  pending := rfl
  name := rfl
  index := by
    rw [List.length_append, List.length_cons]
    show before.length + 1 + more.length = before.length + (more.length + 1)
    omega
  executed := by
    have shown : ∀ call ∈ more, Shows call (executionOf call) :=
      fun call member => kept.rest call (split ▸ List.mem_append_left _ member)
    exact List.rel_append kept.executed (.cons entry (forall₂_executionOf shown))
  rest call member := kept.rest call (split ▸ List.mem_append_right _ (List.mem_cons_of_mem _ member))

section Loop
variable [CharData]

theorem entries_assistantMessage (calls : List LLMToolCall) :
    ((assistantMessage (calls.map callOf)).dict.get "tool_calls").list.map shownCall =
      calls.map fun call => (.str call.name, .str (call.arguments.or (.obj [])).dumps) := by
  have entries : ((assistantMessage (calls.map callOf)).dict.get "tool_calls").list =
      (calls.map callOf).mapIdx assistantToolCall := rfl
  rw [entries]
  apply List.ext_getElem?
  intro index
  simp only [List.getElem?_map, List.getElem?_mapIdx, Option.map_map]
  congr 1
  funext call
  have shown : shownCall (assistantToolCall index (callOf call)) =
      (.str (callName (callOf call)), .str (call.arguments.or (.obj [])).dumps) := rfl
  rw [Function.comp_apply, Function.comp_apply, shown, callName_callOf]

theorem carries_assistantMessage {calls : List LLMToolCall} {executed : List Execution}
    (shows : List.Forall₂ Shows calls executed) :
    Shown.Carries ⟨assistantMessage (calls.map callOf), executed⟩ := by
  rw [Shown.Carries, entries_assistantMessage]
  induction shows with
  | nil => rfl
  | cons here _ ih => rw [List.map_cons, List.map_cons, ih, here.1, here.2]

theorem executeRound_answered (runtime : AgentRuntime) (turnId : String) (calls : List LLMToolCall)
    (world : World) :
    Grows world (executeRound runtime turnId (calls.map callOf) world).2 ∧
      match (executeRound runtime turnId (calls.map callOf) world).1 with
      | .ok _ => runtime.toolsConfigured = true →
          answered runtime.tools turnId (calls.map callOf) world = calls.map executionOf
      | .error stop => runtime.toolsConfigured = true ∧ ∃ before call, stop.pendingToolCall = callOf call ∧
          stop.pendingIndex = before.length ∧
          Interrupts world calls before call (answered runtime.tools turnId (calls.map callOf) world)
            stop.approvalId (executeRound runtime turnId (calls.map callOf) world).2 := by
  rw [executeRound]
  by_cases configured : runtime.toolsConfigured = true
  · rw [if_pos configured]
    have ran := executeToolCalls_answered runtime.tools turnId calls [] world
    refine ⟨ran.1, ?_⟩
    generalize executeToolCalls runtime.tools turnId [] (calls.map callOf) world = ended at ran ⊢
    obtain ⟨outcome, after⟩ := ended
    cases outcome with
    | ok results => exact fun _ => ran.2
    | error stop =>
      obtain ⟨before, call, pending, index, stops⟩ := ran.2
      rw [List.length_nil, Nat.zero_add] at index
      exact ⟨configured, before, call, pending, index, stops⟩
  · rw [if_neg configured]
    exact ⟨Grows.refl world, fun chosen => absurd chosen configured⟩

variable [NumberData]

/-- The model writes arguments that the transcript shows as they are executed. -/
def RepliesShown (runtime : AgentRuntime) : Prop :=
  ∀ world messages response, runtime.reply world messages >>= readReply = .ok response →
    ∀ call ∈ response.toolCalls, Shows call (executionOf call)

theorem complete_shown {runtime : AgentRuntime} (shown : RepliesShown runtime) {world after : World}
    {messages : List Json} {response : LLMResponse}
    (completed : complete runtime world messages = (.ok response, after)) :
    ∀ call ∈ response.toolCalls, Shows call (executionOf call) :=
  shown _ messages response (congrArg Prod.fst completed)

theorem complete_grows (runtime : AgentRuntime) (world : World) (messages : List Json) :
    Grows world (complete runtime world messages).2 := List.prefix_rfl

/-- What the loop writes, and where it stops. -/
def LoopKept (runtime : AgentRuntime) (world : World) (rounds : List Shown) (interrupted : List Execution)
    (ended : Except LoopInterrupt LoopOutput × World) : Prop :=
  Grows world ended.2 ∧ (runtime.toolsConfigured = true → ∀ shown ∈ rounds, shown.Carries) ∧
    ∀ stop, ended.1 = .error stop →
      (∃ before rest call, StopKept stop interrupted before rest call call) ∧
      Fresh world ended.2 stop.interrupt.approvalId

theorem loopRounds_kept {runtime : AgentRuntime} (replies : RepliesShown runtime) (turnId : String)
    (remaining : Nat) {response : LLMResponse}
    (kept : ∀ call ∈ response.toolCalls, Shows call (executionOf call))
    (messages allCalls toolResults : List Json) (status : LlmStatus) (world : World) :
    LoopKept runtime world (loopRounds runtime turnId remaining response messages world).1
      (loopRounds runtime turnId remaining response messages world).2
      (continueLlmLoop runtime turnId remaining response messages allCalls toolResults status world) := by
  induction remaining generalizing response messages allCalls toolResults status world with
  | zero => exact ⟨Grows.refl world, fun _ => by simp [loopRounds], fun stop stopped => by cases stopped⟩
  | succ remaining ih =>
    rw [loopRounds, continueLlmLoop]
    by_cases silent : response.toolCalls.map callOf = []
    · simp only [silent, if_true]
      exact ⟨Grows.refl world, fun _ => by simp, fun stop stopped => by cases stopped⟩
    · have ran := executeRound_answered runtime turnId response.toolCalls world
      simp only [silent, if_false]
      generalize executeRound runtime turnId (response.toolCalls.map callOf) world = round at ran ⊢
      obtain ⟨outcome, between⟩ := round
      cases outcome with
      | error stop =>
        obtain ⟨grows, configured, before, call, pending, index, stops⟩ := ran
        obtain ⟨rest, split⟩ := stops.place
        have calls : response.toolCalls = before ++ call :: rest := by
          rw [← split, List.append_assoc, List.singleton_append]
        refine ⟨grows, fun _ => by simp, ?_⟩
        intro interrupt stopped
        cases stopped
        refine ⟨⟨before, rest, call, ?_, pending, rfl, index, ?_, ?_⟩, stops.fresh⟩
        · rw [rawCalls, ← calls, List.map_map]
          rfl
        · simp only [configured, if_true, stops.executed]
          exact forall₂_executionOf fun other member => kept other (calls ▸ List.mem_append_left _ member)
        · exact fun other member =>
            kept other (calls ▸ List.mem_append_right _ (List.mem_cons_of_mem _ member))
      | ok results =>
        obtain ⟨grows, answers⟩ := ran
        have carries : runtime.toolsConfigured = true →
            Shown.Carries ⟨assistantMessage (response.toolCalls.map callOf),
              if runtime.toolsConfigured = true then
                answered runtime.tools turnId (response.toolCalls.map callOf) world else []⟩ := by
          intro configured
          rw [if_pos configured, answers configured]
          exact carries_assistantMessage (forall₂_executionOf kept)
        have asked := complete_grows runtime between
          (roundMessages messages (response.toolCalls.map callOf) results)
        have shown := @complete_shown _ _ _ replies between
          (complete runtime between (roundMessages messages (response.toolCalls.map callOf) results)).2
          (roundMessages messages (response.toolCalls.map callOf) results)
        simp only
        generalize complete runtime between (roundMessages messages (response.toolCalls.map callOf) results) =
          replied at asked shown ⊢
        obtain ⟨reply, after⟩ := replied
        cases reply with
        | error failure =>
          refine ⟨grows.trans asked, ?_, fun stop stopped => by cases stopped⟩
          intro configured round member
          rw [List.mem_singleton.1 member]
          exact carries configured
        | ok next =>
          have later := ih (shown rfl) (roundMessages messages (response.toolCalls.map callOf) results)
            (allCalls ++ (numbered (response.toolCalls.map callOf)).map .obj) (toolResults ++ results)
            .completedWithTools after
          refine ⟨(grows.trans asked).trans later.1, ?_, ?_⟩
          · intro configured
            rw [List.forall_mem_cons]
            exact ⟨carries configured, later.2.1 configured⟩
          · intro stop stopped
            have interrupted := later.2.2 stop stopped
            exact ⟨interrupted.1, interrupted.2.before (grows.trans asked)⟩

end Loop

/-! The checkpoints of the turn. -/

/-- The checkpoints that are stored stay as they are. -/
def Checkpointed (before after : World) : Prop :=
  ∀ id row, before.approvals.get? id = some row →
    ∃ next, after.approvals.get? id = some next ∧ next.turnCheckpoint = row.turnCheckpoint

theorem Grows.checkpointed {before after : World} (grows : Grows before after) :
    Checkpointed before after := by
  intro id row found
  obtain ⟨bound, same⟩ := List.getElem?_eq_some_iff.1 found
  exact ⟨row, by rw [Table.get?, ← same]; exact List.prefix_iff_getElem?.1 grows id bound, rfl⟩

theorem Checkpointed.trans {first second third : World} (earlier : Checkpointed first second)
    (later : Checkpointed second third) : Checkpointed first third := by
  intro id row found
  obtain ⟨between, known, same⟩ := earlier id row found
  obtain ⟨last, found, kept⟩ := later id between known
  exact ⟨last, found, kept.trans same⟩

theorem setApproval_checkpointed (world : World) (id : Nat) {change : Approval → Approval}
    (same : ∀ approval, (change approval).turnCheckpoint = approval.turnCheckpoint) :
    Checkpointed world (setApproval world id change) := by
  intro other row found
  rw [setApproval, Table.get?_modify, found]
  by_cases here : other = id
  · rw [if_pos here]
    exact ⟨change row, rfl, same row⟩
  · rw [if_neg here]
    exact ⟨row, rfl, rfl⟩

theorem saveApprovalCheckpoint_checkpointed {world after : World} {approvalId : Option Nat}
    (kept : Checkpointed world after) (fresh : Fresh world after approvalId) (checkpoint : Dict) :
    Checkpointed world (saveApprovalCheckpoint after approvalId checkpoint) := by
  cases approvalId with
  | none => exact kept
  | some asked =>
    intro id row found
    obtain ⟨next, known, same⟩ := kept id row found
    have other : id ≠ asked := by
      have bound := Table.get?_lt found
      have later := (fresh asked rfl).1
      omega
    rw [saveApprovalCheckpoint, Table.get?_modify, if_neg other]
    exact ⟨next, known, same⟩

/-- An approval of the turn, with what has been executed of its round. -/
def PauseKept (world : World) (id : Nat) (done : List Execution) : Prop :=
  ∃ row turnId stop before rest call asking, world.approvals.get? id = some row ∧
    Stores turnId row.turnCheckpoint stop ∧ StopKept stop done before rest call asking

theorem PauseKept.checkpointed {before after : World} {id : Nat} {done : List Execution}
    (kept : PauseKept before id done) (same : Checkpointed before after) : PauseKept after id done := by
  obtain ⟨row, turnId, stop, earlier, rest, call, asking, found, stored, stops⟩ := kept
  obtain ⟨next, known, checkpoint⟩ := same id row found
  exact ⟨next, turnId, stop, earlier, rest, call, asking, known, checkpoint ▸ stored, stops⟩

theorem pauseKept_saved {world after : World} {id : Nat} (fresh : Fresh world after (some id))
    {turnId : String} {checkpoint : Dict} {stop : LoopInterrupt} {done : List Execution}
    {before rest : List LLMToolCall} {call asking : LLMToolCall} (stored : Stores turnId checkpoint stop)
    (kept : StopKept stop done before rest call asking) :
    PauseKept (saveApprovalCheckpoint after (some id) checkpoint) id done := by
  have inside := (fresh id rfl).2
  rw [Table.size] at inside
  have known : after.approvals.get? id = some (after.approvals.rows.get ⟨id, inside⟩) :=
    List.getElem?_eq_getElem inside
  rw [PauseKept, saveApprovalCheckpoint, Table.get?_modify, if_pos rfl, known]
  exact ⟨_, turnId, stop, before, rest, call, asking, rfl, stored, kept⟩

/-- A resumption leaves the stored checkpoints, rounds that carry what was executed, and the
pause that it may end in. -/
structure TurnKept (before : World) (logged : List Shown × List Execution) (turn : AgentTurnResult)
    (after : World) : Prop where
  checkpoints : Checkpointed before after
  rounds : ∀ shown ∈ logged.1, shown.Carries
  pause : ∀ id, turn.status = .approvalRequired → turn.approvalId = some id → PauseKept after id logged.2

/-- A resumption that pauses keeps the pause that it saves. -/
theorem pausedTurn_kept {world between : World} {approvalId : Option Nat}
    (checkpoints : Checkpointed world between) (fresh : Fresh world between approvalId)
    {turnId : String} {checkpoint : Dict} {stop : LoopInterrupt} {done : List Execution}
    {before rest : List LLMToolCall} {call asking : LLMToolCall} (stored : Stores turnId checkpoint stop)
    (kept : StopKept stop done before rest call asking) {rounds : List Shown}
    (carries : ∀ shown ∈ rounds, shown.Carries) (asked : Dict) (toolResults : List Json) :
    TurnKept world (rounds, done) (pausedTurn turnId approvalId asked toolResults)
      (saveApprovalCheckpoint between approvalId checkpoint) := by
  refine ⟨saveApprovalCheckpoint_checkpointed checkpoints fresh checkpoint, carries, ?_⟩
  intro id _ known
  rw [pausedTurn] at known
  simp only at known
  rw [known] at fresh ⊢
  exact pauseKept_saved fresh stored kept

section Resume
variable [CharData]

/-- The pending call with the arguments that a decision gives it. -/
def decidedCall (editedArguments : Dict) (call : LLMToolCall) : LLMToolCall :=
  { call with arguments := .obj (if editedArguments = [] then call.arguments.dict else editedArguments) }

omit [CharData] in
theorem pendingCall_stored {turnId : String} {checkpoint : Dict} {stop : LoopInterrupt} {call : LLMToolCall}
    (stored : Stores turnId checkpoint stop) (pending : stop.interrupt.pendingToolCall = callOf call)
    (editedArguments : Dict) :
    pendingCall editedArguments checkpoint = callOf (decidedCall editedArguments call) := by
  rw [pendingCall, checkpointPending_eq stored, pending]
  rfl

omit [CharData] in
theorem shows_decidedCall (editedArguments : Dict) (call : LLMToolCall) :
    Shows (decidedCall editedArguments call) (executionOf (decidedCall editedArguments call)) := by
  refine ⟨rfl, ?_⟩
  rw [decidedCall, Json.or_obj_nil]
  rfl

/-- The arguments that the stored round shows for the pending call. -/
def storedArguments (checkpoint : Dict) : Json :=
  match checkpoint.get "pending_index" with
  | .int index =>
      match (checkpoint.get "round_tool_calls").list[index.toNat]? with
      | some entry => (entry.dict.get "arguments").or (.obj [])
      | none => .null
  | _ => .null

/-- The pending call is executed with the arguments that the stored round shows for it. -/
def EntryKept (editedArguments checkpoint : Dict) : Prop :=
  (storedArguments checkpoint).dumps =
    (Json.obj (callArguments (pendingCall editedArguments checkpoint))).dumps

instance (editedArguments checkpoint : Dict) : Decidable (EntryKept editedArguments checkpoint) := by
  unfold EntryKept
  infer_instance

omit [CharData] in
theorem storedArguments_eq {turnId : String} {checkpoint : Dict} {stop : LoopInterrupt} {done : List Execution}
    {before rest : List LLMToolCall} {call asking : LLMToolCall} (stored : Stores turnId checkpoint stop)
    (kept : StopKept stop done before rest call asking) :
    storedArguments checkpoint = call.arguments.or (.obj []) := by
  have entry : (rawCalls (before ++ call :: rest))[before.length]? = some (.obj (callOf call)) := by
    simp [rawCalls]
  rw [storedArguments, stored.pendingIndex, stored.roundToolCalls]
  simp only [Json.list, kept.index, kept.calls, Int.toNat_natCast, entry]
  rfl

variable [NumberData] (runtime : AgentRuntime)

/-- A later call of the round asks for an approval as well. -/
def asksLater (world : World) (id : Nat) (editedArguments checkpoint : Dict) : Bool :=
  let pending := pendingCall editedArguments checkpoint
  match readRound checkpoint pending with
  | .error _ => false
  | .ok round =>
      match resumeRound runtime id (checkpointTurnId checkpoint) pending round
        (setApproval world id fun approval => { approval with status := .approved }) with
      | (.error (.asked _ index _ _ _), _) => index != round.pendingIndex
      | _ => false

variable {runtime}

omit [CharData] in
theorem readRound_stored {turnId : String} {checkpoint pending : Dict} {stop : LoopInterrupt} {round : Round}
    (stored : Stores turnId checkpoint stop) (some : stop.roundToolCalls ≠ [])
    (read : readRound checkpoint pending = .ok round) :
    round.toolCalls = stop.roundToolCalls ∧ round.pendingIndex = stop.interrupt.pendingIndex := by
  have present : (Json.arr stop.roundToolCalls).truthy = true := by simpa [Json.truthy] using some
  simp only [readRound, stored.roundToolCalls, stored.pendingIndex, stored.completedResults,
    stored.toolResults, Json.or_of_truthy present, Json.or_arr_nil, Json.or_int_zero, Json.toList, Json.toInt,
    bind, Except.bind] at read
  cases marked : markerCount stop.toolResults with
  | error error => rw [marked] at read; cases read
  | ok marker =>
    rw [marked] at read
    cases read
    exact ⟨rfl, rfl⟩

omit [CharData] [NumberData] in
theorem markResumed_checkpointed {before after : World} (kept : Checkpointed before after) (id : Nat)
    (decision : Decision) : Checkpointed before (setApproval after id (markResumed decision)) :=
  kept.trans (setApproval_checkpointed after id fun _ => rfl)

theorem resumeLoop_kept (replies : RepliesShown runtime) (configured : runtime.toolsConfigured = true)
    {turnId : String} {checkpoint : Dict} {stop : LoopInterrupt} (stored : Stores turnId checkpoint stop)
    (world : World) (id : Nat) (decision : Decision) (messages allCalls toolResults : List Json)
    {turn : AgentTurnResult} {after : World}
    (ended : resumeLoop runtime world id decision turnId checkpoint messages allCalls toolResults =
      (.ok turn, after)) :
    TurnKept world (laterRounds runtime turnId checkpoint messages world) turn after := by
  have finished : ∀ between, Checkpointed world between → ∀ status loop,
      TurnKept world ([], [])
        (completedTurn turnId (.str (fallbackAnswer 0 0 0 toolResults.length)) status allCalls toolResults loop)
        (setApproval between id (markResumed decision)) := by
    intro between kept status loop
    exact ⟨markResumed_checkpointed kept id decision, by simp, fun id asked => by cases asked⟩
  rw [resumeLoop] at ended
  rw [laterRounds]
  by_cases idle : (!runtime.llmConfigured || messages.isEmpty) = true
  · rw [if_pos idle] at ended ⊢
    cases ended
    exact finished world (Grows.refl world).checkpointed _ _
  · rw [if_neg idle] at ended ⊢
    have asked := complete_grows runtime world messages
    have shown := @complete_shown _ _ _ replies world (complete runtime world messages).2 messages
    simp only [stored.roundIndex, Json.or_int_zero, Json.toInt] at ended ⊢
    generalize complete runtime world messages = replied at ended asked shown ⊢
    obtain ⟨reply, between⟩ := replied
    cases reply with
    | error failure =>
      cases ended
      exact finished between asked.checkpointed _ _
    | ok response =>
      simp only [loopFrom] at ended ⊢
      have kept := loopRounds_kept replies turnId (maxRounds - (stop.roundIndex + 1)).toNat (shown rfl)
        messages allCalls toolResults (if toolResults = [] then .completed else .completedWithTools) between
      generalize loopRounds runtime turnId (maxRounds - (stop.roundIndex + 1)).toNat response messages between =
        logged at kept ⊢
      generalize continueLlmLoop runtime turnId _ _ _ _ _ _ between = looped at ended kept
      obtain ⟨outcome, last⟩ := looped
      obtain ⟨grows, rounds, stops⟩ := kept
      have checkpoints := (Grows.trans asked grows).checkpointed
      cases outcome with
      | ok output =>
        cases ended
        exact ⟨markResumed_checkpointed checkpoints id decision, rounds configured, fun id asked => by cases asked⟩
      | error interrupt =>
        cases ended
        obtain ⟨⟨before, rest, call, saved⟩, fresh⟩ := stops interrupt rfl
        have later := fresh.before asked
        exact pausedTurn_kept checkpoints later (loopCheckpoint_stores stored interrupt) saved
          (rounds configured) _ _

omit [NumberData] in
theorem closeRound_shown {turnId : String} {checkpoint : Dict} {stop : LoopInterrupt}
    (stored : Stores turnId checkpoint stop) {before rest : List LLMToolCall} {call : LLMToolCall}
    {round : Round} (calls : round.toolCalls = rawCalls (before ++ call :: rest))
    (index : round.pendingIndex = before.length) (other : LLMToolCall) {results messages allCalls : List Json}
    (closed : closeRound checkpoint round (callOf other) results = .ok (messages, allCalls)) :
    messages[(checkpoint.get "messages").list.length]? =
      some (assistantMessage ((before ++ other :: rest).map callOf)) := by
  rw [closeRound_replaced stored calls index] at closed
  by_cases short : (before ++ other :: rest).length < results.length
  · rw [if_pos short] at closed
    cases closed
  · rw [if_neg short] at closed
    cases closed
    rw [stored.messages, Json.list, roundMessages]
    simp

/-- The resumption of a round: it is completed, it stops again at the pending call, or a later
call asks, and then the stored entry has to be the one that was executed. -/
theorem executeTurn_kept (replies : RepliesShown runtime) {turnId : String} {world : World} {id : Nat}
    {editedArguments checkpoint : Dict} {decision : Decision} {stop : LoopInterrupt} {done : List Execution}
    {before rest : List LLMToolCall} {call asking : LLMToolCall} (stored : Stores turnId checkpoint stop)
    (kept : StopKept stop done before rest call asking)
    (guarded : asksLater runtime world id editedArguments checkpoint = true → EntryKept editedArguments checkpoint)
    {turn : AgentTurnResult} {after : World}
    (executed : executeTurn runtime world id editedArguments checkpoint decision = (.ok turn, after)) :
    TurnKept world (resumedRounds runtime world id editedArguments checkpoint done) turn after := by
  have approved : Checkpointed world (setApproval world id fun approval => { approval with status := .approved }) :=
    setApproval_checkpointed world id fun _ => rfl
  have size : (setApproval world id fun approval => { approval with status := .approved }).approvals.size =
      world.approvals.size := Table.size_modify _ _ _
  rw [executeTurn, checkpointTurnId_eq stored, pendingCall_stored stored kept.pending] at executed
  rw [asksLater, checkpointTurnId_eq stored, EntryKept, storedArguments_eq stored kept,
    pendingCall_stored stored kept.pending] at guarded
  rw [resumedRounds, checkpointTurnId_eq stored, pendingCall_stored stored kept.pending]
  generalize setApproval world id (fun approval => { approval with status := .approved }) = begun at *
  generalize decided : decidedCall editedArguments asking = pending at *
  have shows : Shows pending (executionOf pending) := decided ▸ shows_decidedCall editedArguments asking
  simp only at executed guarded ⊢
  cases configured : runtime.toolsConfigured with
  | false =>
    simp only [configured, Bool.not_false, if_true] at executed
    cases executed
  | true =>
    simp only [configured, Bool.not_true, Bool.false_eq_true, if_false] at executed ⊢
    cases read : readRound checkpoint (callOf pending) with
    | error error =>
      rw [read] at executed
      cases executed
    | ok round =>
      simp only [read] at executed guarded ⊢
      have some : stop.roundToolCalls ≠ [] := by simp [kept.calls, rawCalls]
      obtain ⟨toolCalls, index⟩ := readRound_stored stored some read
      rw [kept.calls] at toolCalls
      rw [kept.index] at index
      have ran := resumeRound_answered runtime id turnId pending toolCalls index begun
      generalize answeredRound runtime id turnId (callOf pending) round begun = answers at ran ⊢
      generalize resumeRound runtime id turnId (callOf pending) round begun = resumed at executed guarded ran ⊢
      obtain ⟨outcome, between⟩ := resumed
      obtain ⟨grows, ran⟩ := ran
      have checkpoints := approved.trans grows.checkpointed
      cases outcome with
      | error stopped =>
        cases stopped with
        | raised error => cases executed
        | asked next place results message approvalId =>
          cases executed
          rcases ran with ⟨rfl, rfl, rfl, fresh⟩ | ⟨more, other, rfl, rfl, within, rfl, fresh⟩
          · rw [Fresh, size] at fresh
            rw [List.append_nil]
            exact pausedTurn_kept checkpoints fresh
              (roundCheckpoint_stores stored _ results (callOf pending) before.length)
              (kept.again (decided ▸ rfl) _ results) (by simp) _ _
          · rw [Fresh, size] at fresh
            obtain ⟨others, split⟩ := within
            rw [List.append_assoc, List.singleton_append] at split
            have entry : Shows call (executionOf pending) := by
              refine ⟨?_, ?_⟩
              · rw [← kept.name, ← decided]
                rfl
              · have moved : (((before.length + 1 + more.length : Nat) : Int) != round.pendingIndex) = true := by
                  rw [index, bne_iff_ne]
                  omega
                have same := guarded moved
                rwa [callArguments_callOf] at same
            exact pausedTurn_kept checkpoints fresh
              (roundCheckpoint_stores stored _ results (callOf other) (before.length + 1 + more.length))
              (kept.later entry split _ results) (by simp) _ _
      | ok results =>
        simp only at executed ⊢
        cases closed : closeRound checkpoint round (callOf pending) results with
        | error error =>
          rw [closed] at executed
          cases executed
        | ok closing =>
          obtain ⟨messages, allCalls⟩ := closing
          simp only [closed] at executed ⊢
          have written := closeRound_shown stored toolCalls index pending closed
          have later := resumeLoop_kept replies configured stored between id decision messages allCalls
            (round.priorResults ++ results) executed
          refine ⟨checkpoints.trans later.checkpoints, ?_, later.pause⟩
          rw [List.forall_mem_cons]
          refine ⟨?_, later.rounds⟩
          rw [written, ran]
          exact carries_assistantMessage (List.rel_append kept.executed
            (.cons shows (forall₂_executionOf kept.rest)))

end Resume

/-! The turn over all its resumptions. -/

section Turn
variable [CharData] [NumberData]

/-- The resumption leaves the stored entry of the pending call right, or completes its round. -/
def ShownAsExecuted (runtime : AgentRuntime) (state : TurnState) (resumption : Resumption) : Prop :=
  ∀ approval ∈ state.world.approvals.get? resumption.approval, Executes resumption →
    asksLater runtime (decidedWorld state.world approval resumption) resumption.approval
        (decidedArguments approval resumption) approval.turnCheckpoint = true →
      EntryKept (decidedArguments approval resumption) approval.turnCheckpoint

instance (runtime : AgentRuntime) (state : TurnState) (resumption : Resumption) :
    Decidable (ShownAsExecuted runtime state resumption) := by
  unfold ShownAsExecuted
  infer_instance

/-- Every pause of the turn is kept, and every round that was written carries its executions. -/
structure TurnState.Consistent (state : TurnState) : Prop where
  pauses : ∀ id done, state.pauses id = some done → PauseKept state.world id done
  rounds : ∀ shown ∈ state.rounds, shown.Carries

omit [CharData] [NumberData] in
theorem pauseAt_cases (pauses : Nat → Option (List Execution)) (turn : AgentTurnResult)
    (executed : List Execution) :
    pauseAt pauses turn executed = pauses ∨
      ∃ id, turn.status = .approvalRequired ∧ turn.approvalId = some id ∧
        pauseAt pauses turn executed = Function.update pauses id (some executed) := by
  unfold pauseAt
  split
  next id status approvalId => exact .inr ⟨id, status, approvalId, rfl⟩
  next => exact .inl rfl

omit [CharData] [NumberData] in
theorem pauses_pauseAt {before after : World} {pauses : Nat → Option (List Execution)}
    {turn : AgentTurnResult} {executed : List Execution} (checkpoints : Checkpointed before after)
    (kept : ∀ id done, pauses id = some done → PauseKept before id done)
    (paused : ∀ id, turn.status = .approvalRequired → turn.approvalId = some id → PauseKept after id executed) :
    ∀ id done, pauseAt pauses turn executed id = some done → PauseKept after id done := by
  intro id done asked
  rcases pauseAt_cases pauses turn executed with same | ⟨asking, status, approvalId, same⟩
  · rw [same] at asked
    exact (kept id done asked).checkpointed checkpoints
  · rw [same] at asked
    by_cases here : id = asking
    · rw [here, Function.update_self] at asked
      cases asked
      exact here ▸ paused asking status approvalId
    · rw [Function.update_of_ne here] at asked
      exact (kept id done asked).checkpointed checkpoints

theorem llmTurn_kept {runtime : AgentRuntime} (replies : RepliesShown runtime) (context : TurnContext)
    (world : World) (message sessionId turnId : String) :
    ∀ id, (llmTurn runtime context world message sessionId turnId).1.status = .approvalRequired →
      (llmTurn runtime context world message sessionId turnId).1.approvalId = some id →
      PauseKept (llmTurn runtime context world message sessionId turnId).2 id
        (turnRounds runtime turnId (turnMessages context message) world).2 := by
  rw [llmTurn, runLlm, turnRounds]
  by_cases idle : (!runtime.llmConfigured) = true
  · simp only [idle, if_true]
    intro id asked
    cases asked
  · have shown := @complete_shown _ _ _ replies world
      (complete runtime world (turnMessages context message)).2 (turnMessages context message)
    simp only [if_neg idle]
    generalize complete runtime world (turnMessages context message) = replied at shown ⊢
    obtain ⟨reply, between⟩ := replied
    cases reply with
    | error failure =>
      intro id asked
      cases asked
    | ok response =>
      have kept := loopRounds_kept replies turnId 4 (shown rfl) (turnMessages context message) [] [] .completed
        between
      have start : loopFrom runtime turnId 0 response (turnMessages context message) [] [] between =
          continueLlmLoop runtime turnId 4 response (turnMessages context message) [] [] .completed between := rfl
      simp only [start]
      generalize loopRounds runtime turnId 4 response (turnMessages context message) between = logged at kept ⊢
      generalize continueLlmLoop runtime turnId 4 _ _ _ _ _ between = looped at kept ⊢
      obtain ⟨outcome, last⟩ := looped
      cases outcome with
      | ok output =>
        intro id asked
        cases asked
      | error stop =>
        obtain ⟨⟨before, rest, call, saved⟩, fresh⟩ := kept.2.2 stop rfl
        intro id _ known
        simp only at known fresh ⊢
        rw [known] at fresh ⊢
        have stored : Stores turnId (turnCheckpoint sessionId turnId message stop) stop :=
          turnCheckpoint_stores sessionId turnId message stop
        exact pauseKept_saved fresh stored saved

theorem startTurn_consistent {runtime : AgentRuntime} (replies : RepliesShown runtime) (context : TurnContext)
    (world : World) (message sessionId turnId : String) :
    (startTurn runtime context world message sessionId turnId).Consistent := by
  rw [startTurn, runTurn]
  refine ⟨?_, by simp⟩
  have none_kept : ∀ world id done, (fun _ => none : Nat → Option (List Execution)) id = some done →
      PauseKept world id done := by
    intro world id done asked
    cases asked
  by_cases handled : (runtime.tools.a2aConfigured && shouldDelegate message) = true
  · have delegated : ∃ answer after, delegatedResult runtime world message sessionId turnId =
        (some answer, after) := by
      rw [delegatedResult, if_pos handled]
      split
      next => exact ⟨_, _, rfl⟩
      next => exact ⟨_, _, rfl⟩
    obtain ⟨answer, after, result⟩ := delegated
    simp only [result]
    exact none_kept _
  · have started : delegatedResult runtime world message sessionId turnId = (none, world) := by
      rw [delegatedResult, if_neg handled]
    simp only [started]
    exact pauses_pauseAt (Grows.refl _).checkpointed (none_kept _)
      (llmTurn_kept replies context world message sessionId turnId)

variable {runtime : AgentRuntime}

omit [NumberData] in
theorem decidedWorld_checkpointed (world : World) (approval : Approval) (resumption : Resumption) :
    Checkpointed world (decidedWorld world approval resumption) := by
  unfold decidedWorld
  split
  next => exact setApproval_checkpointed world resumption.approval fun _ => rfl
  next => exact (Grows.refl world).checkpointed

omit [CharData] [NumberData] in
theorem finishTurn_status {world after : World} {id : Nat} {turnId answer : String} {status : TurnStatus}
    {checkpoint : Dict} {turn : AgentTurnResult}
    (ended : finishTurn world id turnId answer status checkpoint = (.ok turn, after)) :
    turn.status = status ∧ after = world := by
  rw [finishTurn] at ended
  split at ended
  next => cases ended
  next =>
    cases ended
    exact ⟨rfl, rfl⟩

/-- A resumption that returns has executed the call, or has ended the turn without it. -/
theorem resumeTurn_returned {world after : World} {resumption : Resumption} {approval : Approval}
    {turn : AgentTurnResult} (found : world.approvals.get? resumption.approval = some approval)
    (returned : resumeTurn runtime world resumption.approval resumption.decision resumption.editedArguments
      resumption.response = (.ok turn, after)) :
    (Executes resumption ∧ ∃ decision,
      executeTurn runtime (decidedWorld world approval resumption) resumption.approval
        (decidedArguments approval resumption) approval.turnCheckpoint decision = (.ok turn, after)) ∨
    (¬Executes resumption ∧ Checkpointed world after ∧ turn.status ≠ .approvalRequired) := by
  rw [resumeTurn, found] at returned
  simp only at returned
  generalize resumable approval.turnCheckpoint = guard at returned
  cases guard with
  | error error => cases returned
  | ok _ =>
    unfold Executes decidedWorld decidedArguments
    simp only at returned
    cases decided : readDecision resumption.decision with
    | none =>
      rw [decided] at returned
      cases returned
    | some decision =>
      rw [decided] at returned
      cases decision with
      | approve => exact .inl ⟨.inl rfl, .approve, returned⟩
      | edit => exact .inl ⟨.inr rfl, .edit, returned⟩
      | reject =>
        obtain ⟨status, rfl⟩ := finishTurn_status returned
        refine .inr ⟨by simp, setApproval_checkpointed world _ fun _ => rfl, ?_⟩
        rw [status]
        decide
      | respond =>
        obtain ⟨status, rfl⟩ := finishTurn_status returned
        refine .inr ⟨by simp, setApproval_checkpointed world _ fun _ => rfl, ?_⟩
        rw [status]
        decide

theorem step_consistent (replies : RepliesShown runtime) {state next : TurnState} {resumption : Resumption}
    (consistent : state.Consistent) (guarded : ShownAsExecuted runtime state resumption)
    (taken : step runtime state resumption = some next) : next.Consistent := by
  rw [step] at taken
  cases paused : state.pauses resumption.approval with
  | none =>
    rw [paused] at taken
    cases taken
  | some done =>
    cases found : state.world.approvals.get? resumption.approval with
    | none =>
      rw [paused, found] at taken
      cases taken
    | some approval =>
      have returned := fun after turn =>
        @resumeTurn_returned _ _ runtime state.world after resumption approval turn found
      rw [paused, found] at taken
      simp only at taken
      generalize resumeTurn runtime state.world resumption.approval resumption.decision
        resumption.editedArguments resumption.response = resumed at taken returned
      obtain ⟨outcome, after⟩ := resumed
      cases outcome with
      | error error =>
        cases taken
        have same : Checkpointed state.world (state.world.rollback after) := (Grows.refl state.world).checkpointed
        exact ⟨fun id done asked => (consistent.pauses id done asked).checkpointed same, consistent.rounds⟩
      | ok turn =>
        cases taken
        obtain ⟨row, turnId, stop, before, rest, call, asking, known, stored, kept⟩ :=
          consistent.pauses resumption.approval done paused
        rw [found] at known
        cases known
        rcases returned after turn rfl with ⟨executes, decision, ran⟩ | ⟨ends, checkpoints, status⟩
        · have resumed := executeTurn_kept replies stored kept (guarded approval found executes) ran
          have checkpoints := (decidedWorld_checkpointed state.world approval resumption).trans resumed.checkpoints
          rw [if_pos executes]
          refine ⟨pauses_pauseAt checkpoints consistent.pauses resumed.pause, ?_⟩
          rw [List.forall_mem_append]
          exact ⟨consistent.rounds, resumed.rounds⟩
        · rw [if_neg ends]
          refine ⟨pauses_pauseAt checkpoints consistent.pauses fun _ asked => absurd asked status, ?_⟩
          rw [List.append_nil]
          exact consistent.rounds

/-- As long as no resumption leaves arguments in the checkpoint that it did not execute, every
assistant message carries, for every call of its round, what was executed. -/
theorem rounds_carry (replies : RepliesShown runtime) (context : TurnContext) (world : World)
    (message sessionId turnId : String) {resumptions : List Resumption} {last : TurnState}
    (guarded : Runs.Along (step runtime) (ShownAsExecuted runtime)
      (startTurn runtime context world message sessionId turnId) resumptions)
    (ran : Runs.run (step runtime) (startTurn runtime context world message sessionId turnId) resumptions =
      some last) :
    ∀ shown ∈ last.rounds, shown.Carries := by
  have consistent := Runs.run_invariant_along TurnState.Consistent
    (fun _ _ _ => step_consistent replies)
    (startTurn_consistent replies context world message sessionId turnId) guarded ran
  exact consistent.rounds

end Turn

/-! Messages that need an approval each. -/

section Send
attribute [local instance] CharData.ascii NumberData.decimal

def sendEntry (id target : String) : Json :=
  .obj [("id", .str id), ("function", .obj [("name", .str "gateway_send"),
    ("arguments", .obj [("target", .str target)])])]

/-- The model sends a message to each target in one round and then answers. -/
def sendRuntime (targets : List String) : AgentRuntime where
  tools := Resumed.sendTools true
  reply _ messages :=
    if messages.length = 3 then
      .ok [("content", .str ""), ("tool_calls", .arr (targets.map (sendEntry "call")))]
    else .ok [("content", .str "Done.")]

def sendStart (targets : List String) : TurnState :=
  startTurn (sendRuntime targets) {} {} "Send it." "session" "turn"

theorem sendRuntime_replies : RepliesShown (sendRuntime ["ann"]) := by
  intro world messages response replied
  unfold sendRuntime at replied
  simp only at replied
  by_cases first : messages.length = 3
  · rw [if_pos first] at replied
    have parsed : readReply [("content", .str ""), ("tool_calls", .arr [sendEntry "call" "ann"])] =
        .ok ⟨.str "", [⟨"gateway_send", .obj [("target", .str "ann")], "call"⟩]⟩ := by decide +kernel
    have same := parsed.symm.trans replied
    cases same
    intro call member
    rw [List.mem_singleton.1 member]
    exact ⟨rfl, rfl⟩
  · rw [if_neg first] at replied
    have parsed : readReply [("content", .str "Done.")] = .ok ⟨.str "Done.", []⟩ := by decide +kernel
    have same := parsed.symm.trans replied
    cases same
    simp

def sendEdit : Resumption := ⟨0, "edit", [("target", .str "bob")], ""⟩

/-- The edit of the only call of its round is shown. -/
theorem rounds_carry_edit :
    Runs.Along (step (sendRuntime ["ann"])) (ShownAsExecuted (sendRuntime ["ann"])) (sendStart ["ann"])
        [sendEdit] ∧
      ∃ last, Runs.run (step (sendRuntime ["ann"])) (sendStart ["ann"]) [sendEdit] = some last ∧
        last.rounds.length = 1 ∧ ∀ shown ∈ last.rounds, shown.Carries := by
  have guarded : Runs.Along (step (sendRuntime ["ann"])) (ShownAsExecuted (sendRuntime ["ann"]))
      (sendStart ["ann"]) [sendEdit] := by decide +kernel
  have ends : (Runs.run (step (sendRuntime ["ann"])) (sendStart ["ann"]) [sendEdit]).map
      (fun last => last.rounds.length) = some 1 := by decide +kernel
  obtain ⟨last, ran, counted⟩ := Option.map_eq_some_iff.1 ends
  exact ⟨guarded, last, ran, counted,
    rounds_carry sendRuntime_replies {} {} "Send it." "session" "turn" guarded ran⟩

/-- The first of two calls is edited; as the second one asks too, the transcript shows the
first call as the model wrote it. -/
theorem edited_arguments_lost :
    ∃ last, Runs.run (step (sendRuntime ["ann", "ben"])) (sendStart ["ann", "ben"])
        [sendEdit, ⟨1, "approve", [], ""⟩] = some last ∧
      ∃ shown ∈ last.rounds, ¬shown.Carries := by
  have ends : (Runs.run (step (sendRuntime ["ann", "ben"])) (sendStart ["ann", "ben"])
      [sendEdit, ⟨1, "approve", [], ""⟩]).map
        (fun last => last.rounds.any fun shown => !decide shown.Carries) = some true := by decide +kernel
  obtain ⟨last, ran, found⟩ := Option.map_eq_some_iff.1 ends
  obtain ⟨shown, member, lost⟩ := List.any_eq_true.1 found
  exact ⟨last, ran, shown, member, by simpa using lost⟩

end Send

end SoulClaw.Runtime.Transcript
