import SoulClaw.Foundation.Resumption
import SoulClaw.Runtime.Checkpoints
import SoulClaw.Runtime.Uninterrupted

/-! A turn that is interrupted for approvals and resumed at each of them. It does as the ideal
turn, unless the last call of a round that asks has arguments that are no object: the
resumption replaces those in the transcript. -/

namespace SoulClaw.Runtime.Resumed
open Foundation Resumption Domain.Approvals Domain.Tools Domain.ToolEffects A2A Agent ResumeTurn IdealTurn
  Rounds Checkpoints Uninterrupted

/-! The run of a turn over its approvals. -/

/-- A turn that asks is paused at its approval; any other turn has ended. -/
def settle : Except PyException AgentTurnResult × World → Outcome Nat (Option LoopOutput) × World
  | (.error _, world) => (.finished none, world)
  | (.ok result, world) =>
      match result.status, result.approvalId with
      | .approvalRequired, some id => (.paused id, world)
      | _, _ => (.finished result.loop, world)

section Approve
variable [CharData] [NumberData] (runtime : AgentRuntime)

/-- The decision `approve`, without edits. -/
def approve (world : World) (id : Nat) : Outcome Nat (Option LoopOutput) × World :=
  settle (resumeTurn runtime world id "approve" [] "")

/-- The transcript shows the arguments of the call as they are executed. -/
def ArgumentsKept (call : Dict) : Prop :=
  ((call.get "arguments").or (.obj [])).dumps = (Json.obj (callArguments call)).dumps

def approved (world : World) (id : Nat) : World :=
  setApproval world id fun approval => { approval with status := .approved }

/-- A call behind the approved one asks for an approval as well. -/
def AsksAgain (world : World) (id : Nat) (checkpoint : Dict) : Prop :=
  ∃ round call index results message next after,
    readRound checkpoint (pendingCall [] checkpoint) = .ok round ∧
    resumeRound runtime id (checkpointTurnId checkpoint) (pendingCall [] checkpoint) round
      (approved world id) = (.error (.asked call index results message next), after)

/-- The call that is approved has arguments that the transcript keeps, or it is not the last
of its round that asks. -/
def Kept (world : World) (id : Nat) : Prop :=
  ∀ row, world.approvals.get? id = some row →
    ArgumentsKept (checkpointPending row.turnCheckpoint) ∨ AsksAgain runtime world id row.turnCheckpoint

end Approve

/-! The calls of a round with the pending one as the resumption stores it. -/

section Normalized
variable [CharData] (done rest : List LLMToolCall) (call : LLMToolCall)

def resumedCalls : List LLMToolCall := done ++ normalizedCall call :: rest

omit [CharData] in
theorem executions_resumedCalls :
    (resumedCalls done rest call).map executionOf = (done ++ call :: rest).map executionOf := by
  simp only [resumedCalls, List.map_append, List.map_cons, executionOf_normalizedCall]

omit [CharData] in
theorem length_resumedCalls : (resumedCalls done rest call).length = (done ++ call :: rest).length := by
  simp only [resumedCalls, List.length_append, List.length_cons]

theorem callIds_resumedCalls :
    ((resumedCalls done rest call).map callOf).mapIdx callId =
      ((done ++ call :: rest).map callOf).mapIdx callId := by
  simp only [resumedCalls, List.map_append, List.map_cons, List.mapIdx_append, List.mapIdx_cons]
  rfl

theorem assistantMessage_resumedCalls :
    assistantMessage ((resumedCalls done rest call).map callOf) =
        assistantMessage ((done ++ call :: rest).map callOf) ↔ ArgumentsKept (callOf call) := by
  have stored : (callOf (normalizedCall call)).get "arguments" = .obj call.arguments.dict := rfl
  have given : (callOf call).get "arguments" = call.arguments := rfl
  have place : ∀ index, assistantToolCall index (callOf (normalizedCall call)) =
      assistantToolCall index (callOf call) ↔ ArgumentsKept (callOf call) := by
    intro index
    unfold assistantToolCall ArgumentsKept
    rw [stored, given, Json.or_obj_nil, callArguments_callOf, callName_callOf, callName_callOf]
    have name : (normalizedCall call).name = call.name := rfl
    have id : callId index (callOf (normalizedCall call)) = callId index (callOf call) := rfl
    rw [name, id]
    simp only [Json.obj.injEq, List.cons.injEq, Prod.mk.injEq, Json.str.injEq, true_and, and_true]
    exact eq_comm
  have here := place (0 + (done.map callOf).length)
  simp only [assistantMessage, resumedCalls, List.map_append, List.map_cons, List.mapIdx_append,
    List.mapIdx_cons, Json.obj.injEq, Json.arr.injEq, List.cons.injEq, Prod.mk.injEq, true_and, and_true,
    List.append_cancel_left_eq]
  exact here

end Normalized

/-! What the run can end with. -/

def Extends (messages : List Json) (out : Option LoopOutput) (_ : World) : Prop :=
  ∀ output, out = some output → messages <+: output.messages

def Reaches (ideal : IdealOutput) (out : Option LoopOutput) (last : World) : Prop :=
  ∃ output, out = some output ∧ Meets ideal output last

section Outputs
variable [CharData]

/-- At some place the transcript shows other calls than the ideal one. -/
def Deviates (ideal : IdealOutput) (out : Option LoopOutput) (_ : World) : Prop :=
  ∀ output, out = some output → ∃ (index : Nat) (calls others : List Dict),
    ideal.progress.entries[index]? = some (.message (assistantMessage calls)) ∧
    output.messages[index]? = some (assistantMessage others) ∧
    assistantMessage others ≠ assistantMessage calls

theorem not_sameMessage_assistant {calls others : List Dict}
    (different : assistantMessage others ≠ assistantMessage calls) :
    ¬SameMessage (assistantMessage others) (assistantMessage calls) := by
  intro ⟨entry, ⟨_, first⟩, _, second⟩
  cases entry with
  | message content => exact different (first.trans second.symm)
  | answer toolCallId toolName result =>
    rw [Entry.render, assistantMessage, toolMessage] at first
    simp at first

theorem not_deviates_of_sameTranscript {ideal : IdealOutput} {output other : LoopOutput} {last finish : World}
    (same : SameTranscript output.messages other.messages) (meets : Meets ideal other finish) :
    ¬Deviates ideal (some output) last := by
  intro deviates
  obtain ⟨index, calls, others, expected, shown, different⟩ := deviates output rfl
  obtain ⟨bound, entry⟩ := List.getElem?_eq_some_iff.1 expected
  obtain ⟨within, message⟩ := List.getElem?_eq_some_iff.1 shown
  have inside : index < other.messages.length := by
    rw [← meets.tracks.entries.length_eq]
    exact bound
  have rendered := meets.tracks.entries.get bound inside
  rw [List.get_eq_getElem, List.get_eq_getElem, entry] at rendered
  obtain ⟨run, rendered⟩ := rendered
  have compared := List.Forall₂.get same within inside
  rw [List.get_eq_getElem, List.get_eq_getElem, message, rendered] at compared
  exact not_sameMessage_assistant different compared

/-- The progress behind the round does not show whether the pending call was normalised, unless
its arguments are replaced. -/
theorem round_resumedCalls (result : Results) (progress : Progress) {done rest : List LLMToolCall} {call : LLMToolCall}
    (kept : ArgumentsKept (callOf call)) :
    progress.round result (resumedCalls done rest call) = progress.round result (done ++ call :: rest) := by
  simp only [Progress.round, executions_resumedCalls, length_resumedCalls, roundEntries,
    callIds_resumedCalls, (assistantMessage_resumedCalls done rest call).2 kept]

theorem getElem?_round (result : Results) (progress : Progress) (calls : List LLMToolCall) :
    (progress.round result calls).entries[progress.entries.length]? =
      some (.message (assistantMessage (calls.map callOf))) := by
  simp [Progress.round, roundEntries]

theorem getElem?_roundMessages (messages : List Json) (calls : List Dict) (results : List Json) :
    (roundMessages messages calls results)[messages.length]? = some (assistantMessage calls) := by
  simp [roundMessages]

omit [CharData] in
theorem prefix_getElem? {α : Type*} {short long : List α} (longer : short <+: long) {index : Nat} {item : α}
    (there : short[index]? = some item) : long[index]? = some item := by
  obtain ⟨bound, rfl⟩ := List.getElem?_eq_some_iff.1 there
  exact List.prefix_iff_getElem?.1 longer index bound

theorem deviates_of_replaced (model : Model) (result : Results) (progress : Progress) {messages results : List Json}
    {done rest : List LLMToolCall} {call : LLMToolCall} (remaining : Nat) (response : LLMResponse)
    (status : LlmStatus) (aligned : progress.entries.length = messages.length)
    (replaced : ¬ArgumentsKept (callOf call)) {out : Option LoopOutput} {last : World}
    (extended : Extends (roundMessages messages ((resumedCalls done rest call).map callOf) results) out last) :
    Deviates (idealLoop model result remaining response (progress.round result (done ++ call :: rest)) status)
      out last := by
  intro output ends
  refine ⟨progress.entries.length, (done ++ call :: rest).map callOf,
    (resumedCalls done rest call).map callOf, ?_, ?_, ?_⟩
  · exact prefix_getElem? (idealLoop_extends model result remaining response _ status)
      (getElem?_round result progress _)
  · rw [aligned]
    exact prefix_getElem? (extended output ends) (getElem?_roundMessages messages _ results)
  · exact fun same => replaced ((assistantMessage_resumedCalls done rest call).1 same)

variable [NumberData]

/-- What is shown of a run: good runs reach the ideal output, and others deviate from it. -/
def Settled (runtime : AgentRuntime) (ideal : IdealOutput) (messages : List Json)
    (start : Outcome Nat (Option LoopOutput) × World) : Prop :=
  Settles (approve runtime) (Kept runtime) start (Extends messages) (Reaches ideal) (Deviates ideal)

end Outputs

/-! The loop inside a turn, whether the turn has just started or is resumed. -/

/-- What becomes of the end of the loop: the world that is left, or the checkpoint. -/
def close (finish : World → World) (saved : LoopInterrupt → Dict) :
    Except LoopInterrupt LoopOutput × World → Outcome Nat (Option LoopOutput) × World
  | (.ok output, world) => (.finished (some output), finish world)
  | (.error stop, world) =>
      match stop.interrupt.approvalId with
      | some id => (.paused id, saveApprovalCheckpoint world (some id) (saved stop))
      | none => (.finished none, world)

def Quiet (finish : World → World) : Prop :=
  ∀ world, completed (finish world) = completed world ∧ (finish world).requests = world.requests

section Close
variable [CharData] [NumberData] {runtime : AgentRuntime} {model : Model}

theorem settle_llmTurn (serves : Serves runtime model) (context : TurnContext) (world : World)
    (message sessionId turnId : String) (answer : Json) :
    settle (.ok { (llmTurn runtime context world message sessionId turnId).1 with answer := answer },
        (llmTurn runtime context world message sessionId turnId).2) =
      close id (turnCheckpoint sessionId turnId message)
        (continueLlmLoop runtime turnId 4 (model.complete (turnMessages context message))
          (turnMessages context message) [] [] .completed (requested world (turnMessages context message))) := by
  rw [llmTurn, runLlm_serves serves]
  generalize continueLlmLoop runtime turnId 4 _ _ _ _ _ _ = looped
  obtain ⟨outcome, after⟩ := looped
  cases outcome with
  | ok output => rfl
  | error stop =>
    obtain ⟨⟨approvalId, _, _, _, _⟩, _, _, _, _, _⟩ := stop
    cases approvalId <;> rfl

theorem settle_resumeLoop (serves : Serves runtime model) (world : World) (id : Nat) (turnId : String)
    {checkpoint : Dict} {stop : LoopInterrupt} (stored : Stores turnId checkpoint stop)
    {messages toolResults : List Json} (allCalls : List Json) (some : messages ≠ [])
    (answered : toolResults ≠ []) :
    settle (resumeLoop runtime world id .approve turnId checkpoint messages allCalls toolResults) =
      close (fun world => setApproval world id (markResumed .approve)) (loopCheckpoint checkpoint)
        (continueLlmLoop runtime turnId (maxRounds - (stop.roundIndex + 1)).toNat (model.complete messages)
          messages allCalls toolResults .completedWithTools (requested world messages)) := by
  have ready : (!runtime.llmConfigured || messages.isEmpty) = false := by
    rw [serves.llm, List.isEmpty_eq_false_iff.2 some]
    rfl
  rw [resumeLoop]
  simp only [ready, complete_serves serves, stored.roundIndex, Json.or_int_zero, Json.toInt, loopFrom,
    if_neg answered, Bool.false_eq_true, if_false]
  generalize continueLlmLoop runtime turnId _ _ _ _ _ _ _ = looped
  obtain ⟨outcome, after⟩ := looped
  cases outcome with
  | ok output => rfl
  | error interrupted =>
    obtain ⟨⟨approvalId, _, _, _, _⟩, _, _, _, _, _⟩ := interrupted
    cases approvalId <;> rfl

end Close

/-! A paused turn. -/

/-- The approval stores a round that has been performed up to the call that asks. -/
structure Paused [CharData] (result : Results) (turnId : String) (progress : Progress)
    (done rest : List LLMToolCall) (call : LLMToolCall) (stop : LoopInterrupt) (world : World)
    (id : Nat) : Prop where
  stored : ∃ row, world.approvals.get? id = some row ∧ row.editedArguments = [] ∧
    Stores turnId row.turnCheckpoint stop
  calls : stop.roundToolCalls = (done ++ call :: rest).map fun call => .obj (callOf call)
  pending : stop.interrupt.pendingToolCall = callOf call
  index : stop.interrupt.pendingIndex = done.length
  marked : ∃ prior marker, stop.toolResults = prior ++ stop.interrupt.completedResults ++ [.obj marker] ∧
    Dict.get marker "status" = .str "approval_required"
  performed : ∃ start earlier more, Tracks progress stop.messages earlier start ∧
    stop.toolCalls = earlier ++ more ∧ more.length = (done ++ call :: rest).length ∧
    Performed result start done stop.interrupt.completedResults world

section Pauses

theorem get?_saveApprovalCheckpoint {world : World} {id : Nat} (asked : Asked world id) (checkpoint : Dict) :
    ∃ row, (saveApprovalCheckpoint world (some id) checkpoint).approvals.get? id = some row ∧
      row.editedArguments = [] ∧ row.turnCheckpoint = checkpoint := by
  obtain ⟨row, found, unedited⟩ := asked
  rw [saveApprovalCheckpoint]
  simp only
  rw [Table.get?_modify, if_pos rfl, found]
  exact ⟨_, rfl, unedited, rfl⟩

theorem performed_same {result : Results} {before after last : World} {calls : List LLMToolCall}
    {results : List Json} (performed : Performed result before calls results after)
    (history : completed last = completed after) (requests : last.requests = after.requests) :
    Performed result before calls results last :=
  ⟨performed.reports, history.trans performed.history, requests.trans performed.requests⟩

variable [CharData]

theorem readDecision_approve : readDecision "approve" = some .approve := by
  have same : normalized "approve" = "approve" :=
    normalized_of_ascii (by decide) (by decide) (by decide) (by decide)
  rw [readDecision, same]
  rfl

variable [NumberData]

theorem approve_eq {runtime : AgentRuntime} {turnId : String} {world : World} {id : Nat} {row : Approval}
    {stop : LoopInterrupt} (found : world.approvals.get? id = some row) (unedited : row.editedArguments = [])
    (stored : Stores turnId row.turnCheckpoint stop) (named : turnId ≠ "")
    (pending : stop.interrupt.pendingToolCall ≠ []) :
    approve runtime world id = settle (executeTurn runtime world id [] row.turnCheckpoint .approve) := by
  rw [approve, resumeTurn, found]
  simp only [resumable_eq stored named pending, readDecision_approve, unedited]

variable {gated : AgentRuntime} {model : Model} {result : Results} {turnId : String}

/-- The loop with so many rounds left does as the ideal loop, wherever it starts. -/
def LoopSettles (gated : AgentRuntime) (model : Model) (result : Results) (turnId : String)
    (remaining : Nat) : Prop :=
  ∀ {finish : World → World} {saved : LoopInterrupt → Dict}, Quiet finish →
    (∀ stop, Stores turnId (saved stop) stop) →
    ∀ {response : LLMResponse}, (∀ call ∈ response.toolCalls, model.Requests (executionOf call)) →
    ∀ {progress : Progress} {messages allCalls : List Json} (toolResults : List Json) (status : LlmStatus)
      {world : World}, Tracks progress messages allCalls world →
    Settled gated (idealLoop model result remaining response progress status) messages
      (close finish saved
        (continueLlmLoop gated turnId remaining response messages allCalls toolResults status world))

/-- The round of a paused turn, read back from its checkpoint. -/
theorem Paused.readRound {progress : Progress} {done rest : List LLMToolCall} {call : LLMToolCall}
    {stop : LoopInterrupt} {world : World} {id : Nat} {checkpoint : Dict}
    (paused : Paused result turnId progress done rest call stop world id)
    (stored : Stores turnId checkpoint stop) :
    ∃ prior, readRound checkpoint (pendingCall [] checkpoint) = .ok (storedRound stop prior) := by
  obtain ⟨prior, marker, results, asked⟩ := paused.marked
  have some : stop.roundToolCalls ≠ [] := by simp [paused.calls]
  exact ⟨prior, readRound_eq stored _ some results asked⟩

/-- The call of a paused turn is approved, and the rest of the round returns. -/
theorem approve_completes (serves : Serves gated model) {done rest : List LLMToolCall} {call : LLMToolCall}
    {stop : LoopInterrupt} {world after : World} {id : Nat} {checkpoint : Dict}
    (stored : Stores turnId checkpoint stop)
    (begun : approve gated world id = settle (executeTurn gated world id [] checkpoint .approve))
    (calls : stop.roundToolCalls = (done ++ call :: rest).map fun call => .obj (callOf call))
    (index : stop.interrupt.pendingIndex = done.length)
    (pending : pendingCall [] checkpoint = callOf (normalizedCall call)) {prior results : List Json}
    (read : readRound checkpoint (pendingCall [] checkpoint) = .ok (storedRound stop prior))
    (ran : resumeRound gated id turnId (callOf (normalizedCall call)) (storedRound stop prior)
      (approved world id) = (.ok results, after))
    (counted : results.length = (done ++ call :: rest).length) :
    approve gated world id =
      let messages := roundMessages stop.messages ((resumedCalls done rest call).map callOf) results
      close (fun world => setApproval world id (markResumed .approve)) (loopCheckpoint checkpoint)
        (continueLlmLoop gated turnId (maxRounds - (stop.roundIndex + 1)).toNat (model.complete messages)
          messages stop.toolCalls (prior ++ results) .completedWithTools (requested after messages)) := by
  have closed : closeRound checkpoint (storedRound stop prior) (callOf (normalizedCall call)) results =
        .ok (roundMessages stop.messages ((resumedCalls done rest call).map callOf) results, stop.toolCalls) :=
    closeRound_eq stored calls (congrArg Int.ofNat index) counted
  have answered : prior ++ results ≠ [] := by
    have positive : 0 < results.length := by
      rw [counted, List.length_append, List.length_cons]
      omega
    simp [List.ne_nil_of_length_pos positive]
  rw [begun, executeTurn]
  simp only [serves.tools, checkpointTurnId_eq stored, Bool.not_true, Bool.false_eq_true, if_false, read]
  rw [pending]
  unfold approved at ran
  simp only [ran, closed]
  apply settle_resumeLoop serves after id turnId stored stop.toolCalls _ answered
  simp [roundMessages]

/-- The call of a paused turn is approved, and a later call of the round asks. -/
theorem approve_asks (serves : Serves gated model) {call next : LLMToolCall}
    {stop : LoopInterrupt} {world after : World} {id asked index : Nat} {checkpoint : Dict}
    (stored : Stores turnId checkpoint stop)
    (begun : approve gated world id = settle (executeTurn gated world id [] checkpoint .approve))
    (pending : pendingCall [] checkpoint = callOf (normalizedCall call)) {prior results : List Json}
    {message : String} (read : readRound checkpoint (pendingCall [] checkpoint) = .ok (storedRound stop prior))
    (ran : resumeRound gated id turnId (callOf (normalizedCall call)) (storedRound stop prior)
      (approved world id) = (.error (.asked (callOf next) index results message (some asked)), after)) :
    approve gated world id =
      (.paused asked, saveApprovalCheckpoint after (some asked)
        (roundCheckpoint checkpoint (prior ++ results ++
          [.obj (approvalResult message (.str (callName (callOf next))) (some asked))]) results (callOf next)
          index)) := by
  rw [begun, executeTurn]
  simp only [serves.tools, checkpointTurnId_eq stored, Bool.not_true, Bool.false_eq_true, if_false, read]
  rw [pending]
  unfold approved at ran
  simp only [ran]
  rfl

omit [NumberData] in
/-- The pause of a later call of the same round. -/
theorem Paused.later {progress : Progress} {done others tail : List LLMToolCall} {call next : LLMToolCall}
    {stop : LoopInterrupt} {world before after : World} {id asked : Nat} {checkpoint : Dict}
    (paused : Paused result turnId progress done (others ++ next :: tail) call stop world id)
    (same : completed before = completed world ∧ before.requests = world.requests)
    (stored : Stores turnId checkpoint stop) {results : List Json}
    (performed : Performed result before (call :: others) results after) (made : Asked after asked)
    (prior : List Json) (message : String) :
    let completedResults := stop.interrupt.completedResults ++ results
    let toolResults := prior ++ completedResults ++
      [.obj (approvalResult message (.str (callName (callOf next))) (some asked))]
    let index := done.length + results.length
    Paused result turnId progress (done ++ call :: others) tail next
      (laterInterrupt stop toolResults completedResults (callOf next) index)
      (saveApprovalCheckpoint after (some asked)
        (roundCheckpoint checkpoint toolResults completedResults (callOf next) index)) asked := by
  have calls : (done ++ call :: others) ++ next :: tail = done ++ call :: (others ++ next :: tail) := by
    rw [List.append_assoc, List.cons_append]
  constructor
  · obtain ⟨row, found, unedited, saved⟩ := get?_saveApprovalCheckpoint made (roundCheckpoint checkpoint
      (prior ++ (stop.interrupt.completedResults ++ results) ++
        [.obj (approvalResult message (.str (callName (callOf next))) (some asked))])
      (stop.interrupt.completedResults ++ results) (callOf next) (done.length + results.length : Nat))
    refine ⟨row, found, unedited, ?_⟩
    rw [saved]
    exact roundCheckpoint_stores stored _ _ _ _
  · rw [calls]
    exact paused.calls
  · rfl
  · rw [laterInterrupt, List.length_append, performed.length]
  · exact ⟨prior, _, rfl, rfl⟩
  · obtain ⟨start, earlier, more, tracks, allCalls, counted, done⟩ := paused.performed
    refine ⟨start, earlier, more, tracks, allCalls, by rw [calls, counted], ?_⟩
    exact performed_same ((performed_same done same.1 same.2).trans performed) rfl rfl

/-- The round is complete, so the rest of the turn decides how it ends; a replaced argument is
in the transcript by now. -/
theorem completed_settles {remaining : Nat} (loop : LoopSettles gated model result turnId remaining)
    {progress : Progress} {done rest : List LLMToolCall} {call : LLMToolCall} {world after : World} {id : Nat}
    {row : Approval} (found : world.approvals.get? id = some row)
    (pending : checkpointPending row.turnCheckpoint = callOf call)
    (last : ¬AsksAgain gated world id row.turnCheckpoint) {before messages allCalls results : List Json}
    (aligned : progress.entries.length = before.length)
    (shown : messages = roundMessages before ((resumedCalls done rest call).map callOf) results)
    (tracked : Tracks (progress.round result (resumedCalls done rest call)) messages allCalls
      (requested after messages))
    {finish : World → World} {saved : LoopInterrupt → Dict} (quiet : Quiet finish)
    (saves : ∀ stop, Stores turnId (saved stop) stop) {toolResults : List Json}
    (completes : approve gated world id = close finish saved
      (continueLlmLoop gated turnId remaining (model.complete messages) messages allCalls toolResults
        .completedWithTools (requested after messages))) :
    let next := progress.round result (done ++ call :: rest)
    Settled gated (idealLoop model result remaining (next.response model) next .completedWithTools) before
      (.paused id, world) := by
  have later := loop quiet saves (requests_response model messages) toolResults .completedWithTools tracked
  have extends_ : before <+: messages := by
    rw [shown]
    exact List.prefix_append _ _
  rw [← completes] at later
  by_cases kept : ArgumentsKept (callOf call)
  · rw [model.complete_of_renders tracked.entries, round_resumedCalls result progress kept] at later
    apply settles_resume
    · intro known same
      obtain rfl : known = row := Option.some.inj (same.symm.trans found)
      exact .inl (pending ▸ kept)
    · exact later.weaken fun out _ longer output ends => extends_.trans (longer output ends)
  · apply settles_broken
    · intro holds
      rcases holds row found with fine | again
      · exact kept (pending ▸ fine)
      · exact last again
    · intro out end_ ends
      have longer := later.reached out end_ ends
      refine ⟨fun output same => extends_.trans (longer output same), ?_⟩
      rw [shown] at longer
      exact deviates_of_replaced model result progress remaining _ _ aligned kept longer

theorem paused_settles (serves : Serves gated model) (cooperative : Cooperative gated.tools model result)
    (named : turnId ≠ "") {remaining : Nat} (loop : LoopSettles gated model result turnId remaining)
    {progress : Progress} {done rest : List LLMToolCall} {call : LLMToolCall} {stop : LoopInterrupt}
    {world : World} {id : Nat} (round : stop.roundIndex = maxRounds - (remaining + 1 : Nat))
    (requests : ∀ other ∈ done ++ call :: rest, model.Requests (executionOf other))
    (paused : Paused result turnId progress done rest call stop world id) :
    let next := progress.round result (done ++ call :: rest)
    Settled gated (idealLoop model result remaining (next.response model) next .completedWithTools)
      stop.messages (.paused id, world) := by
  induction size : rest.length using Nat.strong_induction_on generalizing done rest call stop world id with
  | _ bound ih =>
  obtain ⟨row, found, unedited, stored⟩ := paused.stored
  obtain ⟨prior, read⟩ := paused.readRound stored
  obtain ⟨start, earlier, more, tracks, allCalls, counted, performed⟩ := paused.performed
  have pending := pendingCall_eq stored paused.pending
  have present : stop.interrupt.pendingToolCall ≠ [] := by
    rw [paused.pending, callOf]
    exact List.cons_ne_nil _ _
  have begun : approve gated world id = _ := approve_eq found unedited stored named present
  have calls : (storedRound stop prior).toolCalls = _ := paused.calls
  have index : (storedRound stop prior).pendingIndex = (done.length : Int) := congrArg Int.ofNat paused.index
  have spec := resumeRound_spec gated id call calls index (approved world id)
    (cooperative.approved _ _ turnId id (requests call (by simp)))
    (fun world next member => cooperative.unapproved world _ turnId (requests next (by simp [member])))
  rcases spec with ⟨results, after, ran, rested⟩ | ⟨others, next, results, message, asked, after, ran, stops⟩
  · have whole := (@performed_same _ _ _ (approved world id) _ _ performed rfl rfl).trans rested
    have completes := approve_completes serves stored begun paused.calls paused.index pending read ran whole.length
    have left : (maxRounds - (stop.roundIndex + 1)).toNat = remaining := by
      rw [round, maxRounds]
      omega
    have tracked := tracks_round tracks (whole.congr (executions_resumedCalls done rest call))
      (counted.trans (length_resumedCalls done rest call).symm)
    rw [← allCalls] at tracked
    rw [left] at completes
    have last : ¬AsksAgain gated world id row.turnCheckpoint := by
      intro ⟨round, _, _, _, _, _, _, again, asks⟩
      obtain rfl : storedRound stop prior = round := Except.ok.inj (read.symm.trans again)
      rw [pending, checkpointTurnId_eq stored, ran] at asks
      cases asks
    have quiet : Quiet fun world => setApproval world id (markResumed .approve) := fun _ => ⟨rfl, rfl⟩
    exact completed_settles loop found ((checkpointPending_eq stored).trans paused.pending) last
      tracks.entries.length_eq rfl tracked quiet (loopCheckpoint_stores stored) completes
  · have continued := approve_asks serves stored begun pending read ran
    have place : others ++ [next] <+: rest := (List.cons_prefix_cons.1 stops.place).2
    obtain ⟨tail, split⟩ := place
    obtain rfl : rest = others ++ next :: tail := by
      rw [← split, List.append_assoc, List.singleton_append]
    have quiet : completed (approved world id) = completed world ∧
        (approved world id).requests = world.requests := ⟨rfl, rfl⟩
    have later := paused.later quiet stored stops.performed stops.asked prior message
    have calls : (done ++ call :: others) ++ next :: tail = done ++ call :: (others ++ next :: tail) := by
      rw [List.append_assoc, List.cons_append]
    apply settles_resume
    · intro known same
      obtain rfl : known = row := Option.some.inj (same.symm.trans found)
      rw [← pending, ← checkpointTurnId_eq stored] at ran
      exact .inr ⟨_, _, _, _, _, _, _, read, ran⟩
    · rw [continued]
      have shorter : tail.length < bound := by
        rw [← size, List.length_append, List.length_cons]
        omega
      rw [← calls] at requests
      have resumed := fun same => ih tail.length shorter same requests later rfl
      rw [calls] at resumed
      exact resumed round

omit [CharData] [NumberData] in
theorem tracks_quiet {finish : World → World} (quiet : Quiet finish) {progress : Progress}
    {messages allCalls : List Json} {world : World} (tracks : Tracks progress messages allCalls world) :
    Tracks progress messages allCalls (finish world) where
  entries := tracks.entries
  history := (quiet world).1.trans tracks.history
  requests := (congrArg List.length (quiet world).2).trans tracks.requests
  calls := tracks.calls

theorem ended_settles {finish : World → World} (quiet : Quiet finish) (saved : LoopInterrupt → Dict)
    {progress : Progress} {output : LoopOutput} {answer : Json} {status : LlmStatus} {world : World}
    (ends : output.answer = answer ∧ output.status = status)
    (tracks : Tracks progress output.messages output.toolCalls world) :
    Settled gated ⟨answer, status, progress⟩ output.messages (close finish saved (.ok output, world)) := by
  apply settles_finished
  · intro other same
    rw [Option.some.inj same]
  · exact ⟨output, rfl, ends.1, ends.2, tracks_quiet quiet tracks⟩

omit [NumberData] in
/-- The first pause of a round. -/
theorem paused_first {progress : Progress} {done rest : List LLMToolCall} {call : LLMToolCall}
    {messages allCalls more results : List Json} {world after : World} {id : Nat} (toolResults : List Json)
    (tracks : Tracks progress messages allCalls world)
    (performed : Performed result world done results after) (asked : Asked after id) (message : String)
    {roundToolCalls : List Json} (counted : more.length = (done ++ call :: rest).length)
    (calls : roundToolCalls = (done ++ call :: rest).map fun call => .obj (callOf call)) (roundIndex : Int)
    {saved : LoopInterrupt → Dict} (saves : ∀ stop, Stores turnId (saved stop) stop) :
    let stop : LoopInterrupt :=
      { interrupt := interruptAt call results message id
        messages := messages
        toolCalls := allCalls ++ more
        toolResults := toolResults ++ results ++ [.obj (interruptAt call results message id).approvalResult]
        roundToolCalls := roundToolCalls
        roundIndex := roundIndex }
    Paused result turnId progress done rest call stop (saveApprovalCheckpoint after (some id) (saved stop)) id := by
  intro stop
  constructor
  · obtain ⟨row, found, unedited, checkpoint⟩ := get?_saveApprovalCheckpoint asked (saved stop)
    exact ⟨row, found, unedited, checkpoint ▸ saves stop⟩
  · exact calls
  · rfl
  · exact performed.length
  · exact ⟨toolResults, _, rfl, rfl⟩
  · exact ⟨world, allCalls, more, tracks, rfl, counted, performed_same performed rfl rfl⟩

theorem loop_settles (serves : Serves gated model) (cooperative : Cooperative gated.tools model result)
    (named : turnId ≠ "") (remaining : Nat) : LoopSettles gated model result turnId remaining := by
  induction remaining with
  | zero =>
    intro finish saved quiet saves response requests progress messages allCalls toolResults status world tracks
    exact ended_settles quiet saved ⟨rfl, rfl⟩ tracks
  | succ remaining ih =>
    intro finish saved quiet saves response requests progress messages allCalls toolResults status world tracks
    rw [continueLlmLoop, idealLoop]
    by_cases silent : response.toolCalls = []
    · simp only [silent, List.map_nil, if_true]
      exact ended_settles quiet saved ⟨rfl, rfl⟩ tracks
    · have some : response.toolCalls.map callOf ≠ [] := by simpa using silent
      have spec := executeToolCalls_spec (fun world call member =>
        cooperative.unapproved world (executionOf call) turnId (requests call member)) [] world
      simp only [if_neg silent, if_neg some, executeRound, if_pos serves.tools]
      rcases spec with ⟨results, after, ran, performed⟩ | ⟨done, call, results, message, id, after, ran, stops⟩
      · have counted : ((numbered (response.toolCalls.map callOf)).map Json.obj).length =
            response.toolCalls.length := by
          simp only [numbered, List.length_map, List.length_mapIdx]
        have next := tracks_round tracks performed counted
        simp only [ran, List.nil_append, complete_serves serves]
        rw [model.complete_of_renders next.entries]
        have later := ih quiet saves
          (requests_response model (canonical (progress.round result response.toolCalls).entries))
          (toolResults ++ results) .completedWithTools next
        exact later.weaken fun out _ longer output ends =>
          (List.prefix_append messages _).trans (longer output ends)
      · simp only [ran, List.nil_append]
        obtain ⟨rest, split⟩ := stops.place
        have calls : response.toolCalls = done ++ call :: rest := by
          rw [← split, List.append_assoc, List.singleton_append]
        have counted : ((response.toolCalls.map callOf).map Json.obj).length =
            (done ++ call :: rest).length := by rw [calls, List.length_map, List.length_map]
        have shown : (response.toolCalls.map callOf).map Json.obj =
            (done ++ call :: rest).map fun call => .obj (callOf call) := by
          rw [calls, List.map_map]
          rfl
        have paused := paused_first toolResults tracks stops.performed stops.asked message counted shown
          (maxRounds - (remaining + 1 : Nat)) saves
        have settled := paused_settles serves cooperative named ih rfl (calls ▸ requests) paused
        rw [← calls] at settled
        exact settled

end Pauses

/-! The turn. -/

section Turn
variable [CharData] [NumberData]

/-- The turn up to its first approval, or to its end. -/
def begin (runtime : AgentRuntime) (context : TurnContext) (world : World)
    (message sessionId turnId : String) : Outcome Nat (Option LoopOutput) × World :=
  let (result, world) := runTurn runtime context world message sessionId turnId none
  settle (.ok result, world)

theorem begin_settles {gated : AgentRuntime} {model : Model} {result : Results} (serves : Serves gated model)
    (cooperative : Cooperative gated.tools model result) {message turnId : String}
    (handled : (gated.tools.a2aConfigured && shouldDelegate message) = false) (named : turnId ≠ "")
    (context : TurnContext) (world : World) (sessionId : String) :
    Settled gated (idealTurn model result world (turnMessages context message))
      (turnMessages context message) (begin gated context world message sessionId turnId) := by
  obtain ⟨answer, turn⟩ := runTurn_handled gated handled context world sessionId turnId
  rw [begin, turn]
  simp only
  rw [settle_llmTurn serves]
  exact loop_settles serves cooperative named 4 (fun _ => ⟨rfl, rfl⟩)
    (turnCheckpoint_stores sessionId turnId message) (requests_response model _) [] .completed
    (tracks_start world (turnMessages context message))

/-- A turn that is interrupted for approvals and resumed at each of them ends as the turn in
which no call needs an approval, exactly if the transcript keeps the arguments of every call
that is the last of its round to ask. -/
theorem resumed_turn_iff {gated free : AgentRuntime} {model : Model} {result : Results}
    (serves : Serves gated model) (servesFree : Serves free model)
    (cooperative : Cooperative gated.tools model result) (ungated : Ungated free.tools model result)
    {message turnId : String} (handled : (gated.tools.a2aConfigured && shouldDelegate message) = false)
    (handledFree : (free.tools.a2aConfigured && shouldDelegate message) = false) (named : turnId ≠ "")
    (context : TurnContext) (world : World) (sessionId : String) :
    ∃ output finish,
      (runTurn free context world message sessionId turnId none).1.loop = some output ∧
      (runTurn free context world message sessionId turnId none).2 = finish ∧
      ((∃ resumed last,
          Finishes (approve gated) (begin gated context world message sessionId turnId) (some resumed) last ∧
          SameTurn resumed last output finish) ↔
        Always (approve gated) (Kept gated) (begin gated context world message sessionId turnId)) := by
  have settled := begin_settles serves cooperative handled named context world sessionId
  obtain ⟨output, finish, looped, ended, meets⟩ :=
    runTurn_meets turnId servesFree ungated handledFree context world sessionId
  refine ⟨output, finish, looped, ended, ?_, ?_⟩
  · intro ⟨resumed, last, ends, same⟩
    by_contra broken
    exact not_deviates_of_sameTranscript same.transcript meets (settled.bad broken _ last ends)
  · intro always
    obtain ⟨_, last, ends, resumed, rfl, reached⟩ := settled.good always
    exact ⟨resumed, last, ends, reached.sameTurn meets⟩

end Turn

/-! A model that sends one message through the gateway and then answers. -/

section Send

/-- The first reply of the model, with the arguments as it writes them. -/
def sendReply (arguments : String) : Dict :=
  [("content", .str ""), ("tool_calls", .arr [.obj [("id", .str "call_1"), ("function",
    .obj [("name", .str "gateway_send"), ("arguments", .str arguments)])]])]

def sendTools (gated : Bool) : ToolRuntime where
  registry toolName := if toolName = "gateway_send" then
    some { gatewaySendTool with requiresApproval := gated } else none
  perform _ _ _ := .ok (.str "sent")
  delegate _ _ := .ok .null

def sendRuntime (gated : Bool) (arguments : String) : AgentRuntime where
  tools := sendTools gated
  reply _ messages := if messages.length = 3 then .ok (sendReply arguments) else .ok [("content", .str "Done.")]

def sendModel (arguments : Json) : Model where
  complete messages :=
    if messages.length = 3 then ⟨.str "", [⟨"gateway_send", arguments, "call_1"⟩]⟩ else ⟨.str "Done.", []⟩
  stable first second same := by rw [List.Forall₂.length_eq same]

def sendResult : Results := fun _ _ _ => .str "sent"

theorem sendModel_requests {arguments : Json} {execution : Execution}
    (requests : (sendModel arguments).Requests execution) : execution = ("gateway_send", arguments.dict) := by
  obtain ⟨messages, call, member, rfl⟩ := requests
  unfold sendModel at member
  by_cases first : messages.length = 3
  · simp only [if_pos first, List.mem_singleton] at member
    rw [member]
    rfl
  · simp [if_neg first] at member

attribute [local instance] CharData.ascii NumberData.decimal

theorem sendRuntime_serves (gated : Bool) {text : String} {arguments : Json}
    (parsed : readReply (sendReply text) = .ok ⟨.str "", [⟨"gateway_send", arguments, "call_1"⟩]⟩) :
    Serves (sendRuntime gated text) (sendModel arguments) where
  tools := rfl
  llm := rfl
  answers _ messages := by
    by_cases first : messages.length = 3
    · simp only [sendRuntime, sendModel, if_pos first]
      exact parsed
    · simp only [sendRuntime, sendModel, if_neg first]
      decide +kernel

theorem sendTools_returns (gated : Bool) (world : World) (arguments : Dict) (turnId : String)
    (approved : Approved) (opened : (gated && !approved.granted) = false) :
    Returns (sendTools gated) sendResult world ("gateway_send", arguments) turnId approved := by
  cases gated with
  | false => cases approved <;> rfl
  | true =>
    cases approved with
    | no => cases opened
    | caller => rfl
    | stored id => rfl

theorem sendTools_asks (world : World) (arguments : Dict) (turnId : String) :
    Asks (sendTools true) world ("gateway_send", arguments) turnId .no := by
  exact ⟨_, _, rfl⟩

theorem sendTools_cooperative (arguments : Json) :
    Cooperative (sendTools true) (sendModel arguments) sendResult where
  approved world execution turnId id requests := by
    rw [sendModel_requests requests]
    exact sendTools_returns true world _ turnId (.stored id) rfl
  unapproved world execution turnId requests := by
    rw [sendModel_requests requests]
    exact .inr (sendTools_asks world _ turnId)

theorem sendTools_ungated (arguments : Json) : Ungated (sendTools false) (sendModel arguments) sendResult := by
  intro world execution turnId requests
  rw [sendModel_requests requests]
  exact sendTools_returns false world _ turnId .no rfl

def sendBegin (arguments : String) : Outcome Nat (Option LoopOutput) × World :=
  begin (sendRuntime true arguments) {} {} "Send it." "session" "turn"

/-- An object is kept, so the resumed turn is the turn without the approval. -/
theorem resumed_turn_iff_send :
    ∃ output finish,
      (runTurn (sendRuntime false "\x7b\x7d") {} {} "Send it." "session" "turn" none).1.loop = some output ∧
      (runTurn (sendRuntime false "\x7b\x7d") {} {} "Send it." "session" "turn" none).2 = finish ∧
      ((∃ resumed last, Finishes (approve (sendRuntime true "\x7b\x7d")) (sendBegin "\x7b\x7d") (some resumed) last ∧
          SameTurn resumed last output finish) ↔
        Always (approve (sendRuntime true "\x7b\x7d")) (Kept (sendRuntime true "\x7b\x7d"))
          (sendBegin "\x7b\x7d")) := by
  have parsed : readReply (sendReply "\x7b\x7d") = .ok ⟨.str "", [⟨"gateway_send", .obj [], "call_1"⟩]⟩ := by
    decide +kernel
  exact resumed_turn_iff (sendRuntime_serves true parsed) (sendRuntime_serves false parsed)
    (sendTools_cooperative (.obj [])) (sendTools_ungated (.obj [])) (by decide +kernel) (by decide +kernel)
    (by decide) {} {} "session"

/-- The end of the turn, with the arguments that its transcript shows. -/
def sendOutput (shown : Json) : LoopOutput where
  answer := .str "Done."
  toolCalls := [.obj (callOf ⟨"gateway_send", .arr [.int 1], "call_1"⟩)]
  status := .completedWithTools
  messages := roundMessages (turnMessages {} "Send it.") [callOf ⟨"gateway_send", shown, "call_1"⟩]
    [.obj (toolReport 0 "gateway_send" (.str "sent"))]
  toolResults := [.obj (toolReport 0 "gateway_send" (.str "sent"))]

/-- Arguments that are a list are executed and resumed as no arguments, but only the transcript
of the resumed turn says so. -/
theorem replaced_arguments_differ :
    Serves (sendRuntime true "[1]") (sendModel (.arr [.int 1])) ∧
    Serves (sendRuntime false "[1]") (sendModel (.arr [.int 1])) ∧
    Cooperative (sendTools true) (sendModel (.arr [.int 1])) sendResult ∧
    Ungated (sendTools false) (sendModel (.arr [.int 1])) sendResult ∧
    ∃ resumed last output,
      Finishes (approve (sendRuntime true "[1]")) (sendBegin "[1]") (some resumed) last ∧
      (runTurn (sendRuntime false "[1]") {} {} "Send it." "session" "turn" none).1.loop = some output ∧
      ¬SameTranscript resumed.messages output.messages := by
  have parsed : readReply (sendReply "[1]") = .ok ⟨.str "", [⟨"gateway_send", .arr [.int 1], "call_1"⟩]⟩ := by
    decide +kernel
  refine ⟨sendRuntime_serves true parsed, sendRuntime_serves false parsed, sendTools_cooperative _,
    sendTools_ungated _, sendOutput (.obj []), (drive (approve (sendRuntime true "[1]")) 1 (sendBegin "[1]")).2,
    sendOutput (.arr [.int 1]), ⟨1, Prod.ext ?_ rfl⟩, by decide +kernel, ?_⟩
  · decide +kernel
  · intro same
    have different : assistantMessage [callOf ⟨"gateway_send", .obj [], "call_1"⟩] ≠
        assistantMessage [callOf ⟨"gateway_send", .arr [.int 1], "call_1"⟩] := by decide +kernel
    exact not_sameMessage_assistant different (List.Forall₂.get same (i := 3) (by decide) (by decide))

end Send

end SoulClaw.Runtime.Resumed
