import SoulClaw.Runtime.Rounds

/-! What an interrupted turn stores is what its resumption reads: the three functions that
write a checkpoint, and the functions that read one. -/

namespace SoulClaw.Runtime.Checkpoints
open Foundation Domain.Approvals Domain.Tools A2A Agent ResumeTurn Rounds

/-- The checkpoint holds the state of the loop at its interrupt. -/
structure Stores (turnId : String) (checkpoint : Dict) (stop : LoopInterrupt) : Prop where
  mode : checkpoint.get "mode" = .str "agent_tool_loop"
  turn : checkpoint.get "turn_id" = .str turnId
  messages : checkpoint.get "messages" = .arr stop.messages
  toolCalls : checkpoint.get "tool_calls" = .arr stop.toolCalls
  toolResults : checkpoint.get "tool_results" = .arr stop.toolResults
  roundToolCalls : checkpoint.get "round_tool_calls" = .arr stop.roundToolCalls
  completedResults : checkpoint.get "round_completed_results" = .arr stop.interrupt.completedResults
  pendingToolCall : checkpoint.get "pending_tool_call" = .obj stop.interrupt.pendingToolCall
  pendingIndex : checkpoint.get "pending_index" = .int stop.interrupt.pendingIndex
  roundIndex : checkpoint.get "round_index" = .int stop.roundIndex

/-! The writers. -/

theorem turnCheckpoint_stores (sessionId turnId message : String) (stop : LoopInterrupt) :
    Stores turnId (turnCheckpoint sessionId turnId message stop) stop := by
  constructor <;> rfl

theorem loopCheckpoint_stores {turnId : String} {checkpoint : Dict} {earlier : LoopInterrupt}
    (stored : Stores turnId checkpoint earlier) (stop : LoopInterrupt) :
    Stores turnId (loopCheckpoint checkpoint stop) stop := by
  constructor <;> simp [loopCheckpoint, Dict.get_set, stored.mode, stored.turn]

/-- The interrupt of the same round at a later call. -/
def laterInterrupt (stop : LoopInterrupt) (toolResults completedResults : List Json) (pending : Dict)
    (index : Nat) : LoopInterrupt :=
  { stop with
    toolResults := toolResults
    interrupt := { stop.interrupt with
      completedResults := completedResults
      pendingToolCall := pending
      pendingIndex := index } }

theorem roundCheckpoint_stores {turnId : String} {checkpoint : Dict} {stop : LoopInterrupt}
    (stored : Stores turnId checkpoint stop) (toolResults completedResults : List Json) (pending : Dict)
    (index : Nat) :
    Stores turnId (roundCheckpoint checkpoint toolResults completedResults pending index)
      (laterInterrupt stop toolResults completedResults pending index) := by
  constructor <;>
    simp [roundCheckpoint, laterInterrupt, Dict.get_set, stored.mode, stored.turn, stored.messages,
      stored.toolCalls, stored.roundToolCalls, stored.roundIndex]

/-! The readers. -/

theorem mapM_receiver (calls : List Dict) : (calls.map Json.obj).mapM Json.receiver = .ok calls := by
  induction calls with
  | nil => rfl
  | cons call rest ih =>
    rw [List.map_cons, List.mapM_cons, ih]
    rfl

section Readers
variable [CharData] {turnId : String} {checkpoint : Dict} {stop : LoopInterrupt}
  (stored : Stores turnId checkpoint stop)
include stored

theorem checkpointTurnId_eq : checkpointTurnId checkpoint = turnId := by
  rw [checkpointTurnId, stored.turn, text_str]

omit [CharData] in
theorem checkpointPending_eq : checkpointPending checkpoint = stop.interrupt.pendingToolCall := by
  rw [checkpointPending, stored.pendingToolCall, Json.dict]

theorem resumable_eq (named : turnId ≠ "") (pending : stop.interrupt.pendingToolCall ≠ []) :
    resumable checkpoint = .ok () := by
  have present : ¬(checkpointTurnId checkpoint = "" ∨ checkpointPending checkpoint = []) := by
    rw [checkpointTurnId_eq stored, checkpointPending_eq stored]
    exact not_or.2 ⟨named, pending⟩
  rw [resumable, if_neg (not_not.2 stored.mode), if_neg present]
  rfl

omit [CharData] in
theorem pendingCall_eq {call : LLMToolCall} (pending : stop.interrupt.pendingToolCall = callOf call) :
    pendingCall [] checkpoint = callOf (normalizedCall call) := by
  rw [pendingCall, checkpointPending_eq stored, pending]
  rfl

/-- The round that a checkpoint stores, behind the results of the rounds before it. -/
def storedRound (stop : LoopInterrupt) (priorResults : List Json) : Round where
  toolCalls := stop.roundToolCalls
  pendingIndex := stop.interrupt.pendingIndex
  completedResults := stop.interrupt.completedResults
  priorResults := priorResults

omit [CharData] in
theorem readRound_eq [NumberData] {prior : List Json} {marker : Dict} (pending : Dict)
    (calls : stop.roundToolCalls ≠ [])
    (results : stop.toolResults = prior ++ stop.interrupt.completedResults ++ [.obj marker])
    (asked : marker.get "status" = .str "approval_required") :
    readRound checkpoint pending = .ok (storedRound stop prior) := by
  have some : (Json.arr stop.roundToolCalls).truthy = true := by simpa [Json.truthy] using calls
  have marked : markerCount stop.toolResults = .ok 1 := by
    rw [results, markerCount, List.getLast?_concat]
    simp only [Json.receiver, bind, Except.bind, asked, if_true]
    rfl
  have counted : stop.toolResults.length - stop.interrupt.completedResults.length - 1 = prior.length := by
    rw [results]
    simp only [List.length_append, List.length_singleton]
    omega
  simp only [readRound, stored.roundToolCalls, stored.pendingIndex, stored.completedResults,
    stored.toolResults, Json.or_of_truthy some, Json.or_arr_nil, Json.or_int_zero, Json.toList, Json.toInt,
    marked, bind, Except.bind, counted, pure, Except.pure]
  rw [results, List.append_assoc, List.take_left]
  rfl

/-- The round with another call in the place of the pending one. -/
theorem closeRound_replaced {done rest : List LLMToolCall} {call : LLMToolCall} {round : Round}
    (calls : round.toolCalls = (done ++ call :: rest).map fun call => .obj (callOf call))
    (index : round.pendingIndex = done.length) (other : LLMToolCall) (results : List Json) :
    closeRound checkpoint round (callOf other) results =
      if (done ++ other :: rest).length < results.length then
        .error ⟨.indexError, "list index out of range"⟩
      else .ok (roundMessages stop.messages ((done ++ other :: rest).map callOf) results, stop.toolCalls) := by
  have replaced : setItem round.toolCalls round.pendingIndex (.obj (callOf other)) =
      .ok (((done ++ other :: rest).map callOf).map .obj) := by
    rw [calls, index, setItem_natCast _ (by simp), List.map_map]
    simp [Function.comp_def]
  have appended : appendToolMessages stop.messages (((done ++ other :: rest).map callOf).map .obj) results =
      if (done ++ other :: rest).length < results.length then
        .error ⟨.indexError, "list index out of range"⟩
      else .ok (roundMessages stop.messages ((done ++ other :: rest).map callOf) results) := by
    rw [appendToolMessages, mapM_receiver]
    simp only [bind, Except.bind, List.length_map]
    by_cases short : (done ++ other :: rest).length < results.length
    · rw [if_pos short, if_pos short]
      rfl
    · rw [if_neg short, if_neg short]
      rfl
  simp only [closeRound, replaced, stored.messages, stored.toolCalls, Json.or_arr_nil, Json.toList, appended,
    bind, Except.bind, pure, Except.pure]
  by_cases short : (done ++ other :: rest).length < results.length
  · rw [if_pos short, if_pos short]
  · rw [if_neg short, if_neg short]

theorem closeRound_eq {done rest : List LLMToolCall} {call : LLMToolCall} {round : Round}
    (calls : round.toolCalls = (done ++ call :: rest).map fun call => .obj (callOf call))
    (index : round.pendingIndex = done.length) {results : List Json}
    (counted : results.length = (done ++ call :: rest).length) :
    closeRound checkpoint round (callOf (normalizedCall call)) results =
      .ok (roundMessages stop.messages ((done ++ normalizedCall call :: rest).map callOf) results,
        stop.toolCalls) := by
  have enough : ¬(done ++ normalizedCall call :: rest).length < results.length := by
    rw [counted, List.length_append, List.length_append, List.length_cons, List.length_cons]
    exact Nat.lt_irrefl _
  rw [closeRound_replaced stored calls index, if_neg enough]

end Readers

end SoulClaw.Runtime.Checkpoints
