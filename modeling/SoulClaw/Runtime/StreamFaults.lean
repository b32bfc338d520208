import SoulClaw.Runtime.RemoteTasks
import SoulClaw.Runtime.StreamFold

/-! What a remote agent can do to a delegation with its stream: which results make the loop raise, and which streams
make the runtime send the message again although the agent has begun to work. -/

namespace SoulClaw.Runtime.StreamFaults
open Foundation Domain.A2ATasks A2A RemoteResults Streaming StreamTurns StreamFold RemoteTasks

section Raising
variable [CharData] [UpperData] (uuid4 : Nat → Uuid)

end Raising

section NullStatus
attribute [local instance] CharData.ascii UpperData.ascii

def nullStatus : Dict := [("statusUpdate", .obj [("taskId", .str "remote-1"), ("status", .null)])]

end NullStatus

section Starting
variable [CharData] [UpperData]

/-- The task stays open behind a part of the stream exactly when none of all the results closes it. -/
theorem processed_open_iff {status : String} (goesOn : closing status = false) (results : List Dict) :
    closing (statusAfter status (processed status results)) = false ↔
      ∀ result ∈ results, closing (statusGiven result) = false := by
  induction results generalizing status with
  | nil => exact iff_of_true goesOn fun _ member => absurd member List.not_mem_nil
  | cons result rest ih =>
    have given : closing (orKept (statusGiven result) status) = closing (statusGiven result) := by
      unfold orKept
      split
      next empty =>
        rw [empty, goesOn]
        rfl
      next => rfl
    rw [List.forall_mem_cons, ← given]
    cases reached : closing (orKept (statusGiven result) status) with
    | true =>
      have stops : closing (statusAfter (orKept (statusGiven result) status) []) = true := reached
      rw [processed_cons_of_closing rest reached, statusAfter_cons, stops]
      simp
    | false =>
      rw [processed_cons_of_open rest reached, statusAfter_cons, ih reached]
      simp

theorem processed_of_open {status : String} {results : List Dict} (goesOn : closing status = false)
    (stays : closing (statusAfter status (processed status results)) = false) : processed status results = results := by
  rcases (processed_spec goesOn results).stops with closes | all
  · rw [stays] at closes
    cases closes
  · exact all

variable (uuid4 : Nat → Uuid)

/-- The stream has yielded results, none of which is malformed or closes the task, and then fails as if there were no
streaming. -/
def disowned (reply : StreamReply) : Bool :=
  let (results, ending) := callJsonrpcStream reply
  results ≠ [] && results.all (fun result => !malformed result && !closing (statusGiven result)) &&
    ending.any Failure.fallsBack

omit [UpperData] in
theorem looksLike_of_fallsBack {kind : ExceptionKind} {message : String}
    (falls : (Failure.raised ⟨kind, message⟩).fallsBack = true) : looksLikeStreamingUnsupported message = true := by
  unfold Failure.fallsBack at falls
  exact (Bool.and_eq_true_iff.1 falls).2

omit [UpperData] in
/-- Behind the start of a stream, only an error object whose text says so looks like a missing method. -/
theorem error_of_yields {broken : Option String} {events : List Dict} {failure : Failure}
    (ended : (yields broken events).2 = some failure) (falls : failure.fallsBack = true) :
    ∃ event ∈ events, ((envelopeOf event).get "error").truthy = true ∧
      looksLikeStreamingUnsupported ((envelopeOf event).get "error").dumps = true := by
  induction events with
  | nil =>
    cases broken with
    | none => cases ended
    | some message =>
      obtain rfl := Option.some.inj ended
      cases falls
  | cons event rest ih =>
    rw [yields] at ended
    dsimp only at ended
    by_cases error : ((envelopeOf event).get "error").truthy = true
    · rw [if_pos error] at ended
      refine ⟨event, List.mem_cons_self, error, ?_⟩
      generalize ((envelopeOf event).get "error").dumps = message at ended ⊢
      rw [← Option.some.inj ended] at falls
      exact looksLike_of_fallsBack falls
    · rw [if_neg error] at ended
      have later : (yields broken rest).2 = some failure := by
        split at ended
        · exact ended
        · exact ended
      obtain ⟨other, member, found⟩ := ih later
      exact ⟨other, List.mem_cons_of_mem _ member, found⟩

theorem disowned_error {reply : StreamReply} (disowns : disowned reply = true) :
    ∃ events broken, reply = .opened events broken ∧ ∃ event ∈ events, ((envelopeOf event).get "error").truthy = true ∧
      looksLikeStreamingUnsupported ((envelopeOf event).get "error").dumps = true := by
  unfold disowned at disowns
  rw [Bool.and_eq_true, Bool.and_eq_true, decide_eq_true_eq] at disowns
  obtain ⟨⟨some_, _⟩, fails⟩ := disowns
  obtain ⟨failure, ended, falls⟩ := (Option.any_eq_true _ _).1 fails
  cases reply with
  | refused code message => exact absurd rfl some_
  | unreachable message => exact absurd rfl some_
  | opened events broken => exact ⟨events, broken, rfl, error_of_yields ended falls⟩

/-- The streamed message fails so that the plain one is tried exactly when the stream does so behind results that leave
the task open. -/
theorem fallsBack_iff (store : Store) (taskId : String) (results : List Dict) (ending : Option Failure) :
    (∃ failure, (sendStreamingMessage uuid4 store taskId results ending).1 = .error failure ∧ failure.fallsBack = true) ↔
      (∀ result ∈ results, malformed result = false ∧ closing (statusGiven result) = false) ∧
        ∃ failure, ending = some failure ∧ failure.fallsBack = true := by
  have same : ∀ failure, (sendStreamingMessage uuid4 store taskId results ending).1 = .error failure ↔
      (loop uuid4 ending taskId store {} results).1 = .error failure := by
    intro failure
    unfold sendStreamingMessage
    cases loop uuid4 ending taskId store {} results with
    | mk returned left => cases returned <;> simp
  simp only [same]
  by_cases broken : ∃ result ∈ processed "working" results, malformed result = true
  · have reached : ∃ result ∈ processed ({} : Fold).status results, malformed result = true := broken
    obtain ⟨message, raised⟩ := loop_raises uuid4 taskId ending reached store
    obtain ⟨result, member, bad⟩ := broken
    constructor
    · rintro ⟨failure, failed, falls⟩
      rw [show _ = Except.error _ from raised, Except.error.injEq] at failed
      rw [← failed] at falls
      cases falls
    · rintro ⟨good, _⟩
      rw [(good result (processed_subset _ _ member)).1] at bad
      cases bad
  · have wellFormed : ∀ result ∈ processed "working" results, malformed result = false :=
      fun result member => by simpa using fun bad => broken ⟨result, member, bad⟩
    rw [loop_returned uuid4 taskId ending working_open wellFormed]
    cases stays : closing (statusAfter "working" (processed "working" results)) with
    | true =>
      rw [if_pos rfl]
      constructor
      · rintro ⟨failure, failed, _⟩
        cases failed
      · rintro ⟨good, _⟩
        rw [(processed_open_iff working_open results).2 fun result member => (good result member).2] at stays
        cases stays
    | false =>
      have quiet := (processed_open_iff working_open results).1 stays
      rw [processed_of_open working_open stays] at wellFormed
      rw [if_neg Bool.false_ne_true]
      cases ending with
      | none => simp
      | some failure =>
        simp only [Except.error.injEq, Option.some.injEq]
        constructor
        · exact fun found => ⟨fun result member => ⟨wellFormed result member, quiet result member⟩, found⟩
        · exact And.right

variable (remote : Remote)

/-- A plain message has been sent. -/
def sentPlain (outcome : Outcome) : Prop := ∃ request ∈ outcome.sent, request.method = "SendMessage"

theorem sendPlain_sent (store : Store) (taskId : String) (params : Dict) (sent : List Sent) :
    (sendPlain uuid4 remote store taskId params sent).sent = sent ++ [⟨"SendMessage", params⟩] := by
  unfold sendPlain
  dsimp only
  split <;> rfl

theorem sentPlain_sendPlain (store : Store) (taskId : String) (params : Dict) (sent : List Sent) :
    sentPlain (sendPlain uuid4 remote store taskId params sent) :=
  ⟨⟨"SendMessage", params⟩, by rw [sendPlain_sent]; exact List.mem_append_right _ List.mem_cons_self, rfl⟩

theorem sentPlain_sendWith {connection : A2AAgentConnection} (streams : supportsStreaming connection = true)
    (store : Store) (taskId : String) (params : Dict) :
    sentPlain (sendWith uuid4 remote store connection taskId params) ↔
      ∃ failure, (sendStreamingMessage uuid4 store taskId (callJsonrpcStream (remote.stream params)).1
        (callJsonrpcStream (remote.stream params)).2).1 = .error failure ∧ failure.fallsBack = true := by
  have alone : ∀ returned left, ¬sentPlain ⟨returned, left, [⟨"SendStreamingMessage", params⟩]⟩ := by
    rintro returned left ⟨request, member, plain⟩
    have other : "SendStreamingMessage" ≠ "SendMessage" := by decide
    rw [List.mem_singleton.1 member] at plain
    exact other plain
  unfold sendWith
  rw [if_pos streams]
  dsimp only
  cases sendStreamingMessage uuid4 store taskId (callJsonrpcStream (remote.stream params)).1
    (callJsonrpcStream (remote.stream params)).2 with
  | mk returned left =>
    cases returned with
    | ok report =>
      refine iff_of_false (alone _ _) ?_
      rintro ⟨failure, failed, _⟩
      cases failed
    | error failure =>
      dsimp only
      by_cases falls : failure.fallsBack = true
      · rw [if_pos falls]
        exact iff_of_true (sentPlain_sendPlain uuid4 remote _ taskId params _) ⟨failure, rfl, falls⟩
      · rw [if_neg falls]
        refine iff_of_false (alone _ _) ?_
        rintro ⟨other, failed, yes⟩
        cases failed
        exact falls yes

/-- The message is not sent again behind the first result, exactly when the stream does not disown results that leave
the task open. -/
theorem sends_once_iff (store : Store) (connection : A2AAgentConnection) (task : A2ATask) (request : A2ADelegateRequest) :
    let reply := remote.stream (messageParams (uuid4 store.drawn).hex task.contextId connection request)
    (supportsStreaming connection = true → (callJsonrpcStream reply).1 ≠ [] →
        ¬sentPlain (sendA2aMessage uuid4 remote store connection task request)) ↔
      ¬(supportsStreaming connection = true ∧ disowned reply = true) := by
  intro reply
  by_cases streams : supportsStreaming connection = true
  · unfold sendA2aMessage
    dsimp only
    rw [sentPlain_sendWith uuid4 remote streams, fallsBack_iff]
    show (_ → (callJsonrpcStream reply).1 ≠ [] → _) ↔ _
    unfold disowned
    generalize callJsonrpcStream reply = yielded
    obtain ⟨results, ending⟩ := yielded
    have ended : (ending.any Failure.fallsBack = true) ↔ ∃ failure, ending = some failure ∧ failure.fallsBack = true :=
      Option.any_eq_true _ _
    have open_ : (results.all (fun result => !malformed result && !closing (statusGiven result)) = true) ↔
        ∀ result ∈ results, malformed result = false ∧ closing (statusGiven result) = false := by
      simp [List.all_eq_true]
    rw [Bool.and_eq_true, Bool.and_eq_true, ended, open_, decide_eq_true_eq]
    constructor
    · rintro once ⟨_, ⟨some_, good⟩, fails⟩
      exact once streams some_ ⟨good, fails⟩
    · rintro once _ some_ ⟨good, fails⟩
      exact once ⟨streams, ⟨some_, good⟩, fails⟩
  · exact iff_of_true (fun yes => absurd yes streams) fun both => streams both.1

end Starting

section Interrupted
attribute [local instance] CharData.ascii UpperData.ascii

/-- An agent that begins to work and then reports an error that mentions its stream. -/
def interrupted : Remote where
  stream _ := .opened
    [[("result", .obj [("task", .obj [("id", .str "remote-1"), ("status", .obj [("state", .str "TASK_STATE_WORKING")])])])],
      [("error", .obj [("code", .int (-32000)), ("message", .str "streaming interrupted")])]]
  call _ _ := .ok (.obj [("result", .obj [("task", .obj [("id", .str "remote-2")])])])

theorem interrupted_sends_again :
    let reply := interrupted.stream
      (messageParams (Uuid.hex ⟨0⟩) "a2a_ctx_1" { name := "searcher" } { capability := "research", query := "question" })
    ¬(supportsStreaming { name := "searcher" } = true → (callJsonrpcStream reply).1 ≠ [] →
      ¬sentPlain (sendA2aMessage (fun _ => ⟨0⟩) interrupted researchStore { name := "searcher" } researchTask
        { capability := "research", query := "question" })) := by
  intro reply once
  apply once
  · decide +kernel
  · decide +kernel
  · show ∃ request ∈ (sendA2aMessage (fun _ => ⟨0⟩) interrupted researchStore { name := "searcher" } researchTask
      { capability := "research", query := "question" }).sent, request.method = "SendMessage"
    decide +kernel

end Interrupted

end SoulClaw.Runtime.StreamFaults
