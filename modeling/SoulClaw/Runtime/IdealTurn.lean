import SoulClaw.Domain.ToolEffects
import SoulClaw.Runtime.Agent
import Mathlib.Data.List.Forall2

/-! The tool loop of a turn as it is meant: a model that answers message lists, tools whose
results depend on what has been executed so far, and no approval anywhere. The number of a
tool run is no part of it, so a transcript is a list of entries that messages render. -/

namespace SoulClaw.Runtime.IdealTurn
open Foundation Domain.Tools Domain.ToolEffects Agent

/-! Transcripts up to the numbers of the tool runs. -/

inductive Entry where
  | message (content : Json)
  | answer (toolCallId toolName : String) (result : Json)
  deriving DecidableEq, Repr

/-- The message that an entry is sent as; the answer of a tool carries the number of its run. -/
def Entry.render (run : Nat) : Entry → Json
  | message content => content
  | answer toolCallId toolName result => toolMessage toolCallId (.obj (toolReport run toolName result))

def Renders (entry : Entry) (message : Json) : Prop := ∃ run, message = entry.render run

def SameMessage (first second : Json) : Prop := ∃ entry : Entry, Renders entry first ∧ Renders entry second

/-- The same messages, up to the `tool_run_id` of the tool answers. -/
def SameTranscript (first second : List Json) : Prop := List.Forall₂ SameMessage first second

theorem sameTranscript_of_renders {entries : List Entry} {first second : List Json}
    (left : List.Forall₂ Renders entries first) (right : List.Forall₂ Renders entries second) :
    SameTranscript first second := by
  induction left generalizing second with
  | nil =>
    cases right
    exact List.Forall₂.nil
  | cons here _ ih =>
    cases right with
    | cons there rest => exact List.Forall₂.cons ⟨_, here, there⟩ (ih rest)

/-- The transcript in which every tool answer comes from run zero. -/
def canonical (entries : List Entry) : List Json := entries.map (Entry.render 0)

theorem renders_canonical (entries : List Entry) : List.Forall₂ Renders entries (canonical entries) := by
  rw [canonical, List.forall₂_map_right_iff, List.forall₂_same]
  exact fun entry _ => ⟨0, rfl⟩

theorem renders_messages (messages : List Json) :
    List.Forall₂ Renders (messages.map .message) messages := by
  rw [List.forall₂_map_left_iff, List.forall₂_same]
  exact fun message _ => ⟨0, rfl⟩

/-! The parties of a turn. -/

/-- A model whose response depends on the messages only, and on no number of a tool run. -/
structure Model where
  complete : List Json → LLMResponse
  stable : ∀ first second, SameTranscript first second → complete first = complete second

theorem Model.complete_of_renders (model : Model) {entries : List Entry} {messages : List Json}
    (renders : List.Forall₂ Renders entries messages) :
    model.complete messages = model.complete (canonical entries) :=
  model.stable _ _ (sameTranscript_of_renders renders (renders_canonical entries))

/-- A tool execution: the name of the tool and its arguments. -/
abbrev Execution := String × Dict

/-- The result of an execution behind those that have completed. -/
abbrev Results := List Execution → String → Dict → Json

def executionOf (call : LLMToolCall) : Execution := (call.name, call.arguments.dict)

/-- The model may request this execution. -/
def Model.Requests (model : Model) (execution : Execution) : Prop :=
  ∃ messages, ∃ call ∈ (model.complete messages).toolCalls, executionOf call = execution

/-! A round of calls. -/

/-- The names and results with which the calls of a round are answered. -/
def idealRound (result : Results) : List Execution → List Execution → List (String × Json)
  | _, [] => []
  | history, (toolName, arguments) :: rest =>
      (toolName, result history toolName arguments) ::
        idealRound result (history ++ [(toolName, arguments)]) rest

theorem idealRound_append (result : Results) (history first second : List Execution) :
    idealRound result history (first ++ second) =
      idealRound result history first ++ idealRound result (history ++ first) second := by
  induction first generalizing history with
  | nil => rw [List.nil_append, List.append_nil, idealRound, List.nil_append]
  | cons execution rest ih =>
    rw [List.cons_append, idealRound, ih, idealRound, List.cons_append, List.append_assoc,
      List.singleton_append]

theorem length_idealRound (result : Results) (history calls : List Execution) :
    (idealRound result history calls).length = calls.length := by
  induction calls generalizing history with
  | nil => rfl
  | cons execution rest ih => rw [idealRound, List.length_cons, ih, List.length_cons]

/-- What `execute` returns for an answered call, whatever the number of its run. -/
def ReportOf (report : String × Json) (result : Json) : Prop :=
  ∃ run, result = .obj (toolReport run report.1 report.2)

section Round
variable [CharData]

def answerEntry (toolCallId : String) (report : String × Json) : Entry :=
  .answer toolCallId report.1 report.2

def roundEntries (calls : List Dict) (reports : List (String × Json)) : List Entry :=
  .message (assistantMessage calls) :: List.zipWith answerEntry (calls.mapIdx callId) reports

omit [CharData] in
theorem renders_answers (ids : List String) {reports : List (String × Json)} {results : List Json}
    (matched : List.Forall₂ ReportOf reports results) :
    List.Forall₂ Renders (List.zipWith answerEntry ids reports) (List.zipWith toolMessage ids results) := by
  induction matched generalizing ids with
  | nil =>
    rw [List.zipWith_nil_right, List.zipWith_nil_right]
    exact List.Forall₂.nil
  | cons here _ ih =>
    cases ids with
    | nil => exact List.Forall₂.nil
    | cons id ids =>
      obtain ⟨run, rfl⟩ := here
      exact List.Forall₂.cons ⟨run, rfl⟩ (ih ids)

/-- The messages behind a round render the entries behind it. -/
theorem renders_round {entries : List Entry} {messages results : List Json}
    {reports : List (String × Json)} (calls : List Dict) (before : List.Forall₂ Renders entries messages)
    (matched : List.Forall₂ ReportOf reports results) :
    List.Forall₂ Renders (entries ++ roundEntries calls reports) (roundMessages messages calls results) := by
  unfold roundEntries roundMessages
  apply List.rel_append before
  exact List.Forall₂.cons ⟨0, rfl⟩ (renders_answers _ matched)

end Round

/-! The loop. -/

/-- How far a turn has come. -/
structure Progress where
  entries : List Entry
  history : List Execution
  requests : Nat
  calls : Nat

structure IdealOutput where
  answer : Json
  status : LlmStatus
  progress : Progress

section Loop
variable [CharData] (model : Model) (result : Results)

def Progress.response (progress : Progress) : LLMResponse := model.complete (canonical progress.entries)

/-- The progress behind a round, with the request that follows it. -/
def Progress.round (progress : Progress) (calls : List LLMToolCall) : Progress where
  entries := progress.entries ++
    roundEntries (calls.map callOf) (idealRound result progress.history (calls.map executionOf))
  history := progress.history ++ calls.map executionOf
  requests := progress.requests + 1
  calls := progress.calls + calls.length

def idealLoop : Nat → LLMResponse → Progress → LlmStatus → IdealOutput
  | 0, response, progress, _ => ⟨response.content, .maxToolRounds, progress⟩
  | remaining + 1, response, progress, status =>
      if response.toolCalls = [] then ⟨response.content, status, progress⟩
      else
        let next := progress.round result response.toolCalls
        idealLoop remaining (next.response model) next .completedWithTools

/-- A turn from its first messages on. -/
def idealTurn (world : World) (messages : List Json) : IdealOutput :=
  idealLoop model result 4 (model.complete messages)
    { entries := messages.map .message
      history := completed world
      requests := world.requests.length + 1
      calls := 0 } .completed

/-- What a turn has said stays said. -/
theorem idealLoop_extends (remaining : Nat) (response : LLMResponse) (progress : Progress)
    (status : LlmStatus) :
    progress.entries <+: (idealLoop model result remaining response progress status).progress.entries := by
  induction remaining generalizing response progress status with
  | zero => exact List.prefix_rfl
  | succ remaining ih =>
    rw [idealLoop]
    split
    · exact List.prefix_rfl
    · exact (List.prefix_append _ _).trans (ih _ (progress.round result response.toolCalls) _)

end Loop

/-! What it means that a turn of the code does as it is meant. -/

/-- The messages, the calls and the world of a turn that has come this far. -/
structure Tracks (progress : Progress) (messages allCalls : List Json) (world : World) : Prop where
  entries : List.Forall₂ Renders progress.entries messages
  history : completed world = progress.history
  requests : world.requests.length = progress.requests
  calls : allCalls.length = progress.calls

structure Meets (ideal : IdealOutput) (output : LoopOutput) (last : World) : Prop where
  answer : output.answer = ideal.answer
  status : output.status = ideal.status
  tracks : Tracks ideal.progress output.messages output.toolCalls last

/-- Two turns with the same tool executions, the same transcript and the same answer, after as
many requests to the model and as many calls of tools. -/
structure SameTurn (first : LoopOutput) (last : World) (second : LoopOutput) (finish : World) : Prop where
  executions : completed last = completed finish
  transcript : SameTranscript first.messages second.messages
  answer : first.answer = second.answer
  status : first.status = second.status
  requests : last.requests.length = finish.requests.length
  calls : first.toolCalls.length = second.toolCalls.length

theorem Meets.sameTurn {ideal : IdealOutput} {first second : LoopOutput} {last finish : World}
    (left : Meets ideal first last) (right : Meets ideal second finish) :
    SameTurn first last second finish := by
  constructor
  · rw [left.tracks.history, right.tracks.history]
  · exact sameTranscript_of_renders left.tracks.entries right.tracks.entries
  · rw [left.answer, right.answer]
  · rw [left.status, right.status]
  · rw [left.tracks.requests, right.tracks.requests]
  · rw [left.tracks.calls, right.tracks.calls]

end SoulClaw.Runtime.IdealTurn
