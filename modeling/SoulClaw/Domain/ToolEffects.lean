import SoulClaw.Domain.Tools

/-! What an execution changes. The effects of a handler call depend on the registry and the
arguments only, so they are a trace that can be computed without running any body. -/

namespace SoulClaw.Domain.ToolEffects
open Foundation Approvals Tools Runtime.A2A

def logAll (world : World) (effects : List Effect) : World :=
  { world with effects := world.effects ++ effects }

@[simp] theorem logAll_nil (world : World) : logAll world [] = world := by
  rw [logAll, List.append_nil]

theorem logAll_log (world : World) (effect : Effect) (effects : List Effect) :
    logAll (world.log effect) effects = logAll world (effect :: effects) := by
  simp only [logAll, World.log, List.append_assoc, List.singleton_append]

variable [CharData] (tools : ToolRuntime)

def delegationTrace (approved : Approved) (arguments : Dict) : List Effect :=
  if tools.a2aConfigured && (!(delegateToolRequest arguments).highRisk || carriesApproval arguments) then
    [.delegated (delegateToolRequest arguments) approved]
  else []

/-- The effects of one handler call. -/
def trace (approved : Approved) : Nat → Bool → ToolDefinition → Handler → Dict → List Effect
  | 0, _, _, _, _ => []
  | limit + 1, throughToolCall, tool, handler, arguments =>
      .ran tool arguments approved throughToolCall ::
        match handler with
        | .other => []
        | .a2aDelegate => delegationTrace tools approved arguments
        | .toolCall =>
            match toolCallTarget tools arguments with
            | .error _ => []
            | .ok (target, handler) =>
                if target.gatedTarget && !carriesApproval arguments then []
                else trace approved limit true target handler (toolCallArguments arguments)

/-- The tool that `execute` hands over to, and its handler: known, available and past both the
approval gate and the safety floor. -/
def admitted (toolName : String) (arguments : Dict) (approved : Approved) :
    Option (ToolDefinition × Handler) :=
  match tools.registry toolName with
  | none => none
  | some definition =>
      match definition.handler with
      | none => none
      | some handler =>
          if definition.available && (!definition.requiresApproval || approved.granted) &&
              (validate tools.search definition arguments approved.granted).toBool then
            some (definition, handler)
          else none

def handlerArguments (arguments : Dict) (approved : Approved) : Dict :=
  if approved.granted then arguments.set "_approved" (.bool true) else arguments

/-- The effects of one execution. -/
def executionTrace (toolName : String) (arguments : Dict) (approved : Approved) : List Effect :=
  match admitted tools toolName arguments approved with
  | none => []
  | some (definition, handler) =>
      trace tools approved (tools.recursionLimit + 1) false definition handler
        (handlerArguments arguments approved)

/-! A handler call logs its trace and changes nothing else. -/

theorem a2aDelegate_world (approved : Approved) (world : World) (arguments : Dict) :
    (a2aDelegate tools approved world arguments).2 =
      logAll world (delegationTrace tools approved arguments) := by
  unfold a2aDelegate delegationTrace
  generalize delegateToolRequest arguments = request
  cases tools.a2aConfigured with
  | false => exact (logAll_nil world).symm
  | true =>
    simp only [Bool.not_true, Bool.false_eq_true, if_false, Bool.true_and]
    generalize carriesApproval arguments = carried
    cases request.highRisk <;> cases carried <;> simp [delegate, logAll, World.log]

theorem handle_world (approved : Approved) (limit : Nat) (throughToolCall : Bool) (world : World)
    (tool : ToolDefinition) (handler : Handler) (arguments : Dict) :
    (handle tools approved limit throughToolCall world tool handler arguments).2 =
      logAll world (trace tools approved limit throughToolCall tool handler arguments) := by
  induction limit generalizing throughToolCall world tool handler arguments with
  | zero => exact (logAll_nil world).symm
  | succ limit ih =>
    cases handler with
    | other =>
      rw [handle, trace]
      rfl
    | a2aDelegate =>
      rw [handle, trace, ← logAll_log]
      exact a2aDelegate_world tools approved _ arguments
    | toolCall =>
      rw [handle, trace, ← logAll_log]
      cases toolCallTarget tools arguments with
      | error error => exact (logAll_nil _).symm
      | ok target =>
        obtain ⟨target, handler⟩ := target
        by_cases gated : (target.gatedTarget && !carriesApproval arguments) = true
        · simp only [if_pos gated]
          exact (logAll_nil _).symm
        · simp only [if_neg gated]
          rw [← ih]
          cases handle tools approved limit true _ target handler (toolCallArguments arguments) with
          | mk outcome after => cases outcome <;> rfl

/-! An execution. -/

omit [CharData] in
theorem createToolApproval_effects (world : World) (request : ApprovalRequest) :
    (createToolApproval tools world request).2.effects = world.effects := by
  unfold createToolApproval
  split <;> rfl

theorem runTool_effects (world : World) (definition : ToolDefinition) (handler : Handler)
    (toolName : String) (arguments : Dict) (turnId : String) (approved : Approved) :
    (runTool tools world definition handler toolName arguments turnId approved).2.effects =
      world.effects ++ trace tools approved (tools.recursionLimit + 1) false definition handler
        (handlerArguments arguments approved) := by
  have logged := handle_world tools approved (tools.recursionLimit + 1) false
    (world.startRun { turnId := turnId, toolName := toolName, arguments := arguments }) definition
    handler (handlerArguments arguments approved)
  unfold handlerArguments at logged ⊢
  unfold runTool
  simp only
  cases called : handle tools approved (tools.recursionLimit + 1) false _ definition handler _ with
  | mk outcome after =>
    rw [called] at logged
    have effects := congrArg World.effects logged
    cases outcome with
    | ok result => exact effects
    | error error =>
      by_cases denied : error.kind = .permissionError
      · simp only [if_pos denied]
        exact (createToolApproval_effects tools after _).trans effects
      · simp only [if_neg denied]
        exact effects

theorem execute_of_admitted {toolName : String} {arguments : Dict} {approved : Approved}
    {definition : ToolDefinition} {handler : Handler}
    (passed : admitted tools toolName arguments approved = some (definition, handler))
    (world : World) (turnId : String) :
    execute tools world toolName arguments turnId approved =
      runTool tools world definition handler toolName arguments turnId approved := by
  unfold admitted at passed
  unfold execute
  cases found : tools.registry toolName with
  | none => simp [found] at passed
  | some known =>
    cases callable : known.handler with
    | none => simp [found, callable] at passed
    | some body =>
      simp only [found, callable, Option.ite_none_right_eq_some, Option.some.injEq, Prod.mk.injEq,
        Bool.and_eq_true, Bool.or_eq_true, Bool.not_eq_true'] at passed
      obtain ⟨⟨⟨available, gate⟩, floor⟩, rfl, rfl⟩ := passed
      have open_ : (known.requiresApproval && !approved.granted) = false := by
        rcases gate with free | granted
        · rw [free, Bool.false_and]
        · rw [granted, Bool.not_true, Bool.and_false]
      simp only [callable, available, open_, Bool.not_true, Bool.false_eq_true, if_false]
      cases valid : validate tools.search known arguments approved.granted with
      | error error => simp [valid, Except.toBool] at floor
      | ok => rfl

theorem execute_of_not_admitted {toolName : String} {arguments : Dict} {approved : Approved}
    (refused : admitted tools toolName arguments approved = none) (world : World) (turnId : String) :
    (∃ error, execute tools world toolName arguments turnId approved = (.error (.raised error), world)) ∨
      approved.granted = false ∧
      execute tools world toolName arguments turnId approved =
        (let (approval, asked) :=
            createToolApproval tools world (toolApprovalRequest toolName arguments turnId false)
        (.error (.approvalRequired ("tool requires approval: " ++ toolName) toolName approval), asked)) := by
  unfold admitted at refused
  unfold execute
  cases found : tools.registry toolName with
  | none => exact .inl ⟨_, rfl⟩
  | some known =>
    cases callable : known.handler with
    | none =>
      simp only [callable]
      exact .inl ⟨_, rfl⟩
    | some body =>
      cases available : known.available with
      | false =>
        simp only [callable, available, Bool.not_false, if_true]
        exact .inl ⟨_, rfl⟩
      | true =>
        by_cases gate : (known.requiresApproval && !approved.granted) = true
        · refine .inr ⟨by simpa using (Bool.and_eq_true_iff.1 gate).2, ?_⟩
          simp only [callable, available, gate, Bool.not_true, Bool.false_eq_true, if_false, if_true]
        · simp only [callable, available, gate, Bool.not_true, Bool.false_eq_true, if_false]
          cases valid : validate tools.search known arguments approved.granted with
          | error error => exact .inl ⟨_, rfl⟩
          | ok =>
            exfalso
            simp [found, callable, available, valid, Except.toBool] at refused
            exact gate (by simp [refused.1, refused.2])

theorem execute_effects (world : World) (toolName : String) (arguments : Dict) (turnId : String)
    (approved : Approved) :
    (execute tools world toolName arguments turnId approved).2.effects =
      world.effects ++ executionTrace tools toolName arguments approved := by
  unfold executionTrace
  cases passed : admitted tools toolName arguments approved with
  | some called =>
    rw [execute_of_admitted tools passed, runTool_effects]
  | none =>
    rw [List.append_nil]
    rcases execute_of_not_admitted tools passed world turnId with ⟨error, raised⟩ | ⟨_, asked⟩
    · rw [raised]
    · rw [asked]
      exact createToolApproval_effects tools world _

/-! The handler calls that the decision on a stored approval starts. -/

def isStoredRun (id : Nat) : Effect → Bool
  | .ran _ _ (.stored approval) false => approval = id
  | _ => false

/-- How often the call of an approval has been handed to its handler. -/
def storedRuns (id : Nat) (world : World) : Nat := world.effects.countP (isStoredRun id)

theorem nested_storedRuns (id : Nat) (approved : Approved) (limit : Nat) (tool : ToolDefinition)
    (handler : Handler) (arguments : Dict) :
    (trace tools approved limit true tool handler arguments).countP (isStoredRun id) = 0 := by
  induction limit generalizing tool handler arguments with
  | zero => rfl
  | succ limit ih =>
    have entered : isStoredRun id (.ran tool arguments approved true) = false := by
      cases approved <;> rfl
    rw [trace.eq_def]
    simp only [List.countP_cons, entered, Bool.false_eq_true, if_false, Nat.add_zero]
    cases handler with
    | other => rfl
    | a2aDelegate =>
      simp only [delegationTrace]
      split <;> rfl
    | toolCall =>
      cases toolCallTarget tools arguments with
      | error error => rfl
      | ok target =>
        simp only
        split
        · rfl
        · exact ih _ _ _

theorem trace_storedRuns (id : Nat) (approved : Approved) (limit : Nat) (tool : ToolDefinition)
    (handler : Handler) (arguments : Dict) :
    (trace tools approved (limit + 1) false tool handler arguments).countP (isStoredRun id) =
      if approved = .stored id then 1 else 0 := by
  have entered : isStoredRun id (.ran tool arguments approved false) = decide (approved = .stored id) := by
    cases approved <;> simp [isStoredRun]
  have rest : ∀ effects : List Effect, effects.countP (isStoredRun id) = 0 →
      (Effect.ran tool arguments approved false :: effects).countP (isStoredRun id) =
        if approved = .stored id then 1 else 0 := by
    intro effects none
    rw [List.countP_cons, none, entered, Nat.zero_add]
    simp only [decide_eq_true_eq]
  rw [trace.eq_def]
  apply rest
  cases handler with
  | other => rfl
  | a2aDelegate =>
    simp only [delegationTrace]
    split <;> rfl
  | toolCall =>
    cases toolCallTarget tools arguments with
    | error error => rfl
    | ok target =>
      simp only
      split
      · rfl
      · exact nested_storedRuns tools id approved limit _ _ _

theorem execute_storedRuns (id : Nat) (world : World) (toolName : String) (arguments : Dict)
    (turnId : String) (approved : Approved) :
    storedRuns id (execute tools world toolName arguments turnId approved).2 =
      storedRuns id world +
        if approved = .stored id ∧ (admitted tools toolName arguments approved).isSome then 1 else 0 := by
  rw [storedRuns, execute_effects, List.countP_append, storedRuns, executionTrace]
  cases passed : admitted tools toolName arguments approved with
  | none => simp
  | some called =>
    simp only [trace_storedRuns, Option.isSome_some, and_true]

/-! The rows that an execution writes. -/

/-- The tool executions that have completed, in order. -/
def completed (world : World) : List (String × Dict) :=
  (world.toolRuns.rows.filter fun run => run.status = .succeeded).map fun run =>
    (run.toolName, run.arguments)

omit [CharData] in
theorem completed_insert {world after : World} {run : ToolRun}
    (added : after.toolRuns = world.toolRuns.insert run) :
    completed after =
      completed world ++ if run.status = .succeeded then [(run.toolName, run.arguments)] else [] := by
  unfold completed
  rw [added, Table.insert, List.filter_append, List.map_append]
  congr 1
  by_cases done : run.status = .succeeded
  · rw [if_pos done, List.filter_cons_of_pos (by simpa using done)]
    rfl
  · rw [if_neg done, List.filter_cons_of_neg (by simpa using done)]
    rfl

/-- The three ways in which an execution can end, with the rows that it leaves. -/
inductive Executed (world : World) (toolName : String) (arguments : Dict) (approved : Approved) :
    Except Failure Dict × World → Prop
  | succeeded {after : World} (result : Json)
      (passed : (admitted tools toolName arguments approved).isSome)
      (approvals : after.approvals = world.approvals) (requests : after.requests = world.requests)
      (history : completed after = completed world ++ [(toolName, arguments)]) :
      Executed world toolName arguments approved (.ok (toolReport world.toolRuns.size toolName result), after)
  | asked {after : World} (message : String) (request : ApprovalRequest) (approval : Option Nat)
      (approvals : approval = none ∧ after.approvals = world.approvals ∨
        approval = some world.approvals.size ∧ after.approvals = world.approvals.insert request.row)
      (requests : after.requests = world.requests) (history : completed after = completed world) :
      Executed world toolName arguments approved (.error (.approvalRequired message toolName approval), after)
  | raised {after : World} (error : PyException) (approvals : after.approvals = world.approvals)
      (requests : after.requests = world.requests) (history : completed after = completed world) :
      Executed world toolName arguments approved (.error (.raised error), after)

omit [CharData] in
theorem createToolApproval_approvals (world : World) (request : ApprovalRequest) :
    (createToolApproval tools world request).1 = none ∧
        (createToolApproval tools world request).2 = world ∨
      (createToolApproval tools world request).1 = some world.approvals.size ∧
        (createToolApproval tools world request).2 =
          { world with approvals := world.approvals.insert request.row } := by
  unfold createToolApproval
  cases tools.platformConfigured with
  | false => exact .inl ⟨rfl, rfl⟩
  | true => exact .inr ⟨rfl, rfl⟩

omit [CharData] in
/-- The run that an execution has started gets its final status. -/
theorem toolRuns_finishRun {world after : World} {run : ToolRun} (status : ToolRunStatus) (result : Json)
    (started : after.toolRuns = world.toolRuns.insert run) :
    (after.finishRun world.toolRuns.size status result).toolRuns =
      world.toolRuns.insert { run with status := status, result := result } := by
  have found : (world.toolRuns.insert run).get? world.toolRuns.size = some run :=
    Table.get?_insert_self _ _
  rw [World.finishRun, started, Table.modify_of_some _ found, Table.set_insert]

theorem runTool_executed (world : World) {definition : ToolDefinition} {handler : Handler}
    {toolName : String} {arguments : Dict} (turnId : String) {approved : Approved}
    (passed : admitted tools toolName arguments approved = some (definition, handler)) :
    Executed tools world toolName arguments approved
      (runTool tools world definition handler toolName arguments turnId approved) := by
  let run : ToolRun := { turnId := turnId, toolName := toolName, arguments := arguments }
  have logged := handle_world tools approved (tools.recursionLimit + 1) false (world.startRun run)
    definition handler (handlerArguments arguments approved)
  unfold handlerArguments at logged
  unfold runTool
  simp only
  cases called : handle tools approved (tools.recursionLimit + 1) false _ definition handler _ with
  | mk outcome after =>
    rw [called] at logged
    obtain rfl : after = _ := logged
    cases outcome with
    | ok result =>
      refine .succeeded result (by rw [passed]; rfl) ?_ ?_ ?_
      · rfl
      · rfl
      · rw [completed_insert (toolRuns_finishRun .succeeded result rfl)]
        rfl
    | error error =>
      by_cases denied : error.kind = .permissionError
      · simp only [if_pos denied]
        rcases createToolApproval_approvals tools (logAll (world.startRun run) _)
          (toolApprovalRequest toolName arguments turnId true) with ⟨absent, same⟩ | ⟨made, added⟩
        · rw [absent, same]
          refine .asked _ (toolApprovalRequest toolName arguments turnId true) _ (.inl ⟨rfl, ?_⟩) ?_ ?_
          · rfl
          · rfl
          · rw [completed_insert (toolRuns_finishRun .approvalRequired _ rfl)]
            exact List.append_nil _
        · rw [made, added]
          refine .asked _ (toolApprovalRequest toolName arguments turnId true) _ (.inr ⟨rfl, ?_⟩) ?_ ?_
          · rfl
          · rfl
          · rw [completed_insert (toolRuns_finishRun .approvalRequired _ rfl)]
            exact List.append_nil _
      · simp only [if_neg denied]
        refine .raised error ?_ ?_ ?_
        · rfl
        · rfl
        · rw [completed_insert (toolRuns_finishRun .failed _ rfl)]
          exact List.append_nil _

theorem execute_executed (world : World) (toolName : String) (arguments : Dict) (turnId : String)
    (approved : Approved) :
    Executed tools world toolName arguments approved
      (execute tools world toolName arguments turnId approved) := by
  cases passed : admitted tools toolName arguments approved with
  | some called =>
    rw [execute_of_admitted tools passed]
    exact runTool_executed tools world turnId passed
  | none =>
    rcases execute_of_not_admitted tools passed world turnId with ⟨error, raised⟩ | ⟨_, asked⟩
    · rw [raised]
      exact Executed.raised error rfl rfl rfl
    · rw [asked]
      rcases createToolApproval_approvals tools world
        (toolApprovalRequest toolName arguments turnId false) with ⟨absent, same⟩ | ⟨made, added⟩
      · simp only [absent, same]
        exact Executed.asked _ (toolApprovalRequest toolName arguments turnId false) _ (.inl ⟨rfl, rfl⟩) rfl rfl
      · simp only [made, added]
        exact Executed.asked _ (toolApprovalRequest toolName arguments turnId false) _ (.inr ⟨rfl, rfl⟩) rfl rfl

end SoulClaw.Domain.ToolEffects
