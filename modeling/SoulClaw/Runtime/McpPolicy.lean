import SoulClaw.Runtime.McpCalls
import SoulClaw.Foundation.Runs

/-! The approval of MCP tools over time. A permission is copied from the row of its server into the cache and from there
into the registry, where the executor reads it; the row can change in between. -/

namespace SoulClaw.Runtime.McpPolicy
open Foundation Domain.Tools Domain.ToolEffects Domain.Gate A2A Mcp McpCalls

/-- The servers, the registry, what the executor knows, and the calls that reached a server without an approval. -/
structure State where
  servers : Servers
  registry : ToolRegistry
  world : World := {}
  unapproved : List SessionCall := []

inductive Action where
  | upsert (draft : MCPServerDraft)
  | refresh (serverName : String) (answer : Except String (List ListedTool))
  | install
  | execute (sessions : Sessions) (toolName : String) (arguments : Dict) (turnId : String) (approved : Approved)

section Policy
variable [CharData] (tools : ToolRuntime)

def step (state : State) : Action → Option State
  | .upsert draft =>
      match upsertMcpServer state.servers draft with
      | .error _ => some state
      | .ok servers => some { state with servers }
  | .refresh serverName answer => some { state with servers := (refreshServer state.servers serverName answer).2 }
  | .install => some { state with registry := installIntoRegistry state.servers state.registry }
  | .execute sessions toolName arguments turnId approved =>
      let runtime := runtime sessions state.servers tools state.registry
      let calls := sessionCalls sessions state.servers tools state.registry state.world toolName arguments turnId approved
      some
        { state with
          world := (execute runtime state.world toolName arguments turnId approved).2
          unapproved := if approved.granted then state.unapproved else state.unapproved ++ calls }

/-- The row lets calls of the tool through without an approval, or none at all. -/
def covers (servers : Servers) (target : String × String) : Bool :=
  match servers.find? target.1 with
  | none => true
  | some server => !server.enabled ||
      match serverConfig server with
      | .error _ => true
      | .ok config => isSafe (toolPermission config target.2)

omit [CharData] in
/-- The arguments of `tool_call` claim an approval for an MCP tool that needs one. -/
def forges (registry : ToolRegistry) (toolName : String) (arguments : Dict) : Bool :=
  toolName = "tool_call" && carriesApproval arguments &&
    (registry.tools.find? (text (arguments.get "tool_name"))).any fun tool =>
      tool.target.isSome && tool.definition.gatedTarget

/-- No upsert takes the permission of a registered tool away that goes without approval, no installation brings in a
cached permission that has been taken away, and nobody claims an approval that there is not. -/
def keepsUp (state : State) : Action → Bool
  | .upsert draft =>
      match upsertMcpServer state.servers draft with
      | .error _ => true
      | .ok servers => state.registry.tools.rows.all fun tool =>
          tool.definition.requiresApproval ||
            tool.target.all fun target => target.1 ≠ draft.name || covers servers target
  | .refresh .. => true
  | .install => (cachedDescriptors state.servers).all fun descriptor =>
      !isSafe (Text.lower descriptor.permission) || covers state.servers descriptor.pair
  | .execute _ toolName arguments _ approved => approved.granted || !forges state.registry toolName arguments

/-! The invariant. -/

/-- The rows cover every registered tool that goes without approval. -/
def Covered (servers : Servers) (registry : ToolRegistry) : Prop :=
  ∀ tool ∈ registry.tools.rows, tool.definition.requiresApproval = false →
    ∀ target, tool.target = some target → covers servers target = true

structure Current (state : State) : Prop where
  covered : Covered state.servers state.registry
  logged : ∀ call ∈ state.unapproved, isSafe call.permission = true

variable {tools}

omit [CharData] in
theorem find?_put_of_ne (servers : Servers) {server : MCPServer} {name : String} (other : name ≠ server.name) :
    (servers.put server).find? name = servers.find? name := by
  rw [Keyed.find?_put, if_neg other]

theorem covers_put_of_ne (servers : Servers) {server : MCPServer} {target : String × String}
    (other : target.1 ≠ server.name) : covers (servers.put server) target = covers servers target := by
  unfold covers
  rw [find?_put_of_ne servers other]

/-- What a refresh writes into a row says nothing about permissions. -/
theorem covers_persistStatus {servers : Servers} {server : MCPServer} {name : String}
    (found : servers.find? name = some server) (status : String) (cached : List MCPToolDescriptor) (error : String)
    (target : String × String) : covers (persistStatus servers server status cached error).2 target = covers servers target := by
  obtain ⟨_, rfl⟩ := Keyed.find?_eq_some_iff.1 found
  unfold persistStatus
  dsimp only
  by_cases own : target.1 = server.name
  · unfold covers
    rw [Keyed.find?_put, if_pos own, own, found]
    rfl
  · exact covers_put_of_ne servers own

theorem covers_refreshServer (servers : Servers) (serverName : String) (answer : Except String (List ListedTool))
    (target : String × String) : covers (refreshServer servers serverName answer).2 target = covers servers target := by
  unfold refreshServer
  split
  · rfl
  next server found =>
    split
    · rfl
    · dsimp only
      split
      · exact covers_persistStatus found _ _ _ target
      · split
        · exact covers_persistStatus found _ _ _ target
        · exact covers_persistStatus found _ _ _ target

omit [CharData] in
theorem upsertMcpServer_ok {servers next : Servers} {draft : MCPServerDraft}
    (upserted : upsertMcpServer servers draft = .ok next) : ∃ server, next = servers.put server ∧ server.name = draft.name := by
  unfold upsertMcpServer at upserted
  cases checked : draft.check with
  | error raised =>
    rw [checked] at upserted
    cases upserted
  | ok _ =>
    rw [checked] at upserted
    exact ⟨_, (Except.ok.inj upserted).symm, rfl⟩

theorem covered_upsert {state : State} (covered : Covered state.servers state.registry) {draft : MCPServerDraft}
    {servers : Servers} (upserted : upsertMcpServer state.servers draft = .ok servers)
    (met : keepsUp state (.upsert draft) = true) : Covered servers state.registry := by
  rw [keepsUp, upserted] at met
  obtain ⟨server, rfl, named⟩ := upsertMcpServer_ok upserted
  intro tool member free target calls
  have allowed := List.all_eq_true.1 met tool member
  rw [free, Bool.false_or, calls, Option.all_some, Bool.or_eq_true, decide_eq_true_eq] at allowed
  rcases allowed with other | covers
  · rw [covers_put_of_ne state.servers (by rw [named]; exact other)]
    exact covered tool member free target calls
  · exact covers

theorem covered_install {state : State} (covered : Covered state.servers state.registry)
    (met : keepsUp state .install = true) :
    Covered state.servers (installIntoRegistry state.servers state.registry) := by
  intro tool member free target calls
  rw [installIntoRegistry_tools] at member
  rcases Keyed.mem_of_putAll member with stored | added
  · exact covered tool (Keyed.mem_discard.1 stored).1 free target calls
  · obtain ⟨descriptor, cached, rfl⟩ := List.mem_map.1 added
    obtain rfl := Option.some.inj calls
    have allowed := List.all_eq_true.1 met descriptor cached
    have safe : isSafe (Text.lower descriptor.permission) = true := by
      have asks : (!isSafe (Text.lower descriptor.permission)) = false := free
      rwa [Bool.not_eq_false'] at asks
    rwa [safe, Bool.not_true, Bool.false_or] at allowed

/-- A call that reaches a server whose row covers the tool has a permission that needs no approval. -/
theorem isSafe_of_covers {sessions : Sessions} {servers : Servers} {target : String × String} {arguments : Dict}
    {call : SessionCall} (covers_ : covers servers target = true)
    (made : call ∈ (callTool sessions servers target.1 target.2 arguments).2) : isSafe call.permission = true := by
  obtain ⟨server, config, found, enabled, configured, rfl⟩ := mem_callTool made
  unfold covers at covers_
  rw [found] at covers_
  dsimp only at covers_
  rw [enabled, configured, Bool.not_true, Bool.false_or] at covers_
  exact covers_

/-- In a covered registry, an execution without approval that forges none makes only calls that need none. -/
theorem unapproved_isSafe {sessions : Sessions} {servers : Servers} {registry : ToolRegistry}
    (covered : Covered servers registry) {world : World} {toolName : String} {arguments : Dict} {turnId : String}
    {approved : Approved} (denied : approved.granted = false) (honest : forges registry toolName arguments = false)
    {call : SessionCall}
    (made : call ∈ sessionCalls sessions servers tools registry world toolName arguments turnId approved) :
    isSafe call.permission = true := by
  obtain ⟨tool, target, handed, entered, calls, member⟩ := entered_of_mem made
  refine isSafe_of_covers ?_ member
  cases entered with
  | directly found gate =>
    rcases gate with free | granted
    · exact covered tool (find?_iff.1 found).1 free target calls
    · rw [denied] at granted
      cases granted
  | throughToolCall found gate =>
    have free : tool.definition.gatedTarget = false := by
      rcases gate with free | carried
      · exact free
      · rw [carriesApproval_handlerArguments, denied, Bool.false_or] at carried
        unfold forges at honest
        rw [found, carried, Option.any_some, calls] at honest
        exact honest
    unfold ToolDefinition.gatedTarget at free
    exact covered tool (find?_iff.1 found).1 (Bool.or_eq_false_iff.1 free).1 target calls

theorem step_current {state next : State} {action : Action} (current : Current state)
    (met : keepsUp state action = true) (taken : step tools state action = some next) : Current next := by
  cases action with
  | upsert draft =>
    rw [step] at taken
    split at taken
    · exact Option.some.inj taken ▸ current
    next servers upserted =>
      rw [← Option.some.inj taken]
      exact ⟨covered_upsert current.covered upserted met, current.logged⟩
  | refresh serverName answer =>
    rw [← Option.some.inj taken]
    refine ⟨?_, current.logged⟩
    intro tool member free target calls
    rw [covers_refreshServer]
    exact current.covered tool member free target calls
  | install =>
    rw [← Option.some.inj taken]
    exact ⟨covered_install current.covered met, current.logged⟩
  | execute sessions toolName arguments turnId approved =>
    rw [← Option.some.inj taken]
    refine ⟨current.covered, ?_⟩
    intro call member
    dsimp only at member
    rw [keepsUp] at met
    cases granted : approved.granted with
    | true =>
      rw [if_pos granted] at member
      exact current.logged call member
    | false =>
      rw [granted, Bool.false_or, Bool.not_eq_true'] at met
      rw [if_neg (by rw [granted]; exact Bool.false_ne_true)] at member
      rcases List.mem_append.1 member with earlier | made
      · exact current.logged call earlier
      · exact unapproved_isSafe current.covered granted met made

/-- Along a run in which the copies of the permissions keep up, every call that reaches a server without an approval has
a permission from the current row that needs none. -/
theorem unapproved_follow_policy {servers : Servers} {registry : ToolRegistry} {actions : List Action} {last : State}
    (plain : ∀ tool ∈ registry.tools.rows, tool.target = none)
    (guarded : Runs.Along (step tools) (fun state action => keepsUp state action = true) { servers, registry } actions)
    (ran : Runs.run (step tools) { servers, registry } actions = some last) :
    ∀ call ∈ last.unapproved, isSafe call.permission = true := by
  have start : Current { servers, registry } := by
    refine ⟨?_, fun call member => absurd member List.not_mem_nil⟩
    intro tool member _ target calls
    rw [plain tool member] at calls
    cases calls
  have current : Current last := Runs.run_invariant_along Current
    (fun state action next holds met taken => step_current holds met taken) start guarded ran
  exact current.logged

end Policy

section Withdrawn
attribute [local instance] CharData.ascii

/-- The server of the files, with the tool `read` under this permission. -/
def filesDraft (permission : String) : MCPServerDraft where
  name := "files"
  transport := "http"
  url := "http://files"
  permissionPolicy := [("override_permission", .obj [("read", .str permission)])]

def readFile : Action := .execute answered "mcp__files__read" written "turn" .no

/-- The tool is discovered, installed and used under a policy that lets it through. -/
def reading : List Action :=
  [.upsert (filesDraft "safe"), .refresh "files" (.ok [{ name := "read" }]), .install, readFile]

theorem reading_follows_policy :
    ∃ last, Runs.run (step answering) { servers := .empty, registry := builtinTools } reading = some last ∧
      last.unapproved ≠ [] ∧ ∀ call ∈ last.unapproved, isSafe call.permission = true := by
  have ran : (Runs.run (step answering) { servers := .empty, registry := builtinTools } reading).isSome = true := by
    decide +kernel
  obtain ⟨last, reached⟩ := Option.isSome_iff_exists.1 ran
  have used : ∀ state ∈ Runs.run (step answering) { servers := .empty, registry := builtinTools } reading,
      state.unapproved ≠ [] := by decide +kernel
  exact ⟨last, reached, used last reached, unapproved_follow_policy (by decide) (by decide +kernel) reached⟩

/-- The policy takes the permission back, and the tool is still called without an approval. -/
theorem withdrawn_still_called :
    ¬∀ last, Runs.run (step answering) { servers := .empty, registry := builtinTools }
        (reading ++ [.upsert (filesDraft "write"), readFile]) = some last →
      ∀ call ∈ last.unapproved, isSafe call.permission = true := by
  intro claimed
  have wrong : ∃ last ∈ Runs.run (step answering) { servers := .empty, registry := builtinTools }
      (reading ++ [.upsert (filesDraft "write"), readFile]), ∃ call ∈ last.unapproved, isSafe call.permission = false := by
    decide +kernel
  obtain ⟨last, ran, call, member, unsafe_⟩ := wrong
  rw [claimed last ran call member] at unsafe_
  cases unsafe_

end Withdrawn

end SoulClaw.Runtime.McpPolicy
