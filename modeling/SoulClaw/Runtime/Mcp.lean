import SoulClaw.Domain.Gate
import SoulClaw.Foundation.Keyed

/-! `MCPRuntimeManager`: the servers, what discovery caches of their tools, the definitions that stand for these in the
tool registry, and the calls that reach a server. Sessions with a server are a parameter. -/

namespace SoulClaw.Runtime.Mcp
open Foundation Domain.Tools A2A

/-! `shlex.split`. -/

inductive ShlexState where
  | blank
  | word
  | quoted (quote : Char)
  | escaped (behind : Option Char)
  deriving DecidableEq

def shlexSpace (c : Char) : Bool := c = ' ' ∨ c = '\t' ∨ c = '\r' ∨ c = '\n'

/-- The words behind `token`, which is the reversed start of a word; `visible` holds once it has a quote. -/
def shlexWords : ShlexState → List Char → Bool → List Char → Except PyException (List String)
  | .quoted _, _, _, [] => .error ⟨.valueError, "No closing quotation"⟩
  | .escaped _, _, _, [] => .error ⟨.valueError, "No escaped character"⟩
  | _, token, visible, [] => .ok (if token ≠ [] ∨ visible then [String.ofList token.reverse] else [])
  | .quoted quote, token, visible, c :: rest =>
      if c = quote then shlexWords .word token visible rest
      else if c = '\\' ∧ quote = '"' then shlexWords (.escaped (some quote)) token visible rest
      else shlexWords (.quoted quote) (c :: token) visible rest
  | .escaped (some quote), token, visible, c :: rest =>
      if c ≠ '\\' ∧ c ≠ quote then shlexWords (.quoted quote) (c :: '\\' :: token) visible rest
      else shlexWords (.quoted quote) (c :: token) visible rest
  | .escaped none, token, visible, c :: rest => shlexWords .word (c :: token) visible rest
  | _, token, visible, c :: rest =>
      if shlexSpace c then
        if token ≠ [] ∨ visible then
          (shlexWords .blank [] false rest).map (String.ofList token.reverse :: ·)
        else shlexWords .blank [] false rest
      else if c = '"' ∨ c = '\'' then shlexWords (.quoted c) token true rest
      else if c = '\\' then shlexWords (.escaped none) token visible rest
      else shlexWords .word (c :: token) visible rest

def shlexSplit (command : String) : Except PyException (List String) := shlexWords .blank [] false command.toList

example : shlexSplit "npx -y 'a b' \"c\\\"d\" e\\ f ''" = .ok ["npx", "-y", "a b", "c\"d", "e f", ""] := by decide

/-! Servers. -/

structure MCPServer where
  name : String
  transport : String := "stdio"
  command : String := ""
  url : String := ""
  config : Dict := []
  permissionPolicy : Dict := []
  sessionMode : String := "transient"
  healthStatus : String := "unknown"
  enabled : Bool := true
  status : String := "disabled"
  lastError : String := ""
  toolCount : Nat := 0
  toolsCache : List Json := []
  deriving DecidableEq, Repr

abbrev Servers := Keyed MCPServer.name

/-- `dict.pop(key)` without its value. -/
def without (dict : Dict) (key : String) : Dict := dict.filter fun field => field.1 ≠ key

section Policies
variable [CharData]

/-- The command, the arguments and the rest of the configuration that `_server_config` starts from. -/
def launch (server : MCPServer) : Except PyException (String × Json × Dict) :=
  let command := (((server.config.lookup "command").getD (.str server.command)).or (.str server.command)).toStr
  let config := without server.config "command"
  let (args, config) := (config.get "args", without config "args")
  if server.transport = "stdio" ∧ !args.truthy then
    let (args, config) := (config.get "argv", without config "argv")
    if args.truthy then .ok (command, args, config)
    else
      (shlexSplit command).map fun parts =>
        match parts with
        | [] => (command, args, config)
        | program :: rest => (program, .arr (rest.map .str), config)
  else .ok (command, args, config)

/-- `_server_config`. -/
def serverConfig (server : MCPServer) : Except PyException Dict :=
  (launch server).map fun (command, args, config) =>
    [("name", .str server.name),
      ("transport", .str (if server.transport = "http" then "streamable_http" else server.transport)),
      ("command", .str command),
      ("args", args.or (.arr [])),
      ("url", .str ((config.get "url").or (.str server.url)).toStr),
      ("permission_policy", .obj server.permissionPolicy),
      ("session_mode", .str server.sessionMode)].foldl (fun dict field => Dict.set dict field.1 field.2) config

/-- The dictionary of overrides: the one under `tools`, else the one of the permission policy. -/
def overrideDict (config : Dict) : Json :=
  let ofTools := match config.get "tools" with
    | .obj tools => Dict.get tools "override_permission"
    | _ => .null
  match ofTools, config.get "permission_policy" with
  | .obj overrides, _ => .obj overrides
  | _, .obj policy => Dict.get policy "override_permission"
  | other, _ => other

/-- `_permission_overrides`. -/
def permissionOverrides (config : Dict) : List (String × String) :=
  (overrideDict config).dict.map fun field => (field.1, field.2.toStr)

/-- `overrides.get(tool_name) or "write"`. -/
def overridden (config : Dict) (toolName : String) : String :=
  match (permissionOverrides config).lookup toolName with
  | none => "write"
  | some permission => if permission = "" then "write" else permission

/-- `_tool_permission`. -/
def toolPermission (config : Dict) (toolName : String) : String := Text.lower (overridden config toolName)

omit [CharData] in
/-- `permission in {"safe", "read"}`. -/
def isSafe (permission : String) : Bool := permission ∈ ["safe", "read"]

end Policies

/-! Descriptors. -/

structure MCPToolDescriptor where
  serverName : String
  toolName : String
  description : String
  inputSchema : Dict
  permission : String := "write"
  deriving DecidableEq, Repr

/-- The server and the tool of a descriptor. -/
def MCPToolDescriptor.pair (descriptor : MCPToolDescriptor) : String × String :=
  (descriptor.serverName, descriptor.toolName)

/-- A tool that a server lists. -/
structure ListedTool where
  name : String
  description : Option String := none
  inputSchema : Dict := []
  deriving DecidableEq, Repr

section Tokens

/-- `[a-zA-Z0-9_]`. -/
def isTokenChar (c : Char) : Bool := c.isAlphanum || c = '_'

/-- `re.sub(r"_+", "_", ...)`. -/
def collapsed : List Char → List Char
  | [] => []
  | c :: rest => if c = '_' ∧ rest.head? = some '_' then collapsed rest else c :: collapsed rest

/-- `chars.strip("_")`. -/
def trimmed (chars : List Char) : List Char :=
  ((chars.dropWhile (· = '_')).reverse.dropWhile (· = '_')).reverse

/-- A token in front of the cut, which does not start with a digit. -/
def named (chars : List Char) : List Char :=
  let token := if chars = [] then "unnamed".toList else chars
  if token.head?.any Char.isDigit then '_' :: token else token

variable [CharData]

def safeToolToken (value : String) : String :=
  let token := (Text.strip value).toList.map fun c => if isTokenChar c then c else '_'
  String.ofList ((named (trimmed (collapsed token))).take 64)

def registryName (serverName toolName : String) : String :=
  "mcp__" ++ safeToolToken serverName ++ "__" ++ safeToolToken toolName

def MCPToolDescriptor.registryName (descriptor : MCPToolDescriptor) : String :=
  Mcp.registryName descriptor.serverName descriptor.toolName

end Tokens

section Caches
variable [CharData]

def MCPToolDescriptor.toCache (descriptor : MCPToolDescriptor) : Json :=
  .obj [("server_name", .str descriptor.serverName), ("tool_name", .str descriptor.toolName),
    ("registry_name", .str descriptor.registryName), ("description", .str descriptor.description),
    ("input_schema", .obj descriptor.inputSchema), ("permission", .str descriptor.permission)]

def fromCache (item : Dict) : MCPToolDescriptor where
  serverName := text (item.get "server_name")
  toolName := text (item.get "tool_name")
  description := text (item.get "description")
  inputSchema := (item.get "input_schema").dict
  permission := ((item.get "permission").or (.str "write")).toStr

/-- What `_discover` makes of the tools that a server lists. -/
def discovered (config : Dict) (tools : List ListedTool) : List MCPToolDescriptor :=
  (tools.filter fun tool => tool.name ≠ "").map fun tool =>
    { serverName := (config.get "name").toStr
      toolName := tool.name
      description := tool.description.getD ""
      inputSchema := tool.inputSchema
      permission := overridden config tool.name }

/-- The descriptors in the caches of the enabled servers. -/
def cachedDescriptors (servers : Servers) : List MCPToolDescriptor :=
  (servers.rows.filter MCPServer.enabled).flatMap fun server =>
    server.toolsCache.filterMap fun item =>
      match item with
      | .obj fields => some (fromCache fields)
      | _ => none

/-- What `refresh_server` returns. -/
structure ServerStatus where
  name : String
  status : String
  toolCount : Nat
  lastError : String
  deriving DecidableEq, Repr

def healthOf (status : String) : String :=
  if status = "connected" then "healthy" else if status = "disabled" then "disabled" else "unhealthy"

def persistStatus (servers : Servers) (server : MCPServer) (status : String) (tools : List MCPToolDescriptor)
    (error : String) : ServerStatus × Servers :=
  let cache := tools.map MCPToolDescriptor.toCache
  (⟨server.name, status, cache.length, error⟩,
    servers.put { server with status, lastError := error, toolCount := cache.length, toolsCache := cache,
                              healthStatus := healthOf status })

/-- `refresh_server`, with what the server answers to the discovery. -/
def refreshServer (servers : Servers) (serverName : String) (answer : Except String (List ListedTool)) :
    Except PyException ServerStatus × Servers :=
  match servers.find? serverName with
  | none => (.error ⟨.keyError, "MCP server not found: " ++ serverName⟩, servers)
  | some server =>
      match serverConfig server with
      | .error raised => (.error raised, servers)
      | .ok config =>
          let (status, servers) :=
            if !server.enabled then persistStatus servers server "disabled" [] ""
            else
              match answer with
              | .error error => persistStatus servers server "failed" [] error
              | .ok tools => persistStatus servers server "connected" (discovered config tools) ""
          (.ok status, servers)

end Caches

/-! `PlatformService.upsert_mcp_server`. -/

structure MCPServerDraft where
  name : String
  transport : String := "stdio"
  command : String := ""
  url : String := ""
  config : Dict := []
  enabled : Bool := true
  permissionPolicy : Dict := []
  sessionMode : String := "transient"
  healthStatus : String := "unknown"
  deriving DecidableEq, Repr

def MCPServerDraft.check (draft : MCPServerDraft) : Except PyException Unit :=
  if draft.transport ∉ ["stdio", "sse", "streamable_http", "http"] then
    .error ⟨.valueError, "unsupported MCP transport"⟩
  else if draft.sessionMode ∉ ["transient", "managed"] then .error ⟨.valueError, "unsupported MCP session_mode"⟩
  else if draft.transport = "stdio" ∧ draft.command = "" then
    .error ⟨.valueError, "stdio MCP servers require a command"⟩
  else if draft.transport ≠ "stdio" ∧ draft.url = "" then .error ⟨.valueError, "network MCP servers require a url"⟩
  else .ok ()

/-- The row behind the draft, which keeps the cache of a server that is enabled. -/
def MCPServerDraft.row (draft : MCPServerDraft) (server : MCPServer) : MCPServer where
  name := draft.name
  transport := draft.transport
  command := draft.command
  url := draft.url
  config := draft.config
  permissionPolicy := draft.permissionPolicy
  sessionMode := draft.sessionMode
  healthStatus := draft.healthStatus
  enabled := draft.enabled
  status := if draft.enabled then "pending" else "disabled"
  lastError := if draft.enabled then server.lastError else ""
  toolCount := if draft.enabled then server.toolCount else 0
  toolsCache := if draft.enabled then server.toolsCache else []

def upsertMcpServer (servers : Servers) (draft : MCPServerDraft) : Except PyException Servers :=
  draft.check.map fun _ => servers.put (draft.row ((servers.find? draft.name).getD { name := draft.name }))

/-! The registry. -/

/-- A registered tool; the handler of an MCP tool calls one tool of one server. -/
structure RegisteredTool where
  definition : ToolDefinition
  description : String := ""
  parameters : Dict := [("type", .str "object"), ("properties", .obj []), ("additionalProperties", .bool true)]
  target : Option (String × String) := none
  deriving DecidableEq, Repr

def RegisteredTool.name (tool : RegisteredTool) : String := tool.definition.name

def isMcpName (name : String) : Bool := "mcp__".toList.isPrefixOf name.toList

/-- `ToolRegistry`: only the tool `tool_call` hands over to other tools, and the handlers of MCP tools, which have names
of their own, do nothing but their call. -/
structure ToolRegistry where
  tools : Keyed RegisteredTool.name
  dispatches : ∀ tool ∈ tools.rows, tool.definition.handler = some .toolCall → tool.name = "tool_call"
  calls : ∀ tool ∈ tools.rows, tool.target.isSome → tool.definition.handler = some .other
  names : ∀ tool ∈ tools.rows, tool.target.isSome → isMcpName tool.name = true

section Definitions
variable [CharData]

omit [CharData] in
def normalizeJsonSchema (schema : Dict) : Dict :=
  if schema = [] then [("type", .str "object"), ("properties", .obj []), ("additionalProperties", .bool true)]
  else
    let typed := if (schema.lookup "type").isSome then schema else schema.set "type" (.str "object")
    if (typed.lookup "properties").isSome then typed else typed.set "properties" (.obj [])

omit [CharData] in
/-- The scope that a permission stands for. -/
def scopeOf (permission : String) : String :=
  if isSafe permission then "external.read"
  else if permission ∈ ["secret", "system"] then "system.write"
  else "external.write"

/-- `_tool_definition`. -/
def toolDefinition (descriptor : MCPToolDescriptor) (available : Bool) : RegisteredTool :=
  let permission := Text.lower descriptor.permission
  { definition :=
      { name := descriptor.registryName
        scope := scopeOf permission
        requiresApproval := !isSafe permission
        available
        handler := some .other }
    description :=
      if descriptor.description = "" then
        "MCP tool " ++ descriptor.toolName ++ " from " ++ descriptor.serverName ++ "."
      else descriptor.description
    parameters := normalizeJsonSchema descriptor.inputSchema
    target := some descriptor.pair }

/-- The server is enabled and connected. -/
def connected (servers : Servers) (serverName : String) : Bool :=
  (servers.find? serverName).any fun server => server.enabled && server.status = "connected"

def cachedToolDefinitions (servers : Servers) : List RegisteredTool :=
  (cachedDescriptors servers).map fun descriptor => toolDefinition descriptor (connected servers descriptor.serverName)

theorem isMcpName_registryName (serverName toolName : String) : isMcpName (registryName serverName toolName) = true := by
  unfold isMcpName registryName
  rw [List.isPrefixOf_iff_prefix, String.toList_append, String.toList_append, String.toList_append, List.append_assoc,
    List.append_assoc]
  exact List.prefix_append _ _

omit [CharData] in
/-- `unregister_prefix("mcp__")`. -/
def ToolRegistry.unregisterMcp (registry : ToolRegistry) : ToolRegistry where
  tools := registry.tools.discard isMcpName
  dispatches tool member := registry.dispatches tool (Keyed.mem_discard.1 member).1
  calls tool member := registry.calls tool (Keyed.mem_discard.1 member).1
  names tool member := registry.names tool (Keyed.mem_discard.1 member).1

/-- `register_many` of the definitions for cached tools. -/
def ToolRegistry.registerMcp (registry : ToolRegistry) (descriptors : List MCPToolDescriptor)
    (available : String → Bool) : ToolRegistry where
  tools := registry.tools.putAll (descriptors.map fun descriptor => toolDefinition descriptor (available descriptor.serverName))
  dispatches := by
    intro tool member handler
    rcases Keyed.mem_of_putAll member with stored | added
    · exact registry.dispatches tool stored handler
    · obtain ⟨descriptor, _, rfl⟩ := List.mem_map.1 added
      cases handler
  calls := by
    intro tool member target
    rcases Keyed.mem_of_putAll member with stored | added
    · exact registry.calls tool stored target
    · obtain ⟨descriptor, _, rfl⟩ := List.mem_map.1 added
      rfl
  names := by
    intro tool member target
    rcases Keyed.mem_of_putAll member with stored | added
    · exact registry.names tool stored target
    · obtain ⟨descriptor, _, rfl⟩ := List.mem_map.1 added
      exact isMcpName_registryName descriptor.serverName descriptor.toolName

/-- `install_into_registry`, up to the counts that it returns. -/
def installIntoRegistry (servers : Servers) (registry : ToolRegistry) : ToolRegistry :=
  registry.unregisterMcp.registerMcp (cachedDescriptors servers) (connected servers)

theorem installIntoRegistry_tools (servers : Servers) (registry : ToolRegistry) :
    (installIntoRegistry servers registry).tools =
      (registry.tools.discard isMcpName).putAll (cachedToolDefinitions servers) := rfl

end Definitions

/-- A registry of the built-in tools. -/
def builtinTools : ToolRegistry where
  tools := ⟨[{ definition := toolCallTool }, { definition := gatewaySendTool }, { definition := a2aDelegateTool }], by decide⟩
  dispatches := by decide
  calls := by decide
  names := by decide

/-! Calls. -/

/-- A call of `session.call_tool`, with the permission that the row of the server gives to the tool at that time. -/
structure SessionCall where
  serverName : String
  toolName : String
  arguments : Dict
  permission : String
  deriving DecidableEq, Repr

/-- The sessions with the servers. -/
structure Sessions where
  /-- How often the retries get as far as the call. -/
  tries : SessionCall → Nat
  /-- What comes of it in the end. -/
  answer : SessionCall → Except PyException Json

section Calls
variable [CharData] (sessions : Sessions) (servers : Servers)

/-- `call_tool`: what it returns, and the calls that reach the server. -/
def callTool (serverName toolName : String) (arguments : Dict) : Except PyException Json × List SessionCall :=
  match servers.find? serverName with
  | none => (.error ⟨.keyError, "MCP server not found: " ++ serverName⟩, [])
  | some server =>
      if !server.enabled then (.error ⟨.runtimeError, "MCP server disabled: " ++ serverName⟩, [])
      else
        match serverConfig server with
        | .error raised => (.error raised, [])
        | .ok config =>
            let permission := toolPermission config toolName
            let call : SessionCall := ⟨serverName, toolName, arguments, permission⟩
            let attempts := min (sessions.tries call) (if isSafe permission then 2 else 1)
            (sessions.answer call, List.replicate attempts call)

/-- The executor over a registry, where the handlers of MCP tools make their calls. -/
def runtime (tools : ToolRuntime) (registry : ToolRegistry) : ToolRuntime :=
  { tools with
    registry := fun name => (registry.tools.find? name).map RegisteredTool.definition
    perform := fun world name arguments =>
      match (registry.tools.find? name).bind RegisteredTool.target with
      | some (serverName, toolName) => (callTool sessions servers serverName toolName arguments).1
      | none => tools.perform world name arguments }

/-- The calls that an effect of the executor makes. -/
def reached (registry : ToolRegistry) : Effect → List SessionCall
  | .ran tool arguments _ _ =>
      match (registry.tools.find? tool.name).bind RegisteredTool.target with
      | some (serverName, toolName) => (callTool sessions servers serverName toolName arguments).2
      | none => []
  | .delegated .. => []

/-- The calls that reach a server in the course of an execution. -/
def sessionCalls (tools : ToolRuntime) (registry : ToolRegistry) (world : World) (toolName : String) (arguments : Dict)
    (turnId : String) (approved : Approved) : List SessionCall :=
  let executed := execute (runtime sessions servers tools registry) world toolName arguments turnId approved
  (Domain.Gate.newEffects world executed.2).flatMap (reached sessions servers registry)

end Calls

end SoulClaw.Runtime.Mcp
