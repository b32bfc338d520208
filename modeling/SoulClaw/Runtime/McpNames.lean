import SoulClaw.Runtime.McpCalls

/-! The names of MCP tools in the registry. The sanitiser forgets most of a name, but it never leaves two underscores in
a row, so the joined name gives both of its tokens back, and the registry keeps the cached tools apart exactly when their
tokens do. -/

namespace SoulClaw.Runtime.McpNames
open Foundation Domain.Tools Domain.ToolEffects A2A Mcp McpCalls

/-! Joins around a doubled separator. -/

section Joins
variable {α : Type*} {sep : α}

/-- No two separators in a row. -/
def Single (sep : α) (items : List α) : Prop := items.IsChain fun first second => ¬(first = sep ∧ second = sep)

theorem not_single_of_double (sep : α) (rest : List α) : ¬Single sep (sep :: sep :: rest) := by
  intro single
  exact (List.isChain_cons_cons.1 single).1 ⟨rfl, rfl⟩

theorem Single.tail {first : α} {rest : List α} (single : Single sep (first :: rest)) : Single sep rest :=
  List.IsChain.tail single

/-- Two separators in a row cut a list in one way, unless a third one follows. -/
theorem join_inj {left left' right right' : List α}
    (same : left ++ sep :: sep :: right = left' ++ sep :: sep :: right') (single : Single sep left)
    (single' : Single sep left') (apart : right ≠ sep :: right') (apart' : right' ≠ sep :: right) :
    left = left' ∧ right = right' := by
  induction left generalizing left' with
  | nil =>
    cases left' with
    | nil => exact ⟨rfl, (List.cons.inj (List.cons.inj same).2).2⟩
    | cons first rest =>
      obtain ⟨rfl, behind⟩ := List.cons.inj same
      cases rest with
      | nil => exact absurd (List.cons.inj behind).2 apart
      | cons second rest =>
        obtain ⟨rfl, _⟩ := List.cons.inj behind
        exact absurd single' (not_single_of_double _ _)
  | cons first rest ih =>
    cases left' with
    | nil =>
      obtain ⟨rfl, behind⟩ := List.cons.inj same
      cases rest with
      | nil => exact absurd (List.cons.inj behind).2.symm apart'
      | cons second rest =>
        obtain ⟨rfl, _⟩ := List.cons.inj behind
        exact absurd single (not_single_of_double _ _)
    | cons first' rest' =>
      obtain ⟨rfl, behind⟩ := List.cons.inj same
      obtain ⟨rfl, equal⟩ := ih behind single.tail single'.tail
      exact ⟨rfl, equal⟩

end Joins

/-! Tokens. -/

/-- What the sanitiser leaves of a name. -/
structure IsToken (token : List Char) : Prop where
  single : Single '_' token
  noDigit : ∀ c ∈ token.head?, c.isDigit = false
  leads : ∀ rest, token = '_' :: rest → ∃ digit later, rest = digit :: later ∧ digit.isDigit = true

/-- A token does not begin with an underscore and another token. -/
theorem IsToken.ne_cons {token other : List Char} (isToken : IsToken token) (isOther : IsToken other) :
    token ≠ '_' :: other := by
  intro same
  obtain ⟨digit, later, rfl, isDigit⟩ := isToken.leads other same
  rw [isOther.noDigit digit rfl] at isDigit
  cases isDigit

theorem head?_collapsed (chars : List Char) : (collapsed chars).head? = chars.head? := by
  induction chars with
  | nil => rfl
  | cons c rest ih =>
    rw [collapsed]
    split
    next double => rw [ih, double.2, double.1, List.head?_cons]
    next => rfl

theorem single_collapsed (chars : List Char) : Single '_' (collapsed chars) := by
  induction chars with
  | nil => exact List.IsChain.nil
  | cons c rest ih =>
    rw [collapsed]
    split
    next => exact ih
    next alone =>
      refine List.isChain_cons.2 ⟨?_, ih⟩
      intro second behind double
      rw [head?_collapsed, double.2] at behind
      exact alone ⟨double.1, behind⟩

theorem trimmed_within (chars : List Char) : trimmed chars <:+: chars := by
  unfold trimmed
  have cut : (chars.dropWhile (· = '_')).reverse.dropWhile (· = '_') <:+ (chars.dropWhile (· = '_')).reverse :=
    List.dropWhile_suffix _
  have front : ((chars.dropWhile (· = '_')).reverse.dropWhile (· = '_')).reverse <+: chars.dropWhile (· = '_') := by
    rw [← List.reverse_suffix, List.reverse_reverse]
    exact cut
  exact front.isInfix.trans (List.dropWhile_suffix _).isInfix

theorem head?_trimmed (chars : List Char) : ∀ c ∈ (trimmed chars).head?, c ≠ '_' := by
  intro c first
  have front : trimmed chars <+: chars.dropWhile (· = '_') := by
    unfold trimmed
    rw [← List.reverse_suffix, List.reverse_reverse]
    exact List.dropWhile_suffix _
  obtain ⟨rest, whole⟩ := front
  have opens : (chars.dropWhile (· = '_')).head? = some c := by
    rw [← whole, List.head?_append, first]
    rfl
  have kept := List.head?_dropWhile_not (· = '_') chars
  rw [opens] at kept
  simpa using kept

theorem single_trimmed {chars : List Char} (single : Single '_' chars) : Single '_' (trimmed chars) :=
  List.IsChain.infix single (trimmed_within chars)

theorem isToken_named {chars : List Char} (single : Single '_' chars) (opens : ∀ c ∈ chars.head?, c ≠ '_') :
    IsToken (named chars) := by
  unfold named
  dsimp only
  by_cases empty : chars = []
  · rw [if_pos empty]
    refine ⟨by unfold Single; decide, ?_, ?_⟩
    · intro c begins
      rw [← Option.some.inj begins]
      decide
    intro rest same
    have first : 'u' = '_' := (List.cons.inj same).1
    exact absurd first (by decide)
  · rw [if_neg empty]
    obtain ⟨c, rest, rfl⟩ := List.exists_cons_of_ne_nil empty
    have visible : c ≠ '_' := opens c rfl
    rw [List.head?_cons, Option.any_some]
    split
    next digit =>
      refine ⟨List.isChain_cons_cons.2 ⟨fun double => visible double.2, single⟩, ?_, ?_⟩
      · intro first here
        obtain rfl := Option.some.inj here
        rfl
      · intro behind same
        exact ⟨c, rest, (List.cons.inj same).2.symm, digit⟩
    next plain =>
      refine ⟨single, ?_, ?_⟩
      · intro first here
        obtain rfl := Option.some.inj here
        rwa [Bool.not_eq_true] at plain
      · intro behind same
        exact absurd (List.cons.inj same).1 visible

/-- The cut keeps a token a token. -/
theorem IsToken.take {token : List Char} (isToken : IsToken token) (count : Nat) : IsToken (token.take (count + 2)) := by
  refine ⟨List.IsChain.take isToken.single _, ?_, ?_⟩
  · intro c first
    apply isToken.noDigit c
    rwa [List.head?_take, if_neg (Nat.succ_ne_zero _)] at first
  · intro rest same
    cases token with
    | nil => cases same
    | cons c behind =>
      rw [List.take_succ_cons] at same
      obtain ⟨rfl, rfl⟩ := List.cons.inj same
      obtain ⟨digit, later, rfl, isDigit⟩ := isToken.leads behind rfl
      exact ⟨digit, later.take count, rfl, isDigit⟩

section Names
variable [CharData]

theorem isToken_safeToolToken (value : String) : IsToken (safeToolToken value).toList := by
  unfold safeToolToken
  dsimp only
  rw [String.toList_ofList]
  apply IsToken.take
  apply isToken_named
  · exact single_trimmed (single_collapsed _)
  · exact head?_trimmed _

/-- The name of a tool gives back the tokens of its server and of the tool. -/
theorem registryName_inj {serverName toolName serverName' toolName' : String} :
    registryName serverName toolName = registryName serverName' toolName' ↔
      safeToolToken serverName = safeToolToken serverName' ∧ safeToolToken toolName = safeToolToken toolName' := by
  constructor
  · intro same
    have joined : ∀ server tool : String, (registryName server tool).toList =
        "mcp__".toList ++ ((safeToolToken server).toList ++ '_' :: '_' :: (safeToolToken tool).toList) := by
      intro server tool
      unfold registryName
      rw [String.toList_append, String.toList_append, String.toList_append, List.append_assoc, List.append_assoc]
      rfl
    have chars := congrArg String.toList same
    rw [joined, joined] at chars
    have left := isToken_safeToolToken serverName
    have left' := isToken_safeToolToken serverName'
    have right := isToken_safeToolToken toolName
    have right' := isToken_safeToolToken toolName'
    obtain ⟨servers, tools⟩ := join_inj (List.append_cancel_left chars) left.single left'.single (right.ne_cons right')
      (right'.ne_cons right)
    exact ⟨String.toList_inj.1 servers, String.toList_inj.1 tools⟩
  · rintro ⟨servers, tools⟩
    unfold registryName
    rw [servers, tools]

end Names

/-! The registry. -/

section Installed
variable [CharData]

/-- The registry has the definition of the cached tool under its name, and whoever executes it calls this tool. -/
def Keeps (servers : Servers) (registry : ToolRegistry) (descriptor : MCPToolDescriptor) : Prop :=
  registry.tools.find? descriptor.registryName =
      some (toolDefinition descriptor (connected servers descriptor.serverName)) ∧
    ∀ sessions tools world arguments turnId approved,
      sessionCalls sessions servers tools registry world descriptor.registryName arguments turnId approved =
        if (admitted (runtime sessions servers tools registry) descriptor.registryName arguments approved).isSome then
          (callTool sessions servers descriptor.serverName descriptor.toolName (handlerArguments arguments approved)).2
        else []

/-- No two cached tools of any servers have the same tokens. -/
def TokensApart (servers : Servers) : Prop :=
  ∀ first ∈ cachedDescriptors servers, ∀ second ∈ cachedDescriptors servers,
    safeToolToken first.serverName = safeToolToken second.serverName →
      safeToolToken first.toolName = safeToolToken second.toolName → first.pair = second.pair

theorem keeps_of_find? {servers : Servers} {registry : ToolRegistry} {descriptor : MCPToolDescriptor}
    (found : registry.tools.find? descriptor.registryName =
      some (toolDefinition descriptor (connected servers descriptor.serverName))) : Keeps servers registry descriptor :=
  ⟨found, fun _ _ world arguments turnId approved => sessionCalls_direct found rfl world arguments turnId approved⟩

theorem installed_of_alone {servers : Servers} {registry : ToolRegistry} {descriptor : MCPToolDescriptor}
    (member : descriptor ∈ cachedDescriptors servers)
    (alone : ∀ other ∈ cachedDescriptors servers, other.registryName = descriptor.registryName → other = descriptor) :
    (installIntoRegistry servers registry).tools.find? descriptor.registryName =
      some (toolDefinition descriptor (connected servers descriptor.serverName)) := by
  let definition := toolDefinition descriptor (connected servers descriptor.serverName)
  have cached : definition ∈ cachedToolDefinitions servers := List.mem_map.2 ⟨descriptor, member, rfl⟩
  have only : ∀ other ∈ cachedToolDefinitions servers, other.name = definition.name → other = definition := by
    intro other added same
    obtain ⟨source, known, rfl⟩ := List.mem_map.1 added
    rw [alone source known same]
  exact Keyed.find?_putAll_of_alone cached only

/-- After an installation every cached tool keeps its place, its target and its permission exactly when no two of the
cached tools have the same tokens. -/
theorem installed_keeps_iff {servers : Servers} (registry : ToolRegistry)
    (distinct : ((cachedDescriptors servers).map MCPToolDescriptor.pair).Nodup) :
    (∀ descriptor ∈ cachedDescriptors servers, Keeps servers (installIntoRegistry servers registry) descriptor) ↔
      TokensApart servers := by
  constructor
  · intro keeps first isFirst second isSecond serverTokens toolTokens
    have same : first.registryName = second.registryName := registryName_inj.2 ⟨serverTokens, toolTokens⟩
    have found := (keeps first isFirst).1
    rw [same, (keeps second isSecond).1, Option.some.injEq] at found
    exact (Option.some.inj (congrArg RegisteredTool.target found)).symm
  · intro apart descriptor member
    apply keeps_of_find?
    apply installed_of_alone member
    intro other cached same
    obtain ⟨serverTokens, toolTokens⟩ := registryName_inj.1 same
    exact List.inj_on_of_nodup_map distinct cached member (apart other cached descriptor member serverTokens toolTokens)

end Installed

section Twins
attribute [local instance] CharData.ascii

theorem installed_keeps_files :
    ((cachedDescriptors filesServers).map MCPToolDescriptor.pair).Nodup ∧ TokensApart filesServers ∧
      ∀ descriptor ∈ cachedDescriptors filesServers,
        Keeps filesServers (installIntoRegistry filesServers builtinTools) descriptor := by
  have distinct : ((cachedDescriptors filesServers).map MCPToolDescriptor.pair).Nodup := by decide +kernel
  have apart : TokensApart filesServers := by
    unfold TokensApart
    decide +kernel
  exact ⟨distinct, apart, (installed_keeps_iff builtinTools distinct).2 apart⟩

/-- A server with two tools whose names differ in a character that the sanitiser replaces. -/
def twinServer : MCPServer where
  name := "files"
  transport := "http"
  url := "http://files"
  status := "connected"
  toolCount := 2
  toolsCache := (discovered [("name", .str "files"), ("tools", .obj [("override_permission", .obj [("read_file", .str "safe")])])]
    [{ name := "read-file" }, { name := "read_file" }]).map MCPToolDescriptor.toCache

def twinServers : Servers := ⟨[twinServer], by decide⟩

/-- The tool `read-file`, which needs an approval, is shadowed by `read_file`, which needs none. -/
theorem twin_is_shadowed :
    ((cachedDescriptors twinServers).map MCPToolDescriptor.pair).Nodup ∧
      ¬∀ descriptor ∈ cachedDescriptors twinServers,
        Keeps twinServers (installIntoRegistry twinServers builtinTools) descriptor := by
  have distinct : ((cachedDescriptors twinServers).map MCPToolDescriptor.pair).Nodup := by decide +kernel
  have lost : ∃ descriptor ∈ cachedDescriptors twinServers,
      (installIntoRegistry twinServers builtinTools).tools.find? descriptor.registryName ≠
        some (toolDefinition descriptor (connected twinServers descriptor.serverName)) := by decide +kernel
  obtain ⟨descriptor, member, shadowed⟩ := lost
  exact ⟨distinct, fun keeps => shadowed (keeps descriptor member).1⟩

end Twins

end SoulClaw.Runtime.McpNames
