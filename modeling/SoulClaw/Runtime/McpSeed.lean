import SoulClaw.Foundation.Histories
import SoulClaw.Foundation.Yaml
import SoulClaw.Runtime.Mcp

/-! `PlatformService.import_mcp_seed`: the servers of a seed file become rows unless a row of this name was written by
hand. Reading a file again, whenever that happens, leaves no trace. -/

namespace SoulClaw.Runtime.McpSeed
open Foundation Mcp

/-- A server with the columns that an import reads. -/
structure Imported where
  server : MCPServer
  configSource : String := "manual"
  lastImportedChecksum : String := ""

def Imported.name (row : Imported) : String := row.server.name

abbrev Rows := Keyed Imported.name

/-- `config_source.startswith("yaml:")`. -/
def fromSeed (configSource : String) : Bool := "yaml:".toList.isPrefixOf configSource.toList

/-- The columns that the other operations read. -/
def servers (rows : Rows) : Servers where
  rows := rows.rows.map Imported.server
  unique := by
    rw [List.map_map]
    exact rows.unique

theorem name_of_find? {table : Servers} {name : String} {server : MCPServer} (found : table.find? name = some server) :
    server.name = name := (Keyed.find?_eq_some_iff.1 found).2

/-- The rows after the other columns have been written. -/
def withServers (rows : Rows) (table : Servers) : Rows where
  rows := rows.rows.map fun row => { row with server := (table.find? row.name).getD row.server }
  unique := by
    have names : (rows.rows.map fun row => { row with server := (table.find? row.name).getD row.server }).map
        Imported.name = rows.rows.map Imported.name := by
      rw [List.map_map]
      apply List.map_congr_left
      intro row _
      show ((table.find? row.name).getD row.server).name = row.name
      cases found : table.find? row.name with
      | none => rfl
      | some server => exact name_of_find? found
    rw [names]
    exact rows.unique

section Seed
variable [CharData] (sha256 : String → String)

/-- `upsert_mcp_server`, with the two columns that `upsertMcpServer` leaves out. -/
def upsert (rows : Rows) (draft : MCPServerDraft) (configSource checksum : String) : Except PyException Rows :=
  draft.check.map fun _ =>
    let server := ((rows.find? draft.name).map Imported.server).getD { name := draft.name }
    rows.put ⟨draft.row server, if configSource = "" then "manual" else configSource, checksum⟩

/-- `hashlib.sha256(json.dumps(raw_config, sort_keys=True, ...)).hexdigest()`. -/
def checksum (raw : Dict) : String := sha256 (Json.obj raw).sortKeys.dumps

/-- What an entry of the file configures. -/
def seedDraft (name : String) (raw : Dict) : MCPServerDraft :=
  let config := raw.filter fun field => field.1 ∉ ["transport", "command", "url", "enabled"]
  { name
    transport := ((raw.get "transport").or (.str "stdio")).toStr
    command := ((raw.get "command").or (.str "")).toStr
    url := ((raw.get "url").or (.str "")).toStr
    config
    enabled := ((raw.lookup "enabled").getD (.bool true)).truthy
    permissionPolicy := (Dict.get config "tools").dict
    sessionMode := (((raw.get "session_mode").or (Dict.get config "session_mode")).or (.str "transient")).toStr
    healthStatus := "unknown" }

structure Seeding where
  rows : Rows
  imported : Nat := 0
  skipped : Nat := 0

/-- One turn of the loop. -/
def importEntry (path : String) (seeding : Seeding) (entry : String × Json) : Except PyException Seeding :=
  match entry.2 with
  | .obj raw =>
      let existing := seeding.rows.find? entry.1
      if existing.any fun row => !fromSeed row.configSource ∨ row.lastImportedChecksum = checksum sha256 raw then
        .ok { seeding with skipped := seeding.skipped + 1 }
      else
        (upsert seeding.rows (seedDraft entry.1 raw) ("yaml:" ++ path) (checksum sha256 raw)).map fun rows =>
          { seeding with rows, imported := seeding.imported + 1 }
  | _ => .ok { seeding with skipped := seeding.skipped + 1 }

def importEntries (path : String) : Seeding → List (String × Json) → Except PyException Seeding
  | seeding, [] => .ok seeding
  | seeding, entry :: rest => importEntry sha256 path seeding entry >>= fun seeding => importEntries path seeding rest

def noMapping : PyException := ⟨.valueError, "MCP seed file must contain a mapping at `servers`"⟩

/-- The mapping at `servers` of a document that is not empty. -/
def seedEntries (document : Json) : Except PyException (List (String × Json)) :=
  let loaded := document.or (.obj [])
  if loaded.isDict then
    match Dict.get loaded.dict "servers" with
    | .obj entries => .ok entries
    | _ => .error noMapping
  else .ok []

/-- `import_mcp_seed`, with what `yaml.safe_load` makes of the file if it exists. -/
def importMcpSeed (path : String) (document : Option Json) (rows : Rows) : Except PyException Seeding :=
  match document with
  | none => .ok { rows }
  | some document => seedEntries document >>= fun entries => importEntries sha256 path { rows } entries

/-! The system. -/

inductive Action where
  /-- The application starts. -/
  | start (path : String) (document : Option Json)
  | upsert (draft : MCPServerDraft) (configSource checksum : String)
  | refresh (serverName : String) (answer : Except String (List ListedTool))

def Action.isStart : Action → Bool
  | .start _ _ => true
  | _ => false

/-- What raises is rolled back. -/
def step (rows : Rows) : Action → Option Rows
  | .start path document =>
      match importMcpSeed sha256 path document rows with
      | .error _ => some rows
      | .ok seeding => some seeding.rows
  | .upsert draft configSource checksum =>
      match McpSeed.upsert rows draft configSource checksum with
      | .error _ => some rows
      | .ok next => some next
  | .refresh serverName answer => some (withServers rows (refreshServer (servers rows) serverName answer).2)

end Seed

/-! Single rows. -/

theorem find?_servers (rows : Rows) (name : String) : (servers rows).find? name = (rows.find? name).map Imported.server := by
  show (rows.rows.map Imported.server).find? _ = (rows.rows.find? _).map _
  rw [List.find?_map]
  rfl

theorem find?_withServers (rows : Rows) (table : Servers) (name : String) :
    (withServers rows table).find? name =
      (rows.find? name).map fun row => { row with server := (table.find? name).getD row.server } := by
  ext row
  rw [Keyed.find?_eq_some_iff, Option.map_eq_some_iff]
  constructor
  · intro found
    obtain ⟨member, named⟩ := found
    obtain ⟨old, stored, rfl⟩ := List.mem_map.1 member
    have own : old.name = name := by
      rw [← named]
      show old.name = ((table.find? old.name).getD old.server).name
      cases known : table.find? old.name with
      | none => rfl
      | some server => exact (name_of_find? known).symm
    exact ⟨old, Keyed.find?_eq_some_iff.2 ⟨stored, own⟩, by rw [own]⟩
  · intro found
    obtain ⟨old, known, rfl⟩ := found
    obtain ⟨stored, own⟩ := Keyed.find?_eq_some_iff.1 known
    refine ⟨List.mem_map.2 ⟨old, stored, by rw [own]⟩, ?_⟩
    show ((table.find? name).getD old.server).name = name
    cases other : table.find? name with
    | none => exact own
    | some server => exact name_of_find? other

theorem find?_upsert {rows next : Rows} {draft : MCPServerDraft} {configSource checksum : String}
    (upserted : upsert rows draft configSource checksum = .ok next) (name : String) :
    next.find? name = if name = draft.name then
      some ⟨draft.row (((rows.find? draft.name).map Imported.server).getD { name := draft.name }),
        if configSource = "" then "manual" else configSource, checksum⟩ else rows.find? name := by
  obtain ⟨_, _, rfl⟩ := map_eq_ok.1 upserted
  exact Keyed.find?_put rows _ name

/-- The rows of a server decide whether an upsert raises as little as those of the others. -/
theorem upsert_error_iff {first second : Rows} {draft : MCPServerDraft} {configSource checksum : String}
    {raised : PyException} (failed : upsert first draft configSource checksum = .error raised) :
    upsert second draft configSource checksum = .error raised := by
  unfold upsert at failed ⊢
  cases checked : draft.check with
  | error other =>
    rw [checked] at failed
    exact failed
  | ok _ =>
    rw [checked] at failed
    cases failed

section Seed
variable [CharData] {sha256 : String → String}

/-- The row behind `persistStatus`. -/
def persisted (server : MCPServer) (status : String) (tools : List MCPToolDescriptor) (error : String) : MCPServer :=
  { server with status, lastError := error, toolCount := (tools.map MCPToolDescriptor.toCache).length,
                toolsCache := tools.map MCPToolDescriptor.toCache, healthStatus := healthOf status }

/-- The row behind a refresh. -/
def refreshed (answer : Except String (List ListedTool)) (server : MCPServer) : MCPServer :=
  match serverConfig server with
  | .error _ => server
  | .ok config =>
      if !server.enabled then persisted server "disabled" [] ""
      else
        match answer with
        | .error error => persisted server "failed" [] error
        | .ok tools => persisted server "connected" (discovered config tools) ""

theorem find?_refreshServer (table : Servers) (serverName : String) (answer : Except String (List ListedTool))
    (name : String) : (refreshServer table serverName answer).2.find? name =
      if name = serverName then (table.find? serverName).map (refreshed answer) else table.find? name := by
  unfold refreshServer
  cases found : table.find? serverName with
  | none =>
    simp only [Option.map_none]
    split_ifs with here
    · rw [here, found]
    · rfl
  | some server =>
    have written : ∀ status tools error, (table.put (persisted server status tools error)).find? name =
        if name = serverName then some (persisted server status tools error) else table.find? name := by
      intro status tools error
      rw [Keyed.find?_put, ← name_of_find? found]
      rfl
    rw [Option.map_some, refreshed]
    cases configured : serverConfig server with
    | error raised =>
      simp only [configured]
      split_ifs with here
      · rw [here, found]
      · rfl
    | ok config =>
      cases enabled : server.enabled with
      | false =>
        simp only [configured, enabled, Bool.not_false, if_true]
        exact written "disabled" [] ""
      | true =>
        cases answer with
        | error error =>
          simp only [configured, enabled, Bool.not_true, Bool.false_eq_true, if_false]
          exact written "failed" [] error
        | ok tools =>
          simp only [configured, enabled, Bool.not_true, Bool.false_eq_true, if_false]
          exact written "connected" (discovered config tools) ""

/-- A refresh writes the row of its server, and reads no other. -/
theorem find?_refresh (rows : Rows) (serverName : String) (answer : Except String (List ListedTool)) (name : String) :
    (withServers rows (refreshServer (servers rows) serverName answer).2).find? name = (rows.find? name).map fun row =>
      if name = serverName then { row with server := refreshed answer row.server } else row := by
  rw [find?_withServers, find?_refreshServer, find?_servers, find?_servers]
  by_cases here : name = serverName
  · subst here
    cases rows.find? name with
    | none => rfl
    | some row => simp only [Option.map_some, if_true, Option.getD_some]
  · cases rows.find? name with
    | none => rfl
    | some row => simp only [Option.map_some, if_neg here, Option.getD_some]

/-! One entry. -/

variable {path : String} {seeding next : Seeding} {entry : String × Json} {rows : Rows}

omit [CharData] in
theorem fromSeed_path (path : String) : fromSeed ("yaml:" ++ path) = true := by
  rw [fromSeed, String.toList_append]
  exact List.isPrefixOf_iff_prefix.2 (List.prefix_append _ _)

/-- An import has nothing to write for an entry: it is no mapping, its row was written by hand, or it has been read. -/
def Settled (sha256 : String → String) (rows : Rows) (entry : String × Json) : Prop :=
  ∀ raw, entry.2 = .obj raw → ∃ row, rows.find? entry.1 = some row ∧
    (fromSeed row.configSource = true → row.lastImportedChecksum = checksum sha256 raw)

theorem importEntry_of_settled (settled : Settled sha256 seeding.rows entry) :
    importEntry sha256 path seeding entry = .ok { seeding with skipped := seeding.skipped + 1 } := by
  obtain ⟨name, value⟩ := entry
  unfold importEntry
  cases value with
  | obj raw =>
    obtain ⟨row, found, read⟩ := settled raw rfl
    have known : (!fromSeed row.configSource ∨ row.lastImportedChecksum = checksum sha256 raw) := by
      cases source : fromSeed row.configSource with
      | true => exact .inr (read source)
      | false => exact .inl rfl
    simp only [found, Option.any_some, decide_eq_true known, if_true]
  | _ => rfl

/-- An entry writes its own row at most. -/
theorem importEntry_ok (imported : importEntry sha256 path seeding entry = .ok next) :
    Settled sha256 next.rows entry ∧ (∀ name, name ≠ entry.1 → next.rows.find? name = seeding.rows.find? name) ∧
      ∀ row, seeding.rows.find? entry.1 = some row → fromSeed row.configSource = false →
        next.rows.find? entry.1 = some row := by
  by_cases settled : Settled sha256 seeding.rows entry
  · rw [importEntry_of_settled settled] at imported
    cases imported
    exact ⟨settled, fun _ _ => rfl, fun _ found _ => found⟩
  · obtain ⟨name, value⟩ := entry
    cases value with
    | obj raw =>
      have unread : ∀ row, seeding.rows.find? name = some row →
          fromSeed row.configSource = true ∧ row.lastImportedChecksum ≠ checksum sha256 raw := by
        intro row found
        by_contra read
        apply settled
        intro other same
        cases same
        refine ⟨row, found, fun source => ?_⟩
        by_contra different
        exact read ⟨source, different⟩
      have open_ : (seeding.rows.find? name).any (fun row =>
          !fromSeed row.configSource ∨ row.lastImportedChecksum = checksum sha256 raw) = false := by
        cases found : seeding.rows.find? name with
        | none => rfl
        | some row =>
          obtain ⟨source, different⟩ := unread row found
          simp [source, different]
      simp only [importEntry, open_, Bool.false_eq_true, if_false] at imported
      obtain ⟨rows, upserted, rfl⟩ := map_eq_ok.1 imported
      have written := find?_upsert upserted
      have own : (seedDraft name raw).name = name := rfl
      rw [own] at written
      refine ⟨?_, ?_, ?_⟩
      · intro other same
        cases same
        exact ⟨_, (written name).trans (if_pos rfl), fun _ => rfl⟩
      · intro other apart
        exact (written other).trans (if_neg apart)
      · intro row found source
        rw [(unread row found).1] at source
        cases source
    | _ =>
      apply absurd _ settled
      intro raw same
      cases same

/-! The entries of a file. -/

theorem importEntries_of_settled {entries : List (String × Json)}
    (settled : ∀ entry ∈ entries, Settled sha256 seeding.rows entry) :
    importEntries sha256 path seeding entries = .ok { seeding with skipped := seeding.skipped + entries.length } := by
  induction entries generalizing seeding with
  | nil => rfl
  | cons entry rest ih =>
    rw [importEntries, importEntry_of_settled (settled entry List.mem_cons_self)]
    have others : ∀ other ∈ rest, Settled sha256 seeding.rows other :=
      fun other member => settled other (List.mem_cons_of_mem _ member)
    have later := @ih { seeding with skipped := seeding.skipped + 1 } others
    apply later.trans
    simp only [List.length_cons, Except.ok.injEq, Seeding.mk.injEq, true_and]
    omega

/-- An import leaves the rows that were written by hand. -/
theorem importEntries_manual {entries : List (String × Json)} (imported : importEntries sha256 path seeding entries = .ok next)
    {name : String} {row : Imported} (found : seeding.rows.find? name = some row)
    (manual : fromSeed row.configSource = false) : next.rows.find? name = some row := by
  induction entries generalizing seeding with
  | nil =>
    cases imported
    exact found
  | cons entry rest ih =>
    obtain ⟨middle, first, later⟩ := bind_eq_ok.1 imported
    apply ih later
    obtain ⟨_, others, kept⟩ := importEntry_ok first
    by_cases here : name = entry.1
    · subst here
      exact kept row found manual
    · rw [others name here, found]

/-- Every entry is settled after an import, as their names are distinct. -/
theorem importEntries_settles {entries : List (String × Json)} (distinct : (entries.map Prod.fst).Nodup)
    (imported : importEntries sha256 path seeding entries = .ok next) :
    (∀ entry ∈ entries, Settled sha256 next.rows entry) ∧
      ∀ name, name ∉ entries.map Prod.fst → next.rows.find? name = seeding.rows.find? name := by
  induction entries generalizing seeding with
  | nil =>
    cases imported
    exact ⟨fun _ member => absurd member List.not_mem_nil, fun _ _ => rfl⟩
  | cons entry rest ih =>
    obtain ⟨middle, first, later⟩ := bind_eq_ok.1 imported
    obtain ⟨fresh, distinct⟩ := List.nodup_cons.1 distinct
    obtain ⟨settled, kept⟩ := ih distinct later
    obtain ⟨own, others, _⟩ := importEntry_ok first
    refine ⟨?_, ?_⟩
    · intro other member
      rcases List.mem_cons.1 member with rfl | behind
      · intro raw same
        rw [kept _ fresh]
        exact own raw same
      · exact settled other behind
    · intro name absent
      have apart := not_or.1 (mt List.mem_cons.2 absent)
      rw [kept name apart.2, others name apart.1]

/-! Runs. -/

/-- An upsert that does not claim to come from a file. -/
def Action.honest : Action → Bool
  | .upsert _ configSource _ => !fromSeed configSource
  | _ => true

omit [CharData] in
theorem manual_of_honest {configSource : String} (honest : fromSeed configSource = false) :
    fromSeed (if configSource = "" then "manual" else configSource) = false := by
  split_ifs
  · decide
  · exact honest

/-- Nothing stops the application. -/
theorem exists_run (sha256 : String → String) (rows : Rows) (actions : List Action) :
    ∃ last, Runs.run (step sha256) rows actions = some last := by
  induction actions generalizing rows with
  | nil => exact ⟨rows, rfl⟩
  | cons action rest ih =>
    have taken : ∃ next, step sha256 rows action = some next := by
      unfold step
      cases action with
      | start path document => dsimp only; split <;> exact ⟨_, rfl⟩
      | upsert draft configSource checksum => dsimp only; split <;> exact ⟨_, rfl⟩
      | refresh serverName answer => exact ⟨_, rfl⟩
    obtain ⟨next, taken⟩ := taken
    obtain ⟨last, ran⟩ := ih next
    exact ⟨last, Runs.run_cons_eq_some.2 ⟨next, taken, ran⟩⟩

/-- An entry stays settled until a file is read that differs. -/
theorem Settled.step (settled : Settled sha256 rows entry) {action : Action} (honest : action.honest = true)
    (plain : action.isStart = false) {after : Rows} (taken : step sha256 rows action = some after) :
    Settled sha256 after entry := by
  intro raw same
  obtain ⟨row, found, read⟩ := settled raw same
  cases action with
  | start path document => cases plain
  | upsert draft configSource checksum =>
    have source : fromSeed configSource = false := by simpa [Action.honest] using honest
    unfold McpSeed.step at taken
    cases upserted : McpSeed.upsert rows draft configSource checksum with
    | error raised =>
      simp only [upserted, Option.some.injEq] at taken
      exact ⟨row, taken ▸ found, read⟩
    | ok next =>
      simp only [upserted, Option.some.injEq] at taken
      rw [← taken, find?_upsert upserted]
      by_cases here : entry.1 = draft.name
      · refine ⟨_, if_pos here, fun claimed => ?_⟩
        exact absurd ((manual_of_honest source).symm.trans claimed) (by decide)
      · exact ⟨row, (if_neg here).trans found, read⟩
  | refresh serverName answer =>
    obtain rfl := Option.some.inj taken
    rw [find?_refresh, found, Option.map_some]
    split_ifs
    · exact ⟨_, rfl, read⟩
    · exact ⟨row, rfl, read⟩

/-- Once a file has been imported, the later starts with this file are invisible: whatever is refreshed or written by
hand in between, the rows are those without these starts. -/
theorem unchanged_seed_invisible {document : Json} (imported : importMcpSeed sha256 path (some document) rows = .ok seeding)
    (distinct : ∀ entries, seedEntries document = .ok entries → (entries.map Prod.fst).Nodup) {actions : List Action}
    (same : ∀ action ∈ actions, action.honest = true ∧ (action.isStart = true → action = .start path (some document)))
    {last : Rows} (ran : Runs.run (step sha256) seeding.rows actions = some last) :
    Runs.run (step sha256) seeding.rows (actions.filter fun action => !action.isStart) = some last := by
  obtain ⟨entries, read, imported⟩ := bind_eq_ok.1 imported
  have start := (importEntries_settles (distinct entries read) imported).1
  obtain ⟨final, reached, matched⟩ := @Runs.run_erase _ _ (step sha256)
    (fun state other => state = other ∧ ∀ entry ∈ entries, Settled sha256 state entry) Action.isStart
    (fun action => action.honest = true ∧ (action.isStart = true → action = .start path (some document)))
    (by
      intro state other action next related allowed silent taken
      obtain ⟨rfl, settled⟩ := related
      rw [allowed.2 silent] at taken
      have nothing : importMcpSeed sha256 path (some document) state =
          .ok { rows := state, skipped := 0 + entries.length } := by
        rw [importMcpSeed, read]
        exact @importEntries_of_settled _ sha256 path { rows := state } entries settled
      simp only [step, nothing, Option.some.injEq] at taken
      exact ⟨taken.symm, taken ▸ settled⟩)
    (by
      intro state other action next related allowed plain taken
      obtain ⟨rfl, settled⟩ := related
      exact ⟨next, taken, rfl, fun entry member => (settled entry member).step allowed.1 plain taken⟩)
    _ _ _ _ ⟨rfl, start⟩ same ran
  rw [reached, matched.1]

/-- The row of a name was written by hand. -/
def ByHand (rows : Rows) (name : String) : Prop := ∃ row, rows.find? name = some row ∧ fromSeed row.configSource = false

/-- A start leaves the rows that were written by hand. -/
theorem byHand_start {document : Option Json} {name : String} {row : Imported} (found : rows.find? name = some row)
    (manual : fromSeed row.configSource = false) {after : Rows}
    (taken : step sha256 rows (.start path document) = some after) : after.find? name = some row := by
  unfold step at taken
  cases done : importMcpSeed sha256 path document rows with
  | error raised =>
    simp only [done, Option.some.injEq] at taken
    exact taken ▸ found
  | ok seeding =>
    simp only [done, Option.some.injEq] at taken
    rw [← taken]
    cases document with
    | none =>
      cases done
      exact found
    | some document =>
      obtain ⟨entries, _, imported⟩ := bind_eq_ok.1 done
      exact importEntries_manual imported found manual

/-- The other actions do the same to a row wherever it stands, and leave it one that was written by hand. -/
theorem byHand_step {name : String} {other after : Rows} (same : rows.find? name = other.find? name)
    (byHand : ByHand rows name) {action : Action}
    (honest : ∀ draft configSource checksum, action = .upsert draft configSource checksum → draft.name = name →
      fromSeed configSource = false)
    (plain : action.isStart = false) (taken : step sha256 rows action = some after) :
    ∃ next, step sha256 other action = some next ∧ after.find? name = next.find? name ∧ ByHand after name := by
  obtain ⟨row, found, manual⟩ := byHand
  cases action with
  | start path document => cases plain
  | upsert draft configSource checksum =>
    unfold step at taken
    cases upserted : McpSeed.upsert rows draft configSource checksum with
    | error raised =>
      simp only [upserted, Option.some.injEq] at taken
      refine ⟨other, ?_, taken ▸ same, taken ▸ ⟨row, found, manual⟩⟩
      simp only [step, upsert_error_iff upserted]
    | ok written =>
      simp only [upserted, Option.some.injEq] at taken
      subst taken
      have rows_ := find?_upsert upserted name
      cases upserted' : McpSeed.upsert other draft configSource checksum with
      | error raised =>
        rw [upsert_error_iff upserted'] at upserted
        cases upserted
      | ok written' =>
        refine ⟨written', by simp only [step, upserted'], ?_, ?_⟩
        · rw [rows_, find?_upsert upserted' name]
          by_cases here : name = draft.name
          · rw [if_pos here, if_pos here, ← here, same]
          · rw [if_neg here, if_neg here, same]
        · by_cases here : name = draft.name
          · exact ⟨_, rows_.trans (if_pos here), manual_of_honest (honest draft configSource checksum rfl here.symm)⟩
          · exact ⟨row, (rows_.trans (if_neg here)).trans found, manual⟩
  | refresh serverName answer =>
    obtain rfl := Option.some.inj taken
    refine ⟨_, rfl, ?_, ?_⟩
    · rw [find?_refresh, find?_refresh, same]
    · refine ⟨_, (find?_refresh rows serverName answer name).trans (congrArg _ found), ?_⟩
      split_ifs <;> exact manual

/-- A server that was written by hand is at any time as if no file had ever been read. -/
theorem byHand_without_seeds {name : String} (byHand : ByHand rows name) {actions : List Action}
    (honest : ∀ draft configSource checksum, .upsert draft configSource checksum ∈ actions → draft.name = name →
      fromSeed configSource = false)
    {last : Rows} (ran : Runs.run (step sha256) rows actions = some last) :
    ∃ final, Runs.run (step sha256) rows (actions.filter fun action => !action.isStart) = some final ∧
      final.find? name = last.find? name := by
  obtain ⟨final, reached, matched, _⟩ := @Runs.run_erase _ _ (step sha256)
    (fun state other => state.find? name = other.find? name ∧ ByHand state name) Action.isStart
    (fun action => ∀ draft configSource checksum, action = .upsert draft configSource checksum → draft.name = name →
      fromSeed configSource = false)
    (by
      intro state other action next related _ silent taken
      obtain ⟨same, row, found, manual⟩ := related
      cases action with
      | start path document =>
        have kept := byHand_start found manual taken
        exact ⟨kept.trans (found.symm.trans same), row, kept, manual⟩
      | _ => cases silent)
    (by
      intro state other action next related allowed plain taken
      exact byHand_step related.1 related.2 allowed plain taken)
    _ _ _ _ ⟨rfl, byHand⟩
    (fun action member draft configSource checksum same => honest draft configSource checksum (same ▸ member)) ran
  exact ⟨final, reached, matched.symm⟩

end Seed

section Demo
attribute [local instance] CharData.ascii

/-- A file with one server. -/
private def searchSeed : Json := .obj [("servers", .obj [("web", .obj [("command", .str "npx")])])]

private def searchRestart : List Action :=
  [.refresh "web" (.ok []), .start "seed.yaml" (some searchSeed), .refresh "web" (.error "gone")]

theorem search_seed_again : ∃ seeding last, importMcpSeed id "seed.yaml" (some searchSeed) .empty = .ok seeding ∧
    Runs.run (step id) seeding.rows searchRestart = some last ∧
    Runs.run (step id) seeding.rows (searchRestart.filter fun action => !action.isStart) = some last := by
  have accepted : (importMcpSeed id "seed.yaml" (some searchSeed) .empty).toOption.any (fun _ => True) = true := by
    decide +kernel
  obtain ⟨seeding, imported, _⟩ := exists_ok accepted
  obtain ⟨last, ran⟩ := exists_run id seeding.rows searchRestart
  refine ⟨seeding, last, imported, ran, unchanged_seed_invisible imported ?_ ?_ ran⟩
  · intro entries read
    cases read
    decide
  · intro action member
    rcases List.mem_cons.1 member with rfl | member
    · exact ⟨rfl, fun started => by cases started⟩
    rcases List.mem_cons.1 member with rfl | member
    · exact ⟨rfl, fun _ => rfl⟩
    rcases List.mem_cons.1 member with rfl | member
    · exact ⟨rfl, fun started => by cases started⟩
    · cases member

/-- A row under the name of the server of the file. -/
private def ownSearch : Rows := Keyed.put .empty { server := { name := "web", command := "own" } }

theorem own_search_kept : ∃ last final,
    Runs.run (step id) ownSearch (.upsert { name := "other", command := "more" } "" "" :: searchRestart) = some last ∧
    Runs.run (step id) ownSearch ((.upsert { name := "other", command := "more" } "" "" :: searchRestart).filter
      fun action => !action.isStart) = some final ∧ final.find? "web" = last.find? "web" := by
  have byHand : ByHand ownSearch "web" := ⟨{ server := { name := "web", command := "own" } }, rfl, rfl⟩
  obtain ⟨last, ran⟩ := exists_run id ownSearch (.upsert { name := "other", command := "more" } "" "" :: searchRestart)
  obtain ⟨final, reached, same⟩ := byHand_without_seeds byHand (by
    intro draft configSource checksum member named
    rcases List.mem_cons.1 member with same | member
    · cases same
      rfl
    · simp [searchRestart] at member) ran
  exact ⟨last, final, ran, reached, same⟩

end Demo

end SoulClaw.Runtime.McpSeed
