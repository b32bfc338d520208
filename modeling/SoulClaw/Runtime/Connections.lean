import SoulClaw.Foundation.Keyed
import SoulClaw.Foundation.Runs
import SoulClaw.Foundation.Yaml
import SoulClaw.Runtime.RemoteTasks
import Mathlib.Data.List.Dedup

/-! The connections to remote agents: how the API and the start of the application write them, and what a discovery
reads of the card of an agent. A request whose endpoint raises is rolled back by `get_db`. -/

namespace SoulClaw.Runtime.Connections
open Foundation A2A RemoteResults RemoteTasks

/-- The columns that a delegation reads, and the others. -/
structure Connection where
  agent : A2AAgentConnection
  kind : String := "a2a"
  endpoint : String := ""
  rpcUrl : String := ""
  status : String := "pending"
  lastError : String := ""
  deriving DecidableEq

def Connection.name (connection : Connection) : String := connection.agent.name

abbrev Rows := Keyed Connection.name

/-- The arguments of `upsert_connection`. -/
structure ConnectionDraft where
  name : String
  kind : String := "a2a"
  endpoint : String := ""
  rpcUrl : String := ""
  agentCard : Dict := []
  config : Dict := []
  enabled : Bool := true
  status : Option String := none
  capabilities : List String := []
  skills : List Dict := []

/-- `text.rstrip("/")`. -/
def rstripSlash (text : String) : String := String.ofList (text.toList.reverse.dropWhile (· = '/')).reverse

section Cards
variable [CharData] [UpperData]

/-- `_skills_from_card`. -/
def skillsFromCard (card : Dict) : List Dict :=
  (card.get "skills").list.filterMap fun item =>
    match item with
    | .obj skill => some skill
    | _ => none

/-- The capabilities that one skill adds. -/
def skillCapabilities (skill : Dict) : Except PyException (List String) :=
  ((skill.get "tags").or (.arr [])).toList.map fun tags =>
    tags.map Json.toStr ++
      (if (skill.get "id").truthy then [(skill.get "id").toStr] else []) ++
      (if (skill.get "name").truthy then [replaceChar ' ' '-' (Text.lower (skill.get "name").toStr)] else [])

/-- `_capabilities_from_card`. -/
def capabilitiesFromCard (card : Dict) : Except PyException (List String) :=
  ((skillsFromCard card).mapM skillCapabilities).map fun named =>
    (((card.get "capabilities").dict.filter fun field => field.2.truthy).map Prod.fst ++ named.flatten).dedup.insertionSort
      (· ≤ ·)

def noInterface : PyException :=
  ⟨.runtimeError, "Agent Card does not advertise an A2A 1.0 JSONRPC supported interface"⟩

/-- The address of an interface for JSON-RPC in the version of the runtime. -/
def jsonrpcUrl : Json → Option String
  | .obj item =>
      if (Dict.get item "url").truthy ∧ upper (text (Dict.get item "protocolBinding")) ∈ ["JSONRPC", "JSON-RPC"] ∧
          text (Dict.get item "protocolVersion") = "1.0" then
        some (Dict.get item "url").toStr
      else none
  | _ => none

/-- `_rpc_url_from_card`. -/
def rpcUrlFromCard (card : Dict) : Except PyException String :=
  match (card.get "supportedInterfaces").list.findSome? jsonrpcUrl with
  | some url => .ok url
  | none => .error noInterface

end Cards

section Model
variable [CharData] [UpperData]

/-! `A2AService`. -/

def ConnectionDraft.check (draft : ConnectionDraft) : Except PyException Unit :=
  if Text.strip draft.name = "" then .error ⟨.valueError, "A2A connection name is required"⟩
  else if draft.kind ≠ "a2a" then .error ⟨.valueError, "unsupported A2A connection kind"⟩
  else if draft.endpoint = "" ∧ draft.rpcUrl = "" then
    .error ⟨.valueError, "A2A connection requires endpoint or rpc_url"⟩
  else .ok ()

/-- The row behind an upsert. -/
def ConnectionDraft.row (draft : ConnectionDraft) (before : Connection) : Except PyException Connection :=
  let card := if draft.agentCard = [] then before.agent.agentCard else draft.agentCard
  (if draft.capabilities = [] then capabilitiesFromCard card else .ok draft.capabilities).map fun capabilities =>
    { agent :=
        { name := Text.strip draft.name
          enabled := draft.enabled
          agentCard := card
          config := draft.config
          capabilities := capabilities.map Json.str
          skills := if draft.skills = [] then skillsFromCard card else draft.skills }
      kind := draft.kind
      endpoint := rstripSlash draft.endpoint
      rpcUrl := draft.rpcUrl
      status :=
        if draft.enabled then
          if draft.status.getD "" = "" then "pending" else draft.status.getD ""
        else "disabled"
      lastError := if draft.enabled then before.lastError else "" }

/-- `upsert_connection`. -/
def upsertConnection (rows : Rows) (draft : ConnectionDraft) : Except PyException Rows :=
  draft.check >>= fun _ =>
    (draft.row ((rows.find? (Text.strip draft.name)).getD { agent := { name := Text.strip draft.name } })).map rows.put

/-- `update_discovery`: the row, of which an exception leaves the first columns written. -/
def updateDiscovery (connection : Connection) (card : Dict) (rpcUrl status error : String) :
    Except PyException Unit × Connection :=
  let connection := { connection with
    agent := { connection.agent with agentCard := card }
    rpcUrl := if rpcUrl = "" then connection.rpcUrl else rpcUrl }
  match capabilitiesFromCard card with
  | .error raised => (.error raised, connection)
  | .ok capabilities =>
      (.ok (), { connection with
        agent := { connection.agent with capabilities := capabilities.map Json.str, skills := skillsFromCard card }
        status := status
        lastError := error })

/-! `A2ARuntimeManager.discover`. -/

/-- `_agent_card_urls`. -/
def agentCardUrls (connection : Connection) : List String :=
  let base := rstripSlash (if connection.endpoint = "" then connection.rpcUrl else connection.endpoint)
  if base = "" then []
  else if "/.well-known/agent-card.json".toList.isSuffixOf base.toList then [base]
  else [base ++ "/.well-known/agent-card.json"]

/-- What requests of cards answer, after their retries: the value of the JSON text, or the text of an exception. -/
abbrev Cards := String → Except String Json

/-- One turn of the loop: the card, or the text of the last exception. -/
def readCard (cards : Cards) (connection : Connection) (url : String) : Except String Dict × Connection :=
  match cards url with
  | .error error => (.error error, connection)
  | .ok (.obj card) =>
      match rpcUrlFromCard card with
      | .error raised => (.error raised.str, connection)
      | .ok rpcUrl =>
          match updateDiscovery connection card rpcUrl "online" "" with
          | (.error raised, connection) => (.error raised.str, connection)
          | (.ok (), connection) => (.ok card, connection)
  | .ok other => (.error ("'" ++ other.typeName ++ "' object has no attribute 'get'"), connection)

def readCards (cards : Cards) : Connection → String → List String → Except String Dict × Connection
  | connection, lastError, [] => (.error lastError, connection)
  | connection, _, url :: rest =>
      match readCard cards connection url with
      | (.error error, connection) => readCards cards connection error rest
      | (.ok card, connection) => (.ok card, connection)

/-- `_require_connection`. -/
def requireRow (rows : Rows) (connectionName : String) : Except PyException Connection :=
  match rows.find? connectionName with
  | none => .error ⟨.keyError, "A2A connection not found: " ++ connectionName⟩
  | some connection =>
      if connection.agent.enabled then .ok connection
      else .error ⟨.runtimeError, "A2A connection disabled: " ++ connectionName⟩

/-- `discover`. -/
def discover (cards : Cards) (rows : Rows) (connectionName : String) : Except PyException Dict × Rows :=
  match requireRow rows connectionName with
  | .error raised => (.error raised, rows)
  | .ok connection =>
      match readCards cards connection "" (agentCardUrls connection) with
      | (.ok card, connection) => (.ok card, rows.put connection)
      | (.error lastError, connection) =>
          match updateDiscovery connection connection.agent.agentCard "" "failed" lastError with
          | (.error raised, connection) => (.error raised, rows.put connection)
          | (.ok (), connection) =>
              (.error ⟨.runtimeError, "A2A discovery failed for " ++ connection.name ++ ": " ++ lastError⟩,
                rows.put connection)

/-- The answer of `discover_a2a_connection` to an exception. -/
def discoverError (raised : PyException) : HttpError :=
  match raised.kind with
  | .keyError => ⟨404, raised.str⟩
  | .runtimeError => ⟨400, raised.str⟩
  | _ => ⟨500, "Internal Server Error"⟩

/-- `discover_a2a_connection` between the start and the end of its transaction. -/
def discoverEndpoint (cards : Cards) (rows : Rows) (connectionName : String) : Except HttpError Dict × Rows :=
  match discover cards rows connectionName with
  | (.error raised, _) => (.error (discoverError raised), rows)
  | (.ok card, after) => (.ok card, after)

/-! The system. -/

/-- The settings of the connection that a start writes. -/
structure Bootstrap where
  baseUrl : String
  internalApiKey : String := ""
  authUserHeader : String := ""
  userId : String := ""

/-- The connection that the start of the application writes. -/
def Bootstrap.draft (bootstrap : Bootstrap) : ConnectionDraft where
  name := "soulsearcher-deep-research"
  endpoint := bootstrap.baseUrl
  config := [("base_url", .str bootstrap.baseUrl), ("internal_api_key", .str bootstrap.internalApiKey),
    ("auth_user_header", .str bootstrap.authUserHeader), ("user_id", .str bootstrap.userId),
    ("accepted_output_modes", .arr [.str "text/markdown", .str "text/html", .str "application/json"])]
  status := some "pending"
  capabilities := ["deep-research", "research", "soulsearcher"]
  skills := [[("id", .str "deep-research"), ("name", .str "Deep Research"),
    ("description", .str "Delegate evidence-driven deep research to SoulSearcher over A2A 1.0."),
    ("tags", .arr [.str "research", .str "deep-research", .str "soulsearcher"])]]

inductive Action where
  | start (bootstrap : Option Bootstrap)
  | upsert (draft : ConnectionDraft)
  | discover (connectionName : String) (cards : Cards)

/-- The rows after an upsert, which is rolled back if it raises. -/
def upserted (rows : Rows) (draft : ConnectionDraft) : Rows :=
  match upsertConnection rows draft with
  | .error _ => rows
  | .ok next => next

def step (rows : Rows) : Action → Option Rows
  | .start none => some rows
  | .start (some bootstrap) => some (if bootstrap.baseUrl = "" then rows else upserted rows bootstrap.draft)
  | .upsert draft => some (upserted rows draft)
  | .discover connectionName cards => some (discoverEndpoint cards rows connectionName).2

/-! Rows. -/

variable {rows : Rows} {cards : Cards} {connection after : Connection}

omit [CharData] [UpperData] in
/-- A delegation finds the connection that a discovery finds. -/
theorem requireConnection_agents (rows : Rows) (connectionName : String) :
    requireConnection (rows.rows.map Connection.agent) connectionName =
      (requireRow rows connectionName).map Connection.agent := by
  have found : ((rows.rows.map Connection.agent).find? fun connection => connection.name = connectionName) =
      (rows.find? connectionName).map Connection.agent := by
    rw [List.find?_map]
    rfl
  rw [requireConnection, requireRow, found]
  cases rows.find? connectionName with
  | none => rfl
  | some connection =>
    simp only [Option.map_some]
    split_ifs <;> rfl

/-- The row says of an agent what its own card says. -/
structure Advertised (connection : Connection) : Prop where
  url : ∃ advertised, rpcUrlFromCard connection.agent.agentCard = .ok advertised ∧
    (advertised ≠ "" → connection.rpcUrl = advertised)
  capabilities : ∃ names, capabilitiesFromCard connection.agent.agentCard = .ok names ∧
    connection.agent.capabilities = names.map Json.str
  skills : connection.agent.skills = skillsFromCard connection.agent.agentCard

structure Sound (connection : Connection) : Prop where
  error : connection.lastError = ""
  failed : connection.status ≠ "failed"
  online : connection.status = "online" → connection.agent.enabled = true ∧ Advertised connection

/-! Upserts. -/

/-- A status that only a discovery may find out is not given. -/
def ConnectionDraft.modest (draft : ConnectionDraft) : Bool := draft.status.getD "" ∉ ["online", "failed"]

omit [UpperData] in
theorem upsertConnection_ok {draft : ConnectionDraft} {next : Rows} (written : upsertConnection rows draft = .ok next) :
    ∃ before row, (rows.find? (Text.strip draft.name) = some before ∨ before.lastError = "") ∧
      draft.row before = .ok row ∧ next = rows.put row := by
  obtain ⟨_, _, rest⟩ := bind_eq_ok.1 written
  obtain ⟨row, drawn, rfl⟩ := map_eq_ok.1 rest
  refine ⟨_, row, ?_, drawn, rfl⟩
  cases rows.find? (Text.strip draft.name) with
  | none => exact .inr rfl
  | some before => exact .inl rfl

theorem sound_row {draft : ConnectionDraft} (modest : draft.modest = true) {before row : Connection}
    (clean : before.lastError = "") (drawn : draft.row before = .ok row) : Sound row := by
  obtain ⟨names, _, rfl⟩ := map_eq_ok.1 drawn
  have given : draft.status.getD "" ∉ ["online", "failed"] := by simpa [ConnectionDraft.modest] using modest
  have apart : ∀ status ∈ ["online", "failed"], (if draft.enabled then
      if draft.status.getD "" = "" then "pending" else draft.status.getD "" else "disabled") ≠ status := by
    intro status listed
    split_ifs
    · rintro rfl
      exact absurd listed (by decide)
    · intro same
      exact given (same ▸ listed)
    · rintro rfl
      exact absurd listed (by decide)
  refine ⟨?_, apart "failed" (by decide), fun online => absurd online (apart "online" (by decide))⟩
  show (if draft.enabled then before.lastError else "") = ""
  rw [clean, ite_self]

theorem sound_upserted {draft : ConnectionDraft} (sound : ∀ row ∈ rows.rows, Sound row) (modest : draft.modest = true) :
    ∀ row ∈ (upserted rows draft).rows, Sound row := by
  unfold upserted
  cases written : upsertConnection rows draft with
  | error raised => exact sound
  | ok next =>
    obtain ⟨before, row, origin, drawn, rfl⟩ := upsertConnection_ok written
    have clean : before.lastError = "" := by
      rcases origin with known | fresh
      · exact (sound before (Keyed.find?_eq_some_iff.1 known).1).error
      · exact fresh
    intro other member
    rcases Keyed.mem_put.1 member with ⟨stored, _⟩ | rfl
    · exact sound other stored
    · exact sound_row modest clean drawn

/-! Discoveries. -/

omit [UpperData] in
theorem updateDiscovery_ok {card : Dict} {rpcUrl status error : String}
    (written : updateDiscovery connection card rpcUrl status error = (.ok (), after)) :
    ∃ names, capabilitiesFromCard card = .ok names ∧ after.agent.capabilities = names.map Json.str ∧
      after.agent.skills = skillsFromCard card ∧ after.agent.agentCard = card ∧
      after.rpcUrl = (if rpcUrl = "" then connection.rpcUrl else rpcUrl) ∧ after.status = status ∧
      after.lastError = error := by
  unfold updateDiscovery at written
  cases read : capabilitiesFromCard card with
  | error raised =>
    simp only [read] at written
    cases written
  | ok names =>
    simp only [read] at written
    cases written
    exact ⟨names, rfl, rfl, rfl, rfl, rfl, rfl, rfl⟩

omit [UpperData] in
/-- A discovery neither renames nor enables a connection. -/
theorem updateDiscovery_keeps (connection : Connection) (card : Dict) (rpcUrl status error : String) :
    (updateDiscovery connection card rpcUrl status error).2.agent.enabled = connection.agent.enabled := by
  unfold updateDiscovery
  cases capabilitiesFromCard card <;> rfl

theorem readCard_keeps (cards : Cards) (connection : Connection) (url : String) :
    (readCard cards connection url).2.agent.enabled = connection.agent.enabled := by
  unfold readCard
  cases cards url with
  | error error => rfl
  | ok value =>
    cases value with
    | obj card =>
      dsimp only
      cases rpcUrlFromCard card with
      | error raised => rfl
      | ok rpcUrl =>
        have kept := updateDiscovery_keeps connection card rpcUrl "online" ""
        dsimp only
        cases written : updateDiscovery connection card rpcUrl "online" "" with
        | mk outcome changed =>
          rw [written] at kept
          cases outcome <;> exact kept
    | _ => rfl

/-- A card that is accepted is what the row says. -/
theorem readCard_ok {url : String} {card : Dict} (read : readCard cards connection url = (.ok card, after)) :
    after.lastError = "" ∧ after.status = "online" ∧ Advertised after := by
  unfold readCard at read
  cases answer : cards url with
  | error error =>
    simp only [answer] at read
    cases read
  | ok value =>
    cases value with
    | obj offered =>
      simp only [answer] at read
      cases found : rpcUrlFromCard offered with
      | error raised =>
        simp only [found] at read
        cases read
      | ok rpcUrl =>
        simp only [found] at read
        cases written : updateDiscovery connection offered rpcUrl "online" "" with
        | mk outcome changed =>
          rw [written] at read
          cases outcome with
          | error raised => cases read
          | ok _ =>
            cases read
            obtain ⟨names, listed, capabilities, skills, own, url, status, error⟩ := updateDiscovery_ok written
            refine ⟨error, status, ⟨rpcUrl, own ▸ found, ?_⟩, ⟨names, own ▸ listed, capabilities⟩, own ▸ skills⟩
            intro visible
            rw [url, if_neg visible]
    | _ =>
      simp only [answer] at read
      cases read

theorem readCards_ok {lastError : String} {urls : List String} {card : Dict}
    (read : readCards cards connection lastError urls = (.ok card, after)) :
    (after.lastError = "" ∧ after.status = "online" ∧ Advertised after) ∧
      after.agent.enabled = connection.agent.enabled := by
  induction urls generalizing connection lastError with
  | nil => cases read
  | cons url rest ih =>
    rw [readCards] at read
    have kept := readCard_keeps cards connection url
    cases first : readCard cards connection url with
    | mk outcome changed =>
      rw [first] at read kept
      cases outcome with
      | error error =>
        obtain ⟨found, same⟩ := ih read
        exact ⟨found, same.trans kept⟩
      | ok accepted =>
        cases read
        exact ⟨readCard_ok first, kept⟩

theorem discoverEndpoint_rows (cards : Cards) (rows : Rows) (connectionName : String) :
    (discoverEndpoint cards rows connectionName).2 = rows ∨ ∃ connection after card,
      requireRow rows connectionName = .ok connection ∧
        readCards cards connection "" (agentCardUrls connection) = (.ok card, after) ∧
        (discoverEndpoint cards rows connectionName).2 = rows.put after := by
  unfold discoverEndpoint discover
  cases required : requireRow rows connectionName with
  | error raised => exact .inl rfl
  | ok connection =>
    dsimp only
    cases read : readCards cards connection "" (agentCardUrls connection) with
    | mk outcome changed =>
      cases outcome with
      | ok card => exact .inr ⟨connection, changed, card, rfl, read, rfl⟩
      | error lastError =>
        dsimp only
        cases updateDiscovery changed changed.agent.agentCard "" "failed" lastError with
        | mk result final => cases result <;> exact .inl rfl

theorem sound_discover (sound : ∀ row ∈ rows.rows, Sound row) (cards : Cards) (connectionName : String) :
    ∀ row ∈ (discoverEndpoint cards rows connectionName).2.rows, Sound row := by
  rcases discoverEndpoint_rows cards rows connectionName with same | ⟨connection, after, card, required, read, written⟩
  · rw [same]
    exact sound
  · rw [written]
    obtain ⟨⟨error, status, advertised⟩, kept⟩ := readCards_ok read
    have enabled : connection.agent.enabled = true := by
      unfold requireRow at required
      split at required
      · cases required
      · split_ifs at required with enabled
        cases required
        exact enabled
    intro row member
    rcases Keyed.mem_put.1 member with ⟨stored, _⟩ | rfl
    · exact sound row stored
    · exact ⟨error, by rw [status]; decide, fun _ => ⟨kept.trans enabled, advertised⟩⟩

/-! Runs. -/

def Action.modest : Action → Bool
  | .upsert draft => draft.modest
  | _ => true

/-- Whatever the agents answer, no stored connection is marked as failed or carries an error, as the discovery that
would write them is rolled back; and one that is online has the address, the capabilities and the skills of its card. -/
theorem connections_of_run {actions : List Action} (modest : ∀ action ∈ actions, action.modest = true) {last : Rows}
    (ran : Runs.run step .empty actions = some last) {row : Connection} (member : row ∈ last.rows) : Sound row := by
  have along : Runs.Along step (fun _ action => action.modest = true) (Keyed.empty : Rows) actions :=
    Runs.along_of_forall_mem _ actions modest
  have sound := Runs.run_invariant_along (fun rows : Rows => ∀ row ∈ rows.rows, Sound row) (by
    intro rows action next sound allowed taken
    cases action with
    | start bootstrap =>
      cases bootstrap with
      | none =>
        obtain rfl := Option.some.inj taken
        exact sound
      | some bootstrap =>
        obtain rfl := Option.some.inj taken
        split_ifs
        · exact sound
        · exact sound_upserted sound rfl
    | upsert draft =>
      obtain rfl := Option.some.inj taken
      exact sound_upserted sound allowed
    | discover connectionName cards =>
      obtain rfl := Option.some.inj taken
      exact sound_discover sound cards connectionName)
    (fun _ listed => absurd listed List.not_mem_nil) along ran
  exact sound row member

end Model

section Demo
attribute [local instance] CharData.ascii UpperData.ascii

/-- An agent behind one address, and then behind none. -/
private def researcher : Cards := fun url =>
  if url = "http://a/.well-known/agent-card.json" then
    .ok (.obj [("supportedInterfaces", .arr [.obj [("protocolBinding", .str "jsonrpc"), ("protocolVersion", .str "1.0"),
      ("url", .str "http://a/rpc")]]), ("skills", .arr [.obj [("id", .str "research")]])])
  else .error "refused"

private def discoveries : List Action :=
  [.upsert { name := "a", endpoint := "http://a/" }, .discover "a" researcher, .discover "a" fun _ => .error "gone"]

theorem researcher_online : ∃ last row, Runs.run step .empty discoveries = some last ∧ row ∈ last.rows ∧
    row.status = "online" ∧ Sound row := by
  have kept : (Runs.run step .empty discoveries).any (fun last => last.rows.any fun row => row.status = "online") = true := by
    decide +kernel
  cases ran : Runs.run step .empty discoveries with
  | none =>
    rw [ran] at kept
    cases kept
  | some last =>
    rw [ran] at kept
    obtain ⟨row, member, online⟩ := List.any_eq_true.1 kept
    exact ⟨last, row, rfl, member, of_decide_eq_true online, connections_of_run (by decide) ran member⟩

end Demo

end SoulClaw.Runtime.Connections
