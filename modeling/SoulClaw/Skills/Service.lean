import Mathlib.Data.List.MinMax
import SoulClaw.Foundation.JsonText
import SoulClaw.Skills.Storage
import SoulClaw.Wiki.Proposals

/-! `SkillService`: the index that mirrors the skills tree, proposals to change a skill, and the way back. The
session does not flush by itself, so what a call has added is seen by no query of that call. -/

namespace SoulClaw.Skills.Service
open Foundation Files Wiki.Storage Wiki.Proposals Package Storage

structure Skill where
  skillKey : String
  name : String
  description : String := ""
  path : String
  status : String := "active"
  metadata : Mapping := []

structure SkillFile where
  skillKey : String
  filePath : String
  checksum : String
  content : String
  deriving DecidableEq

structure SkillHistory where
  skillKey : String
  action : String
  beforeSnapshot : Dict
  afterSnapshot : Dict
  actor : String
  createdAt : Int
  deriving DecidableEq

structure SkillTest where
  skillKey : String
  name : String
  spec : Mapping
  lastStatus : String := "never_run"
  lastRunAt : Option Int := none

/-- The rows of the tables; the key of a skill is unique. -/
structure SkillDb where
  skills : Keyed Skill.skillKey
  files : List SkillFile
  tests : List SkillTest
  history : List SkillHistory

structure State where
  db : SkillDb
  proposals : Table EvolutionProposal

/-- A session: the state with the changes of its rows, and the rows that it has added. -/
structure Session where
  state : State
  skills : List Skill := []
  files : List SkillFile := []
  tests : List SkillTest := []
  history : List SkillHistory := []

/-- The times that one call reads; the database stamps the rows that it inserts in whole seconds. -/
structure Clock where
  now : Int
  inserted : Int

/-- The columns that are stored as JSON. -/
def Session.jsonable (session : Session) : Bool :=
  ((session.state.db.skills.rows ++ session.skills).all fun skill => Yaml.jsonable (.map skill.metadata)) &&
    session.tests.all fun test => Yaml.jsonable (.map test.spec)

/-- `db.commit()`. -/
def Session.commit (session : Session) : Except PyException State :=
  if !session.jsonable then .error ⟨.typeError, "Object of type date is not JSON serializable"⟩
  else
    if unique : ((session.state.db.skills.rows ++ session.skills).map Skill.skillKey).Nodup then
      .ok { session.state with
        db :=
          { skills := ⟨session.state.db.skills.rows ++ session.skills, unique⟩
            files := session.state.db.files ++ session.files
            tests := session.state.db.tests ++ session.tests
            history := session.state.db.history ++ session.history } }
    else .error ⟨.integrityError, "UNIQUE constraint failed: skills.skill_key"⟩

/-! Scanning. -/

def manifestName : Name := ⟨"SKILL.md", by decide⟩

/-- `sorted(root.rglob("SKILL.md"))`, by the directories of the files. -/
def skillDirs (root : Path) (disk : Disk) : List Path :=
  ((disk.keys.filterMap (relative root)).filter fun path => path.getLast? = some manifestName).insertionSort
    (fun first second => first.map Subtype.val ≤ second.map Subtype.val) |>.map List.dropLast

/-- `str(path)` of an absolute path. -/
def absolute (path : Path) : String := if path = [] then "/" else "/" ++ posix path

section Scan
variable [CharData] [DateData] (service : SkillService)

/-- The key of the skill in a directory below the root. -/
def skillKeyOf (dir : Path) : String :=
  let key := normalizeSkillKey (posix dir)
  if key ≠ "" then key
  else normalizeSkillKey (((service.root ++ dir).getLast?.map Subtype.val).getD "")

/-- `_sync_declared_tests`. -/
def syncDeclaredTests (skillKey : String) (metadata : Mapping) : List SkillTest :=
  match declaredTests metadata with
  | .seq declared => declared.zipIdx.map fun (test, index) =>
      let (name, spec) : Yaml × Mapping := match test with
        | .map fields => (Mapping.get fields "name", fields)
        | other => (.str (caseName index), [(.str "value", other)])
      { skillKey, name := (name.or (.str (caseName index))).toStr, spec }
  | _ => []

/-- `self._read_skill_files(skill_dir)`. -/
def filesOf (dir : Path) (disk : Disk) : FileMap := readSkillFiles (service.root ++ dir) disk

/-- The metadata and the body of the SKILL.md of a directory. -/
def manifestOf (dir : Path) (disk : Disk) : Except PyException (Mapping × String) :=
  service.parseSkillMarkdown (((filesOf service dir disk).get "SKILL.md").getD "")

/-- The row of a skill, as the frontmatter and the body of its SKILL.md describe it. -/
def described (skillKey : String) (dir : Path) (metadata : Mapping) (body : String) : Skill where
  skillKey
  name := ((metadata.get "name").or ((metadata.get "title").or (.str (skillTitle body skillKey)))).toStr
  description := Text.strip ((metadata.get "description").or (.str "")).toStr
  path := absolute (service.root ++ dir)
  status := "active"
  metadata

/-- The row of the skill with this key, if there is one, becomes `skill`. -/
def updateSkill (skills : Keyed Skill.skillKey) (skill : Skill) : Keyed Skill.skillKey where
  rows := skills.rows.map fun row => if row.skillKey = skill.skillKey then skill else row
  unique := by
    have keys : (skills.rows.map fun row => if row.skillKey = skill.skillKey then skill else row).map Skill.skillKey =
        skills.rows.map Skill.skillKey := by
      rw [List.map_map]
      apply List.map_congr_left
      intro row _
      by_cases same : row.skillKey = skill.skillKey
      · rw [Function.comp_apply, if_pos same, same]
      · rw [Function.comp_apply, if_neg same]
    rw [keys]
    exact skills.unique

/-- One turn of the loop over the directories. -/
def scanDir (disk : Disk) (session : Session) (dir : Path) : Except PyException Session := do
  let skillKey := skillKeyOf service dir
  let files := filesOf service dir disk
  let (metadata, body) ← manifestOf service dir disk
  let skill := described service skillKey dir metadata body
  let db := session.state.db
  return { session with
    state := { session.state with
      db := { db with
        skills := updateSkill db.skills skill
        files := db.files.filter fun file => file.skillKey ≠ skillKey } }
    skills := session.skills ++ if skillKey ∈ db.skills.keys then [] else [skill]
    files := session.files ++ files.rows.map fun file => ⟨skillKey, file.1, service.sha256 file.2, file.2⟩
    tests := session.tests ++ syncDeclaredTests skillKey metadata }

def scanTree (disk : Disk) (session : Session) : Except PyException Session :=
  (skillDirs service.root disk).foldlM (scanDir service disk) session

/-- `scan`. -/
def scan (session : Session) : FileM Raw (Nat × Session) := do
  Program.write (makeDirectories [] service.root)
  Program.look fun disk =>
    (scanTree service disk session).map fun session => ((skillDirs service.root disk).length, session)

end Scan

section History
variable [CharData] [DateData] {service : SkillService} {disk next : Disk} {session last : Session}

/-- What each turn of the loop keeps, a scan keeps. -/
theorem scanTree_keeps {holds : Session → Prop}
    (keeps : ∀ session dir last, holds session → scanDir service disk session dir = .ok last → holds last)
    (start : holds session) (scanned : scanTree service disk session = .ok last) : holds last := by
  rw [scanTree] at scanned
  generalize skillDirs service.root disk = dirs at scanned
  induction dirs generalizing session with
  | nil =>
    cases scanned
    exact start
  | cons dir rest ih =>
    rw [List.foldlM_cons] at scanned
    obtain ⟨middle, first, others⟩ := bind_eq_ok.1 scanned
    exact ih (keeps _ _ _ start first) others

theorem scan_keeps {holds : Session → Prop} {count : Nat}
    (keeps : ∀ disk session dir last, holds session → scanDir service disk session dir = .ok last → holds last)
    (start : holds session) (scanned : (scan service session).exec disk = (.ok (count, last), next)) : holds last := by
  obtain ⟨_, between, made, looked⟩ := Program.exec_bind_eq_ok.1 scanned
  rw [Program.exec_look, Prod.mk.injEq] at looked
  obtain ⟨last', found, same⟩ := map_eq_ok.1 looked.1
  cases same
  exact scanTree_keeps (keeps between) start found

/-- Scanning leaves the history and the proposals alone. -/
theorem scanDir_frame {dir : Path} (scanned : scanDir service disk session dir = .ok last) :
    last.history = session.history ∧ last.state.db.history = session.state.db.history ∧
      last.state.proposals = session.state.proposals := by
  obtain ⟨⟨metadata, body⟩, _, made⟩ := bind_eq_ok.1 scanned
  cases made
  exact ⟨rfl, rfl, rfl⟩

theorem scan_frame {count : Nat} (scanned : (scan service session).exec disk = (.ok (count, last), next)) :
    last.history = session.history ∧ last.state.db.history = session.state.db.history ∧
      last.state.proposals = session.state.proposals := by
  apply scan_keeps (fun _ _ _ _ start turned => ?_) ⟨rfl, rfl, rfl⟩ scanned
  obtain ⟨added, stored, proposals⟩ := scanDir_frame turned
  exact ⟨added.trans start.1, stored.trans start.2.1, proposals.trans start.2.2⟩

omit [CharData] [DateData] in
theorem commit_frame {state : State} (committed : session.commit = .ok state) :
    state.db.history = session.state.db.history ++ session.history ∧ state.proposals = session.state.proposals := by
  rw [Session.commit] at committed
  split at committed
  next => cases committed
  next =>
    split at committed
    next =>
      cases committed
      exact ⟨rfl, rfl⟩
    next => cases committed

end History

/-! Proposals. -/

/-- `{"files": files, "checksum": snapshot_checksum(files)}`. -/
def snapshotDict (service : SkillService) (files : FileMap) : Dict :=
  [("files", .obj files.toDict), ("checksum", .str (service.snapshotChecksum files))]

def sortedTexts (items : List String) : Json := jsonTexts (items.insertionSort (· ≤ ·))

/-- `_diff_summary`. -/
def diffSummary (before after : FileMap) : Dict :=
  [("added", sortedTexts (after.keys.filter (· ∉ before.keys))),
    ("changed", sortedTexts (before.keys.filter fun path => path ∈ after.keys ∧ before.get path ≠ after.get path)),
    ("removed", sortedTexts (before.keys.filter (· ∉ after.keys)))]

/-- `dict.setdefault(key, value)`. -/
def setDefault (dict : Dict) (key : String) (value : Json) : Dict :=
  if (dict.lookup key).isSome then dict else dict.set key value

section Proposals
variable [CharData]

/-- `normalize_skill_key(str(payload.get("skill_key") or ""))`. -/
def payloadKey (payload : Dict) : String := normalizeSkillKey ((payload.get "skill_key").or (.str "")).toStr

/-- What a proposal carries of the directory that it is about. -/
structure Baseline where
  payload : Dict
  targetChecksum : String := ""
  beforeSnapshot : Dict := []

/-- The checksum and the snapshot that `create_proposal` takes. -/
def baselineOf (service : SkillService) (targetType : String) (payload : Dict) (disk : Disk) : Except PyException Baseline :=
  match payload.get "files" with
  | .obj files =>
      if targetType = "skill" ∧ payloadKey payload ≠ "" then do
        let dir ← safeSkillDir service (payloadKey payload)
        let current := snapshot dir disk
        let checksum := service.snapshotChecksum current
        let payload := setDefault payload "base_checksum" (.str checksum)
        return {
          payload := setDefault payload "diff" (.obj (diffSummary current (FileMap.ofItems files)))
          targetChecksum := checksum
          beforeSnapshot := snapshotDict service current }
      else .ok { payload }
  | _ => .ok { payload }

structure ProposalRequest where
  targetType : String
  action : String
  payload : Dict
  evidence : Dict := []
  riskLevel : String := "medium"

/-- `create_proposal`. -/
def createProposal (service : SkillService) (state : State) (request : ProposalRequest) : FileM Raw (Nat × State) := do
  let baseline ← Program.look (baselineOf service request.targetType request.payload)
  let proposal : EvolutionProposal :=
    { targetType := request.targetType, action := request.action, riskLevel := request.riskLevel
      evidence := request.evidence, payload := baseline.payload, beforeSnapshot := baseline.beforeSnapshot
      targetChecksum := baseline.targetChecksum }
  return (state.proposals.size, { state with proposals := state.proposals.insert proposal })

/-- The package that a proposal holds. -/
def packageOf (payload : Dict) : Except PyException (String × FileMap) :=
  match payload.get "files" with
  | .obj files =>
      if payloadKey payload ≠ "" then .ok (payloadKey payload, FileMap.ofItems files)
      else .error ⟨.valueError, "skill proposals require payload.skill_key and payload.files"⟩
  | _ => .error ⟨.valueError, "skill proposals require payload.skill_key and payload.files"⟩

/-- The checks before the package is looked at. -/
def applicable (proposal : EvolutionProposal) : Except PyException Unit :=
  if proposal.status ∉ ["pending", "approved"] then
    .error ⟨.valueError, "proposal is not applyable: " ++ proposal.status⟩
  else if proposal.targetType ≠ "skill" then .error ⟨.valueError, "only skill proposals are currently applyable"⟩
  else .ok ()

/-- A package that may be written, with the directory and what is visible there. -/
structure Plan where
  skillKey : String
  dir : Path
  files : FileMap
  before : FileMap
  warnings : List String
  tests : List TestResult

/-- What the checks of `apply_proposal` come to. -/
inductive Verdict where
  | rejected (result : Dict)
  | stale (reason : String)
  | ready (plan : Plan)

variable [DateData] (service : SkillService)

/-- `proposal.payload.get("base_checksum") or proposal.target_checksum or ""`. -/
def expectedChecksum (proposal : EvolutionProposal) : String :=
  ((proposal.payload.get "base_checksum").or (.str proposal.targetChecksum)).toStr

/-- `apply_proposal` up to the loop that writes. -/
def review (proposal : EvolutionProposal) (disk : Disk) : Except PyException Verdict := do
  applicable proposal
  let (skillKey, files) ← packageOf proposal.payload
  let lint := lintFiles service files
  if !lint.ok then
    return .rejected [("ok", .bool false), ("errors", jsonTexts lint.errors), ("warnings", jsonTexts lint.warnings)]
  let dir ← safeSkillDir service skillKey
  let before := snapshot dir disk
  let current := service.snapshotChecksum before
  let expected := expectedChecksum proposal
  if expected ≠ "" ∧ current ≠ expected then
    return .stale ("target checksum changed: expected " ++ expected ++ ", got " ++ current)
  let tests ← testFiles service skillKey files
  if !tests.ok then
    return .rejected [("ok", .bool false), ("errors", jsonTexts tests.errors), ("warnings", jsonTexts tests.warnings),
      ("tests", .arr (tests.tests.map TestResult.toJson))]
  return .ready { skillKey, dir, files, before, warnings := lint.warnings, tests := tests.tests }

variable (clock : Clock) (actor : String)

/-- The row of an applied proposal. -/
def EvolutionProposal.appliedTo (proposal : EvolutionProposal) (plan : Plan) (after : FileMap) : EvolutionProposal :=
  { proposal with
    status := "applied"
    beforeSnapshot := snapshotDict service plan.before
    afterSnapshot := snapshotDict service after
    result := [("ok", .bool true), ("warnings", jsonTexts plan.warnings),
      ("tests", .arr (plan.tests.map TestResult.toJson)), ("diff", (proposal.payload.lookup "diff").getD (.obj []))]
    appliedAt := some clock.now }

/-- The row that `apply_proposal` adds to the history. -/
def applyHistory (id : Nat) (plan : Plan) (after : FileMap) : SkillHistory where
  skillKey := plan.skillKey
  action := "apply_proposal"
  beforeSnapshot := snapshotDict service plan.before
  afterSnapshot := snapshotDict service after ++ [("proposal_id", .str (toString id))]
  actor := actor
  createdAt := clock.inserted

/-- `apply_proposal` from the loop that writes on. -/
def applyPlan (state : State) (id : Nat) (proposal : EvolutionProposal) (plan : Plan) :
    FileM Raw (EvolutionProposal × Session) := do
  writeFiles plan.dir plan.files.rows
  let after ← Program.look fun disk => .ok (snapshot plan.dir disk)
  let applied := EvolutionProposal.appliedTo service clock proposal plan after
  let session : Session :=
    { state := { state with proposals := state.proposals.set id applied }
      history := [applyHistory service clock actor id plan after] }
  let (_, session) ← scan service session
  return (applied, session)

/-- `apply_proposal`. -/
def applyProposal (state : State) (id : Nat) : FileM Raw (EvolutionProposal × Session) :=
  match state.proposals.get? id with
  | none => Program.ofExcept (.error ⟨.keyError, "proposal not found: " ++ toString id⟩)
  | some proposal => do
      let settled := fun (row : EvolutionProposal) =>
        (row, { state := { state with proposals := state.proposals.set id row } : Session })
      match ← Program.look (review service proposal) with
      | .rejected result => return settled { proposal with status := "rejected", result }
      | .stale reason =>
          return settled { proposal with
            status := "stale"
            staleReason := reason
            result := [("ok", .bool false), ("stale", .bool true), ("reason", .str reason)] }
      | .ready plan => applyPlan service clock actor state id proposal plan

/-! What the calls come to. -/

section Results
variable {service clock actor} {state : State} {id : Nat} {proposal applied : EvolutionProposal} {session : Session}
  {disk next : Disk} {plan : Plan}

/-- A package that passes every check. -/
structure Passes (service : SkillService) (proposal : EvolutionProposal) (disk : Disk) (plan : Plan) : Prop where
  applicable : Service.applicable proposal = .ok ()
  package : packageOf proposal.payload = .ok (plan.skillKey, plan.files)
  linted : (lintFiles service plan.files).ok = true
  dir : safeSkillDir service plan.skillKey = .ok plan.dir
  before : plan.before = snapshot plan.dir disk
  fresh : expectedChecksum proposal = "" ∨ service.snapshotChecksum plan.before = expectedChecksum proposal
  tested : ∃ tests, testFiles service plan.skillKey plan.files = .ok tests ∧ tests.ok = true

theorem review_ready (passed : review service proposal disk = .ok (.ready plan)) : Passes service proposal disk plan := by
  rw [review] at passed
  obtain ⟨_, allowed, passed⟩ := bind_eq_ok.1 passed
  obtain ⟨⟨skillKey, files⟩, package, passed⟩ := bind_eq_ok.1 passed
  dsimp only at passed
  cases linted : (lintFiles service files).ok with
  | false =>
    rw [linted] at passed
    cases passed
  | true =>
    rw [linted] at passed
    simp only [Bool.not_true, Bool.false_eq_true, if_false] at passed
    obtain ⟨dir, safe, passed⟩ := bind_eq_ok.1 passed
    by_cases moved : expectedChecksum proposal ≠ "" ∧
        service.snapshotChecksum (snapshot dir disk) ≠ expectedChecksum proposal
    · rw [if_pos moved] at passed
      cases passed
    · rw [if_neg moved] at passed
      obtain ⟨tests, run, passed⟩ := bind_eq_ok.1 passed
      cases tested : tests.ok with
      | false =>
        rw [tested] at passed
        cases passed
      | true =>
        rw [tested] at passed
        cases passed
        refine ⟨allowed, package, linted, safe, rfl, ?_, tests, run, tested⟩
        rw [not_and_or, not_not, not_not] at moved
        exact moved

/-- A proposal that does not pass the checks leaves the disk as it is, and is not applied. -/
theorem applyProposal_stopped (stored : state.proposals.get? id = some proposal)
    (stopped : ∀ plan, review service proposal disk ≠ .ok (.ready plan)) :
    ((applyProposal service clock actor state id).exec disk).2 = disk ∧
      ∀ result, ((applyProposal service clock actor state id).exec disk).1 = .ok result → result.1.status ≠ "applied" := by
  rw [applyProposal, stored]
  dsimp only
  rw [Program.exec_bind, Program.exec_look]
  cases verdict : review service proposal disk with
  | error raised => exact ⟨rfl, fun result same => by cases same⟩
  | ok verdict' =>
    cases verdict' with
    | rejected result =>
      refine ⟨rfl, ?_⟩
      rintro _ same
      cases same
      have other : "rejected" ≠ "applied" := by decide
      exact other
    | stale reason =>
      refine ⟨rfl, ?_⟩
      rintro _ same
      cases same
      have other : "stale" ≠ "applied" := by decide
      exact other
    | ready plan => exact absurd verdict (stopped plan)

theorem applyProposal_ready (stored : state.proposals.get? id = some proposal)
    (passed : review service proposal disk = .ok (.ready plan)) : (applyProposal service clock actor state id).exec disk =
      (applyPlan service clock actor state id proposal plan).exec disk := by
  rw [applyProposal, stored]
  dsimp only
  rw [Program.exec_bind, Program.exec_look, passed]

/-- A call that returns an applied proposal has passed the checks. -/
theorem applyProposal_applied (stored : state.proposals.get? id = some proposal)
    (ran : (applyProposal service clock actor state id).exec disk = (.ok (applied, session), next))
    (done : applied.status = "applied") : ∃ plan, review service proposal disk = .ok (.ready plan) ∧
      (applyPlan service clock actor state id proposal plan).exec disk = (.ok (applied, session), next) := by
  by_cases passes : ∃ plan, review service proposal disk = .ok (.ready plan)
  · obtain ⟨plan, passed⟩ := passes
    rw [applyProposal_ready stored passed] at ran
    exact ⟨plan, passed, ran⟩
  · have stopped := (applyProposal_stopped stored fun plan passed => passes ⟨plan, passed⟩).2 (applied, session)
      (by rw [ran])
    exact absurd done stopped

/-- Scanning changes no file. -/
theorem scan_exec {returned : Except PyException (Nat × Session)} (closed : Closed disk)
    (ran : (scan service session).exec disk = (returned, next)) : Closed next ∧ contentAt next = contentAt disk := by
  rw [scan, Program.exec_bind, Program.exec_write] at ran
  cases made : makeDirectories [] service.root disk with
  | error raised =>
    rw [made] at ran
    cases ran
    exact ⟨closed, rfl⟩
  | ok between =>
    rw [made] at ran
    dsimp only at ran
    rw [Program.exec_look] at ran
    cases ran
    refine ⟨(makeDirectories_ok closed (node_root disk) made).1, ?_⟩
    funext path
    exact contentAt_makeDirectories closed (node_root disk) made path

/-- A plan that has been carried out: every file is written, and the history and the proposal say so. -/
theorem applyPlan_ok (closed : Closed disk)
    (ran : (applyPlan service clock actor state id proposal plan).exec disk = (.ok (applied, session), next)) :
    Closed next ∧ contentAt next = plan.files.rows.foldl (written plan.dir) (contentAt disk) ∧ ∃ between count,
      (writeFiles plan.dir plan.files.rows).exec disk = (.ok (), between) ∧
      applied = EvolutionProposal.appliedTo service clock proposal plan (snapshot plan.dir between) ∧
      (scan service
        { state := { state with proposals := state.proposals.set id applied }
          history := [applyHistory service clock actor id plan (snapshot plan.dir between)] }).exec between =
        (.ok (count, session), next) := by
  rw [applyPlan, Program.exec_bind] at ran
  cases wrote : (writeFiles plan.dir plan.files.rows).exec disk with
  | mk returned between =>
    rw [wrote] at ran
    cases returned with
    | error raised => cases ran
    | ok done =>
      dsimp only at ran
      rw [Program.exec_bind, Program.exec_look] at ran
      dsimp only at ran
      rw [Program.exec_bind] at ran
      cases scanned : (scan service
          { state := { state with
              proposals := state.proposals.set id
                (EvolutionProposal.appliedTo service clock proposal plan (snapshot plan.dir between)) }
            history := [applyHistory service clock actor id plan (snapshot plan.dir between)] }).exec between with
      | mk returned last =>
        rw [scanned] at ran
        cases returned with
        | error raised => cases ran
        | ok result =>
          obtain ⟨count, session'⟩ := result
          cases ran
          obtain ⟨closed', front, back, split, contents, whole⟩ := writeFiles_exec closed wrote
          rw [whole rfl, List.append_nil] at split
          obtain ⟨closed'', same⟩ := scan_exec closed' scanned
          exact ⟨closed'', by rw [same, contents, split], between, count, rfl, rfl, scanned⟩

end Results

/-! Going back. -/

/-- `history.before_snapshot.get("files", {}).items()`. -/
def restoredFiles (history : SkillHistory) : Except PyException (List (String × String)) :=
  match (history.beforeSnapshot.lookup "files").getD (.obj []) with
  | .obj files => .ok (files.map fun file => (file.1, file.2.toStr))
  | other => .error ⟨.attributeError, "'" ++ other.typeName ++ "' object has no attribute 'items'"⟩

/-- The rows of a skill of which none is newer. -/
def Latest (db : SkillDb) (skillKey : String) (history : SkillHistory) : Prop :=
  history ∈ db.history ∧ history.skillKey = skillKey ∧
    ∀ other ∈ db.history, other.skillKey = skillKey → other.createdAt ≤ history.createdAt

/-- The query for the latest row, which may take any of those that are equally new. -/
structure LatestQuery where
  pick : SkillDb → String → Option SkillHistory
  latest : ∀ {db skillKey history}, pick db skillKey = some history → Latest db skillKey history
  complete : ∀ {db skillKey}, pick db skillKey = none → ∀ history ∈ db.history, history.skillKey ≠ skillKey

/-- The query that takes the first of the latest rows. -/
def LatestQuery.first : LatestQuery where
  pick db skillKey := @List.argmax _ _ Int.instLinearOrder.toPreorder Int.instLinearOrder.toDecidableLT
    SkillHistory.createdAt (db.history.filter fun row => row.skillKey = skillKey)
  latest := by
    intro db skillKey history picked
    have member := List.argmax_mem picked
    rw [List.mem_filter, decide_eq_true_eq] at member
    refine ⟨member.1, member.2, ?_⟩
    intro other inside same
    exact List.le_of_mem_argmax (List.mem_filter.2 ⟨inside, decide_eq_true same⟩) picked
  complete := by
    intro db skillKey none history member same
    rw [List.argmax_eq_none, List.filter_eq_nil_iff] at none
    exact none history member (decide_eq_true same)

/-- `rollback`. -/
def rollback (query : LatestQuery) (state : State) (skillKey : String) : FileM Raw (List String × Session) := do
  let key := normalizeSkillKey skillKey
  match query.pick state.db key with
  | none => Program.ofExcept (.error ⟨.keyError, "no rollback snapshot for skill: " ++ key⟩)
  | some history => do
      let before ← Program.ofExcept (restoredFiles history)
      let dir ← Program.ofExcept (safeSkillDir service key)
      let current ← Program.look fun disk => .ok (snapshot dir disk)
      writeFiles dir before
      let undone : SkillHistory :=
        { skillKey := key, action := "rollback"
          beforeSnapshot := [("files", .obj current.toDict)]
          afterSnapshot := [("files", (history.beforeSnapshot.lookup "files").getD (.obj []))]
          actor, createdAt := clock.inserted }
      let (_, session) ← scan service { state, history := [undone] }
      return ((before.map Prod.fst).insertionSort (· ≤ ·), session)

end Proposals

/-! A small tree. -/

def skillsRoot : Name := ⟨"skills", by decide +kernel⟩

def research : Name := ⟨"research", by decide +kernel⟩

def notes : Name := ⟨"notes.md", by decide +kernel⟩

/-- A service that loads no frontmatter. -/
def plainSkills : SkillService where
  root := [skillsRoot]
  safeLoad _ := .ok (.map [])
  safeDump _ := "\x7b\x7d\n"
  sha256 text := "sha256:" ++ text

/-- A skill with a second file. -/
def researchTree : Disk :=
  setNode (setNode (setNode (setNode ∅ [skillsRoot] .directory) [skillsRoot, research] .directory)
    [skillsRoot, research, manifestName] (.file (some "# Research\n"))) [skillsRoot, research, notes] (.file (some "old\n"))

def noSkills : SkillDb := ⟨Keyed.empty, [], [], []⟩

def proposing (files : Dict) : State where
  db := noSkills
  proposals := ⟨[{ targetType := "skill", action := "upsert"
                   payload := [("skill_key", .str "research"), ("files", .obj files)] }]⟩

end SoulClaw.Skills.Service
