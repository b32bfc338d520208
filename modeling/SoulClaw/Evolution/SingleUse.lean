import SoulClaw.Evolution.Service
import SoulClaw.Foundation.Calls

/-! A proposal is used once, whichever services are called about it, and in which order. -/

namespace SoulClaw.Evolution.SingleUse
open Foundation Files Calls Wiki.Storage Service
open Wiki.Proposals (EvolutionProposal)
open Skills.Package (SkillService)
open Workspace (WorkspaceService)
open Memories.Service (FloatSum)

/-- The statuses that a proposal does not leave. -/
def finalStatuses : List String := ["applied", "rejected", "stale"]

theorem applied_final : "applied" ∈ finalStatuses := by decide +kernel

theorem rejected_final : "rejected" ∈ finalStatuses := by decide +kernel

theorem stale_final : "stale" ∈ finalStatuses := by decide +kernel

theorem not_open_of_final {status : String} (final : status ∈ finalStatuses) : status ∉ ["pending", "approved"] := by
  have apart : ∀ status ∈ finalStatuses, status ∉ ["pending", "approved"] := by decide +kernel
  exact apart status final

/-- The row of the proposal is in a final status. -/
def Settled (id : Nat) (row : EvolutionProposal) (rows : Rows) : Prop :=
  rows.proposals.get? id = some row ∧ row.status ∈ finalStatuses

/-- Where the program returns, the row that it returns is the one change of the proposals, and it is settled. -/
def Concludes (rows : Rows) (id : Nat) (program : FileM Raw (EvolutionProposal × Rows)) : Prop :=
  ∀ disk row next last, program.exec disk = (.ok (row, next), last) → (rows.proposals.get? id).isSome ∧
    next.proposals = rows.proposals.set id row ∧ row.status ∈ finalStatuses

/-- The program raises before it does anything. -/
def Refuses {Value : Type} (program : FileM Raw Value) : Prop :=
  ∀ disk, ∃ raised, program.exec disk = (.error raised, disk)

theorem refuses_error {Value : Type} (raised : PyException) :
    Refuses (Program.ofExcept (.error raised) : FileM Raw Value) := fun _ => ⟨raised, rfl⟩

theorem Refuses.bind {Value Other : Type} {program : FileM Raw Value} (refuses : Refuses program)
    (continue' : Value → FileM Raw Other) : Refuses (program >>= continue') := by
  intro disk
  obtain ⟨raised, failed⟩ := refuses disk
  exact ⟨raised, Program.exec_bind_of_error continue' failed⟩

theorem concludes_error (rows : Rows) (id : Nat) (raised : PyException) :
    Concludes rows id (Program.ofExcept (.error raised)) := by
  intro disk row next last ran
  cases ran

section Skills
variable [CharData] [DateData] {service : SkillService} {clock : Skills.Service.Clock} {actor : String}
  {state : Skills.Service.State} {id : Nat} {disk last : Disk} {row : EvolutionProposal} {session : Skills.Service.Session}

/-- The scan behind the writes changes no proposal. -/
theorem applyPlan_proposals {proposal : EvolutionProposal} {plan : Skills.Service.Plan}
    (ran : (Skills.Service.applyPlan service clock actor state id proposal plan).exec disk = (.ok (row, session), last)) :
    session.state.proposals = state.proposals.set id row ∧ row.status = "applied" := by
  obtain ⟨_, written, _, ran⟩ := Program.exec_bind_eq_ok.1 ran
  obtain ⟨after, looked, _, ran⟩ := Program.exec_bind_eq_ok.1 ran
  obtain ⟨⟨count, scanned⟩, between, scan, ran⟩ := Program.exec_bind_eq_ok.1 ran
  obtain ⟨_, _, proposals⟩ := Skills.Service.scan_frame scan
  cases ran
  exact ⟨proposals, rfl⟩

theorem skill_proposals
    (ran : (Skills.Service.applyProposal service clock actor state id).exec disk = (.ok (row, session), last)) :
    (state.proposals.get? id).isSome ∧ session.state.proposals = state.proposals.set id row ∧ row.status ∈ finalStatuses := by
  rw [Skills.Service.applyProposal] at ran
  cases stored : state.proposals.get? id with
  | none =>
    rw [stored] at ran
    cases ran
  | some proposal =>
    rw [stored] at ran
    obtain ⟨verdict, _, _, ran⟩ := Program.exec_bind_eq_ok.1 ran
    cases verdict with
    | rejected result =>
      cases ran
      exact ⟨rfl, rfl, rejected_final⟩
    | stale reason =>
      cases ran
      exact ⟨rfl, rfl, stale_final⟩
    | ready plan =>
      obtain ⟨proposals, status⟩ := applyPlan_proposals ran
      exact ⟨rfl, proposals, status ▸ applied_final⟩

theorem skill_refuses (stored : state.proposals.get? id = some row) (closed : row.status ∉ ["pending", "approved"]) :
    Refuses (Skills.Service.applyProposal service clock actor state id) := by
  rw [Skills.Service.applyProposal, stored]
  apply Refuses.bind
  intro disk
  have stopped : Skills.Service.review service row disk = .error ⟨.valueError, "proposal is not applyable: " ++ row.status⟩ := by
    rw [Skills.Service.review, Skills.Service.applicable, if_pos closed]
    rfl
  exact ⟨_, by rw [Program.exec_look, stopped]⟩

end Skills

section Others
variable [CharData] {actor : String} {id : Nat} {disk last : Disk} {row : EvolutionProposal}

theorem wiki_proposals [FloatData] [DateData] {home : WikiHome} {clock : Wiki.Proposals.Clock}
    {state next : Wiki.Proposals.State} (ran : (Wiki.Proposals.applyProposal home.places clock actor home.service state id).exec
      disk = (.ok (row, next), last)) :
    (state.proposals.get? id).isSome ∧ next.proposals = state.proposals.set id row ∧ row.status ∈ finalStatuses := by
  rw [Wiki.Proposals.applyProposal] at ran
  cases stored : state.proposals.get? id with
  | none =>
    rw [stored] at ran
    cases ran
  | some proposal =>
    rw [stored] at ran
    obtain ⟨_, _, _, ran⟩ := Program.exec_bind_eq_ok.1 ran
    obtain ⟨⟨before, changed⟩, _, _, ran⟩ := Program.exec_bind_eq_ok.1 ran
    obtain ⟨_, _, _, ran⟩ := Program.exec_bind_eq_ok.1 ran
    obtain ⟨⟨report, db⟩, _, _, ran⟩ := Program.exec_bind_eq_ok.1 ran
    cases ran
    exact ⟨rfl, rfl, applied_final⟩

theorem wiki_refuses [FloatData] [DateData] {home : WikiHome} {clock : Wiki.Proposals.Clock}
    {state : Wiki.Proposals.State} (stored : state.proposals.get? id = some row) (closed : row.status ∉ ["pending", "approved"]) :
    Refuses (Wiki.Proposals.applyProposal home.places clock actor home.service state id) := by
  rw [Wiki.Proposals.applyProposal, stored]
  apply Refuses.bind
  rw [Wiki.Proposals.applicable, if_pos closed]
  exact refuses_error _

theorem workspace_proposals {service : WorkspaceService} {now : Int} {proposals next : Table EvolutionProposal}
    (ran : (Workspace.applyProposal service actor now proposals id).exec disk = (.ok (row, next), last)) :
    (proposals.get? id).isSome ∧ next = proposals.set id row ∧ row.status ∈ finalStatuses := by
  rw [Workspace.applyProposal] at ran
  cases stored : proposals.get? id with
  | none =>
    rw [stored] at ran
    cases ran
  | some proposal =>
    rw [stored] at ran
    obtain ⟨_, _, _, ran⟩ := Program.exec_bind_eq_ok.1 ran
    obtain ⟨before, _, _, ran⟩ := Program.exec_bind_eq_ok.1 ran
    obtain ⟨content, _, _, ran⟩ := Program.exec_bind_eq_ok.1 ran
    obtain ⟨after, _, _, ran⟩ := Program.exec_bind_eq_ok.1 ran
    cases ran
    exact ⟨rfl, rfl, applied_final⟩

theorem workspace_refuses {service : WorkspaceService} {now : Int} {proposals : Table EvolutionProposal}
    (stored : proposals.get? id = some row) (closed : row.status ∉ ["pending", "approved"]) :
    Refuses (Workspace.applyProposal service actor now proposals id) := by
  rw [Workspace.applyProposal, stored]
  apply Refuses.bind
  rw [Workspace.applicable, if_pos closed]
  exact refuses_error _

theorem memory_applied [FloatData] [UuidData] [FloatSum] {state next : Memories.Service.State} {drawn : Uuid} {now : String}
    {proposal applied : Memories.Service.Proposal}
    (ran : Memories.Service.applyProposal state drawn now actor proposal = .ok (applied, next)) : applied.status = "applied" := by
  rw [Memories.Service.applyProposal] at ran
  split at ran
  next => cases ran
  next =>
    dsimp only at ran
    split at ran
    next => cases ran
    next =>
      obtain ⟨⟨before, reached, result⟩, _, ran⟩ := bind_eq_ok.1 ran
      cases ran
      rfl

theorem memory_raises [FloatData] [UuidData] [FloatSum] (state : Memories.Service.State) (drawn : Uuid) (now actor : String)
    {proposal : Memories.Service.Proposal} (closed : proposal.status ∉ ["pending", "approved"]) :
    ∃ raised, Memories.Service.applyProposal state drawn now actor proposal = .error raised := by
  rw [Memories.Service.applyProposal, if_pos closed]
  exact ⟨_, rfl⟩

end Others

/-! What one call does to the proposals. -/

section Methods
variable {moment : Moment} {actor : String} {rows : Rows} {id : Nat} {row : EvolutionProposal}

theorem reject_concludes (reason : String) : Concludes rows id (reject moment actor rows id reason) := by
  intro disk row next last ran
  rw [reject] at ran
  cases stored : rows.proposals.get? id with
  | none =>
    rw [stored] at ran
    cases ran
  | some proposal =>
    rw [stored] at ran
    dsimp only at ran
    by_cases closed : proposal.status ∉ ["pending", "approved"]
    · rw [if_pos closed] at ran
      cases ran
    · rw [if_neg closed] at ran
      cases ran
      exact ⟨rfl, rfl, rejected_final⟩

theorem reject_refuses (stored : rows.proposals.get? id = some row) (closed : row.status ∉ ["pending", "approved"])
    (reason : String) :
    Refuses (reject moment actor rows id reason) := by
  rw [reject, stored]
  dsimp only
  rw [if_pos closed]
  exact refuses_error _

variable [CharData]

theorem applyWorkspace_concludes (service : WorkspaceService) :
    Concludes rows id (applyWorkspace moment actor rows id service) := by
  intro disk row next last ran
  obtain ⟨⟨settled, proposals⟩, _, applied, ran⟩ := Program.exec_bind_eq_ok.1 ran
  cases ran
  exact workspace_proposals applied

theorem applyWorkspace_refuses (stored : rows.proposals.get? id = some row) (closed : row.status ∉ ["pending", "approved"])
    (service : WorkspaceService) :
    Refuses (applyWorkspace moment actor rows id service) :=
  Refuses.bind (workspace_refuses stored closed) _

variable [DateData]

theorem applySkill_concludes (service : SkillService) : Concludes rows id (applySkill moment actor rows id service) := by
  intro disk row next last ran
  obtain ⟨⟨settled, session⟩, between, applied, ran⟩ := Program.exec_bind_eq_ok.1 ran
  obtain ⟨state, _, committed, ran⟩ := Program.exec_bind_eq_ok.1 ran
  rw [Program.exec_ofExcept, Prod.mk.injEq] at committed
  obtain ⟨stored, proposals, final⟩ := skill_proposals applied
  cases ran
  exact ⟨stored, (Skills.Service.commit_frame committed.1).2.trans proposals, final⟩

theorem applySkill_refuses (stored : rows.proposals.get? id = some row) (closed : row.status ∉ ["pending", "approved"])
    (service : SkillService) :
    Refuses (applySkill moment actor rows id service) :=
  Refuses.bind (skill_refuses stored closed) _

variable [FloatData]

theorem applyWiki_concludes (home : WikiHome) : Concludes rows id (home.applyProposal moment actor rows id) := by
  intro disk row next last ran
  obtain ⟨⟨settled, state⟩, _, applied, ran⟩ := Program.exec_bind_eq_ok.1 ran
  cases ran
  exact wiki_proposals applied

theorem applyWiki_refuses (stored : rows.proposals.get? id = some row) (closed : row.status ∉ ["pending", "approved"])
    (home : WikiHome) :
    Refuses (home.applyProposal moment actor rows id) :=
  Refuses.bind (wiki_refuses stored closed) _

variable [UuidData] [FloatSum]

omit [DateData] in
/-- The row is the applied one, whatever becomes of the memory file. -/
theorem applyMemory_concludes (service : MemoryService) : Concludes rows id (service.applyProposal moment actor rows id) := by
  intro disk row next last ran
  rw [MemoryService.applyProposal] at ran
  cases stored : rows.proposals.get? id with
  | none =>
    rw [stored] at ran
    cases ran
  | some proposal =>
    rw [stored] at ran
    obtain ⟨⟨applied, state⟩, _, asked, ran⟩ := Program.exec_bind_eq_ok.1 ran
    obtain ⟨_, _, _, ran⟩ := Program.exec_bind_eq_ok.1 ran
    rw [Program.exec_ofExcept, Prod.mk.injEq] at asked
    have final : applied.status ∈ finalStatuses := memory_applied asked.1 ▸ applied_final
    cases ran
    exact ⟨rfl, rfl, final⟩

omit [DateData] in
theorem applyMemory_refuses (stored : rows.proposals.get? id = some row) (closed : row.status ∉ ["pending", "approved"])
    (service : MemoryService) :
    Refuses (service.applyProposal moment actor rows id) := by
  rw [MemoryService.applyProposal, stored]
  dsimp only
  apply Refuses.bind
  intro disk
  have failed := @memory_raises _ _ _ _ ⟨rows.memories, ""⟩ moment.drawn moment.isoNow actor
    { status := row.status, targetType := row.targetType, action := row.action, payload := row.payload } closed
  obtain ⟨raised, failed⟩ := failed
  exact ⟨raised, by rw [Program.exec_ofExcept, failed]⟩

/-- The service that the target type picks concludes the proposal, or none does. -/
theorem apply_concludes (service : EvolutionService) : Concludes rows id (service.apply moment actor rows id) := by
  rw [EvolutionService.apply]
  cases rows.proposals.get? id with
  | none => exact concludes_error rows id _
  | some proposal =>
    dsimp only
    split
    · exact applySkill_concludes service.skills
    split
    · exact applyMemory_concludes service.memory
    split
    · cases service.wiki with
      | none => exact concludes_error rows id _
      | some wiki => exact applyWiki_concludes wiki
    split
    · cases service.workspace with
      | none => exact concludes_error rows id _
      | some workspace => exact applyWorkspace_concludes workspace
    · exact concludes_error rows id _

theorem apply_refuses (stored : rows.proposals.get? id = some row) (closed : row.status ∉ ["pending", "approved"])
    (service : EvolutionService) :
    Refuses (service.apply moment actor rows id) := by
  rw [EvolutionService.apply, stored]
  dsimp only
  split
  · exact applySkill_refuses stored closed service.skills
  split
  · exact applyMemory_refuses stored closed service.memory
  split
  · cases service.wiki with
    | none => exact refuses_error _
    | some wiki => exact applyWiki_refuses stored closed wiki
  split
  · cases service.workspace with
    | none => exact refuses_error _
    | some workspace => exact applyWorkspace_refuses stored closed workspace
  · exact refuses_error _

end Methods

section Runs
variable [CharData] [FloatData] [UuidData] [DateData] [FloatSum] {rows : Rows} {world next : World} {call : Call} {id : Nat}
  {row : EvolutionProposal}

theorem perform_concludes (rows : Rows) (call : Call) : Concludes rows call.id (perform rows call) := by
  rw [perform]
  cases call.method with
  | apply service => exact apply_concludes service
  | reject reason => exact reject_concludes reason
  | skill service => exact applySkill_concludes service
  | memory service => exact applyMemory_concludes service
  | wiki home => exact applyWiki_concludes home
  | workspace service => exact applyWorkspace_concludes service

theorem perform_refuses (stored : rows.proposals.get? call.id = some row)
    (closed : row.status ∉ ["pending", "approved"]) : Refuses (perform rows call) := by
  rw [perform]
  cases call.method with
  | apply service => exact apply_refuses stored closed service
  | reject reason => exact reject_refuses stored closed reason
  | skill service => exact applySkill_refuses stored closed service
  | memory service => exact applyMemory_refuses stored closed service
  | wiki home => exact applyWiki_refuses stored closed home
  | workspace service => exact applyWorkspace_refuses stored closed service

/-- What a call does: it settles its proposal and changes no other one, or it leaves the rows as they are. -/
theorem transact_cases (world : World) (call : Call) :
    (∃ row, (transact world call).1 = .ok row ∧ (world.rows.proposals.get? call.id).isSome ∧
        (transact world call).2.rows.proposals = world.rows.proposals.set call.id row ∧ row.status ∈ finalStatuses) ∨
      ∃ raised, (transact world call).1 = .error raised ∧ (transact world call).2.rows = world.rows := by
  rw [transact]
  cases ran : (perform world.rows call).exec world.disk with
  | mk result disk =>
    cases result with
    | error raised => exact .inr ⟨raised, rfl, rfl⟩
    | ok returned => exact .inl ⟨returned.1, rfl, perform_concludes world.rows call _ _ _ _ ran⟩

theorem transact_refuses (settled : Settled call.id row world.rows) :
    ∃ raised, transact world call = (.error raised, world) := by
  obtain ⟨raised, failed⟩ := perform_refuses settled.1 (not_open_of_final settled.2) world.disk
  exact ⟨raised, by rw [transact, failed]⟩

/-- A settled proposal stays as it is. -/
theorem transact_keeps (settled : Settled id row world.rows) (call : Call) :
    Settled id row (transact world call).2.rows := by
  by_cases same : call.id = id
  · obtain ⟨raised, unchanged⟩ := transact_refuses (same ▸ settled)
    rw [unchanged]
    exact settled
  · rcases transact_cases world call with ⟨next, _, _, proposals, _⟩ | ⟨raised, _, unchanged⟩
    · refine ⟨?_, settled.2⟩
      rw [proposals, Table.get?_set_ne _ _ fun here => same here.symm]
      exact settled.1
    · rw [unchanged]
      exact settled

theorem transact_settles (returned : (transact world call).1 = .ok row) : Settled call.id row (transact world call).2.rows := by
  rcases transact_cases world call with ⟨own, same, stored, proposals, final⟩ | ⟨raised, failed, _⟩
  · rw [returned, Except.ok.injEq] at same
    subst same
    obtain ⟨old, found⟩ := Option.isSome_iff_exists.1 stored
    refine ⟨?_, final⟩
    rw [proposals]
    exact Table.get?_set_self row found
  · rw [returned] at failed
    cases failed

/-- At most one call about a proposal returns, in any sequence of calls of all the services, and so at most one
performs its effect. A proposal that is applied, rejected or stale stays so, and a call about it raises and leaves
the rows and the files as they are. -/
theorem used_once (id : Nat) (world : World) (calls : List Call) :
    (returned transact (fun call => call.id = id) world calls).length ≤ 1 ∧
      ∀ row, world.rows.proposals.get? id = some row → row.status ∈ finalStatuses →
        (after transact world calls).rows.proposals.get? id = some row ∧
          ∀ call, call.id = id → ∃ raised, transact world call = (.error raised, world) := by
  constructor
  · apply returned_length_le_one fun world => ∃ row, Settled id row world.rows
    · rintro world call ⟨row, settled⟩
      exact ⟨row, transact_keeps settled call⟩
    · rintro world call ⟨row, settled⟩ picked
      obtain ⟨raised, failed⟩ := transact_refuses (of_decide_eq_true picked ▸ settled)
      exact ⟨raised, congrArg Prod.fst failed⟩
    · intro world call row picked returned
      exact ⟨row, of_decide_eq_true picked ▸ transact_settles returned⟩
  · intro row stored final
    have kept : Settled id row (after transact world calls).rows :=
      after_keeps (fun world : World => Settled id row world.rows) (fun world call settled => transact_keeps settled call)
        ⟨stored, final⟩ calls
    refine ⟨kept.1, ?_⟩
    rintro call rfl
    exact transact_refuses ⟨stored, final⟩

end Runs

section Demo
attribute [local instance] CharData.ascii FloatData.decimal UuidData.plain FloatSum.exact DateData.undated

private theorem home_named : "workspace" ≠ "" ∧ '/' ∉ "workspace".toList := by decide +kernel

private theorem seeds_named : "seed" ≠ "" ∧ '/' ∉ "seed".toList := by decide +kernel

private def home : WorkspaceService where
  root := [⟨"workspace", home_named⟩]
  seedRoot := [⟨"seed", seeds_named⟩]
  recursionLimit := 1000

private def evolution : EvolutionService where
  skills := Skills.Service.plainSkills
  memory := ⟨home⟩
  workspace := some home

/-- A proposal to append a line to the file of the user. -/
private def asking : World where
  rows :=
    { proposals := ⟨[{ targetType := "user", action := "append_file", payload := [("content", .str "Likes tea.")] }]⟩
      memories := Memories.Service.Database.empty
      wiki := ⟨Keyed.empty, Keyed.empty, [], Table.empty⟩
      skills := Skills.Service.noSkills }
  disk := setNode (setNode ∅ home.root .directory) (home.root ++ [Workspace.userName]) (.file (some "# USER\n"))

private def calling (method : Method) : Call where
  id := 0
  actor := "admin"
  moment := ⟨0, 0, "", "", "", ⟨0⟩⟩
  method := method

private def accepted : World := after transact asking [calling (.apply evolution)]

theorem used_once_user :
    (returned transact (fun call => call.id = 0) asking [calling (.apply evolution), calling (.reject "late"),
      calling (.workspace home)]).map EvolutionProposal.status = ["applied"] ∧
    readPath home.root [Workspace.userName] accepted.disk = .ok "# USER\n\nLikes tea.\n" ∧
    ∃ row, accepted.rows.proposals.get? 0 = some row ∧
      (after transact accepted [calling (.reject "late")]).rows.proposals.get? 0 = some row ∧
      ∃ raised, transact accepted (calling (.workspace home)) = (.error raised, accepted) := by
  have status : (accepted.rows.proposals.get? 0).map EvolutionProposal.status = some "applied" := by decide +kernel
  obtain ⟨row, stored, applied⟩ := Option.map_eq_some_iff.1 status
  have final : row.status ∈ finalStatuses := applied ▸ applied_final
  obtain ⟨kept, refuses⟩ := (used_once 0 accepted [calling (.reject "late")]).2 row stored final
  exact ⟨by decide +kernel, by decide +kernel, row, stored, kept, refuses _ rfl⟩

end Demo

end SoulClaw.Evolution.SingleUse
