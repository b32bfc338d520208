import SoulClaw.Evolution.SingleUse

/-! A call about a proposal leaves its target type and its payload as they are, and returns for an open proposal only. -/

namespace SoulClaw.Evolution.Carried
open Foundation Files Wiki.Storage Service SingleUse
open Wiki.Proposals (EvolutionProposal)
open Skills.Package (SkillService)
open Workspace (WorkspaceService)
open Memories.Service (FloatSum)

/-- What a proposal is about stays. -/
structure SameSubject (old row : EvolutionProposal) : Prop where
  targetType : row.targetType = old.targetType
  payload : row.payload = old.payload

/-- Where the program returns, its row is about what the stored one is about. -/
def Carries (rows : Rows) (id : Nat) (program : FileM Raw (EvolutionProposal × Rows)) : Prop :=
  ∀ disk row next last, program.exec disk = (.ok (row, next), last) →
    ∃ old, rows.proposals.get? id = some old ∧ SameSubject old row

theorem carries_error (rows : Rows) (id : Nat) (raised : PyException) :
    Carries rows id (Program.ofExcept (.error raised)) := by
  intro disk row next last ran
  cases ran

section Methods
variable {moment : Moment} {actor : String} {rows : Rows} {id : Nat}

theorem reject_carries (reason : String) : Carries rows id (reject moment actor rows id reason) := by
  intro disk row next last ran
  rw [reject] at ran
  cases stored : rows.proposals.get? id with
  | none =>
    rw [stored] at ran
    cases ran
  | some proposal =>
    rw [stored] at ran
    dsimp only at ran
    by_cases closed : proposal.status ∉ ["pending", "approved"]
    · rw [if_pos closed] at ran
      cases ran
    · rw [if_neg closed] at ran
      cases ran
      exact ⟨proposal, rfl, rfl, rfl⟩

variable [CharData]

theorem applyWorkspace_carries (service : WorkspaceService) : Carries rows id (applyWorkspace moment actor rows id service) := by
  intro disk row next last ran
  obtain ⟨⟨settled, proposals⟩, _, applied, ran⟩ := Program.exec_bind_eq_ok.1 ran
  cases ran
  rw [Workspace.applyProposal] at applied
  cases stored : rows.proposals.get? id with
  | none =>
    rw [stored] at applied
    cases applied
  | some proposal =>
    rw [stored] at applied
    obtain ⟨_, _, _, applied⟩ := Program.exec_bind_eq_ok.1 applied
    obtain ⟨_, _, _, applied⟩ := Program.exec_bind_eq_ok.1 applied
    obtain ⟨_, _, _, applied⟩ := Program.exec_bind_eq_ok.1 applied
    obtain ⟨_, _, _, applied⟩ := Program.exec_bind_eq_ok.1 applied
    cases applied
    exact ⟨proposal, rfl, rfl, rfl⟩

variable [DateData]

theorem applySkill_carries (service : SkillService) : Carries rows id (applySkill moment actor rows id service) := by
  intro disk row next last ran
  obtain ⟨⟨settled, session⟩, _, applied, ran⟩ := Program.exec_bind_eq_ok.1 ran
  obtain ⟨_, _, _, ran⟩ := Program.exec_bind_eq_ok.1 ran
  cases ran
  rw [Skills.Service.applyProposal] at applied
  cases stored : rows.proposals.get? id with
  | none =>
    rw [stored] at applied
    cases applied
  | some proposal =>
    rw [stored] at applied
    obtain ⟨verdict, _, _, applied⟩ := Program.exec_bind_eq_ok.1 applied
    cases verdict with
    | rejected result =>
      cases applied
      exact ⟨proposal, rfl, rfl, rfl⟩
    | stale reason =>
      cases applied
      exact ⟨proposal, rfl, rfl, rfl⟩
    | ready plan =>
      obtain ⟨_, _, _, applied⟩ := Program.exec_bind_eq_ok.1 applied
      obtain ⟨_, _, _, applied⟩ := Program.exec_bind_eq_ok.1 applied
      obtain ⟨_, _, _, applied⟩ := Program.exec_bind_eq_ok.1 applied
      cases applied
      exact ⟨proposal, rfl, rfl, rfl⟩

variable [FloatData]

theorem applyWiki_carries (home : WikiHome) : Carries rows id (home.applyProposal moment actor rows id) := by
  intro disk row next last ran
  obtain ⟨⟨settled, state⟩, _, applied, ran⟩ := Program.exec_bind_eq_ok.1 ran
  cases ran
  rw [Wiki.Proposals.applyProposal] at applied
  cases stored : rows.proposals.get? id with
  | none =>
    rw [stored] at applied
    cases applied
  | some proposal =>
    rw [stored] at applied
    obtain ⟨_, _, _, applied⟩ := Program.exec_bind_eq_ok.1 applied
    obtain ⟨_, _, _, applied⟩ := Program.exec_bind_eq_ok.1 applied
    obtain ⟨_, _, _, applied⟩ := Program.exec_bind_eq_ok.1 applied
    obtain ⟨_, _, _, applied⟩ := Program.exec_bind_eq_ok.1 applied
    cases applied
    exact ⟨proposal, rfl, rfl, rfl⟩

variable [UuidData] [FloatSum]

omit [DateData] in
theorem applyMemory_carries (service : MemoryService) : Carries rows id (service.applyProposal moment actor rows id) := by
  intro disk row next last ran
  rw [MemoryService.applyProposal] at ran
  cases stored : rows.proposals.get? id with
  | none =>
    rw [stored] at ran
    cases ran
  | some proposal =>
    rw [stored] at ran
    obtain ⟨_, _, _, ran⟩ := Program.exec_bind_eq_ok.1 ran
    obtain ⟨_, _, _, ran⟩ := Program.exec_bind_eq_ok.1 ran
    cases ran
    exact ⟨proposal, rfl, rfl, rfl⟩

theorem apply_carries (service : EvolutionService) : Carries rows id (service.apply moment actor rows id) := by
  rw [EvolutionService.apply]
  cases rows.proposals.get? id with
  | none => exact carries_error rows id _
  | some proposal =>
    dsimp only
    split
    · exact applySkill_carries service.skills
    split
    · exact applyMemory_carries service.memory
    split
    · cases service.wiki with
      | none => exact carries_error rows id _
      | some wiki => exact applyWiki_carries wiki
    split
    · cases service.workspace with
      | none => exact carries_error rows id _
      | some workspace => exact applyWorkspace_carries workspace
    · exact carries_error rows id _

theorem perform_carries (rows : Rows) (call : Call) : Carries rows call.id (perform rows call) := by
  rw [perform]
  cases call.method with
  | apply service => exact apply_carries service
  | reject reason => exact reject_carries reason
  | skill service => exact applySkill_carries service
  | memory service => exact applyMemory_carries service
  | wiki home => exact applyWiki_carries home
  | workspace service => exact applyWorkspace_carries service

/-- What a call does to the proposals: an open one gets another row about the same subject, or nothing changes. -/
theorem transact_carries (world : World) (call : Call) :
    (∃ old row, world.rows.proposals.get? call.id = some old ∧ old.status ∈ ["pending", "approved"] ∧ SameSubject old row ∧
        (transact world call).2.rows.proposals = world.rows.proposals.set call.id row) ∨
      (transact world call).2.rows = world.rows := by
  rw [transact]
  cases ran : (perform world.rows call).exec world.disk with
  | mk result disk =>
    cases result with
    | error raised => exact .inr rfl
    | ok returned =>
      obtain ⟨old, stored, same⟩ := perform_carries world.rows call _ _ _ _ ran
      have opened : old.status ∈ ["pending", "approved"] := by
        by_contra closed
        obtain ⟨raised, failed⟩ := perform_refuses stored closed world.disk
        rw [ran] at failed
        cases failed
      exact .inl ⟨old, returned.1, stored, opened, same, (perform_concludes world.rows call _ _ _ _ ran).2.1⟩

end Methods

end SoulClaw.Evolution.Carried
