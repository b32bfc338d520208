import SoulClaw.Skills.Writing

/-! When an application that fails leaves the files as they were. -/

namespace SoulClaw.Skills.Atomicity
open Foundation Files Lines Wiki.Storage Package Storage Service Applied Rollback Writing
open Wiki.Proposals (EvolutionProposal)

section Loop
variable {dir : Path} {disk : Disk} {files front back : List (String × String)}

/-- The loop comes as far as this: the next file, if there is one, cannot be written. -/
structure Reaches (dir : Path) (disk : Disk) (files front : List (String × String)) : Prop where
  fitting : Fitting dir disk [] front
  stops : ∃ back, files = front ++ back ∧ ∀ file rest, back = file :: rest → ¬Fits dir disk front file

theorem reaches_unique {front' : List (String × String)} (reaches : Reaches dir disk files front)
    (reaches' : Reaches dir disk files front') : front = front' := by
  have longer : ∀ {first second : List (String × String)}, Reaches dir disk files first → Reaches dir disk files second →
      ∀ more, second = first ++ more → more = [] := by
    intro first second stopped further more split
    obtain ⟨back, whole, stops⟩ := stopped.stops
    obtain ⟨back', whole', _⟩ := further.stops
    cases more with
    | nil => rfl
    | cons file more =>
      rw [whole, split, List.append_assoc, List.append_cancel_left_eq] at whole'
      have fits := further.fitting first file more split
      exact absurd fits (stops file (more ++ back') whole')
  obtain ⟨back, whole, _⟩ := reaches.stops
  obtain ⟨back', whole', _⟩ := reaches'.stops
  rcases List.append_eq_append_iff.1 (whole.symm.trans whole') with ⟨more, split, _⟩ | ⟨more, split, _⟩
  · rw [split, longer reaches reaches' more split, List.append_nil]
  · rw [split, longer reaches' reaches more split, List.append_nil]

end Loop

section Apply
variable [CharData] [DateData] (service : SkillService) (disk : Disk) (plan : Plan)

/-- Every file of the package fits, and the tree with the package can be scanned. -/
structure Completes : Prop where
  fitting : Fitting plan.dir disk [] plan.files.rows
  scannable : Scannable service (plan.files.rows.foldl (written plan.dir) (contentAt disk))

omit [CharData] [DateData] in
/-- The files that are written up to the failure hold what was there. -/
def Repeats : Prop := ∀ front, Reaches plan.dir disk plan.files.rows front →
  front.foldl (written plan.dir) (contentAt disk) = contentAt disk

variable {service disk plan} {clock : Service.Clock} {actor : String} {state : Service.State} {id : Nat}
  {proposal : EvolutionProposal}

omit [DateData] in
theorem root_directory {between : Disk} {dir : Path} {skillKey : String} (closed : Closed between)
    (safe : safeSkillDir service skillKey = .ok dir) (made : node between dir = some .directory) :
    node between service.root = some .directory := by
  obtain ⟨back, rfl⟩ := safeSkillDir_ok safe
  by_cases whole : back = []
  · rwa [whole, List.append_nil] at made
  · exact directory_above closed service.root back whole made

/-- An application of a package that passes the checks: how far the loop comes, and whether it returns. -/
theorem applyPlan_exec (closed : Closed disk) (passes : Passes service proposal disk plan) :
    ∃ front returned next, (applyPlan service clock actor state id proposal plan).exec disk = (returned, next) ∧
      Reaches plan.dir disk plan.files.rows front ∧ contentAt next = front.foldl (written plan.dir) (contentAt disk) ∧
      (Completes service disk plan ∧ (∃ result, returned = .ok result ∧ result.1.status = "applied") ∨
        ¬Completes service disk plan ∧ ∃ raised, returned = .error raised) := by
  obtain ⟨front, back, returned, between, split, wrote, fitting, closed', contents, ends⟩ :=
    (Wrote.start closed).writeFiles plan.files.rows
  rw [List.nil_append] at contents
  rcases ends with ⟨rfl, rfl⟩ | ⟨file, rest, raised, rfl, stops, rfl⟩
  · rw [List.append_nil] at split
    subst split
    have reaches : Reaches plan.dir disk plan.files.rows plan.files.rows := by
      refine ⟨fitting, [], (List.append_nil _).symm, ?_⟩
      intro file rest none
      cases none
    have lawful := fun file member => @lawful_of_linted _ _ service plan.files passes.linted file member
    have made := directory_of_written closed' lawful (manifest_of_linted passes.linted) contents
    have inside := root_directory closed' passes.dir made
    have looked : (Program.look fun disk => .ok (snapshot plan.dir disk) : FileM Raw FileMap).exec between =
        (.ok (snapshot plan.dir between), between) := rfl
    rw [applyPlan, Program.exec_bind_of_ok _ wrote, Program.exec_bind_of_ok _ looked, Program.exec_bind]
    generalize started : ({ state := _, history := _ } : Session) = session
    have scans := @scan_returns_iff _ _ service between session closed' inside
    rw [contents] at scans
    cases scanned : (scan service session).exec between with
    | mk returned next =>
      have same := (scan_exec closed' scanned).2
      cases returned with
      | ok result =>
        have completes : Completes service disk plan := ⟨fitting, scans.1 ⟨result, next, scanned⟩⟩
        exact ⟨_, _, next, rfl, reaches, by rw [same, contents], .inl ⟨completes, _, rfl, rfl⟩⟩
      | error raised =>
        refine ⟨_, _, next, rfl, reaches, by rw [same, contents], .inr ⟨?_, raised, rfl⟩⟩
        intro completes
        obtain ⟨result, next', scanned'⟩ := scans.2 completes.scannable
        rw [scanned] at scanned'
        cases scanned'
  · have reaches : Reaches plan.dir disk plan.files.rows front := by
      refine ⟨fitting, file :: rest, split, ?_⟩
      intro other others same
      rw [List.cons.injEq] at same
      rw [← same.1]
      exact stops
    rw [applyPlan, Program.exec_bind_of_error _ wrote]
    refine ⟨front, _, between, rfl, reaches, contents, .inr ⟨?_, raised, rfl⟩⟩
    intro completes
    exact stops (completes.fitting front file rest split)

end Apply

section Demo
attribute [local instance] CharData.ascii DateData.undated

/-- A package whose second path names the directory itself. -/
private def halfway : Dict := [("SKILL.md", .str "# Research\n\nNew.\n"), ("", .str "more\n")]

private def attempted (files : Dict) : Except PyException (EvolutionProposal × Session) × Disk :=
  (applyProposal plainSkills ⟨0, 0⟩ "admin" (proposing files) 0).exec researchTree

end Demo

end SoulClaw.Skills.Atomicity
