import SoulClaw.Skills.Service

/-! What is visible in the directory of a skill after a proposal has been applied. -/

namespace SoulClaw.Skills.Applied
open Foundation Files Lines Wiki.Storage Package Storage Service
open Wiki.Proposals (EvolutionProposal)

section Effect
variable [CharData] [DateData] {service : SkillService} {clock : Service.Clock} {actor : String} {dir : Path}
  {disk next : Disk} {files : FileMap}

/-- A package without errors has its files below the directory, and none that is hidden. -/
theorem lawful_of_linted (linted : (lintFiles service files).ok = true) {file : String × String} (member : file ∈ files.rows) :
    Lawful file.1 := by
  have clean := (unfailed_of_linted linted).2 file member
  simp only [fileErrors, List.append_eq_nil_iff] at clean
  obtain ⟨⟨⟨safe, shown⟩, _⟩, _⟩ := clean
  constructor
  · by_contra absolute
    rw [if_pos (Or.inl (by simpa using absolute))] at safe
    cases safe
  · by_contra secret
    rw [Bool.not_eq_false, Storage.hidden] at secret
    rw [if_pos secret] at shown
    cases shown

/-- What a package has to be like to be found again as it is. -/
structure Exact (before files : FileMap) : Prop where
  covers : ∀ path, (before.get path).isSome → (files.get path).isSome
  canonical : ∀ file ∈ files.rows, Canonical file.1
  plain : ∀ file ∈ files.rows, '\r' ∉ file.2.toList

omit [CharData] [DateData] in
/-- In a package without aliases the content at a place is that of its only file. -/
theorem written_of_canonical (lawful : ∀ file ∈ files.rows, Lawful file.1) (canonical : ∀ file ∈ files.rows, Canonical file.1)
    {file : String × String} (member : file ∈ files.rows) (contents : Path → Option Raw) :
    files.rows.foldl (written dir) contents (dir ++ (PurePath.parse file.1).parts) = some (some file.2) := by
  rcases foldl_written_cases files.rows contents (dir ++ (PurePath.parse file.1).parts) with
    ⟨apart, _⟩ | ⟨other, member', there, same⟩
  · exact absurd (place_of_lawful (lawful file member) dir) (apart file member)
  · rw [place_of_lawful (lawful other member'), List.append_cancel_left_eq] at there
    have named : other.1 = file.1 := by
      rw [← (canonical other member').spelled, there, (canonical file member).spelled]
    have equal : other = file := List.inj_on_of_nodup_map files.unique member' member named
    rw [same, equal]

omit [CharData] [DateData] in
theorem visibleAt_eq_some {path : Path} {text : String} : visibleAt dir disk path = some text ↔
    path ≠ [] ∧ Storage.hidden path = false ∧ (contentAt disk (dir ++ path)).bind decoded = some text := by
  rw [visibleAt]
  by_cases shown : path = [] ∨ Storage.hidden path = true
  · rw [if_pos shown]
    constructor
    · intro none
      cases none
    · rintro ⟨below, visible, _⟩
      exact absurd shown (by simp [below, visible])
  · rw [if_neg shown]
    rw [not_or, Bool.not_eq_true] at shown
    simp [shown]

omit [CharData] [DateData] in
/-- A snapshot, by the parts of the paths. -/
theorem get_snapshot_iff (closed : Closed disk) {key text : String} : (snapshot dir disk).get key = some text ↔
    Canonical key ∧ Lawful key ∧ (contentAt disk (dir ++ (PurePath.parse key).parts)).bind decoded = some text := by
  constructor
  · intro known
    obtain ⟨canonical, lawful, _, read⟩ := canonical_of_snapshot closed known
    exact ⟨canonical, lawful, (visibleAt_eq_some.1 read).2.2⟩
  · rintro ⟨canonical, lawful, read⟩
    exact (get_snapshot closed).2 ⟨_, canonical.spelled.symm, visibleAt_eq_some.2 ⟨canonical.below, lawful.visible, read⟩⟩

omit [CharData] [DateData] in
/-- What was visible stays visible. -/
theorem stays_visible (closed : Closed disk) (closed' : Closed next)
    (contents : contentAt next = files.rows.foldl (written dir) (contentAt disk)) {key : String}
    (known : ((snapshot dir disk).get key).isSome) : ((snapshot dir next).get key).isSome := by
  obtain ⟨text, known⟩ := Option.isSome_iff_exists.1 known
  obtain ⟨canonical, lawful', read⟩ := (get_snapshot_iff closed).1 known
  rcases foldl_written_cases files.rows (contentAt disk) (dir ++ (PurePath.parse key).parts) with
    ⟨_, same⟩ | ⟨file, _, _, same⟩
  · rw [(get_snapshot_iff closed').2 ⟨canonical, lawful', by rw [contents, same]; exact read⟩]
    rfl
  · rw [(get_snapshot_iff closed').2 ⟨canonical, lawful', by rw [contents, same]; rfl⟩]
    rfl

omit [CharData] [DateData] in
/-- Where the package can be found again, a written directory shows the package. -/
theorem shows_package (closed : Closed disk) (closed' : Closed next) (lawful : ∀ file ∈ files.rows, Lawful file.1)
    (contents : contentAt next = files.rows.foldl (written dir) (contentAt disk)) (exact' : Exact (snapshot dir disk) files) : FileMap.Same (snapshot dir next) files := by
  intro key
  apply Option.ext
  intro text
  constructor
  · intro known
    obtain ⟨canonical, lawful', read⟩ := (get_snapshot_iff closed').1 known
    rcases foldl_written_cases files.rows (contentAt disk) (dir ++ (PurePath.parse key).parts) with
      ⟨apart, same⟩ | ⟨file, member, there, same⟩
    · rw [contents, same] at read
      have before := (get_snapshot_iff closed).2 ⟨canonical, lawful', read⟩
      obtain ⟨other, listed⟩ := Option.isSome_iff_exists.1 (exact'.covers key (by rw [before]; rfl))
      exact (apart (key, other) (FileMap.get_eq_some.1 listed) (place_of_lawful lawful' dir)).elim
    · rw [place_of_lawful (lawful file member), List.append_cancel_left_eq] at there
      have named : file.1 = key := by
        rw [← (exact'.canonical file member).spelled, there, canonical.spelled]
      rw [contents, same] at read
      have plain := universalNewlines_eq_self_iff.2 (exact'.plain file member)
      rw [Option.bind_some, decoded, Option.map_some, plain, String.ofList_toList] at read
      rw [← read, ← named]
      exact FileMap.get_eq_some.2 member
  · intro listed
    have member := FileMap.get_eq_some.1 listed
    have plain := universalNewlines_eq_self_iff.2 (exact'.plain _ member)
    refine (get_snapshot_iff closed').2 ⟨exact'.canonical _ member, lawful _ member, ?_⟩
    rw [contents, written_of_canonical lawful exact'.canonical member, Option.bind_some, decoded, Option.map_some, plain,
      String.ofList_toList]

omit [CharData] [DateData] in
/-- A written directory that shows the package has shown no other file before. -/
theorem exact_of_same (closed : Closed disk) (closed' : Closed next)
    (contents : contentAt next = files.rows.foldl (written dir) (contentAt disk)) (same : FileMap.Same (snapshot dir next) files) : Exact (snapshot dir disk) files := by
  constructor
  · intro key known
    rw [← same key]
    exact stays_visible closed closed' contents known
  · intro file member
    have known := (same file.1).trans (FileMap.get_eq_some.2 member)
    exact (canonical_of_snapshot closed' known).1
  · intro file member
    have known := (same file.1).trans (FileMap.get_eq_some.2 member)
    exact (canonical_of_snapshot closed' known).2.2.1

end Effect

section Applied
variable [CharData] [DateData] {service : SkillService} {clock : Service.Clock} {actor : String} {dir : Path}
  {disk next : Disk} {files : FileMap} {state : Service.State} {id : Nat} {proposal applied : EvolutionProposal} {session : Session}
  {skillKey : String}

/-- After a proposal has been applied the directory shows the package, exactly when the package names every file
that was visible, and names and contents are such as can be read back. -/
theorem applied_matches_iff (closed : Closed disk) (stored : state.proposals.get? id = some proposal)
    (package : packageOf proposal.payload = .ok (skillKey, files)) (safe : safeSkillDir service skillKey = .ok dir)
    (ran : (applyProposal service clock actor state id).exec disk = (.ok (applied, session), next))
    (done : applied.status = "applied") : FileMap.Same (snapshot dir next) files ↔ Exact (snapshot dir disk) files := by
  obtain ⟨plan, passed, ran⟩ := applyProposal_applied stored ran done
  have passes := review_ready passed
  have own := passes.package
  rw [package, Except.ok.injEq, Prod.mk.injEq] at own
  obtain ⟨rfl, rfl⟩ := own
  have place := passes.dir
  rw [safe, Except.ok.injEq] at place
  subst place
  obtain ⟨closed', contents, _⟩ := applyPlan_ok closed ran
  have lawful := fun file member => @lawful_of_linted _ _ service plan.files passes.linted file member
  exact ⟨exact_of_same closed closed' contents, shows_package closed closed' lawful contents⟩

end Applied

section Demo
attribute [local instance] CharData.ascii DateData.undated

private def bothFiles : Dict := [("SKILL.md", .str "# Research\n\nNew.\n"), ("notes.md", .str "new\n")]

private def onlyManifest : Dict := [("SKILL.md", .str "# Research\n\nNew.\n")]

private def applyOnce (files : Dict) : Except PyException (EvolutionProposal × Session) × Disk :=
  (applyProposal plainSkills ⟨0, 0⟩ "admin" (proposing files) 0).exec researchTree

theorem applied_matches_both : ∃ result next, applyOnce bothFiles = (.ok result, next) ∧ result.1.status = "applied" ∧
    (FileMap.Same (snapshot [skillsRoot, research] next) (FileMap.ofItems bothFiles) ↔
      Exact (snapshot [skillsRoot, research] researchTree) (FileMap.ofItems bothFiles)) := by
  have returned : (applyOnce bothFiles).1.toOption.any (fun result => result.1.status = "applied") = true := by
    decide +kernel
  obtain ⟨⟨applied, session⟩, ran, done⟩ := exists_ok returned
  have whole : applyOnce bothFiles = (.ok (applied, session), (applyOnce bothFiles).2) := Prod.ext ran rfl
  exact ⟨_, _, whole, done, applied_matches_iff (by decide +kernel) rfl rfl (by decide +kernel) whole done⟩

/-- A package without the second file is applied, and the second file is still there. -/
theorem removed_stays : ∃ result next, applyOnce onlyManifest = (.ok result, next) ∧ result.1.status = "applied" ∧
    ¬FileMap.Same (snapshot [skillsRoot, research] next) (FileMap.ofItems onlyManifest) := by
  have returned : (applyOnce onlyManifest).1.toOption.any (fun result => result.1.status = "applied") = true := by
    decide +kernel
  obtain ⟨result, ran, done⟩ := exists_ok returned
  refine ⟨result, (applyOnce onlyManifest).2, Prod.ext ran rfl, done, ?_⟩
  intro same
  have still : (snapshot [skillsRoot, research] (applyOnce onlyManifest).2).get "notes.md" = some "old\n" := by
    decide +kernel
  have unnamed : (FileMap.ofItems onlyManifest).get "notes.md" = none := by decide +kernel
  rw [same "notes.md", unnamed] at still
  cases still

end Demo

end SoulClaw.Skills.Applied
