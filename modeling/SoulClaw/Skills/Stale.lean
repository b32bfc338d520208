import SoulClaw.Skills.Rollback

/-! The guard against stale proposals. A proposal carries the hash of a text in which the paths and the contents of
the directory stand one after the other, each with a NUL behind it. -/

namespace SoulClaw.Skills.Stale
open Foundation Files Lines Wiki.Storage Package Storage Service
open Wiki.Proposals (EvolutionProposal)

/-! The text that is hashed. -/

/-- No path holds the separator. -/
def Named (files : FileMap) : Prop := ∀ file ∈ files.rows, '\x00' ∉ file.1.toList

instance (files : FileMap) : Decidable (Named files) :=
  inferInstanceAs (Decidable (∀ file ∈ files.rows, '\x00' ∉ file.1.toList))

/-- The contents of a path that both dictionaries have hold equally many separators. -/
def Alike (first second : FileMap) : Prop := ∀ path content content', first.get path = some content →
  second.get path = some content' → content.toList.count '\x00' = content'.toList.count '\x00'

theorem flatMap_injective {first second : List (String × String)} (named : ∀ file ∈ first, '\x00' ∉ file.1.toList)
    (named' : ∀ file ∈ second, '\x00' ∉ file.1.toList)
    (alike : ∀ file ∈ first, ∀ other ∈ second, file.1 = other.1 →
      file.2.toList.count '\x00' = other.2.toList.count '\x00')
    (same : (first.flatMap fun file => file.1.toList ++ '\x00' :: (file.2.toList ++ ['\x00'])) =
      second.flatMap fun file => file.1.toList ++ '\x00' :: (file.2.toList ++ ['\x00'])) : first = second := by
  induction first generalizing second with
  | nil =>
    cases second with
    | nil => rfl
    | cons file rest => simp at same
  | cons file rest ih =>
    cases second with
    | nil => simp at same
    | cons other others =>
      simp only [List.flatMap_cons, List.append_assoc, List.cons_append, List.nil_append] at same
      obtain ⟨paths, behind⟩ := Text.cut_inj (named _ List.mem_cons_self) (named' _ List.mem_cons_self) same
      have path := String.toList_injective paths
      have counts := alike _ List.mem_cons_self _ List.mem_cons_self path
      obtain ⟨contents, later⟩ := Text.cut_inj_of_count counts behind
      have head : file = other := Prod.ext path (String.toList_injective contents)
      have tail : rest = others := ih (fun file member => named file (List.mem_cons_of_mem _ member))
        (fun file member => named' file (List.mem_cons_of_mem _ member))
        (fun file member other member' => alike file (List.mem_cons_of_mem _ member) other
          (List.mem_cons_of_mem _ member')) later
      rw [head, tail]

theorem same_of_rows {first second : FileMap} (same : first.rows.Perm second.rows) : FileMap.Same first second := by
  intro path
  apply Option.ext
  intro content
  rw [FileMap.get_eq_some, FileMap.get_eq_some, same.mem_iff]

theorem perm_sorted (files : FileMap) : files.sorted.Perm files.rows := List.perm_insertionSort _ _

/-- Dictionaries with one text are equal, exactly when they are alike. -/
theorem same_iff_alike {first second : FileMap} (named : Named first) (named' : Named second)
    (same : serialized first = serialized second) : FileMap.Same first second ↔ Alike first second := by
  constructor
  · intro equal path content content' known known'
    rw [equal path, known', Option.some.injEq] at known
    rw [known]
  · intro alike
    have sorted : first.sorted = second.sorted := by
      refine flatMap_injective ?_ ?_ ?_ same
      · intro file member
        exact named file ((perm_sorted first).mem_iff.1 member)
      · intro file member
        exact named' file ((perm_sorted second).mem_iff.1 member)
      · intro file member other member' path
        have known := FileMap.get_eq_some.2 ((perm_sorted first).mem_iff.1 member)
        have known' := FileMap.get_eq_some.2 ((perm_sorted second).mem_iff.1 member')
        rw [← path] at known'
        exact alike _ _ _ known known'
    have perm := perm_sorted first
    rw [sorted] at perm
    exact same_of_rows (perm.symm.trans (perm_sorted second))

/-- Texts without the separator tell dictionaries apart. -/
theorem same_of_serialized {first second : FileMap} (named : Named first) (named' : Named second)
    (plain : ∀ file ∈ first.rows, '\x00' ∉ file.2.toList) (plain' : ∀ file ∈ second.rows, '\x00' ∉ file.2.toList)
    (same : serialized first = serialized second) : FileMap.Same first second := by
  apply (same_iff_alike named named' same).2
  intro path content content' known known'
  rw [List.count_eq_zero_of_not_mem (plain _ (FileMap.get_eq_some.1 known)),
    List.count_eq_zero_of_not_mem (plain' _ (FileMap.get_eq_some.1 known'))]

/-! The guard. -/

section Checks
variable [CharData] [DateData] {service : SkillService} {proposal : EvolutionProposal} {disk : Disk} {plan : Plan}

/-- The call comes to the loop that writes. -/
def Writes (service : SkillService) (proposal : EvolutionProposal) (disk : Disk) : Prop :=
  ∃ plan, review service proposal disk = .ok (.ready plan)

/-- The checks that do not look at the directory. -/
def Sound (service : SkillService) (proposal : EvolutionProposal) : Prop :=
  applicable proposal = .ok () ∧ ∃ skillKey files tests, packageOf proposal.payload = .ok (skillKey, files) ∧
    (lintFiles service files).ok = true ∧ testFiles service skillKey files = .ok tests ∧ tests.ok = true

theorem sound_of_passes (passes : Passes service proposal disk plan) : Sound service proposal := by
  obtain ⟨tests, run, tested⟩ := passes.tested
  exact ⟨passes.applicable, plan.skillKey, plan.files, tests, passes.package, passes.linted, run, tested⟩

/-- The checks come to the loop, exactly when those of the proposal hold and the directory shows the checksum. -/
theorem writes_iff {skillKey : String} {files : FileMap} {dir : Path}
    (package : packageOf proposal.payload = .ok (skillKey, files)) (safe : safeSkillDir service skillKey = .ok dir) :
    Writes service proposal disk ↔ Sound service proposal ∧
      (expectedChecksum proposal = "" ∨ service.snapshotChecksum (snapshot dir disk) = expectedChecksum proposal) := by
  constructor
  · rintro ⟨plan, passed⟩
    have passes := review_ready passed
    have own := passes.package
    rw [package, Except.ok.injEq, Prod.mk.injEq] at own
    have place := passes.dir
    rw [← own.1, safe, Except.ok.injEq] at place
    have fresh := passes.fresh
    rw [passes.before, ← place] at fresh
    exact ⟨sound_of_passes passes, fresh⟩
  · rintro ⟨⟨allowed, skillKey', files', tests, package', linted, run, tested⟩, fresh⟩
    rw [package, Except.ok.injEq, Prod.mk.injEq] at package'
    obtain ⟨rfl, rfl⟩ := package'
    have current : ¬(expectedChecksum proposal ≠ "" ∧
        service.snapshotChecksum (snapshot dir disk) ≠ expectedChecksum proposal) := by
      rw [not_and_or, not_not, not_not]
      exact fresh
    refine ⟨⟨skillKey, dir, files, snapshot dir disk, (lintFiles service files).warnings, tests.tests⟩, ?_⟩
    rw [review, bind_eq_ok]
    refine ⟨(), allowed, ?_⟩
    rw [bind_eq_ok]
    refine ⟨_, package, ?_⟩
    dsimp only
    rw [linted, if_neg (by decide), bind_eq_ok]
    refine ⟨dir, safe, ?_⟩
    rw [if_neg current, bind_eq_ok]
    refine ⟨tests, run, ?_⟩
    rw [tested, if_neg (by decide)]
    rfl

end Checks

section Guard
variable [CharData] {service : SkillService} {state made : Service.State} {request : ProposalRequest} {id : Nat}
  {disk disk' : Disk} {proposal : EvolutionProposal}

omit [CharData] in
theorem lookup_setDefault {dict : Dict} {key other : String} {value : Json} : (setDefault dict key value).lookup other =
      if other = key ∧ dict.lookup key = none then some value else dict.lookup other := by
  rw [setDefault]
  cases known : dict.lookup key with
  | none =>
    rw [if_neg (by rw [Option.isSome_none]; decide), Dict.lookup_set]
    simp only [and_true]
  | some old =>
    rw [if_pos (by rw [Option.isSome_some]), if_neg (by simp)]

/-- The payload that is stored: the fields that the caller has set stay, and a package gets the checksum of what is
visible. -/
theorem baselineOf_ok {targetType : String} {payload : Dict} {baseline : Baseline}
    (taken : baselineOf service targetType payload disk = .ok baseline) :
    (∀ key, key ≠ "base_checksum" → key ≠ "diff" → baseline.payload.lookup key = payload.lookup key) ∧
      ∀ files, payload.get "files" = .obj files → targetType = "skill" → payloadKey payload ≠ "" →
        payload.lookup "base_checksum" = none → ∃ dir, safeSkillDir service (payloadKey payload) = .ok dir ∧
          baseline.payload.lookup "base_checksum" = some (.str (service.snapshotChecksum (snapshot dir disk))) := by
  rw [baselineOf] at taken
  split at taken
  next files held =>
    by_cases package : targetType = "skill" ∧ payloadKey payload ≠ ""
    · rw [if_pos package] at taken
      obtain ⟨dir, safe, taken⟩ := bind_eq_ok.1 taken
      cases taken
      constructor
      · intro key first second
        dsimp only
        rw [lookup_setDefault, if_neg (fun both => second both.1), lookup_setDefault, if_neg (fun both => first both.1)]
      · intro _ _ _ _ own
        refine ⟨dir, safe, ?_⟩
        dsimp only
        rw [lookup_setDefault, if_neg (fun both => absurd both.1 (by decide)), lookup_setDefault, if_pos ⟨rfl, own⟩]
    · rw [if_neg package] at taken
      cases taken
      exact ⟨fun _ _ _ => rfl, fun _ _ skill keyed => absurd ⟨skill, keyed⟩ package⟩
  next held =>
    cases taken
    exact ⟨fun _ _ _ => rfl, fun files found => absurd found (held files)⟩

theorem packageOf_ok {payload : Dict} {skillKey : String} {files : FileMap}
    (package : packageOf payload = .ok (skillKey, files)) :
    (∃ items, payload.get "files" = .obj items) ∧ payloadKey payload = skillKey ∧ skillKey ≠ "" := by
  rw [packageOf] at package
  split at package
  next items held =>
    by_cases keyed : payloadKey payload ≠ ""
    · rw [if_pos keyed, Except.ok.injEq, Prod.mk.injEq] at package
      exact ⟨⟨items, held⟩, package.1, package.1 ▸ keyed⟩
    · rw [if_neg keyed] at package
      cases package
  next => cases package

omit [CharData] in
theorem targetType_of_applicable (allowed : applicable proposal = .ok ()) : proposal.targetType = "skill" := by
  rw [applicable] at allowed
  generalize "proposal is not applyable: " ++ proposal.status = message at allowed
  by_contra other
  by_cases closed : proposal.status ∉ ["pending", "approved"]
  · rw [if_pos closed] at allowed
    cases allowed
  · rw [if_neg closed, if_pos other] at allowed
    cases allowed

theorem createProposal_row (created : (createProposal service state request).exec disk = (.ok (id, made), disk'))
    (row : made.proposals.get? id = some proposal) : proposal.targetType = request.targetType ∧
      ∃ baseline, baselineOf service request.targetType request.payload disk = .ok baseline ∧
        proposal.payload = baseline.payload := by
  rw [createProposal, Program.exec_bind, Program.exec_look] at created
  cases taken : baselineOf service request.targetType request.payload disk with
  | error raised =>
    rw [taken] at created
    cases created
  | ok baseline =>
    rw [taken] at created
    cases created
    rw [Table.get?_insert_self, Option.some.injEq] at row
    subst row
    exact ⟨rfl, baseline, rfl, rfl⟩

variable [DateData] {row : EvolutionProposal} {dir : Path} {later : Disk}

/-- A proposal that was created without a checksum of the caller's is applied only to the files that it was made
from, exactly when no others have the same text. -/
theorem never_stale_iff (injective : Function.Injective service.sha256) (digest : ∀ text, service.sha256 text ≠ "")
    (created : (createProposal service state request).exec disk = (.ok (id, made), disk'))
    (own : request.payload.lookup "base_checksum" = none) (stored : made.proposals.get? id = some proposal)
    (payload : row.payload = proposal.payload) (target : row.targetType = proposal.targetType)
    (safe : safeSkillDir service (payloadKey request.payload) = .ok dir)
    (named : Named (snapshot dir disk)) (named' : Named (snapshot dir later)) :
    (Writes service row later → FileMap.Same (snapshot dir later) (snapshot dir disk)) ↔
      (Sound service row → serialized (snapshot dir later) = serialized (snapshot dir disk) →
        Alike (snapshot dir later) (snapshot dir disk)) := by
  obtain ⟨type, baseline, taken, held⟩ := createProposal_row created stored
  obtain ⟨others, summed⟩ := baselineOf_ok taken
  have fields : ∀ key, key ≠ "base_checksum" → key ≠ "diff" → row.payload.get key = request.payload.get key := by
    intro key first second
    rw [Dict.get, Dict.get, payload, held, others key first second]
  have key : payloadKey row.payload = payloadKey request.payload := by
    rw [payloadKey, payloadKey, fields _ (by decide) (by decide)]
  have writes : Writes service row later ↔ Sound service row ∧
      serialized (snapshot dir later) = serialized (snapshot dir disk) := by
    by_cases package : ∃ skillKey files, packageOf row.payload = .ok (skillKey, files) ∧ applicable row = .ok ()
    · obtain ⟨skillKey, files, package, allowed⟩ := package
      obtain ⟨⟨items, found⟩, keyed, nonempty⟩ := packageOf_ok package
      have skill : request.targetType = "skill" := by
        rw [← type, ← target]
        exact targetType_of_applicable allowed
      rw [fields _ (by decide) (by decide)] at found
      rw [key] at keyed
      obtain ⟨dir', safe', checksum⟩ := summed items found skill (keyed ▸ nonempty) own
      rw [safe, Except.ok.injEq] at safe'
      rw [← safe'] at checksum
      have nonzero : service.snapshotChecksum (snapshot dir disk) ≠ "" := digest _
      have expected : expectedChecksum row = service.snapshotChecksum (snapshot dir disk) := by
        rw [expectedChecksum, Dict.get, payload, held, checksum, Option.getD_some,
          Json.or_of_truthy (by simpa [Json.truthy] using nonzero), Json.toStr]
      rw [keyed] at safe
      rw [writes_iff package safe, expected, or_iff_right nonzero, SkillService.snapshotChecksum,
        SkillService.snapshotChecksum, injective.eq_iff, String.ofList_inj]
    · constructor
      · rintro ⟨plan, passed⟩
        have passes := review_ready passed
        exact absurd ⟨_, _, passes.package, passes.applicable⟩ package
      · rintro ⟨⟨allowed, skillKey, files, _, held, _⟩, _⟩
        exact absurd ⟨skillKey, files, held, allowed⟩ package
  rw [writes, and_imp]
  constructor
  · intro exact' sound same
    exact (same_iff_alike named' named same).1 (exact' sound same)
  · intro alike sound same
    exact (same_iff_alike named' named same).2 (alike sound same)

end Guard

section Demo
attribute [local instance] CharData.ascii DateData.undated

/-- The tree in which SKILL.md holds what the second file held, behind its name. -/
private def joined : Disk :=
  setNode (setNode (setNode ∅ [skillsRoot] .directory) [skillsRoot, research] .directory)
    [skillsRoot, research, manifestName] (.file (some "# Research\n\x00notes.md\x00old\n"))

private def asked : ProposalRequest where
  targetType := "skill"
  action := "upsert"
  payload := [("skill_key", .str "research"), ("files", .obj [("SKILL.md", .str "# Research\n\nNew.\n")])]

private def proposed : Except PyException (Nat × Service.State) × Disk :=
  (createProposal plainSkills ⟨noSkills, Table.empty⟩ asked).exec researchTree

private def shown (disk : Disk) : FileMap := snapshot [skillsRoot, research] disk

/-- The proposal that was made. -/
private def askedRow : EvolutionProposal :=
  (proposed.1.toOption.bind fun result => result.2.proposals.get? result.1).getD ⟨"", "", "", "", [], [], [], [], [], "", "", none⟩

theorem never_stale_joined : (Writes plainSkills askedRow joined → FileMap.Same (shown joined) (shown researchTree)) ↔
      (Sound plainSkills askedRow → serialized (shown joined) = serialized (shown researchTree) →
        Alike (shown joined) (shown researchTree)) := by
  have returned : proposed.1.toOption.any (fun result => result.1 = 0 ∧ result.2.proposals.get? 0 = some askedRow) = true := by
    decide +kernel
  obtain ⟨⟨id, made⟩, ran, rfl, row⟩ := exists_ok returned
  have injective : Function.Injective plainSkills.sha256 := by
    intro first second same
    exact String.append_right_inj "sha256:" |>.1 same
  have digest : ∀ text, plainSkills.sha256 text ≠ "" := by
    intro text none
    have chars := congrArg String.toList none
    simp [plainSkills] at chars
  exact never_stale_iff injective digest (Prod.ext ran rfl) rfl row rfl rfl (by decide +kernel) (by decide +kernel)
    (by decide +kernel)

private def applyLate : Except PyException (EvolutionProposal × Session) × Disk :=
  (applyProposal plainSkills ⟨0, 0⟩ "admin" ⟨noSkills, ⟨[askedRow]⟩⟩ 0).exec joined

/-- The directory has changed since the proposal was made, and the proposal is applied. -/
theorem joined_written : (∃ made disk', proposed = (.ok (0, made), disk') ∧ made.proposals.get? 0 = some askedRow) ∧
    (∃ result, applyLate.1 = .ok result ∧ result.1.status = "applied") ∧ Writes plainSkills askedRow joined ∧
      ¬FileMap.Same (shown joined) (shown researchTree) := by
  have returned : proposed.1.toOption.any (fun result => result.1 = 0 ∧ result.2.proposals.get? 0 = some askedRow) = true := by
    decide +kernel
  have applied : applyLate.1.toOption.any (fun result => result.1.status = "applied") = true := by decide +kernel
  obtain ⟨⟨id, made⟩, ran, rfl, row⟩ := exists_ok returned
  obtain ⟨⟨late, session⟩, ran', done⟩ := exists_ok applied
  obtain ⟨plan, passed, _⟩ := applyProposal_applied rfl (Prod.ext ran' rfl) done
  refine ⟨⟨made, _, Prod.ext ran rfl, row⟩, ⟨_, ran', done⟩, ⟨plan, passed⟩, ?_⟩
  intro same
  have gone : (shown joined).get "notes.md" = none := by decide +kernel
  have there : (shown researchTree).get "notes.md" = some "old\n" := by decide +kernel
  rw [same "notes.md", there] at gone
  cases gone

end Demo

end SoulClaw.Skills.Stale
