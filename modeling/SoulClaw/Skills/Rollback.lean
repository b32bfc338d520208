import SoulClaw.Skills.Applied

/-! `rollback` directly after a proposal has been applied. -/

namespace SoulClaw.Skills.Rollback
open Foundation Files Lines Wiki.Storage Package Storage Service Applied
open Wiki.Proposals (EvolutionProposal)

section Restore
variable {dir : Path} {disk next last : Disk} {files : FileMap}

theorem restoredFiles_applyHistory [CharData] (service : SkillService) (clock : Service.Clock) (actor : String) (id : Nat)
    (plan : Plan) (after : FileMap) : restoredFiles (applyHistory service clock actor id plan after) = .ok plan.before.rows := by
  show Except.ok ((FileMap.toDict plan.before).map fun file => (file.1, file.2.toStr)) = _
  rw [FileMap.texts_toDict]

theorem parse_manifest : PurePath.parse "SKILL.md" = ⟨false, [manifestName]⟩ := by decide +kernel

theorem decoded_plain {text : String} (plain : '\r' ∉ text.toList) : decoded (some text) = some text := by
  rw [decoded, Option.map_some, universalNewlines_eq_self_iff.2 plain, String.ofList_toList]

theorem occupied_of_written (lawful : ∀ file ∈ files.rows, Lawful file.1)
    (applied : contentAt next = files.rows.foldl (written dir) (contentAt disk)) {file : String × String}
    (member : file ∈ files.rows) : ∃ raw, contentAt next (dir ++ (PurePath.parse file.1).parts) = some raw := by
  rw [applied]
  rcases foldl_written_cases files.rows (contentAt disk) (dir ++ (PurePath.parse file.1).parts) with
    ⟨apart, _⟩ | ⟨_, _, _, same⟩
  · exact absurd (place_of_lawful (lawful file member) dir) (apart file member)
  · exact ⟨_, same⟩

/-- A package with a SKILL.md makes the directory. -/
theorem directory_of_written (closed' : Closed next) (lawful : ∀ file ∈ files.rows, Lawful file.1)
    (manifest : (files.get "SKILL.md").isSome) (applied : contentAt next = files.rows.foldl (written dir) (contentAt disk)) :
    node next dir = some .directory := by
  obtain ⟨content, listed⟩ := Option.isSome_iff_exists.1 manifest
  obtain ⟨raw, inside⟩ := occupied_of_written lawful applied (FileMap.get_eq_some.1 listed)
  rw [parse_manifest, contentAt] at inside
  split at inside
  next there => exact directory_above closed' dir [manifestName] (by simp) there
  next => cases inside

/-- No file of a package with a SKILL.md stands in the place of the directory. -/
theorem below_of_written (closed' : Closed next) (lawful : ∀ file ∈ files.rows, Lawful file.1)
    (manifest : (files.get "SKILL.md").isSome) (applied : contentAt next = files.rows.foldl (written dir) (contentAt disk))
    {file : String × String} (member : file ∈ files.rows) : (PurePath.parse file.1).parts ≠ [] := by
  intro none
  obtain ⟨raw, here⟩ := occupied_of_written lawful applied member
  rw [none, List.append_nil, contentAt, directory_of_written closed' lawful manifest applied] at here
  cases here

/-- Writing back what was visible shows it again, and nothing else, exactly when the package has added no path. -/
theorem restores_iff (closed : Closed disk) (closed' : Closed next) (closed'' : Closed last)
    (lawful : ∀ file ∈ files.rows, Lawful file.1) (manifest : (files.get "SKILL.md").isSome)
    (applied : contentAt next = files.rows.foldl (written dir) (contentAt disk))
    (restored : contentAt last = (snapshot dir disk).rows.foldl (written dir) (contentAt next)) :
    FileMap.Same (snapshot dir last) (snapshot dir disk) ↔
      ∀ file ∈ files.rows, ((snapshot dir disk).get (posix (PurePath.parse file.1).parts)).isSome := by
  have shown : ∀ file ∈ (snapshot dir disk).rows, Canonical file.1 ∧ Lawful file.1 ∧ '\r' ∉ file.2.toList := by
    intro file member
    obtain ⟨spelled, lawful', plain, _⟩ := canonical_of_snapshot closed (FileMap.get_eq_some.2 member)
    exact ⟨spelled, lawful', plain⟩
  constructor
  · intro same file member
    have below := below_of_written closed' lawful manifest applied member
    have visible := (lawful file member).visible
    have parsed := parse_posix below fun name inside => (plain_of_visible visible name inside).1
    have occupied : ∃ content : String, contentAt last (dir ++ (PurePath.parse file.1).parts) = some (some content) := by
      rw [restored]
      rcases foldl_written_cases (snapshot dir disk).rows (contentAt next) (dir ++ (PurePath.parse file.1).parts) with
        ⟨_, same'⟩ | ⟨other, _, _, same'⟩
      · rcases foldl_written_cases files.rows (contentAt disk) (dir ++ (PurePath.parse file.1).parts) with
          ⟨apart, _⟩ | ⟨other, _, _, same''⟩
        · exact absurd (place_of_lawful (lawful file member) dir) (apart file member)
        · exact ⟨other.2, by rw [same', applied, same'']⟩
      · exact ⟨other.2, same'⟩
    obtain ⟨content, occupied⟩ := occupied
    have found := (get_snapshot_iff closed'').2 ⟨canonical_posix below visible, lawful_posix below visible, by
      rw [parsed, occupied, Option.bind_some]
      rfl⟩
    rw [← same, found]
    rfl
  · intro covered key
    apply Option.ext
    intro text
    constructor
    · intro known
      obtain ⟨canonical, lawful', read⟩ := (get_snapshot_iff closed'').1 known
      rcases foldl_written_cases (snapshot dir disk).rows (contentAt next) (dir ++ (PurePath.parse key).parts) with
        ⟨apart, same⟩ | ⟨other, member, there, same⟩
      · rcases foldl_written_cases files.rows (contentAt disk) (dir ++ (PurePath.parse key).parts) with
          ⟨_, same'⟩ | ⟨file, member, there, _⟩
        · rw [restored, same, applied, same'] at read
          exact (get_snapshot_iff closed).2 ⟨canonical, lawful', read⟩
        · rw [place_of_lawful (lawful file member), List.append_cancel_left_eq] at there
          obtain ⟨old, listed⟩ := Option.isSome_iff_exists.1 (covered file member)
          rw [there, canonical.spelled] at listed
          exact (apart (key, old) (FileMap.get_eq_some.1 listed) (place_of_lawful lawful' dir)).elim
      · obtain ⟨canonical', lawful'', plain⟩ := shown _ member
        rw [place_of_lawful lawful'', List.append_cancel_left_eq] at there
        have named : other.1 = key := by
          rw [← canonical'.spelled, there, canonical.spelled]
        rw [restored, same, Option.bind_some, decoded_plain plain, Option.some.injEq] at read
        rw [← read, ← named]
        exact FileMap.get_eq_some.2 member
    · intro known
      have member := FileMap.get_eq_some.1 known
      obtain ⟨canonical, lawful', plain⟩ := shown _ member
      refine (get_snapshot_iff closed'').2 ⟨canonical, lawful', ?_⟩
      rw [restored, written_of_canonical (fun file listed => (shown file listed).2.1) (fun file listed => (shown file listed).1)
        member, Option.bind_some, decoded_plain plain]

/-- What was visible can be written back. -/
theorem writeFiles_back (closed : Closed disk) (closed' : Closed next)
    (named : ∀ key text, (snapshot dir disk).get key = some text → '\x00' ∉ key.toList)
    (applied : contentAt next = files.rows.foldl (written dir) (contentAt disk)) :
    ∃ last, (writeFiles dir (snapshot dir disk).rows).exec next = (.ok (), last) := by
  apply writeFiles_existing closed'
  intro file member
  have known := FileMap.get_eq_some.2 member
  obtain ⟨_, lawful, read⟩ := (get_snapshot_iff closed).1 known
  have target := place_of_lawful lawful dir
  refine ⟨dir ++ (PurePath.parse file.1).parts, ?_, ?_⟩
  · rw [safeChild, if_neg (named _ _ known), target, if_pos (List.prefix_append ..)]
  · obtain ⟨raw, found, _⟩ := Option.bind_eq_some_iff.1 read
    rw [applied]
    rcases foldl_written_cases files.rows (contentAt disk) (dir ++ (PurePath.parse file.1).parts) with
      ⟨_, same⟩ | ⟨_, _, _, same⟩
    · rw [same, found]
      rfl
    · rw [same]
      rfl

end Restore

section Rollback
variable [CharData] [DateData] {service : SkillService} {clock later : Service.Clock} {actor actor' : String}
  {query : LatestQuery} {dir : Path} {disk next last : Disk} {files : FileMap} {state committed : Service.State} {id : Nat}
  {proposal applied : EvolutionProposal} {session : Session} {skillKey key : String}

omit [CharData] [DateData] in
/-- The query finds the row of the application when every other row of the skill is older. -/
theorem pick_newest {row : SkillHistory} {db : SkillDb} {older : List SkillHistory} (rows : db.history = older ++ [row])
    (newest : ∀ other ∈ older, other.skillKey = row.skillKey → other.createdAt < row.createdAt) :
    query.pick db row.skillKey = some row := by
  have own : row ∈ db.history := by
    rw [rows]
    exact List.mem_append_right _ List.mem_cons_self
  cases picked : query.pick db row.skillKey with
  | none => exact absurd rfl (query.complete picked row own)
  | some found =>
    obtain ⟨member, named, latest⟩ := query.latest picked
    rw [rows] at member
    rcases List.mem_append.1 member with old | last
    · have before := newest found old named
      have after := latest row own rfl
      omega
    · rw [List.mem_singleton.1 last]

/-- A package that is linted has a SKILL.md. -/
theorem manifest_of_linted (linted : (lintFiles service files).ok = true) : (files.get "SKILL.md").isSome := by
  obtain ⟨text, _, _, known, _⟩ := manifest_of_unfailed (unfailed_of_linted linted).1
  rw [known]
  rfl

/-- What a rollback leaves of the files, whether its scan succeeds or not. -/
theorem rollback_files {row : SkillHistory} {before : List (String × String)} {wrote : Disk} (closed : Closed next)
    (picked : query.pick committed.db (normalizeSkillKey key) = some row) (decodes : restoredFiles row = .ok before)
    (safe : safeSkillDir service (normalizeSkillKey key) = .ok dir)
    (written' : (writeFiles dir before).exec next = (.ok (), wrote)) {returned : Except PyException (List String × Session)}
    (rolled : (rollback service later actor' query committed key).exec next = (returned, last)) :
    Closed last ∧ contentAt last = before.foldl (written dir) (contentAt next) := by
  obtain ⟨closed', front, back, split, contents, whole⟩ := writeFiles_exec closed written'
  rw [whole rfl, List.append_nil] at split
  have looked : (Program.look fun disk => .ok (snapshot dir disk) : FileM Raw FileMap).exec next =
      (.ok (snapshot dir next), next) := rfl
  rw [rollback] at rolled
  dsimp only at rolled
  rw [picked] at rolled
  dsimp only at rolled
  rw [decodes, safe, Program.exec_bind_of_ok _ (Program.exec_ofExcept _), Program.exec_bind_of_ok _ (Program.exec_ofExcept _),
    Program.exec_bind_of_ok _ looked, Program.exec_bind_of_ok _ written', Program.exec_bind] at rolled
  rw [split, ← contents]
  split at rolled
  next result middle scanned =>
    obtain ⟨closed'', same⟩ := scan_exec closed' scanned
    cases rolled
    exact ⟨closed'', same⟩
  next raised middle scanned =>
    obtain ⟨closed'', same⟩ := scan_exec closed' scanned
    cases rolled
    exact ⟨closed'', same⟩

/-- Rolling back an application that has just been committed shows what was visible before, exactly when the package
has added no path. -/
theorem rollback_restores_iff (closed : Closed disk)
    (named : ∀ path text, (snapshot dir disk).get path = some text → '\x00' ∉ path.toList)
    (stored : state.proposals.get? id = some proposal) (package : packageOf proposal.payload = .ok (skillKey, files))
    (safe : safeSkillDir service skillKey = .ok dir)
    (ran : (applyProposal service clock actor state id).exec disk = (.ok (applied, session), next))
    (done : applied.status = "applied") (commits : session.commit = .ok committed)
    (newest : ∀ row ∈ state.db.history, row.skillKey = skillKey → row.createdAt < clock.inserted)
    (addressed : normalizeSkillKey key = skillKey) {returned : Except PyException (List String × Session)}
    (rolled : (rollback service later actor' query committed key).exec next = (returned, last)) :
    FileMap.Same (snapshot dir last) (snapshot dir disk) ↔
      ∀ file ∈ files.rows, ((snapshot dir disk).get (posix (PurePath.parse file.1).parts)).isSome := by
  obtain ⟨plan, passed, ran⟩ := applyProposal_applied stored ran done
  have passes := review_ready passed
  have own := passes.package
  rw [package, Except.ok.injEq, Prod.mk.injEq] at own
  obtain ⟨rfl, rfl⟩ := own
  have place := passes.dir
  rw [safe, Except.ok.injEq] at place
  subst place
  obtain ⟨closed', contents, between, count, _, _, scanned⟩ := applyPlan_ok closed ran
  have lawful := fun file member => @lawful_of_linted _ _ service plan.files passes.linted file member
  have history : committed.db.history = state.db.history ++
      [applyHistory service clock actor id plan (snapshot plan.dir between)] := by
    obtain ⟨added, kept, _⟩ := scan_frame scanned
    rw [(commit_frame commits).1, added, kept]
  have picked : query.pick committed.db plan.skillKey = some _ := pick_newest history newest
  have decodes := restoredFiles_applyHistory service clock actor id plan (snapshot plan.dir between)
  obtain ⟨written', wrote⟩ := writeFiles_back closed closed' named contents
  rw [← addressed] at picked safe
  have restored := rollback_files closed' picked decodes safe (passes.before ▸ wrote) rolled
  rw [passes.before] at restored
  exact restores_iff closed closed' restored.1 lawful (manifest_of_linted passes.linted) contents restored.2

end Rollback

section Demo
attribute [local instance] CharData.ascii DateData.undated

private def changing : Dict := [("SKILL.md", .str "# Research\n\nNew.\n")]

private def adding : Dict := changing ++ [("extra.md", .str "more\n")]

private def applying (files : Dict) : Except PyException (EvolutionProposal × Session) × Disk :=
  (applyProposal plainSkills ⟨0, 0⟩ "admin" (proposing files) 0).exec researchTree

private def undoing (files : Dict) (committed : Service.State) : Except PyException (List String × Session) × Disk :=
  (rollback plainSkills ⟨1, 1⟩ "admin" .first committed "research").exec (applying files).2

private def visible (disk : Disk) : FileMap := snapshot [skillsRoot, research] disk

theorem rollback_restores_change : ∃ result committed, (applying changing).1 = .ok result ∧
    result.2.commit = .ok committed ∧ (FileMap.Same (visible (undoing changing committed).2) (visible researchTree) ↔
      ∀ file ∈ (FileMap.ofItems changing).rows,
        ((visible researchTree).get (posix (PurePath.parse file.1).parts)).isSome) := by
  have returned : (applying changing).1.toOption.any (fun result => result.1.status = "applied" ∧
      result.2.commit.toOption.isSome) = true := by
    decide +kernel
  obtain ⟨⟨applied, session⟩, ran, done, stored⟩ := exists_ok returned
  obtain ⟨committed, stored⟩ := Option.isSome_iff_exists.1 stored
  have clean : ∀ file ∈ (visible researchTree).rows, '\x00' ∉ file.1.toList := by decide +kernel
  refine ⟨_, committed, ran, toOption_eq_some.1 stored, ?_⟩
  exact rollback_restores_iff (by decide +kernel) (fun path text known => clean _ (FileMap.get_eq_some.1 known)) rfl rfl
    (by decide +kernel) (Prod.ext ran rfl) done (toOption_eq_some.1 stored) (fun row member => by cases member)
    (by decide +kernel) rfl

/-- A file that the package has added is there after the rollback. -/
theorem rollback_leaves_extra : ∃ result committed, (applying adding).1 = .ok result ∧ result.1.status = "applied" ∧
    result.2.commit = .ok committed ∧ (undoing adding committed).1.toOption.isSome ∧
      ¬FileMap.Same (visible (undoing adding committed).2) (visible researchTree) := by
  have returned : (applying adding).1.toOption.any (fun result => result.1.status = "applied" ∧
      result.2.commit.toOption.any fun committed => (undoing adding committed).1.toOption.isSome ∧
        (visible (undoing adding committed).2).get "extra.md" = some "more\n") = true := by
    decide +kernel
  obtain ⟨result, ran, done, stored⟩ := exists_ok returned
  obtain ⟨committed, stored, restored, extra⟩ := exists_ok stored
  refine ⟨result, committed, ran, done, stored, restored, ?_⟩
  intro same
  have unknown : (visible researchTree).get "extra.md" = none := by decide +kernel
  rw [same "extra.md", unknown] at extra
  cases extra

end Demo

end SoulClaw.Skills.Rollback
