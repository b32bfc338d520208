import SoulClaw.Foundation.Runs
import SoulClaw.Skills.Atomicity
import SoulClaw.Skills.Lookup
import SoulClaw.Skills.Stale

/-! Where `apply_proposal` and `rollback` write. Every file that they change stands at or below the directory of the
skill, and it stands below unless a path without parts is written while no directory is there yet. -/

namespace SoulClaw.Skills.Containment
open Foundation Files Lines Wiki.Storage Package Storage Service Writing Atomicity
open Wiki.Keys (Normal keyChar_plain)
open Wiki.Markdown (keyChar)
open Wiki.Proposals (EvolutionProposal)

/-! The directory of a skill. -/

section Directory
variable [CharData]

/-- A normal key has parts. -/
theorem parts_of_normal {key : String} (normal : Normal key.toList) (some' : key ≠ "") :
    (PurePath.parse key).parts ≠ [] := by
  obtain ⟨c, rest, spelled⟩ := List.exists_cons_of_ne_nil fun none => some' (String.toList_eq_nil_iff.1 none)
  have shape := Lookup.shape_of_normal normal
  have first : c ≠ '/' := (shape.starts c (by rw [spelled]; rfl)).2
  have dotless : c ≠ '.' := (keyChar_plain (shape.plain c (by rw [spelled]; exact List.mem_cons_self))).2.2.2
  obtain ⟨part, plain, member⟩ : ∃ part, '/' ∉ c :: part ∧ c :: part ∈ key.toList.splitOn '/' := by
    rw [spelled]
    by_cases slash : '/' ∈ rest
    · obtain ⟨front, back, rfl, clean⟩ := List.eq_append_cons_of_mem slash
      have plain : '/' ∉ c :: front := by simp [first.symm, clean]
      refine ⟨front, plain, ?_⟩
      rw [← List.cons_append, List.splitOn_append_cons_self, List.splitOn_eq_singleton (by simpa using plain)]
      exact List.mem_append_left _ List.mem_cons_self
    · have plain : '/' ∉ c :: rest := by simp [first.symm, slash]
      refine ⟨rest, plain, ?_⟩
      rw [List.splitOn_eq_singleton (by simpa using plain)]
      exact List.mem_cons_self
  obtain ⟨name, made⟩ := nameOf_returns (List.cons_ne_nil c part) plain
  have kept : c :: part ≠ ['.'] := fun same => dotless (List.cons.inj same).1
  exact List.ne_nil_of_mem (List.mem_filterMap.2 ⟨_, List.mem_filter.2 ⟨member, decide_eq_true kept⟩, made⟩)

/-- The directory of a skill, by its key. -/
theorem safeSkillDir_eq (service : SkillService) (skillKey : String) :
    safeSkillDir service skillKey = .ok (place service.root (normalizeSkillKey skillKey)) := by
  obtain ⟨kept, relative⟩ := normalizeSkillKey_kept skillKey
  have inside : service.root <+: place service.root (normalizeSkillKey skillKey) := by
    rw [place_of_keyChars kept relative]
    exact List.prefix_append ..
  exact if_pos inside

theorem above_place {key : String} (normal : normalizeSkillKey key = key) (some' : key ≠ "") (root : Path) :
    Above root (place root key) := by
  obtain ⟨kept, relative⟩ := normalizeSkillKey_kept key
  rw [normal] at kept relative
  rw [place_of_keyChars kept relative]
  refine ⟨List.prefix_append .., fun same => ?_⟩
  rw [List.self_eq_append_right] at same
  exact parts_of_normal (normal ▸ Lookup.normal_normalizeSkillKey key) some' same

end Directory

/-! Programs that change no file. -/

def Harmless {Value : Type} (program : FileM Raw Value) : Prop :=
  ∀ ⦃disk returned next⦄, Closed disk → program.exec disk = (returned, next) →
    Closed next ∧ contentAt next = contentAt disk

section Harmless
variable {Value Other : Type}

theorem Harmless.look (query : Disk → Except PyException Value) : Harmless (Program.look query) := by
  intro disk returned next closed ran
  cases ran
  exact ⟨closed, rfl⟩

theorem Harmless.ofExcept (value : Except PyException Value) : Harmless (Program.ofExcept value) := by
  intro disk returned next closed ran
  cases ran
  exact ⟨closed, rfl⟩

theorem Harmless.bind {program : FileM Raw Value} {continue' : Value → FileM Raw Other} (first : Harmless program)
    (second : ∀ value, Harmless (continue' value)) : Harmless (program >>= continue') := by
  intro disk returned next closed ran
  rw [Program.exec_bind] at ran
  cases between : program.exec disk with
  | mk outcome middle =>
    obtain ⟨closed', same⟩ := first closed between
    rw [between] at ran
    cases outcome with
    | error raised =>
      cases ran
      exact ⟨closed', same⟩
    | ok value =>
      obtain ⟨closed'', same'⟩ := second value closed' ran
      exact ⟨closed'', same'.trans same⟩

theorem Harmless.scan [CharData] [DateData] (service : SkillService) (session : Session) :
    Harmless (Service.scan service session) := fun _ _ _ closed ran => scan_exec closed ran

end Harmless

/-! The files that are written. -/

section Writes
variable {dir path : Path} {disk next : Disk} {files front : List (String × String)}

/-- What the loop over some files has done, however far it has come. -/
structure Written (dir : Path) (disk : Disk) (files : List (String × String)) (next : Disk) : Prop where
  closed : Closed next
  contents : ∃ front, front <+: files ∧ Fitting dir disk [] front ∧
    contentAt next = front.foldl (written dir) (contentAt disk)

theorem written_of_bind {Value : Type} {continue' : Unit → FileM Raw Value} {returned : Except PyException Value}
    (closed : Closed disk) (harmless : Harmless (continue' ()))
    (ran : (writeFiles dir files >>= continue').exec disk = (returned, next)) : Written dir disk files next := by
  obtain ⟨front, back, outcome, between, rfl, wrote, fitting, closed', contents, ends⟩ :=
    (show Wrote dir disk [] disk from Wrote.start closed).writeFiles files
  rw [List.nil_append] at contents
  rw [Program.exec_bind, wrote] at ran
  rcases ends with ⟨_, rfl⟩ | ⟨_, _, raised, _, _, rfl⟩
  · obtain ⟨closed'', same⟩ := harmless closed' ran
    exact ⟨closed'', front, List.prefix_append .., fitting, same.trans contents⟩
  · cases ran
    exact ⟨closed', front, List.prefix_append .., fitting, contents⟩

/-- No path without parts is written in the place of the directory: it is there, or it cannot be made, or the first
file makes it. -/
def Roomy (dir : Path) (disk : Disk) (files : List (String × String)) : Prop :=
  node disk dir = some .directory ∨ (∃ path, Above path dir ∧ (contentAt disk path).isSome) ∨
    ∀ first ∈ files.head?, (PurePath.parse first.1).parts ≠ []

/-- A file that has changed is at one of the paths. -/
theorem Written.below (wrote : Written dir disk files next) (lawful : ∀ file ∈ files, Lawful file.1)
    (changed : contentAt next path ≠ contentAt disk path) : dir <+: path := by
  obtain ⟨front, inside, _, contents⟩ := wrote.contents
  rw [contents] at changed
  rcases foldl_written_cases front (contentAt disk) path with ⟨_, same⟩ | ⟨file, member, here, _⟩
  · exact absurd same changed
  · rw [← here, place_of_lawful (lawful file (inside.subset member))]
    exact List.prefix_append ..

/-- Where there is room, a file that has changed is below the directory. -/
theorem Written.inside (wrote : Written dir disk files next) (lawful : ∀ file ∈ files, Lawful file.1)
    (roomy : Roomy dir disk files) (changed : contentAt next path ≠ contentAt disk path) : Above dir path := by
  refine ⟨wrote.below lawful changed, ?_⟩
  rintro rfl
  obtain ⟨front, inside, fitting, contents⟩ := wrote.contents
  rw [contents] at changed
  rcases foldl_written_cases front (contentAt disk) dir with ⟨_, same⟩ | ⟨file, member, here, _⟩
  · exact changed same
  obtain ⟨before, after, rfl⟩ := List.append_of_mem member
  have fits := fitting before file after rfl
  rcases roomy with directory | ⟨path, above, occupied⟩ | named
  · exact fits.leaf.1 (here.symm ▸ directory)
  · rw [(fits.clear path (here.symm ▸ above)).1] at occupied
    cases occupied
  · have ⟨others, whole⟩ := inside
    cases before with
    | nil =>
      have parts := named file (by rw [← whole]; rfl)
      rw [place_of_lawful (lawful file (inside.subset member))] at here
      exact parts (List.self_eq_append_right.1 here.symm)
    | cons first rest =>
      -- The first file has made the directory.
      have parts := named first (by rw [← whole]; rfl)
      have listed : first ∈ files := inside.subset List.mem_cons_self
      refine fits.leaf.2 first List.mem_cons_self ?_
      rw [here, place_of_lawful (lawful first listed)]
      exact ⟨List.prefix_append .., fun same => parts (List.self_eq_append_right.1 same)⟩

end Writes

/-! Calls. -/

/-- A proposal that arrives, and the calls that write. -/
inductive Call where
  | propose (row : EvolutionProposal)
  | applyProposal (id : Nat) (clock : Service.Clock) (actor : String)
  | rollback (skillKey : String) (clock : Service.Clock) (actor : String)

structure Store where
  disk : Disk
  state : State

/-- The session of a call that returns is committed, and dropped otherwise. -/
def settle {Value : Type} (store : Store) : Except PyException (Value × Session) × Disk → Store
  | (.ok (_, session), disk) => ⟨disk, session.commit.toOption.getD store.state⟩
  | (.error _, disk) => ⟨disk, store.state⟩

section Calls
variable [CharData] [DateData] (service : SkillService) (query : LatestQuery)

def step (store : Store) : Call → Option Store
  | .propose row => some { store with state := { store.state with proposals := store.state.proposals.insert row } }
  | .applyProposal id clock actor =>
      some (settle store ((Service.applyProposal service clock actor store.state id).exec store.disk))
  | .rollback skillKey clock actor =>
      some (settle store ((Service.rollback service clock actor query store.state skillKey).exec store.disk))

omit [DateData] in
/-- The normal form of the key that a call is given. -/
def keyOf (state : State) : Call → Option String
  | .propose _ => none
  | .applyProposal id _ _ => (state.proposals.get? id).map fun proposal => payloadKey proposal.payload
  | .rollback skillKey _ _ => some (normalizeSkillKey skillKey)

/-- A proposal that passes the checks has room. -/
def Guard (store : Store) : Call → Prop
  | .applyProposal id _ _ => ∀ proposal plan, store.state.proposals.get? id = some proposal →
      review service proposal store.disk = .ok (.ready plan) → Roomy plan.dir store.disk plan.files.rows
  | _ => True

/-- A row to go back to: its paths stand below the directory of a skill. -/
structure Recorded (row : SkillHistory) : Prop where
  named : row.skillKey ≠ ""
  below : ∀ files, restoredFiles row = .ok files →
    ∀ file ∈ files, Lawful file.1 ∧ (PurePath.parse file.1).parts ≠ []

structure Sound (store : Store) : Prop where
  closed : Closed store.disk
  recorded : ∀ row ∈ store.state.db.history, Recorded row

/-- A file is created or modified. -/
def Changed (store next : Store) (path : Path) : Prop := contentAt next.disk path ≠ contentAt store.disk path

variable {service query} {store next : Store} {row : SkillHistory}

omit [CharData] [DateData] in
/-- The rows that a call leaves. -/
theorem history_settle {Value : Type} {returned : Except PyException (Value × Session)} {disk : Disk}
    (listed : row ∈ (settle store (returned, disk)).state.db.history) : row ∈ store.state.db.history ∨
      ∃ value session, returned = .ok (value, session) ∧ (row ∈ session.state.db.history ∨ row ∈ session.history) := by
  cases returned with
  | error raised => exact .inl listed
  | ok result =>
    obtain ⟨value, session⟩ := result
    rw [settle] at listed
    cases committed : session.commit with
    | error raised =>
      rw [committed] at listed
      exact .inl listed
    | ok state =>
      rw [committed] at listed
      have rows : row ∈ state.db.history := listed
      rw [(commit_frame committed).1, List.mem_append] at rows
      exact .inr ⟨value, session, rfl, rows⟩

omit [DateData] in
/-- What was visible in the directory of a skill can be gone back to. -/
theorem recorded_of_snapshot {disk : Disk} {dir : Path} (closed : Closed disk) (named : row.skillKey ≠ "")
    (files : row.beforeSnapshot.lookup "files" = some (.obj (FileMap.toDict (snapshot dir disk)))) : Recorded row := by
  refine ⟨named, fun restored decodes file listed => ?_⟩
  rw [restoredFiles, files] at decodes
  cases decodes
  rw [FileMap.texts_toDict] at listed
  obtain ⟨canonical, lawful, _⟩ := canonical_of_snapshot closed (FileMap.get_eq_some.2 listed)
  exact ⟨lawful, canonical.below⟩

variable {state : State} {disk after : Disk} {clock : Service.Clock} {actor skillKey : String} {id : Nat}
  {proposal : EvolutionProposal} {plan : Plan}

/-- The session of a call: it adds rows to go back to, and leaves the stored ones alone. -/
def Keeps {Value : Type} (state : State) (returned : Except PyException (Value × Session)) : Prop :=
  ∀ value session, returned = .ok (value, session) →
    session.state.db.history = state.db.history ∧ ∀ row ∈ session.history, Recorded row

theorem keeps_scan {Value : Type} {session : Session} {disk next : Disk} {value : Value}
    {returned : Except PyException (Value × Session)} (same : session.state.db.history = state.db.history)
    (recorded : ∀ row ∈ session.history, Recorded row)
    (ran : (do let (_, last) ← scan service session; return (value, last) : FileM Raw (Value × Session)).exec disk =
      (returned, next)) : Keeps state returned := by
  rintro value' last rfl
  obtain ⟨⟨count, session'⟩, between, scanned, made⟩ := Program.exec_bind_eq_ok.1 ran
  cases made
  obtain ⟨added, stored, _⟩ := scan_frame scanned
  rw [added, stored]
  exact ⟨same, recorded⟩

/-- An application of a package that passes the checks. -/
theorem applyPlan_writes {returned : Except PyException (EvolutionProposal × Session)} (closed : Closed disk)
    (passes : Passes service proposal disk plan)
    (ran : (applyPlan service clock actor state id proposal plan).exec disk = (returned, after)) :
    Written plan.dir disk plan.files.rows after ∧ Keeps state returned := by
  rw [applyPlan] at ran
  refine ⟨written_of_bind closed ?_ ran, ?_⟩
  · exact (Harmless.look _).bind fun _ => (Harmless.scan service _).bind fun _ => Harmless.ofExcept (.ok _)
  · rintro value session rfl
    obtain ⟨_, between, _, ran⟩ := Program.exec_bind_eq_ok.1 ran
    obtain ⟨shown, _, looked, ran⟩ := Program.exec_bind_eq_ok.1 ran
    cases looked
    refine keeps_scan ?_ ?_ ran value session rfl
    · show state.db.history = _
      rfl
    · intro row listed
      rw [List.mem_singleton.1 listed]
      obtain ⟨_, _, some'⟩ := Stale.packageOf_ok passes.package
      refine @recorded_of_snapshot _ _ _ plan.dir closed some' ?_
      rw [← passes.before]
      rfl

theorem applyProposal_writes {returned : Except PyException (EvolutionProposal × Session)} (closed : Closed disk)
    (ran : (Service.applyProposal service clock actor state id).exec disk = (returned, after)) :
    (after = disk ∨ ∃ proposal plan, state.proposals.get? id = some proposal ∧
      review service proposal disk = .ok (.ready plan) ∧ Written plan.dir disk plan.files.rows after) ∧
      Keeps state returned := by
  cases stored : state.proposals.get? id with
  | none =>
    rw [Service.applyProposal, stored] at ran
    cases ran
    exact ⟨.inl rfl, fun value session same => by cases same⟩
  | some proposal =>
    -- What a verdict other than a plan writes into the row leaves the history alone.
    have settled : ∀ row : EvolutionProposal,
        Keeps state (.ok (row, { state := { state with proposals := state.proposals.set id row } })) := by
      rintro row value session same
      cases same
      exact ⟨rfl, fun row listed => by cases listed⟩
    cases verdict : review service proposal disk with
    | error raised =>
      rw [Service.applyProposal, stored] at ran
      dsimp only at ran
      rw [Program.exec_bind, Program.exec_look, verdict] at ran
      cases ran
      exact ⟨.inl rfl, fun value session same => by cases same⟩
    | ok verdict' =>
      cases verdict' with
      | ready plan =>
        rw [applyProposal_ready stored verdict] at ran
        obtain ⟨wrote, keeps⟩ := applyPlan_writes closed (review_ready verdict) ran
        exact ⟨.inr ⟨proposal, plan, rfl, verdict, wrote⟩, keeps⟩
      | rejected result =>
        rw [Service.applyProposal, stored] at ran
        dsimp only at ran
        rw [Program.exec_bind, Program.exec_look, verdict] at ran
        cases ran
        exact ⟨.inl rfl, settled _⟩
      | stale reason =>
        rw [Service.applyProposal, stored] at ran
        dsimp only at ran
        rw [Program.exec_bind, Program.exec_look, verdict] at ran
        cases ran
        exact ⟨.inl rfl, settled _⟩

theorem rollback_writes {returned : Except PyException (List String × Session)} (closed : Closed disk)
    (recorded : ∀ row ∈ state.db.history, Recorded row)
    (ran : (Service.rollback service clock actor query state skillKey).exec disk = (returned, after)) :
    (after = disk ∨ normalizeSkillKey skillKey ≠ "" ∧ ∃ before : List (String × String),
      (∀ file ∈ before, Lawful file.1 ∧ (PurePath.parse file.1).parts ≠ []) ∧
        Written (place service.root (normalizeSkillKey skillKey)) disk before after) ∧ Keeps state returned := by
  have safe := safeSkillDir_eq service (normalizeSkillKey skillKey)
  rw [Lookup.normalizeSkillKey_normalizeSkillKey] at safe
  rw [Service.rollback] at ran
  dsimp only at ran
  cases picked : query.pick state.db (normalizeSkillKey skillKey) with
  | none =>
    rw [picked] at ran
    cases ran
    exact ⟨.inl rfl, fun value session same => by cases same⟩
  | some row =>
    obtain ⟨listed, named, _⟩ := query.latest picked
    have known := recorded row listed
    rw [picked] at ran
    dsimp only at ran
    cases decodes : restoredFiles row with
    | error raised =>
      rw [decodes, Program.exec_bind_of_error _ (Program.exec_ofExcept _)] at ran
      cases ran
      exact ⟨.inl rfl, fun value session same => by cases same⟩
    | ok before =>
      have looked : (Program.look fun disk => .ok (snapshot (place service.root (normalizeSkillKey skillKey)) disk) :
          FileM Raw FileMap).exec disk = (.ok (snapshot (place service.root (normalizeSkillKey skillKey)) disk), disk) := rfl
      rw [decodes, Program.exec_bind_of_ok _ (Program.exec_ofExcept _), safe,
        Program.exec_bind_of_ok _ (Program.exec_ofExcept _), Program.exec_bind_of_ok _ looked] at ran
      refine ⟨.inr ⟨named ▸ known.named, before, known.below before decodes, written_of_bind closed ?_ ran⟩, ?_⟩
      · exact (Harmless.scan service _).bind fun _ => Harmless.ofExcept (.ok _)
      · rintro value session rfl
        obtain ⟨_, between, _, ran⟩ := Program.exec_bind_eq_ok.1 ran
        refine keeps_scan ?_ ?_ ran value session rfl
        · show state.db.history = _
          rfl
        · intro row listed
          rw [List.mem_singleton.1 listed]
          exact recorded_of_snapshot closed (named ▸ known.named) rfl

omit [DateData] in
theorem sound_settle {Value : Type} {returned : Except PyException (Value × Session)} (sound : Sound store)
    (closed : Closed after) (keeps : Keeps store.state returned) : Sound (settle store (returned, after)) := by
  constructor
  · rw [settle.eq_def]
    cases returned <;> exact closed
  · intro row listed
    rcases history_settle listed with old | ⟨value, session, same, rows⟩
    · exact sound.recorded row old
    · obtain ⟨stored, added⟩ := keeps value session same
      rcases rows with old | made
      · exact sound.recorded row (stored ▸ old)
      · exact added row made

omit [CharData] [DateData] in
theorem disk_settle {Value : Type} (returned : Except PyException (Value × Session)) :
    (settle store (returned, after)).disk = after := by
  cases returned <;> rfl

/-- One call: what it changes stands at the directory of its key or below it, and below it where there is room. -/
theorem step_writes {call : Call} (sound : Sound store) (taken : step service query store call = some next) :
    Sound next ∧ ∀ path, Changed store next path → ∃ key, keyOf store.state call = some key ∧
      Above service.root (place service.root key) ∧ place service.root key <+: path ∧
      (Guard service store call → Above (place service.root key) path) := by
  cases call with
  | propose row =>
    cases taken
    exact ⟨⟨sound.closed, sound.recorded⟩, fun path changed => absurd rfl changed⟩
  | applyProposal id clock actor =>
    cases ran : (Service.applyProposal service clock actor store.state id).exec store.disk with
    | mk returned after =>
      rw [step, ran] at taken
      cases taken
      obtain ⟨effect, keeps⟩ := applyProposal_writes sound.closed ran
      rcases effect with rfl | ⟨proposal, plan, stored, verdict, wrote⟩
      · refine ⟨sound_settle sound sound.closed keeps, fun path changed => ?_⟩
        rw [Changed, disk_settle] at changed
        exact absurd rfl changed
      · refine ⟨sound_settle sound wrote.closed keeps, fun path changed => ?_⟩
        rw [Changed, disk_settle] at changed
        have passes := review_ready verdict
        obtain ⟨_, own, some'⟩ := Stale.packageOf_ok passes.package
        have normal : normalizeSkillKey plan.skillKey = plan.skillKey := by
          rw [← own]
          exact Lookup.normalizeSkillKey_normalizeSkillKey _
        have dir := passes.dir
        rw [safeSkillDir_eq, normal, Except.ok.injEq] at dir
        have lawful := fun file member => @Applied.lawful_of_linted _ _ service plan.files passes.linted file member
        refine ⟨plan.skillKey, ?_, above_place normal some' _, ?_, fun guard => ?_⟩
        · rw [keyOf, stored, Option.map_some, own]
        · rw [dir]
          exact wrote.below lawful changed
        · rw [dir]
          exact wrote.inside lawful (guard proposal plan stored verdict) changed
  | rollback skillKey clock actor =>
    cases ran : (Service.rollback service clock actor query store.state skillKey).exec store.disk with
    | mk returned after =>
      rw [step, ran] at taken
      cases taken
      obtain ⟨effect, keeps⟩ := rollback_writes sound.closed sound.recorded ran
      rcases effect with rfl | ⟨some', before, stands, wrote⟩
      · refine ⟨sound_settle sound sound.closed keeps, fun path changed => ?_⟩
        rw [Changed, disk_settle] at changed
        exact absurd rfl changed
      · refine ⟨sound_settle sound wrote.closed keeps, fun path changed => ?_⟩
        rw [Changed, disk_settle] at changed
        have roomy : Roomy (place service.root (normalizeSkillKey skillKey)) store.disk before :=
          .inr (.inr fun first listed => (stands first (List.mem_of_head? listed)).2)
        have lawful := fun file member => (stands file member).1
        exact ⟨_, rfl, above_place (Lookup.normalizeSkillKey_normalizeSkillKey skillKey) some' _,
          wrote.below lawful changed, fun _ => wrote.inside lawful roomy changed⟩

/-- A call of a run, in the state that it meets, creates or modifies the file at a path. -/
def Writes (service : SkillService) (query : LatestQuery) (start : Store) (calls : List Call) (store : Store)
    (call : Call) (path : Path) : Prop :=
  ∃ front back next, calls = front ++ call :: back ∧ Runs.run (step service query) start front = some store ∧
    step service query store call = some next ∧ Changed store next path

omit [DateData] in
/-- The path stands below the directory of the key of the call, which stands below the root. -/
def Contained (service : SkillService) (state : State) (call : Call) (path : Path) : Prop :=
  ∃ key, keyOf state call = some key ∧ Above service.root (place service.root key) ∧ Above (place service.root key) path

/-- In a run from an empty history every file that is written stands at the directory of the skill or below it; when each
application has room, it stands below. -/
theorem writes_contained (service : SkillService) (query : LatestQuery) {start : Store} (closed : Closed start.disk)
    (fresh : start.state.db.history = []) (calls : List Call) :
    (∀ store call path, Writes service query start calls store call path → ∃ key, keyOf store.state call = some key ∧
      Above service.root (place service.root key) ∧ place service.root key <+: path) ∧
    (Runs.Along (step service query) (Guard service) start calls →
      ∀ store call path, Writes service query start calls store call path → Contained service store.state call path) := by
  have first : Sound start := ⟨closed, fun row listed => by rw [fresh] at listed; cases listed⟩
  have sound : ∀ {front store}, Runs.run (step service query) start front = some store → Sound store := fun ran =>
    Runs.run_invariant Sound (fun _ _ _ holds taken => (step_writes holds taken).1) first ran
  constructor
  · intro store call path ⟨front, back, next, _, ran, taken, changed⟩
    obtain ⟨key, own, strict, inside, _⟩ := (step_writes (sound ran) taken).2 path changed
    exact ⟨key, own, strict, inside⟩
  · intro along store call path ⟨front, back, next, split, ran, taken, changed⟩
    obtain ⟨key, own, strict, _, inside⟩ := (step_writes (sound ran) taken).2 path changed
    exact ⟨key, own, strict, inside (Runs.guard_of_along (split ▸ along) ran)⟩

end Calls

section Demo
attribute [local instance] CharData.ascii DateData.undated

private def applyThenUndo : List Call :=
  [.applyProposal 0 ⟨0, 0⟩ "admin", .rollback "research" ⟨1, 1⟩ "admin"]

private def extending : Dict := [("SKILL.md", .str "# Research\n"), ("extra.md", .str "more\n")]

theorem writes_contained_extending : Closed researchTree ∧ ∀ store call path,
    Writes plainSkills .first ⟨researchTree, proposing extending⟩ applyThenUndo store call path →
      Contained plainSkills store.state call path := by
  refine ⟨by decide +kernel, (writes_contained plainSkills .first (by decide +kernel) rfl applyThenUndo).2 ?_⟩
  refine ⟨fun proposal plan stored verdict => .inr (.inr ?_), fun next _ => ⟨trivial, fun _ _ => trivial⟩⟩
  cases stored
  have package : packageOf [("skill_key", .str "research"), ("files", .obj extending)] =
      .ok (plan.skillKey, plan.files) := (review_ready verdict).package
  have own : packageOf [("skill_key", .str "research"), ("files", .obj extending)] =
      .ok ("research", FileMap.ofItems extending) := by
    have key : payloadKey [("skill_key", .str "research"), ("files", .obj extending)] = "research" := by decide +kernel
    have some' : "research" ≠ "" := by decide
    rw [packageOf, key]
    exact if_pos some'
  rw [own] at package
  rw [← (Prod.mk.inj (Except.ok.inj package)).2]
  decide +kernel

/-- A tree without skills. -/
private def bare : Disk := setNode ∅ [skillsRoot] .directory

/-- A package whose first path is empty. -/
private def nameless : Dict := [("", .str "text\n"), ("SKILL.md", .str "# Research\n")]

/-- The file is created in the place of the directory. -/
theorem writes_in_place : ∃ next,
    step plainSkills .first ⟨bare, proposing nameless⟩ (.applyProposal 0 ⟨0, 0⟩ "admin") = some next ∧
      contentAt bare [skillsRoot, research] = none ∧
      contentAt next.disk [skillsRoot, research] = some (some "text\n") ∧
      keyOf (proposing nameless) (.applyProposal 0 ⟨0, 0⟩ "admin") = some "research" ∧
      place plainSkills.root "research" = [skillsRoot, research] ∧
      ¬Contained plainSkills (proposing nameless) (.applyProposal 0 ⟨0, 0⟩ "admin") [skillsRoot, research] := by
  have key : keyOf (proposing nameless) (.applyProposal 0 ⟨0, 0⟩ "admin") = some "research" := by decide +kernel
  have dir : place plainSkills.root "research" = [skillsRoot, research] := by decide +kernel
  refine ⟨_, rfl, by decide +kernel, by decide +kernel, key, dir, ?_⟩
  intro ⟨other, own, _, inside⟩
  rw [key, Option.some.injEq] at own
  rw [← own, dir] at inside
  exact inside.2 rfl

end Demo

end SoulClaw.Skills.Containment
