import SoulClaw.Runtime.HostRuntime

/-! When a call of `execute` returns, and leaves no file of its own behind. -/

namespace SoulClaw.Runtime.Snippets
open Foundation Files Wiki.Storage HostRuntime

section Conditions
variable [CharData] (host : Host) (workspaceDir : Path) (disk : Disk)

/-- The text is a relative path to a place below the workspace. -/
def Names (raw : String) (target : Path) : Prop :=
  Text.strip raw ≠ "" ∧ (PurePath.parse (Text.strip raw)).absolute = false ∧
    ∃ root, host.resolve disk workspaceDir = .ok root ∧
      host.resolve disk (root ++ (PurePath.parse (Text.strip raw)).parts) = .ok target ∧ root <+: target

/-- Where the process is started. A directory that does not exist is passed over, and a text that names no place is not. -/
inductive StartsIn : Option String → Path → Prop
  | workspace : StartsIn none workspaceDir
  | missing {raw : String} {target : Path} (names : Names host workspaceDir disk raw target)
      (gone : host.present disk target = .ok false) : StartsIn (some raw) workspaceDir
  | notDirectory {raw : String} {target : Path} (names : Names host workspaceDir disk raw target)
      (there : host.present disk target = .ok true) (other : host.isDir disk target = .ok false) :
      StartsIn (some raw) workspaceDir
  | directory {raw : String} {target : Path} (names : Names host workspaceDir disk raw target)
      (there : host.present disk target = .ok true) (directory : host.isDir disk target = .ok true) :
      StartsIn (some raw) target

/-- The text names a script that may be run. -/
structure Runnable (payload : String) (target : Path) : Prop where
  names : Names host workspaceDir disk payload target
  there : host.present disk target = .ok true
  file : host.isFile disk target = .ok true
  allowed : Text.lower (suffix target) ∈ allowedScriptSuffixes

variable {host workspaceDir disk}

theorem checkPathUnder_eq_ok {raw : String} {target : Path} :
    checkPathUnder host workspaceDir disk raw = .ok target ↔ Names host workspaceDir disk raw target := by
  rw [checkPathUnder, Names]
  by_cases empty : Text.strip raw = ""
  · rw [if_pos empty]
    exact ⟨fun ran => (by cases ran), fun named => absurd empty named.1⟩
  · rw [if_neg empty]
    dsimp only
    cases absolute : (PurePath.parse (Text.strip raw)).absolute with
    | true => exact ⟨fun ran => (by cases ran), fun named => Bool.noConfusion named.2.1⟩
    | false =>
      rw [if_neg Bool.false_ne_true]
      constructor
      · intro ran
        obtain ⟨root, resolved, ran⟩ := bind_eq_ok.1 ran
        obtain ⟨place, resolved', ran⟩ := bind_eq_ok.1 ran
        by_cases inside : root <+: place
        · rw [if_pos inside, Except.ok.injEq] at ran
          exact ⟨empty, rfl, root, resolved, ran ▸ resolved', ran ▸ inside⟩
        · rw [if_neg inside] at ran
          cases ran
      · rintro ⟨_, _, root, resolved, resolved', inside⟩
        rw [resolved]
        show (host.resolve disk _ >>= _) = _
        rw [resolved']
        exact if_pos inside

theorem resolveCwd_eq_ok {cwd : Option String} {dir : Path} :
    resolveCwd host workspaceDir disk cwd = .ok dir ↔ StartsIn host workspaceDir disk cwd dir := by
  cases cwd with
  | none =>
    constructor
    · intro ran
      cases ran
      exact .workspace
    · rintro ⟨⟩
      rfl
  | some raw =>
    rw [resolveCwd]
    constructor
    · intro ran
      obtain ⟨target, named, ran⟩ := bind_eq_ok.1 ran
      have names := checkPathUnder_eq_ok.1 named
      obtain ⟨there, asked, ran⟩ := bind_eq_ok.1 ran
      cases there with
      | false =>
        cases ran
        exact .missing names asked
      | true =>
        obtain ⟨directory, asked', ran⟩ := bind_eq_ok.1 ran
        cases directory with
        | false =>
          cases ran
          exact .notDirectory names asked asked'
        | true =>
          cases ran
          exact .directory names asked asked'
    · intro starts
      cases starts with
      | missing names gone =>
        rw [checkPathUnder_eq_ok.2 names]
        show (host.present disk _ >>= _) = _
        rw [gone]
        rfl
      | notDirectory names there other =>
        rw [checkPathUnder_eq_ok.2 names]
        show (host.present disk _ >>= _) = _
        rw [there]
        show (host.isDir disk _ >>= _) = _
        rw [other]
        rfl
      | directory names there directory =>
        rw [checkPathUnder_eq_ok.2 names]
        show (host.present disk _ >>= _) = _
        rw [there]
        show (host.isDir disk _ >>= _) = _
        rw [directory]
        rfl

/-- The scripts that pass the set-up. -/
theorem scriptSetup_ready {payload : String} {target : Path} {cleanupPath : Option Path} :
    scriptSetup host workspaceDir disk payload = .ok (.ready target cleanupPath) ↔
      Runnable host workspaceDir disk payload target ∧ cleanupPath = none := by
  rw [scriptSetup]
  constructor
  · intro ran
    obtain ⟨place, named, ran⟩ := bind_eq_ok.1 ran
    have names := checkPathUnder_eq_ok.1 named
    obtain ⟨there, asked, ran⟩ := bind_eq_ok.1 ran
    cases there with
    | false => cases ran
    | true =>
      rw [Bool.not_true, if_neg Bool.false_ne_true] at ran
      obtain ⟨file, asked', ran⟩ := bind_eq_ok.1 ran
      cases file with
      | false => cases ran
      | true =>
        rw [Bool.not_true, if_neg Bool.false_ne_true] at ran
        by_cases allowed : Text.lower (suffix place) ∈ allowedScriptSuffixes
        · rw [if_neg (not_not.2 allowed)] at ran
          cases ran
          exact ⟨⟨names, asked, asked', allowed⟩, rfl⟩
        · rw [if_pos allowed] at ran
          cases ran
  · rintro ⟨⟨names, there, file, allowed⟩, rfl⟩
    refine bind_eq_ok.2 ⟨target, checkPathUnder_eq_ok.2 names, ?_⟩
    refine bind_eq_ok.2 ⟨true, there, ?_⟩
    rw [Bool.not_true, if_neg Bool.false_ne_true]
    refine bind_eq_ok.2 ⟨true, file, ?_⟩
    rw [Bool.not_true, if_neg Bool.false_ne_true, if_neg (not_not.2 allowed)]
    rfl

theorem argvFor_returns {target : Path} (allowed : Text.lower (suffix target) ∈ allowedScriptSuffixes) :
    ∃ argv, argvFor host target = .ok argv := by
  rw [allowedScriptSuffixes, List.mem_cons, List.mem_singleton] at allowed
  rw [argvFor]
  by_cases python : Text.lower (suffix target) = ".py"
  · rw [if_pos python]
    exact ⟨_, rfl⟩
  · rw [if_neg python, if_pos (allowed.resolve_left python)]
    exact ⟨_, rfl⟩

end Conditions

/-! What a call needs. -/

section Orderly
variable [CharData] (runtime : HostTaskRuntime) (call : Call) (disk : Disk)

/-- The process of a snippet, and the files that it leaves. -/
def afterSnippet (drawn : Drawn) (dir : Path) : Disk :=
  let written := runtime.withSnippet disk drawn call.payload
  (runtime.started call written [runtime.host.executable, Skills.Service.absolute (runtime.snippetPath drawn)] dir).after written

/-- The snippet is written, its process has a place to start in, and its file can be removed or is gone by then. -/
def Removed (drawn : Drawn) : Prop :=
  runtime.host.write disk call.payload = none ∧
    ∃ dir, StartsIn runtime.host runtime.workspaceDir (runtime.withSnippet disk drawn call.payload) call.cwd dir ∧
      (runtime.host.unlink (afterSnippet runtime call disk drawn dir) (runtime.snippetPath drawn) = none ∨
        contentAt (afterSnippet runtime call disk drawn dir) (runtime.snippetPath drawn) = none)

/-- What a call that gets past the set-up needs. -/
structure Orderly : Prop where
  script : call.kind = "script" → ∀ target, Runnable runtime.host runtime.workspaceDir disk call.payload target →
    ∃ dir, StartsIn runtime.host runtime.workspaceDir disk call.cwd dir
  snippet : call.kind = "snippet" → ∀ drawn, runtime.host.draw disk = .ok drawn → Removed runtime call disk drawn

/-- No file of a snippet that the call has made is there. -/
def Swept (last : Disk) : Prop :=
  call.kind = "snippet" → ∀ drawn, runtime.host.draw disk = .ok drawn → contentAt last (runtime.snippetPath drawn) = none

end Orderly

/-! Calls. -/

section Calls
variable [CharData] {runtime : HostTaskRuntime} {call : Call} {disk between : Disk} {drawn : Drawn}

omit [CharData] in
theorem suffix_snippetPath (runtime : HostTaskRuntime) (drawn : Drawn) : suffix (runtime.snippetPath drawn) = ".py" := by
  have last : (runtime.snippetPath drawn).getLast? = some (snippetName drawn) := List.getLast?_concat ..
  have spelled : (snippetName drawn).val.toList = ("_soulclaw_snippet_" ++ drawn.val).toList ++ ".py".toList :=
    String.toList_append ..
  have tail : ".py".toList = ['.', 'p', 'y'] := by decide +kernel
  have front : 0 < ("_soulclaw_snippet_" ++ drawn.val).toList.length := by
    rw [String.toList_append, List.length_append]
    exact Nat.add_pos_left (by decide +kernel) _
  rw [suffix, last, Option.map_some, Option.getD_some, spelled, tail]
  generalize ("_soulclaw_snippet_" ++ drawn.val).toList = text at front ⊢
  simp [Nat.not_le.2 front]

theorem argvFor_snippetPath (runtime : HostTaskRuntime) (drawn : Drawn) : argvFor runtime.host (runtime.snippetPath drawn) =
    .ok [runtime.host.executable, Skills.Service.absolute (runtime.snippetPath drawn)] := by
  have lower : Text.lower ".py" = ".py" := by
    rw [Text.lower_of_ascii (by decide +kernel)]
    decide +kernel
  rw [argvFor, suffix_snippetPath, lower, if_pos rfl]

theorem execute_of_returned {result : RuntimeResult} (passed : runtime.setup call disk = (.returned result, between)) :
    runtime.execute call disk = (.ok result, between) := by
  rw [HostTaskRuntime.execute, passed]

section Ready
variable {target : Path} {cleanupPath : Option Path} {argv : List String}
  (passed : runtime.setup call disk = (.ready target cleanupPath, between)) (runs : argvFor runtime.host target = .ok argv)
include passed runs

theorem execute_of_starts {dir : Path} (starts : StartsIn runtime.host runtime.workspaceDir between call.cwd dir) :
    runtime.execute call disk = (.ok ((runtime.started call between argv dir).result runtime.host call argv),
      cleanUp runtime.host cleanupPath ((runtime.started call between argv dir).after between)) := by
  rw [HostTaskRuntime.execute, passed]
  dsimp only
  rw [runs]
  dsimp only
  rw [resolveCwd_eq_ok.2 starts]

theorem execute_raises (nowhere : ∀ dir, ¬StartsIn runtime.host runtime.workspaceDir between call.cwd dir) :
    ∃ raised, runtime.execute call disk = (.error raised, between) := by
  rw [HostTaskRuntime.execute, passed]
  dsimp only
  rw [runs]
  dsimp only
  cases resolved : resolveCwd runtime.host runtime.workspaceDir between call.cwd with
  | error raised => exact ⟨raised, rfl⟩
  | ok dir => exact absurd (resolveCwd_eq_ok.1 resolved) (nowhere dir)

end Ready

/-! The two kinds. -/

theorem script_contained_iff (script : call.kind = "script") : (∃ result last, runtime.execute call disk = (.ok result, last)) ↔
    ∀ target, Runnable runtime.host runtime.workspaceDir disk call.payload target →
      ∃ dir, StartsIn runtime.host runtime.workspaceDir disk call.cwd dir := by
  have passes : ∀ setup, scriptSetup runtime.host runtime.workspaceDir disk call.payload = .ok setup →
      runtime.setup call disk = (setup, disk) := by
    intro setup ran
    rw [HostTaskRuntime.setup, if_pos script, ran]
  have returns : ∀ result, runtime.setup call disk = (.returned result, disk) →
      (∀ target, ¬Runnable runtime.host runtime.workspaceDir disk call.payload target) →
      ((∃ result last, runtime.execute call disk = (.ok result, last)) ↔
        ∀ target, Runnable runtime.host runtime.workspaceDir disk call.payload target →
          ∃ dir, StartsIn runtime.host runtime.workspaceDir disk call.cwd dir) := by
    intro result passed none
    exact iff_of_true ⟨result, disk, execute_of_returned passed⟩ fun target runnable => absurd runnable (none target)
  cases ran : scriptSetup runtime.host runtime.workspaceDir disk call.payload with
  | error raised =>
    apply returns (setupFailed raised)
    · rw [HostTaskRuntime.setup, if_pos script, ran]
    · intro target runnable
      rw [scriptSetup_ready.2 ⟨runnable, rfl⟩] at ran
      cases ran
  | ok setup =>
    cases setup with
    | returned result =>
      apply returns result (passes _ ran)
      intro target runnable
      rw [scriptSetup_ready.2 ⟨runnable, rfl⟩] at ran
      cases ran
    | ready target cleanupPath =>
      obtain ⟨runnable, rfl⟩ := scriptSetup_ready.1 ran
      obtain ⟨argv, runs⟩ := @argvFor_returns _ runtime.host _ runnable.allowed
      constructor
      · rintro ⟨result, last, returned⟩ _ _
        by_contra nowhere
        obtain ⟨raised, failed⟩ := execute_raises (passes _ ran) runs (not_exists.1 nowhere)
        rw [returned] at failed
        cases failed
      · intro starts
        obtain ⟨dir, starts⟩ := starts target runnable
        exact ⟨_, _, execute_of_starts (passes _ ran) runs starts⟩

omit [CharData] in
/-- What is at the place of a snippet once it is cleaned up. -/
theorem contentAt_cleanUp (host : Host) {path : Path} (below : path ≠ []) (disk : Disk) :
    contentAt (cleanUp host (some path) disk) path = none ↔ host.unlink disk path = none ∨ contentAt disk path = none := by
  rw [cleanUp]
  cases failed : host.unlink disk path with
  | none =>
    refine iff_of_true ?_ (.inl rfl)
    show contentAt (disk.erase path) path = none
    rw [contentAt, node_erase below, if_pos rfl]
  | some raised =>
    show contentAt disk path = none ↔ _
    simp only [reduceCtorEq, false_or]

theorem snippet_contained_iff (snippet : call.kind = "snippet") (made : runtime.host.draw disk = .ok drawn) :
    (∃ result last, runtime.execute call disk = (.ok result, last) ∧ contentAt last (runtime.snippetPath drawn) = none) ↔
      Removed runtime call disk drawn := by
  have below : runtime.snippetPath drawn ≠ [] := List.append_ne_nil_of_right_ne_nil _ (List.cons_ne_nil _ _)
  have other : call.kind ≠ "script" := by
    rw [snippet]
    decide +kernel
  rw [Removed]
  cases written : runtime.host.write disk call.payload with
  | some raised =>
    have passed : runtime.setup call disk = (.returned (setupFailed raised), runtime.withSnippet disk drawn "") := by
      rw [HostTaskRuntime.setup, if_neg other, if_pos snippet, made]
      dsimp only
      rw [written]
    constructor
    · rintro ⟨result, last, ran, gone⟩
      rw [execute_of_returned passed, Prod.mk.injEq] at ran
      rw [← ran.2, contentAt, HostTaskRuntime.withSnippet, node_setNode below, if_pos rfl] at gone
      cases gone
    · rintro ⟨nothing, _⟩
      cases nothing
  | none =>
    have passed : runtime.setup call disk = (.ready (runtime.snippetPath drawn) (some (runtime.snippetPath drawn)),
        runtime.withSnippet disk drawn call.payload) := by
      rw [HostTaskRuntime.setup, if_neg other, if_pos snippet, made]
      dsimp only
      rw [written]
    have runs := argvFor_snippetPath runtime drawn
    constructor
    · rintro ⟨result, last, ran, gone⟩
      refine ⟨rfl, ?_⟩
      by_cases somewhere : ∃ dir, StartsIn runtime.host runtime.workspaceDir (runtime.withSnippet disk drawn call.payload) call.cwd dir
      · obtain ⟨dir, starts⟩ := somewhere
        rw [execute_of_starts passed runs starts, Prod.mk.injEq] at ran
        rw [← ran.2, contentAt_cleanUp _ below] at gone
        exact ⟨dir, starts, gone⟩
      · obtain ⟨raised, failed⟩ := execute_raises passed runs (not_exists.1 somewhere)
        rw [ran] at failed
        cases failed
    · rintro ⟨_, dir, starts, removable⟩
      exact ⟨_, _, execute_of_starts passed runs starts, (contentAt_cleanUp _ below _).2 removable⟩

end Calls

/-- A call returns and leaves no snippet of its own behind, exactly when it is stopped by the set-up, or the process has a
place to start in and the file of the snippet can be written before and removed after it. -/
theorem execute_contained_iff [CharData] (runtime : HostTaskRuntime) (call : Call) (disk : Disk) :
    (∃ result last, runtime.execute call disk = (.ok result, last) ∧ Swept runtime call disk last) ↔
      Orderly runtime call disk := by
  by_cases script : call.kind = "script"
  · have other : call.kind ≠ "snippet" := by
      rw [script]
      decide +kernel
    constructor
    · rintro ⟨result, last, ran, _⟩
      exact ⟨fun _ => (script_contained_iff script).1 ⟨result, last, ran⟩, fun snippet => absurd snippet other⟩
    · intro orderly
      obtain ⟨result, last, ran⟩ := (script_contained_iff script).2 (orderly.script script)
      exact ⟨result, last, ran, fun snippet => absurd snippet other⟩
  by_cases snippet : call.kind = "snippet"
  · cases made : runtime.host.draw disk with
    | error raised =>
      have passed : runtime.setup call disk = (.returned (setupFailed raised), disk) := by
        rw [HostTaskRuntime.setup, if_neg script, if_pos snippet, made]
      refine iff_of_true ⟨_, _, execute_of_returned passed, fun _ drawn drew => ?_⟩ ⟨fun same => absurd same script, ?_⟩
      · rw [made] at drew
        cases drew
      · intro _ drawn drew
        rw [made] at drew
        cases drew
    | ok drawn =>
      have only : ∀ other, runtime.host.draw disk = .ok other → other = drawn := by
        intro other drew
        rw [made, Except.ok.injEq] at drew
        exact drew.symm
      constructor
      · rintro ⟨result, last, ran, swept⟩
        refine ⟨fun same => absurd same script, fun _ other drew => ?_⟩
        rw [only other drew]
        exact (snippet_contained_iff snippet made).1 ⟨result, last, ran, swept snippet drawn made⟩
      · intro orderly
        obtain ⟨result, last, ran, gone⟩ := (snippet_contained_iff snippet made).2 (orderly.snippet snippet drawn made)
        refine ⟨result, last, ran, fun _ other drew => ?_⟩
        rw [only other drew, gone]
  · have passed : runtime.setup call disk = (.returned (failed ("unsupported kind: " ++ Text.reprStr call.kind)), disk) := by
      rw [HostTaskRuntime.setup, if_neg script, if_neg snippet]
    exact iff_of_true ⟨_, _, execute_of_returned passed, fun same => absurd same snippet⟩
      ⟨fun same => absurd same script, fun same => absurd same snippet⟩

section Demo
attribute [local instance] CharData.ascii

/-- A system without links, in which nothing fails. -/
private def calm : Host where
  resolve _ path := .ok (locate [] path)
  present disk path := .ok (node disk path).isSome
  isFile disk path := .ok (contentAt disk path).isSome
  isDir disk path := .ok (node disk path = some .directory)
  draw _ := .ok ⟨"k3v9", by decide +kernel⟩
  write _ _ := none
  unlink _ _ := none
  start _ _ := { leaves := id, communicate := .ok ([], [], 0), terminated := .ok (), killed := .ok (), elapsed := 5 }
  environ := ∅
  executable := "/usr/bin/python3"
  shell := none
  decode _ := ""

private theorem workspace_named : "workspace" ≠ "" ∧ '/' ∉ "workspace".toList := by decide +kernel

private def runtime : HostTaskRuntime := ⟨calm, [⟨"workspace", workspace_named⟩]⟩

private def files : Disk := setNode ∅ runtime.workspaceDir .directory

/-- A snippet that is to be run in the directory with the empty name. -/
private def blank : Call where
  kind := "snippet"
  payload := "print(1)"
  cwd := some ""

private def left : Disk := (runtime.execute blank files).2

theorem blank_directory_raises : runtime.execute blank files = (.error (.policyViolation "path is empty"), left) ∧
    contentAt left (runtime.snippetPath ⟨"k3v9", by decide +kernel⟩) = some (some "print(1)") := by
  constructor
  · rfl
  · decide +kernel

end Demo

end SoulClaw.Runtime.Snippets
