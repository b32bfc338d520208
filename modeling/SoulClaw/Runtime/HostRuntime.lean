import SoulClaw.Skills.Service

/-! `HostTaskRuntime.execute`: a script of the workspace, or a snippet that is put there, is run by a process. The
answers of the operating system are parameters, and each of its calls may raise. -/

namespace SoulClaw.Runtime.HostRuntime
open Foundation Files Wiki.Storage
open Skills.Service (absolute)

inductive HostException where
  | policyViolation (message : String)
  | fileNotFound (message : String)
  | timeout (message : String)
  | other (typeName message : String)
  deriving DecidableEq

namespace HostException

def typeName : HostException → String
  | policyViolation _ => "PolicyViolation"
  | fileNotFound _ => "FileNotFoundError"
  | timeout _ => "TimeoutError"
  | other typeName _ => typeName

def message : HostException → String
  | policyViolation message => message
  | fileNotFound message => message
  | timeout message => message
  | other _ message => message

end HostException

structure SandboxPolicy where
  timeoutSeconds : Int := 30
  maxOutputBytes : Int := 64 * 1024

namespace SandboxPolicy

def globalTimeoutCeilingSeconds : Int := 300

def globalOutputCeilingBytes : Int := 256 * 1024

def effectiveTimeoutSeconds (policy : SandboxPolicy) : Int :=
  max 1 (min globalTimeoutCeilingSeconds policy.timeoutSeconds)

def effectiveMaxOutputBytes (policy : SandboxPolicy) : Int :=
  max 1024 (min globalOutputCeilingBytes policy.maxOutputBytes)

end SandboxPolicy

structure RuntimeResult where
  ok : Bool := false
  stdout : String := ""
  stderr : String := ""
  error : Option String := none
  exitCode : Option Int := none
  durationMs : Nat := 0
  truncatedStdout : Bool := false
  truncatedStderr : Bool := false
  extra : Dict := []

/-- The arguments of `execute`. -/
structure Call where
  kind : String
  payload : String
  policy : Option SandboxPolicy := none
  env : Option (List (String × String)) := none
  cwd : Option String := none
  labels : Option (List (String × String)) := none

abbrev Environ := AList fun _ : String => String

/-- What a process is started with. -/
structure Invocation where
  argv : List String
  env : Environ
  cwd : Path
  timeout : Int

/-- What becomes of a process, and of the calls about it. -/
structure Process where
  /-- Why there is no process. -/
  refused : Option HostException := none
  /-- What it makes of the files until they are cleaned up. -/
  leaves : Disk → Disk
  /-- The output, with the exit code. -/
  communicate : Except HostException (List UInt8 × List UInt8 × Int)
  /-- The wait after `terminate`. -/
  terminated : Except HostException Unit
  /-- The wait after `kill`. -/
  killed : Except HostException Unit
  elapsed : Nat

/-- What `mkstemp` puts between the prefix and the suffix. -/
abbrev Drawn := { text : String // '/' ∉ text.toList }

/-- The answers of the operating system, for the files as they are. -/
structure Host where
  /-- `path.resolve()` of an absolute path, of which parts may be `..`. -/
  resolve : Disk → Path → Except HostException Path
  present : Disk → Path → Except HostException Bool
  isFile : Disk → Path → Except HostException Bool
  isDir : Disk → Path → Except HostException Bool
  draw : Disk → Except HostException Drawn
  /-- What writing a text to the new file raises. -/
  write : Disk → String → Option HostException
  /-- What removing a file raises. -/
  unlink : Disk → Path → Option HostException
  start : Invocation → Disk → Process
  environ : Environ
  executable : String
  /-- `shutil.which("sh")`. -/
  shell : Option String
  /-- `data.decode("utf-8", errors="replace")`. -/
  decode : List UInt8 → String

structure HostTaskRuntime where
  host : Host
  workspaceDir : Path

def allowedScriptSuffixes : List String := [".py", ".sh"]

/-- `path.suffix`, from the last dot on, where it is neither the first character nor the last one. -/
def suffix (path : Path) : String :=
  let name := (path.getLast?.map fun name => name.val.toList).getD []
  let front := name.reverse.dropWhile (· ≠ '.')
  let back := (name.reverse.takeWhile (· ≠ '.')).reverse
  if front.length ≤ 1 ∨ back = [] then "" else String.ofList ('.' :: back)

/-- The name of the file of a snippet. -/
def snippetName (drawn : Drawn) : Name where
  val := "_soulclaw_snippet_" ++ drawn.val ++ ".py"
  property := by
    have front : '/' ∉ "_soulclaw_snippet_".toList := by decide +kernel
    have back : '/' ∉ ".py".toList := by decide +kernel
    constructor
    · intro empty
      have texts := congrArg String.toList empty
      rw [String.toList_append, String.toList_append] at texts
      exact absurd (List.append_eq_nil_iff.1 texts).2 (by decide +kernel)
    · rw [String.toList_append, String.toList_append, List.mem_append, List.mem_append]
      exact fun slash => slash.elim (fun early => early.elim front drawn.2) back

/-- `_truncate`. -/
def truncate (decode : List UInt8 → String) (data : List UInt8) (limit : Nat) : String × Bool :=
  if data = [] then ("", false)
  else if data.length ≤ limit then (decode data, false)
  else (decode (data.take limit) ++ "\n[...truncated " ++ toString (data.length - limit) ++ " bytes]", true)

section Paths
variable [CharData] (host : Host) (workspaceDir : Path) (disk : Disk)

/-- `check_path_under`. -/
def checkPathUnder (raw : String) : Except HostException Path :=
  if Text.strip raw = "" then .error (.policyViolation "path is empty")
  else
    let candidate := PurePath.parse (Text.strip raw)
    if candidate.absolute then .error (.policyViolation "path must be a workspace-relative path")
    else do
      let root ← host.resolve disk workspaceDir
      let target ← host.resolve disk (root ++ candidate.parts)
      if root <+: target then .ok target
      else .error (.policyViolation ("path " ++ Text.reprStr raw ++ " escapes workspace_dir"))

/-- `_resolve_cwd`. -/
def resolveCwd : Option String → Except HostException Path
  | none => .ok workspaceDir
  | some cwd => do
      let target ← checkPathUnder host workspaceDir disk cwd
      if !(← host.present disk target) then return workspaceDir
      if !(← host.isDir disk target) then return workspaceDir
      return target

/-- What the set-up comes to: a result, or the file that is run. -/
inductive Setup where
  | returned (result : RuntimeResult)
  | ready (target : Path) (cleanupPath : Option Path)

def failed (error : String) : RuntimeResult := { error := some error }

/-- The branch of a script, up to the handlers. -/
def scriptSetup (payload : String) : Except HostException Setup := do
  let target ← checkPathUnder host workspaceDir disk payload
  if !(← host.present disk target) then return .returned (failed ("script not found: " ++ payload))
  if !(← host.isFile disk target) then return .returned (failed ("not a regular file: " ++ payload))
  if Text.lower (suffix target) ∉ allowedScriptSuffixes then
    return .returned (failed ("script suffix " ++ Text.reprStr (suffix target) ++ " not in ('.py', '.sh')"))
  return .ready target none

/-- The handlers of the set-up. -/
def setupFailed : HostException → RuntimeResult
  | .policyViolation message => failed ("policy: " ++ message)
  | raised => failed ("setup: " ++ raised.typeName ++ ": " ++ raised.message)

/-- `_argv_for`. -/
def argvFor (target : Path) : Except HostException (List String) :=
  if Text.lower (suffix target) = ".py" then .ok [host.executable, absolute target]
  else if Text.lower (suffix target) = ".sh" then .ok [host.shell.getD "/bin/sh", absolute target]
  else .error (.other "ValueError" ("unsupported extension " ++ Text.reprStr (suffix target)))

end Paths

/-- `_merged_env`. -/
def mergedEnv (host : Host) (env : Option (List (String × String))) : Environ :=
  (env.getD []).foldl (fun merged item => merged.insert item.1 item.2) host.environ

/-- The result about a process that was started, or was not. -/
def Process.result (process : Process) (host : Host) (call : Call) (argv : List String) : RuntimeResult :=
  let policy := call.policy.getD {}
  let broken : HostException → RuntimeResult
    | .fileNotFound message => { error := some ("interpreter not found: " ++ message), durationMs := process.elapsed }
    | raised => { error := some (raised.typeName ++ ": " ++ raised.message), durationMs := process.elapsed }
  let timedOut : RuntimeResult :=
    { error := some ("timed out after " ++ toString policy.effectiveTimeoutSeconds ++ "s"), durationMs := process.elapsed }
  match process.refused with
  | some raised => broken raised
  | none =>
      match process.communicate with
      | .ok (stdoutBytes, stderrBytes, exitCode) =>
          let limit := policy.effectiveMaxOutputBytes.toNat
          let (stdout, truncatedStdout) := truncate host.decode stdoutBytes limit
          let (stderr, truncatedStderr) := truncate host.decode stderrBytes limit
          { ok := exitCode = 0, stdout, stderr, truncatedStdout, truncatedStderr
            error := if exitCode = 0 then none else some ("exit=" ++ toString exitCode)
            exitCode := some exitCode
            durationMs := process.elapsed
            extra := [("argv", .arr (argv.map Json.str)),
              ("labels", .obj ((call.labels.getD []).map fun item => (item.1, .str item.2)))] }
      | .error (.timeout _) =>
          match process.terminated with
          | .ok () => timedOut
          | .error (.timeout _) =>
              match process.killed with
              | .ok () => timedOut
              | .error raised => broken raised
          | .error raised => broken raised
      | .error raised => broken raised

/-- The files when the process is done with. -/
def Process.after (process : Process) (disk : Disk) : Disk := if process.refused.isSome then disk else process.leaves disk

/-- The clean-up, which logs what goes wrong. -/
def cleanUp (host : Host) (cleanupPath : Option Path) (disk : Disk) : Disk :=
  match cleanupPath with
  | none => disk
  | some path => if (host.unlink disk path).isSome then disk else disk.erase path

namespace HostTaskRuntime
variable [CharData] (runtime : HostTaskRuntime) (call : Call) (disk : Disk)

def snippetPath (drawn : Drawn) : Path := runtime.workspaceDir ++ [snippetName drawn]

/-- The files with the new file, which is empty until the text is written. -/
def withSnippet (drawn : Drawn) (text : String) : Disk := setNode disk (runtime.snippetPath drawn) (.file (some text))

/-- The first `try` of `execute`. -/
def setup : Setup × Disk :=
  if call.kind = "script" then
    match scriptSetup runtime.host runtime.workspaceDir disk call.payload with
    | .ok result => (result, disk)
    | .error raised => (.returned (setupFailed raised), disk)
  else if call.kind = "snippet" then
    match runtime.host.draw disk with
    | .error raised => (.returned (setupFailed raised), disk)
    | .ok drawn =>
        match runtime.host.write disk call.payload with
        | some raised => (.returned (setupFailed raised), runtime.withSnippet disk drawn "")
        | none =>
            (.ready (runtime.snippetPath drawn) (some (runtime.snippetPath drawn)), runtime.withSnippet disk drawn call.payload)
  else (.returned (failed ("unsupported kind: " ++ Text.reprStr call.kind)), disk)

/-- The process for a file that is run. -/
def started (argv : List String) (cwd : Path) : Process :=
  runtime.host.start { argv, cwd, env := mergedEnv runtime.host call.env
                       timeout := (call.policy.getD {}).effectiveTimeoutSeconds } disk

/-- `execute`. -/
def execute : Except HostException RuntimeResult × Disk :=
  match runtime.setup call disk with
  | (.returned result, disk) => (.ok result, disk)
  | (.ready target cleanupPath, disk) =>
      -- No handler and no clean-up covers what stands between the two `try` blocks.
      match argvFor runtime.host target with
      | .error raised => (.error raised, disk)
      | .ok argv =>
          match resolveCwd runtime.host runtime.workspaceDir disk call.cwd with
          | .error raised => (.error raised, disk)
          | .ok cwd =>
              let process := runtime.started call disk argv cwd
              (.ok (process.result runtime.host call argv), cleanUp runtime.host cleanupPath (process.after disk))

end HostTaskRuntime

end SoulClaw.Runtime.HostRuntime
