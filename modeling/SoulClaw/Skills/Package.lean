import SoulClaw.Foundation.Keyed
import SoulClaw.Wiki.Storage

/-! A skill as a package of files: its key, its frontmatter, what `lint_files` finds in it, and the tests that its
frontmatter declares. -/

namespace SoulClaw.Skills.Package
open Foundation Wiki.Markdown Wiki.Storage

/-- A dictionary from paths to texts. -/
abbrev FileMap := Keyed (Prod.fst : String × String → String)

namespace FileMap

def get (files : FileMap) (path : String) : Option String := files.rows.lookup path

/-- `files[path] = content`. -/
def insert (files : FileMap) (path content : String) : FileMap :=
  files.upsert (path, content) ⟨fun row => (row.1, content), fun _ => rfl⟩

/-- `{str(path): str(content) for path, content in items}`. -/
def ofItems [CharData] (items : Dict) : FileMap :=
  items.foldl (fun files item => files.insert item.1 item.2.toStr) Keyed.empty

/-- `sorted(files)`, with the contents. -/
def sorted (files : FileMap) : List (String × String) := files.rows.insertionSort fun first second => first.1 ≤ second.1

def toDict (files : FileMap) : Dict := files.rows.map fun file => (file.1, .str file.2)

/-- The two dictionaries are equal. -/
def Same (first second : FileMap) : Prop := ∀ path, first.get path = second.get path

theorem get_eq_some {files : FileMap} {path content : String} : files.get path = some content ↔ (path, content) ∈ files.rows := by
  obtain ⟨rows, unique⟩ := files
  show rows.lookup path = some content ↔ (path, content) ∈ rows
  induction rows with
  | nil => simp
  | cons file rest ih =>
    obtain ⟨here, text⟩ := file
    rw [List.map_cons, List.nodup_cons] at unique
    rw [List.lookup_cons, List.mem_cons, Prod.mk.injEq]
    by_cases same : path = here
    · subst same
      have apart : (path, content) ∉ rest := fun member => unique.1 (List.mem_map.2 ⟨(path, content), member, rfl⟩)
      simp [apart, eq_comm]
    · have different : (path == here) = false := by simpa using same
      rw [different]
      simp only [same, false_and, false_or]
      exact ih unique.2

theorem texts_toDict [CharData] (files : FileMap) : files.toDict.map (fun file => (file.1, file.2.toStr)) = files.rows := by
  rw [toDict, List.map_map]
  exact List.map_id _

end FileMap

/-- Where the skills are, with the YAML library and the hash that the service uses; a text is hashed in UTF-8. -/
structure SkillService where
  root : Files.Path
  safeLoad : String → Except PyException Yaml
  safeDump : Mapping → String
  sha256 : String → String

/-- The text that `snapshot_checksum` gives to the hash. -/
def serialized (files : FileMap) : List Char :=
  files.sorted.flatMap fun file => file.1.toList ++ '\x00' :: (file.2.toList ++ ['\x00'])

/-- `snapshot_checksum`. -/
def SkillService.snapshotChecksum (service : SkillService) (files : FileMap) : String :=
  service.sha256 (String.ofList (serialized files))

section Texts
variable [CharData]

/-- `normalize_skill_key`. -/
def normalizeSkillKey (value : String) : String :=
  let value := ((Text.strip value).toList.map fun c => if c = '\\' then '/' else c).flatMap CharData.lower
  let value := subRuns CharData.isSpace '-' false value
  let value := subRuns (fun c => !keyChar c) '-' false value
  let value := subRuns (· = '-') '-' false value
  String.ofList (trim (fun c => c ∈ ['-', '/']) value)

/-- `TITLE_RE.search`: the group of the first match, from the start of a line on. -/
def titleFrom : (lineStart : Bool) → List Char → Option String
  | _, [] => none
  | lineStart, c :: rest =>
      let blank := rest.takeWhile CharData.isSpace
      let text := rest.dropWhile CharData.isSpace
      if lineStart && c = '#' && blank ≠ [] then
        if text ≠ [] then some (String.ofList (text.takeWhile (· ≠ '\n')))
        -- The white space up to the end of the text is left for the group where it holds more than line breaks.
        else if blank.tail.any (· ≠ '\n') then some " "
        else titleFrom (c = '\n') rest
      else titleFrom (c = '\n') rest

/-- `skill_title`. -/
def skillTitle (body default : String) : String :=
  match titleFrom true body.toList with
  | some title => Text.strip title
  | none => default

/-- `parse_skill_markdown`. -/
def SkillService.parseSkillMarkdown (service : SkillService) (text : String) : Except PyException (Mapping × String) :=
  match matchFrontmatter text with
  | none => .ok ([], text)
  | some (yaml, body) =>
      match service.safeLoad yaml with
      | .error raised => .error raised
      | .ok loaded =>
          match loaded.or (.map []) with
          | .map metadata => .ok (metadata, body)
          | _ => .error ⟨.valueError, "skill frontmatter must be a mapping"⟩

end Texts

/-! Linting. -/

/-- A part of a pattern: some text, or `\s+`. No text begins with white space. -/
inductive Piece where
  | text (literal : String)
  | spaces

def Piece.source : Piece → String
  | .text literal => literal
  | .spaces => "\\s+"

/-- `FORBIDDEN_PATTERNS`, where a dot of a text is a dot. -/
def forbiddenPatterns : List (List Piece) :=
  [[.text "rm", .spaces, .text "-rf", .spaces, .text "/"],
    [.text "git", .spaces, .text "reset", .spaces, .text "--hard"],
    [.text "git", .spaces, .text "checkout", .spaces, .text "--", .spaces, .text "/"],
    [.text "chmod", .spaces, .text "-R", .spaces, .text "777", .spaces, .text "/"],
    [.text "mkfs."]]

/-- The pattern as it is written, where a dot is escaped. -/
def patternSource (pattern : List Piece) : String :=
  String.ofList ((pattern.flatMap fun piece => piece.source.toList).flatMap fun c => if c = '.' then ['\\', c] else [c])

def maxSkillFiles : Nat := 12

def maxSkillFileBytes : Nat := 64 * 1024

def maxSkillTotalBytes : Nat := 256 * 1024

/-- `ALLOWED_TEST_KINDS`, sorted. -/
def allowedTestKinds : List String := ["golden_prompt", "lint", "mock_tool", "regression"]

structure SkillLintResult where
  errors : List String
  warnings : List String
  tests : List Mapping

def SkillLintResult.ok (result : SkillLintResult) : Bool := result.errors.isEmpty

/-- `{**fields, key: value}`. -/
def setField : Mapping → String → Yaml → Mapping
  | [], key, value => [(.str key, value)]
  | (.str known, old) :: rest, key, value =>
      if known = key then (.str known, value) :: rest else (.str known, old) :: setField rest key value
  | field :: rest, key, value => field :: setField rest key value

/-- The fields whose keys are no names of tests. -/
def withoutTests (metadata : Mapping) : Mapping :=
  metadata.filter fun field => match field.1 with
    | .str key => key ∉ ["test_cases", "tests"]
    | _ => true

/-- `metadata.get("test_cases") or metadata.get("tests") or []`. -/
def declaredTests (metadata : Mapping) : Yaml := (metadata.get "test_cases").or ((metadata.get "tests").or (.seq []))

/-- `metadata.get("required_tools") or metadata.get("tools") or []`, where a text is a list of one. -/
def toolsOf (fields : Mapping) : Yaml :=
  match (fields.get "required_tools").or ((fields.get "tools").or (.seq [])) with
  | .str tool => .seq [.str tool]
  | other => other

def caseName (index : Nat) : String := "case-" ++ toString (index + 1)

section Lint
variable [CharData]

/-- The pattern matches at the start of the text. -/
def matchesHere : List Piece → List Char → Bool
  | [], _ => true
  | .text literal :: rest, text => literal.toList.isPrefixOf text && matchesHere rest (text.drop literal.length)
  | .spaces :: rest, text =>
      !(text.takeWhile CharData.isSpace).isEmpty && matchesHere rest (text.dropWhile CharData.isSpace)

/-- `re.search(pattern, text)`. -/
def found (pattern : List Piece) (text : String) : Bool := text.toList.tails.any (matchesHere pattern)

/-- What is wrong with the place, the size and the content of a file. -/
def fileErrors (path content scanned : String) : List String :=
  let normalized := PurePath.parse path
  (if normalized.absolute ∨ ".." ∈ normalized.parts.map Subtype.val then ["unsafe file path: " ++ path] else []) ++
    (if normalized.parts.any fun part => part.val.toList.head? = some '.' then ["hidden skill file path is not allowed: " ++ path]
      else []) ++
    (if maxSkillFileBytes < content.utf8ByteSize then ["skill file too large: " ++ path] else []) ++
    ((forbiddenPatterns.filter fun pattern => found pattern scanned).map fun pattern =>
      "forbidden unsafe pattern `" ++ patternSource pattern ++ "` in " ++ path)

variable [DateData]

/-- A declared test, with its kind and its name. -/
def normalizedTest (index : Nat) (test : Yaml) : String × Mapping :=
  let spec := match test with
    | .map fields => fields
    | other => [(.str "name", .str (caseName index)), (.str "input", other)]
  let kind := ((spec.get "kind").or
    (.str (if (spec.get "input").truthy || (spec.get "expected").truthy then "golden_prompt" else "lint"))).toStr
  let name := ((spec.get "name").or (.str (caseName index))).toStr
  (kind, setField (setField spec "kind" (.str kind)) "name" (.str name))

variable (service : SkillService)

/-- What `lint_files` takes from SKILL.md: errors, warnings, the metadata and the body. -/
def lintManifest (files : FileMap) : List String × List String × Mapping × String :=
  match files.get "SKILL.md" with
  | none => (["SKILL.md is required"], [], [], "")
  | some text =>
      match service.parseSkillMarkdown text with
      | .error raised => ([raised.str], [], [], text)
      | .ok (metadata, body) =>
          let named := skillTitle body "" ≠ "" ∨ (metadata.get "name").truthy ∨ (metadata.get "title").truthy
          ([], if named then [] else ["Skill has no explicit name/title"], metadata, body)

/-- `lint_files`. -/
def lintFiles (files : FileMap) : SkillLintResult :=
  let (manifestErrors, manifestWarnings, metadata, body) := lintManifest service files
  let count := files.rows.length
  let totalBytes := (files.rows.map fun file => file.2.utf8ByteSize).sum
  let scanned := fun (file : String × String) =>
    if file.1 = "SKILL.md" then service.safeDump (withoutTests metadata) ++ "\n" ++ body else file.2
  let (testErrors, tests) := match declaredTests metadata with
    | .seq tests => ([], tests)
    | other => (if other.truthy then ["test_cases/tests must be a list"] else [], [])
  let normalized := tests.zipIdx.map fun test => normalizedTest test.2 test.1
  { errors :=
      (if maxSkillFiles < count then
        ["too many skill files: " ++ toString count ++ " > " ++ toString maxSkillFiles] else []) ++ manifestErrors ++
      (files.rows.flatMap fun file => fileErrors file.1 file.2 (scanned file)) ++
      (if maxSkillTotalBytes < totalBytes then
        ["skill files exceed total size budget: " ++ toString totalBytes ++ " > " ++ toString maxSkillTotalBytes] else []) ++
      (match toolsOf metadata with
        | .seq _ => []
        | _ => ["required_tools must be a list or string"]) ++
      testErrors ++
      ((normalized.map Prod.fst).filter (· ∉ allowedTestKinds)).map fun kind => "unsupported test kind `" ++ kind ++ "`"
    warnings := manifestWarnings ++ if tests.isEmpty then ["No manifest test cases declared"] else []
    tests := normalized.map Prod.snd }

variable {service} {files : FileMap}

/-- What is checked of the files of a package without errors. -/
theorem unfailed_of_linted (linted : (lintFiles service files).ok = true) :
    (lintManifest service files).1 = [] ∧ ∀ file ∈ files.rows, fileErrors file.1 file.2
      (if file.1 = "SKILL.md" then service.safeDump (withoutTests (lintManifest service files).2.2.1) ++ "\n" ++
        (lintManifest service files).2.2.2 else file.2) = [] := by
  rw [SkillLintResult.ok, lintFiles, List.isEmpty_iff] at linted
  dsimp only at linted
  simp only [List.append_eq_nil_iff, List.flatMap_eq_nil_iff] at linted
  exact ⟨linted.1.1.1.1.1.2, linted.1.1.1.1.2⟩

omit [DateData] in
theorem manifest_of_unfailed (unfailed : (lintManifest service files).1 = []) : ∃ text metadata body,
    files.get "SKILL.md" = some text ∧ service.parseSkillMarkdown text = .ok (metadata, body) ∧
      (lintManifest service files).2.2 = (metadata, body) := by
  rw [lintManifest] at unfailed ⊢
  split at unfailed
  next => cases unfailed
  next text known =>
    rw [known]
    cases parsed : service.parseSkillMarkdown text with
    | error raised =>
      rw [parsed] at unfailed
      cases unfailed
    | ok split => exact ⟨text, split.1, split.2, rfl, parsed, rfl⟩

end Lint

/-! Results as JSON. -/

section Json
variable [CharData] [DateData]

/-- The key that `json.dumps` makes of a key. -/
def jsonKey : Yaml → String
  | .null => "null"
  | .bool value => if value then "true" else "false"
  | other => other.toStr

mutual

/-- A value for a JSON column. A date, which such a column does not take, is its text. -/
def jsonOf : Yaml → Json
  | .null => .null
  | .bool value => .bool value
  | .int value => .int value
  | .float repr => .float repr
  | .str value => .str value
  | .date year month day => .str (Yaml.date year month day).toStr
  | .datetime value => .str (Yaml.datetime value).toStr
  | .seq items => .arr (jsonItems items)
  | .map fields => .obj (jsonFields fields)

def jsonItems : List Yaml → List Json
  | [] => []
  | item :: rest => jsonOf item :: jsonItems rest

def jsonFields : List (Yaml × Yaml) → Dict
  | [] => []
  | (key, value) :: rest => (jsonKey key, jsonOf value) :: jsonFields rest

end

end Json

def jsonTexts (items : List String) : Json := .arr (items.map .str)

/-! The tests that a package declares. -/

structure TestResult where
  name : String
  kind : String
  passed : Bool
  assertions : List String
  evidence : List (String × Yaml)

structure TestPayload where
  ok : Bool
  errors : List String
  warnings : List String
  tests : List TestResult
  skillKey : String

def TestResult.toJson [CharData] [DateData] (result : TestResult) : Json :=
  .obj [("name", .str result.name), ("kind", .str result.kind),
    ("status", .str (if result.passed then "passed" else "failed")), ("assertions", jsonTexts result.assertions),
    ("evidence", .obj (result.evidence.map fun field => (field.1, jsonOf field.2)))]

/-- `for item in value`. -/
def iterate : Yaml → Except PyException (List Yaml)
  | .seq items => .ok items
  | .map fields => .ok (fields.map Prod.fst)
  | other => .error ⟨.typeError, "'" ++ other.typeName ++ "' object is not iterable"⟩

def texts (items : List String) : Yaml := .seq (items.map .str)

section Run
variable [CharData] [DateData] (service : SkillService)

/-- `_declared_tools`. -/
def declaredTools (files : FileMap) : List String :=
  match service.parseSkillMarkdown ((files.get "SKILL.md").getD "") with
  | .error _ => []
  | .ok (metadata, _) =>
      match toolsOf metadata with
      | .seq tools => tools.map Yaml.toStr
      | _ => []

/-- `_operational_text`. -/
def operationalText (files : FileMap) : String :=
  Text.joinWith "\n\n" <| files.sorted.flatMap fun file =>
    if file.1 ≠ "SKILL.md" then [file.2]
    else
      match service.parseSkillMarkdown file.2 with
      | .ok (metadata, body) => [service.safeDump (withoutTests metadata), body]
      | .error _ => [file.2]

/-- What a golden prompt expects in the files. -/
def expectedItems (spec : Mapping) : List String :=
  match (spec.get "expected_contains").or (spec.get "expected") with
  | .seq items => items.map Yaml.toStr
  | other => if other.truthy then [other.toStr] else []

/-- `_run_test_case`, of a package with these errors and warnings. -/
def runTestCase (files : FileMap) (lint : SkillLintResult) (spec : Mapping) : Except PyException TestResult :=
  let kind := ((spec.get "kind").or (.str "lint")).toStr
  let name := ((spec.get "name").or (.str kind)).toStr
  let haystack := operationalText service files
  match kind with
  | "lint" => .ok ⟨name, kind, lint.ok, ["lint.ok"], [("errors", texts lint.errors), ("warnings", texts lint.warnings)]⟩
  | "golden_prompt" =>
      let missing := (expectedItems spec).filter fun item => item ≠ "" ∧ !Text.contains haystack item
      .ok ⟨name, kind, missing.isEmpty, ["expected content appears in skill files"],
        [("missing", texts missing), ("input", (spec.lookup "input").getD (.str ""))]⟩
  | "mock_tool" => do
      let required ← iterate (toolsOf spec)
      let declared := declaredTools service files
      let missing := (required.map Yaml.toStr).filter (· ∉ declared)
      return ⟨name, kind, missing.isEmpty, ["required mock tools are declared"],
        [("declared_tools", texts declared), ("missing", texts missing)]⟩
  | "regression" => do
      let patterns ← match (spec.get "must_not_contain").or ((spec.get "forbidden").or (.seq [])) with
        | .str pattern => pure [.str pattern]
        | other => iterate other
      let hits := (patterns.map Yaml.toStr).filter fun pattern => pattern ≠ "" ∧ Text.contains haystack pattern
      return ⟨name, kind, hits.isEmpty, ["regression forbidden patterns are absent"], [("found", texts hits)]⟩
  | _ => .ok ⟨name, kind, false, ["test kind is supported"], [("allowed", texts allowedTestKinds)]⟩

/-- `_test_files`. -/
def testFiles (skillKey : String) (files : FileMap) : Except PyException TestPayload := do
  let lint := lintFiles service files
  let tests ← lint.tests.mapM (runTestCase service files lint)
  return ⟨lint.ok && tests.all TestResult.passed, lint.errors, lint.warnings, tests, normalizeSkillKey skillKey⟩

end Run

end SoulClaw.Skills.Package
