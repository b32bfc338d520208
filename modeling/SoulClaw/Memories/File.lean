import SoulClaw.Foundation.Lines
import SoulClaw.Foundation.Uuid
import SoulClaw.Foundation.Yaml

/-! The rows of the long-term memory, and what `MemoryService` writes of them to the memory file and
reads there. -/

namespace SoulClaw.Memories.File
open Foundation Lines

structure Memory where
  kind : String
  content : String
  source : String := "explicit"
  status : String := "active"
  pinned : Bool := false
  archived : Bool := false
  importance : PyFloat := .finite (1 / 2)
  confidence : PyFloat := .finite (1 / 2)
  stability : PyFloat := .finite (1 / 2)
  supersedesId : Option Uuid := none
  supersededBy : Option Uuid := none
  sourceFileMarker : String := ""
  provenance : Dict := []
  metadata : Dict := []
  deriving DecidableEq

/-- `_clamp`. -/
def clamp (value : PyFloat) : PyFloat := PyFloat.max (.finite 0) (PyFloat.min (.finite 1) value)

/-- `first or second`. -/
def orText (first second : String) : String := if first = "" then second else first

/-! The marker above an entry. -/

/-- `_marker`. -/
@[irreducible] def marker (id : Uuid) : String := "<!-- soulclaw:memory id=" ++ id.str ++ " -->"

/-- `[0-9a-fA-F-]`. -/
def isMarkChar (c : Char) : Bool := (Loads.hexValue c).isSome || c = '-'

/-- The text behind a literal word. -/
def after (literal : String) (text : List Char) : Option (List Char) := Loads.word literal text

section Markers
variable [CharData]

/-- `\s+`, and the text behind it. -/
def afterSpaces (text : List Char) : Option (List Char) :=
  if (text.head?.any fun c => CharData.isSpace c) then some (text.dropWhile CharData.isSpace) else none

/-- The group of `MEMORY_MARKER_RE`. The longest run of its characters is tried first; a shorter one can
only match when the run goes on with the hyphens of `-->`. -/
def matchMarker (line : List Char) : Option (List Char) := do
  let rest ← after "<!--" line
  let rest ← after "soulclaw:memory" (rest.dropWhile CharData.isSpace)
  let rest ← afterSpaces rest
  let rest ← after "id=" rest
  let run := rest.takeWhile isMarkChar
  let tail := rest.dropWhile isMarkChar
  if run ≠ [] ∧ (after "-->" (tail.dropWhile CharData.isSpace)).isSome then some run
  else if 2 < run.length ∧ "--".toList.isSuffixOf run ∧ tail.head? = some '>' then some (run.dropLast.dropLast)
  else none

/-- The memory that a line of the file names. -/
@[irreducible] def markerId [UuidData] (line : List Char) : Option Uuid :=
  (matchMarker (strip line)).bind fun group => Uuid.ofText (String.ofList group)

end Markers

/-! The entry of a memory. -/

section Entries
variable [CharData]

/-- `_memory_file_line`. -/
@[irreducible] def memoryFileLine [FloatData] (memory : Memory) : String :=
  let status := orText memory.status (if memory.archived then "archived" else "active")
  "- (" ++ memory.kind ++ ", source=" ++ memory.source ++ ", status=" ++ status ++
    ", importance=" ++ FloatData.fixed2 memory.importance ++
    ", confidence=" ++ FloatData.fixed2 memory.confidence ++
    ", stability=" ++ FloatData.fixed2 memory.stability ++ ") " ++ Text.strip memory.content

/-- The fields that an entry gives, the latest first. -/
abbrev Fields := List (String × String)

/-- What one part between the commas adds to the fields. -/
def readPart (fields : Fields) (part : List Char) : Fields :=
  let part := strip part
  if part = [] then fields
  else if '=' ∈ part then
    let key := part.takeWhile (· ≠ '=')
    let value := (part.dropWhile (· ≠ '=')).drop 1
    (String.ofList (strip key), String.ofList (strip value)) :: fields
  else if (fields.lookup "kind").isNone then ("kind", String.ofList part) :: fields
  else fields

def readParts (text : List Char) : Fields := (text.splitOn ',').foldl readPart []

/-- The groups of `MEMORY_LINE_RE`. -/
def matchLine (line : List Char) : Option (List Char × List Char) := do
  let rest ← after "-" line
  let rest ← afterSpaces rest
  let rest ← after "(" rest
  let rest' ← after ")" (rest.dropWhile (· ≠ ')'))
  let content ← afterSpaces rest'
  return (rest.takeWhile (· ≠ ')'), content)

/-- `_parse_memory_line`. -/
@[irreducible] def parseMemoryLine (line : List Char) : Option (Fields × String) :=
  (matchLine (strip line)).map fun groups => (readParts groups.1, String.ofList (strip groups.2))

end Entries

/-! Writing an entry. -/

section Writes
variable [CharData]

/-- The text that reading the file gives after it was written. -/
def written (text : List Char) : String := String.ofList (universalNewlines text)

/-- The lines after the one behind the first line that is the marker has been replaced. -/
def rewriteLines (mark entry : List Char) : List (List Char) → Option (List (List Char))
  | [] => none
  | line :: rest =>
      if strip line = mark then some (line :: entry :: rest.tail)
      else (rewriteLines mark entry rest).map (line :: ·)

variable [FloatData]

/-- `_rewrite_memory_file_entry`. -/
def rewriteMemoryFileEntry (file : String) (id : Uuid) (memory : Memory) : String :=
  match rewriteLines (marker id).toList (memoryFileLine memory).toList (splitlines file.toList) with
  | some lines => written (rstrip (joined lines) ++ ['\n'])
  | none => file

/-- `_append_to_memory_file`. -/
def appendToMemoryFile (file : String) (id : Uuid) (memory : Memory) : String :=
  if Text.contains file (marker id) then rewriteMemoryFileEntry file id memory
  else written (rstrip file.toList ++ '\n' :: '\n' :: ((marker id).toList ++ '\n' ::
    ((memoryFileLine memory).toList ++ ['\n'])))

end Writes

/-! Reading the file back. -/

section Sync
variable [FloatData]

/-- A score that the entry gives; one that is no number leaves the score alone. -/
def syncScore (fields : Fields) (key : String) (score : PyFloat) : PyFloat :=
  match (fields.lookup key).bind FloatData.parse with
  | some value => clamp value
  | none => score

/-- The row of a memory after its entry has been read. -/
def syncMemory (id : Uuid) (fields : Fields) (content now : String) (memory : Memory) : Memory :=
  let field := fun key => (fields.lookup key).getD ""
  let status := orText (field "status") (orText memory.status "active")
  { memory with
    kind := orText (field "kind") memory.kind
    content := orText content memory.content
    source := orText (field "source") memory.source
    status := status
    archived := status ∈ ["archived", "superseded"]
    importance := syncScore fields "importance" memory.importance
    confidence := syncScore fields "confidence" memory.confidence
    stability := syncScore fields "stability" memory.stability
    sourceFileMarker := marker id
    provenance := (memory.provenance.set "synced_from" (.str "memory/MEMORY.md")).set "synced_at" (.str now) }

end Sync

section Demo
attribute [local instance] CharData.ascii FloatData.decimal UuidData.plain

example : markerId (marker ⟨255⟩).toList = some ⟨255⟩ := by decide +kernel

example : (parseMemoryLine (memoryFileLine { kind := "agent_note", content := "tea " }).toList).map Prod.snd =
    some "tea" := by decide +kernel

end Demo

end SoulClaw.Memories.File
