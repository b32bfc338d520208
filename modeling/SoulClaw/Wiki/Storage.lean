import SoulClaw.Foundation.Files
import SoulClaw.Foundation.Lines
import SoulClaw.Wiki.Compile

/-! The wiki in the file system: paths as the service gets them, the tree below the root, and the ways in
which `WikiService` reads and writes there. -/

namespace SoulClaw.Wiki.Storage
open Foundation Files Lines Markdown Compile

/-- The bytes of a file: those of a text, or some that are not UTF-8. -/
abbrev Raw := Option String

abbrev Disk := FileSystem Raw

/-! Paths. -/

structure PurePath where
  absolute : Bool
  parts : Path
  deriving DecidableEq

def nameOf (part : List Char) : Option Name :=
  if valid : String.ofList part ≠ "" ∧ '/' ∉ (String.ofList part).toList then some ⟨String.ofList part, valid⟩ else none

theorem toList_of_nameOf {part : List Char} {name : Name} (made : nameOf part = some name) : name.val.toList = part := by
  rw [nameOf] at made
  split at made
  · rw [← Option.some.inj made]
    exact String.toList_ofList
  · cases made

theorem nameOf_returns {part : List Char} (some' : part ≠ []) (plain : '/' ∉ part) : ∃ name, nameOf part = some name := by
  have valid : String.ofList part ≠ "" ∧ '/' ∉ (String.ofList part).toList := by
    rw [String.toList_ofList]
    exact ⟨fun none => some' (String.ofList_eq_empty_iff.1 none), plain⟩
  exact ⟨_, dif_pos valid⟩

/-- `Path(text)`. -/
def PurePath.parse (text : String) : PurePath where
  absolute := text.toList.head? = some '/'
  parts := ((text.toList.splitOn '/').filter (· ≠ ['.'])).filterMap nameOf

/-- `path.as_posix()` of a relative path. -/
def posix (path : Path) : String :=
  if path = [] then "." else String.ofList (['/'].intercalate (path.map fun name => name.val.toList))

/-- The place of a relative path. -/
def locate (base path : Path) : Path :=
  path.foldl (fun place name => if name.val = ".." then place.dropLast else place ++ [name]) base

/-- The place of `base / path`. -/
def PurePath.under (base : Path) (path : PurePath) : Path := locate (if path.absolute then [] else base) path.parts

def indexName : Name := ⟨"index.md", by decide⟩

def logName : Name := ⟨"log.md", by decide⟩

def archiveName : Name := ⟨"_archive", by decide⟩

theorem splitOn_posix {path : Path} (below : path ≠ []) :
    (posix path).toList.splitOn '/' = path.map fun name => name.val.toList := by
  rw [posix, if_neg below, String.toList_ofList]
  apply List.splitOn_intercalate '/'
  · intro part member
    obtain ⟨name, _, rfl⟩ := List.mem_map.1 member
    exact name.2.2
  · exact fun none => below (List.map_eq_nil_iff.1 none)

theorem posix_injective {first second : Path} (some' : first ≠ []) (some'' : second ≠ [])
    (same : posix first = posix second) : first = second := by
  have parts := congrArg (fun text : String => text.toList.splitOn '/') same
  rw [splitOn_posix some', splitOn_posix some''] at parts
  have injective : Function.Injective fun name : Name => name.val.toList :=
    fun name other equal => Subtype.ext (String.toList_injective equal)
  exact injective.list_map parts

/-! The tree below the root. -/

/-- `path.read_text(encoding="utf-8")`. -/
def readText : Raw → Except PyException String
  | some text => .ok (String.ofList (universalNewlines text.toList))
  | none => .error ⟨.valueError, "'utf-8' codec can't decode bytes"⟩

def wikiFile (path : Path) : Node Raw → WikiFile
  | .file raw => { path := posix path, text := readText raw }
  | .directory => { path := posix path, isFile := false, text := .error isADirectory }

/-- The path of something below the root, from there. -/
def relative (root path : Path) : Option Path :=
  if root <+: path ∧ path ≠ root then some (path.drop root.length) else none

theorem relative_eq_some {root path rest : Path} : relative root path = some rest ↔ path = root ++ rest ∧ rest ≠ [] := by
  rw [relative]
  split
  next inside =>
    obtain ⟨⟨back, rfl⟩, below⟩ := inside
    rw [List.drop_left, Option.some.injEq]
    constructor
    · rintro rfl
      exact ⟨rfl, by simpa using below⟩
    · exact fun ⟨same, _⟩ => List.append_cancel_left same
  next outside =>
    constructor
    · intro none
      cases none
    · rintro ⟨rfl, below⟩
      exact absurd ⟨List.prefix_append .., by simpa using below⟩ outside

def entryFile (root : Path) (entry : (_ : Path) × Node Raw) : Option WikiFile :=
  (relative root entry.1).map fun path => wikiFile path entry.2

theorem path_wikiFile (path : Path) (node : Node Raw) : (wikiFile path node).path = posix path := by
  cases node <;> rfl

def treeOf (root : Path) (disk : Disk) : WikiTree where
  files := disk.entries.filterMap (entryFile root)
  distinct := by
    have paths : (disk.entries.filterMap (entryFile root)).map WikiFile.path =
        disk.keys.filterMap fun path => (relative root path).map posix := by
      rw [List.map_filterMap, AList.keys, List.keys, List.filterMap_map]
      apply List.filterMap_congr
      intro entry _
      simp [entryFile, path_wikiFile, Function.comp_def]
    rw [paths]
    apply disk.keys_nodup.filterMap
    intro first second text found found'
    obtain ⟨path, here, rfl⟩ := Option.map_eq_some_iff.1 found
    obtain ⟨path', here', same⟩ := Option.map_eq_some_iff.1 found'
    obtain ⟨rfl, below⟩ := relative_eq_some.1 here
    obtain ⟨rfl, below'⟩ := relative_eq_some.1 here'
    rw [posix_injective below' below same]
  present text := (node disk ((PurePath.parse text).under root)).isSome

theorem mem_treeOf {root path : Path} {disk : Disk} {node' : Node Raw} (below : path ≠ [])
    (found : node disk (root ++ path) = some node') : wikiFile path node' ∈ (treeOf root disk).files := by
  rw [node_of_ne _ (by simp [below])] at found
  have listed := AList.mem_lookup_iff.1 found
  refine List.mem_filterMap.2 ⟨_, listed, ?_⟩
  rw [entryFile, relative_eq_some.2 ⟨rfl, below⟩, Option.map_some]

/-- A file below the root is what stands there. -/
theorem of_mem_treeOf {root path : Path} {disk : Disk} {file : WikiFile} (below : path ≠ [])
    (member : file ∈ (treeOf root disk).files) (named : file.path = posix path) :
    ∃ node', node disk (root ++ path) = some node' ∧ file = wikiFile path node' := by
  obtain ⟨entry, listed, made⟩ := List.mem_filterMap.1 member
  obtain ⟨rest, inside, rfl⟩ := Option.map_eq_some_iff.1 made
  obtain ⟨whole, below'⟩ := relative_eq_some.1 inside
  rw [path_wikiFile] at named
  obtain rfl := posix_injective below' below named
  refine ⟨entry.2, ?_, rfl⟩
  rw [node_of_ne _ (by simp [below]), ← whole]
  exact AList.mem_lookup_iff.2 listed

/-- What `_read_optional_file` gives for a name in the root. -/
theorem readOptionalFile_treeOf {name : Name} (simple : PurePath.parse name.val = ⟨false, [name]⟩)
    (inside : name.val ≠ "..") (root : Path) (disk : Disk) : (treeOf root disk).readOptionalFile name.val =
      match node disk (root ++ [name]) with
      | some (.file raw) => readText raw
      | _ => .ok "" := by
  have place : (PurePath.parse name.val).under root = root ++ [name] := by
    rw [simple, PurePath.under, if_neg (by simp), locate, List.foldl_cons, List.foldl_nil, if_neg inside]
  have own : posix [name] = name.val := by
    rw [posix, if_neg (by simp)]
    show String.ofList (name.val.toList ++ []) = name.val
    rw [List.append_nil, String.ofList_toList]
  have present : (treeOf root disk).present name.val = (node disk (root ++ [name])).isSome := by
    rw [← place]
    rfl
  rw [WikiTree.readOptionalFile, present]
  cases search : (treeOf root disk).files.find? fun file => file.path = name.val with
  | none =>
    cases found : node disk (root ++ [name]) with
    | none => rfl
    | some node' =>
      have listed := List.find?_eq_none.1 search _ (mem_treeOf (by simp) found)
      rw [path_wikiFile, own] at listed
      simp at listed
  | some file =>
    have named : file.path = posix [name] := by
      have same := List.find?_some search
      rw [own]
      exact of_decide_eq_true same
    obtain ⟨node', found, rfl⟩ := of_mem_treeOf (by simp) (List.mem_of_find?_eq_some search) named
    rw [found]
    cases node' with
    | file raw => rfl
    | directory => rfl

theorem readOptionalFile_index (root : Path) (disk : Disk) : (treeOf root disk).readOptionalFile "index.md" =
    match node disk (root ++ [indexName]) with
    | some (.file raw) => readText raw
    | _ => .ok "" :=
  @readOptionalFile_treeOf indexName (by decide +kernel) (by decide) root disk

/-! Reading and writing. -/

/-- `_read_path`. -/
def readPath (root path : Path) (disk : Disk) : Except PyException String :=
  match node disk (root ++ path) with
  | none => .ok ""
  | some .directory => .error isADirectory
  | some (.file raw) => readText raw

/-- `_write_path`. -/
def writePath (root path : Path) (content : String) (disk : Disk) : Except PyException Disk := do
  let disk ← makeDirectories [] (root ++ path).dropLast disk
  change (root ++ path) (fun _ => some content) disk

/-- The bytes of a file to which a text has been appended. -/
def appended (text : String) : Option Raw → Raw
  | none => some text
  | some raw => raw.map (· ++ text)

def logLine [CharData] (entry actor stamp : String) : String :=
  "\n- " ++ stamp ++ " [" ++ actor ++ "] " ++ Text.strip entry ++ "\n"

/-- `_append_log` at the time `stamp`. -/
def appendLog [CharData] (root : Path) (entry actor stamp : String) (disk : Disk) : Except PyException Disk :=
  if Text.strip entry = "" then .ok disk
  else do
    let disk ← makeDirectories [] root disk
    change (root ++ [logName]) (appended (logLine entry actor stamp)) disk

end SoulClaw.Wiki.Storage
