import SoulClaw.Foundation.Yaml

/-! A Markdown page of the wiki: its key, its frontmatter, its links, and the record that
`parse_markdown_page` makes of a file. -/

namespace SoulClaw.Wiki.Markdown
open Foundation

section Texts
variable [CharData]

def strip (chars : List Char) : List Char := (Text.strip (String.ofList chars)).toList

/-- `text.strip(...)` for the characters that satisfy `test`. -/
def trim (test : Char → Bool) (chars : List Char) : List Char :=
  ((chars.dropWhile test).reverse.dropWhile test).reverse

/-- `re.sub` of every run of the characters that satisfy `test`; `inside` is a run that goes on. -/
def subRuns (test : Char → Bool) (mark : Char) : (inside : Bool) → List Char → List Char
  | _, [] => []
  | inside, c :: rest =>
      if test c then
        if inside then subRuns test mark true rest else mark :: subRuns test mark true rest
      else c :: subRuns test mark false rest

/-- `text.find(part)`. -/
def findText (text part : List Char) : Option Nat := text.tails.findIdx? fun tail => part.isPrefixOf tail

/-- `re.sub(r"\.md$", "", value, flags=re.IGNORECASE)`. -/
def withoutMd (chars : List Char) : List Char :=
  match chars.reverse with
  | d :: m :: '.' :: rest => if d ∈ ['d', 'D'] ∧ m ∈ ['m', 'M'] then rest.reverse else chars
  | _ => chars

/-- The characters that a key keeps. -/
def keyChar (c : Char) : Bool := ('a' ≤ c ∧ c ≤ 'z') ∨ ('0' ≤ c ∧ c ≤ '9') ∨ c ∈ ['_', '-', '/']

/-- `normalize_page_key`. -/
def normalizePageKey (value : String) : String :=
  let value := (Text.strip value).toList.map fun c => if c = '\\' then '/' else c
  let value := (withoutMd value).flatMap CharData.lower
  let value := subRuns CharData.isSpace '-' false value
  let value := subRuns (fun c => !keyChar c) '-' false value
  let value := subRuns (· = '-') '-' false value
  String.ofList (trim (fun c => c ∈ ['-', '/']) value)

/-! Frontmatter. -/

/-- What `\s*\n` can leave behind: the text after each line break of the run of white space, the
last one first. -/
def afterBlank : List Char → List (List Char)
  | [] => []
  | c :: rest =>
      if CharData.isSpace c then afterBlank rest ++ (if c = '\n' then [rest] else []) else []

/-- `\n---\s*\n`, and the body behind it. -/
def closing : List Char → Option (List Char)
  | '\n' :: '-' :: '-' :: '-' :: rest => (afterBlank rest).head?
  | _ => none

/-- The text before the first closing line, and the body. -/
def untilClosing : List Char → Option (List Char × List Char)
  | [] => none
  | c :: rest =>
      match closing (c :: rest) with
      | some body => some ([], body)
      | none => (untilClosing rest).map fun split => (c :: split.1, split.2)

/-- `FRONTMATTER_RE.match(raw)`: the groups `yaml` and `body`. -/
def matchFrontmatter (raw : String) : Option (String × String) :=
  match raw.toList with
  | '-' :: '-' :: '-' :: rest =>
      ((afterBlank rest).findSome? untilClosing).map fun split => (String.ofList split.1, String.ofList split.2)
  | _ => none

/-! Links. -/

/-- A match of `WIKILINK_RE`, with its two groups. -/
structure Wikilink where
  target : String
  label : Option String
  deriving DecidableEq, Repr

/-- `(?:mark([test]+))?`. -/
def optionalPart (mark : Char) (test : Char → Bool) (chars : List Char) : Option (List Char) × List Char :=
  match chars with
  | c :: rest =>
      if c = mark ∧ rest.takeWhile test ≠ [] then (some (rest.takeWhile test), rest.dropWhile test)
      else (none, chars)
  | [] => (none, [])

/-- `WIKILINK_RE` at the start of a text. No run of the pattern can end before the character that
ends it, so there is nothing to try again. -/
def matchWikilink : List Char → Option (Wikilink × List Char)
  | '[' :: '[' :: rest =>
      let inTarget := fun c => c ∉ [']', '|', '#']
      let target := rest.takeWhile inTarget
      let anchorPart := optionalPart '#' (fun c => c ∉ [']', '|']) (rest.dropWhile inTarget)
      let label := optionalPart '|' (fun c => c ≠ ']') anchorPart.2
      match target, label.2 with
      | _ :: _, ']' :: ']' :: tail => some (⟨String.ofList target, label.1.map String.ofList⟩, tail)
      | _, _ => none
  | _ => none

/-- `WIKILINK_RE.finditer`, with the characters that the last match still covers. -/
def wikilinksFrom : (covered : Nat) → List Char → List Wikilink
  | _, [] => []
  | covered + 1, _ :: rest => wikilinksFrom covered rest
  | 0, c :: rest =>
      match matchWikilink (c :: rest) with
      | some (link, tail) => link :: wikilinksFrom (rest.length - tail.length) rest
      | none => wikilinksFrom 0 rest

def wikilinks (text : String) : List Wikilink := wikilinksFrom 0 text.toList

def Wikilink.key (link : Wikilink) : String := normalizePageKey link.target

def Wikilink.anchor (link : Wikilink) : String := Text.strip (link.label.getD link.target)

/-- The links of a body: a target without a key is none. -/
def linksOf (body : String) : List (String × String) :=
  ((wikilinks body).filter fun link => link.key ≠ "").map fun link => (link.key, link.anchor)

/-! Headings and summaries. -/

/-- The first line of the form `# heading` from the start of a line on; `""` when there is none,
which the callers read alike. -/
def headingFrom : (lineStart : Bool) → List Char → String
  | _, [] => ""
  | lineStart, c :: rest =>
      match lineStart && c = '#', rest with
      | true, d :: _ =>
          if CharData.isSpace d then
            Text.strip (String.ofList ((rest.dropWhile CharData.isSpace).takeWhile fun c => c ≠ '\n'))
          else headingFrom false rest
      | _, _ => headingFrom (c = '\n') rest

/-- `_first_heading`. -/
def firstHeading (body : String) : String := headingFrom true body.toList

/-- `body.split("\n\n")`. -/
def blocks : List Char → List (List Char)
  | [] => [[]]
  | '\n' :: '\n' :: rest => [] :: blocks rest
  | c :: rest =>
      match blocks rest with
      | [] => [[c]]
      | block :: later => (c :: block) :: later

/-- `_summary_from_body`. -/
def summaryFromBody (body : String) : String :=
  match ((blocks body.toList).map strip).find? fun block => block ≠ [] ∧ block.head? ≠ some '#' with
  | some block => String.ofList ((subRuns CharData.isSpace ' ' false block).take 500)
  | none => ""

end Texts

/-! The values of a frontmatter. -/

section Values
variable [CharData] [DateData]

/-- `_listify`. -/
def listify : Yaml → List String
  | .null => []
  | .seq items => (items.map fun item => Text.strip item.toStr).filter (· ≠ "")
  | .str value =>
      ((value.toList.splitOn ',').map fun item => Text.strip (String.ofList item)).filter (· ≠ "")
  | other => [Text.strip other.toStr]

/-- `_parse_datetime`. -/
def parseDatetime : Yaml → Option DateTime
  | .datetime value => some value
  | .str value =>
      if Text.strip value = "" then none
      else
        (DateData.fromisoformat (String.ofList (value.toList.flatMap fun c =>
          if c = 'Z' then "+00:00".toList else [c]))).map DateTime.orUtc
  | _ => none

end Values

section Floats
variable [FloatData]

/-- `float(value)` where a `TypeError` or a `ValueError` reads as `default`. -/
def floatOr (default : PyFloat) (value : Yaml) : Except PyException PyFloat :=
  match value.toFloat with
  | .ok value => .ok value
  | .error error => if error.kind ∈ [.typeError, .valueError] then .ok default else .error error

/-- `float(metadata.get("confidence", 0.5))`, between 0 and 1. -/
def pageConfidence (metadata : Mapping) : Except PyException PyFloat :=
  let half := PyFloat.finite (1 / 2)
  let confidence := match metadata.lookup "confidence" with
    | some value => floatOr half value
    | none => .ok half
  confidence.map fun value => PyFloat.max (.finite 0) (PyFloat.min value (.finite 1))

end Floats

/-! Files and pages. -/

structure WikiFile where
  path : String
  isFile : Bool := true
  /-- `path.read_text(encoding="utf-8")`. -/
  text : Except PyException String

def WikiFile.parts (file : WikiFile) : List (List Char) := file.path.toList.splitOn '/'

def WikiFile.name (file : WikiFile) : List Char := file.parts.getLastD []

/-- `Path(name).stem`. -/
def stem (name : List Char) : List Char :=
  let suffix := name.reverse.takeWhile (· ≠ '.')
  match name.reverse.dropWhile (· ≠ '.') with
  | '.' :: front => if suffix = [] ∨ front = [] then name else front.reverse
  | _ => name

/-- `str(Path(relative_path).with_suffix(""))`. -/
def WikiFile.withoutSuffix (file : WikiFile) : String :=
  String.ofList ((['/'].intercalate (file.parts.dropLast ++ [stem file.name])))

structure ParsedWikiPage where
  pageKey : String
  title : String
  pageType : String
  relativePath : String
  absolutePath : String
  summary : String
  body : String
  aliases : List String
  tags : List String
  confidence : PyFloat
  claims : List Mapping
  sourceRefs : List Mapping
  staleAfter : Option DateTime
  metadata : Mapping
  checksum : String
  links : List (String × String)

/-- The root of the wiki, with the YAML loader and the hash of a text that the service uses. -/
structure WikiService where
  root : String
  safeLoad : String → Except PyException Yaml
  sha256 : String → String

namespace WikiService

section Frontmatter
variable [CharData] (service : WikiService)

/-- The metadata and the body of a text. -/
def frontmatter (raw : String) : Except PyException (Mapping × String) :=
  match matchFrontmatter raw with
  | none => .ok ([], raw)
  | some (yaml, body) =>
      match service.safeLoad yaml with
      | .error error => .error error
      | .ok loaded =>
          match loaded.or (.map []) with
          | .map metadata => .ok (metadata, body)
          | _ => .error ⟨.valueError, "frontmatter must be a mapping"⟩

end Frontmatter

section Parse
variable [CharData] [FloatData] [DateData] (service : WikiService)

/-- The page of a file that has been read and whose frontmatter and confidence are known. -/
def pageOf (file : WikiFile) (raw : String) (metadata : Mapping) (body : String) (confidence : PyFloat) :
    ParsedWikiPage :=
  { pageKey := normalizePageKey ((metadata.get "page_key").or ((metadata.get "id").or
      (.str (normalizePageKey file.withoutSuffix)))).toStr
    title := Text.strip ((metadata.get "title").or ((Yaml.str (firstHeading body)).or
      (.str (String.ofList (stem file.name))))).toStr
    pageType := ((Yaml.str (Text.strip ((metadata.get "type").or ((metadata.get "page_type").or
      (.str "note"))).toStr)).or (.str "note")).toStr
    relativePath := file.path
    absolutePath := service.root ++ "/" ++ file.path
    summary := Text.strip ((metadata.get "summary").or (.str (summaryFromBody body))).toStr
    body
    aliases := listify (metadata.get "aliases")
    tags := listify (metadata.get "tags")
    confidence
    claims := (metadata.get "claims").mappings
    sourceRefs := ((metadata.get "source_refs").or (metadata.get "evidence")).mappings
    staleAfter := parseDatetime ((metadata.get "stale_after").or (metadata.get "expires_at"))
    metadata
    checksum := service.sha256 raw
    links := linksOf body }

/-- `parse_markdown_page`. -/
def parseMarkdownPage (file : WikiFile) : Except PyException ParsedWikiPage :=
  match file.text with
  | .error error => .error error
  | .ok raw =>
      match service.frontmatter raw with
      | .error error => .error error
      | .ok (metadata, body) => (pageConfidence metadata).map (service.pageOf file raw metadata body)

end Parse

end WikiService

section Parsed
variable [CharData] [FloatData] [DateData] {service : WikiService}

/-- What a page that parses is made of. -/
theorem parseMarkdownPage_ok {file : WikiFile} {page : ParsedWikiPage}
    (parsed : service.parseMarkdownPage file = .ok page) :
    ∃ raw metadata body confidence, file.text = .ok raw ∧ service.frontmatter raw = .ok (metadata, body) ∧
      page = service.pageOf file raw metadata body confidence := by
  rw [WikiService.parseMarkdownPage] at parsed
  split at parsed
  next => cases parsed
  next raw text =>
    split at parsed
    next => cases parsed
    next metadata body front =>
      obtain ⟨confidence, _, made⟩ := map_eq_ok.1 parsed
      exact ⟨raw, metadata, body, confidence, text, front, made.symm⟩

theorem relativePath_of_parsed {file : WikiFile} {page : ParsedWikiPage}
    (parsed : service.parseMarkdownPage file = .ok page) : page.relativePath = file.path := by
  obtain ⟨raw, metadata, body, confidence, _, _, rfl⟩ := parseMarkdownPage_ok parsed
  rfl

theorem links_of_parsed {file : WikiFile} {page : ParsedWikiPage}
    (parsed : service.parseMarkdownPage file = .ok page) : page.links = linksOf page.body := by
  obtain ⟨raw, metadata, body, confidence, _, _, rfl⟩ := parseMarkdownPage_ok parsed
  rfl

end Parsed

end SoulClaw.Wiki.Markdown
