import SoulClaw.Wiki.Keys
import SoulClaw.Wiki.Proposals
import SoulClaw.Wiki.Scans
import SoulClaw.Wiki.Sufficiency

/-! An update of a page that is named by its key. The file to write is that of the key, and the page of the key may
stand in another one. -/

namespace SoulClaw.Wiki.KeyedUpdates
open Foundation Files Markdown Compile Image Storage Proposals Scans Keys

/-! The path of a key. -/

/-- A text is its last segment after a slash, or has none. -/
theorem last_segment (text : List Char) :
    '/' ∉ text ∨ ∃ front last, text = front ++ '/' :: last ∧ '/' ∉ last := by
  by_cases slash : '/' ∈ text
  · obtain ⟨back, front, split, plain⟩ := List.eq_append_cons_of_mem (List.mem_reverse.2 slash)
    refine .inr ⟨front.reverse, back.reverse, ?_, fun inside => plain (List.mem_reverse.1 inside)⟩
    rw [← List.reverse_reverse text, split]
    simp
  · exact .inl slash

section Path
variable [CharData]

/-- The segments of a key and the suffix: the last one has the suffix, and none starts with a dot. -/
theorem segments_of_key {key : List Char} (normal : Normal key) (some' : key ≠ []) :
    ∃ front last, (key ++ ".md".toList).splitOn '/' = front ++ [last ++ ".md".toList] ∧ last ≠ [] ∧ '/' ∉ last ∧
      ∀ part ∈ front ++ [last], ∀ c ∈ part, c ≠ '.' := by
  have dotless : ∀ c ∈ key, c ≠ '.' := fun c member => (keyChar_plain (normal.kept c member)).2.2.2
  rcases last_segment key with slash | ⟨front, last, rfl, slash⟩
  · refine ⟨[], key, ?_, some', slash, ?_⟩
    · exact List.splitOn_eq_singleton (by simp [slash])
    · intro part member
      rw [List.nil_append, List.mem_singleton] at member
      exact member ▸ dotless
  · refine ⟨front.splitOn '/', last, ?_, ?_, slash, ?_⟩
    · have own : (last ++ ".md".toList).splitOn '/' = [last ++ ".md".toList] :=
        List.splitOn_eq_singleton (by simp [slash])
      rw [List.append_assoc, List.cons_append, List.splitOn_append_cons_self, own]
    · rintro rfl
      have ends := List.rdropWhile_last_not (fun c => decide (c ∈ ['-', '/']))
        ((front ++ ['/']).dropWhile fun c => c ∈ ['-', '/'])
      have trimmed : ((front ++ ['/']).dropWhile fun c => decide (c ∈ ['-', '/'])).rdropWhile (fun c => c ∈ ['-', '/']) =
        front ++ ['/'] := normal.trimmed
      simp only [trimmed] at ends
      simp at ends
    · intro part member c inside
      apply dotless c
      rcases List.mem_append.1 member with early | own
      · exact List.mem_append_left _ (Lines.mem_of_mem_splitOn early inside)
      · rw [List.mem_singleton.1 own] at inside
        exact List.mem_append_right _ (List.mem_cons_of_mem _ inside)

/-- The file of a key is listed among the pages. -/
theorem listed_of_key {key : String} (some' : normalizePageKey key ≠ "") :
    (PurePath.parse (normalizePageKey key ++ ".md")).parts ≠ [] ∧
      Listed (PurePath.parse (normalizePageKey key ++ ".md")).parts := by
  obtain ⟨front, last, split, word, slash, dotless⟩ := segments_of_key (normal_normalizePageKey key)
    fun none => some' (String.toList_inj.1 none)
  obtain ⟨own, made⟩ := @nameOf_returns (last ++ ".md".toList) (by simp) (by simp [slash])
  have path : (PurePath.parse (normalizePageKey key ++ ".md")).parts =
      (front.filter (· ≠ ['.'])).filterMap nameOf ++ [own] := by
    have kept : (last ++ ".md".toList) ≠ ['.'] := by
      intro same
      have sizes := congrArg List.length same
      simp at sizes
    rw [PurePath.parse]
    dsimp only
    rw [String.toList_append, split, List.filter_append, List.filterMap_append,
      List.filter_cons_of_pos (by exact decide_eq_true kept), List.filter_nil, List.filterMap_cons, made, List.filterMap_nil]
  have letters := toList_of_nameOf made
  -- No segment starts with a dot, since those of a key have none.
  have shown : ∀ name ∈ (front.filter (· ≠ ['.'])).filterMap nameOf ++ [own], name.val.toList.head? ≠ some '.' := by
    intro name member dot
    rcases List.mem_append.1 member with early | only
    · obtain ⟨part, kept, made'⟩ := List.mem_filterMap.1 early
      rw [toList_of_nameOf made'] at dot
      exact dotless part (List.mem_append_left _ (List.mem_filter.1 kept).1) '.' (List.mem_of_head? dot) rfl
    · rw [List.mem_singleton.1 only, letters, List.head?_append_of_ne_nil _ word] at dot
      exact dotless last (List.mem_append_right _ (List.mem_singleton_self _)) '.' (List.mem_of_head? dot) rfl
  have below : (front.filter (· ≠ ['.'])).filterMap nameOf ++ [own] ≠ [] := by simp
  rw [path]
  refine ⟨below, ?_, ?_⟩
  · rw [isMarkdown, WikiFile.name, WikiFile.parts, path_wikiFile, splitOn_posix below, List.map_append, List.map_singleton,
      List.getLastD_concat, letters]
    exact List.isSuffixOf_iff_suffix.2 ⟨last, rfl⟩
  · rw [isHidden, WikiFile.parts, path_wikiFile, splitOn_posix below, List.any_eq_false]
    intro part member
    obtain ⟨name, listed, rfl⟩ := List.mem_map.1 member
    rw [decide_eq_true_eq]
    exact shown name listed

end Path

/-! What an update leaves on the disk. -/

section Written
variable [CharData] {places : Places} {clock : Clock} {actor : String} {disk acted last : Disk} {path : Path}

def keyOf (proposal : EvolutionProposal) : String := ((proposal.payload.get "page_key").or (.str "")).toStr

def contentOf (proposal : EvolutionProposal) : String := ((proposal.payload.get "content").or (.str "")).toStr

/-- The log with the line about an update of `path`. -/
def recordedLog (places : Places) (clock : Clock) (actor : String) (disk : Disk) (id : Nat) (path : Path)
    (content : String) : Raw :=
  appended (logLine (appliedEntry id "update_page" (posix path)) actor clock.stamp)
    (if path = [logName] then some (some content) else contentAt disk (places.root ++ [logName]))

/-- The file at the path has the content, the log its line, and nothing else has changed but directories above the
path, which may be new. -/
structure Written (root : Path) (disk last : Disk) (path : Path) (content : String) (log : Raw) : Prop where
  log : node last (root ++ [logName]) = some (.file log)
  page : path ≠ [logName] → node last (root ++ path) = some (.file (some content))
  others : ∀ other, other ≠ path → other ≠ [logName] → node last (root ++ other) = node disk (root ++ other) ∨
    node disk (root ++ other) = none ∧ node last (root ++ other) = some .directory ∧ other <+: path.dropLast

theorem writePage_ok {payload : Dict} {default changed : String} {before : Dict}
    (safe : proposalPath payload default = .ok path)
    (wrote : (writePage places payload default).exec disk = (.ok (before, changed), acted)) :
    changed = posix path ∧ writePath places.root path ((payload.get "content").or (.str "")).toStr disk = .ok acted := by
  have named : (Program.ofExcept (proposalPath payload default) : FileM Raw Path).exec disk = (.ok path, disk) := by
    rw [Program.exec_ofExcept, safe]
  rw [writePage, Program.exec_bind_of_ok _ named] at wrote
  obtain ⟨content, between, read, rest⟩ := Program.exec_bind_eq_ok.1 wrote
  obtain rfl : disk = between := congrArg Prod.snd read
  obtain ⟨_, written, writes, returned⟩ := Program.exec_bind_eq_ok.1 rest
  rw [Program.exec_pure] at returned
  obtain ⟨same, rfl⟩ := Prod.mk.inj returned
  exact ⟨(Prod.mk.inj (Except.ok.inj same)).2.symm, Program.exec_write_eq_ok.1 writes⟩

/-- A file and a line in the log, written in a wiki whose root exists. -/
theorem written_of_files {content entry : String} (closed : Closed disk)
    (inside : node disk places.root = some .directory) (below : path ≠ [])
    (wrote : writePath places.root path content disk = .ok acted) (said : Text.strip entry ≠ "")
    (appends : appendLog places.root entry actor clock.stamp acted = .ok last) :
    Closed last ∧ node last places.root = some .directory ∧
      Written places.root disk last path content (appended (logLine entry actor clock.stamp)
        (if path = [logName] then some (some content) else contentAt disk (places.root ++ [logName]))) := by
  obtain ⟨made, directories, changed⟩ := bind_eq_ok.1 wrote
  have apart : ∀ other : Path, other ≠ [] → places.root ≠ places.root ++ other := by
    intro other some' same
    exact some' (List.append_cancel_left (same.symm.trans (List.append_nil _).symm))
  have place : places.root ++ path ≠ [] := by simp [below]
  have logPlace : places.root ++ [logName] ≠ [] := by simp
  obtain ⟨closed', _, above⟩ := makeDirectories_ok closed (node_root disk) directories
  have page := (change_ok place changed).2
  have closed'' := change_closed closed' place changed
  have inside' : node acted places.root = some .directory := by
    rw [page, if_neg (apart path below)]
    rcases above places.root with same | ⟨none, _, _⟩
    · rw [same, inside]
    · rw [inside] at none
      cases none
  rw [appendLog, if_neg said, makeDirectories_existing closed'' inside'] at appends
  have line := (change_ok logPlace appends).2
  have text : contentAt acted (places.root ++ [logName]) =
      if path = [logName] then some (some content) else contentAt disk (places.root ++ [logName]) := by
    rw [contentAt_change place changed, contentAt_makeDirectories closed (node_root disk) directories]
    by_cases own : path = [logName]
    · rw [if_pos own, own, if_pos rfl]
    · rw [if_neg own, if_neg]
      exact fun same => own (List.append_cancel_left same).symm
  refine ⟨change_closed closed'' logPlace appends, ?_, ⟨?_, ?_, ?_⟩⟩
  · rw [line, if_neg (apart _ (by simp)), inside']
  · rw [line, if_pos rfl, text]
  · intro other
    rw [line, if_neg fun same => other (List.append_cancel_left same), page, if_pos rfl]
  · intro other unlike unlogged
    rw [line, if_neg fun same => unlogged (List.append_cancel_left same), page,
      if_neg fun same => unlike (List.append_cancel_left same)]
    rcases above (places.root ++ other) with same | ⟨none, made', front⟩
    · exact .inl same
    · rw [List.nil_append, List.dropLast_append_of_ne_nil below] at front
      exact .inr ⟨none, made', (List.prefix_append_right_inj _).1 front⟩

variable [FloatData] [DateData] {service : WikiService}

/-- An update that returns has written the file and the log, and compiled the wiki. -/
theorem written_of_returned {state next : State} {proposal applied : EvolutionProposal} {id : Nat} (closed : Closed disk)
    (inside : node disk places.root = some .directory) (found : state.proposals.get? id = some proposal)
    (updates : proposal.action = "update_page") (safe : proposalPath proposal.payload "" = .ok path) (below : path ≠ [])
    (returned : (applyProposal places clock actor service state id).exec disk = (.ok (applied, next), last)) :
    Written places.root disk last path (contentOf proposal)
        (recordedLog places clock actor disk id path (contentOf proposal)) ∧
      ∃ report, compile service (treeOf places.root last) clock.now state.db = .ok (report, next.db) := by
  rw [applyProposal, found] at returned
  dsimp only at returned
  obtain ⟨_, start, checked, returned⟩ := Program.exec_bind_eq_ok.1 returned
  obtain rfl : disk = start := congrArg Prod.snd checked
  obtain ⟨⟨before, changed⟩, acted, action, returned⟩ := Program.exec_bind_eq_ok.1 returned
  obtain ⟨_, logged, entry, returned⟩ := Program.exec_bind_eq_ok.1 returned
  rw [applyAction, updates, if_pos (by decide), if_neg (by decide)] at action
  obtain ⟨rfl, wrote⟩ := writePage_ok safe action
  rw [updates] at entry
  obtain ⟨closed', inside', written⟩ := written_of_files closed inside below wrote (strip_appliedEntry_ne _ _ _)
    (Program.exec_write_eq_ok.1 entry)
  obtain ⟨⟨report, db⟩, compiled, ran, returned⟩ := Program.exec_bind_eq_ok.1 returned
  rw [compileDisk_exec service clock closed' inside'] at ran
  obtain ⟨made, rfl⟩ := Prod.mk.inj ran
  rw [Program.exec_pure] at returned
  obtain ⟨same, rfl⟩ := Prod.mk.inj returned
  obtain ⟨_, rfl⟩ := Prod.mk.inj (Except.ok.inj same)
  exact ⟨written, report, made⟩

end Written

/-! The pages after an update. -/

theorem listed_log : Listed [logName] := by
  constructor <;> decide +kernel

section Pages
variable [CharData] [FloatData] [DateData] {service : WikiService} {root place path other : Path} {disk last : Disk}
  {content : String} {log : Raw} {old new page : ParsedWikiPage}

/-- The page that the log is, if it is one. -/
abbrev LogPage (service : WikiService) (log : Raw) (page : ParsedWikiPage) : Prop :=
  service.parseMarkdownPage (wikiFile [logName] (.file log)) = .ok page

/-- A page is the log, the page at the written file, or one that was there. -/
theorem pageAt_written (below : path ≠ []) (listed : Listed path) (written : Written root disk last path content log) :
    PageAt service root last other page ↔ other = [logName] ∧ LogPage service log page ∨
      other = path ∧ path ≠ [logName] ∧ service.parseMarkdownPage (wikiFile path (.file (some content))) = .ok page ∨
      other ≠ path ∧ other ≠ [logName] ∧ PageAt service root disk other page := by
  by_cases logged : other = [logName]
  · subst logged
    constructor
    · rintro ⟨_, _, raw, found, parsed⟩
      obtain rfl := Node.file.inj (Option.some.inj (written.log.symm.trans found))
      exact .inl ⟨rfl, parsed⟩
    · rintro (⟨_, parsed⟩ | ⟨same, apart, _⟩ | ⟨_, apart, _⟩)
      · exact ⟨by simp, listed_log, log, written.log, parsed⟩
      · exact absurd same.symm apart
      · exact absurd rfl apart
  · by_cases own : other = path
    · subst own
      constructor
      · rintro ⟨_, _, raw, found, parsed⟩
        obtain rfl := Node.file.inj (Option.some.inj ((written.page logged).symm.trans found))
        exact .inr (.inl ⟨rfl, logged, parsed⟩)
      · rintro (⟨same, _⟩ | ⟨_, _, parsed⟩ | ⟨apart, _⟩)
        · exact absurd same logged
        · exact ⟨below, listed, some content, written.page logged, parsed⟩
        · exact absurd rfl apart
    · constructor
      · rintro ⟨below', listed', raw, found, parsed⟩
        rcases written.others other own logged with same | ⟨_, made, _⟩
        · exact .inr (.inr ⟨own, logged, below', listed', raw, same ▸ found, parsed⟩)
        · rw [made] at found
          cases found
      · rintro (⟨same, _⟩ | ⟨same, _⟩ | ⟨_, _, below', listed', raw, found, parsed⟩)
        · exact absurd same logged
        · exact absurd same own
        · refine ⟨below', listed', raw, ?_, parsed⟩
          rcases written.others other own logged with same | ⟨none, _, _⟩
          · rw [same, found]
          · rw [found] at none
            cases none

/-- The log has the key of none of the pages that stay as they are. -/
def LogApart (service : WikiService) (root path : Path) (disk : Disk) (log : Raw) : Prop :=
  ∀ page, LogPage service log page → ∀ other second, PageAt service root disk other second → other ≠ path →
    other ≠ [logName] → page.pageKey ≠ second.pageKey

/-- The written file does not double the page of its key, which is in the same file or in the log. -/
def Alone (service : WikiService) (place path : Path) (log : Raw) (old : ParsedWikiPage) : Prop :=
  path ≠ [logName] → (∀ page, LogPage service log page → page.pageKey ≠ old.pageKey) ∧ (place = path ∨ place = [logName])

/-! The rows after an update. -/

variable {now : Int} {db : WikiDb}

theorem row_written (distinct : ((parsedPages service (treeOf root last)).map ParsedWikiPage.pageKey).Nodup)
    (stands : PageAt service root last other page) :
    (compiled service (treeOf root last) now db).pages.find? page.pageKey = some (pageImage page) := by
  apply find?_compiled
  rw [indexed_of_undoubled ((undoubled_scanFiles service (treeOf root last).markdownPaths).1.2 distinct)]
  exact mem_parsedPages_treeOf.2 ⟨other, stands⟩

theorem absent_written {key : String} (absent : ∀ other page, PageAt service root last other page → page.pageKey ≠ key) :
    (compiled service (treeOf root last) now db).pages.find? key =
      if (scanFiles service (treeOf root last).markdownPaths).errors = [] then none else db.pages.find? key := by
  apply find?_compiled_of_absent
  intro page member
  obtain ⟨file, listed, parsed⟩ := parsed_of_mem_scanFiles member
  obtain ⟨other, stands⟩ := mem_parsedPages_treeOf.1 (mem_parsedPages.2 ⟨file, listed, parsed⟩)
  exact absent other page stands

/-- Every page has its row. -/
def Rows (service : WikiService) (root : Path) (disk : Disk) (db : WikiDb) : Prop :=
  ∀ other page, PageAt service root disk other page → db.pages.find? page.pageKey = some (pageImage page)

/-- The pages of other keys than the given one, apart from the log, keep their files and rows. -/
def OthersKept (service : WikiService) (root : Path) (disk last : Disk) (before after : WikiDb) (key : String) : Prop :=
  ∀ other page, PageAt service root disk other page → page.pageKey ≠ key → other ≠ [logName] →
    node last (root ++ other) = node disk (root ++ other) ∧
      after.pages.find? page.pageKey = before.pages.find? page.pageKey

/-- What has the key of the page has the new body, when it is the log that has been written. -/
def LogHolds (service : WikiService) (place : Path) (log : Raw) (old new : ParsedWikiPage) : Prop :=
  if place = [logName] then
    (∀ page, LogPage service log page → page.pageKey = old.pageKey ∧ page.body = new.body) ∧
      ((∀ page, ¬LogPage service log page) → old.body = new.body)
  else old.body = new.body

/-- All files parse after an update of a log that parses. -/
theorem clean_written (written : Written root disk last [logName] content log)
    (distinct' : ((parsedPages service (treeOf root last)).map ParsedWikiPage.pageKey).Nodup)
    (readable : ∀ file ∈ (treeOf root disk).markdownPaths, ∃ page, service.parseMarkdownPage file = .ok page) :
    (scanFiles service (treeOf root last).markdownPaths).errors = [] ↔ ∃ page, LogPage service log page := by
  rw [clean_iff distinct']
  constructor
  · intro all
    exact all _ (mem_markdownPaths_treeOf.2 ⟨[logName], _, by simp, listed_log, written.log, rfl⟩)
  · rintro ⟨page, logged⟩ file member
    obtain ⟨other, node', below, listed, found, rfl⟩ := mem_markdownPaths_treeOf.1 member
    by_cases own : other = [logName]
    · subst own
      rw [written.log] at found
      exact ⟨page, Option.some.inj found ▸ logged⟩
    · rcases written.others other own own with same | ⟨_, _, front⟩
      · exact readable _ (mem_markdownPaths_treeOf.2 ⟨other, node', below, listed, same ▸ found, rfl⟩)
      · exact absurd (List.prefix_nil.1 front) below

/-- The row of a page that has the key after the update is the one that is read. -/
theorem read_page_iff (distinct' : ((parsedPages service (treeOf root last)).map ParsedWikiPage.pageKey).Nodup)
    (stands : PageAt service root last other page) (same : page.pageKey = old.pageKey) :
    (∃ row, (compiled service (treeOf root last) now db).pages.find? old.pageKey = some row ∧ row.body = new.body) ↔
      page.body = new.body := by
  rw [← same, row_written distinct' stands]
  constructor
  · rintro ⟨row, found, body⟩
    rw [← Option.some.inj found] at body
    exact body
  · intro body
    exact ⟨_, rfl, body⟩

section Log
variable (written : Written root disk last [logName] content log)
  (distinct : ((parsedPages service (treeOf root disk)).map ParsedWikiPage.pageKey).Nodup)
  (stands : PageAt service root disk [logName] old)
include written distinct stands

/-- Unless it is the log, no page has the key of the log any more. -/
theorem unlike_log (unlike : ∀ page, LogPage service log page → page.pageKey ≠ old.pageKey) :
    ∀ other page, PageAt service root last other page → page.pageKey ≠ old.pageKey := by
  intro other page stands' same
  rcases (pageAt_written (by simp) listed_log written).1 stands' with ⟨_, logged⟩ | ⟨_, unlogged, _⟩ | ⟨_, unlogged, stood⟩
  · exact unlike page logged same
  · exact unlogged rfl
  · exact unlogged (distinct_treeOf.1 distinct _ _ _ _ stood stands same)

theorem read_log_iff (rows : Rows service root disk db)
    (readable : ∀ file ∈ (treeOf root disk).markdownPaths, ∃ page, service.parseMarkdownPage file = .ok page)
    (distinct' : ((parsedPages service (treeOf root last)).map ParsedWikiPage.pageKey).Nodup) :
    (∃ row, (compiled service (treeOf root last) now db).pages.find? old.pageKey = some row ∧ row.body = new.body) ↔
      (∀ page, LogPage service log page → page.pageKey = old.pageKey ∧ page.body = new.body) ∧
        ((∀ page, ¬LogPage service log page) → old.body = new.body) := by
  have clean := clean_written written distinct' readable
  cases parsed : service.parseMarkdownPage (wikiFile [logName] (.file log)) with
  | error raised =>
    -- The compile has an error to report, and leaves the rows as they are.
    have none : ∀ page, ¬LogPage service log page := by
      intro page logged
      rw [LogPage, parsed] at logged
      cases logged
    have failed : (scanFiles service (treeOf root last).markdownPaths).errors ≠ [] := by
      intro empty
      obtain ⟨page, logged⟩ := clean.1 empty
      exact none page logged
    have absent := unlike_log written distinct stands fun page logged => absurd logged (none page)
    rw [absent_written absent, if_neg failed, rows _ _ stands]
    constructor
    · rintro ⟨row, found, body⟩
      rw [← Option.some.inj found] at body
      exact ⟨fun page logged => absurd logged (none page), fun _ => body⟩
    · intro holds
      exact ⟨_, rfl, holds.2 none⟩
  | ok page =>
    have only : ∀ other, LogPage service log other → other = page := by
      intro other logged
      exact Except.ok.inj (logged.symm.trans parsed)
    by_cases same : page.pageKey = old.pageKey
    · rw [read_page_iff distinct' ((pageAt_written (by simp) listed_log written).2 (.inl ⟨rfl, parsed⟩)) same]
      constructor
      · intro body
        exact ⟨fun other logged => only other logged ▸ ⟨same, body⟩, fun none => absurd parsed (none page)⟩
      · intro holds
        exact (holds.1 page parsed).2
    · have absent := unlike_log written distinct stands fun other logged => only other logged ▸ same
      rw [absent_written absent, if_pos (clean.2 ⟨page, parsed⟩)]
      constructor
      · rintro ⟨row, found, _⟩
        cases found
      · intro holds
        exact absurd (holds.1 page parsed).1 same

end Log

section Given
variable (below : path ≠ []) (listed : Listed path) (written : Written root disk last path content log)
  (distinct : ((parsedPages service (treeOf root disk)).map ParsedWikiPage.pageKey).Nodup)
  (stands : PageAt service root disk place old)
  (parses : service.parseMarkdownPage (wikiFile path (.file (some content))) = .ok new) (keeps : new.pageKey = old.pageKey)
include below listed written distinct stands parses keeps

/-- No two pages share a key after the update exactly where the log and the written file take no key of another page. -/
theorem distinct_written : ((parsedPages service (treeOf root last)).map ParsedWikiPage.pageKey).Nodup ↔
      LogApart service root path disk log ∧ Alone service place path log old := by
  have before := distinct_treeOf.1 distinct
  have after : ∀ {other page}, _ := fun {other page} =>
    @pageAt_written _ _ _ service root path other disk last content log page below listed written
  rw [distinct_treeOf]
  constructor
  · intro apart
    refine ⟨?_, ?_⟩
    · intro page logged other second stands' unlike unlogged same
      exact unlogged (apart _ _ _ _ (after.2 (.inl ⟨rfl, logged⟩)) (after.2 (.inr (.inr ⟨unlike, unlogged, stands'⟩)))
        same).symm
    · intro unlogged
      have own := after.2 (.inr (.inl ⟨rfl, unlogged, parses⟩))
      refine ⟨?_, ?_⟩
      · intro page logged same
        exact unlogged (apart _ _ _ _ (after.2 (.inl ⟨rfl, logged⟩)) own (same.trans keeps.symm)).symm
      · by_contra neither
        rw [not_or] at neither
        exact neither.1 (apart _ _ _ _ (after.2 (.inr (.inr ⟨neither.1, neither.2, stands⟩))) own keeps.symm)
  · rintro ⟨logs, alone⟩ first page other second here there same
    -- The written page meets no other one, since the page of its key has been there or in the log.
    have single : ∀ {other second}, path ≠ [logName] → other ≠ path → other ≠ [logName] →
        PageAt service root disk other second → second.pageKey ≠ old.pageKey := by
      intro other second unlogged unlike unlogged' stands' equal
      have place' := before _ _ _ _ stands' stands equal
      exact (alone unlogged).2.elim (fun own => unlike (place'.trans own)) fun own => unlogged' (place'.trans own)
    rcases after.1 here with ⟨rfl, logged⟩ | ⟨rfl, unlogged, parsed⟩ | ⟨unlike, unlogged, stands'⟩ <;>
      rcases after.1 there with ⟨rfl, logged'⟩ | ⟨rfl, unlogged', parsed'⟩ | ⟨unlike', unlogged', stands''⟩
    · rfl
    · obtain rfl := Except.ok.inj (parses.symm.trans parsed')
      exact absurd (same.trans keeps) ((alone unlogged').1 page logged)
    · exact absurd same (logs page logged _ _ stands'' unlike' unlogged')
    · obtain rfl := Except.ok.inj (parses.symm.trans parsed)
      exact absurd (same.symm.trans keeps) ((alone unlogged).1 second logged')
    · rfl
    · obtain rfl := Except.ok.inj (parses.symm.trans parsed)
      exact absurd (same.symm.trans keeps) (single unlogged unlike' unlogged' stands'')
    · exact absurd same.symm (logs second logged' _ _ stands' unlike unlogged)
    · obtain rfl := Except.ok.inj (parses.symm.trans parsed')
      exact absurd (same.trans keeps) (single unlogged' unlike unlogged stands')
    · exact before _ _ _ _ stands' stands'' same

theorem others_written_iff (rows : Rows service root disk db)
    (distinct' : ((parsedPages service (treeOf root last)).map ParsedWikiPage.pageKey).Nodup) :
    OthersKept service root disk last db (compiled service (treeOf root last) now db) old.pageKey ↔
      (path ≠ [logName] → place = path ∨ ∀ page, ¬PageAt service root disk path page) := by
  constructor
  · intro kept unlogged
    by_contra neither
    rw [not_or, not_forall_not] at neither
    obtain ⟨elsewhere, page, stands'⟩ := neither
    have foreign : page.pageKey ≠ old.pageKey := fun same =>
      elsewhere (distinct_treeOf.1 distinct _ _ _ _ stands stands' same.symm)
    have same := (kept path page stands' foreign unlogged).1
    obtain ⟨raw, found, parsed⟩ := stands'.parses
    rw [written.page unlogged, found] at same
    obtain rfl := Node.file.inj (Option.some.inj same)
    obtain rfl := Except.ok.inj (parses.symm.trans parsed)
    exact foreign keeps
  · intro free other page stands' foreign unlogged
    have unlike : other ≠ path := by
      rintro rfl
      rcases free unlogged with rfl | none
      · exact foreign (congrArg _ (stands'.unique stands))
      · exact none page stands'
    constructor
    · obtain ⟨raw, found, _⟩ := stands'.parses
      rcases written.others other unlike unlogged with same | ⟨none, _, _⟩
      · exact same
      · rw [found] at none
        cases none
    · have stays := (pageAt_written below listed written).2 (.inr (.inr ⟨unlike, unlogged, stands'⟩))
      rw [rows other page stands', row_written distinct' stays]

theorem read_written_iff (rows : Rows service root disk db)
    (readable : ∀ file ∈ (treeOf root disk).markdownPaths, ∃ page, service.parseMarkdownPage file = .ok page)
    (distinct' : ((parsedPages service (treeOf root last)).map ParsedWikiPage.pageKey).Nodup) :
    (∃ row, (compiled service (treeOf root last) now db).pages.find? old.pageKey = some row ∧ row.body = new.body) ↔
      (path = [logName] → LogHolds service place log old new) := by
  by_cases logged : path = [logName]
  · rw [LogHolds]
    by_cases own : place = [logName]
    · rw [if_pos own]
      subst logged own
      rw [read_log_iff written distinct stands rows readable distinct']
      exact ⟨fun holds _ => holds, fun holds => holds rfl⟩
    · rw [if_neg own]
      have stays := (pageAt_written below listed written).2 (.inr (.inr ⟨logged ▸ own, own, stands⟩))
      rw [read_page_iff distinct' stays rfl]
      exact ⟨fun body _ => body, fun body => body logged⟩
  · have placed := (pageAt_written below listed written).2 (.inr (.inl ⟨rfl, logged, parses⟩))
    rw [read_page_iff distinct' placed keeps]
    exact ⟨fun _ same => absurd same logged, fun _ => rfl⟩

end Given

end Pages

/-! An update by key. -/

section Updates
variable [CharData]

/-- Without a path in the payload the file is that of the key. -/
theorem path_of_key {proposal : EvolutionProposal} {path : Path}
    (keyed : ((proposal.payload.get "path").or (.str "")).toStr = "")
    (safe : proposalPath proposal.payload "" = .ok path) : normalizePageKey (keyOf proposal) ≠ "" ∧
      path = (PurePath.parse (normalizePageKey (keyOf proposal) ++ ".md")).parts := by
  simp only [proposalPath, keyed, ↓reduceIte] at safe
  rw [show normalizePageKey ((proposal.payload.get "page_key").or (.str "")).toStr =
    normalizePageKey (keyOf proposal) from rfl] at safe
  by_cases none : normalizePageKey (keyOf proposal) = ""
  · rw [if_pos none, if_pos (.inl rfl)] at safe
    cases safe
  · rw [if_neg none] at safe
    by_cases unsafe' : normalizePageKey (keyOf proposal) ++ ".md" = "" ∨
        (PurePath.parse (normalizePageKey (keyOf proposal) ++ ".md")).absolute = true ∨
        ".." ∈ (PurePath.parse (normalizePageKey (keyOf proposal) ++ ".md")).parts.map Subtype.val
    · rw [if_pos unsafe'] at safe
      cases safe
    · rw [if_neg unsafe'] at safe
      exact ⟨none, (Except.ok.inj safe).symm⟩

theorem listed_of_path {proposal : EvolutionProposal} {path : Path}
    (keyed : ((proposal.payload.get "path").or (.str "")).toStr = "")
    (safe : proposalPath proposal.payload "" = .ok path) : path ≠ [] ∧ Listed path := by
  have named := path_of_key keyed safe
  rw [named.2]
  exact listed_of_key named.1

variable [FloatData] [DateData]

/-- The proposal updates the page `old` of a cleanly compiled wiki, which it names by the key alone, and its content is
the page `new` of the same key. -/
structure KeyedUpdate (service : WikiService) (places : Places) (disk : Disk) (state : State)
    (proposal : EvolutionProposal) (place path : Path) (old new : ParsedWikiPage) : Prop where
  closed : Closed disk
  inside : node disk places.root = some .directory
  compiled : ∃ earlier before report after,
    compile service (treeOf places.root disk) earlier before = .ok (report, after) ∧ report.status = "ok" ∧
      state.db.pages = after.pages
  updates : proposal.action = "update_page"
  keyed : ((proposal.payload.get "path").or (.str "")).toStr = ""
  stands : PageAt service places.root disk place old
  named : old.pageKey = normalizePageKey (keyOf proposal)
  safe : proposalPath proposal.payload "" = .ok path
  parses : service.parseMarkdownPage (wikiFile path (.file (some (contentOf proposal)))) = .ok new
  keeps : new.pageKey = old.pageKey

/-- The key reads as the new body, the other pages keep their files and rows, and no duplicate key is reported. -/
structure Updated (service : WikiService) (places : Places) (disk last : Disk) (state next : State)
    (proposal : EvolutionProposal) (new : ParsedWikiPage) : Prop where
  read : ∃ row, Sufficiency.read next.db (keyOf proposal) = some row ∧ row.body = new.body
  others : OthersKept service places.root disk last state.db next.db (normalizePageKey (keyOf proposal))
  undoubled : Undoubled (next.db.errors.rows.drop state.db.errors.rows.length)

/-- The page is in the file of its key, or in the log while that file is no page, and the log with its new line takes
no key of another page. The file of the key `log` is the log itself, which has to hold the new body then. -/
structure InPlace (service : WikiService) (root : Path) (disk : Disk) (place path : Path) (old new : ParsedWikiPage)
    (log : Raw) : Prop where
  apart : LogApart service root path disk log
  alone : path ≠ [logName] → (∀ page, LogPage service log page → page.pageKey ≠ old.pageKey) ∧
    (place = path ∨ place = [logName] ∧ ∀ page, ¬PageAt service root disk path page)
  holds : path = [logName] → LogHolds service place log old new

/-- What a clean compile leaves: pages of distinct keys that all parse, with their rows. -/
theorem rows_of_compiled {service : WikiService} {root : Path} {disk : Disk} {now : Int} {db after : WikiDb}
    {report : CompileReport} (returned : compile service (treeOf root disk) now db = .ok (report, after))
    (ok : report.status = "ok") : ((parsedPages service (treeOf root disk)).map ParsedWikiPage.pageKey).Nodup ∧
      Rows service root disk after ∧
      ∀ file ∈ (treeOf root disk).markdownPaths, ∃ page, service.parseMarkdownPage file = .ok page := by
  have clean := clean_of_ok returned ok
  have parsed : parsedPages service (treeOf root disk) = indexedPages service (treeOf root disk) :=
    filterMap_of_parses (parses_of_clean clean)
  have distinct : ((parsedPages service (treeOf root disk)).map ParsedWikiPage.pageKey).Nodup := by
    rw [parsed]
    exact scanFiles_distinct _
  refine ⟨distinct, ?_, (clean_iff distinct).1 clean⟩
  intro other page stands
  rw [(compile_ok returned).2]
  exact find?_compiled (parsed ▸ mem_parsedPages_treeOf.2 ⟨other, stands⟩)

/-- An update by key that returns updates its page and nothing else exactly where the page is in place. -/
theorem updated_iff {service : WikiService} {places : Places} {clock : Clock} {actor : String} {disk last : Disk}
    {state next : State} {proposal applied : EvolutionProposal} {id : Nat} {place path : Path} {old new : ParsedWikiPage}
    (update : KeyedUpdate service places disk state proposal place path old new)
    (found : state.proposals.get? id = some proposal)
    (returned : (applyProposal places clock actor service state id).exec disk = (.ok (applied, next), last)) :
    Updated service places disk last state next proposal new ↔
      InPlace service places.root disk place path old new
        (recordedLog places clock actor disk id path (contentOf proposal)) := by
  obtain ⟨earlier, before, report, after, compiled', ok, same⟩ := update.compiled
  obtain ⟨distinct, rows', readable⟩ := rows_of_compiled compiled' ok
  have rows : Rows service places.root disk state.db := by
    intro other page stands
    rw [same]
    exact rows' other page stands
  obtain ⟨below, listed⟩ := listed_of_path update.keyed update.safe
  obtain ⟨written, report', made⟩ :=
    written_of_returned update.closed update.inside found update.updates update.safe below returned
  have db := (compile_ok made).2
  have undoubled : Undoubled (next.db.errors.rows.drop state.db.errors.rows.length) ↔
      LogApart service places.root path disk (recordedLog places clock actor disk id path (contentOf proposal)) ∧
        Alone service place path (recordedLog places clock actor disk id path (contentOf proposal)) old := by
    rw [db]
    exact undoubled_compiled.trans
      (distinct_written below listed written distinct update.stands update.parses update.keeps)
  have key : normalizePageKey (keyOf proposal) = old.pageKey := update.named.symm
  constructor
  · rintro ⟨read, others, single⟩
    rw [Sufficiency.read, key, db] at read
    rw [key, db] at others
    have distinct' : ((parsedPages service (treeOf places.root last)).map ParsedWikiPage.pageKey).Nodup := by
      rw [db] at single
      exact undoubled_compiled.1 single
    obtain ⟨apart, alone⟩ := undoubled.1 single
    refine ⟨apart, ?_, (read_written_iff below listed written distinct update.stands update.parses update.keeps
      rows readable distinct').1 read⟩
    intro unlogged
    have free := (others_written_iff below listed written distinct update.stands update.parses update.keeps rows
      distinct').1 others unlogged
    obtain ⟨unlike, placed⟩ := alone unlogged
    exact ⟨unlike, or_and_left.2 ⟨placed, free⟩⟩
  · rintro ⟨apart, alone, holds⟩
    have single := undoubled.2 ⟨apart, fun unlogged => ⟨(alone unlogged).1, (alone unlogged).2.imp_right And.left⟩⟩
    have distinct' : ((parsedPages service (treeOf places.root last)).map ParsedWikiPage.pageKey).Nodup := by
      rw [db] at single
      exact undoubled_compiled.1 single
    refine ⟨?_, ?_, single⟩
    · rw [Sufficiency.read, key, db]
      exact (read_written_iff below listed written distinct update.stands update.parses update.keeps rows readable
        distinct').2 holds
    · rw [key, db]
      exact (others_written_iff below listed written distinct update.stands update.parses update.keeps rows distinct').2
        fun unlogged => (alone unlogged).2.imp_right And.right

end Updates

section Demo
attribute [local instance] CharData.ascii FloatData.decimal DateData.undated

private theorem root_named : "wiki" ≠ "" ∧ '/' ∉ "wiki".toList := by decide +kernel

private def rootName : Name := ⟨"wiki", root_named⟩

private theorem key_named : "a.md" ≠ "" ∧ '/' ∉ "a.md".toList := by decide +kernel

private def keyFile : Name := ⟨"a.md", key_named⟩

private def otherFile : Name := ⟨"x.md", by decide +kernel⟩

private def wikiPlaces : Places := ⟨[rootName], [rootName]⟩

/-- A wiki with one page. -/
private def oneFile (name : Name) (text : String) : Disk :=
  setNode (setNode ∅ [rootName] .directory) [rootName, name] (.file (some text))

private def updating (content : String) : EvolutionProposal :=
  { targetType := "wiki", action := "update_page", payload := [("page_key", .str "a"), ("content", .str content)] }

private theorem only_oneFile {name : Name} {text : String} {other : Path} {raw : Raw}
    (stands : node (oneFile name text) ([rootName] ++ other) = some (.file raw)) : other = [name] := by
  rw [oneFile, node_setNode (by simp), node_setNode (by simp)] at stands
  by_cases own : [rootName] ++ other = [rootName, name]
  · exact List.append_cancel_left own
  · rw [if_neg own] at stands
    by_cases top : [rootName] ++ other = [rootName]
    · rw [if_pos top] at stands
      cases stands
    · rw [if_neg top, node_of_ne _ (by simp)] at stands
      cases stands

/-- The rows after a compile, with the proposal. -/
private def stateOf (service : WikiService) (disk : Disk) (content : String) : State where
  db := compiled service (treeOf [rootName] disk) 0 noRows
  proposals := ⟨[updating content]⟩

private def keyIn (service : WikiService) (name : Name) (text : String) : Option String :=
  (service.parseMarkdownPage (wikiFile [name] (.file (some text)))).toOption.map ParsedWikiPage.pageKey

private def runUpdate (service : WikiService) (disk : Disk) (content : String) :=
  (applyProposal wikiPlaces ⟨0, "t", "t"⟩ "admin" service (stateOf service disk content) 0).exec disk

private theorem update_oneFile {service : WikiService} {name : Name} {text content : String}
    (closed : Closed (oneFile name text)) (inside : node (oneFile name text) [rootName] = some .directory)
    (clean : ((scanFiles service (treeOf [rootName] (oneFile name text)).markdownPaths).pages.all fun page =>
      Yaml.jsonable (.map page.metadata)) = true ∧
      (compileReport service (treeOf [rootName] (oneFile name text))).status = "ok")
    (stands : Listed [name] ∧ node (oneFile name text) [rootName, name] = some (.file (some text)))
    (keys : keyIn service name text = some "a" ∧ keyIn service keyFile content = some "a")
    (request : (((updating content).payload.get "path").or (.str "")).toStr = "" ∧
      normalizePageKey (keyOf (updating content)) = "a" ∧ proposalPath (updating content).payload "" = .ok [keyFile] ∧
      contentOf (updating content) = content) :
    ∃ old new, KeyedUpdate service wikiPlaces (oneFile name text) (stateOf service (oneFile name text) content)
      (updating content) [name] [keyFile] old new := by
  obtain ⟨old, parsed, key⟩ := Option.map_eq_some_iff.1 keys.1
  obtain ⟨new, parsed', key'⟩ := Option.map_eq_some_iff.1 keys.2
  obtain ⟨keyed, named, safe, kept⟩ := request
  refine ⟨old, new, closed, inside, ⟨0, noRows, _, _, if_pos clean.1, clean.2, rfl⟩, rfl, keyed,
    ⟨by simp, stands.1, _, stands.2, toOption_eq_some.1 parsed⟩, key.trans named.symm, safe, ?_, key'.trans key.symm⟩
  rw [kept]
  exact toOption_eq_some.1 parsed'

/-- A loader that reads every frontmatter as `page_key: a`. -/
private def keyedService : WikiService where
  root := "/wiki"
  safeLoad _ := .ok (.map [(.str "page_key", .str "a")])
  sha256 text := text

private def misplaced : Disk := oneFile otherFile "---\npage_key: a\n---\n# A"

private def renewed : String := "---\npage_key: a\n---\n# New"

/-- A page whose frontmatter gives it the key of another file than its own. -/
theorem update_doubles_page : ∃ old new applied next last,
    KeyedUpdate keyedService wikiPlaces misplaced (stateOf keyedService misplaced renewed) (updating renewed)
      [otherFile] [keyFile] old new ∧
    runUpdate keyedService misplaced renewed = (.ok (applied, next), last) ∧
    ¬Updated keyedService wikiPlaces misplaced last (stateOf keyedService misplaced renewed) next (updating renewed)
      new := by
  have doubled : ((runUpdate keyedService misplaced renewed).1.toOption.map fun result =>
        (result.2.db.errors.rows.drop (stateOf keyedService misplaced renewed).db.errors.rows.length).any fun entry =>
          entry.errorType = "duplicate_page_key") = some true := by
    decide +kernel
  obtain ⟨old, new, update⟩ := @update_oneFile keyedService otherFile "---\npage_key: a\n---\n# A" renewed
    (by decide +kernel) (by decide +kernel) (by decide +kernel) ⟨by constructor <;> decide +kernel, by decide +kernel⟩
    (by decide +kernel) (by decide +kernel)
  obtain ⟨⟨applied, next⟩, found, any⟩ := Option.map_eq_some_iff.1 doubled
  refine ⟨old, new, applied, next, _, update, Prod.ext (toOption_eq_some.1 found) rfl, ?_⟩
  intro updated
  obtain ⟨entry, member, doubles⟩ := List.any_eq_true.1 any
  exact updated.undoubled entry member (of_decide_eq_true doubles)

/-- A page in the file of its key. -/
private def placed : Disk := oneFile keyFile "# A"

theorem update_placed_page : ∃ old new applied next last,
    KeyedUpdate plainService wikiPlaces placed (stateOf plainService placed "# New") (updating "# New") [keyFile] [keyFile]
      old new ∧
    runUpdate plainService placed "# New" = (.ok (applied, next), last) ∧
    Updated plainService wikiPlaces placed last (stateOf plainService placed "# New") next (updating "# New") new := by
  have returns : (runUpdate plainService placed "# New").1.toOption.isSome = true := by decide +kernel
  have logs : (plainService.parseMarkdownPage (wikiFile [logName] (.file (recordedLog wikiPlaces ⟨0, "t", "t"⟩ "admin"
      placed 0 [keyFile] (contentOf (updating "# New")))))).toOption.map ParsedWikiPage.pageKey = some "log" := by
    decide +kernel
  obtain ⟨old, new, update⟩ := @update_oneFile plainService keyFile "# A" "# New" (by decide +kernel)
    (by decide +kernel) (by decide +kernel) ⟨by constructor <;> decide +kernel, by decide +kernel⟩ (by decide +kernel)
    (by decide +kernel)
  have key : old.pageKey = "a" := update.named.trans (by decide +kernel)
  obtain ⟨⟨applied, next⟩, found⟩ := Option.isSome_iff_exists.1 returns
  have ran : runUpdate plainService placed "# New" = (.ok (applied, next), _) := Prod.ext (toOption_eq_some.1 found) rfl
  refine ⟨old, new, applied, next, _, update, ran, (updated_iff update rfl ran).2 ⟨?_, ?_, ?_⟩⟩
  · rintro page logged other second ⟨_, _, raw, stands, _⟩ unlike _
    exact absurd (only_oneFile stands) unlike
  · intro _
    refine ⟨?_, .inl rfl⟩
    intro page logged same
    obtain ⟨logPage, parsed, logKey⟩ := Option.map_eq_some_iff.1 logs
    rw [Except.ok.inj (logged.symm.trans (toOption_eq_some.1 parsed)), logKey, key] at same
    exact absurd same (by decide)
  · exact fun same => absurd same (by decide)

end Demo

end SoulClaw.Wiki.KeyedUpdates
