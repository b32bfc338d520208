import SoulClaw.Wiki.Image

/-! What a compile keeps of a page whose file no longer parses. The rows of the pages stay as long as
there is an error, but the links are written anew from the pages that parse. -/

namespace SoulClaw.Wiki.Unparsed
open Foundation Markdown Compile Image

section Edits
variable [CharData] [FloatData] [DateData] (service : WikiService)

/-- The file is left unchanged, or it no longer parses. -/
def Edit (old new : WikiFile) : Prop :=
  new = old ∨ new.path = old.path ∧ ∃ raised, service.parseMarkdownPage new = .error raised

/-- The page of the row has a file that does not parse. -/
def Unparsable (tree : WikiTree) (row : WikiPage) : Prop :=
  ∃ file ∈ tree.markdownPaths, file.path = row.path ∧ ∃ raised, service.parseMarkdownPage file = .error raised

instance (file : WikiFile) : Decidable (∃ raised, service.parseMarkdownPage file = .error raised) :=
  match service.parseMarkdownPage file with
  | .error raised => isTrue ⟨raised, rfl⟩
  | .ok page => isFalse fun ⟨raised, failed⟩ => by cases failed

instance (tree : WikiTree) (row : WikiPage) : Decidable (Unparsable service tree row) := by
  unfold Unparsable
  infer_instance

/-- The key of a page that the tables had, and that no longer parses. -/
def Lost (tree : WikiTree) (before : WikiDb) (key : String) : Prop :=
  ∃ row ∈ before.pages.rows, row.pageKey = key ∧ Unparsable service tree row

/-- The key of a page that the tables had, and that is unchanged. -/
def Unchanged (tree : WikiTree) (before : WikiDb) (key : String) : Prop :=
  ∃ row ∈ before.pages.rows, row.pageKey = key ∧ ¬Unparsable service tree row

instance (tree : WikiTree) (before : WikiDb) (key : String) : Decidable (Lost service tree before key) := by
  unfold Lost
  infer_instance

instance (tree : WikiTree) (before : WikiDb) (key : String) : Decidable (Unchanged service tree before key) := by
  unfold Unchanged
  infer_instance

/-- What the tables had of the unparsable pages is still there. -/
structure Kept (tree : WikiTree) (before after : WikiDb) : Prop where
  rows : ∀ row ∈ before.pages.rows, Unparsable service tree row → row ∈ after.pages.rows
  outgoing : ∀ link ∈ before.links, link.status = "resolved" → Lost service tree before link.srcPageKey →
    link ∈ after.links
  incoming : ∀ link ∈ before.links, link.status = "resolved" → Unchanged service tree before link.srcPageKey →
    Lost service tree before link.dstPageKey → link ∈ after.links

end Edits

section Kept
variable [CharData] [FloatData] [DateData] {service : WikiService} {tree edited : WikiTree}
  {pages : List ParsedWikiPage} {before : WikiDb}
  (image : IsImage service tree pages before)
  (edits : List.Forall₂ (Edit service) tree.markdownPaths edited.markdownPaths)

omit [CharData] [FloatData] [DateData] in
theorem exists_related {First Second : Type*} {relation : First → Second → Prop} {firsts : List First}
    {seconds : List Second} (related : List.Forall₂ relation firsts seconds) {second : Second}
    (member : second ∈ seconds) : ∃ first ∈ firsts, relation first second := by
  induction related with
  | nil => cases member
  | cons head _ ih =>
    rcases List.mem_cons.1 member with rfl | later
    · exact ⟨_, List.mem_cons_self, head⟩
    · obtain ⟨first, listed, holds⟩ := ih later
      exact ⟨first, List.mem_cons_of_mem _ listed, holds⟩

omit [CharData] [FloatData] [DateData] in
/-- An edit of every file that keeps its path keeps the order of the paths. -/
theorem markdownPaths_map {change : WikiFile → WikiFile} (path : ∀ file, (change file).path = file.path)
    (changed : edited.files = tree.files.map change) : edited.markdownPaths = tree.markdownPaths.map change := by
  have parts : ∀ file, (change file).parts = file.parts := fun file => by rw [WikiFile.parts, path, WikiFile.parts]
  have markdown : ∀ file, isMarkdown (change file) = isMarkdown file := fun file => by
    rw [isMarkdown, WikiFile.name, parts, isMarkdown, WikiFile.name]
  have hidden : ∀ file, isHidden (change file) = isHidden file := fun file => by rw [isHidden, parts, isHidden]
  have sorted := List.map_insertionSort (fun first second : WikiFile => first.parts ≤ second.parts)
    (fun first second : WikiFile => first.parts ≤ second.parts) change (tree.files.filter isMarkdown)
    fun first _ second _ => by rw [parts, parts]
  rw [WikiTree.markdownPaths, WikiTree.markdownPaths, changed, List.filter_map]
  simp only [Function.comp_def, markdown]
  rw [← sorted, List.filter_map]
  simp only [Function.comp_def, hidden]

/-- A change of the files that keeps their paths, and that leaves them alone or makes them unparsable. -/
theorem edits_of_map {change : WikiFile → WikiFile} (path : ∀ file, (change file).path = file.path)
    (changed : edited.files = tree.files.map change) (edit : ∀ file ∈ tree.markdownPaths, Edit service file (change file)) :
    List.Forall₂ (Edit service) tree.markdownPaths edited.markdownPaths := by
  rw [markdownPaths_map path changed, List.forall₂_map_right_iff, List.forall₂_same]
  exact edit

theorem page_of_mem {file : WikiFile} {files : List WikiFile} {pages : List ParsedWikiPage}
    (parses : Parses service files pages) (member : file ∈ files) :
    ∃ page ∈ pages, service.parseMarkdownPage file = .ok page := exists_related parses.flip member

/-- Every row of a page has a file that parses or one that does not. -/
theorem unchanged_of_not_lost {key : String} (known : key ∈ before.pages.keys)
    (kept : ¬Lost service edited before key) : Unchanged service edited before key := by
  obtain ⟨row, stored, same⟩ := List.mem_map.1 known
  exact ⟨row, stored, same, fun broken => kept ⟨row, stored, same, broken⟩⟩

include image edits

/-- A page that is still indexed is a page from before, and its file is unchanged. -/
theorem indexed_edited {page : ParsedWikiPage} (member : page ∈ indexedPages service edited) :
    page ∈ pages ∧ ∃ file ∈ edited.markdownPaths, file.path = page.relativePath ∧
      service.parseMarkdownPage file = .ok page := by
  obtain ⟨file, listed, parsed⟩ := parsed_of_mem_scanFiles member
  refine ⟨?_, file, listed, (relativePath_of_parsed parsed).symm, parsed⟩
  obtain ⟨old, known, rfl | ⟨_, raised, failed⟩⟩ := exists_related edits listed
  · obtain ⟨other, kept, same⟩ := page_of_mem image.parses known
    obtain rfl : page = other := Except.ok.inj (parsed.symm.trans same)
    exact kept
  · rw [parsed] at failed
    cases failed

/-- No page that is still indexed has the key of an unparsable page. -/
theorem lost_not_indexed {page : ParsedWikiPage} (member : page ∈ indexedPages service edited) :
    ¬Lost service edited before page.pageKey := by
  rintro ⟨row, stored, same, broken, listed, path, raised, failed⟩
  obtain ⟨kept, file, known, own, parsed⟩ := indexed_edited image edits member
  obtain ⟨other, old, rfl⟩ := List.mem_map.1 (image.pageRows.mem_iff.1 stored)
  obtain rfl : other = page := List.inj_on_of_nodup_map image.distinct old kept same
  obtain rfl : broken = file :=
    List.inj_on_of_nodup_map edited.markdownPaths_distinct listed known (path.trans own.symm)
  rw [parsed] at failed
  cases failed

theorem row_kept {now : Int} {row : WikiPage} (stored : row ∈ before.pages.rows)
    (broken : Unparsable service edited row) : row ∈ (compiled service edited now before).pages.rows := by
  have failing : (scanFiles service edited.markdownPaths).errors ≠ [] := by
    intro clean
    obtain ⟨file, listed, _, raised, failed⟩ := broken
    obtain ⟨page, _, parsed⟩ := page_of_mem (parses_of_clean clean) listed
    rw [parsed] at failed
    cases failed
  have settles : ∀ page record, record.pageKey = (newPage page).pageKey →
      (pageChange page).apply record = pageImage page := fun _ _ same => refresh_eq_pageImage same
  rw [compiled, compilePages_pages, cleared, if_neg failing]
  apply (Keyed.mem_upsertAll settles (scanFiles_distinct edited.markdownPaths)).2
  refine .inl ⟨stored, fun page member same => ?_⟩
  exact lost_not_indexed image edits member ⟨row, stored, same, broken⟩

/-- The compile after the edit returns. -/
theorem jsonable_edited (clean : pages.all fun page => Yaml.jsonable (.map page.metadata)) :
    (indexedPages service edited).all fun page => Yaml.jsonable (.map page.metadata) := by
  rw [List.all_eq_true] at clean ⊢
  exact fun page member => clean page (indexed_edited image edits member).1

theorem link_after {now : Int} {link : WikiLink} (stored : link ∈ (compiled service edited now before).links) :
    ¬Lost service edited before link.srcPageKey ∧
      (link.status = "resolved" → ¬Lost service edited before link.dstPageKey) := by
  obtain ⟨page, member, occurrence, _, _, rfl⟩ := mem_compiled_links.1 stored
  refine ⟨lost_not_indexed image edits member, ?_⟩
  intro resolved
  cases found : resolve (knownNames (indexedPages service edited)) occurrence.key with
  | none =>
    rw [wikiLink] at resolved
    simp [found] at resolved
  | some key =>
    have known := (resolve_eq_some.1 found).1
    rw [knownNames_apply] at known
    obtain ⟨owning, owned, rfl⟩ := Option.map_eq_some_iff.1 known
    rw [wikiLink, found]
    exact lost_not_indexed image edits (Declarations.mem_of_owner owned)

end Kept

section Claim
variable [CharData] [FloatData] [DateData]

/-- After a clean compile and an edit that makes some pages unparsable, the next compile returns, and
it keeps what the tables had of these pages exactly if no resolved link starts or ends at one. -/
theorem kept_iff_unlinked (service : WikiService) (tree edited : WikiTree) (now later : Int)
    (old before : WikiDb) (report : CompileReport)
    (returned : compile service tree now old = .ok (report, before)) (ok : report.status = "ok")
    (edits : List.Forall₂ (Edit service) tree.markdownPaths edited.markdownPaths) :
    ∃ next after, compile service edited later before = .ok (next, after) ∧
      (Kept service edited before after ↔ ∀ link ∈ before.links, link.status = "resolved" →
        ¬Lost service edited before link.srcPageKey ∧ ¬Lost service edited before link.dstPageKey) := by
  have image := isImage_of_ok returned ok
  have clean : (indexedPages service tree).all fun page => Yaml.jsonable (.map page.metadata) := by
    rw [compile] at returned
    split at returned
    next jsonable => exact jsonable
    next => cases returned
  refine ⟨_, _, if_pos (jsonable_edited image edits clean), ?_, ?_⟩
  · intro kept link stored resolved
    have source : ¬Lost service edited before link.srcPageKey := by
      intro lost
      exact (link_after image edits (kept.outgoing link stored resolved lost)).1 lost
    refine ⟨source, fun lost => ?_⟩
    have known := (resolved_leads returned stored resolved).1
    have incoming := kept.incoming link stored resolved (unchanged_of_not_lost known source) lost
    exact (link_after image edits incoming).2 resolved lost
  · intro unlinked
    refine ⟨fun row stored broken => row_kept image edits stored broken, ?_, ?_⟩
    · intro link stored resolved lost
      exact absurd lost (unlinked link stored resolved).1
    · intro link stored resolved _ lost
      exact absurd lost (unlinked link stored resolved).2

end Claim

section Demo
attribute [local instance] CharData.ascii FloatData.decimal DateData.undated

/-- A loader that does not accept an open bracket. -/
private def strictService : WikiService where
  root := "/wiki"
  safeLoad text := if text = "[" then .error ⟨.yamlError, "while parsing a flow node"⟩ else .ok .null
  sha256 text := text

private def brokenText : String := "---\n[\n---\n# First"

private theorem broken_raises :
    strictService.parseMarkdownPage { path := "a.md", text := .ok brokenText } =
      .error ⟨.yamlError, "while parsing a flow node"⟩ := by
  have front : strictService.frontmatter brokenText = .error ⟨.yamlError, "while parsing a flow node"⟩ := by
    have split : matchFrontmatter brokenText = some ("[", "# First") := by decide +kernel
    rw [WikiService.frontmatter, split]
    rfl
  rw [WikiService.parseMarkdownPage]
  simp only [front]

private def breakFirst (file : WikiFile) : WikiFile :=
  if file.path = "a.md" then { path := "a.md", text := .ok brokenText } else file

private theorem first_edited (second : String) : List.Forall₂ (Edit strictService)
    (twoPages "# First" second).markdownPaths (twoPages brokenText second).markdownPaths := by
  apply @edits_of_map _ _ _ _ _ _ breakFirst
  · intro file
    rw [breakFirst]
    split
    next here => exact here.symm
    next => rfl
  · rfl
  · intro file _
    rw [breakFirst]
    split
    next here => exact .inr ⟨here.symm, _, broken_raises⟩
    next => exact .inl rfl

theorem kept_alone : ∃ report before next after,
    compile strictService (twoPages "# First" "# Second") 0 noRows = .ok (report, before) ∧
      compile strictService (twoPages brokenText "# Second") 1 before = .ok (next, after) ∧
      (Kept strictService (twoPages brokenText "# Second") before after ↔
        ∀ link ∈ before.links, link.status = "resolved" →
          ¬Lost strictService (twoPages brokenText "# Second") before link.srcPageKey ∧
          ¬Lost strictService (twoPages brokenText "# Second") before link.dstPageKey) := by
  have returned : compile strictService (twoPages "# First" "# Second") 0 noRows = .ok (_, _) :=
    if_pos (by decide +kernel)
  obtain ⟨next, after, compiles, kept⟩ := kept_iff_unlinked strictService _ (twoPages brokenText "# Second") 0 1
    noRows _ _ returned (by decide +kernel) (first_edited "# Second")
  exact ⟨_, _, next, after, returned, compiles, kept⟩

private def linkedPages : WikiTree := twoPages "# First" "# Second\n\n[[a]]"

private def brokenPages : WikiTree := twoPages brokenText "# Second\n\n[[a]]"

private def linkedDb : WikiDb := compiled strictService linkedPages 0 noRows

/-- The second page links to the first one. When that stops parsing, the link is not resolved any more. -/
theorem link_to_unparsable_lost : ∃ report before next after,
    compile strictService linkedPages 0 noRows = .ok (report, before) ∧ report.status = "ok" ∧
      List.Forall₂ (Edit strictService) linkedPages.markdownPaths brokenPages.markdownPaths ∧
      compile strictService brokenPages 1 before = .ok (next, after) ∧
      ¬Kept strictService brokenPages before after := by
  have returned : compile strictService linkedPages 0 noRows = .ok (_, linkedDb) := if_pos (by decide +kernel)
  have again : compile strictService brokenPages 1 linkedDb = .ok (_, compiled strictService brokenPages 1 linkedDb) :=
    if_pos (by decide +kernel)
  refine ⟨_, _, _, _, returned, by decide +kernel, first_edited _, again, ?_⟩
  intro kept
  have lost : Lost strictService brokenPages linkedDb "a" := by decide +kernel
  have unchanged : Unchanged strictService brokenPages linkedDb "b" := by decide +kernel
  have link := kept.incoming
    { srcPageKey := "b"
      dstPageKey := "a"
      status := "resolved"
      anchorText := "a"
      metadata := [("raw_target", .str "a")] } (by decide +kernel) rfl unchanged lost
  exact absurd link (by decide +kernel)

end Demo

end SoulClaw.Wiki.Unparsed
