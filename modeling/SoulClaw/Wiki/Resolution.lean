import SoulClaw.Wiki.Image

/-! Which page a wikilink leads to when its target is the key of a page. The dictionary of the
names is filled in the order of the paths, so that a page behind that page can take the name
away from it. -/

namespace SoulClaw.Wiki.Resolution
open Foundation Markdown Compile Image

section Names
variable [CharData] {before later : List ParsedWikiPage} {own : ParsedWikiPage}

/-- A page keeps its key as a name exactly when no later page has it as an alias or as its title. -/
theorem knownNames_key_iff (distinct : ((before ++ own :: later).map ParsedWikiPage.pageKey).Nodup) :
    knownNames (before ++ own :: later) own.pageKey = some own.pageKey ↔
      ∀ other ∈ later, own.pageKey ∉ otherNames other := by
  have apart : ∀ other ∈ later, other.pageKey ≠ own.pageKey := by
    intro other member same
    rw [List.map_append, List.map_cons] at distinct
    have fresh := (List.nodup_cons.1 (List.Nodup.of_append_right distinct)).1
    exact fresh (same ▸ List.mem_map_of_mem member)
  rw [knownNames_eq, Declarations.table_keeps_iff ParsedWikiPage.pageKey List.mem_cons_self apart]
  apply forall_congr'
  intro other
  apply imp_congr_right
  intro member
  rw [names, List.mem_cons, not_or]
  exact and_iff_right (apart other member).symm

end Names

section Links
variable [CharData] [FloatData] [DateData]

/-- The row of an occurrence of a wikilink in a page leads to the page under `key`. -/
def ResolvedTo (db : WikiDb) (page : ParsedWikiPage) (link : Wikilink) (key : String) : Prop :=
  ∃ row ∈ db.links, row.srcPageKey = page.pageKey ∧ row.anchorText = link.anchor ∧
    row.rawTarget = .str link.key ∧ row.status = "resolved" ∧ row.dstPageKey = key

instance (db : WikiDb) (page : ParsedWikiPage) (link : Wikilink) (key : String) :
    Decidable (ResolvedTo db page link key) := by
  unfold ResolvedTo
  infer_instance

variable {service : WikiService} {tree : WikiTree} {now : Int} {db after : WikiDb} {report : CompileReport}

omit [CharData] [FloatData] [DateData] in
theorem wikiLink_resolved {known : String → Option String} {page : ParsedWikiPage} {target anchor key : String} :
    (wikiLink known page (target, anchor)).status = "resolved" ∧
      (wikiLink known page (target, anchor)).dstPageKey = key ↔ resolve known target = some key := by
  rw [wikiLink]
  cases resolve known target with
  | none => simp
  | some found => simp

/-- An occurrence is recorded as resolved to the page whose key it names if and only if the key is
not empty and no later page has it as an alias or as its title. -/
theorem key_wins_iff (service : WikiService) (tree : WikiTree) (now : Int) (db after : WikiDb)
    (report : CompileReport) (returned : compile service tree now db = .ok (report, after))
    (before later : List ParsedWikiPage) (own : ParsedWikiPage)
    (scanned : indexedPages service tree = before ++ own :: later)
    (page : ParsedWikiPage) (member : page ∈ indexedPages service tree)
    (link : Wikilink) (occurs : link ∈ wikilinks page.body) (targets : link.key = own.pageKey) :
    ResolvedTo after page link own.pageKey ↔
      own.pageKey ≠ "" ∧ ∀ other ∈ later, own.pageKey ∉ otherNames other := by
  obtain ⟨_, rfl⟩ := compile_ok returned
  have distinct : ((before ++ own :: later).map ParsedWikiPage.pageKey).Nodup :=
    scanned ▸ scanFiles_distinct tree.markdownPaths
  rw [← knownNames_key_iff distinct, ← scanned]
  constructor
  · rintro ⟨row, stored, _, _, raw, resolved, leads⟩
    obtain ⟨source, _, occurrence, _, keyed, rfl⟩ := mem_compiled_links.1 stored
    rw [rawTarget_wikiLink] at raw
    have same : occurrence.key = own.pageKey := (Json.str.inj raw).trans targets
    have found : resolve (knownNames (indexedPages service tree)) occurrence.key = some own.pageKey :=
      wikiLink_resolved.1 ⟨resolved, leads⟩
    rw [same] at found
    exact (resolve_eq_some.1 found).symm
  · rintro ⟨keyed, known⟩
    have found : resolve (knownNames (indexedPages service tree)) link.key = some own.pageKey := by
      rw [targets]
      exact resolve_eq_some.2 ⟨known, keyed⟩
    obtain ⟨resolved, leads⟩ := wikiLink_resolved.2 found
    exact ⟨_, mem_compiled_links.2 ⟨page, member, link, occurs, targets ▸ keyed, rfl⟩, rfl, rfl,
      rawTarget_wikiLink .., resolved, leads⟩

end Links

section Demo
attribute [local instance] CharData.ascii FloatData.decimal DateData.undated

theorem key_wins_second : ∃ report after own page,
    compile plainService (twoPages "# First" "# Second\n\n[[a]]") 0 noRows = .ok (report, after) ∧
      indexedPages plainService (twoPages "# First" "# Second\n\n[[a]]") = [own, page] ∧
      (ResolvedTo after page ⟨"a", none⟩ own.pageKey ↔
        own.pageKey ≠ "" ∧ ∀ other ∈ [page], own.pageKey ∉ otherNames other) := by
  have returned : compile plainService (twoPages "# First" "# Second\n\n[[a]]") 0 noRows = .ok (_, _) :=
    if_pos (by decide +kernel)
  refine ⟨_, _, _, _, returned, rfl, ?_⟩
  exact key_wins_iff _ _ _ _ _ _ returned [] _ _ rfl _ (List.mem_cons_of_mem _ List.mem_cons_self) ⟨"a", none⟩
    (by decide +kernel) (by decide +kernel)

/-- The title of the second page is the key of the first one, and takes its link away. -/
theorem title_takes_key : ∃ report after own page,
    compile plainService (twoPages "# First" "# A\n\n[[a]]") 0 noRows = .ok (report, after) ∧
      indexedPages plainService (twoPages "# First" "# A\n\n[[a]]") = [own, page] ∧
      ⟨"a", none⟩ ∈ wikilinks page.body ∧ Wikilink.key ⟨"a", none⟩ = own.pageKey ∧
      ¬ResolvedTo after page ⟨"a", none⟩ own.pageKey := by
  have returned : compile plainService (twoPages "# First" "# A\n\n[[a]]") 0 noRows = .ok (_, _) :=
    if_pos (by decide +kernel)
  exact ⟨_, _, _, _, returned, rfl, by decide +kernel, by decide +kernel, by decide +kernel⟩

end Demo

end SoulClaw.Wiki.Resolution
