import SoulClaw.Foundation.Runs
import SoulClaw.Wiki.Image
import SoulClaw.Wiki.Lint
import SoulClaw.Wiki.Proposals

/-! Archiving pages. A process that works in the root of the wiki, and finds the place in the archive free,
moves each named page there and leaves every other file but the log as it is. -/

namespace SoulClaw.Wiki.Archive
open Foundation Files Lines Markdown Compile Lint Storage Proposals

section Steps
variable [CharData] [FloatData] [DateData] (places : Places) (service : WikiService)

/-- A call of `apply_proposal`. -/
structure Request where
  id : Nat
  clock : Clock
  actor : String

/-- The files and the committed rows after a call that returns. -/
def step (world : Disk × State) (request : Request) : Option (Disk × State) :=
  match (applyProposal places request.clock request.actor service world.2 request.id).exec world.1 with
  | (.ok (_, state), disk) => some (disk, state)
  | (.error _, _) => none

/-- The files after a page has been moved and the log has its line. -/
def archived (request : Request) (path : Path) (disk : Disk) : Except PyException Disk := do
  let disk ← makeDirectories [] (places.root ++ [archiveName]) disk
  let disk ← rename (places.root ++ path) (places.root ++ archivePath path) disk
  appendLog places.root (appliedEntry request.id "archive_page" (posix (archivePath path))) request.actor
    request.clock.stamp disk

/-- The metadata of the pages below the root can be stored. -/
def Indexable (disk : Disk) : Prop :=
  ((indexedPages service (treeOf places.root disk)).all fun page => Yaml.jsonable (.map page.metadata)) = true

/-- The path that the proposal of a request names. -/
def named (state : State) (request : Request) : Option Path :=
  (state.proposals.get? request.id).bind fun proposal => (proposalPath proposal.payload "").toOption

/-- A proposal to archive a page that is neither canonical nor in the archive. -/
structure Names (world : Disk × State) (request : Request) (path : Path) (raw : Raw) : Prop where
  proposal : ∃ proposal, world.2.proposals.get? request.id = some proposal ∧ applicable proposal = .ok () ∧
    proposal.action = "archive_page" ∧ proposalPath proposal.payload "" = .ok path
  page : node world.1 (places.root ++ path) = some (.file raw)
  below : path ≠ []
  ordinary : posix path ∉ canonicalWikiFiles
  outside : path.head? ≠ some archiveName

/-- The process works in the root, the page can be read, no other content has its place in the archive, the log
can be written, and the pages can be indexed afterwards. -/
structure Movable (disk : Disk) (request : Request) (path : Path) (raw : Raw) : Prop where
  working : places.cwd = places.root
  readable : raw ≠ none
  directory : ∀ content, node disk (places.root ++ [archiveName]) ≠ some (.file content)
  place : ∀ there, node disk (places.root ++ archivePath path) = some there → there = .file raw
  log : node disk (places.root ++ [logName]) ≠ some .directory
  indexable : ∀ next, archived places request path disk = .ok next → Indexable places service next

def Archivable (world : Disk × State) (request : Request) : Prop :=
  ∃ path raw, Names places world request path raw ∧ Movable places service world.1 request path raw

/-- What moving some pages does to the files. -/
structure Moves (before after : Disk) (paths : List Path) : Prop where
  outside : ∀ path ∈ paths, path.head? ≠ some archiveName ∧ path ≠ [logName]
  pages : ∀ path ∈ paths, ∃ raw, node before (places.root ++ path) = some (.file raw) ∧
    node after (places.root ++ archivePath path) = some (.file raw)
  gone : ∀ path ∈ paths, node after (places.root ++ path) = none
  archive : ∀ rest raw, node before (places.root ++ archiveName :: rest) = some (.file raw) →
    node after (places.root ++ archiveName :: rest) = some (.file raw)
  others : ∀ place, (∀ path ∈ paths, place ≠ places.root ++ path ∧ place ≠ places.root ++ archivePath path) →
    place ≠ places.root ++ [logName] → place ≠ places.root ++ [archiveName] → node after place = node before place

variable {places service} {world : Disk × State} {request : Request} {path : Path} {raw : Raw}

omit [CharData] [FloatData] [DateData] in
theorem ne_log_of_ordinary (ordinary : posix path ∉ canonicalWikiFiles) : path ≠ [logName] := by
  rintro rfl
  exact ordinary (by decide +kernel)

omit [FloatData] [DateData] in
/-- A line that says something goes to the end of the log. -/
theorem appendLog_returns {root : Path} {disk : Disk} (closed : Closed disk) (inside : node disk root = some .directory)
    (log : node disk (root ++ [logName]) ≠ some .directory) {entry : String} (visible : Text.strip entry ≠ "")
    (actor stamp : String) : ∃ next, appendLog root entry actor stamp disk = .ok next ∧ Closed next ∧
      node next root = some .directory ∧ ∀ place, place ≠ root ++ [logName] → node next place = node disk place := by
  obtain ⟨next, changed, kept, nodes⟩ := change_returns closed (by simp : root ++ [logName] ≠ [])
    (by rw [List.dropLast_concat, inside]) log (appended (logLine entry actor stamp))
  have others : ∀ place, place ≠ root ++ [logName] → node next place = node disk place := by
    intro place different
    rw [nodes, if_neg different]
  refine ⟨next, ?_, kept, ?_, others⟩
  · rw [appendLog, if_neg visible, makeDirectories_existing closed inside]
    exact changed
  · rw [others root (by simp), inside]

omit [FloatData] [DateData] in
/-- The files after a page has been moved to its place in the archive. -/
theorem archived_returns {disk : Disk} (closed : Closed disk) (page : node disk (places.root ++ path) = some (.file raw))
    (below : path ≠ []) (outside : path.head? ≠ some archiveName) (other : path ≠ [logName])
    (directory : ∀ content, node disk (places.root ++ [archiveName]) ≠ some (.file content))
    (free : ∀ there, node disk (places.root ++ archivePath path) = some there → there = .file raw)
    (log : node disk (places.root ++ [logName]) ≠ some .directory) (request : Request) :
    ∃ next, archived places request path disk = .ok next ∧ Closed next ∧ node next places.root = some .directory ∧
      Moves places disk next [path] := by
  have inside := directory_above closed places.root path below page
  obtain ⟨name, last⟩ : ∃ name, path.getLast? = some name := Option.isSome_iff_exists.1 (by simp [below])
  have place : archivePath path = [archiveName, name] := by simp [archivePath, last]
  have place' : places.root ++ archivePath path = places.root ++ [archiveName] ++ [name] := by simp [place]
  have within : ∀ rest, path ≠ archiveName :: rest := by
    rintro rest rfl
    exact outside rfl
  have names : logName ≠ archiveName := by decide
  obtain ⟨first, made, closed₁, archive, same₁⟩ := makeDirectories_child closed inside archiveName directory
  have page₁ : node first (places.root ++ path) = some (.file raw) := by
    rw [same₁ _ fun same => within [] (List.append_cancel_left same), page]
  have leaf₁ : node first (places.root ++ archivePath path) ≠ some .directory := by
    rw [place', same₁ _ (by simp), ← place']
    intro found
    cases free _ found
  obtain ⟨second, moved, closed₂, nodes₂⟩ := rename_returns closed₁ page₁ (by simp [place])
    (by rw [place', List.dropLast_concat, archive]) leaf₁
  have root₂ : node second places.root = some .directory := by
    rw [nodes₂, if_neg (by simp [place]), if_neg (by simp [below]), same₁ _ (by simp), inside]
  have log₂ : node second (places.root ++ [logName]) = node disk (places.root ++ [logName]) := by
    rw [nodes₂, if_neg (by simp [place]), if_neg, same₁ _ (by simpa using names)]
    exact fun same => other (List.append_cancel_left same).symm
  obtain ⟨next, wrote, closed₃, root₃, same₃⟩ := appendLog_returns closed₂ root₂ (by rw [log₂]; exact log)
    (strip_appliedEntry_ne _ _ _) request.actor request.clock.stamp
  refine ⟨next, bind_eq_ok.2 ⟨first, made, bind_eq_ok.2 ⟨second, moved, wrote⟩⟩, closed₃, root₃, ?_⟩
  have log_apart : ∀ rest, places.root ++ archiveName :: rest ≠ places.root ++ [logName] := by
    intro rest same
    exact names (List.cons.inj (List.append_cancel_left same)).1.symm
  have arrived : node next (places.root ++ archivePath path) = some (.file raw) := by
    rw [same₃ (places.root ++ archivePath path) (log_apart _), nodes₂, if_pos rfl]
  constructor
  · intro member listed
    rw [List.mem_singleton.1 listed]
    exact ⟨outside, other⟩
  · intro member listed
    rw [List.mem_singleton.1 listed]
    exact ⟨raw, page, arrived⟩
  · intro member listed
    have apart : places.root ++ path ≠ places.root ++ archivePath path := by
      rw [place]
      exact fun same => within [name] (List.append_cancel_left same)
    rw [List.mem_singleton.1 listed, same₃ _ fun same => other (List.append_cancel_left same), nodes₂, if_neg apart,
      if_pos rfl]
  · intro rest old found
    by_cases here : archiveName :: rest = archivePath path
    · rw [here] at found ⊢
      cases free _ found
      exact arrived
    · have new : rest ≠ [] := by
        rintro rfl
        exact directory old found
      rw [same₃ _ (log_apart rest), nodes₂, if_neg fun same => here (List.append_cancel_left same),
        if_neg fun same => within rest (List.append_cancel_left same).symm,
        same₁ _ fun same => new (List.cons.inj (List.append_cancel_left same)).2, found]
  · intro there apart unlogged unarchived
    obtain ⟨source, target⟩ := apart path List.mem_cons_self
    rw [same₃ _ unlogged, nodes₂, if_neg target, if_neg source, same₁ _ unarchived]

omit [FloatData] [DateData] in
theorem named_eq {state : State} {proposal : EvolutionProposal} (found : state.proposals.get? request.id = some proposal) :
    named state request = (proposalPath proposal.payload "").toOption := by
  rw [named, found]
  rfl

omit [FloatData] [DateData] in
/-- The branch of `archive_page`, in a process that works in the root. -/
theorem archivePage_exec {disk first second : Disk} {payload : Dict} {content : String}
    (safe : proposalPath payload "" = .ok path) (below : path ≠ []) (read : readPath places.root path disk = .ok content)
    (made : makeDirectories [] (places.root ++ [archiveName]) disk = .ok first)
    (moved : rename (places.cwd ++ path) (places.root ++ archivePath path) first = .ok second) :
    (archivePage places payload).exec disk = (.ok (beforeOf (posix path) content, posix (archivePath path)), second) := by
  have above : (places.root ++ archivePath path).dropLast = places.root ++ [archiveName] := by
    obtain ⟨name, last⟩ : ∃ name, path.getLast? = some name := Option.isSome_iff_exists.1 (by simp [below])
    simp [archivePath, last]
  have named : (Program.ofExcept (proposalPath payload "") : FileM Raw Path).exec disk = (.ok path, disk) := by
    rw [Program.exec_ofExcept, safe]
  have look : (Program.look (readPath places.root path) : FileM Raw String).exec disk = (.ok content, disk) := by
    rw [Program.exec_look, read]
  rw [← above] at made
  rw [archivePage, Program.exec_bind_of_ok _ named, Program.exec_bind_of_ok _ look,
    Program.exec_bind_of_ok _ (Program.exec_write_of_ok made), Program.exec_bind_of_ok _ (Program.exec_write_of_ok moved),
    Program.exec_pure]

omit [FloatData] [DateData] in
/-- A proposal names the same page once it is applied. -/
theorem named_applied {state : State} {proposal : EvolutionProposal} {id : Nat}
    (found : state.proposals.get? id = some proposal) (before : Dict) (changed : String) (report : CompileReport)
    (actor : String) (now : Int) (db : WikiDb) (request : Request) :
    named { db, proposals := state.proposals.set id (EvolutionProposal.applied proposal before changed report actor now) }
      request = named state request := by
  by_cases same : request.id = id
  · subst same
    have now' := Table.get?_set_self (EvolutionProposal.applied proposal before changed report actor now) found
    rw [named_eq found, named, now']
    rfl
  · rw [named, Table.get?_set_ne _ _ same, named]

/-- A page that can be archived is archived, and the proposals go on naming their pages. -/
theorem step_returns (closed : Closed world.1) (names : Names places world request path raw)
    (movable : Movable places service world.1 request path raw) :
    ∃ next, step places service world request = some next ∧ Closed next.1 ∧ Moves places world.1 next.1 [path] ∧
      named world.2 request = some path ∧ ∀ other, named next.2 other = named world.2 other := by
  obtain ⟨proposal, found, ready, archives, safe⟩ := names.proposal
  obtain ⟨disk, moved, closed', inside, moves⟩ := archived_returns closed names.page names.below names.outside
    (ne_log_of_ordinary names.ordinary) movable.directory movable.place movable.log request
  have indexable := movable.indexable disk moved
  obtain ⟨first, made, moved⟩ := bind_eq_ok.1 moved
  obtain ⟨second, renamed, wrote⟩ := bind_eq_ok.1 moved
  obtain ⟨text, rfl⟩ := Option.ne_none_iff_exists'.1 movable.readable
  obtain ⟨content, read⟩ : ∃ content, readPath places.root path world.1 = .ok content := by
    rw [readPath, names.page]
    exact ⟨_, rfl⟩
  have page := archivePage_exec safe names.below read made (by rw [movable.working, renamed])
  have action : (applyAction places request.clock request.actor proposal).exec world.1 =
      (.ok (beforeOf (posix path) content, posix (archivePath path)), second) := by
    rw [applyAction, if_neg (by simp [archives]), if_pos archives, page]
  rw [← archives] at wrote
  have compiles := compileDisk_exec service request.clock closed' inside world.2.db
  obtain ⟨⟨report, db⟩, returns⟩ : ∃ compiled, compile service (treeOf places.root disk) request.clock.now world.2.db =
      .ok compiled := ⟨_, if_pos indexable⟩
  have applied := applyProposal_exec service found ready action wrote
  rw [compiles, returns] at applied
  dsimp only at applied
  have name : named world.2 request = some path := by
    rw [named_eq found, safe]
    rfl
  have taken : step places service world request = some (disk, ⟨db, world.2.proposals.set request.id
      (EvolutionProposal.applied proposal (beforeOf (posix path) content) (posix (archivePath path)) report request.actor
        request.clock.now)⟩) := by
    rw [step, applied]
  exact ⟨_, taken, closed', moves, name, named_applied found _ _ report _ _ db⟩

end Steps

/-! Runs. -/

section Runs
variable {places : Places} {before middle after : Disk} {first second : List Path}

theorem Moves.nil : Moves places before before [] where
  outside _ listed := absurd listed List.not_mem_nil
  pages _ listed := absurd listed List.not_mem_nil
  gone _ listed := absurd listed List.not_mem_nil
  archive _ _ found := found
  others _ _ _ _ := rfl

/-- A page is apart from the archive, the pages there and the log. -/
theorem Moves.apart {paths : List Path} (moves : Moves places before after paths) {path : Path} (listed : path ∈ paths) :
    (∀ rest, places.root ++ path ≠ places.root ++ archiveName :: rest) ∧
      places.root ++ path ≠ places.root ++ [logName] := by
  obtain ⟨outside, log⟩ := moves.outside path listed
  constructor
  · intro rest same
    rw [List.append_cancel_left same] at outside
    exact outside rfl
  · exact fun same => log (List.append_cancel_left same)

theorem Moves.append (left : Moves places before middle first) (right : Moves places middle after second) :
    Moves places before after (first ++ second) := by
  constructor
  · intro path listed
    exact (List.mem_append.1 listed).elim (left.outside path) (right.outside path)
  · intro path listed
    rcases List.mem_append.1 listed with early | late
    · obtain ⟨raw, page, arrived⟩ := left.pages path early
      exact ⟨raw, page, right.archive _ raw arrived⟩
    · obtain ⟨raw, page, arrived⟩ := right.pages path late
      obtain ⟨unarchived, unlogged⟩ := right.apart late
      refine ⟨raw, ?_, arrived⟩
      rw [← page]
      symm
      apply left.others _ _ unlogged (unarchived [])
      intro other early
      refine ⟨?_, unarchived _⟩
      intro same
      have gone := left.gone other early
      rw [← same, page] at gone
      cases gone
  · intro path listed
    by_cases late : path ∈ second
    · exact right.gone path late
    · have early := (List.mem_append.1 listed).resolve_right late
      obtain ⟨unarchived, unlogged⟩ := left.apart early
      rw [← left.gone path early]
      apply right.others _ _ unlogged (unarchived [])
      intro other listed'
      refine ⟨?_, unarchived _⟩
      intro same
      rw [List.append_cancel_left same] at late
      exact late listed'
  · intro rest raw found
    exact right.archive rest raw (left.archive rest raw found)
  · intro place apart unlogged unarchived
    rw [right.others place (fun path listed => apart path (List.mem_append_right _ listed)) unlogged unarchived]
    exact left.others place (fun path listed => apart path (List.mem_append_left _ listed)) unlogged unarchived

variable [CharData] [FloatData] [DateData] {service : WikiService} {requests : List Request}

/-- Requests that can be carried out one after the other move their pages into the archive, lose no content and
leave the other files as they are. -/
theorem run_archives {world : Disk × State} (closed : Closed world.1)
    (archivable : Runs.Along (step places service) (Archivable places service) world requests) :
    ∃ paths last, requests.map (named world.2) = paths.map some ∧
      Runs.run (step places service) world requests = some last ∧ Moves places world.1 last.1 paths := by
  induction requests generalizing world with
  | nil => exact ⟨[], world, rfl, rfl, Moves.nil⟩
  | cons request rest ih =>
    obtain ⟨⟨path, raw, names, movable⟩, later⟩ := archivable
    obtain ⟨next, taken, closed', moves, name, kept⟩ := step_returns closed names movable
    obtain ⟨paths, last, listed, ran, moved⟩ := ih closed' (later next taken)
    refine ⟨path :: paths, last, ?_, Runs.run_cons_eq_some.2 ⟨next, taken, ran⟩, moves.append moved⟩
    rw [List.map_cons, List.map_cons, name, ← listed]
    congr 2
    funext other
    rw [kept]

end Runs

section Demo
attribute [local instance] CharData.ascii FloatData.decimal DateData.undated

private def wiki : Name := ⟨"wiki", by decide +kernel⟩

private def sub : Name := ⟨"b", by decide +kernel⟩

private def leaf : Name := ⟨"a.md", by decide +kernel⟩

/-- A wiki with a page in its root and one of the same name in a directory. -/
private def twoLeaves : Disk :=
  setNode (setNode (setNode (setNode ∅ [wiki] .directory) [wiki, leaf] (.file (some "# A"))) [wiki, sub] .directory)
    [wiki, sub, leaf] (.file (some "# B"))

private def archiving (path : String) : EvolutionProposal :=
  { targetType := "wiki", action := "archive_page", payload := [("path", .str path)] }

private def twoProposals : Disk × State :=
  (twoLeaves, { db := Image.noRows, proposals := ⟨[archiving "a.md", archiving "b/a.md"]⟩ })

private def requestOf (id : Nat) : Request := ⟨id, ⟨0, "t", "t"⟩, "admin"⟩

private def atHome : Places := ⟨[wiki], [wiki]⟩

private def elsewhere : Places := ⟨[wiki], []⟩

theorem run_archives_leaf : ∃ paths last, [requestOf 1].map (named twoProposals.2) = paths.map some ∧
    Runs.run (step atHome Image.plainService) twoProposals [requestOf 1] = some last ∧
      Moves atHome twoLeaves last.1 paths := by
  have names : Names atHome twoProposals (requestOf 1) [sub, leaf] (some "# B") := by
    refine ⟨⟨archiving "b/a.md", rfl, ?_, rfl, ?_⟩, ?_, ?_, ?_, ?_⟩ <;> decide +kernel
  have indexable : (archived atHome (requestOf 1) [sub, leaf] twoLeaves).toOption.all
      (fun next => (indexedPages Image.plainService (treeOf [wiki] next)).all fun page =>
        Yaml.jsonable (.map page.metadata)) = true := by
    decide +kernel
  have movable : Movable atHome Image.plainService twoLeaves (requestOf 1) [sub, leaf] (some "# B") := by
    constructor
    · rfl
    · simp
    · have free : node twoLeaves ([wiki] ++ [archiveName]) = none := by decide +kernel
      intro content found
      rw [show atHome.root = [wiki] from rfl, free] at found
      cases found
    · have free : node twoLeaves ([wiki] ++ archivePath [sub, leaf]) = none := by decide +kernel
      intro there found
      rw [show atHome.root = [wiki] from rfl, free] at found
      cases found
    · decide +kernel
    · intro next made
      rw [made] at indexable
      exact indexable
  exact run_archives (by decide +kernel) ⟨⟨_, _, names, movable⟩, fun _ _ => trivial⟩

/-- A process that does not work in the root finds no page under the path, and a second page of the same name
takes the place of the first. -/
theorem archiving_loses :
    (∃ raw, Names elsewhere twoProposals (requestOf 0) [leaf] raw) ∧
      step elsewhere Image.plainService twoProposals (requestOf 0) = none ∧
      (Runs.run (step atHome Image.plainService) twoProposals [requestOf 0, requestOf 1]).map
        (fun last => last.1.entries.any fun entry => entry.2 = .file (some "# A")) = some false := by
  refine ⟨⟨some "# A", ⟨archiving "a.md", rfl, ?_, rfl, ?_⟩, ?_, ?_, ?_, ?_⟩, ?_, ?_⟩ <;> decide +kernel

end Demo

end SoulClaw.Wiki.Archive
