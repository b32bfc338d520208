import SoulClaw.Foundation.Runs
import SoulClaw.Runtime.Heartbeat

/-! Which reviews enlarge the active tasks. A note is a list of two items behind the last line of the file: it leaves
the sections as they are, and its items are tasks exactly when the last section is the active one. -/

namespace SoulClaw.Runtime.Heartbeat
open Foundation Files Lines Wiki.Storage Evolution.Workspace
open Wiki.Proposals (EvolutionProposal)
open Skills.Service (createProposal)

/-- What is read of a file with this text. -/
def translated (text : String) : String := String.ofList (universalNewlines text.toList)

def heartbeatFile (content : String) : WorkspaceFile := ⟨"heartbeat", posix [heartbeatName], content⟩

theorem heartbeatFile_content (content : String) : (heartbeatFile content).content = content := rfl

/-! The scan of the lines. -/

section Scan
variable [CharData]

theorem next_nil (scan : TaskScan) : scan.next [] = scan := by
  have header : ¬"## ".toList <+: ([] : List Char) := by decide
  have item : ¬(scan.inActive = true ∧ "-".toList <+: ([] : List Char)) := fun both => absurd both.2 (by decide)
  rw [TaskScan.next, if_neg header, if_neg item]

theorem foldl_next_blank (scan : TaskScan) (count : Nat) : (List.replicate count []).foldl TaskScan.next scan = scan := by
  induction count with
  | zero => rfl
  | succ count ih => rw [List.replicate_succ, List.foldl_cons, next_nil, ih]

/-- The scan sees what the lines say, and no blank lines. -/
theorem scanTasks_eq (content : String) : scanTasks content = (stripped content.toList).foldl TaskScan.next {} := by
  obtain ⟨count, same⟩ := stripped_splitlines content.toList
  rw [same, List.foldl_append, foldl_next_blank, List.foldl_map, scanTasks]

/-- Reading translates the newlines, which changes no line. -/
theorem scanTasks_read (text : String) : scanTasks (translated text) = scanTasks text := by
  rw [scanTasks_eq, scanTasks_eq, translated, String.toList_ofList, stripped, parts_universalNewlines, stripped]

/-- The last header of a section, as the scan sees it. -/
def lastHeader (lines : List (List Char)) : Option (List Char) :=
  (lines.filter fun line => "## ".toList.isPrefixOf line).getLast?

/-- The file ends in the section of the active tasks. -/
def EndsActive (content : String) : Prop :=
  ∃ header ∈ lastHeader (stripped content.toList), Text.lower (String.ofList header) = "## active tasks"

theorem inActive_foldl (lines : List (List Char)) : (lines.foldl TaskScan.next {}).inActive = true ↔
    ∃ header ∈ lastHeader lines, Text.lower (String.ofList header) = "## active tasks" := by
  induction lines using List.reverseRecOn with
  | nil => exact iff_of_false Bool.noConfusion fun ⟨_, absent, _⟩ => by cases absent
  | append_singleton lines line ih =>
    rw [List.foldl_append, List.foldl_cons, List.foldl_nil, TaskScan.next, lastHeader, List.filter_append]
    by_cases header : "## ".toList <+: line
    · rw [if_pos header, List.filter_cons_of_pos (List.isPrefixOf_iff_prefix.2 header), List.filter_nil, List.getLast?_concat]
      simp
    · rw [if_neg header, List.filter_cons_of_neg (fun opens => header (List.isPrefixOf_iff_prefix.1 opens)), List.filter_nil,
        List.append_nil, ← lastHeader, ← ih]
      split
      · dsimp only
        split <;> rfl
      · rfl

theorem inActive_eq_false_iff (content : String) : (scanTasks content).inActive = false ↔ ¬EndsActive content := by
  rw [EndsActive, ← inActive_foldl, scanTasks_eq, Bool.not_eq_true]

/-- Outside of the active section a list item is skipped, and it ends no section. -/
theorem next_item_outside {scan : TaskScan} (outside : scan.inActive = false) (rest : List Char) :
    scan.next ('-' :: rest) = scan := by
  have header : ¬"## ".toList <+: '-' :: rest := fun opens => absurd (List.cons_prefix_cons.1 opens).1 (by decide)
  have item : ¬(scan.inActive = true ∧ "-".toList <+: '-' :: rest) := by
    rw [outside]
    exact fun both => Bool.false_ne_true both.1
  rw [TaskScan.next, if_neg header, if_neg item]

/-- In the active section it is a task, unless it is left out. -/
theorem next_item_inside {scan : TaskScan} (inside : scan.inActive = true) (rest : List Char) :
    (scan.next ('-' :: rest)).inActive = true ∧ scan.tasks.length ≤ (scan.next ('-' :: rest)).tasks.length ∧
      (Text.strip (String.ofList rest) ≠ "" →
        Text.contains (Text.lower (Text.strip (String.ofList rest))) "empty when no proactive" = false →
        scan.tasks.length < (scan.next ('-' :: rest)).tasks.length) := by
  have header : ¬"## ".toList <+: '-' :: rest := fun opens => absurd (List.cons_prefix_cons.1 opens).1 (by decide)
  have item : scan.inActive = true ∧ "-".toList <+: '-' :: rest := ⟨inside, ⟨rest, rfl⟩⟩
  rw [TaskScan.next, if_neg header, if_pos item, List.drop_one, List.tail_cons]
  dsimp only
  split
  next listed =>
    refine ⟨inside, ?_, fun _ _ => ?_⟩
    all_goals
      rw [List.length_append, List.length_singleton]
      omega
  next left =>
    refine ⟨inside, le_rfl, fun visible other => absurd ⟨visible, ?_⟩ left⟩
    rw [other]
    rfl

theorem next_plain {scan : TaskScan} (plain : ∀ task ∈ scan.tasks, ∀ c ∈ task.toList, isBreak c = false) {line : List Char}
    (plain' : ∀ c ∈ line, isBreak c = false) : ∀ task ∈ (scan.next line).tasks, ∀ c ∈ task.toList, isBreak c = false := by
  unfold TaskScan.next
  split
  · exact plain
  · split
    · dsimp only
      split
      · intro task member c inside
        rcases List.mem_append.1 member with old | new
        · exact plain task old c inside
        · rw [List.mem_singleton.1 new, strip_toList, String.toList_ofList] at inside
          exact plain' c (List.drop_subset _ _ (strip_subset _ inside))
      · exact plain
    · exact plain

/-- A task is a part of a line. -/
theorem scanTasks_plain (content : String) : ∀ task ∈ (scanTasks content).tasks, ∀ c ∈ task.toList, isBreak c = false := by
  have onward : ∀ (lines : List (List Char)) (scan : TaskScan), (∀ line ∈ lines, ∀ c ∈ line, isBreak c = false) →
      (∀ task ∈ scan.tasks, ∀ c ∈ task.toList, isBreak c = false) →
      ∀ task ∈ (lines.foldl (fun scan line => scan.next (strip line)) scan).tasks, ∀ c ∈ task.toList, isBreak c = false := by
    intro lines
    induction lines with
    | nil => exact fun scan _ plain => plain
    | cons line rest ih =>
      intro scan lines plain
      refine ih _ (fun other member => lines other (List.mem_cons_of_mem _ member)) (next_plain plain ?_)
      exact fun c inside => lines line List.mem_cons_self c (strip_subset _ inside)
  exact onward _ {} (fun line member => plain_of_mem_splitlines member) fun task none => absurd none List.not_mem_nil

/-- The second item of a note. -/
def statusLine : List Char := "  - Status: pending human review.".toList

theorem strip_statusLine : strip statusLine = '-' :: " Status: pending human review.".toList := by
  have ascii : ∀ c ∈ statusLine, c.toNat < 0x80 := Text.forall_listed (by decide)
  rw [strip_of_ascii ascii]
  decide +kernel

/-- The status is listed in the active section. -/
theorem status_listed : Text.strip (String.ofList " Status: pending human review.".toList) ≠ "" ∧
    Text.contains (Text.lower (Text.strip (String.ofList " Status: pending human review.".toList)))
      "empty when no proactive" = false := by
  have status : Text.strip (String.ofList " Status: pending human review.".toList) = "Status: pending human review." := by
    apply String.toList_injective
    have ascii : ∀ c ∈ " Status: pending human review.".toList, c.toNat < 0x80 := Text.forall_listed (by decide)
    rw [strip_toList, String.toList_ofList, strip_of_ascii ascii]
    decide +kernel
  rw [status, Text.lower_of_ascii (by decide +kernel)]
  exact ⟨by decide, by decide +kernel⟩

end Scan

/-! The note in the file. -/

section Note
variable {index : Nat} {task : String}

/-- The first item of a note, behind its dash. -/
def taskItem (index : Nat) (task : String) : List Char :=
  " Reviewed active task ".toList ++ ((toString index).toList ++ (": ".toList ++ task.toList))

theorem reviewContent_toList (index : Nat) (task : String) :
    (reviewContent index task).toList = '-' :: (taskItem index task ++ '\n' :: statusLine) := by
  have first : "- Reviewed active task ".toList = '-' :: " Reviewed active task ".toList := by decide +kernel
  have second : "\n  - Status: pending human review.".toList = '\n' :: statusLine := by decide +kernel
  unfold reviewContent taskItem
  -- the texts stay closed, so that no step decodes them
  generalize " Reviewed active task ".toList = words at first ⊢
  generalize "- Reviewed active task " = opening at first ⊢
  generalize "\n  - Status: pending human review." = closing at second ⊢
  generalize statusLine = status at second ⊢
  rw [String.toList_append, String.toList_append, String.toList_append, String.toList_append, first, second]
  simp only [List.append_assoc, List.cons_append]

theorem strip_reviewContent [CharData] (index : Nat) (task : String) : Text.strip (reviewContent index task) = reviewContent index task := by
  apply Text.strip_of_edges
  · intro c first
    rw [reviewContent_toList] at first
    obtain rfl : '-' = c := Option.some.inj first
    rw [CharData.isSpace_ascii _ (by decide)]
    decide
  · intro c last
    have ends : (reviewContent index task).toList.getLast? = some '.' := by
      rw [reviewContent_toList, ← List.cons_append, List.getLast?_append_cons]
      decide +kernel
    rw [ends] at last
    obtain rfl : '.' = c := Option.some.inj last
    rw [CharData.isSpace_ascii _ (by decide)]
    decide

theorem plain_toString (n : Nat) : ∀ c ∈ (toString n).toList, isBreak c = false := by
  intro c member
  rw [Nat.toString_eq_repr, Nat.toList_repr] at member
  have digit := Nat.isDigit_of_mem_toDigits (by decide) (by decide) member
  by_contra breaks
  rw [Bool.not_eq_false] at breaks
  unfold isBreak at breaks
  simp only [List.mem_cons, List.not_mem_nil, or_false, decide_eq_true_eq] at breaks
  rcases breaks with rfl | rfl | rfl | rfl | rfl | rfl | rfl | rfl | rfl | rfl <;> exact absurd digit (by decide)

theorem plain_taskItem (plain : ∀ c ∈ task.toList, isBreak c = false) : ∀ c ∈ '-' :: taskItem index task, isBreak c = false := by
  have words : ∀ c ∈ " Reviewed active task ".toList, isBreak c = false := Text.forall_listed (by decide)
  have colon : ∀ c ∈ ": ".toList, isBreak c = false := Text.forall_listed (by decide)
  unfold taskItem
  generalize " Reviewed active task ".toList = front at words ⊢
  generalize ": ".toList = middle at colon ⊢
  have dash : isBreak '-' = false := by decide
  have number := plain_toString index
  simp only [List.forall_mem_cons, List.forall_mem_append]
  exact ⟨dash, words, number, colon, plain⟩

variable [CharData]

/-- What the file says after a note has been appended. -/
def noted (before : String) (index : Nat) (task : String) : String :=
  String.ofList (rstrip before.toList) ++ "\n\n" ++ Text.strip (reviewContent index task) ++ "\n"

theorem stripped_noted (plain : ∀ c ∈ task.toList, isBreak c = false) (before : String) :
    stripped (noted before index task).toList =
      stripped (rstrip before.toList) ++ [[], strip ('-' :: taskItem index task), strip statusLine, []] := by
  have edge : (rstrip before.toList).getLast? ≠ some '\r' := by
    intro carriage
    have visible := getLast_rstrip carriage
    rw [CharData.isSpace_ascii _ (by decide)] at visible
    exact absurd visible (by decide)
  have task' := @plain_taskItem index task plain
  have status : ∀ c ∈ statusLine, isBreak c = false := Text.forall_listed (by decide)
  have whole : (noted before index task).toList =
      rstrip before.toList ++ '\n' :: ([] ++ '\n' :: ('-' :: taskItem index task ++ '\n' :: (statusLine ++ '\n' :: []))) := by
    rw [noted, strip_reviewContent, String.toList_append, String.toList_append, String.toList_append, String.toList_ofList,
      reviewContent_toList]
    simp
  rw [whole, stripped, parts_append_newline edge, parts_append_newline (by simp),
    parts_append_newline (getLast?_ne_of_plain task'), parts_append_newline (getLast?_ne_of_plain status),
    parts_of_plain task', parts_of_plain status, stripped]
  simp [parts]

/-- A note keeps the sections, and it keeps the tasks exactly when the last section is not the active one. -/
theorem scanTasks_noted (plain : ∀ c ∈ task.toList, isBreak c = false) (before : String) :
    (scanTasks (noted before index task)).inActive = (scanTasks before).inActive ∧
      ((scanTasks (noted before index task)).tasks = (scanTasks before).tasks ↔ (scanTasks before).inActive = false) := by
  have front : (stripped (rstrip before.toList)).foldl TaskScan.next {} = scanTasks before := by
    obtain ⟨count, same⟩ := stripped_rstrip before.toList
    rw [scanTasks_eq, same, List.foldl_append, foldl_next_blank]
  have dash : strip ('-' :: taskItem index task) = '-' :: rstrip ('-' :: taskItem index task).tail := by
    have visible : CharData.isSpace '-' = false := by
      rw [CharData.isSpace_ascii _ (by decide)]
      decide
    exact strip_cons visible _
  have all : scanTasks (noted before index task) =
      ((scanTasks before).next ('-' :: rstrip ('-' :: taskItem index task).tail)).next
        ('-' :: " Status: pending human review.".toList) := by
    rw [scanTasks_eq, stripped_noted plain, List.foldl_append, front, dash, strip_statusLine]
    simp only [List.foldl_cons, List.foldl_nil, next_nil]
  rw [all]
  cases inside : (scanTasks before).inActive with
  | false => rw [next_item_outside inside, next_item_outside inside]; exact ⟨inside, iff_of_true rfl rfl⟩
  | true =>
    obtain ⟨inside', first, _⟩ := next_item_inside inside (rstrip ('-' :: taskItem index task).tail)
    obtain ⟨inside'', _, second⟩ := next_item_inside inside' " Status: pending human review.".toList
    refine ⟨inside'', iff_of_false ?_ Bool.noConfusion⟩
    intro same
    have longer := second status_listed.1 status_listed.2
    rw [same] at longer
    omega

end Note

/-! The file. -/

def heartbeatPath (service : WorkspaceService) : Path := service.root ++ [heartbeatName]

theorem heartbeatPath_eq (service : WorkspaceService) : service.root ++ [heartbeatName] = heartbeatPath service := rfl

/-- The fields of the payload that are read. -/
theorem review_get (index : Nat) (task : String) : (reviewRequest index task).payload.get "kind" = .str "heartbeat" ∧
    (reviewRequest index task).payload.get "content" = .str (reviewContent index task) ∧
    (reviewRequest index task).payload.get "files" = .null := by
  refine ⟨?_, ?_, ?_⟩ <;> rw [reviewRequest] <;> simp only [Dict.get_cons, Dict.get_nil] <;> rfl

/-- A proposal to append a note. -/
structure Review (proposal : EvolutionProposal) (index : Nat) (task : String) : Prop where
  plain : ∀ c ∈ task.toList, isBreak c = false
  targetType : proposal.targetType = "heartbeat"
  action : proposal.action = "append_file"
  payload : proposal.payload = (reviewRequest index task).payload

section File
variable {service : WorkspaceService} {disk : Disk} {text : String}

theorem readPath_heartbeat (found : contentAt disk (heartbeatPath service) = some (some text)) :
    readPath service.root [heartbeatName] disk = .ok (translated text) := by
  rw [readPath, heartbeatPath_eq, file_of_contentAt found]
  rfl

variable [CharData]

theorem pathFor_heartbeat : WorkspaceService.pathFor "heartbeat" = .ok [heartbeatName] := by
  have stripped : Text.strip "heartbeat" = "heartbeat" := by
    apply String.toList_injective
    have ascii : ∀ c ∈ "heartbeat".toList, c.toNat < 0x80 := Text.forall_listed (by decide)
    rw [strip_toList, strip_of_ascii ascii]
    decide +kernel
  rw [WorkspaceService.pathFor, stripped, Text.lower_of_ascii (by decide +kernel)]
  decide +kernel

section Reads
variable (found : contentAt disk (heartbeatPath service) = some (some text))
include found

theorem read_heartbeat : (service.read "heartbeat").exec disk =
    (.ok (heartbeatFile (translated text)), disk) := by
  have there : (node disk (service.root ++ [heartbeatName])).isSome = true := by
    rw [heartbeatPath_eq, file_of_contentAt found]
    rfl
  rw [WorkspaceService.read, Program.exec_bind, Program.exec_ofExcept, pathFor_heartbeat]
  dsimp only
  rw [Program.exec_bind, present, Program.exec_look, there]
  dsimp only
  rw [Bool.not_true, if_neg Bool.false_ne_true, Program.exec_bind, Program.exec_look, readPath_heartbeat found]
  rfl

theorem tasks_of_file : (activeHeartbeatTasks service).exec disk = (.ok (scanTasks text).tasks, disk) := by
  rw [activeHeartbeatTasks, Program.exec_bind_of_ok _ (read_heartbeat found), Program.exec_pure, heartbeatFile_content, scanTasks_read]

theorem write_heartbeat (ready : Ready service disk) (content : String) : ∃ after next,
    (service.write "heartbeat" content).exec disk = (.ok after, next) ∧ Ready service next ∧
      contentAt next (heartbeatPath service) = some (some content) := by
  have managed : [heartbeatName] ∈ managedFiles := by decide
  obtain ⟨next, ran, ready', contents⟩ := ready.change managed found fun _ => some content
  have written : contentAt next (heartbeatPath service) = some (some content) := (contents _).trans (if_pos rfl)
  have parent : makeDirectories [] (service.root ++ [heartbeatName]).dropLast disk = .ok disk := by
    have closed := ready.seedable.closed
    have below : service.root ++ [heartbeatName] ≠ [] := by simp
    exact makeDirectories_existing closed (closed _ (mem_keys_of_node below (file_of_contentAt found)))
  refine ⟨heartbeatFile (translated content), next, ?_, ready', written⟩
  rw [WorkspaceService.write, Program.exec_bind, Program.exec_ofExcept, pathFor_heartbeat]
  dsimp only
  rw [Program.exec_bind_of_ok _ (Program.exec_write_of_ok parent), Program.exec_bind, Program.exec_look,
    readPath_heartbeat found]
  dsimp only
  rw [Program.exec_bind_of_ok _ (Program.exec_write_of_ok ran), read_heartbeat written]

end Reads

/-! The calls. -/

section Apply
variable {proposals : Table EvolutionProposal} {id index : Nat} {proposal : EvolutionProposal} {task : String}

/-- An open proposal is applied, and its note is in the file. -/
theorem apply_review (ready : Ready service disk) (found : contentAt disk (heartbeatPath service) = some (some text))
    (stored : proposals.get? id = some proposal) (review : Review proposal index task)
    (isOpen : proposal.status ∈ ["pending", "approved"]) (actor : String) (now : Int) : ∃ row next,
      (applyProposal service actor now proposals id).exec disk = (.ok (row, proposals.set id row), next) ∧
      Ready service next ∧ Review row index task ∧ contentAt next (heartbeatPath service) =
        some (some (noted (translated text) index task)) := by
  obtain ⟨kind, content, _⟩ := review_get index task
  have kind' : kindOf proposal = "heartbeat" := by
    rw [kindOf, review.payload, kind]
    rfl
  have note : contentOf proposal (translated text) =
      .ok (noted (translated text) index task) := by
    rw [contentOf, review.action, if_neg (by decide), if_pos rfl, review.payload, content, Json.or_str]
    rfl
  have checked : applicable proposal = .ok () := by
    rw [applicable, if_neg (not_not.2 isOpen), review.targetType, if_neg (by decide)]
  obtain ⟨after, next, wrote, ready', written⟩ := write_heartbeat found ready
    (noted (translated text) index task)
  refine ⟨appliedTo proposal (heartbeatFile (translated text)) after actor now, next, ?_, ready', ?_, written⟩
  · rw [applyProposal, stored]
    dsimp only
    rw [Program.exec_bind, Program.exec_ofExcept, checked]
    dsimp only
    rw [kind', Program.exec_bind_of_ok _ (read_heartbeat found), Program.exec_bind, Program.exec_ofExcept,
      heartbeatFile_content, note]
    dsimp only
    rw [Program.exec_bind_of_ok _ wrote]
    rfl
  · exact ⟨review.plain, review.targetType, review.action, review.payload⟩

/-- A proposal that is not open any more changes nothing. -/
theorem apply_settled (stored : proposals.get? id = some proposal) (settled : proposal.status ∉ ["pending", "approved"])
    (actor : String) (now : Int) : ∃ raised,
      (applyProposal service actor now proposals id).exec disk = (.error raised, disk) := by
  refine ⟨⟨.valueError, "proposal is not applyable: " ++ proposal.status⟩, ?_⟩
  rw [applyProposal, stored]
  dsimp only
  rw [Program.exec_bind, Program.exec_ofExcept, applicable, if_pos settled]

end Apply

/-! The check. -/

section Check
variable {runtime : HeartbeatRuntime}

/-- Each of these proposals is to append a note. -/
def Reviews (proposals : Table EvolutionProposal) (ids : List Nat) : Prop :=
  ∀ id ∈ ids, ∃ proposal index task, proposals.get? id = some proposal ∧ Review proposal index task

/-- The row of a proposal for a task. -/
def reviewRow (index : Nat) (task : String) : EvolutionProposal where
  targetType := "heartbeat"
  action := "append_file"
  riskLevel := "low"
  evidence := (reviewRequest index task).evidence
  payload := (reviewRequest index task).payload

theorem exec_propose (made : List Nat × Skills.Service.State) (task : String × Nat) (disk : Disk) :
    (propose runtime made task).exec disk = (.ok (made.1 ++ [made.2.proposals.size],
      { made.2 with proposals := made.2.proposals.insert (reviewRow task.2 task.1) }), disk) := by
  have bare : Skills.Service.baselineOf runtime.skills (reviewRequest task.2 task.1).targetType
      (reviewRequest task.2 task.1).payload disk = .ok { payload := (reviewRequest task.2 task.1).payload } := by
    rw [Skills.Service.baselineOf, (review_get task.2 task.1).2.2]
  rw [propose, createProposal, Program.exec_bind, Program.exec_bind, Program.exec_look, bare]
  rfl

/-- What the proposals of a check add. -/
structure Proposed (before : Table EvolutionProposal) (made : List Nat × Skills.Service.State) : Prop where
  reviews : Reviews made.2.proposals made.1
  keeps : ∀ id proposal, before.get? id = some proposal → made.2.proposals.get? id = some proposal

theorem check_returns (positive : 0 < runtime.workspace.recursionLimit) (ready : Ready runtime.workspace disk)
    (found : contentAt disk (heartbeatPath runtime.workspace) = some (some text)) (state : Skills.Service.State)
    (seconds microseconds : Nat) : ∃ result rows next, (runCheck runtime seconds microseconds state).exec disk = (.ok (result, rows), next) ∧
      Ready runtime.workspace next ∧ contentAt next (heartbeatPath runtime.workspace) = some (some text) ∧
      Proposed state.proposals (result.proposalIds, rows) := by
  have other : heartbeatPath runtime.workspace ≠ runtime.workspace.historyPath := fun same =>
    absurd (List.append_cancel_left same) (by decide)
  rw [runCheck, Program.exec_bind_of_ok _ (tasks_of_file found)]
  cases listed : (scanTasks text).tasks.isEmpty with
  | true =>
    obtain ⟨next, appended, ready', keeps, _⟩ := appendHistory_returns positive ready ⟨seconds, microseconds, skippedRecord⟩
    refine ⟨⟨"skipped", 0, 0, []⟩, state, next, ?_, ready', keeps _ _ other found, ?_⟩
    · rw [if_pos rfl, Program.exec_bind_of_ok _ appended]
      rfl
    · exact ⟨fun id none => absurd none List.not_mem_nil, fun _ _ stored => stored⟩
  | false =>
    obtain ⟨made, middle, proposed, rfl, reviews⟩ := @Program.exec_foldlM _ _ disk _ (propose runtime)
      ((scanTasks text).tasks.zipIdx 1) (fun _ made disk' => disk' = disk ∧ Proposed state.proposals made)
      (by
        rintro done ⟨task, index⟩ later made disk' split ⟨rfl, known⟩
        have member : (task, index) ∈ (scanTasks text).tasks.zipIdx 1 :=
          split ▸ List.mem_append_right _ List.mem_cons_self
        have plain := scanTasks_plain text task (List.fst_mem_of_mem_zipIdx member)
        refine ⟨_, _, exec_propose made (task, index) disk', rfl, ?_, ?_⟩
        · intro id member
          rcases List.mem_append.1 member with old | new
          · obtain ⟨proposal, index, task, stored, review⟩ := known.reviews id old
            exact ⟨proposal, index, task, Table.get?_insert_of_some _ stored, review⟩
          · rw [List.mem_singleton.1 new]
            exact ⟨reviewRow index task, index, task, Table.get?_insert_self _ _, plain, rfl, rfl, rfl⟩
        · exact fun id proposal stored => Table.get?_insert_of_some _ (known.keeps id proposal stored))
      ([], state) ⟨rfl, fun id none => absurd none List.not_mem_nil, fun _ _ stored => stored⟩
    obtain ⟨next, appended, ready', keeps, _⟩ := appendHistory_returns positive ready
      ⟨seconds, microseconds, proposedRecord (scanTasks text).tasks made.1⟩
    refine ⟨⟨"proposed", (scanTasks text).tasks.length, made.1.length, made.1⟩, made.2, next, ?_, ready',
      keeps _ _ other found, reviews⟩
    rw [if_neg Bool.false_ne_true, Program.exec_bind_of_ok _ proposed, Program.exec_bind_of_ok _ appended]
    rfl

end Check

end File

/-! Runs. -/

section Runs
variable [CharData] (runtime : HeartbeatRuntime)

/-- What holds in every run: the sections of the file end as they did, and the proposals are those of the checks. -/
structure Standing (inActive : Bool) (state : State) : Prop where
  ready : Ready runtime.workspace state.disk
  file : ∃ text, contentAt state.disk (heartbeatPath runtime.workspace) = some (some text) ∧
    (scanTasks text).inActive = inActive
  created : Reviews state.rows.proposals state.created

/-- What `active_heartbeat_tasks` returns. -/
def tasksOf (state : State) : Except PyException (List String) :=
  ((activeHeartbeatTasks runtime.workspace).exec state.disk).1

/-- The action applies a proposal that is open. -/
def Applies (state : State) : Action → Prop
  | .check _ _ => False
  | .apply place _ _ => ∃ id proposal, state.created[place]? = some id ∧ state.rows.proposals.get? id = some proposal ∧
      proposal.status ∈ ["pending", "approved"]

variable {runtime} {inActive : Bool} {state : State}

theorem tasksOf_eq {text : String} (found : contentAt state.disk (heartbeatPath runtime.workspace) = some (some text)) :
    tasksOf runtime state = .ok (scanTasks text).tasks := by rw [tasksOf, tasks_of_file found]

theorem step_total (state : State) (action : Action) : ∃ next, step runtime state action = some next := by
  cases action with
  | check seconds microseconds =>
    rw [step]
    split <;> exact ⟨_, rfl⟩
  | apply place actor now =>
    rw [step]
    split
    · exact ⟨_, rfl⟩
    · split <;> exact ⟨_, rfl⟩

/-- A check leaves the file as it is. -/
theorem check_tasks (positive : 0 < runtime.workspace.recursionLimit) (standing : Standing runtime inActive state)
    {seconds microseconds : Nat} {next : State} (taken : step runtime state (.check seconds microseconds) = some next) :
    Standing runtime inActive next ∧ tasksOf runtime next = tasksOf runtime state := by
  obtain ⟨ready, ⟨text, found, ends⟩, created⟩ := standing
  obtain ⟨result, rows, disk, ran, ready', found', reviews, keeps⟩ :=
    check_returns positive ready found state.rows seconds microseconds
  rw [step, ran] at taken
  obtain rfl := Option.some.inj taken
  constructor
  · refine ⟨ready', ⟨text, found', ends⟩, fun id member => ?_⟩
    rcases List.mem_append.1 member with old | new
    · obtain ⟨proposal, index, task, stored, review⟩ := created id old
      exact ⟨proposal, index, task, keeps id proposal stored, review⟩
    · exact reviews id new
  · rw [tasksOf_eq found', tasksOf_eq found]

section Application
variable {place : Nat} {actor : String} {now : Int} {next : State}
  (taken : step runtime state (.apply place actor now) = some next)
include taken

/-- What is not applied leaves everything as it is. -/
theorem apply_idle (standing : Standing runtime inActive state) (idle : ¬Applies state (.apply place actor now)) :
    next = state := by
  rw [step] at taken
  cases created : state.created[place]? with
  | none =>
    rw [created] at taken
    exact (Option.some.inj taken).symm
  | some id =>
    rw [created] at taken
    dsimp only at taken
    obtain ⟨proposal, index, task, stored, review⟩ := standing.created id (List.mem_of_getElem? created)
    have closed : proposal.status ∉ ["pending", "approved"] := fun isOpen => idle ⟨id, proposal, created, stored, isOpen⟩
    obtain ⟨raised, ran⟩ := @apply_settled runtime.workspace state.disk _ state.rows.proposals id proposal stored closed actor now
    rw [ran] at taken
    exact (Option.some.inj taken).symm

/-- The note of a proposal brings a task to the file, where the last section is the active one. -/
theorem apply_tasks (standing : Standing runtime inActive state) (applies : Applies state (.apply place actor now)) :
    Standing runtime inActive next ∧ (tasksOf runtime next = tasksOf runtime state ↔ inActive = false) := by
  obtain ⟨id, proposal, created', stored, isOpen⟩ := applies
  obtain ⟨ready, ⟨text, found, ends⟩, created⟩ := standing
  obtain ⟨proposal', index, task, stored', review⟩ := created id (List.mem_of_getElem? created')
  obtain rfl := Option.some.inj (stored.symm.trans stored')
  obtain ⟨row, disk, ran, ready', review', found'⟩ := apply_review ready found stored review isOpen actor now
  rw [step, created'] at taken
  dsimp only at taken
  rw [ran] at taken
  obtain rfl := Option.some.inj taken
  obtain ⟨sections, tasks⟩ := @scanTasks_noted index task _ review.plain (translated text)
  rw [scanTasks_read] at sections tasks
  constructor
  · refine ⟨ready', ⟨_, found', sections.trans ends⟩, fun other member => ?_⟩
    by_cases here : other = id
    · rw [here]
      exact ⟨row, index, task, Table.get?_set_self row stored, review'⟩
    · obtain ⟨proposal', index', task', stored', review''⟩ := created other member
      exact ⟨proposal', index', task', by rw [Table.get?_set_ne _ _ here, stored'], review''⟩
  · rw [tasksOf_eq found', tasksOf_eq found, Except.ok.injEq, tasks, ends]

end Application

/-- A step keeps the tasks, unless it applies a proposal where the last section is the active one. -/
theorem step_tasks (positive : 0 < runtime.workspace.recursionLimit) (standing : Standing runtime inActive state)
    {action : Action} {next : State} (taken : step runtime state action = some next) :
    Standing runtime inActive next ∧
      (tasksOf runtime next = tasksOf runtime state ↔ (Applies state action → inActive = false)) := by
  cases action with
  | check seconds microseconds =>
    obtain ⟨standing', same⟩ := check_tasks positive standing taken
    exact ⟨standing', iff_of_true same fun applies => applies.elim⟩
  | apply place actor now =>
    by_cases applies : Applies state (.apply place actor now)
    · obtain ⟨standing', tasks⟩ := apply_tasks taken standing applies
      refine ⟨standing', tasks.trans ?_⟩
      simp only [applies, forall_const]
    · rw [apply_idle taken standing applies]
      exact ⟨standing, iff_of_true rfl fun known => absurd known applies⟩

/-- Reviews keep the active tasks exactly as long as no proposal of theirs is applied to a file that ends in the active
section. -/
theorem reviews_keep_tasks_iff (positive : 0 < runtime.workspace.recursionLimit) {start : State} {text : String}
    (ready : Ready runtime.workspace start.disk)
    (found : contentAt start.disk (heartbeatPath runtime.workspace) = some (some text)) (fresh : start.created = [])
    (actions : List Action) :
    Runs.Along (step runtime) (fun state action => Applies state action → ¬EndsActive text) start actions ↔
      ∀ passed last, passed <+: actions → Runs.run (step runtime) start passed = some last →
        tasksOf runtime last = .ok (scanTasks text).tasks := by
  have standing : Standing runtime (scanTasks text).inActive start :=
    ⟨ready, ⟨text, found, rfl⟩, fun id member => absurd (fresh ▸ member) List.not_mem_nil⟩
  have along := Runs.along_iff_of_exact
    (fun state => Standing runtime (scanTasks text).inActive state ∧ tasksOf runtime state = .ok (scanTasks text).tasks)
    step_total
    (fun state action next known taken => by
      obtain ⟨standing', iff⟩ := step_tasks positive known.1 taken
      rw [known.2, inActive_eq_false_iff] at iff
      exact ⟨fun kept => iff.1 kept.2, fun guarded => ⟨standing', iff.2 guarded⟩⟩)
    actions ⟨standing, tasksOf_eq found⟩
  rw [along]
  constructor
  · exact fun kept passed last passes ran => (kept passed last passes ran).2
  · intro kept passed last passes ran
    refine ⟨?_, kept passed last passes ran⟩
    exact Runs.run_invariant (Standing runtime (scanTasks text).inActive)
      (fun state action next known taken => (step_tasks positive known taken).1) standing ran

end Runs

/-! A workspace with HEARTBEAT.md. -/

section Examples
attribute [local instance] CharData.ascii

private def watchedHome : WorkspaceService := ⟨[homeName], [seedName], 1000⟩

private def watched : HeartbeatRuntime := ⟨watchedHome, Skills.Service.plainSkills⟩

private def noSkills : Skills.Service.State := ⟨⟨⟨[], List.nodup_nil⟩, [], [], []⟩, Table.empty⟩

private def startWith (content : String) : State where
  rows := noSkills
  created := []
  disk := setNode (setNode ∅ watchedHome.root .directory) (heartbeatPath watchedHome) (.file (some content))

private def sectioned : String := "## Active Tasks\n- Water the plants\n\n## Notes\n"

theorem plants_kept : Ready watched.workspace (startWith sectioned).disk ∧
    ∀ passed last, passed <+: [.check 0 0, .apply 0 "admin" 1] →
      Runs.run (step watched) (startWith sectioned) passed = some last →
        tasksOf watched last = .ok (scanTasks sectioned).tasks := by
  have ready : Ready watched.workspace (startWith sectioned).disk :=
    ready_of_unseeded (by decide +kernel) (by decide) (by decide) (by decide +kernel) (by decide +kernel) (by decide +kernel)
      (by decide +kernel)
  have found : contentAt (startWith sectioned).disk (heartbeatPath watched.workspace) = some (some sectioned) := by
    decide +kernel
  have ends : ¬EndsActive sectioned := by
    rw [← inActive_eq_false_iff]
    decide +kernel
  exact ⟨ready, (reviews_keep_tasks_iff (by decide) ready found rfl _).1
    ⟨fun _ => ends, fun _ _ => ⟨fun _ => ends, fun _ _ => trivial⟩⟩⟩

/-- The seed file with a task: the note about the task becomes two tasks. -/
theorem plants_multiply : (Runs.run (step watched)
      (startWith "# HEARTBEAT\n\n## Active Tasks\n\n- Water the plants\n") [.check 0 0, .apply 0 "admin" 1]).map
        (fun last => (tasksOf watched last).toOption) =
      some (some ["Water the plants", "Reviewed active task 1: Water the plants", "Status: pending human review."]) ∧
    (tasksOf watched (startWith "# HEARTBEAT\n\n## Active Tasks\n\n- Water the plants\n")).toOption =
      some ["Water the plants"] := by
  decide +kernel

end Examples

end SoulClaw.Runtime.Heartbeat
