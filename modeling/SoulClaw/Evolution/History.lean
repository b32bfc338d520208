import SoulClaw.Evolution.Upkeep
import SoulClaw.Foundation.Calendar
import SoulClaw.Foundation.JsonLines

/-! The history of the workspace, one JSON object on each line. `json.dumps` leaves the wide line breaks in its strings,
at which `splitlines` cuts: a record is read back exactly when no string of it has one. -/

namespace SoulClaw.Evolution.Workspace
open Foundation Files Lines Wiki.Storage

/-- A record, and the time at which it is appended. -/
structure HistoryEntry where
  seconds : Nat
  microseconds : Nat
  record : Dict

/-- `datetime.now(UTC).isoformat()`. -/
def HistoryEntry.now (entry : HistoryEntry) : Json :=
  .str (String.ofList (Calendar.isoformat entry.seconds entry.microseconds))

/-- `{"created_at": now, **record}`. -/
def HistoryEntry.payload (entry : HistoryEntry) : Dict :=
  entry.record.foldl (fun payload field => payload.set field.1 field.2) [("created_at", entry.now)]

/-- `path.read_text(encoding="utf-8")`. -/
def readFile (path : Path) (disk : Disk) : Except PyException String :=
  match node disk path with
  | none => .error notFound
  | some .directory => .error isADirectory
  | some (.file raw) => readText raw

section Reading
variable [CharData] [NumberData]

/-- The item of a line, if it has one. -/
def historyItem (line : List Char) : Option Dict :=
  if strip line = [] then none
  else
    match Json.loads (String.ofList line) with
    | none => some [("raw", .str (String.ofList line))]
    | some (.obj fields) => some fields
    | some _ => none

def historyItems (limit : Int) (text : List Char) : List Dict :=
  (sliceFrom (splitlines text) (-max 1 (min limit 500))).filterMap historyItem

end Reading

namespace WorkspaceService
variable (service : WorkspaceService)

def appendHistory (entry : HistoryEntry) : FileM Raw Unit := do
  service.ensureFiles
  Program.write (change service.historyPath (appended ((Json.obj entry.payload).dumps ++ "\n")))

def readHistory [CharData] [NumberData] (limit : Int) : FileM Raw (List Dict) := do
  service.ensureFiles
  let text ← Program.look (readFile service.historyPath)
  return historyItems limit text.toList

end WorkspaceService

/-- No string of the value, and no key, has a wide line break. -/
def Unbroken (value : Json) : Prop := ∀ text ∈ value.strings, ∀ c ∈ text.toList, Loads.isWideBreak c = false

/-! What is appended for a record. -/

/-- The item is the record, with a time if the record has none. -/
def Extends (entry : HistoryEntry) (item : Dict) : Prop :=
  ∀ key, item.lookup key = (entry.record.lookup key).or (if key = "created_at" then some entry.now else none)

theorem payload_eq {entry : HistoryEntry} (distinct : (entry.record.map Prod.fst).Nodup) :
    entry.payload = ("created_at", (entry.record.lookup "created_at").getD entry.now) ::
      entry.record.filter (·.1 ≠ "created_at") := by
  have general : ∀ (record front : Dict) (time : Json), (record.map Prod.fst).Nodup →
      (∀ field ∈ record, field.1 ∉ front.map Prod.fst) →
      record.foldl (fun payload field => Dict.set payload field.1 field.2) (("created_at", time) :: front) =
        ("created_at", (record.lookup "created_at").getD time) :: (front ++ record.filter (·.1 ≠ "created_at")) := by
    intro record
    induction record with
    | nil => intro front time _ _; simp
    | cons field rest ih =>
      obtain ⟨key, value⟩ := field
      intro front time distinct fresh
      rw [List.map_cons, List.nodup_cons] at distinct
      rw [List.foldl_cons, Dict.set]
      by_cases same : "created_at" = key
      · subst same
        have none' : rest.lookup "created_at" = none := by
          rw [List.lookup_eq_none_iff]
          intro other member
          exact bne_iff_ne.2 fun equal => distinct.1 (List.mem_map.2 ⟨other, member, equal.symm⟩)
        rw [if_pos rfl, ih front value distinct.2 fun other member => fresh other (List.mem_cons_of_mem _ member), none',
          List.lookup_cons, beq_self_eq_true, List.filter_cons_of_neg (by simp)]
        rfl
      · have here := fresh (key, value) List.mem_cons_self
        rw [if_neg same, Loads.set_of_notMem here]
        have later : ∀ other ∈ rest, other.1 ∉ (front ++ [(key, value)]).map Prod.fst := by
          intro other member
          rw [List.map_append, List.mem_append, not_or]
          refine ⟨fresh other (List.mem_cons_of_mem _ member), ?_⟩
          rintro inside
          exact distinct.1 (List.mem_map.2 ⟨other, member, by simpa using inside⟩)
        rw [ih _ time distinct.2 later, List.lookup_cons, beq_false_of_ne same,
          List.filter_cons_of_pos (by simpa using Ne.symm same), List.append_assoc, List.singleton_append]
  exact general entry.record [] entry.now distinct fun _ _ => List.not_mem_nil

theorem unbroken_obj_iff {fields : Dict} : Unbroken (.obj fields) ↔
    ∀ field ∈ fields, (∀ c ∈ field.1.toList, Loads.isWideBreak c = false) ∧ Unbroken field.2 := by
  constructor
  · intro unbroken field member
    exact ⟨unbroken field.1 (Json.mem_stringsOfFields.2 ⟨field, member, .inl rfl⟩),
      fun text known => unbroken text (Json.mem_stringsOfFields.2 ⟨field, member, .inr known⟩)⟩
  · intro fields text known
    obtain ⟨field, member, rfl | inside⟩ := Json.mem_stringsOfFields.1 known
    · exact (fields field member).1
    · exact (fields field member).2 text inside

section Payload
variable [NumberData] {entry : HistoryEntry} (proper : Loads.Proper (.obj entry.record))
include proper

theorem payload_extends : Extends entry entry.payload := by
  intro key
  rw [payload_eq proper.1]
  by_cases time : key = "created_at"
  · subst time
    rw [List.lookup_cons, beq_self_eq_true, if_pos rfl]
    cases entry.record.lookup "created_at" <;> rfl
  · rw [List.lookup_cons, beq_false_of_ne time, if_neg time, Option.or_none]
    dsimp only
    generalize entry.record = record
    induction record with
    | nil => rfl
    | cons field rest ih =>
      obtain ⟨known, value⟩ := field
      by_cases dropped : known = "created_at"
      · rw [List.filter_cons_of_neg (by simpa using dropped), ih, List.lookup_cons, beq_false_of_ne (dropped ▸ time)]
      · rw [List.filter_cons_of_pos (by simpa using dropped), List.lookup_cons, List.lookup_cons, ih]

theorem payload_proper : Loads.Proper (.obj entry.payload) := by
  have fields := Loads.properFields_iff.1 proper.2
  rw [payload_eq proper.1]
  refine ⟨?_, Loads.properFields_iff.2 ?_⟩
  · rw [List.map_cons, List.nodup_cons]
    refine ⟨?_, (List.filter_sublist.map Prod.fst).nodup proper.1⟩
    intro member
    obtain ⟨field, inside, same⟩ := List.mem_map.1 member
    exact of_decide_eq_true (List.mem_filter.1 inside).2 same
  · intro field member
    rcases List.mem_cons.1 member with rfl | inside
    · cases found : entry.record.lookup "created_at" with
      | none => exact trivial
      | some value => exact fields _ (Dict.mem_of_lookup found)
    · exact fields field (List.mem_filter.1 inside).1

/-- What is appended has a wide line break where the record has one. -/
theorem unbroken_payload_iff : Unbroken (.obj entry.payload) ↔ Unbroken (.obj entry.record) := by
  have key : ∀ c ∈ "created_at".toList, Loads.isWideBreak c = false := Text.forall_listed (by decide)
  have now : Unbroken entry.now := by
    intro text known c member
    rw [List.mem_singleton.1 known, String.toList_ofList] at member
    by_contra broken
    rw [Bool.not_eq_false] at broken
    have wide := (Loads.isBreak_of_isWideBreak broken).2
    rcases Calendar.mem_isoformat member with digit | separator
    · have narrow := (Char.isDigit_iff_toNat.1 digit).2
      have last : '9'.toNat = 57 := rfl
      omega
    · have narrow : ∀ d ∈ ['-', 'T', ':', '.', '+'], d.toNat < 0x80 := Text.forall_listed (by decide)
      exact absurd (narrow c separator) (by omega)
  rw [payload_eq proper.1, unbroken_obj_iff, unbroken_obj_iff, List.forall_mem_cons]
  constructor
  · rintro ⟨first, rest⟩ field member
    by_cases time : field.1 = "created_at"
    · have found := Dict.lookup_of_mem proper.1 member
      rw [time] at found
      rw [found, Option.getD_some] at first
      exact ⟨time ▸ key, first.2⟩
    · exact rest field (List.mem_filter.2 ⟨member, by simpa using time⟩)
  · intro all
    refine ⟨⟨key, ?_⟩, fun field member => all field (List.mem_filter.1 member).1⟩
    cases found : entry.record.lookup "created_at" with
    | none => exact now
    | some value => exact (all _ (Dict.mem_of_lookup found)).2

end Payload

/-! The lines of the file. -/

/-- The text of the payloads that have been appended. -/
def historyText (payloads : List Dict) : List Char :=
  (payloads.map fun payload => (Json.obj payload).dumps.toList).flatMap (· ++ ['\n'])

theorem sliceFrom_neg {α : Type*} (items : List α) {count : Nat} (positive : 0 < count) :
    sliceFrom items (-count) = items.drop (items.length - count) := by
  rw [sliceFrom, position, if_pos (by omega)]
  congr 1
  omega

/-- The last lines that are read. -/
theorem window {limit : Int} {length : Nat} (short : length ≤ 500) (enough : length ≤ limit) :
    ∃ count : Nat, max 1 (min limit 500) = count ∧ 0 < count ∧ length ≤ count :=
  ⟨(max 1 (min limit 500)).toNat, by omega, by omega, by omega⟩

section Items
variable [NumberData] {payloads : List Dict} (proper : ∀ payload ∈ payloads, Loads.Proper (.obj payload))
include proper

theorem splitlines_historyText :
    splitlines (historyText payloads) = payloads.flatMap fun payload => parts (Json.obj payload).dumps.toList := by
  have edges : ∀ text ∈ payloads.map (fun payload => (Json.obj payload).dumps.toList), text.getLast? ≠ some '\r' := by
    intro text member carriage
    obtain ⟨payload, known, rfl⟩ := List.mem_map.1 member
    have visible := (Loads.dumps_spelled (proper payload known)).visible _ (List.mem_of_getLast? carriage)
    exact absurd visible (by decide)
  rw [historyText, splitlines_of_parts (parts_flatMap_newline edges), List.flatMap_map]

theorem parts_of_unbroken {payload : Dict} (known : payload ∈ payloads) (unbroken : Unbroken (.obj payload)) :
    parts (Json.obj payload).dumps.toList = [(Json.obj payload).dumps.toList] :=
  parts_of_plain ((Loads.unbroken_dumps_iff (proper payload known)).1 unbroken)

variable [CharData]

theorem historyItem_dumps {payload : Dict} (known : payload ∈ payloads) :
    historyItem (Json.obj payload).dumps.toList = some payload := by
  have visible : strip (Json.obj payload).dumps.toList ≠ [] := by
    have space : CharData.isSpace '\x7b' = false := by
      rw [CharData.isSpace_ascii _ (by decide)]
      decide
    refine strip_ne_nil ?_ space
    rw [Loads.dumps_obj]
    exact List.mem_cons_self
  have read := @Loads.loads_dumps _ _ (proper payload known) [] fun _ member => absurd member List.not_mem_nil
  rw [List.nil_append] at read
  rw [historyItem, if_neg visible, read]

theorem historyItems_of_unbroken (unbroken : ∀ payload ∈ payloads, Unbroken (.obj payload)) {limit : Int}
    (short : payloads.length ≤ 500) (enough : payloads.length ≤ limit) :
    historyItems limit (historyText payloads) = payloads := by
  obtain ⟨count, same, positive, bound⟩ := window short enough
  have lines : payloads.flatMap (fun payload => parts (Json.obj payload).dumps.toList) =
      payloads.map fun payload => (Json.obj payload).dumps.toList := by
    rw [flatMap_eq_map_iff fun payload _ => parts_ne_nil _]
    exact fun payload known => parts_of_unbroken proper known (unbroken payload known)
  rw [historyItems, splitlines_historyText proper, lines, same, sliceFrom_neg _ positive, List.length_map,
    Nat.sub_eq_zero_of_le bound, List.drop_zero, List.filterMap_map]
  refine (List.filterMap_congr ?_).trans (List.filterMap_some)
  exact fun payload known => historyItem_dumps proper known

/-- A record that is cut is read as a piece of its text. -/
theorem raw_mem_historyItems {payload : Dict} (known : payload ∈ payloads) (broken : ¬Unbroken (.obj payload)) {limit : Int}
    (short : payloads.length ≤ 500) (enough : payloads.length ≤ limit) :
    ∃ raw, [("raw", .str raw)] ∈ historyItems limit (historyText payloads) := by
  obtain ⟨count, same, positive, bound⟩ := window short enough
  obtain ⟨front, cut, back, rfl, broken, whole⟩ := @exists_last _ (fun payload => ¬Unbroken (.obj payload)) _ ⟨payload, known, broken⟩
  have inside : cut ∈ front ++ cut :: back := List.mem_append_right _ List.mem_cons_self
  have some' : ∃ text ∈ (Json.obj cut).strings, ∃ c ∈ text.toList, Loads.isWideBreak c = true := by
    unfold Unbroken at broken
    push Not at broken
    simpa using broken
  obtain ⟨first, c, last, split, breaks, wide, plain⟩ := Loads.exists_last_line (proper cut inside) some'
  have ascii : ∀ d : Char, d.toNat < 0x80 → c ≠ d := by
    rintro d narrow rfl
    omega
  -- the piece is not blank, since the brace at the end of the record is in it
  have brace : '\x7d' ∈ last := by
    have ends := congrArg List.getLast? split
    rw [Loads.dumps_obj, ← List.cons_append, List.getLast?_concat, List.getLast?_append_cons] at ends
    cases last with
    | nil => exact absurd (Option.some.inj ends).symm (ascii _ (by decide))
    | cons d rest =>
      rw [List.getLast?_cons_cons] at ends
      exact List.mem_of_getLast? ends.symm
  have visible : strip last ≠ [] := by
    have space : CharData.isSpace '\x7d' = false := by
      rw [CharData.isSpace_ascii _ (by decide)]
      decide
    exact strip_ne_nil brace space
  have item : historyItem last = some [("raw", .str (String.ofList last))] := by
    rw [historyItem, if_neg visible, Loads.loads_behind_cut (proper cut inside) wide split]
  have lines : (front ++ cut :: back).flatMap (fun payload => parts (Json.obj payload).dumps.toList) =
      front.flatMap (fun payload => parts (Json.obj payload).dumps.toList) ++ parts first ++
        (last :: back.map fun payload => (Json.obj payload).dumps.toList) := by
    have later : back.flatMap (fun payload => parts (Json.obj payload).dumps.toList) =
        back.map fun payload => (Json.obj payload).dumps.toList := by
      rw [flatMap_eq_map_iff fun payload _ => parts_ne_nil _]
      intro payload member
      exact parts_of_unbroken proper (List.mem_append_right _ (List.mem_cons_of_mem _ member))
        (not_not.1 (whole payload member))
    rw [List.flatMap_append, List.flatMap_cons, later, split,
      parts_append_cut breaks (fun newline => absurd newline (ascii _ (by decide)))
        fun carriage => ascii _ (by decide) carriage.1,
      parts_of_plain plain]
    simp
  refine ⟨String.ofList last, ?_⟩
  rw [historyItems, splitlines_historyText proper, lines, same, sliceFrom_neg _ positive, List.mem_filterMap]
  refine ⟨last, ?_, item⟩
  rw [List.drop_append_of_le_length, List.mem_append]
  · exact .inr List.mem_cons_self
  · rw [List.length_append] at bound ⊢
    rw [List.length_cons] at bound ⊢
    rw [List.length_map]
    omega

end Items

/-! The file. -/

def EmptyHistory (service : WorkspaceService) (disk : Disk) : Prop :=
  contentAt disk service.historyPath = some (some "") ∨
    contentAt disk service.historyPath = none ∧ contentAt disk (service.seedRoot ++ historyFile) = none

/-- The text of the history, which is made when it is missing. -/
def HistoryReads (service : WorkspaceService) (text : List Char) (disk : Disk) : Prop :=
  contentAt disk service.historyPath = some (some (String.ofList text)) ∨ text = [] ∧ EmptyHistory service disk

section File
variable {service : WorkspaceService} {disk next : Disk} {text : List Char}

/-- What `ensure_files` leaves of the history. -/
theorem HistoryReads.ensured (reads : HistoryReads service text disk) (tended : Tended service disk next) {raw : Raw}
    (found : contentAt next service.historyPath = some raw) : raw = some (String.ofList text) := by
  have kept : ∀ content, contentAt disk service.historyPath = some content → raw = content := by
    intro content there
    rw [tended.keeps_content there] at found
    exact (Option.some.inj found).symm
  rcases reads with there | ⟨rfl, there | ⟨free, seeded⟩⟩
  · exact kept _ there
  · exact kept _ there
  · rcases tended.origin raw found with old | blank | copied
    · rw [free] at old
      cases old
    · exact blank
    · rw [seeded] at copied
      cases copied

section Calls
variable (positive : 0 < service.recursionLimit) (ready : Ready service disk)
include positive ready

/-- An append returns, and changes no other file. -/
theorem appendHistory_returns (entry : HistoryEntry) : ∃ next, (service.appendHistory entry).exec disk = (.ok (), next) ∧
    Ready service next ∧
    (∀ path raw, path ≠ service.historyPath → contentAt disk path = some raw → contentAt next path = some raw) ∧
    ∀ text, HistoryReads service text disk →
      HistoryReads service (text ++ ((Json.obj entry.payload).dumps.toList ++ ['\n'])) next := by
  obtain ⟨middle, ensured, tended, raw, found⟩ := ensureFiles_returns positive ready
  have leaf : historyFile ∈ managedFiles := by simp [managedFiles]
  obtain ⟨next, wrote, ready', contents⟩ :=
    tended.ready.change leaf found (appended ((Json.obj entry.payload).dumps ++ "\n"))
  refine ⟨next, (Program.exec_bind_of_ok _ ensured).trans (Program.exec_write_of_ok wrote), ready', ?_, ?_⟩
  · intro path old other there
    rw [contents, ← historyPath_eq, if_neg other]
    exact tended.keeps_content there
  · intro text reads
    left
    rw [historyPath_eq, contents, if_pos rfl, reads.ensured tended found, appended, Option.map_some, Option.some.injEq,
      Option.some.injEq]
    apply String.toList_injective
    simp

theorem readHistory_returns [CharData] [NumberData] (reads : HistoryReads service text disk) (plain : '\r' ∉ text)
    (limit : Int) : ∃ last, (service.readHistory limit).exec disk = (.ok (historyItems limit text), last) := by
  obtain ⟨next, ensured, tended, raw, found⟩ := ensureFiles_returns positive ready
  rw [reads.ensured tended found] at found
  refine ⟨next, (Program.exec_bind_of_ok _ ensured).trans ?_⟩
  have same : readFile service.historyPath next = .ok (String.ofList text) := by
    rw [readFile, file_of_contentAt found]
    show Except.ok (String.ofList (universalNewlines (String.ofList text).toList)) = _
    rw [String.toList_ofList, universalNewlines_eq_self_iff.2 plain]
  rw [Program.exec_bind, Program.exec_look, same]
  show (Except.ok (historyItems limit (String.ofList text).toList), next) = _
  rw [String.toList_ofList]

end Calls

end File

theorem mem_historyText [NumberData] {payloads : List Dict}
    (proper : ∀ payload ∈ payloads, Loads.Proper (.obj payload)) : '\r' ∉ historyText payloads := by
  intro member
  obtain ⟨line, known, inside⟩ := List.mem_flatMap.1 member
  obtain ⟨payload, written, rfl⟩ := List.mem_map.1 known
  rcases List.mem_append.1 inside with dumped | newline
  · exact absurd ((Loads.dumps_spelled (proper payload written)).visible _ dumped) (by decide)
  · exact absurd newline (by decide)

/-- Records are read back, each with its time, exactly when no string and no key of them has a wide line break. -/
theorem history_reads_back_iff [CharData] [NumberData] {service : WorkspaceService} (positive : 0 < service.recursionLimit)
    {disk : Disk} (ready : Ready service disk) (empty : EmptyHistory service disk) {entries : List HistoryEntry}
    (short : entries.length ≤ 500) (proper : ∀ entry ∈ entries, Loads.Proper (.obj entry.record)) {limit : Int}
    (enough : entries.length ≤ limit) : ∃ next items last,
      (entries.forM service.appendHistory).exec disk = (.ok (), next) ∧
      (service.readHistory limit).exec next = (.ok items, last) ∧
      (List.Forall₂ Extends entries items ↔ ∀ entry ∈ entries, Unbroken (.obj entry.record)) := by
  have proper' : ∀ payload ∈ entries.map HistoryEntry.payload, Loads.Proper (.obj payload) := by
    intro payload member
    obtain ⟨entry, known, rfl⟩ := List.mem_map.1 member
    exact payload_proper (proper entry known)
  obtain ⟨next, appended, ready', reads⟩ := @Program.exec_forM _ disk _ service.appendHistory entries
    (fun done disk => Ready service disk ∧ HistoryReads service (historyText (done.map HistoryEntry.payload)) disk)
    (by
      rintro done entry later state - ⟨ready, reads⟩
      obtain ⟨next, ran, ready', _, follows⟩ := appendHistory_returns positive ready entry
      refine ⟨next, ran, ready', ?_⟩
      simpa [historyText] using follows _ reads)
    ⟨ready, .inr ⟨rfl, empty⟩⟩
  obtain ⟨last, ran⟩ := readHistory_returns positive ready' reads (mem_historyText proper') limit
  refine ⟨next, _, last, appended, ran, ?_⟩
  have size : (entries.map HistoryEntry.payload).length = entries.length := List.length_map ..
  constructor
  · intro same entry known
    by_contra broken
    obtain ⟨raw, member⟩ := raw_mem_historyItems proper' (List.mem_map_of_mem known)
      (fun unbroken => broken ((unbroken_payload_iff (proper entry known)).1 unbroken)) (size ▸ short) (size ▸ enough)
    obtain ⟨place, bound, found⟩ := List.mem_iff_getElem.1 member
    have within : place < entries.length := same.length_eq ▸ bound
    have time := (List.forall₂_iff_get.1 same).2 place within bound "created_at"
    rw [@List.get_eq_getElem _ _ ⟨place, bound⟩, found, if_pos rfl, List.lookup_cons, beq_false_of_ne (by decide)] at time
    cases own : (entries.get ⟨place, within⟩).record.lookup "created_at" <;> rw [own] at time <;> cases time
  · intro unbroken
    have whole := historyItems_of_unbroken proper' (fun payload member => by
      obtain ⟨entry, known, rfl⟩ := List.mem_map.1 member
      exact (unbroken_payload_iff (proper entry known)).2 (unbroken entry known)) (size ▸ short) (size ▸ enough)
    rw [whole, List.forall₂_map_right_iff]
    exact List.forall₂_same.2 fun entry known => payload_extends (proper entry known)

/-! A new workspace without a seed tree. -/

section Runs
attribute [local instance] CharData.ascii NumberData.decimal

private def freshHome : WorkspaceService := ⟨[homeName], [seedName], 1000⟩

private def note (text : String) : HistoryEntry := ⟨1782356405, 0, [("note", .str text)]⟩

private theorem freshHome_ready : Ready freshHome ∅ ∧ EmptyHistory freshHome ∅ :=
  ⟨ready_of_unseeded (by decide +kernel) (by decide) (by decide) (by decide +kernel) (by decide +kernel) (by decide +kernel)
    (by decide +kernel), .inr (by decide +kernel)⟩

theorem note_reads_back : ∃ next items last,
    (([note "first", note "second"]).forM freshHome.appendHistory).exec ∅ = (.ok (), next) ∧
    (freshHome.readHistory 50).exec next = (.ok items, last) ∧
    List.Forall₂ Extends [note "first", note "second"] items := by
  have proper : ∀ entry ∈ [note "first", note "second"], Loads.Proper (.obj entry.record) := by
    intro entry member
    rcases List.mem_cons.1 member with rfl | member
    · exact ⟨by decide, trivial, trivial⟩
    · rw [List.mem_singleton.1 member]
      exact ⟨by decide, trivial, trivial⟩
  have unbroken : ∀ entry ∈ [note "first", note "second"], Unbroken (.obj entry.record) := by
    have checked : ([note "first", note "second"].all fun entry => (Json.obj entry.record).strings.all fun text =>
        text.toList.all fun c => !Loads.isWideBreak c) = true := by decide +kernel
    intro entry member text known c inside
    simpa using List.all_eq_true.1 (List.all_eq_true.1 (List.all_eq_true.1 checked entry member) text known) c inside
  obtain ⟨next, items, last, appended, read, iff⟩ := @history_reads_back_iff _ _ freshHome (by decide) ∅
    freshHome_ready.1 freshHome_ready.2 [note "first", note "second"] (by decide) proper 50 (by decide)
  exact ⟨next, items, last, appended, read, iff.2 unbroken⟩

/-- A line separator cuts the record, and what stands behind it is read as a raw line. -/
theorem separator_cuts_record : ((do
    freshHome.appendHistory (note "a\u2028b")
    freshHome.readHistory 1 : FileM Raw (List Dict)).exec ∅).1.toOption = some [[("raw", .str "b\"\x7d")]] ∧
    ¬List.Forall₂ Extends [note "a\u2028b"] [[("raw", .str "b\"\x7d")]] := by
  refine ⟨by decide +kernel, ?_⟩
  intro same
  cases same with
  | cons first _ =>
    have time := first "created_at"
    cases time

end Runs

end SoulClaw.Evolution.Workspace
