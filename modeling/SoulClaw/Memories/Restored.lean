import SoulClaw.Memories.Consistency

/-! Going back to a recorded snapshot. A restore takes a field of the snapshot only where it is not empty, so
it puts back everything except an empty kind, source or content. -/

namespace SoulClaw.Memories.Restored
open Foundation File Service Effects Consistency

section Rows
variable {id : Uuid} {memory shown : Memory}

theorem orText_eq_left {first second : String} : orText first second = first ↔ first ≠ "" ∨ second = "" := by
  rw [orText]
  by_cases empty : first = ""
  · rw [if_pos empty, empty]
    simp
  · rw [if_neg empty]
    simp [empty]

/-- The restored row shows the snapshot if and only if no fallback has replaced a field of it. -/
theorem snapshot_restored_iff (memory : Memory) (sound : Sound id shown) : ∃ restored,
    applySnapshot id memory (snapshot id shown) = .ok restored ∧
      (snapshot id restored = snapshot id shown ↔
        shown.kind ≠ "" ∧ shown.source ≠ "" ∧ (shown.content ≠ "" ∨ memory.content = "")) := by
  refine ⟨_, applySnapshot_snapshot sound, ?_⟩
  have marked : orText shown.sourceFileMarker (marker id) = shown.sourceFileMarker := by
    rw [sound.marked, orText_marker]
  have kind : orText memory.kind "agent_note" ≠ "" := orText_ne_empty (by decide)
  have source : orText memory.source "restore" ≠ "" := orText_ne_empty (by decide)
  simp only [snapshot, Snapshot.mk.injEq, Option.some.injEq, marked, true_and, and_true, orText_eq_left, kind, source,
    or_false]
  tauto

end Rows

section Claim
variable [CharData] [FloatData] [UuidData] [FloatSum]

/-- In every reachable state, every record can be restored, and the memory then shows the designated
snapshot exactly if this has a kind and a source, and a content unless the memory has none either. -/
theorem restored_iff (file : String) (actions : List Action) (last : State)
    (ran : Runs.run step ⟨Database.empty, file⟩ actions = some last) (historyId : Nat) (record : MemoryHistory)
    (recorded : last.db.history.get? historyId = some record) (actor : String) :
    ∃ designated memory next restored, record.designated = some designated ∧
      last.db.memories record.memoryId = some memory ∧ restore last historyId actor = .ok next ∧
      next.db.memories record.memoryId = some restored ∧
      (snapshot record.memoryId restored = designated ↔
        designated.kind ≠ "" ∧ designated.source ≠ some "" ∧ (designated.content ≠ "" ∨ memory.content = "")) := by
  have sound := run_sound SoundDb.empty ran
  obtain ⟨known, shown, row, chosen⟩ := sound.records record (List.mem_of_getElem? recorded)
  obtain ⟨memory, known⟩ := Option.isSome_iff_exists.1 known
  obtain ⟨restored, applied, same⟩ := snapshot_restored_iff memory row
  refine ⟨_, memory, change last record.memoryId "restore" actor (some (snapshot record.memoryId memory)) restored,
    restored, chosen, known, ?_, ?_, ?_⟩
  · have named : (snapshot record.memoryId shown).id ≠ "" := Uuid.str_ne_empty record.memoryId
    rw [restore, recorded]
    simp only [chosen, if_neg named]
    have parsed : Uuid.ofText (snapshot record.memoryId shown).id = some record.memoryId :=
      Uuid.ofText_str record.memoryId
    simp only [parsed, restorable, known, applied]
    rfl
  · exact put_memories_self ..
  · rw [same]
    simp [snapshot]

end Claim

section Demo
attribute [local instance] CharData.ascii FloatData.decimal UuidData.plain FloatSum.exact

private def restoredId : Uuid := ⟨1⟩

private def createdWith (kind : String) : Option State :=
  Runs.run step ⟨Database.empty, ""⟩ [.create restoredId "" { kind, content := "tea" }, .archive restoredId]

theorem restored_tea : ∃ last record designated memory next restored, createdWith "agent_note" = some last ∧
    last.db.history.get? 0 = some record ∧ record.designated = some designated ∧
      last.db.memories record.memoryId = some memory ∧ restore last 0 "admin" = .ok next ∧
      next.db.memories record.memoryId = some restored ∧
      (snapshot record.memoryId restored = designated ↔
        designated.kind ≠ "" ∧ designated.source ≠ some "" ∧ (designated.content ≠ "" ∨ memory.content = "")) := by
  have evaluated : ((createdWith "agent_note").bind fun last => last.db.history.get? 0).isSome = true := by
    decide +kernel
  obtain ⟨record, found⟩ := Option.isSome_iff_exists.1 evaluated
  obtain ⟨last, ran, recorded⟩ := Option.bind_eq_some_iff.1 found
  obtain ⟨designated, memory, next, restored, restores⟩ := restored_iff "" _ last ran 0 record recorded "admin"
  exact ⟨last, record, designated, memory, next, restored, ran, recorded, restores⟩

/-- A memory that was created without a kind does not get its empty kind back. -/
theorem empty_kind_not_restored : ∃ last record designated next restored, createdWith "" = some last ∧
    last.db.history.get? 0 = some record ∧ record.action = "create" ∧ record.designated = some designated ∧
      restore last 0 "admin" = .ok next ∧ next.db.memories record.memoryId = some restored ∧
      snapshot record.memoryId restored ≠ designated := by
  have evaluated : ((createdWith "").bind fun last => (last.db.history.get? 0).bind fun record =>
      record.designated.bind fun designated => (restore last 0 "admin").toOption.bind fun next =>
        (next.db.memories record.memoryId).map fun restored =>
          decide (record.action = "create" ∧ snapshot record.memoryId restored ≠ designated)) = some true := by
    decide +kernel
  obtain ⟨last, ran, evaluated⟩ := Option.bind_eq_some_iff.1 evaluated
  obtain ⟨record, recorded, evaluated⟩ := Option.bind_eq_some_iff.1 evaluated
  obtain ⟨designated, chosen, evaluated⟩ := Option.bind_eq_some_iff.1 evaluated
  obtain ⟨next, returned, evaluated⟩ := Option.bind_eq_some_iff.1 evaluated
  obtain ⟨restored, found, differs⟩ := Option.map_eq_some_iff.1 evaluated
  obtain ⟨action, differs⟩ := of_decide_eq_true differs
  exact ⟨last, record, designated, next, restored, ran, recorded, action, chosen, toOption_eq_some.1 returned,
    found, differs⟩

end Demo

end SoulClaw.Memories.Restored
