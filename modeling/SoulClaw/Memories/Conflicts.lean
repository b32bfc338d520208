import SoulClaw.Foundation.Histories
import SoulClaw.Memories.Entries
import SoulClaw.Memories.Search
import Mathlib.Data.Sym.Sym2

/-! The conflicts that a new memory has with those that are like it, over runs of the memory service. -/

namespace SoulClaw.Memories.Conflicts
open Foundation File Service Effects Entries

structure MemoryConflict where
  leftMemoryId : Uuid
  rightMemoryId : Uuid
  status : String := "open"
  reason : String := ""
  deriving DecidableEq

/-- The two memories of a conflict, in no order. -/
def MemoryConflict.pair (conflict : MemoryConflict) : Sym2 Uuid := s(conflict.leftMemoryId, conflict.rightMemoryId)

/-- The similarity from which on two memories may conflict. -/
def similar : ℚ := 62 / 100

section Model
variable [CharData] [FloatData]

/-- The similarity of the texts of two memories. -/
def overlap (memory candidate : Memory) : ℚ :=
  Search.jaccard (Search.tokens memory.content) (Search.tokens candidate.content)

/-- Two memories say nearly, but not exactly, the same. -/
def Rival (memory candidate : Memory) : Prop :=
  similar ≤ overlap memory candidate ∧ Text.strip candidate.content ≠ Text.strip memory.content

instance Rival.instDecidable (memory candidate : Memory) : Decidable (Rival memory candidate) := by
  unfold Rival
  infer_instance

/-- An open conflict between two memories is stored. -/
def known (stored : List MemoryConflict) (first second : Uuid) : Bool :=
  stored.any fun conflict => ((conflict.leftMemoryId = first ∧ conflict.rightMemoryId = second) ∨
    (conflict.leftMemoryId = second ∧ conflict.rightMemoryId = first)) ∧ conflict.status = "open"

/-- The turn of the loop of `_detect_conflicts` for one candidate. -/
def conflictWith (stored : List MemoryConflict) (id : Uuid) (memory : Memory) (other : Uuid) (candidate : Memory) :
    Option MemoryConflict :=
  if overlap memory candidate < similar ∨ Text.strip candidate.content = Text.strip memory.content then none
  else if known stored other id then none
  else some {
    leftMemoryId := other
    rightMemoryId := id
    status := "open"
    reason := "Similar " ++ memory.kind ++ " memories may conflict (token overlap " ++
      FloatData.fixed2 (.finite (overlap memory candidate)) ++ ")." }

/-- `_detect_conflicts`, where `candidates` are the memories that its query gives. The session does not flush on a
query, so it sees the stored conflicts and not those that it adds. -/
def detectConflicts (db : Database) (stored : List MemoryConflict) (candidates : List Uuid) (id : Uuid)
    (memory : Memory) : List MemoryConflict :=
  if (Search.tokens memory.content).card < 4 then []
  else candidates.filterMap fun other => (db.memories other).bind (conflictWith stored id memory other)

/-- What the query for the candidates gives: at most fifty other memories of the kind that are not archived, and all of
them where there are fewer. -/
structure Candidates (db : Database) (id : Uuid) (kind : String) (candidates : List Uuid) : Prop where
  distinct : candidates.Nodup
  few : candidates.length ≤ 50
  sound : ∀ other ∈ candidates, other ≠ id ∧
    ∃ candidate, db.memories other = some candidate ∧ candidate.archived = false ∧ candidate.kind = kind
  full : candidates.length < 50 → ∀ other candidate, other ≠ id → db.memories other = some candidate →
    candidate.archived = false → candidate.kind = kind → other ∈ candidates

/-! Runs of the service with the conflicts. -/

structure World where
  state : State
  conflicts : List MemoryConflict

/-- An operation, and what the query for the candidates gives when it creates a memory. -/
structure Turn where
  action : Action
  candidates : List Uuid := []

/-- The identifier that `create` draws in an operation. -/
def drawnBy : Action → Option Uuid
  | .create drawn _ _ | .supersede drawn _ _ _ | .applyProposal drawn _ _ _ => some drawn
  | _ => none

/-- The memory that an operation has created. -/
def born (before after : Database) (action : Action) : Option (Uuid × Memory) :=
  (drawnBy action).bind fun drawn =>
    if (before.memories drawn).isSome then none else (after.memories drawn).map fun memory => (drawn, memory)

variable [UuidData] [FloatSum]

/-- The conflicts that a turn adds. What follows on the creation of a memory in its operation changes none of the
columns that are read here. -/
def detected (world : World) (turn : Turn) : List MemoryConflict :=
  match perform world.state turn.action with
  | .error _ => []
  | .ok next =>
      match born world.state.db next.db turn.action with
      | none => []
      | some created => detectConflicts next.db world.conflicts turn.candidates created.1 created.2

def step (world : World) (turn : Turn) : Option World :=
  (Service.step world.state turn.action).map fun next => ⟨next, world.conflicts ++ detected world turn⟩

/-- The database answers the query of a turn that creates a memory. -/
def Answered (world : World) (turn : Turn) : Prop :=
  ∀ next created, perform world.state turn.action = .ok next → born world.state.db next.db turn.action = some created →
    Candidates next.db created.1 created.2.kind turn.candidates

/-- In a turn a memory is created that is the rival of a candidate. -/
def Clashes (world : World) (turn : Turn) (left right : Uuid) : Prop :=
  ∃ next memory candidate, perform world.state turn.action = .ok next ∧
    born world.state.db next.db turn.action = some (right, memory) ∧ left ∈ turn.candidates ∧
    next.db.memories left = some candidate ∧ 4 ≤ (Search.tokens memory.content).card ∧ Rival memory candidate

/-! No operation removes a memory. -/

section Growth
variable {db before after : Database} {state next : State}

def Keeps (before after : Database) : Prop := ∀ id, (before.memories id).isSome = true → (after.memories id).isSome = true

omit [CharData] [FloatData] [UuidData] [FloatSum] in
theorem Keeps.put (keeps : Keeps before after) (id : Uuid) (memory : Memory) : Keeps before (after.put id memory) := by
  intro other there
  by_cases here : other = id
  · rw [here, put_memories_self]
    rfl
  · rw [put_memories_ne _ _ _ here]
    exact keeps other there

omit [CharData] [FloatData] [UuidData] [FloatSum] in
theorem keeps_closePrevious (source : String) (id : Uuid) : Keeps db (closePrevious db source id) := by
  cases found : db.memories id with
  | none =>
    rw [closePrevious_of_none found]
    exact fun _ there => there
  | some previous =>
    rw [closePrevious_of_some found]
    exact Keeps.put (fun _ there => there) id _

omit [FloatData] [UuidData] [FloatSum] in
theorem keeps_created (id : Uuid) (now : String) (request : CreateRequest) : Keeps db (created db id now request) := by
  unfold created
  cases request.supersedesId with
  | none => exact Keeps.put (fun _ there => there) id _
  | some previous => exact (keeps_closePrevious request.source previous).put id _

omit [UuidData] [FloatSum] in
theorem create_keeps {id : Uuid} {now : String} {request : CreateRequest} (returned : create state id now request = .ok next) :
    Keeps state.db next.db := by
  rw [(create_ok returned).2.1]
  exact keeps_created id now request

omit [UuidData] [FloatSum] in
theorem supersede_keeps {drawn id : Uuid} {now : String} {replacement : Replacement}
    (returned : supersede state drawn now id replacement = .ok next) : Keeps state.db next.db := by
  obtain ⟨previous, _, _, _, rows, _⟩ := supersede_ok returned
  rw [rows]
  apply Keeps.put
  intro other there
  exact keeps_created drawn now _ other (Keeps.put (fun _ there => there) id _ other there)

omit [UuidData] [FloatSum] in
theorem keeps_change (state : State) (id : Uuid) (action actor : String) (before : Option Snapshot)
    (memory : Memory) : Keeps state.db (change state id action actor before memory).db :=
  Keeps.put (fun _ there => there) id memory

omit [UuidData] [FloatSum] in
theorem archive_keeps {id : Uuid} (returned : archive state id = .ok next) : Keeps state.db next.db := by
  obtain ⟨memory, _, rfl⟩ := archive_ok returned
  exact keeps_change state id _ _ _ _

omit [UuidData] in
theorem markVerified_keeps {id : Uuid} {delta : PyFloat} (returned : markVerified state id delta = .ok next) :
    Keeps state.db next.db := by
  obtain ⟨memory, _, rfl⟩ := markVerified_ok returned
  exact keeps_change state id _ _ _ _

theorem perform_keeps {action : Action} (returned : perform state action = .ok next) : Keeps state.db next.db := by
  cases action with
  | create drawn now request => exact create_keeps returned
  | supersede drawn now id replacement => exact supersede_keeps returned
  | archive id => exact archive_keeps returned
  | markVerified id delta => exact markVerified_keeps returned
  | sync now =>
    cases returned
    apply sync_keeps now (fun _ there => there)
    intro db entry memory fields content time _ kept _ _
    exact kept.put entry.1 _
  | restore historyId actor =>
    obtain ⟨record, designated, id, memory, _, _, _, _, rfl⟩ := restore_ok returned
    exact keeps_change state id _ _ _ _
  | applyProposal drawn now actor proposal =>
    obtain ⟨⟨applied, reached⟩, ran, rfl⟩ := map_eq_ok.1 returned
    obtain ⟨_, _, _, ran⟩ | ⟨_, _, _, ran⟩ | ⟨_, _, ran⟩ | ⟨_, _, _, ran⟩ := applyProposal_ok ran
    · exact create_keeps ran
    · exact supersede_keeps ran
    · exact archive_keeps ran
    · exact markVerified_keeps ran
  | editFile text =>
    cases returned
    exact fun _ there => there

end Growth

/-! What a turn adds. -/

section Turns
variable {world next : World} {turn : Turn} {left right : Uuid}

omit [CharData] [FloatData] [UuidData] [FloatSum] in
theorem born_eq_some {before after : Database} {action : Action} {id : Uuid} {memory : Memory}
    (created : born before after action = some (id, memory)) :
    before.memories id = none ∧ after.memories id = some memory := by
  obtain ⟨drawn, _, found⟩ := Option.bind_eq_some_iff.1 created
  split_ifs at found with taken
  obtain ⟨row, there, same⟩ := Option.map_eq_some_iff.1 found
  obtain ⟨rfl, rfl⟩ := Prod.mk.inj same
  exact ⟨by simpa using taken, there⟩

/-- The conflicts are open and between two different memories that exist, and each two memories have one at most. -/
structure Sound (world : World) : Prop where
  opened : ∀ conflict ∈ world.conflicts, conflict.status = "open"
  ends : ∀ conflict ∈ world.conflicts, (world.state.db.memories conflict.leftMemoryId).isSome = true ∧
    (world.state.db.memories conflict.rightMemoryId).isSome = true
  apart : ∀ conflict ∈ world.conflicts, conflict.leftMemoryId ≠ conflict.rightMemoryId
  once : (world.conflicts.map MemoryConflict.pair).Nodup

omit [CharData] [FloatData] [UuidData] [FloatSum] in
/-- No conflict of a memory is stored before the memory is. -/
theorem Sound.unknown (sound : Sound world) (absent : world.state.db.memories right = none) :
    known world.conflicts left right = false := by
  rw [known, List.any_eq_false]
  intro conflict member same
  obtain ⟨first, second⟩ := sound.ends conflict member
  have named : (conflict.leftMemoryId = left ∧ conflict.rightMemoryId = right) ∨
      (conflict.leftMemoryId = right ∧ conflict.rightMemoryId = left) := (of_decide_eq_true same).1
  obtain ⟨_, here⟩ | ⟨here, _⟩ := named
  · rw [here, absent] at second
    cases second
  · rw [here, absent] at first
    cases first

omit [UuidData] [FloatSum] in
theorem conflictWith_eq_some {stored : List MemoryConflict} {id other : Uuid} {memory candidate : Memory}
    {conflict : MemoryConflict}
    (found : conflictWith stored id memory other candidate = some conflict) :
    Rival memory candidate ∧ conflict.leftMemoryId = other ∧ conflict.rightMemoryId = id ∧ conflict.status = "open" := by
  unfold conflictWith at found
  split_ifs at found with apart
  rw [not_or, not_lt] at apart
  obtain rfl := Option.some.inj found
  exact ⟨apart, rfl, rfl, rfl⟩

omit [UuidData] [FloatSum] in
theorem conflictWith_of_rival {stored : List MemoryConflict} {id other : Uuid} {memory candidate : Memory}
    (unknown : known stored other id = false) (rival : Rival memory candidate) :
    ∃ conflict, conflictWith stored id memory other candidate = some conflict ∧ conflict.leftMemoryId = other ∧
      conflict.rightMemoryId = id := by
  have apart : ¬(overlap memory candidate < similar ∨ Text.strip candidate.content = Text.strip memory.content) := by
    rw [not_or, not_lt]
    exact rival
  unfold conflictWith
  rw [if_neg apart, unknown]
  exact ⟨_, rfl, rfl, rfl⟩

/-- What a turn adds are the clashes of the memory that it has created. -/
theorem mem_detected {conflict : MemoryConflict} (member : conflict ∈ detected world turn) :
    Clashes world turn conflict.leftMemoryId conflict.rightMemoryId ∧ conflict.status = "open" := by
  unfold detected at member
  split at member
  next => cases member
  next next returned =>
    split at member
    next => cases member
    next created made =>
      obtain ⟨id, memory⟩ := created
      obtain ⟨absent, _⟩ := born_eq_some made
      unfold detectConflicts at member
      split_ifs at member with short
      · cases member
      · obtain ⟨other, listed, found⟩ := List.mem_filterMap.1 member
        obtain ⟨candidate, there, clash⟩ := Option.bind_eq_some_iff.1 found
        obtain ⟨rival, rfl, rfl, opened⟩ := conflictWith_eq_some clash
        exact ⟨⟨next, memory, candidate, returned, made, listed, there, Nat.le_of_not_lt short, rival⟩, opened⟩

theorem Sound.detected_of_clash (sound : Sound world) (clashes : Clashes world turn left right) :
    ∃ conflict ∈ detected world turn, conflict.leftMemoryId = left ∧ conflict.rightMemoryId = right := by
  obtain ⟨next, memory, candidate, returned, made, listed, there, long, rival⟩ := clashes
  obtain ⟨absent, _⟩ := born_eq_some made
  have unknown : known world.conflicts left right = false := sound.unknown absent
  obtain ⟨conflict, found, from_, to_⟩ := conflictWith_of_rival unknown rival
  refine ⟨conflict, ?_, from_, to_⟩
  unfold detected
  simp only [returned, made, detectConflicts, if_neg (Nat.not_lt.2 long)]
  exact List.mem_filterMap.2 ⟨left, listed, Option.bind_eq_some_iff.2 ⟨candidate, there, found⟩⟩

omit [CharData] [FloatData] [UuidData] [FloatSum] in
theorem MemoryConflict.pair_eq {conflict other : MemoryConflict} (same : conflict.pair = other.pair) :
    conflict.leftMemoryId = other.leftMemoryId ∧ conflict.rightMemoryId = other.rightMemoryId ∨
      conflict.leftMemoryId = other.rightMemoryId ∧ conflict.rightMemoryId = other.leftMemoryId := by
  rw [MemoryConflict.pair, MemoryConflict.pair, Sym2.eq_iff] at same
  exact same

omit [UuidData] [FloatSum] in
/-- The conflicts of one turn are with different candidates. -/
theorem nodup_detectConflicts {db : Database} {stored : List MemoryConflict} {candidates : List Uuid} {id : Uuid}
    {memory : Memory} (distinct : candidates.Nodup) :
    ((detectConflicts db stored candidates id memory).map MemoryConflict.pair).Nodup := by
  unfold detectConflicts
  split_ifs
  · exact List.nodup_nil
  · rw [List.map_filterMap]
    apply distinct.filterMap
    intro first second pair one two
    obtain ⟨conflict, made, rfl⟩ := Option.map_eq_some_iff.1 one
    obtain ⟨other, also, same⟩ := Option.map_eq_some_iff.1 two
    obtain ⟨_, _, clash⟩ := Option.bind_eq_some_iff.1 made
    obtain ⟨_, _, against⟩ := Option.bind_eq_some_iff.1 also
    obtain ⟨_, left, right, _⟩ := conflictWith_eq_some clash
    obtain ⟨_, left', right', _⟩ := conflictWith_eq_some against
    obtain ⟨equal, _⟩ | ⟨swapped, crossed⟩ := MemoryConflict.pair_eq same
    · rw [← left, ← left', equal]
    · rw [← left, ← left', swapped, right, ← right', ← crossed]

theorem nodup_detected (answered : Answered world turn) : ((detected world turn).map MemoryConflict.pair).Nodup := by
  unfold detected
  split
  next => exact List.nodup_nil
  next next returned =>
    split
    next => exact List.nodup_nil
    next created made => exact nodup_detectConflicts (answered next created returned made).distinct

theorem Sound.step (sound : Sound world) (answered : Answered world turn) (taken : step world turn = some next) :
    Sound next := by
  obtain ⟨state, stepped, rfl⟩ := Option.map_eq_some_iff.1 taken
  have keeps : Keeps world.state.db state.db := by
    unfold Service.step at stepped
    split at stepped
    next reached returned =>
      obtain rfl := Option.some.inj stepped
      exact perform_keeps returned
    next =>
      obtain rfl := Option.some.inj stepped
      exact fun _ there => there
  have reached : ∀ next, perform world.state turn.action = .ok next → next = state := by
    intro next returned
    rw [Service.step, returned] at stepped
    exact Option.some.inj stepped
  -- The ends of an added conflict: the right one is new, the left one is a candidate.
  have ends : ∀ conflict ∈ detected world turn, conflict.leftMemoryId ≠ conflict.rightMemoryId ∧
      world.state.db.memories conflict.rightMemoryId = none ∧
      (state.db.memories conflict.leftMemoryId).isSome = true ∧
      (state.db.memories conflict.rightMemoryId).isSome = true := by
    intro conflict member
    obtain ⟨next, memory, candidate, returned, made, listed, there, _⟩ := (mem_detected member).1
    obtain ⟨absent, present⟩ := born_eq_some made
    have other := ((answered next _ returned made).sound _ listed).1
    rw [reached next returned] at there present
    refine ⟨other, absent, ?_, ?_⟩
    · rw [there]
      rfl
    · rw [present]
      rfl
  constructor
  · intro conflict member
    obtain old | new := List.mem_append.1 member
    · exact sound.opened conflict old
    · exact (mem_detected new).2
  · intro conflict member
    obtain old | new := List.mem_append.1 member
    · exact (sound.ends conflict old).imp (keeps _) (keeps _)
    · exact (ends conflict new).2.2
  · intro conflict member
    obtain old | new := List.mem_append.1 member
    · exact sound.apart conflict old
    · exact (ends conflict new).1
  · show ((world.conflicts ++ detected world turn).map MemoryConflict.pair).Nodup
    rw [List.map_append]
    apply List.nodup_append.2
    refine ⟨sound.once, nodup_detected answered, ?_⟩
    intro pair stored added new same
    obtain ⟨conflict, old, rfl⟩ := List.mem_map.1 stored
    obtain ⟨other, fresh, rfl⟩ := List.mem_map.1 new
    have absent := (ends other fresh).2.1
    obtain ⟨first, second⟩ := sound.ends conflict old
    obtain ⟨_, here⟩ | ⟨here, _⟩ := MemoryConflict.pair_eq same
    · rw [here, absent] at second
      cases second
    · rw [here, absent] at first
      cases first

end Turns

/-! Runs. -/

section Results
variable {start : State} {turns : List Turn} {last : World}

omit [CharData] [FloatData] [UuidData] [FloatSum] in
theorem sound_initial (state : State) : Sound ⟨state, []⟩ :=
  ⟨fun _ member => absurd member List.not_mem_nil, fun _ member => absurd member List.not_mem_nil,
    fun _ member => absurd member List.not_mem_nil, List.nodup_nil⟩

/-- In every run of the service from a database without conflicts, two memories have one open conflict at most. They
have one exactly if one of them was created when the other one was a candidate with a similar, but different text; and
every memory of its kind that is not archived is a candidate as long as there are fewer than fifty. -/
theorem conflicts_of_run (start : State) (turns : List Turn) (last : World)
    (answered : Runs.Along step Answered ⟨start, []⟩ turns) (ran : Runs.run step ⟨start, []⟩ turns = some last) :
    (last.conflicts.map MemoryConflict.pair).Nodup ∧
    (∀ conflict ∈ last.conflicts, conflict.status = "open" ∧ conflict.leftMemoryId ≠ conflict.rightMemoryId) ∧
    (∀ left right, (∃ conflict ∈ last.conflicts, conflict.leftMemoryId = left ∧ conflict.rightMemoryId = right) ↔
      ∃ world turn, Runs.Passes step ⟨start, []⟩ turns world turn ∧ Clashes world turn left right) ∧
    ∀ world turn next right memory, Runs.Passes step ⟨start, []⟩ turns world turn →
      perform world.state turn.action = .ok next → born world.state.db next.db turn.action = some (right, memory) →
      turn.candidates.length < 50 → 4 ≤ (Search.tokens memory.content).card →
      ∀ left candidate, left ≠ right → next.db.memories left = some candidate → candidate.archived = false →
        candidate.kind = memory.kind → Rival memory candidate →
        ∃ conflict ∈ last.conflicts, conflict.leftMemoryId = left ∧ conflict.rightMemoryId = right := by
  have passed : ∀ world turn, Runs.Passes step ⟨start, []⟩ turns world turn → Sound world ∧ Answered world turn := by
    intro world turn passes
    exact passes.invariant_along (fun _ _ _ sound guarded taken => sound.step guarded taken) (sound_initial start) answered
  have sound : Sound last := Runs.run_invariant_along Sound (fun _ _ _ sound guarded taken => sound.step guarded taken)
    (sound_initial start) answered ran
  have added : ∀ world turn next, step world turn = some next → next.conflicts = world.conflicts ++ detected world turn := by
    intro world turn next taken
    obtain ⟨state, _, rfl⟩ := Option.map_eq_some_iff.1 taken
    rfl
  have recorded := Runs.mem_recorded_iff added ran
  have clashed : ∀ world turn left right, Runs.Passes step ⟨start, []⟩ turns world turn → Clashes world turn left right →
      ∃ conflict ∈ last.conflicts, conflict.leftMemoryId = left ∧ conflict.rightMemoryId = right := by
    intro world turn left right passes clashes
    obtain ⟨conflict, made, ends⟩ := (passed world turn passes).1.detected_of_clash clashes
    exact ⟨conflict, (recorded conflict).2 (.inr ⟨world, turn, passes, made⟩), ends⟩
  refine ⟨sound.once, fun conflict member => ⟨sound.opened conflict member, sound.apart conflict member⟩, ?_, ?_⟩
  · intro left right
    constructor
    · intro found
      obtain ⟨conflict, member, rfl, rfl⟩ := found
      obtain nothing | ⟨world, turn, passes, made⟩ := (recorded conflict).1 member
      · cases nothing
      · exact ⟨world, turn, passes, (mem_detected made).1⟩
    · intro found
      obtain ⟨world, turn, passes, clashes⟩ := found
      exact clashed world turn left right passes clashes
  · intro world turn next right memory passes returned made few long left candidate other there kept kind rival
    have listed := ((passed world turn passes).2 next _ returned made).full few left candidate other there kept kind
    exact clashed world turn left right passes ⟨next, memory, candidate, returned, made, listed, there, long, rival⟩

end Results

end Model

/-! Two memories about one habit. -/

section Demo
attribute [local instance] CharData.ascii FloatData.decimal UuidData.plain FloatSum.exact

def morningId : Uuid := ⟨1⟩

def eveningId : Uuid := ⟨2⟩

def morning : CreateRequest := { kind := "preference", content := "drink green tea every morning" }

def evening : CreateRequest := { kind := "preference", content := "drink green tea every evening" }

def createMorning : Turn := ⟨.create morningId "2026-01-01" morning, []⟩

def createEvening : Turn := ⟨.create eveningId "2026-01-02" evening, [morningId]⟩

theorem memories_of_create {state next : State} {id : Uuid} {now : String} {request : CreateRequest}
    (alone : request.supersedesId = none) (returned : create state id now request = .ok next) :
    next.db.memories = Function.update state.db.memories id (some (newMemory id now request)) := by
  rw [(create_ok returned).2.1, created_alone (by simp [alone])]
  rfl

def afterMorning : State where
  db := created Database.empty morningId "2026-01-01" morning
  file := appendToMemoryFile "" morningId (newMemory morningId "2026-01-01" morning)

def afterEvening : State where
  db := created afterMorning.db eveningId "2026-01-02" evening
  file := appendToMemoryFile afterMorning.file eveningId (newMemory eveningId "2026-01-02" evening)

theorem morning_created : perform ⟨Database.empty, ""⟩ createMorning.action = .ok afterMorning := by
  show create _ morningId "2026-01-01" morning = _
  rw [create, if_neg (by simp [Database.empty])]
  rfl

theorem morning_memories (id : Uuid) : afterMorning.db.memories id =
    if id = morningId then some (newMemory morningId "2026-01-01" morning) else none := by
  rw [memories_of_create rfl morning_created, Function.update_apply]
  rfl

theorem evening_created : perform afterMorning createEvening.action = .ok afterEvening := by
  have fresh : afterMorning.db.memories eveningId = none := by
    rw [morning_memories, if_neg (by decide)]
  show create _ eveningId "2026-01-02" evening = _
  rw [create, fresh, if_neg (by simp)]
  rfl

theorem evening_memories (id : Uuid) : afterEvening.db.memories id =
    if id = eveningId then some (newMemory eveningId "2026-01-02" evening) else afterMorning.db.memories id := by
  rw [memories_of_create rfl evening_created, Function.update_apply]

/-- The conflicts behind the two turns. -/
def habitConflicts : List MemoryConflict :=
  [] ++ detected ⟨⟨Database.empty, ""⟩, []⟩ createMorning ++
    detected ⟨afterMorning, [] ++ detected ⟨⟨Database.empty, ""⟩, []⟩ createMorning⟩ createEvening

theorem habits_conflict : Runs.run step ⟨⟨Database.empty, ""⟩, []⟩ [createMorning, createEvening] =
      some ⟨afterEvening, habitConflicts⟩ ∧
    ∃ conflict ∈ habitConflicts, conflict.leftMemoryId = morningId ∧ conflict.rightMemoryId = eveningId := by
  have first : step ⟨⟨Database.empty, ""⟩, []⟩ createMorning =
      some ⟨afterMorning, [] ++ detected ⟨⟨Database.empty, ""⟩, []⟩ createMorning⟩ := by
    rw [step, Service.step, morning_created]
    rfl
  have second : step ⟨afterMorning, [] ++ detected ⟨⟨Database.empty, ""⟩, []⟩ createMorning⟩ createEvening =
      some ⟨afterEvening, habitConflicts⟩ := by
    rw [step, Service.step, evening_created]
    rfl
  have ran : Runs.run step ⟨⟨Database.empty, ""⟩, []⟩ [createMorning, createEvening] =
      some ⟨afterEvening, habitConflicts⟩ := by
    rw [Runs.run_cons, first, Option.bind_some, Runs.run_cons, second]
    rfl
  have answered : Runs.Along step Answered ⟨⟨Database.empty, ""⟩, []⟩ [createMorning, createEvening] := by
    refine ⟨?_, fun next taken => ⟨?_, fun _ _ => trivial⟩⟩
    · intro next created returned made
      obtain rfl := Except.ok.inj (morning_created.symm.trans returned)
      obtain ⟨id, memory⟩ := created
      have drawn : id = morningId := by
        by_contra other
        have present := (born_eq_some made).2
        rw [morning_memories, if_neg other] at present
        cases present
      refine ⟨List.nodup_nil, Nat.zero_le 50, fun _ member => absurd member List.not_mem_nil, ?_⟩
      intro _ other candidate apart there
      rw [morning_memories, if_neg (drawn ▸ apart)] at there
      cases there
    · obtain rfl := Option.some.inj (first.symm.trans taken)
      intro next created returned made
      obtain rfl := Except.ok.inj (evening_created.symm.trans returned)
      obtain ⟨id, memory⟩ := created
      obtain ⟨absent, present⟩ := born_eq_some made
      have drawn : id = eveningId := by
        by_contra other
        rw [evening_memories, if_neg other, absent] at present
        cases present
      subst drawn
      rw [evening_memories, if_pos rfl] at present
      obtain rfl := Option.some.inj present
      have others : ∀ other, other ≠ eveningId → ∀ candidate, afterEvening.db.memories other = some candidate →
          other = morningId ∧ candidate = newMemory morningId "2026-01-01" morning := by
        intro other apart candidate there
        rw [evening_memories, if_neg apart, morning_memories] at there
        split_ifs at there with here
        exact ⟨here, (Option.some.inj there).symm⟩
      refine ⟨List.nodup_singleton _, by decide, ?_, ?_⟩
      · intro other member
        obtain rfl := List.mem_singleton.1 member
        refine ⟨by decide, newMemory morningId "2026-01-01" morning, ?_, rfl, rfl⟩
        rw [evening_memories, if_neg (by decide), morning_memories, if_pos rfl]
      · intro _ other candidate apart there _ _
        exact List.mem_singleton.2 (others other apart candidate there).1
  have passes : Runs.Passes step ⟨⟨Database.empty, ""⟩, []⟩ [createMorning, createEvening]
      ⟨afterMorning, [] ++ detected ⟨⟨Database.empty, ""⟩, []⟩ createMorning⟩ createEvening :=
    (Runs.Passes.here _ createEvening []).later first
  have made : born afterMorning.db afterEvening.db createEvening.action =
      some (eveningId, newMemory eveningId "2026-01-02" evening) := by
    show (if (afterMorning.db.memories eveningId).isSome then none
      else (afterEvening.db.memories eveningId).map fun memory => (eveningId, memory)) = _
    rw [morning_memories, if_neg (by decide), evening_memories, if_pos rfl]
    rfl
  refine ⟨ran, (conflicts_of_run _ _ _ answered ran).2.2.2 _ _ _ _ _ passes evening_created made (by decide)
    (by decide +kernel) morningId (newMemory morningId "2026-01-01" morning) (by decide) ?_ rfl rfl (by decide +kernel)⟩
  rw [evening_memories, if_neg (by decide), morning_memories, if_pos rfl]

end Demo

end SoulClaw.Memories.Conflicts
