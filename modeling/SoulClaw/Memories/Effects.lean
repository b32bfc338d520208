import SoulClaw.Memories.Service

/-! What the operations of the memory service do to the rows, the history and the file: one statement for
each of them. -/

namespace SoulClaw.Memories.Effects
open Foundation File Service Lines

/-! Rows and records. -/

section Database
variable (db : Database) (id : Uuid) (memory : Memory) (action actor : String) (before after : Option Snapshot)

@[simp] theorem memories_put : (db.put id memory).memories = Function.update db.memories id (some memory) := rfl

@[simp] theorem history_put : (db.put id memory).history = db.history := rfl

@[simp] theorem memories_recordHistory :
    (db.recordHistory id action before after actor).memories = db.memories := rfl

@[simp] theorem rows_recordHistory : (db.recordHistory id action before after actor).history.rows =
    db.history.rows ++ [⟨id, action, before, after, orText actor "system"⟩] := rfl

@[simp] theorem put_memories_self : (db.put id memory).memories id = some memory := Function.update_self ..

theorem put_memories_ne {other : Uuid} (different : other ≠ id) :
    (db.put id memory).memories other = db.memories other := Function.update_of_ne different ..

/-- A row after a write is a row from before, or the written one. -/
theorem put_cases {db : Database} {id other : Uuid} {memory row : Memory}
    (found : (db.put id memory).memories other = some row) :
    other = id ∧ row = memory ∨ other ≠ id ∧ db.memories other = some row := by
  by_cases here : other = id
  · rw [here, put_memories_self] at found
    exact .inl ⟨here, (Option.some.inj found).symm⟩
  · rw [put_memories_ne _ _ _ here] at found
    exact .inr ⟨here, found⟩

end Database

/-! Creating. -/

section Create
variable [CharData] {db : Database} {id : Uuid} {now : String} {request : CreateRequest}

omit [CharData] in
theorem closePrevious_of_some {source : String} {previous : Memory} (known : db.memories id = some previous) :
    closePrevious db source id =
      (db.recordHistory id "superseded_by_create" (some (snapshot id previous)) none source).put id
        (retired previous "superseded") := by
  rw [closePrevious, known]

omit [CharData] in
theorem closePrevious_of_none {source : String} (unknown : db.memories id = none) :
    closePrevious db source id = db := by
  rw [closePrevious, unknown]

/-- A create that supersedes no existing memory adds its row, and nothing else. -/
theorem created_alone (alone : ∀ previous ∈ request.supersedesId, db.memories previous = none) :
    created db id now request = (db.put id (newMemory id now request)).recordHistory id "create" none
      (some (snapshot id (newMemory id now request))) request.source := by
  rw [created]
  cases named : request.supersedesId with
  | none => rfl
  | some previous => simp only [closePrevious_of_none (alone previous named)]

/-- A create that supersedes an existing memory retires its row first. -/
theorem created_superseding {old : Uuid} {previous : Memory} (named : request.supersedesId = some old)
    (known : db.memories old = some previous) :
    created db id now request = (((db.recordHistory old "superseded_by_create" (some (snapshot old previous)) none
      request.source).put old (retired previous "superseded")).put id (newMemory id now request)).recordHistory id
        "create" none (some (snapshot id (newMemory id now request))) request.source := by
  rw [created, named]
  simp only [closePrevious_of_some known]

theorem create_ok [FloatData] {state next : State} (returned : create state id now request = .ok next) :
    state.db.memories id = none ∧ next.db = created state.db id now request ∧
      next.file = appendToMemoryFile state.file id (newMemory id now request) := by
  rw [create] at returned
  split at returned
  next => cases returned
  next absent =>
    cases returned
    exact ⟨by simpa using absent, rfl, rfl⟩

end Create

section Operations
variable [CharData] [FloatData] {state next : State}

/-- The row of a memory that another one has replaced. -/
def replacedRow (previous : Memory) (drawn : Uuid) : Memory :=
  { retired previous "superseded" with supersededBy := some drawn }

/-- The rows after a memory has been superseded. -/
def replaced (db : Database) (drawn : Uuid) (now : String) (id : Uuid) (previous : Memory)
    (replacement : Replacement) : Database :=
  ((created (db.put id (retired previous "superseded")) drawn now (replacing id previous replacement)).put id
    (replacedRow previous drawn)).recordHistory id "supersede" (some (snapshot id previous))
      (some (snapshot id (replacedRow previous drawn))) (orText (replacement.source.getD "") "supersede")

omit [FloatData] in
/-- Superseding adds the row of the new memory and changes that of the previous one. -/
theorem replaced_memories {db : Database} {drawn id : Uuid} (different : drawn ≠ id) (now : String) (previous : Memory)
    (replacement : Replacement) : (replaced db drawn now id previous replacement).memories =
      Function.update (Function.update db.memories drawn
        (some (newMemory drawn now (replacing id previous replacement)))) id (some (replacedRow previous drawn)) := by
  rw [replaced, created_superseding rfl (put_memories_self ..)]
  funext other
  by_cases old : other = id
  · simp [old]
  · by_cases new : other = drawn
    · simp [new, different]
    · simp [old, new]

theorem supersede_ok {drawn id : Uuid} {now : String} {replacement : Replacement}
    (returned : supersede state drawn now id replacement = .ok next) :
    ∃ previous, state.db.memories id = some previous ∧ drawn ≠ id ∧ state.db.memories drawn = none ∧
      next.db = replaced state.db drawn now id previous replacement ∧
      next.file = rewriteMemoryFileEntry (rewriteMemoryFileEntry
        (appendToMemoryFile state.file drawn (newMemory drawn now (replacing id previous replacement))) id
          (replacedRow previous drawn)) drawn (newMemory drawn now (replacing id previous replacement)) := by
  rw [supersede] at returned
  cases known : state.db.memories id with
  | none =>
    rw [known] at returned
    cases returned
  | some previous =>
    simp only [known] at returned
    cases outcome : create { state with db := state.db.put id (retired previous "superseded") } drawn now
        (replacing id previous replacement) with
    | error raised =>
      rw [outcome] at returned
      cases returned
    | ok between =>
      rw [outcome] at returned
      obtain ⟨absent, rows, text⟩ := create_ok outcome
      have different : drawn ≠ id := by
        rintro rfl
        rw [put_memories_self] at absent
        cases absent
      rw [put_memories_ne _ _ _ different] at absent
      cases returned
      refine ⟨previous, rfl, different, absent, ?_, ?_⟩
      · rw [replaced, ← rows]
        rfl
      · rw [← text]
        rfl

theorem archive_ok {id : Uuid} (returned : archive state id = .ok next) :
    ∃ memory, state.db.memories id = some memory ∧ next = change state id "archive" "memory-service"
      (some (snapshot id memory)) (retired memory "archived") := by
  rw [archive] at returned
  split at returned
  next => cases returned
  next memory known =>
    cases returned
    exact ⟨memory, known, rfl⟩

/-- The row of a memory that has been verified. -/
def verified [FloatSum] (memory : Memory) (delta : PyFloat) : Memory :=
  { memory with
    confidence := clamp (FloatSum.add memory.confidence delta)
    stability := clamp (FloatSum.add memory.stability (FloatSum.half delta)) }

theorem markVerified_ok [FloatSum] {id : Uuid} {delta : PyFloat} (returned : markVerified state id delta = .ok next) :
    ∃ memory, state.db.memories id = some memory ∧ next = change state id "verify" "memory-service"
      (some (snapshot id memory)) (verified memory delta) := by
  rw [markVerified] at returned
  split at returned
  next => cases returned
  next memory known =>
    cases returned
    exact ⟨memory, known, rfl⟩

theorem restore_ok [UuidData] {historyId : Nat} {actor : String} (returned : restore state historyId actor = .ok next) :
    ∃ record designated id memory, state.db.history.get? historyId = some record ∧
      record.designated = some designated ∧ Uuid.ofText designated.id = some id ∧
      applySnapshot id (restorable state.db id designated).1 designated = .ok memory ∧
      next = change state id "restore" actor (some (restorable state.db id designated).2) memory := by
  rw [restore] at returned
  split at returned
  next => cases returned
  next record recorded =>
    split at returned
    next => cases returned
    next designated chosen =>
      by_cases empty : designated.id = ""
      · rw [if_pos empty] at returned
        cases returned
      · rw [if_neg empty] at returned
        cases named : Uuid.ofText designated.id with
        | none =>
          rw [named] at returned
          cases returned
        | some id =>
          rw [named] at returned
          cases applied : applySnapshot id (restorable state.db id designated).1 designated with
          | error raised => simp [applied, bind, Except.bind] at returned
          | ok memory =>
            simp only [applied, bind, Except.bind, pure, Except.pure, Except.ok.injEq] at returned
            exact ⟨record, designated, id, memory, recorded, chosen, named, applied, returned.symm⟩

/-- The operation that a proposal asks for. -/
def asked [UuidData] (state : State) (drawn : Uuid) (now : String) (proposal : Proposal) : Except PyException Action :=
  let named := fun (make : Uuid → Memory → Except PyException Action) => do
    let id ← memoryIdOf proposal.payload
    match state.db.memories id with
    | none => throw (notFound id)
    | some previous => make id previous
  match proposal.action with
  | "create" => do return .create drawn now (← createRequestOf proposal.payload)
  | "supersede" => named fun id previous => do return .supersede drawn now id (← replacementOf proposal.payload previous)
  | "archive" => named fun id _ => return .archive id
  | "verify" => named fun id _ => do
      return .markVerified id (← scoreOf proposal.payload "confidence_delta" (.finite (1 / 20)))
  | _ => throw ⟨.valueError, "memory proposal action must be create, supersede, archive, or verify"⟩

omit [FloatData] in
theorem applyTo_ok [UuidData] {payload : Dict} {action : Uuid → Memory → Except PyException (State × Dict)}
    {before : Option Snapshot} {result : Dict} (returned : applyTo state payload action = .ok (before, next, result)) :
    ∃ id memory, memoryIdOf payload = .ok id ∧ state.db.memories id = some memory ∧
      action id memory = .ok (next, result) := by
  rw [applyTo] at returned
  obtain ⟨id, named, returned⟩ := bind_eq_ok.1 returned
  split at returned
  next => cases returned
  next previous known =>
    obtain ⟨⟨reached, made⟩, acted, returned⟩ := bind_eq_ok.1 returned
    cases returned
    exact ⟨id, previous, named, known, acted⟩

theorem createRequestOf_supersedesId {payload : Dict} {request : CreateRequest}
    (wanted : createRequestOf payload = .ok request) : request.supersedesId = none := by
  rw [createRequestOf] at wanted
  obtain ⟨_, _, wanted⟩ := bind_eq_ok.1 wanted
  obtain ⟨_, _, wanted⟩ := bind_eq_ok.1 wanted
  obtain ⟨_, _, wanted⟩ := bind_eq_ok.1 wanted
  obtain ⟨_, _, wanted⟩ := bind_eq_ok.1 wanted
  cases wanted
  rfl

/-- A proposal that is applied is one of four operations. -/
theorem applyProposal_ok [UuidData] [FloatSum] {drawn : Uuid} {now actor : String} {proposal applied : Proposal}
    (returned : applyProposal state drawn now actor proposal = .ok (applied, next)) :
    (∃ request, asked state drawn now proposal = .ok (.create drawn now request) ∧ request.supersedesId = none ∧
        create state drawn now request = .ok next) ∨
      (∃ id replacement, asked state drawn now proposal = .ok (.supersede drawn now id replacement) ∧
        supersede state drawn now id replacement = .ok next) ∨
      (∃ id, asked state drawn now proposal = .ok (.archive id) ∧ archive state id = .ok next) ∨
      ∃ id delta, asked state drawn now proposal = .ok (.markVerified id delta) ∧
        markVerified state id delta = .ok next := by
  rw [applyProposal] at returned
  split at returned
  next => cases returned
  next =>
    dsimp only at returned
    split at returned
    next => cases returned
    next =>
      obtain ⟨⟨before, reached, result⟩, acted, returned⟩ := bind_eq_ok.1 returned
      cases returned
      unfold applyAction at acted
      unfold asked
      split at acted
      next wish =>
        obtain ⟨request, wanted, acted⟩ := bind_eq_ok.1 acted
        obtain ⟨made, created, acted⟩ := bind_eq_ok.1 acted
        cases acted
        refine .inl ⟨request, ?_, createRequestOf_supersedesId wanted, created⟩
        simp only [wish, wanted]
        rfl
      next wish =>
        obtain ⟨id, previous, named, known, acted⟩ := applyTo_ok acted
        obtain ⟨replacement, wanted, acted⟩ := bind_eq_ok.1 acted
        obtain ⟨made, superseded, acted⟩ := bind_eq_ok.1 acted
        cases acted
        refine .inr (.inl ⟨id, replacement, ?_, superseded⟩)
        simp only [wish, named, known, wanted, bind, Except.bind]
        rfl
      next wish =>
        obtain ⟨id, previous, named, known, acted⟩ := applyTo_ok acted
        obtain ⟨made, archived, acted⟩ := bind_eq_ok.1 acted
        cases acted
        refine .inr (.inr (.inl ⟨id, ?_, archived⟩))
        simp only [wish, named, known, bind, Except.bind]
        rfl
      next wish =>
        obtain ⟨id, previous, named, known, acted⟩ := applyTo_ok acted
        obtain ⟨delta, wanted, acted⟩ := bind_eq_ok.1 acted
        obtain ⟨made, checked, acted⟩ := bind_eq_ok.1 acted
        cases acted
        refine .inr (.inr (.inr ⟨id, delta, ?_, checked⟩))
        simp only [wish, named, known, wanted, bind, Except.bind]
        rfl
      next => cases acted

/-- Each row that an operation writes satisfies a predicate. -/
def Writes [UuidData] [FloatSum] (holds : Memory → Prop) (state : State) : Action → Prop
  | .create drawn now request => holds (newMemory drawn now request)
  | .supersede drawn now id replacement => ∀ previous, state.db.memories id = some previous →
      holds (replacedRow previous drawn) ∧ holds (newMemory drawn now (replacing id previous replacement))
  | .archive id => ∀ memory, state.db.memories id = some memory → holds (retired memory "archived")
  | .markVerified id delta => ∀ memory, state.db.memories id = some memory → holds (verified memory delta)
  | .restore historyId _ => ∀ record designated id restored, state.db.history.get? historyId = some record →
      record.designated = some designated → Uuid.ofText designated.id = some id →
      applySnapshot id (restorable state.db id designated).1 designated = .ok restored → holds restored
  | _ => True

/-- A condition on the operation, or on the one that a proposal asks for. -/
def Effective [UuidData] (guard : State → Action → Prop) (state : State) : Action → Prop
  | .applyProposal drawn now _ proposal =>
      ∀ action, asked state drawn now proposal = .ok action → guard state action
  | action => guard state action

end Operations

end SoulClaw.Memories.Effects
