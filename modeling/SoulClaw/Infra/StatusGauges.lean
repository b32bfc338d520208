import SoulClaw.Foundation.Runs
import SoulClaw.Infra.Metrics
import Mathlib.Data.List.Chain
import Mathlib.Data.List.Count

/-! The gauges of the statuses against the rows. A query returns no group without rows, so a gauge is left at what it
has been set to when the last row has left its status. -/

namespace SoulClaw.Infra.StatusGauges
open Foundation Metrics

/-- The labels under which rows are reported. -/
def labels (rows : List String) : List String := rows.map statusLabel

/-- The number of rows that are reported under a label. -/
def reported (rows : List String) (label : String) : Nat := rows.countP fun status => statusLabel status = label

/-- No two statuses of the rows share a label. -/
def Apart (rows : List String) : Prop := ¬("" ∈ rows ∧ "unknown" ∈ rows)

/-! Labels. -/

theorem mem_labels {rows : List String} {label : String} :
    label ∈ labels rows ↔ ∃ status ∈ rows, statusLabel status = label := List.mem_map

theorem reported_eq_zero {rows : List String} {label : String} (absent : label ∉ labels rows) : reported rows label = 0 := by
  rw [reported, List.countP_eq_zero]
  intro status member same
  exact absent (mem_labels.2 ⟨status, member, of_decide_eq_true same⟩)

theorem statusLabel_eq_iff {first second : String} : statusLabel first = statusLabel second ↔
    first = second ∨ first = "" ∧ second = "unknown" ∨ first = "unknown" ∧ second = "" := by
  rw [statusLabel, statusLabel]
  by_cases left : first = ""
  · rw [if_pos left]
    by_cases right : second = ""
    · rw [if_pos right]
      exact iff_of_true rfl (Or.inl (left.trans right.symm))
    · rw [if_neg right]
      constructor
      · intro same
        exact Or.inr (Or.inl ⟨left, same.symm⟩)
      · rintro (rfl | ⟨_, rfl⟩ | ⟨_, rfl⟩)
        · exact absurd left right
        · rfl
        · exact absurd rfl right
  · rw [if_neg left]
    by_cases right : second = ""
    · rw [if_pos right]
      constructor
      · intro same
        exact Or.inr (Or.inr ⟨same, right⟩)
      · rintro (rfl | ⟨rfl, _⟩ | ⟨rfl, _⟩)
        · exact absurd right left
        · exact absurd rfl left
        · rfl
    · rw [if_neg right]
      simp [left, right]

/-- Where labels are apart, the rows under a label are those of one status, and only there. -/
theorem reported_eq_count_iff {rows : List String} {status : String} :
    reported rows (statusLabel status) = rows.count status ↔
      ∀ other ∈ rows, statusLabel other = statusLabel status → other = status := by
  have split : reported rows (statusLabel status) = rows.count status +
      rows.countP fun other => statusLabel other = statusLabel status ∧ other ≠ status := by
    induction rows with
    | nil => rfl
    | cons first rest ih =>
      rw [reported] at ih ⊢
      rw [List.countP_cons, List.countP_cons, List.count_cons, ih]
      by_cases same : first = status
      · have here : decide (statusLabel first = statusLabel status) = true := decide_eq_true (congrArg statusLabel same)
        have own : decide (statusLabel first = statusLabel status ∧ first ≠ status) = false :=
          decide_eq_false fun both => both.2 same
        have counted : (first == status) = true := beq_iff_eq.2 same
        simp only [here, own, counted, if_true, Bool.false_eq_true, if_false]
        omega
      · have counted : (first == status) = false := beq_false_of_ne same
        have labelled : decide (statusLabel first = statusLabel status ∧ first ≠ status) =
            decide (statusLabel first = statusLabel status) := decide_eq_decide.2 (and_iff_left same)
        simp only [labelled, counted, Bool.false_eq_true, if_false]
        omega
  rw [split, Nat.add_eq_left, List.countP_eq_zero]
  constructor
  · intro none other member labelled
    by_contra different
    exact none other member (decide_eq_true ⟨labelled, different⟩)
  · intro unique other member both
    obtain ⟨labelled, different⟩ := of_decide_eq_true both
    exact different (unique other member labelled)

/-! Counts. -/

theorem lookup_set (counts : Counts) (label : String) (count : Nat) (other : String) :
    (counts.set label count).lookup other = if other = label then some count else counts.lookup other := by
  induction counts with
  | nil =>
    rw [Counts.set, List.lookup_cons]
    by_cases here : other = label
    · rw [if_pos here, beq_iff_eq.2 here]
    · rw [if_neg here, beq_false_of_ne here]
  | cons item rest ih =>
    obtain ⟨known, old⟩ := item
    rw [Counts.set]
    by_cases same : known = label
    · subst same
      rw [if_pos rfl, List.lookup_cons, List.lookup_cons]
      by_cases here : other = known
      · rw [if_pos here, beq_iff_eq.2 here]
      · rw [if_neg here, beq_false_of_ne here]
    · rw [if_neg same, List.lookup_cons, List.lookup_cons, ih]
      by_cases here : other = known
      · have apart : other ≠ label := fun same' => same (here ▸ same')
        rw [beq_iff_eq.2 here, if_neg apart, if_neg apart]
      · rw [beq_false_of_ne here]

theorem keys_set (counts : Counts) (label : String) (count : Nat) :
    (counts.set label count).map Prod.fst =
      if label ∈ counts.map Prod.fst then counts.map Prod.fst else counts.map Prod.fst ++ [label] := by
  induction counts with
  | nil => rfl
  | cons item rest ih =>
    obtain ⟨known, old⟩ := item
    rw [Counts.set]
    by_cases same : known = label
    · rw [if_pos same, if_pos (by simp [same])]
      rfl
    · have later : label ∈ known :: rest.map Prod.fst ↔ label ∈ rest.map Prod.fst := by
        rw [List.mem_cons, or_iff_right (Ne.symm same)]
      rw [if_neg same, List.map_cons, List.map_cons, ih, if_congr later rfl rfl]
      split <;> rfl

theorem nodup_set {counts : Counts} (nodup : (counts.map Prod.fst).Nodup) (label : String) (count : Nat) :
    ((counts.set label count).map Prod.fst).Nodup := by
  rw [keys_set]
  split
  next => exact nodup
  next fresh => exact List.Nodup.append nodup (List.nodup_singleton _) (by simpa using fresh)

/-- Every label in the dictionary has the count of a group that has it. -/
theorem lookup_groups (rows groups : List String) (counts : Counts) (label : String) :
    (∃ status ∈ groups, statusLabel status = label ∧
      (groups.foldl (fun counts status => counts.set (statusLabel status) (rows.count status)) counts).lookup label =
        some (rows.count status)) ∨
    (∀ status ∈ groups, statusLabel status ≠ label) ∧
      (groups.foldl (fun counts status => counts.set (statusLabel status) (rows.count status)) counts).lookup label =
        counts.lookup label := by
  induction groups generalizing counts with
  | nil => exact Or.inr ⟨fun _ member => absurd member List.not_mem_nil, rfl⟩
  | cons first rest ih =>
    rw [List.foldl_cons]
    rcases ih (counts.set (statusLabel first) (rows.count first)) with ⟨status, member, same, found⟩ | ⟨others, found⟩
    · exact Or.inl ⟨status, List.mem_cons_of_mem _ member, same, found⟩
    · rw [lookup_set] at found
      by_cases here : label = statusLabel first
      · rw [if_pos here] at found
        exact Or.inl ⟨first, List.mem_cons_self, here.symm, found⟩
      · rw [if_neg here] at found
        refine Or.inr ⟨?_, found⟩
        intro status member
        rcases List.mem_cons.1 member with rfl | later
        · exact fun same => here same.symm
        · exact others status later

section Queries
variable [GroupOrder]

theorem nodup_statusCounts (rows : List String) : ((statusCounts rows).map Prod.fst).Nodup := by
  have kept : ∀ (groups : List String) (counts : Counts), (counts.map Prod.fst).Nodup →
      ((groups.foldl (fun counts status => counts.set (statusLabel status) (rows.count status)) counts).map
        Prod.fst).Nodup := by
    intro groups
    induction groups with
    | nil => exact fun _ nodup => nodup
    | cons first rest ih => exact fun counts nodup => ih _ (nodup_set nodup ..)
  exact kept _ [] List.nodup_nil

theorem lookup_statusCounts (rows : List String) (label : String) :
    (∃ status ∈ rows, statusLabel status = label ∧ (statusCounts rows).lookup label = some (rows.count status)) ∨
      label ∉ labels rows ∧ (statusCounts rows).lookup label = none := by
  have members : ∀ status, status ∈ GroupOrder.arrange rows.dedup ↔ status ∈ rows := by
    intro status
    rw [(GroupOrder.arrange_perm rows.dedup).mem_iff, List.mem_dedup]
  rcases lookup_groups rows (GroupOrder.arrange rows.dedup) [] label with ⟨status, member, same, found⟩ | ⟨others, found⟩
  · exact Or.inl ⟨status, (members status).1 member, same, found⟩
  · refine Or.inr ⟨?_, found⟩
    intro there
    obtain ⟨status, member, same⟩ := mem_labels.1 there
    exact others status ((members status).2 member) same

end Queries

theorem setCounts_apply {counts : Counts} (nodup : (counts.map Prod.fst).Nodup) (metric : Metric String) (label : String) :
    setCounts metric counts label = match counts.lookup label with
      | some count => some (count : Int)
      | none => metric label := by
  have shown := foldl_set_apply (fun count : Nat => (count : Int)) nodup metric label
  rw [setCounts, shown]
  cases counts.lookup label <;> rfl

/-! One call. -/

/-- Every gauge that has been set tells the number of its rows. -/
def Current (metric : Metric String) (rows : List String) : Prop :=
  ∀ label value, metric label = some value → value = reported rows label

/-- The rows leave no gauge behind. -/
structure Kept (metric : Metric String) (rows : List String) : Prop where
  covered : ∀ label value, metric label = some value → value ≠ 0 → label ∈ labels rows
  apart : Apart rows

section Calls
variable [GroupOrder]

/-- The gauge of a label that the rows have, and of one that they do not have. -/
theorem gauge_cases (metric : Metric String) (rows : List String) (label : String) :
    (∃ status ∈ rows, statusLabel status = label ∧
      setCounts metric (statusCounts rows) label = some (rows.count status : Int)) ∨
    label ∉ labels rows ∧ setCounts metric (statusCounts rows) label = metric label := by
  have shown := setCounts_apply (nodup_statusCounts rows) metric label
  rcases lookup_statusCounts rows label with ⟨status, member, same, found⟩ | ⟨absent, found⟩
  · rw [found] at shown
    exact Or.inl ⟨status, member, same, shown⟩
  · rw [found] at shown
    exact Or.inr ⟨absent, shown⟩

omit [GroupOrder] in
theorem apart_iff {rows : List String} : Apart rows ↔
    ∀ status ∈ rows, ∀ other ∈ rows, statusLabel other = statusLabel status → other = status := by
  constructor
  · intro apart status known other member same
    rcases statusLabel_eq_iff.1 same with equal | ⟨rfl, rfl⟩ | ⟨rfl, rfl⟩
    · exact equal
    · exact absurd ⟨member, known⟩ apart
    · exact absurd ⟨known, member⟩ apart
  · rintro unique ⟨blank, named⟩
    have same : ("" : String) = "unknown" := unique _ named _ blank (by decide)
    exact absurd same (by decide)

theorem current_setCounts_iff (metric : Metric String) (rows : List String) :
    Current (setCounts metric (statusCounts rows)) rows ↔ Kept metric rows := by
  constructor
  · intro current
    refine ⟨?_, ?_⟩
    · intro label value known some'
      rcases gauge_cases metric rows label with ⟨status, member, same, _⟩ | ⟨absent, shown⟩
      · exact mem_labels.2 ⟨status, member, same⟩
      · have zero := current label value (shown.trans known)
        rw [reported_eq_zero absent] at zero
        exact absurd zero some'
    · rw [apart_iff]
      intro status known
      rcases gauge_cases metric rows (statusLabel status) with ⟨counted, member, same, shown⟩ | ⟨absent, _⟩
      · have total := current _ _ shown
        rw [← same, Nat.cast_inj] at total
        have unique := reported_eq_count_iff.1 total.symm
        intro other member' same'
        rw [unique other member' (same'.trans same.symm), unique status known same.symm]
      · exact absurd (mem_labels.2 ⟨status, known, rfl⟩) absent
  · rintro ⟨covered, apart⟩ label value known
    rcases gauge_cases metric rows label with ⟨status, member, rfl, shown⟩ | ⟨absent, shown⟩
    · rw [shown, Option.some.injEq] at known
      rw [← known, reported_eq_count_iff.2 (apart_iff.1 apart status member)]
    · rw [reported_eq_zero absent]
      by_contra some'
      exact absent (covered label value (shown ▸ known) some')

end Calls

/-! Sequences of calls. -/

/-- The arguments of a call. -/
structure Collection where
  db : Database
  circuits : List (String × CircuitReport) := []
  rates : RateLimitState := {}

/-- No kind of rows loses a status from one database to the next. -/
def Keeps (first second : Database) : Prop := ∀ kind, labels (first.rows kind) ⊆ labels (second.rows kind)

section Sequences
variable [GroupOrder]

/-- The observability with the database that it has been collected from last. -/
def step (state : Observability × Database) (collection : Collection) : Option (Observability × Database) :=
  some ((collectReliability state.1 collection.db collection.circuits collection.rates).2, collection.db)

def start : Observability × Database := (Observability.initial, {})

def Guard (state : Observability × Database) (collection : Collection) : Prop :=
  ∀ kind, Kept (state.1.gauge kind) (collection.db.rows kind)

theorem gauge_step {state next : Observability × Database} {collection : Collection}
    (taken : step state collection = some next) (kind : Kind) :
    next.2 = collection.db ∧ next.1.gauge kind = setCounts (state.1.gauge kind) (statusCounts (collection.db.rows kind)) := by
  cases taken
  cases kind <;> exact ⟨rfl, rfl⟩

theorem current_step_iff {state next : Observability × Database} {collection : Collection}
    (taken : step state collection = some next) :
    (∀ kind, Current (next.1.gauge kind) (next.2.rows kind)) ↔ Guard state collection := by
  refine forall_congr' fun kind => ?_
  obtain ⟨same, shown⟩ := gauge_step taken kind
  rw [same, shown]
  exact current_setCounts_iff ..

/-- A gauge is not 0 exactly when the last database has rows for it. -/
def Tracks (state : Observability × Database) : Prop :=
  ∀ kind label, (∃ value, state.1.gauge kind label = some value ∧ value ≠ 0) ↔ label ∈ labels (state.2.rows kind)

omit [GroupOrder] in
theorem guard_iff {state : Observability × Database} (tracks : Tracks state) (collection : Collection) :
    Guard state collection ↔ Keeps state.2 collection.db ∧ ∀ kind, Apart (collection.db.rows kind) := by
  constructor
  · intro guard
    refine ⟨?_, fun kind => (guard kind).apart⟩
    intro kind label member
    obtain ⟨value, known, some'⟩ := (tracks kind label).2 member
    exact (guard kind).covered label value known some'
  · rintro ⟨keeps, apart⟩ kind
    refine ⟨?_, apart kind⟩
    intro label value known some'
    exact keeps kind ((tracks kind label).1 ⟨value, known, some'⟩)

theorem tracks_step {state next : Observability × Database} {collection : Collection} (guard : Guard state collection)
    (taken : step state collection = some next) : Tracks next := by
  intro kind label
  obtain ⟨same, shown⟩ := gauge_step taken kind
  rw [same, shown]
  rcases gauge_cases (state.1.gauge kind) (collection.db.rows kind) label with
    ⟨status, member, rfl, set'⟩ | ⟨absent, set'⟩
  · have positive : ((collection.db.rows kind).count status : Int) ≠ 0 :=
      Nat.cast_ne_zero.2 (List.count_pos_iff.2 member).ne'
    exact iff_of_true ⟨_, set', positive⟩ (mem_labels.2 ⟨status, member, rfl⟩)
  · refine iff_of_false ?_ absent
    rintro ⟨value, known, some'⟩
    exact absent ((guard kind).covered label value (set' ▸ known) some')

/-- The guard of a run is a condition on its databases alone. -/
theorem along_iff_chain {state : Observability × Database} (tracks : Tracks state) (collections : List Collection) :
    Runs.Along step Guard state collections ↔ (state.2 :: collections.map Collection.db).IsChain Keeps ∧
      ∀ collection ∈ collections, ∀ kind, Apart (collection.db.rows kind) := by
  induction collections generalizing state with
  | nil => exact iff_of_true trivial ⟨List.isChain_singleton _, fun _ member => absurd member List.not_mem_nil⟩
  | cons collection rest ih =>
    rw [Runs.along_cons, guard_iff tracks, List.map_cons, List.isChain_cons_cons, List.forall_mem_cons]
    constructor
    · rintro ⟨⟨keeps, apart⟩, later⟩
      have next := tracks_step ((guard_iff tracks collection).2 ⟨keeps, apart⟩) rfl
      obtain ⟨chain, aparts⟩ := (ih next).1 (later _ rfl)
      exact ⟨⟨keeps, chain⟩, apart, aparts⟩
    · rintro ⟨⟨keeps, chain⟩, apart, aparts⟩
      refine ⟨⟨keeps, apart⟩, ?_⟩
      intro next taken
      have tracked := tracks_step ((guard_iff tracks collection).2 ⟨keeps, apart⟩) taken
      cases taken
      exact (ih tracked).2 ⟨chain, aparts⟩

/-- A gauge has been set exactly when one of the databases has had rows for it. -/
theorem isSome_run {state last : Observability × Database} {collections : List Collection}
    (ran : Runs.run step state collections = some last) (kind : Kind) (label : String) :
    (last.1.gauge kind label).isSome ↔
      (state.1.gauge kind label).isSome ∨ ∃ collection ∈ collections, label ∈ labels (collection.db.rows kind) := by
  induction collections generalizing state with
  | nil =>
    cases ran
    simp
  | cons collection rest ih =>
    obtain ⟨next, taken, ran⟩ := Runs.run_cons_eq_some.1 ran
    obtain ⟨_, shown⟩ := gauge_step taken kind
    have one : (next.1.gauge kind label).isSome ↔
        (state.1.gauge kind label).isSome ∨ label ∈ labels (collection.db.rows kind) := by
      rw [shown]
      rcases gauge_cases (state.1.gauge kind) (collection.db.rows kind) label with
        ⟨status, member, same, set'⟩ | ⟨absent, set'⟩
      · rw [set']
        exact iff_of_true rfl (Or.inr (mem_labels.2 ⟨status, member, same⟩))
      · rw [set', or_iff_left absent]
    rw [ih ran, one, or_assoc, List.exists_mem_cons_iff]

end Sequences

/-- In every state of a sequence of calls the gauges of the statuses that have been reported tell the numbers of their
rows, exactly when no status loses its last row from one call to the next and no two statuses share a label. -/
theorem status_gauges_iff [GroupOrder] (collections : List Collection) :
    ((collections.map Collection.db).IsChain Keeps ∧
      ∀ collection ∈ collections, ∀ kind, Apart (collection.db.rows kind)) ↔
    ∀ passed last, passed <+: collections → Runs.run step start passed = some last →
      ∀ kind label, (∃ collection ∈ passed, label ∈ labels (collection.db.rows kind)) →
        last.1.gauge kind label = some (reported (last.2.rows kind) label : Int) := by
  have tracks : Tracks start := by
    intro kind label
    cases kind <;> simp [start, Observability.initial, Observability.gauge, Database.rows, labels]
  have empty : ∀ db, Keeps start.2 db := by
    intro db kind label member
    cases kind <;> exact absurd member List.not_mem_nil
  have chain : (start.2 :: collections.map Collection.db).IsChain Keeps ↔ (collections.map Collection.db).IsChain Keeps := by
    rw [List.isChain_cons]
    exact and_iff_right fun db _ => empty db
  have current : ∀ kind, Current (start.1.gauge kind) (start.2.rows kind) := by
    intro kind label value known
    cases kind <;> cases known
  have along := @Runs.along_iff_of_exact _ _ step Guard
    (fun state => ∀ kind, Current (state.1.gauge kind) (state.2.rows kind)) (fun _ _ => ⟨_, rfl⟩)
    (fun _ _ _ _ taken => current_step_iff taken) start collections current
  rw [← chain, ← along_iff_chain tracks collections, along]
  refine forall_congr' fun passed => forall_congr' fun last => forall_congr' fun _ => forall_congr' fun ran => ?_
  refine forall_congr' fun kind => ?_
  have set' : ∀ label, (last.1.gauge kind label).isSome ↔
      ∃ collection ∈ passed, label ∈ labels (collection.db.rows kind) := by
    intro label
    rw [isSome_run ran kind label]
    have unset : start.1.gauge kind label = none := by cases kind <;> rfl
    rw [unset, Option.isSome_none]
    simp
  constructor
  · intro told label known
    obtain ⟨value, shown⟩ := Option.isSome_iff_exists.1 ((set' label).2 known)
    rw [shown, told label value shown]
  · intro told label value shown
    have known := told label ((set' label).1 (by rw [shown]; rfl))
    rw [shown, Option.some.injEq] at known
    exact known

section Demo
attribute [local instance] GroupOrder.inserted

private def failing : Collection := { db := { jobs := ["queued", "dead_letter"] } }

private def cleared : Collection := { db := { jobs := ["queued"] } }

/-- The only dead letter has been cleared, and its gauge still tells 1. -/
theorem status_gauges_stale : ∃ last, Runs.run step start [failing, cleared] = some last ∧
    "dead_letter" ∈ labels (failing.db.rows .jobs) ∧ last.2 = cleared.db ∧ reported (last.2.rows .jobs) "dead_letter" = 0 ∧
    last.1.gauge .jobs "dead_letter" = some 1 :=
  ⟨_, rfl, by decide, rfl, by decide, by decide +kernel⟩

end Demo

end SoulClaw.Infra.StatusGauges
