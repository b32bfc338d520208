import SoulClaw.Foundation.Runs
import SoulClaw.Wiki.Image
import SoulClaw.Wiki.Lint
import Mathlib.Data.Multiset.MapFold

/-! The open entries of the Error Book after any run of the two passes over one tree. Each pass
closes its types and enters what it finds, and leaves the types of the other pass alone. -/

namespace SoulClaw.Wiki.ErrorBook
open Foundation Markdown Compile Lint

inductive Pass where
  | compile
  | lint
  deriving DecidableEq, Repr

def Pass.types : Pass → List String
  | .compile => compileTypes
  | .lint => lintTypes

theorem types_disjoint {first second : Pass} (different : first ≠ second) {errorType : String}
    (own : errorType ∈ first.types) : errorType ∉ second.types := by
  cases first <;> cases second
  · exact absurd rfl different
  · revert errorType
    decide
  · revert errorType
    decide
  · exact absurd rfl different

/-! The open entries of some types. -/

/-- An entry without its time. -/
def untimed (entry : WikiErrorBook) : WikiErrorBook := { entry with fixedAt := none }

def isOpen (types : List String) (entry : WikiErrorBook) : Bool := entry.errorType ∈ types ∧ entry.status = "open"

def openRows (types : List String) (rows : List WikiErrorBook) : Multiset WikiErrorBook :=
  (rows.filter (isOpen types)).map untimed

def openEntries (types : List String) (db : WikiDb) : Multiset WikiErrorBook := openRows types db.errors.rows

section Rows
variable {types other : List String} {entries : List WikiErrorBook}

theorem openRows_append (types : List String) (first second : List WikiErrorBook) :
    openRows types (first ++ second) = openRows types first + openRows types second := by
  rw [openRows, List.filter_append, List.map_append]
  exact (Multiset.coe_add _ _).symm

theorem isOpen_close_self (types : List String) (now : Int) (entry : WikiErrorBook) :
    isOpen types (entry.close types now) = false := by
  rw [WikiErrorBook.close]
  split
  next => simp [isOpen]
  next kept => exact decide_eq_false kept

/-- A pass leaves none of its entries open. -/
theorem openRows_close_self (types : List String) (now : Int) (rows : List WikiErrorBook) :
    openRows types (rows.map (WikiErrorBook.close types now)) = 0 := by
  have closed : (rows.map (WikiErrorBook.close types now)).filter (isOpen types) = [] := by
    rw [List.filter_eq_nil_iff]
    intro entry member
    obtain ⟨old, _, rfl⟩ := List.mem_map.1 member
    rw [isOpen_close_self]
    exact Bool.false_ne_true
  rw [openRows, closed]
  rfl

theorem openRows_of_emits (emits : Emits types entries) : openRows types entries = entries.map untimed := by
  have all : entries.filter (isOpen types) = entries :=
    List.filter_eq_self.2 fun entry member => decide_eq_true (emits entry member)
  rw [openRows, all]

variable (apart : ∀ errorType ∈ types, errorType ∉ other)
include apart

theorem openRows_close_other (now : Int) (rows : List WikiErrorBook) :
    openRows other (rows.map (WikiErrorBook.close types now)) = openRows other rows := by
  induction rows with
  | nil => rfl
  | cons entry rest ih =>
    have head : openRows other [entry.close types now] = openRows other [entry] := by
      rw [WikiErrorBook.close]
      split
      next closed =>
        have left : isOpen other entry = false := decide_eq_false fun both => apart _ closed.1 both.1
        have right : isOpen other { entry with
            status := "fixed", lifecycleStatus := "fixed", fixedAt := some now } = false :=
          decide_eq_false fun both => apart _ closed.1 both.1
        rw [openRows, openRows, List.filter_cons_of_neg (by simp [right]), List.filter_cons_of_neg (by simp [left])]
      next => rfl
    calc openRows other ((entry :: rest).map (WikiErrorBook.close types now))
        = openRows other [entry.close types now] + openRows other (rest.map (WikiErrorBook.close types now)) :=
          openRows_append other [entry.close types now] _
      _ = openRows other [entry] + openRows other rest := by rw [head, ih]
      _ = openRows other (entry :: rest) := (openRows_append other [entry] rest).symm

theorem openRows_emits_other (emits : Emits types entries) : openRows other entries = 0 := by
  have absent : entries.filter (isOpen other) = [] := by
    rw [List.filter_eq_nil_iff]
    intro entry member isOpen
    exact apart _ (emits entry member).1 (of_decide_eq_true isOpen).1
  rw [openRows, absent]
  rfl

end Rows

/-! The passes. -/

section Passes
variable [CharData] [FloatData] [DateData] (service : WikiService) (tree : WikiTree) (now : Int)

/-- A pass that returns is committed. -/
def runPass (db : WikiDb) : Pass → Option WikiDb
  | .compile => (compile service tree now db).toOption.map Prod.snd
  | .lint => (lint service tree now db).toOption.map Prod.snd

/-- The open entries that belong to each pass. -/
def passView (db : WikiDb) (pass : Pass) : Multiset WikiErrorBook := openEntries pass.types db

/-- What a pass enters into the Error Book. -/
def found : Pass → List WikiErrorBook
  | .compile =>
      (scanFiles service tree.markdownPaths).newErrors ++
        (indexedPages service tree).flatMap (danglingErrors (knownNames (indexedPages service tree)))
  | .lint => (lintErrors service tree now).toOption.getD []

def foundEntries (pass : Pass) : Multiset WikiErrorBook := (found service tree now pass).map untimed

omit [CharData] [FloatData] [DateData] in
theorem emits_danglingErrors (known : String → Option String) (page : ParsedWikiPage) :
    Emits compileTypes (danglingErrors known page) := by
  apply Emits.map
  intro link
  exact ⟨by simp [danglingError, error, compileTypes], rfl⟩

theorem emits_found (pass : Pass) : Emits pass.types (found service tree now pass) := by
  cases pass with
  | compile =>
    apply (newErrors_emits tree.markdownPaths).append
    exact Emits.flatMap _ (emits_danglingErrors _)
  | lint =>
    rw [found]
    cases made : lintErrors service tree now with
    | error raised => exact Emits.nil
    | ok entries => exact (lintErrors_ok made).1

variable {service tree now} {db next : WikiDb} {pass : Pass}

/-- A pass closes the open entries of its types and adds what it finds. -/
theorem runPass_rows (taken : runPass service tree now db pass = some next) : next.errors.rows =
    db.errors.rows.map (WikiErrorBook.close pass.types now) ++ found service tree now pass := by
  cases pass with
  | compile =>
    obtain ⟨⟨report, after⟩, returned, rfl⟩ := Option.map_eq_some_iff.1 taken
    cases made : compile service tree now db with
    | error raised =>
      rw [made] at returned
      cases returned
    | ok result =>
      rw [made] at returned
      cases returned
      obtain ⟨_, rfl⟩ := compile_ok made
      rw [compiled, compilePages_errors, rows_addErrors, cleared, rows_addErrors, List.append_assoc]
      rfl
  | lint =>
    obtain ⟨⟨entries, after⟩, returned, rfl⟩ := Option.map_eq_some_iff.1 taken
    rw [lint] at returned
    rw [found]
    cases made : lintErrors service tree now with
    | error raised =>
      rw [made] at returned
      cases returned
    | ok entries =>
      rw [made] at returned
      cases returned
      exact rows_addErrors _ _

/-- Whether a pass returns does not depend on the tables. -/
theorem runPass_returns (taken : runPass service tree now db pass = some next) (other : WikiDb) :
    ∃ after, runPass service tree now other pass = some after := by
  cases pass with
  | compile =>
    rw [runPass, compile] at taken ⊢
    split at taken
    next jsonable =>
      rw [if_pos jsonable]
      exact ⟨_, rfl⟩
    next => cases taken
  | lint =>
    rw [runPass, lint] at taken ⊢
    cases made : lintErrors service tree now with
    | error raised =>
      rw [made] at taken
      cases taken
    | ok entries => exact ⟨_, rfl⟩

/-- A pass replaces its open entries by what it finds, and no others. -/
theorem runPass_view (taken : runPass service tree now db pass = some next) :
    passView next = Function.update (passView db) pass (foundEntries service tree now pass) := by
  funext other
  rw [passView, openEntries, runPass_rows taken, openRows_append]
  by_cases same : other = pass
  · rw [same, Function.update_self, openRows_close_self, openRows_of_emits (emits_found service tree now pass), zero_add]
    rfl
  · have apart : ∀ errorType ∈ pass.types, errorType ∉ other.types :=
      fun errorType own => types_disjoint (Ne.symm same) own
    rw [Function.update_of_ne same, openRows_close_other apart,
      openRows_emits_other apart (emits_found service tree now pass), add_zero]
    rfl

/-- After every run of passes over a tree, the open entries of each pass of the run are those that
the pass makes with an empty Error Book. -/
theorem open_entries_settled (service : WikiService) (tree : WikiTree) (now : Int) (db after : WikiDb)
    (passes : List Pass) (ran : Runs.run (runPass service tree now) db passes = some after)
    (pass : Pass) (member : pass ∈ passes) :
    ∃ scratch, runPass service tree now { db with errors := .empty } pass = some scratch ∧
      openEntries pass.types after = openEntries pass.types scratch := by
  obtain ⟨before, rest, same⟩ := List.append_of_mem member
  rw [same, Runs.run_append] at ran
  obtain ⟨middle, _, later⟩ := Option.bind_eq_some_iff.1 ran
  obtain ⟨next, taken, _⟩ := Runs.run_cons_eq_some.1 later
  obtain ⟨scratch, alone⟩ := runPass_returns taken { db with errors := .empty }
  refine ⟨scratch, alone, ?_⟩
  calc openEntries pass.types after
      = foundEntries service tree now pass := by
        have settled := Runs.run_view (fun _ _ _ taken => runPass_view taken) later pass
        rw [if_pos List.mem_cons_self] at settled
        exact settled
    _ = openEntries pass.types scratch := by
        have fresh := congrFun (runPass_view alone) pass
        rw [Function.update_self] at fresh
        exact fresh.symm

end Passes

section Demo
attribute [local instance] CharData.ascii FloatData.decimal DateData.undated

/-- An Error Book with an entry of each pass; the page of the first one has been repaired. -/
private def oldBook : WikiDb :=
  { Image.noRows with
    errors := ⟨[error "dangling_link" "b" "Unresolved wiki link: gone" "" [("target", .str "gone")],
      missingCanonical "index.md"]⟩ }

private def ghostPages : WikiTree := Image.twoPages "# First" "# Second\n\n[[a]] [[ghost]]"

theorem open_entries_settled_ghost : ∃ after scratch,
    Runs.run (runPass Image.plainService ghostPages 0) oldBook [.compile, .lint, .compile, .lint] = some after ∧
      runPass Image.plainService ghostPages 0 { oldBook with errors := .empty } .compile = some scratch ∧
      openEntries compileTypes after = openEntries compileTypes scratch := by
  obtain ⟨after, ran⟩ : ∃ after, Runs.run (runPass Image.plainService ghostPages 0) oldBook
      [.compile, .lint, .compile, .lint] = some after :=
    Option.isSome_iff_exists.1 (by decide +kernel)
  obtain ⟨scratch, alone, same⟩ := open_entries_settled _ _ _ _ _ _ ran .compile List.mem_cons_self
  exact ⟨after, scratch, ran, alone, same⟩

end Demo

end SoulClaw.Wiki.ErrorBook
