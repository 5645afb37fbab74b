import Tactix.Lib.Runs
import Tactix.Migrate.Files
/-!
# Migrations on the shared database

Any number of `migrate.js`, each going on by a file at a time, on one database.
`Kept.reachable` is the rule for what such a system keeps: an invariant of the database with
one of each process.
-/
open ServiceLib ServiceLib.Ddl

namespace Tactix.Migrate

/-- A process: the files it has executed, and its exit code. -/
structure Run where
  command : Command
  executed : Nat
  exit : Option Nat
  complete : exit = some 0 → executed = command.files.length

def Run.begin (c : Command) : Run := ⟨c, 0, none, fun h => by cases h⟩

def Run.next (r : Run) (h : r.exit = none) : Run :=
  { r with
    executed := r.executed + 1
    complete := fun hzero => by
      rw [h] at hzero
      cases hzero }

def Run.fail (r : Run) : Run := { r with exit := some 1, complete := fun h => by cases h }

def Run.finish (r : Run) (h : r.executed = r.command.files.length) : Run := { r with exit := some 0, complete := fun _ => h }

structure System where
  db : Schema
  runs : List Run

inductive Action where
  | start (c : Command)
  | file
  | fail
  | finish
  | warlog

/-- A file fails when its SQL does, and may fail for other reasons. -/
inductive Step (s : System) : Action → System → Prop
  | start {c : Command} : Step s (.start c) { s with runs := s.runs ++ [.begin c] }
  | file {p q : List Run} {r : Run} {f : SqlFile} {db : Schema} : s.runs = p ++ r :: q → (h : r.exit = none) →
      r.command.files[r.executed]? = some f → execAll s.db f.sql = some db → Step s .file ⟨db, p ++ r.next h :: q⟩
  | fail {p q : List Run} {r : Run} : s.runs = p ++ r :: q → r.exit = none →
      Step s .fail { s with runs := p ++ r.fail :: q }
  | finish {p q : List Run} {r : Run} : s.runs = p ++ r :: q → r.exit = none → (h : r.executed = r.command.files.length) →
      Step s .finish { s with runs := p ++ r.finish h :: q }
  | warlog {db : Schema} : execAll s.db warlogInit = some db → Step s .warlog { s with db }

/-! ## Invariants of the database and of each process -/

/-- `I` of the database and `P` of each process are kept, when each file a process can execute keeps them. -/
structure Kept (I : Schema → Prop) (P : Schema → Run → Prop) : Prop where
  start : ∀ {db} (c : Command), I db → P db (.begin c)
  exit : ∀ {db} {r r' : Run}, P db r → r'.command = r.command → r'.executed = r.executed → P db r'
  file : ∀ {db db'} {r : Run} {f : SqlFile}, I db → P db r → (h : r.exit = none) → r.command.files[r.executed]? = some f →
    execAll db f.sql = some db' → I db' ∧ P db' (r.next h) ∧ ∀ r', P db r' → P db' r'
  warlog : ∀ {db db'}, I db → execAll db warlogInit = some db' → I db' ∧ ∀ r', P db r' → P db' r'

theorem mem_replace {α : Type} {p q : List α} {x y z : α} (h : z ∈ p ++ y :: q) : z = y ∨ z ∈ p ++ x :: q := by
  rcases List.mem_append.1 h with hz | hz
  · exact .inr (List.mem_append_left _ hz)
  · rcases List.mem_cons.1 hz with rfl | hz
    · exact .inl rfl
    · exact .inr (List.mem_append_right _ (List.mem_cons_of_mem _ hz))

section
variable {I : Schema → Prop} {P : Schema → Run → Prop} {s s' : System} {a : Action}

theorem Kept.step (h : Kept I P) (hI : I s.db) (hP : ∀ r ∈ s.runs, P s.db r) (hs : Step s a s') :
    I s'.db ∧ ∀ r ∈ s'.runs, P s'.db r := by
  cases hs with
  | start =>
    refine ⟨hI, fun r hr => ?_⟩
    rcases List.mem_append.1 hr with hr | hr
    · exact hP r hr
    · rw [List.mem_singleton.1 hr]
      exact h.start _ hI
  | @file p q r f db hruns hexit hf hexec =>
    rw [hruns] at hP
    obtain ⟨hI', hnext, hother⟩ := h.file hI (hP r (by simp)) hexit hf hexec
    refine ⟨hI', fun r' hr' => ?_⟩
    rcases mem_replace hr' with rfl | hr'
    · exact hnext
    · exact hother r' (hP r' hr')
  | @fail p q r hruns hexit =>
    rw [hruns] at hP
    refine ⟨hI, fun r' hr' => ?_⟩
    rcases mem_replace hr' with rfl | hr'
    · exact h.exit (hP r (by simp)) rfl rfl
    · exact hP r' hr'
  | @finish p q r hruns hexit hlast =>
    rw [hruns] at hP
    refine ⟨hI, fun r' hr' => ?_⟩
    rcases mem_replace hr' with rfl | hr'
    · exact h.exit (hP r (by simp)) rfl rfl
    · exact hP r' hr'
  | warlog hexec =>
    obtain ⟨hI', hother⟩ := h.warlog hI hexec
    exact ⟨hI', fun r hr => hother r (hP r hr)⟩

theorem Kept.reachable (h : Kept I P) (hI : I s.db) (hP : ∀ r ∈ s.runs, P s.db r) (hr : Reachable Step s s') :
    I s'.db ∧ ∀ r ∈ s'.runs, P s'.db r :=
  hr.inv (I := fun s => I s.db ∧ ∀ r ∈ s.runs, P s.db r) ⟨hI, hP⟩ fun _ _ _ hs hstep => h.step hs.1 hs.2 hstep

end

end Tactix.Migrate
