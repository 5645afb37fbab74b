import Mathlib.Order.BoundedOrder.Basic
import Mathlib.Order.Lattice
import Mathlib.Data.List.Basic
/-!
# A position in a growing log

A log grows at its end, with keys that grow along it. A reader goes on from a
position; the position is covered when the reader has seen all entries up to
it, and stays covered while the log grows and the reader reads on.
-/

namespace ServiceLib

variable {E K : Type} [LinearOrder K]

/-- The entries after a position. -/
def after (key : E → K) (log : List E) (pos : K) : List E := log.filter fun e => decide (pos < key e)

/-- The keys grow along the log. -/
def Ascending (key : E → K) (log : List E) : Prop := log.Pairwise fun e e' => key e < key e'

/-- All entries up to the position are in `read`; and the position is not past the end,
where entries are still to come. -/
structure Covered [OrderBot K] (key : E → K) (log read : List E) (pos : K) : Prop where
  read : ∀ e ∈ log, key e ≤ pos → e ∈ read
  within : pos = ⊥ ∨ ∃ e ∈ log, pos ≤ key e

section
variable {key : E → K} {log read : List E} {pos : K} {e : E}

theorem mem_after : e ∈ after key log pos ↔ e ∈ log ∧ pos < key e := by
  simp [after]

theorem Ascending.append (h : Ascending key log) (he : ∀ e' ∈ log, key e' < key e) : Ascending key (log ++ [e]) := by
  refine List.pairwise_append.2 ⟨h, List.pairwise_singleton _ _, fun e' he' e'' he'' => ?_⟩
  rw [List.mem_singleton.1 he'']
  exact he e' he'

theorem after_append (log' : List E) : after key (log ++ log') pos = after key log pos ++ after key log' pos :=
  List.filter_append ..

/-- Past its first entry, the rest is what is after that. -/
theorem after_next {rest : List E} (h : Ascending key log) (hafter : after key log pos = e :: rest) :
    after key log (key e) = rest := by
  have hall : Ascending key (e :: rest) := hafter ▸ List.Pairwise.filter _ h
  rw [Ascending, List.pairwise_cons] at hall
  have hpos : pos < key e := (mem_after.1 (hafter ▸ List.mem_cons_self)).2
  have hboth : after key log (key e) = after key (after key log pos) (key e) := by
    simp only [after, List.filter_filter]
    refine List.filter_congr fun e' _ => ?_
    by_cases he' : key e < key e'
    · simp [he', hpos.trans he']
    · simp [he']
  rw [hboth, hafter, after, List.filter_cons_of_neg (by simp), List.filter_eq_self]
  exact fun e' he' => decide_eq_true (hall.1 e' he')

variable [OrderBot K]

theorem covered_bot (h : ∀ e ∈ log, ⊥ < key e) : Covered key log read ⊥ :=
  ⟨fun e he hle => absurd hle (not_le_of_gt (h e he)), .inl rfl⟩

theorem Covered.mono (h : Covered key log read pos) {pos' : K} (hle : pos' ≤ pos) : Covered key log read pos' := by
  refine ⟨fun e he hpos => h.read e he (hpos.trans hle), ?_⟩
  rcases h.within with rfl | ⟨e, he, hpos⟩
  · exact .inl (le_bot_iff.1 hle)
  · exact .inr ⟨e, he, hle.trans hpos⟩

/-- A new entry is past every covered position. -/
theorem Covered.lt (h : Covered key log read pos) (he : ∀ e' ∈ log, key e' < key e) (hbot : ⊥ < key e) : pos < key e := by
  rcases h.within with rfl | ⟨e', he', hpos⟩
  · exact hbot
  · exact hpos.trans_lt (he e' he')

theorem Covered.append (h : Covered key log read pos) (he : ∀ e' ∈ log, key e' < key e) (hbot : ⊥ < key e) :
    Covered key (log ++ [e]) read pos := by
  refine ⟨fun e' he' hpos => ?_, h.within.imp_right fun ⟨e', he', hpos⟩ => ⟨e', List.mem_append_left _ he', hpos⟩⟩
  rcases List.mem_append.1 he' with he' | he'
  · exact h.read e' he' hpos
  · rw [List.mem_singleton.1 he'] at hpos
    exact absurd hpos (not_le_of_gt (h.lt he hbot))

theorem Covered.more (h : Covered key log read pos) (e : E) : Covered key log (read ++ [e]) pos :=
  ⟨fun e' he' hpos => List.mem_append_left _ (h.read e' he' hpos), h.within⟩

/-- Reading the next entry covers it. -/
theorem Covered.next {rest : List E} (h : Covered key log read pos) (hlog : Ascending key log)
    (hafter : after key log pos = e :: rest) : Covered key log (read ++ [e]) (key e) := by
  have he : e ∈ log := (mem_after.1 (hafter ▸ List.mem_cons_self)).1
  refine ⟨fun e' he' hle => ?_, .inr ⟨e, he, le_rfl⟩⟩
  rcases le_or_gt (key e') pos with hpos | hpos
  · exact List.mem_append_left _ (h.read e' he' hpos)
  · have hmem : e' ∈ after key log pos := mem_after.2 ⟨he', hpos⟩
    rw [hafter, List.mem_cons, ← after_next hlog hafter, mem_after] at hmem
    rcases hmem with rfl | ⟨-, hlt⟩
    · exact List.mem_append_right _ (List.mem_singleton_self _)
    · exact absurd hle (not_le_of_gt hlt)

end

end ServiceLib
