import Mathlib.Data.List.Infix
import Mathlib.Data.List.MinMax
/-!
# Tables of prefixes

A path belongs to the entry of a table whose key is its longest beginning.
`longestPrefix_stem` finds that entry for all paths that begin alike.
-/

namespace ServiceLib

variable {α β : Type} [DecidableEq α]

/-- The entry of the table with the longest key that the path begins with. -/
def longestPrefix (table : List (List α × β)) (path : List α) : Option (List α × β) :=
  (table.filter fun e => e.1.isPrefixOf path).argmax fun e => e.1.length

section
variable {table : List (List α × β)} {path : List α} {e : List α × β}

theorem mem_begins : e ∈ table.filter (fun e => e.1.isPrefixOf path) ↔ e ∈ table ∧ e.1 <+: path := by
  rw [List.mem_filter, List.isPrefixOf_iff_prefix]

/-- Every other key the path begins with is shorter. -/
theorem longestPrefix_eq (he : e ∈ table) (hp : e.1 <+: path)
    (hmax : ∀ e' ∈ table, e'.1 <+: path → e' = e ∨ e'.1.length < e.1.length) : longestPrefix table path = some e := by
  have hmem := mem_begins.2 ⟨he, hp⟩
  unfold longestPrefix
  cases hfound : (table.filter fun e => e.1.isPrefixOf path).argmax fun e => e.1.length with
  | none =>
    rw [List.argmax_eq_none] at hfound
    rw [hfound] at hmem
    cases hmem
  | some e' =>
    obtain ⟨he', hp'⟩ := mem_begins.1 (List.argmax_mem hfound)
    rcases hmax e' he' hp' with rfl | hlt
    · rfl
    · exact absurd (List.le_of_mem_argmax hmem hfound) (Nat.not_le.2 hlt)

/-- What follows a stem does not matter when no key is longer than the stem there. -/
theorem longestPrefix_stem {stem : List α} (he : e ∈ table) (hp : e.1 <+: stem)
    (hmax : ∀ e' ∈ table, e'.1 <+: stem ∨ stem <+: e'.1 → e' = e ∨ e'.1.length < e.1.length) (rest : List α) :
    longestPrefix table (stem ++ rest) = some e := by
  refine longestPrefix_eq he (hp.trans (List.prefix_append stem rest)) fun e' he' hp' => hmax e' he' ?_
  exact List.prefix_or_prefix_of_prefix hp' (List.prefix_append stem rest)

theorem longestPrefix_some (h : longestPrefix table path = some e) :
    e ∈ table ∧ e.1 <+: path ∧ ∀ e' ∈ table, e'.1 <+: path → e'.1 <+: e.1 := by
  obtain ⟨he, hp⟩ := mem_begins.1 (List.argmax_mem h)
  refine ⟨he, hp, fun e' he' hp' => ?_⟩
  have hle := List.le_of_mem_argmax (f := fun e : List α × β => e.1.length) (mem_begins.2 ⟨he', hp'⟩) h
  exact List.prefix_of_prefix_length_le hp' hp hle

end

end ServiceLib
