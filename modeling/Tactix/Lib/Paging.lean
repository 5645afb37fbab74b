import Mathlib.Data.List.Perm.Basic
import Mathlib.Order.Basic
/-!
# Pages, newest first

A page is the beginning of a list of items in the order of a key, the highest first.
-/

namespace ServiceLib

variable {E K : Type} [LE K]

/-- `found` is the first `n` of the items. Items of one key are in any order. -/
def Page (key : E → K) (n : Nat) (items found : List E) : Prop :=
  ∃ order : List E, order.Perm items ∧ order.Pairwise (fun a b => key b ≤ key a) ∧ found = order.take n

namespace Page
variable {key : E → K} {n : Nat} {items found : List E}

theorem mem (h : Page key n items found) {e : E} (he : e ∈ found) : e ∈ items := by
  obtain ⟨order, hperm, -, rfl⟩ := h
  exact hperm.mem_iff.1 (List.mem_of_mem_take he)

theorem length (h : Page key n items found) : found.length = min n items.length := by
  obtain ⟨order, hperm, -, rfl⟩ := h
  rw [List.length_take, hperm.length_eq]

/-- Only how many of the items there are counts. -/
theorem of_min_eq (h : Page key n items found) {k : Nat} (hk : min k items.length = min n items.length) :
    Page key k items found := by
  obtain ⟨order, hperm, hsorted, rfl⟩ := h
  refine ⟨order, hperm, hsorted, List.take_eq_take_iff.2 ?_⟩
  rw [hperm.length_eq, hk]

/-- A page with room for all of them has them all. -/
theorem perm (h : Page key n items found) (hroom : items.length ≤ n) : found.Perm items := by
  obtain ⟨order, hperm, -, rfl⟩ := h
  rwa [List.take_of_length_le (hperm.length_eq.trans_le hroom)]

/-- What is left out is not newer than what is on the page. -/
theorem rest (h : Page key n items found) :
    ∃ left, (found ++ left).Perm items ∧ ∀ a ∈ found, ∀ b ∈ left, key b ≤ key a := by
  obtain ⟨order, hperm, hsorted, rfl⟩ := h
  refine ⟨order.drop n, by rwa [List.take_append_drop], ?_⟩
  rw [← List.take_append_drop n order, List.pairwise_append] at hsorted
  exact hsorted.2.2

end Page

end ServiceLib
