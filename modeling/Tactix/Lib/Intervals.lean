import Mathlib.Order.Interval.Set.LinearOrder
/-!
# Half-open intervals

The comparison a query makes to find intervals that overlap, and what it means
for the points of the intervals.
-/

namespace ServiceLib

variable {α : Type} [LinearOrder α]

/-- Each of `[s, e)` and `[s', e')` begins before the other ends. -/
def Crosses (s e s' e' : α) : Prop := s < e' ∧ s' < e

instance (s e s' e' : α) : Decidable (Crosses s e s' e') := inferInstanceAs (Decidable (_ ∧ _))

theorem Crosses.symm {s e s' e' : α} (h : Crosses s e s' e') : Crosses s' e' s e := ⟨h.2, h.1⟩

/-- Intervals that are not empty cross exactly when they share a point. -/
theorem crosses_iff {s e s' e' : α} (h : s < e) (h' : s' < e') :
    Crosses s e s' e' ↔ (Set.Ico s e ∩ Set.Ico s' e').Nonempty := by
  rw [Set.Ico_inter_Ico, Set.nonempty_Ico, sup_lt_iff, lt_inf_iff, lt_inf_iff]
  constructor
  · rintro ⟨h1, h2⟩
    exact ⟨⟨h, h1⟩, h2, h'⟩
  · rintro ⟨⟨-, h1⟩, h2, -⟩
    exact ⟨h1, h2⟩

end ServiceLib
