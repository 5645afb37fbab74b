import Mathlib.Data.List.Nodup
/-!
# Maps that keep the order of insertion

The entries of a map in order. Setting a key that is there keeps its place, and a new
key goes to the end.
-/

namespace ServiceLib

variable {κ ν : Type} [DecidableEq κ]

/-- `map.set(k, v)`. -/
def setEntry (m : List (κ × ν)) (k : κ) (v : ν) : List (κ × ν) :=
  if k ∈ m.map (·.1) then m.map fun e => if e.1 = k then (k, v) else e else m ++ [(k, v)]

theorem mem_setEntry {m : List (κ × ν)} {k : κ} {v : ν} {e : κ × ν} :
    e ∈ setEntry m k v ↔ e = (k, v) ∨ (e ∈ m ∧ e.1 ≠ k) := by
  unfold setEntry
  split
  · rename_i hk
    rw [List.mem_map]
    constructor
    · rintro ⟨e', he', rfl⟩
      by_cases h : e'.1 = k
      · exact .inl (if_pos h)
      · rw [if_neg h]
        exact .inr ⟨he', h⟩
    · rintro (rfl | ⟨he, hne⟩)
      · obtain ⟨e', he', hk'⟩ := List.mem_map.1 hk
        exact ⟨e', he', if_pos hk'⟩
      · exact ⟨e, he, if_neg hne⟩
  · rename_i hk
    rw [List.mem_append, List.mem_singleton, or_comm]
    refine or_congr_right (and_iff_left_of_imp ?_).symm
    rintro he rfl
    exact hk (List.mem_map_of_mem he)

/-- No key gets a second entry. -/
theorem setEntry_nodup {m : List (κ × ν)} (h : (m.map (·.1)).Nodup) (k : κ) (v : ν) :
    ((setEntry m k v).map (·.1)).Nodup := by
  unfold setEntry
  split
  · rw [List.map_map]
    have hkeys : ((·.1) ∘ fun e : κ × ν => if e.1 = k then (k, v) else e) = (·.1) := by
      funext e
      dsimp only [Function.comp]
      split
      · exact Eq.symm ‹e.1 = k›
      · rfl
    rwa [hkeys]
  · rename_i hk
    rw [List.map_append, List.nodup_append]
    refine ⟨h, List.nodup_singleton k, ?_⟩
    intro a ha b hb hab
    rw [hab, List.mem_singleton.1 hb] at ha
    exact hk ha

end ServiceLib
