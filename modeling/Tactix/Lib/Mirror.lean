import Mathlib.Data.List.Nodup
import Mathlib.Data.List.Perm.Lattice
import Tactix.Lib.Lists
/-!
# A copy of a table

A client shows rows of a table with keys, and replies with rows the table has taken are on
their way to it. `Mirrors` says what the two have to do with each other, and there is a lemma
for each thing that happens at either end. Without replies under way they agree.
-/

namespace ServiceLib

variable {α κ : Type} [DecidableEq κ] {key : α → κ}

/-- A row, or what has become of it in `changed`. -/
def overlay (key : α → κ) (changed : List α) (x : α) : α := (changed.find? fun y => key y = key x).getD x

/-- The rows are those shown, as far as they have changed as the replies say, and those of other replies. -/
structure Mirrors (key : α → κ) (shown changed created rows : List α) : Prop where
  perm : (shown.map (overlay key changed) ++ created).Perm rows
  keys : (rows.map key).Nodup
  once : (changed.map key).Nodup

section
variable {shown changed created rows p q : List α} {x y : α} {k : κ}

theorem key_overlay (changed : List α) (x : α) : key (overlay key changed x) = key x := by
  unfold overlay
  cases hfound : changed.find? fun y => key y = key x with
  | none => rfl
  | some y => simpa using List.find?_some hfound

theorem overlay_of_notMem (h : key x ∉ changed.map key) : overlay key changed x = x := by
  have hnone : (changed.find? fun y => key y = key x) = none :=
    List.find?_eq_none.2 fun y hy => by simpa using fun he : key y = key x => h (he ▸ List.mem_map_of_mem hy)
  rw [overlay, hnone, Option.getD_none]

theorem overlay_of_mem (hn : (changed.map key).Nodup) (hy : y ∈ changed) (he : key y = key x) : overlay key changed x = y := by
  unfold overlay
  cases hfound : changed.find? fun y => key y = key x with
  | none =>
    have hne := List.find?_eq_none.1 hfound y hy
    exact absurd he (by simpa using hne)
  | some z =>
    have hz : key z = key x := by simpa using List.find?_some hfound
    exact List.inj_on_of_nodup_map hn (List.mem_of_find?_eq_some hfound) hy (hz.trans he.symm)

/-- No key is shown twice, or shown and under way. -/
theorem Mirrors.nodup (h : Mirrors key shown changed created rows) : (shown.map key ++ created.map key).Nodup := by
  have hkeys : (shown.map (overlay key changed) ++ created).map key = shown.map key ++ created.map key := by
    rw [List.map_append, List.map_map]
    congr 1
    exact List.map_congr_left fun x _ => key_overlay changed x
  rw [← hkeys]
  exact (h.perm.map key).nodup_iff.2 h.keys

/-- The table gets a row. -/
theorem Mirrors.insert (h : Mirrors key shown changed created rows) (hx : key x ∉ rows.map key) :
    Mirrors key shown changed (created ++ [x]) (rows ++ [x]) := by
  refine ⟨?_, nodup_map_snoc h.keys hx, h.once⟩
  rw [← List.append_assoc]
  exact h.perm.append_right [x]

/-- A row that is shown changes. -/
theorem Mirrors.update (h : Mirrors key shown changed created rows) {f : α → α} (hf : ∀ y, key (f y) = key y) (hx : x ∈ shown)
    (hnew : key x ∉ changed.map key) :
    Mirrors key shown (changed ++ [f x]) created (rows.map fun y => if key y = key x then f y else y) := by
  have hother : key x ∉ created.map key := fun hmem =>
    (List.nodup_append.1 h.nodup).2.2 _ (List.mem_map_of_mem hx) _ hmem rfl
  have hshown : (shown.map key).Nodup := (List.nodup_append.1 h.nodup).1
  have honce : ((changed ++ [f x]).map key).Nodup := nodup_map_snoc h.once (hf x ▸ hnew)
  refine ⟨?_, ?_, honce⟩
  · have hmap : (shown.map (overlay key changed) ++ created).map (fun y => if key y = key x then f y else y) =
        shown.map (overlay key (changed ++ [f x])) ++ created := by
      rw [List.map_append, List.map_map]
      congr 1
      · refine List.map_congr_left fun y hy => ?_
        have hkey : key (overlay key changed y) = key y := key_overlay changed y
        rw [Function.comp_apply, hkey]
        by_cases hk : key y = key x
        · obtain rfl := List.inj_on_of_nodup_map hshown hy hx hk
          rw [if_pos rfl, overlay_of_notMem hnew]
          exact (overlay_of_mem honce (List.mem_append_right _ (List.mem_singleton_self _)) (hf y)).symm
        · rw [if_neg hk, overlay, overlay, List.find?_append]
          have hlast : [f x].find? (fun z => key z = key y) = none := by simp [hf, Ne.symm hk]
          rw [hlast, Option.or_none]
      · conv_rhs => rw [← List.map_id created]
        exact List.map_congr_left fun y hy => if_neg fun he : key y = key x => hother (he ▸ List.mem_map_of_mem hy)
    rw [← hmap]
    exact h.perm.map _
  · rw [List.map_map]
    have hsame : (key ∘ fun y => if key y = key x then f y else y) = key := by
      funext y
      simp only [Function.comp_apply]
      split
      · exact hf y
      · rfl
    rw [hsame]
    exact h.keys

end

end ServiceLib
