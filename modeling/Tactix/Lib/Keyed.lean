import Mathlib.Data.List.Infix
import Mathlib.Logic.Function.Basic
/-!
# A map under encoded keys

Calls put a value at something or clear the map, and `store f` keeps the values under the
images of `f`. Callers mean `ident`, and the map is kept under `enc`.
`agrees_of_alone` and `alone_of_agrees` say when a reader of the map cannot tell.
-/

namespace ServiceLib

inductive MapOp (α ν : Type) where
  | put (a : α) (v : ν)
  | clear

variable {α β γ ν : Type} [DecidableEq β] [DecidableEq γ]

def MapOp.apply (f : α → β) (m : β → Option ν) : MapOp α ν → β → Option ν
  | .put a v => Function.update m (f a) (some v)
  | .clear => fun _ => none

/-- The map after the calls. -/
def store (f : α → β) (ops : List (MapOp α ν)) : β → Option ν := ops.foldl (MapOp.apply f) fun _ => none

/-- The call may change what is kept at `b`. -/
def MapOp.Touches (f : α → β) (b : β) : MapOp α ν → Prop
  | .put a _ => f a = b
  | .clear => True

section
variable {f : α → β} {ops : List (MapOp α ν)}

theorem store_snoc (op : MapOp α ν) : store f (ops ++ [op]) = op.apply f (store f ops) := by
  rw [store, List.foldl_append, List.foldl_cons, List.foldl_nil, store]

theorem store_put (a : α) (v : ν) (b : β) :
    store f (ops ++ [.put a v]) b = if b = f a then some v else store f ops b := by
  rw [store_snoc, MapOp.apply, Function.update_apply]

theorem store_clear (b : β) : store f (ops ++ [.clear]) b = none := by
  rw [store_snoc, MapOp.apply]

/-- The last call that touched `b` put the value there. -/
theorem store_eq_some_iff {b : β} {v : ν} : store f ops b = some v ↔
    ∃ before a after, ops = before ++ .put a v :: after ∧ f a = b ∧ ∀ op ∈ after, ¬ op.Touches f b := by
  induction ops using List.reverseRecOn with
  | nil => simp [store]
  | append_singleton ops op ih =>
    constructor
    · intro h
      by_cases ht : op.Touches f b
      · cases op with
        | put a w =>
          rw [store_put, if_pos (Eq.symm ht)] at h
          obtain rfl := Option.some.inj h
          exact ⟨ops, a, [], rfl, ht, by simp⟩
        | clear =>
          rw [store_clear] at h
          cases h
      · have hkeep : store f (ops ++ [op]) b = store f ops b := by
          cases op with
          | put a w => rw [store_put, if_neg (Ne.symm ht)]
          | clear => exact absurd trivial ht
        obtain ⟨before, a, after, rfl, ha, hafter⟩ := ih.1 (hkeep ▸ h)
        refine ⟨before, a, after ++ [op], by simp, ha, ?_⟩
        intro op' hop
        rcases List.mem_append.1 hop with hop | hop
        · exact hafter op' hop
        · rwa [List.mem_singleton.1 hop]
    · rintro ⟨before, a, after, hsplit, ha, hafter⟩
      rcases List.eq_nil_or_concat after with rfl | ⟨after, op', rfl⟩
      · obtain ⟨rfl, hop⟩ := List.append_inj' hsplit rfl
        rw [List.singleton_inj.1 hop, store_put, if_pos ha.symm]
      · rw [List.concat_eq_append, ← List.cons_append, ← List.append_assoc] at hsplit
        obtain ⟨rfl, hop⟩ := List.append_inj' hsplit rfl
        rw [List.singleton_inj.1 hop]
        have hkeep := ih.2 ⟨before, a, after, rfl, ha, fun op hop => hafter op (by simp [hop])⟩
        have ht := hafter op' (by simp)
        cases op' with
        | put a' w => rw [store_put, if_neg (Ne.symm ht), hkeep]
        | clear => exact absurd trivial ht

end

section
variable {ident : α → β} {enc : α → γ} {ops : List (MapOp α ν)}

/-- The map reads as if it were kept under what the callers mean. -/
def Agrees (ident : α → β) (enc : α → γ) (ops : List (MapOp α ν)) : Prop :=
  ∀ a, store enc ops (enc a) = store ident ops (ident a)

/-- Nothing else has the key of `a`. -/
def Alone (ident : α → β) (enc : α → γ) (a : α) : Prop := ∀ a', enc a' = enc a → ident a' = ident a

theorem agrees_of_alone (henc : ∀ a a', ident a = ident a' → enc a = enc a')
    (h : ∀ a v, .put a v ∈ ops → Alone ident enc a) : Agrees ident enc ops := by
  induction ops using List.reverseRecOn with
  | nil => exact fun a => rfl
  | append_singleton ops op ih =>
    intro a
    have hops := ih fun a' v hm => h a' v (List.mem_append_left _ hm)
    cases op with
    | put a' v =>
      have halone := h a' v (by simp)
      rw [store_put, store_put, hops a]
      exact if_congr ⟨halone a, henc a a'⟩ rfl rfl
    | clear => rw [store_clear, store_clear]

/-- While every reader is right, nothing is kept under a key that two of them have. -/
theorem store_none_of_agrees (h : ∀ done, done <+: ops → Agrees ident enc done) {a a' : α} (hkey : enc a' = enc a)
    (hne : ident a' ≠ ident a) : store enc ops (enc a) = none := by
  induction ops using List.reverseRecOn with
  | nil => rfl
  | append_singleton ops op ih =>
    have hops := ih fun done hd => h done (hd.trans (List.prefix_append ..))
    cases op with
    | clear => exact store_clear _
    | put b v =>
      by_cases hb : enc a = enc b
      · have hbefore := h ops (List.prefix_append ..)
        have hafter := h _ (List.prefix_refl _)
        -- before the call both read `none`, after it both read `v`
        have hnone : store ident ops (ident a) = none := (hbefore a).symm.trans hops
        have hnone' : store ident ops (ident a') = none := (hbefore a').symm.trans (hkey ▸ hops)
        have hread := hafter a
        have hread' := hafter a'
        rw [store_put, store_put, if_pos hb, hnone] at hread
        rw [store_put, store_put, if_pos (hkey.trans hb), hnone'] at hread'
        have hident : ident a = ident b := by
          by_contra hn
          rw [if_neg hn] at hread
          cases hread
        have hident' : ident a' = ident b := by
          by_contra hn
          rw [if_neg hn] at hread'
          cases hread'
        exact absurd (hident'.trans hident.symm) hne
      · rw [store_put, if_neg hb, hops]

theorem alone_of_agrees (h : ∀ done, done <+: ops → Agrees ident enc done) {a : α} {v : ν} (hm : .put a v ∈ ops) :
    Alone ident enc a := by
  intro a' hkey
  by_contra hne
  obtain ⟨before, after, rfl⟩ := List.append_of_mem hm
  have hnone : store enc (before ++ [.put a v]) (enc a) = none :=
    store_none_of_agrees (fun done hd => h done (hd.trans ⟨after, by simp⟩)) hkey hne
  rw [store_put, if_pos rfl] at hnone
  cases hnone

end

end ServiceLib
