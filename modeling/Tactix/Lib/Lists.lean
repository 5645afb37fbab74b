import Mathlib.Data.List.Sort
/-!
# Logs as lists

A sort by a key fixes the order of the elements up to ties.
`sorted_perm_iff` says when it fixes what is read off the elements. The rest
is about a list that grows at its end, and about reading it.
-/

namespace ServiceLib

variable {α β κ : Type}

theorem pairwise_mergeSort_key [LinearOrder κ] (key : α → κ) (l : List α) :
    (l.mergeSort fun a b => decide (key a ≤ key b)).Pairwise (key · ≤ key ·) := by
  have htotal : Std.Total fun a b : α => key a ≤ key b := ⟨fun _ _ => le_total ..⟩
  have htrans : IsTrans α fun a b => key a ≤ key b := ⟨fun _ _ _ => le_trans⟩
  exact List.pairwise_mergeSort' (fun a b : α => key a ≤ key b) l

/-- Two sorted orders of the same elements show the same keys. -/
theorem map_key_eq [LinearOrder κ] (key : α → κ) {l l' : List α} (hp : l'.Perm l) (hl : l.Pairwise (key · ≤ key ·))
    (hl' : l'.Pairwise (key · ≤ key ·)) : l'.map key = l.map key :=
  (hp.map key).eq_of_pairwise (fun _ _ _ _ (h : _ ≤ _) h' => le_antisymm h h')
    (List.pairwise_map.2 hl') (List.pairwise_map.2 hl)

/-- With the same keys in the same places, values fixed by the key agree. -/
theorem map_val_eq (key : α → κ) (val : α → β) {l l' : List α} (hsub : ∀ x ∈ l', x ∈ l)
    (hk : l'.map key = l.map key) (hv : ∀ x ∈ l, ∀ y ∈ l, key x = key y → val x = val y) :
    l'.map val = l.map val := by
  have hlen : l'.length = l.length := by simpa using congrArg List.length hk
  refine List.ext_getElem (by simp [hlen]) fun i h1 h2 => ?_
  rw [List.length_map] at h1 h2
  have hki : key l'[i] = key l[i] := by
    have := List.getElem_of_eq hk (i := i) (by simpa using h1)
    simpa using this
  simpa using hv _ (hsub _ (List.getElem_mem h1)) _ (List.getElem_mem h2) hki

/-- A list in falling order of a key, cut at a value of the key. -/
theorem filter_append_filter_of_sorted [LinearOrder κ] (key : α → κ) (t : κ) {l : List α}
    (h : l.Pairwise fun a b => key b ≤ key a) : (l.filter fun a => t < key a) ++ (l.filter fun a => key a ≤ t) = l := by
  induction l with
  | nil => rfl
  | cons a l ih =>
    obtain ⟨ha, hl⟩ := List.pairwise_cons.1 h
    by_cases ht : t < key a
    · rw [List.filter_cons_of_pos (by simpa using ht), List.filter_cons_of_neg (by simpa using ht), List.cons_append, ih hl]
    · have hle := not_lt.1 ht
      have hnone : (l.filter fun a => t < key a) = [] :=
        List.filter_eq_nil_iff.2 fun b hb => by simpa using (ha b hb).trans hle
      have hall : (l.filter fun a => key a ≤ t) = l := List.filter_eq_self.2 fun b hb => by simpa using (ha b hb).trans hle
      rw [List.filter_cons_of_neg (by simpa using hle), List.filter_cons_of_pos (by simpa using hle), hnone, hall, List.nil_append]

/-- Swapping two elements whose keys tie keeps a list sorted. -/
theorem pairwise_swap [LinearOrder κ] (key : α → κ) {p m q : List α} {a b : α} (hab : key a = key b)
    (h : (p ++ a :: m ++ b :: q).Pairwise (key · ≤ key ·)) : (p ++ b :: m ++ a :: q).Pairwise (key · ≤ key ·) := by
  have hk : (p ++ b :: m ++ a :: q).map key = (p ++ a :: m ++ b :: q).map key := by simp [hab]
  rw [← List.pairwise_map, hk]
  exact List.pairwise_map.2 h

theorem perm_swap {p m q : List α} {a b : α} : (p ++ b :: m ++ a :: q).Perm (p ++ a :: m ++ b :: q) := by
  simp only [List.append_assoc, List.cons_append]
  refine List.Perm.append_left p ?_
  refine List.Perm.trans (List.Perm.cons b List.perm_middle) ?_
  refine List.Perm.trans (List.Perm.swap a b _) ?_
  exact List.Perm.cons a List.perm_middle.symm

/-- Every sorted order of a sorted list reads the same, exactly when elements
whose keys tie read the same. -/
theorem sorted_perm_iff [LinearOrder κ] (key : α → κ) (val : α → β) {l : List α} (hl : l.Pairwise (key · ≤ key ·)) :
    (∀ l' : List α, l'.Perm l → l'.Pairwise (key · ≤ key ·) → l'.map val = l.map val) ↔
      l.Pairwise fun a b => key a = key b → val a = val b := by
  constructor
  · intro h
    -- Each suffix of `l`, by induction: its head may be swapped with any later tie.
    suffices hs : ∀ s p : List α, l = p ++ s → s.Pairwise fun a b => key a = key b → val a = val b from hs l [] rfl
    intro s
    induction s with
    | nil => exact fun _ _ => .nil
    | cons a s ih =>
      intro p hp
      refine .cons (fun b hb hab => ?_) (ih (p ++ [a]) (by simp [hp]))
      obtain ⟨m, q, rfl⟩ := List.append_of_mem hb
      have e : l = p ++ a :: m ++ b :: q := by simp [hp]
      have hswap := h _ (e ▸ perm_swap) (pairwise_swap key hab (e ▸ hl))
      rw [e] at hswap
      simp only [List.map_append, List.map_cons, List.append_assoc, List.cons_append, List.append_cancel_left_eq,
        List.cons.injEq] at hswap
      exact hswap.1.symm
  · intro h l' hp hl'
    refine map_val_eq key val (fun x hx => hp.subset hx) (map_key_eq key hp hl hl') ?_
    exact h.forall_of_forall_of_flip (fun _ _ _ => rfl) (h.imp fun hab e => (hab e.symm).symm)

/-- A new key keeps the keys apart. -/
theorem nodup_map_snoc {key : α → κ} {l : List α} {x : α} (hn : (l.map key).Nodup) (hx : key x ∉ l.map key) :
    ((l ++ [x]).map key).Nodup := by
  rw [List.map_append, List.nodup_append]
  refine ⟨hn, List.nodup_singleton _, fun a ha b hb he => hx ?_⟩
  rwa [he, List.mem_singleton.1 hb] at ha

/-- A value stays unique when it is only added where it is missing. -/
theorem count_snoc [DecidableEq α] {l : List α} {x a : α} (h : l.count a ≤ 1) (hx : x = a → a ∉ l) :
    (l ++ [x]).count a ≤ 1 := by
  by_cases he : x = a
  · simp [he, List.count_eq_zero.2 (hx he)]
  · simpa [List.count_append, he] using h

/-- Where an element stands in a list with one more at its end. -/
theorem snoc_eq_append_cons {l p q : List α} {x y : α} (h : l ++ [x] = p ++ y :: q) :
    (q = [] ∧ l = p ∧ x = y) ∨ ∃ t, q = t ++ [x] ∧ l = p ++ y :: t := by
  rcases List.eq_nil_or_concat q with rfl | ⟨t, z, rfl⟩
  · obtain ⟨rfl, hx⟩ := List.append_inj' h rfl
    exact .inl ⟨rfl, rfl, List.head_eq_of_cons_eq hx⟩
  · rw [List.concat_eq_append, ← List.cons_append, ← List.append_assoc] at h
    obtain ⟨rfl, hx⟩ := List.append_inj' h rfl
    exact .inr ⟨t, by rw [List.concat_eq_append, List.head_eq_of_cons_eq hx], rfl⟩

/-- A value that occurs once in what is read comes from one element. -/
theorem eq_of_filterMap_count [DecidableEq β] {f : α → Option β} {l : List α} {b : β} (h : (l.filterMap f).count b ≤ 1)
    {x y : α} (hx : x ∈ l) (hy : y ∈ l) (fx : f x = some b) (fy : f y = some b) : x = y := by
  obtain ⟨p, q, rfl⟩ := List.append_of_mem hx
  rw [List.filterMap_append, List.filterMap_cons_some fx, List.count_append, List.count_cons_self] at h
  rcases List.mem_append.1 hy with hy | hy
  · have := List.count_pos_iff.2 (List.mem_filterMap.2 ⟨y, hy, fy⟩)
    omega
  · rcases List.mem_cons.1 hy with rfl | hy
    · rfl
    · have := List.count_pos_iff.2 (List.mem_filterMap.2 ⟨y, hy, fy⟩)
      omega

/-- A filter whose test may throw comes to an end exactly when no test throws. -/
theorem filterM_ok {α ε : Type} {f : α → Except ε Bool} (l : List α) :
    (∃ l', l.filterM f = .ok l') ↔ ∀ a ∈ l, ∃ b, f a = .ok b := by
  suffices haux : ∀ acc, (∃ l', l.filterAuxM f acc = .ok l') ↔ ∀ a ∈ l, ∃ b, f a = .ok b by
    rw [← haux []]
    unfold List.filterM
    cases l.filterAuxM f [] with
    | error e => simp [bind, Except.bind]
    | ok l' => simp [bind, Except.bind, pure, Except.pure]
  induction l with
  | nil => simp [List.filterAuxM, pure, Except.pure]
  | cons a l ih =>
    intro acc
    simp only [List.filterAuxM, bind, List.forall_mem_cons]
    cases ha : f a with
    | error e => simp [Except.bind]
    | ok b => simpa [Except.bind] using ih _

/-- A filter whose test does not throw is a plain filter. -/
theorem filterM_eq {α ε : Type} {f : α → Except ε Bool} {g : α → Bool} {l : List α} (h : ∀ a ∈ l, f a = .ok (g a)) :
    l.filterM f = .ok (l.filter g) := by
  suffices haux : ∀ acc, l.filterAuxM f acc = .ok ((l.filter g).reverse ++ acc) by
    unfold List.filterM
    rw [haux]
    simp [bind, Except.bind, pure, Except.pure]
  induction l with
  | nil => intro acc; rfl
  | cons a l ih =>
    rw [List.forall_mem_cons] at h
    intro acc
    simp only [List.filterAuxM, h.1, bind, Except.bind]
    rw [ih h.2]
    cases hg : g a with
    | true => simp [hg]
    | false => simp [hg]

theorem mapM_eq_map {f : α → Option β} {g : α → β} {l : List α} (h : ∀ a ∈ l, f a = some (g a)) :
    l.mapM f = some (l.map g) := by
  induction l with
  | nil => rfl
  | cons a l ih =>
    rw [List.forall_mem_cons] at h
    rw [List.mapM_cons, h.1, ih h.2]
    rfl

/-- What a traversal comes to: some value for every element, in order. -/
theorem mapM_eq_some {f : α → Option β} {l : List α} {r : List β} : l.mapM f = some r ↔ l.map f = r.map some := by
  induction l generalizing r with
  | nil => cases r <;> simp
  | cons a l ih =>
    rw [List.mapM_cons]
    cases ha : f a with
    | none => cases r <;> simp [ha]
    | some b =>
      cases r with
      | nil => cases l.mapM f <;> simp
      | cons b' r => cases hl : l.mapM f <;> simp [ha, hl, ← ih]

theorem exists_map_some {l : List (Option α)} (h : ∀ m ∈ l, ∃ a, m = some a) : ∃ r : List α, l = r.map some := by
  induction l with
  | nil => exact ⟨[], rfl⟩
  | cons m l ih =>
    rw [List.forall_mem_cons] at h
    obtain ⟨a, rfl⟩ := h.1
    obtain ⟨r, rfl⟩ := ih h.2
    exact ⟨a :: r, rfl⟩

/-- The same for traversals one after the other. -/
theorem flatMapM_eq_some {γ : Type} {g : α → List β} {f : α → β → Option γ} {l : List α} {r : List γ} :
    (l.mapM fun a => (g a).mapM (f a)).map List.flatten = some r ↔ (l.flatMap fun a => (g a).map (f a)) = r.map some := by
  induction l generalizing r with
  | nil => cases r <;> simp
  | cons a l ih =>
    have hsplit : ((g a).map (f a) ++ l.flatMap fun a => (g a).map (f a)) = r.map some ↔
        ∃ r₁ r₂, r = r₁ ++ r₂ ∧ (g a).mapM (f a) = some r₁ ∧
          (l.mapM fun a => (g a).mapM (f a)).map List.flatten = some r₂ := by
      rw [eq_comm, List.map_eq_append_iff]
      simp only [mapM_eq_some, ih, eq_comm]
    rw [List.flatMap_cons, hsplit, List.mapM_cons]
    cases (g a).mapM (f a) with
    | none => simp
    | some r₁ =>
      cases l.mapM fun a => (g a).mapM (f a) with
      | none => simp
      | some rs => simp [eq_comm]

/-- Consecutive ids, and one more. -/
theorem range'_snoc {id : α → Nat} {l : List α} {a : α} (h : l.map id = List.range' 1 l.length)
    (ha : id a = l.length + 1) : (l ++ [a]).map id = List.range' 1 (l ++ [a]).length := by
  rw [List.map_append, h, List.length_append, List.length_singleton, List.range'_concat]
  simp [ha, Nat.add_comm]

end ServiceLib
