import Mathlib.Data.List.Infix
import Mathlib.Data.List.TakeWhile
/-!
# Occurrences of a list in a list

`Clear sep p` says that a reader of `p` with `sep` behind it meets no `sep` before
the one at the end. A list that holds a separator is cut at the first one in one way.
-/

namespace ServiceLib

variable {α : Type}

/-- `sep` occurs in `p ++ sep` at the end only. -/
def Clear (sep p : List α) : Prop := ¬ sep <:+: p ++ sep.dropLast

instance [DecidableEq α] (sep p : List α) : Decidable (Clear sep p) := inferInstanceAs (Decidable (¬ _))

theorem prefix_append_cons {x : α} {s a b : List α} (hx : x ∉ s) (h : s <+: a ++ x :: b) : s <+: a := by
  induction a generalizing s with
  | nil =>
    rcases List.prefix_cons_iff.1 h with rfl | ⟨t, rfl, -⟩
    · exact List.nil_prefix
    · exact absurd (List.mem_cons_self ..) hx
  | cons y a ih =>
    rcases List.prefix_cons_iff.1 h with rfl | ⟨t, rfl, ht⟩
    · exact List.nil_prefix
    · exact List.prefix_cons_iff.2 (.inr ⟨t, rfl, ih (fun hm => hx (List.mem_cons_of_mem _ hm)) ht⟩)

/-- What does not hold `x` lies on one side of it. -/
theorem infix_append_cons {x : α} {s a b : List α} (hx : x ∉ s) (h : s <:+: a ++ x :: b) : s <:+: a ∨ s <:+: b := by
  induction a with
  | nil =>
    rcases List.infix_cons_iff.1 h with h | h
    · exact .inl (prefix_append_cons (a := []) hx h).isInfix
    · exact .inr h
  | cons y a ih =>
    rcases List.infix_cons_iff.1 h with h | h
    · exact .inl (prefix_append_cons (a := y :: a) hx h).isInfix
    · exact (ih h).imp_left fun h => List.infix_cons_iff.2 (.inr h)

/-- What begins with `x` begins after all that does not hold `x`. -/
theorem infix_append_of_notMem {x : α} {s a b : List α} (hx : x ∉ a) (h : x :: s <:+: a ++ b) : x :: s <:+: b := by
  induction a with
  | nil => exact h
  | cons y a ih =>
    rcases List.infix_cons_iff.1 h with h | h
    · obtain ⟨rfl, -⟩ := List.cons_prefix_cons.1 h
      exact absurd (List.mem_cons_self ..) hx
    · exact ih (fun hm => hx (List.mem_cons_of_mem _ hm)) h

/-! ## Up to the first one -/

section
variable [DecidableEq α] {x : α} {s : List α}

theorem takeWhile_of_notMem (h : x ∉ s) : s.takeWhile (· ≠ x) = s :=
  List.takeWhile_eq_self_iff.2 fun _ hc => decide_eq_true fun he => h (he ▸ hc)

theorem dropWhile_of_notMem (h : x ∉ s) : s.dropWhile (· ≠ x) = [] :=
  List.dropWhile_eq_nil_iff.2 fun _ hc => decide_eq_true fun he => h (he ▸ hc)

theorem takeWhile_cut (h : x ∉ s) (t : List α) : (s ++ x :: t).takeWhile (· ≠ x) = s := by
  induction s with
  | nil => exact List.takeWhile_cons_of_neg (by simp)
  | cons y s ih =>
    rw [List.mem_cons, not_or] at h
    rw [List.cons_append, List.takeWhile_cons, if_pos (decide_eq_true (Ne.symm h.1)), ih h.2]

theorem dropWhile_cut (h : x ∉ s) (t : List α) : (s ++ x :: t).dropWhile (· ≠ x) = x :: t := by
  have hcut := List.takeWhile_append_dropWhile (p := (· ≠ x)) (l := s ++ x :: t)
  rw [takeWhile_cut h] at hcut
  exact List.append_cancel_left hcut

end

/-! ## Cutting at the first one -/

theorem Clear.tail {sep p : List α} {x : α} (h : Clear sep (x :: p)) : Clear sep p :=
  fun hi => h (List.infix_cons_iff.2 (.inr hi))

theorem Clear.not_infix {sep p : List α} (h : Clear sep p) : ¬ sep <:+: p :=
  fun hi => h (hi.trans (List.prefix_append ..).isInfix)

theorem clear_nil {sep : List α} (h : sep ≠ []) : Clear sep [] := by
  intro hi
  have hlen := hi.length_le
  have hpos := List.length_pos_of_ne_nil h
  rw [List.nil_append, List.length_dropLast] at hlen
  omega

theorem prefix_append_dropLast (sep p rest : List α) : p ++ sep.dropLast <+: p ++ sep ++ rest := by
  rw [List.append_assoc]
  exact (List.prefix_append_right_inj p).2 ((List.dropLast_prefix sep).trans (List.prefix_append ..))

/-- Nothing between the start of `p` and its end begins with `sep`. -/
theorem Clear.not_prefix {sep p : List α} {x : α} (h : Clear sep (x :: p)) (rest : List α) :
    ¬ sep <+: x :: p ++ sep ++ rest := by
  intro hpre
  have hshort : sep.length ≤ (x :: p ++ sep.dropLast).length := by
    rw [List.length_append, List.length_cons, List.length_dropLast]
    omega
  exact h (List.prefix_of_prefix_length_le hpre (prefix_append_dropLast sep (x :: p) rest) hshort).isInfix

theorem Clear.suffix {sep a b : List α} (h : Clear sep (a ++ b)) : Clear sep b := by
  induction a with
  | nil => exact h
  | cons x a ih => exact ih h.tail

/-- With no second `sep` there is one way to cut. -/
theorem Clear.cut_unique {sep p q p' q' : List α} (hp : Clear sep p) (hq : ¬ sep <:+: sep.tail ++ q)
    (h : p' ++ sep ++ q' = p ++ sep ++ q) : p' = p ∧ q' = q := by
  rw [List.append_assoc, List.append_assoc] at h
  rcases List.append_eq_append_iff.1 h with ⟨a, rfl, ha⟩ | ⟨b, rfl, hb⟩
  · cases a with
    | nil => exact ⟨by simp, (List.append_right_inj sep).1 ha⟩
    | cons x a =>
      rw [← List.append_assoc] at ha
      exact absurd ⟨q', ha⟩ (hp.suffix.not_prefix q)
  · cases b with
    | nil => exact ⟨by simp, (List.append_right_inj sep).1 hb.symm⟩
    | cons x b =>
      cases sep with
      | nil => exact absurd List.nil_infix hq
      | cons y sep =>
        have htail := (List.cons.inj hb).2
        exact absurd ⟨b, q', by rw [List.tail_cons, List.append_assoc]; exact htail.symm⟩ hq

/-- There is one way to cut at the last `x`. -/
theorem cut_last_unique {x : α} {a b a' b' : List α} (hb : x ∉ b) (hb' : x ∉ b') (h : a ++ x :: b = a' ++ x :: b') :
    a = a' ∧ b = b' := by
  rcases List.append_eq_append_iff.1 h with ⟨c, rfl, hc⟩ | ⟨c, rfl, hc⟩
  · cases c with
    | nil => exact ⟨by simp, (List.cons.inj hc).2⟩
    | cons y c => exact absurd (by simp [(List.cons.inj hc).2]) hb
  · cases c with
    | nil => exact ⟨by simp, (List.cons.inj hc).2.symm⟩
    | cons y c => exact absurd (by simp [(List.cons.inj hc).2]) hb'

/-- A list that holds `sep` has a first one. -/
theorem exists_clear {sep s : List α} (hsep : sep ≠ []) (h : sep <:+: s) : ∃ p rest, s = p ++ sep ++ rest ∧ Clear sep p := by
  induction s with
  | nil => exact absurd (List.infix_nil.1 h) hsep
  | cons x s ih =>
    by_cases hpre : sep <+: x :: s
    · obtain ⟨rest, hrest⟩ := hpre
      exact ⟨[], rest, by simp [hrest], clear_nil hsep⟩
    · obtain ⟨p, rest, hs, hp⟩ := ih ((List.infix_cons_iff.1 h).resolve_left hpre)
      refine ⟨x :: p, rest, by simp [hs], fun hi => ?_⟩
      rcases List.infix_cons_iff.1 hi with hi | hi
      · exact hpre (hi.trans (hs ▸ prefix_append_dropLast sep (x :: p) rest))
      · exact hp hi

/-- A character that `sep` does not hold keeps what comes before it apart from what follows. -/
theorem clear_concat {sep p : List α} {x : α} (hx : x ∉ sep) (h : ¬ sep <:+: p) : Clear sep (p ++ [x]) := by
  intro hi
  rw [List.append_assoc, List.singleton_append] at hi
  rcases infix_append_cons hx hi with hi | hi
  · exact h hi
  · cases sep with
    | nil => exact h (List.nil_infix)
    | cons y sep => exact clear_nil (List.cons_ne_nil y sep) (by simpa using hi)

end ServiceLib
