import Mathlib.Data.List.Infix
/-!
# Matches of a pattern in a text

A pattern says what it matches at the beginning of a text. A scan finds the matches from left
to right, each behind the one before. `scan_append` says where a text may be cut so that the
parts are scanned by themselves.
-/

namespace ServiceLib

variable {α : Type}

/-- A match: the text before it, and its own. -/
structure Match (α : Type) where
  before : List α
  text : List α

/-- The matches in a text that comes after `before`. So much of the text is still of the last match. -/
def scan (pattern : List α → Option (List α)) : Nat → List α → List α → List (Match α)
  | _, _, [] => []
  | skip + 1, before, x :: s => scan pattern skip (before ++ [x]) s
  | 0, before, x :: s =>
    match pattern (x :: s) with
    | some m => ⟨before, m⟩ :: scan pattern (m.length - 1) (before ++ [x]) s
    | none => scan pattern 0 (before ++ [x]) s

section
variable {pattern : List α → Option (List α)}

theorem scan_skip (u before s : List α) : scan pattern u.length before (u ++ s) = scan pattern 0 (before ++ u) s := by
  induction u generalizing before with
  | nil => rw [List.append_nil]; rfl
  | cons x u ih =>
    rw [List.length_cons, List.cons_append, scan, ih, List.append_assoc, List.singleton_append]

theorem scan_none {x : α} {s : List α} (h : pattern (x :: s) = none) (before : List α) :
    scan pattern 0 before (x :: s) = scan pattern 0 (before ++ [x]) s := by
  rw [scan, h]

theorem scan_some {m s : List α} (hne : m ≠ []) (h : pattern (m ++ s) = some m) (before : List α) :
    scan pattern 0 before (m ++ s) = ⟨before, m⟩ :: scan pattern 0 (before ++ m) s := by
  obtain ⟨x, u, rfl⟩ := List.exists_cons_of_ne_nil hne
  rw [List.cons_append] at h ⊢
  rw [scan, h]
  change _ :: scan pattern u.length (before ++ [x]) (u ++ s) = _
  rw [scan_skip, List.append_assoc, List.singleton_append]

/-- A scan passes over what does not match. -/
theorem scan_skip_none {u s : List α} (h : ∀ v, v ≠ [] → v <:+ u → pattern (v ++ s) = none) (before : List α) :
    scan pattern 0 before (u ++ s) = scan pattern 0 (before ++ u) s := by
  induction u generalizing before with
  | nil => rw [List.append_nil, List.nil_append]
  | cons x u ih =>
    have hnone : pattern (x :: (u ++ s)) = none := h (x :: u) (List.cons_ne_nil _ _) List.suffix_rfl
    rw [List.cons_append, scan_none hnone, ih fun v hv hsuffix => h v hv (hsuffix.trans (List.suffix_cons ..)),
      List.append_assoc, List.singleton_append]

theorem scan_eq_nil {s : List α} (h : ∀ v, v ≠ [] → v <:+ s → pattern v = none) (before : List α) :
    scan pattern 0 before s = [] := by
  have hskip : scan pattern 0 before (s ++ []) = scan pattern 0 (before ++ s) [] :=
    scan_skip_none (fun v hv hsuffix => (List.append_nil v).symm ▸ h v hv hsuffix) before
  rw [List.append_nil] at hskip
  exact hskip

/-- A text is scanned part by part, where no match in the first part depends on what follows. -/
theorem scan_append {u s : List α} (h : ∀ v, v ≠ [] → v <:+ u → pattern (v ++ s) = pattern v)
    (hlen : ∀ v m, pattern v = some m → m.length ≤ v.length) (before : List α) :
    scan pattern 0 before (u ++ s) = scan pattern 0 before u ++ scan pattern 0 (before ++ u) s := by
  suffices haux : ∀ skip, skip ≤ u.length →
      scan pattern skip before (u ++ s) = scan pattern skip before u ++ scan pattern 0 (before ++ u) s from haux 0 (Nat.zero_le _)
  induction u generalizing before with
  | nil =>
    intro skip hskip
    rw [List.length_nil, Nat.le_zero] at hskip
    rw [hskip, List.append_nil]
    rfl
  | cons x u ih =>
    have htail := ih (fun v hv hsuffix => h v hv (hsuffix.trans (List.suffix_cons ..))) (before ++ [x])
    rw [List.append_assoc, List.singleton_append] at htail
    intro skip hskip
    cases skip with
    | succ skip => exact htail skip (Nat.le_of_succ_le_succ hskip)
    | zero =>
      have hsame := h (x :: u) (List.cons_ne_nil _ _) List.suffix_rfl
      rw [List.cons_append] at hsame ⊢
      rw [scan, scan, hsame]
      cases hm : pattern (x :: u) with
      | none => exact htail 0 (Nat.zero_le _)
      | some m =>
        have hle := hlen _ m hm
        rw [List.length_cons] at hle
        exact congrArg (⟨before, m⟩ :: ·) (htail (m.length - 1) (by omega))

/-- What comes before a text shifts its matches. -/
theorem scan_shift (skip : Nat) (a b s : List α) :
    scan pattern skip (a ++ b) s = (scan pattern skip b s).map fun m => ⟨a ++ m.before, m.text⟩ := by
  induction s generalizing skip b with
  | nil => cases skip <;> rfl
  | cons x s ih =>
    have htail := fun skip => List.append_assoc a b [x] ▸ ih skip (b ++ [x])
    cases skip with
    | succ skip => exact htail skip
    | zero =>
      rw [scan, scan]
      cases pattern (x :: s) with
      | none => exact htail 0
      | some m => exact congrArg (⟨a ++ b, m⟩ :: ·) (htail (m.length - 1))

end

end ServiceLib
