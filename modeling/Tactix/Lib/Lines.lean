import Tactix.Lib.Occurs
/-!
# The lines of a text

A line ends at a `\n`, with a `\r` before it or not. A word within a line is in a text just when
it is in one of its lines: `infix_lines_iff`. `infix_intercalate_iff` is the same for texts
that are joined.
-/

namespace ServiceLib

/-- `c` is put in front of the first line. -/
def consLine (c : Char) : List (List Char) → List (List Char)
  | [] => [[c]]
  | l :: ls => (c :: l) :: ls

def lines : List Char → List (List Char)
  | [] => [[]]
  | '\n' :: s => [] :: lines s
  | '\r' :: '\n' :: s => [] :: lines s
  | c :: s => consLine c (lines s)

section
variable {w s l : List Char} {ls : List (List Char)}

theorem lines_ne_nil (s : List Char) : lines s ≠ [] := by
  fun_induction lines s with
  | case1 => simp
  | case2 => simp
  | case3 => simp
  | case4 c s _ _ ih =>
    cases h : lines s with
    | nil => exact absurd h ih
    | cons => simp [consLine]

/-- The first line is what comes before a line break. -/
theorem lines_head (h : lines s = l :: ls) : ∃ rest, s = l ++ rest ∧ (rest = [] ∨ '\n' ∈ rest.head? ∨ '\r' ∈ rest.head?) := by
  fun_induction lines s generalizing l ls with
  | case1 =>
    cases h
    exact ⟨[], rfl, .inl rfl⟩
  | case2 s =>
    cases h
    exact ⟨'\n' :: s, rfl, .inr (.inl rfl)⟩
  | case3 s =>
    cases h
    exact ⟨'\r' :: '\n' :: s, rfl, .inr (.inr rfl)⟩
  | case4 c s _ _ ih =>
    cases hs : lines s with
    | nil => exact absurd hs (lines_ne_nil s)
    | cons l' ls' =>
      rw [hs] at h
      cases h
      obtain ⟨rest, rfl, hrest⟩ := ih hs
      exact ⟨rest, rfl, hrest⟩

/-- A word without line breaks that begins a text begins its first line. -/
theorem prefix_line (hn : '\n' ∉ w) (hr : '\r' ∉ w) (h : lines s = l :: ls) : w <+: s ↔ w <+: l := by
  obtain ⟨rest, rfl, hrest⟩ := lines_head h
  constructor
  · intro hw
    cases rest with
    | nil => rwa [List.append_nil] at hw
    | cons c rest =>
      refine prefix_append_cons (fun hc => ?_) hw
      rcases hrest with hnil | hc' | hc'
      · cases hnil
      · cases hc'
        exact hn hc
      · cases hc'
        exact hr hc
  · exact fun hw => hw.trans (List.prefix_append l rest)

theorem infix_lines_iff (hne : w ≠ []) (hn : '\n' ∉ w) (hr : '\r' ∉ w) : w <:+: s ↔ ∃ l ∈ lines s, w <:+: l := by
  have hnot : ∀ {c : Char} (t : List Char), c ∉ w → ¬ w <+: c :: t := by
    intro c t hc hw
    rcases List.prefix_cons_iff.1 hw with rfl | ⟨t', rfl, -⟩
    · exact hne rfl
    · exact hc List.mem_cons_self
  have hnil : ¬ w <:+: [] := fun h => hne (List.infix_nil.1 h)
  fun_induction lines s with
  | case1 => simp
  | case2 s ih => simp [List.infix_cons_iff, hnot s hn, hnil, ih]
  | case3 s ih => simp [List.infix_cons_iff, hnot _ hr, hnot s hn, hnil, ih]
  | case4 c s hc hc' ih =>
    cases hs : lines s with
    | nil => exact absurd hs (lines_ne_nil s)
    | cons l ls =>
      rw [hs] at ih
      have hlines : lines (c :: s) = (c :: l) :: ls := by
        rw [lines.eq_4 c s hc hc', hs]
        rfl
      have hfirst : w <+: c :: s ↔ w <+: c :: l := prefix_line hn hr hlines
      simp only [List.infix_cons_iff, hfirst, ih, consLine, List.exists_mem_cons_iff, or_assoc]

/-- A word without `c` in texts that are joined by `c`. -/
theorem infix_intercalate_iff {c : Char} (hne : w ≠ []) (hc : c ∉ w) :
    w <:+: List.intercalate [c] ls ↔ ∃ l ∈ ls, w <:+: l := by
  induction ls with
  | nil => simpa [List.intercalate] using hne
  | cons l ls ih =>
    cases ls with
    | nil => simp [List.intercalate]
    | cons l' ls' =>
      have hjoin : List.intercalate [c] (l :: l' :: ls') = l ++ c :: List.intercalate [c] (l' :: ls') := by
        simp [List.intercalate]
      rw [hjoin, List.exists_mem_cons_iff, ← ih]
      constructor
      · exact infix_append_cons hc
      · rintro (h | h)
        · exact h.trans (List.prefix_append ..).isInfix
        · exact h.trans ((List.suffix_cons c _).trans (List.suffix_append l _)).isInfix

end

end ServiceLib
