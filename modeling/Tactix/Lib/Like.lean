import Mathlib.Data.List.Infix
/-!
# LIKE patterns

A pattern of SQL: `%` stands for any text, `_` for any character, and a character
behind a backslash for itself. `like_around` says what a text between two `%`
matches when it holds none of the three, and `filled` is a text that matches a
pattern made of any other.
-/

namespace ServiceLib

/-- `s LIKE p`. Nothing matches a pattern that ends inside an escape. -/
def like : (p s : List Char) → Bool
  | [], s => s.isEmpty
  | '%' :: p, s => s.tails.any (like p)
  | '_' :: p, s => !s.isEmpty && like p s.tail
  | '\\' :: c :: p, s => s.head? == some c && like p s.tail
  | ['\\'], _ => false
  | c :: p, s => s.head? == some c && like p s.tail

/-- The characters a pattern reads as more than themselves. -/
def isWild (c : Char) : Bool := c = '%' || c = '_' || c = '\\'

theorem like_percent {p s : List Char} : like ('%' :: p) s = true ↔ ∃ t, t <:+ s ∧ like p t = true := by
  rw [like, List.any_eq_true]
  simp only [List.mem_tails]

theorem isWild_false {c : Char} (h : isWild c = false) : c ≠ '%' ∧ c ≠ '_' ∧ c ≠ '\\' := by
  simpa [isWild, and_assoc] using h

theorem head_tail_iff {α : Type} [BEq α] [LawfulBEq α] {c : α} {s : List α} {f : List α → Bool} :
    (s.head? == some c && f s.tail) = true ↔ ∃ t, s = c :: t ∧ f t = true := by
  cases s with
  | nil => simp
  | cons x s =>
    simp only [List.head?_cons, List.tail_cons, Bool.and_eq_true, beq_iff_eq, Option.some.injEq, List.cons.injEq]
    constructor
    · rintro ⟨rfl, h⟩
      exact ⟨s, ⟨rfl, rfl⟩, h⟩
    · rintro ⟨t, ⟨rfl, rfl⟩, h⟩
      exact ⟨rfl, h⟩

theorem like_char {c : Char} (hc : isWild c = false) {p s : List Char} :
    like (c :: p) s = true ↔ ∃ t, s = c :: t ∧ like p t = true := by
  obtain ⟨h1, h2, h3⟩ := isWild_false hc
  rw [like, head_tail_iff]
  · exact h1
  · exact h2
  · exact fun _ _ h _ => h3 h
  · exact fun h _ => h3 h

/-- Characters that are not wild match themselves. -/
theorem like_append {q : List Char} (hq : ∀ c ∈ q, isWild c = false) {p s : List Char} :
    like (q ++ p) s = true ↔ ∃ t, s = q ++ t ∧ like p t = true := by
  induction q generalizing s with
  | nil => simp
  | cons c q ih =>
    rw [List.forall_mem_cons] at hq
    rw [List.cons_append, like_char hq.1]
    constructor
    · rintro ⟨t, rfl, ht⟩
      obtain ⟨u, rfl, hu⟩ := (ih hq.2).1 ht
      exact ⟨u, rfl, hu⟩
    · rintro ⟨t, rfl, ht⟩
      exact ⟨q ++ t, rfl, (ih hq.2).2 ⟨t, rfl, ht⟩⟩

theorem like_all (s : List Char) : like ['%'] s = true :=
  like_percent.2 ⟨[], List.nil_suffix, rfl⟩

/-- A text that is not wild, between two `%`, matches where it occurs. -/
theorem like_around {q : List Char} (hq : ∀ c ∈ q, isWild c = false) (s : List Char) :
    like ('%' :: (q ++ ['%'])) s = true ↔ q <:+: s := by
  rw [like_percent]
  constructor
  · rintro ⟨t, ⟨u, rfl⟩, ht⟩
    obtain ⟨v, rfl, -⟩ := (like_append hq).1 ht
    exact ⟨u, v, by rw [List.append_assoc]⟩
  · rintro ⟨u, v, rfl⟩
    exact ⟨q ++ v, ⟨u, by rw [List.append_assoc]⟩, (like_append hq).2 ⟨v, rfl, like_all v⟩⟩

/-! ## A text for a pattern -/

/-- A text that matches: nothing for `%`, the letter `a` for `_`. -/
def filled : List Char → List Char
  | [] => []
  | '%' :: p => filled p
  | '_' :: p => 'a' :: filled p
  | '\\' :: c :: p => c :: filled p
  | ['\\'] => []
  | c :: p => c :: filled p

theorem filled_char {c : Char} (hc : isWild c = false) (p : List Char) : filled (c :: p) = c :: filled p := by
  obtain ⟨h1, h2, h3⟩ := isWild_false hc
  rw [filled]
  · exact h1
  · exact h2
  · exact fun _ _ h _ => h3 h
  · exact fun h _ => h3 h

/-- What is left when a pattern does not begin with a wild character. -/
theorem isWild_rest {c : Char} {p : List Char} (h1 : c ≠ '%') (h2 : c ≠ '_') (h3 : ∀ d r, c = '\\' → p = d :: r → False)
    (h4 : c = '\\' → p = [] → False) : isWild c = false := by
  have h5 : c ≠ '\\' := by
    rintro rfl
    cases p with
    | nil => exact h4 rfl rfl
    | cons d r => exact h3 d r rfl rfl
  simp [isWild, h1, h2, h5]

theorem like_filled (q : List Char) : like (q ++ ['%']) (filled (q ++ ['%'])) = true := by
  fun_induction filled q with
  | case1 => rfl
  | case2 p ih => exact like_percent.2 ⟨_, List.suffix_refl _, ih⟩
  | case3 p ih => exact ih
  | case4 c p ih => exact head_tail_iff.2 ⟨_, rfl, ih⟩
  | case5 => rfl
  | case6 c p h1 h2 h3 h4 ih =>
    have hc := isWild_rest h1 h2 h3 h4
    rw [List.cons_append, filled_char hc]
    exact (like_char hc).2 ⟨_, rfl, ih⟩

/-- It is not longer than the pattern, and another text when a character of it is wild. -/
theorem filled_short (q : List Char) : (filled (q ++ ['%'])).length ≤ q.length ∧
    ((∃ c ∈ q, isWild c = true) → filled (q ++ ['%']) ≠ q) := by
  fun_induction filled q with
  | case1 =>
    refine ⟨Nat.le_refl 0, ?_⟩
    rintro ⟨c, hc, -⟩
    exact absurd hc List.not_mem_nil
  | case2 p ih =>
    have hlen : (filled ('%' :: p ++ ['%'])).length ≤ p.length := ih.1
    refine ⟨Nat.le_succ_of_le hlen, fun _ he => ?_⟩
    rw [he, List.length_cons] at hlen
    omega
  | case3 p ih =>
    refine ⟨Nat.succ_le_succ ih.1, fun _ he => ?_⟩
    exact absurd (List.cons.inj he).1 (by decide)
  | case4 c p ih =>
    have hlen : (filled ('\\' :: c :: p ++ ['%'])).length ≤ p.length + 1 := Nat.succ_le_succ ih.1
    refine ⟨Nat.le_succ_of_le hlen, fun _ he => ?_⟩
    rw [he, List.length_cons, List.length_cons] at hlen
    omega
  | case5 => exact ⟨Nat.le_refl 1, fun _ he => absurd he (by decide)⟩
  | case6 c p h1 h2 h3 h4 ih =>
    have hc := isWild_rest h1 h2 h3 h4
    rw [List.cons_append, filled_char hc]
    refine ⟨Nat.succ_le_succ ih.1, ?_⟩
    rintro ⟨d, hd, hwild⟩ he
    rcases List.mem_cons.1 hd with rfl | hd
    · rw [hc] at hwild
      cases hwild
    · exact ih.2 ⟨d, hd, hwild⟩ (List.cons.inj he).2

/-- A wild text, between two `%`, matches a text it does not occur in. -/
theorem like_elsewhere {q : List Char} (hq : ∃ c ∈ q, isWild c = true) :
    like ('%' :: (q ++ ['%'])) (filled (q ++ ['%'])) = true ∧ ¬ q <:+: filled (q ++ ['%']) := by
  obtain ⟨hlen, hne⟩ := filled_short q
  exact ⟨like_percent.2 ⟨_, List.suffix_refl _, like_filled q⟩, fun hi => hne hq (hi.eq_of_length_le hlen).symm⟩

/-- It is made of characters of the pattern and of `a`. -/
theorem mem_filled {q : List Char} {c : Char} (h : c ∈ filled q) : c ∈ q ∨ c = 'a' := by
  fun_induction filled q with
  | case1 => exact absurd h List.not_mem_nil
  | case2 p ih => exact (ih h).imp_left (List.mem_cons_of_mem _)
  | case3 p ih =>
    rcases List.mem_cons.1 h with rfl | h
    · exact .inr rfl
    · exact (ih h).imp_left (List.mem_cons_of_mem _)
  | case4 d p ih =>
    rcases List.mem_cons.1 h with rfl | h
    · exact .inl (by simp)
    · exact (ih h).imp_left fun hm => List.mem_cons_of_mem _ (List.mem_cons_of_mem _ hm)
  | case5 => exact absurd h List.not_mem_nil
  | case6 d p h1 h2 h3 h4 ih =>
    rcases List.mem_cons.1 h with rfl | h
    · exact .inl (List.mem_cons_self ..)
    · exact (ih h).imp_left (List.mem_cons_of_mem _)

end ServiceLib
