import Mathlib.Data.List.Basic
/-!
# Dotted names and their patterns

A subject is cut into tokens at a separator. A pattern is cut the same way, and its
token `star` stands for one token that is not empty. `takes_splice` says when a
pattern made by putting `star` into a name takes the name with a text in its place.
-/

namespace ServiceLib

variable {α : Type} [DecidableEq α]

/-- A token of a pattern takes a token of a subject. -/
def takesToken (star : α) (p t : List α) : Bool := if p = [star] then t ≠ [] else t = p

def takesTokens (star : α) : (ps ts : List (List α)) → Bool
  | [], [] => true
  | p :: ps, t :: ts => takesToken star p t && takesTokens star ps ts
  | _, _ => false

/-- A pattern takes a subject. -/
def takes (sep star : α) (pattern subject : List α) : Bool :=
  takesTokens star (pattern.splitOn sep) (subject.splitOn sep)

theorem takesToken_star {star : α} {t : List α} : takesToken star [star] t = true ↔ t ≠ [] := by
  rw [takesToken, if_pos rfl, decide_eq_true_iff]

theorem takesToken_self (star : α) (t : List α) : takesToken star t t = true := by
  unfold takesToken
  split
  · rename_i h
    simp [h]
  · simp

/-- What a pattern and a subject begin with both makes no difference. -/
theorem takesTokens_append (star : α) (ts ps us : List (List α)) :
    takesTokens star (ts ++ ps) (ts ++ us) = takesTokens star ps us := by
  induction ts with
  | nil => rfl
  | cons t ts ih =>
    rw [List.cons_append, List.cons_append, takesTokens, takesToken_self, Bool.true_and, ih]

theorem takesTokens_self (star : α) (ts : List (List α)) : takesTokens star ts ts = true := by
  have h := takesTokens_append star ts [] []
  rwa [List.append_nil] at h

theorem takesTokens_length {star : α} {ps ts : List (List α)} (h : takesTokens star ps ts = true) :
    ps.length = ts.length := by
  induction ps generalizing ts with
  | nil =>
    cases ts with
    | nil => rfl
    | cons t ts => cases h
  | cons p ps ih =>
    cases ts with
    | nil => cases h
    | cons t ts =>
      rw [takesTokens, Bool.and_eq_true] at h
      rw [List.length_cons, List.length_cons, ih h.2]

theorem length_splitOn_pos (sep : α) (s : List α) : 0 < (s.splitOn sep).length :=
  List.length_pos_iff.2 (List.splitOn_ne_nil sep s)

/-- A text with a separator in it is more than one token. -/
theorem length_splitOn {sep : α} {s : List α} (h : (s.splitOn sep).length = 1) : sep ∉ s := by
  intro hmem
  obtain ⟨a, b, rfl⟩ := List.append_of_mem hmem
  rw [List.splitOn_append_cons_self, List.length_append] at h
  have ha := length_splitOn_pos sep a
  have hb := length_splitOn_pos sep b
  omega

/-- With `star` for the text between two separators the pattern takes the name just when
the text is one token. -/
theorem takes_splice {sep star : α} (hne : star ≠ sep) (pre text post : List α) :
    takes sep star (pre ++ sep :: ([star] ++ sep :: post)) (pre ++ sep :: (text ++ sep :: post)) = true ↔
      text ≠ [] ∧ sep ∉ text := by
  have hstar : [star].splitOn sep = [[star]] := List.splitOn_eq_singleton (by simpa using hne.symm)
  unfold takes
  rw [List.splitOn_append_cons_self, List.splitOn_append_cons_self, List.splitOn_append_cons_self,
    List.splitOn_append_cons_self, takesTokens_append, hstar]
  constructor
  · intro h
    have hlen := takesTokens_length h
    rw [List.length_append, List.length_append, List.length_singleton, Nat.add_right_cancel_iff] at hlen
    have hclear := length_splitOn hlen.symm
    rw [List.splitOn_eq_singleton hclear, List.singleton_append, List.singleton_append, takesTokens,
      Bool.and_eq_true, takesToken_star] at h
    exact ⟨h.1, hclear⟩
  · rintro ⟨htext, hclear⟩
    rw [List.splitOn_eq_singleton hclear, List.singleton_append, List.singleton_append, takesTokens,
      takesTokens_self, Bool.and_true]
    exact takesToken_star.2 htext

end ServiceLib
