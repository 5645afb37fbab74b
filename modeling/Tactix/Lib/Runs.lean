import Mathlib.Data.List.Infix
/-!
# Runs of a labelled step relation

A system is an initial state and a relation between a state, the action taken
in it and the next state. A theorem about every reachable state holds for
every order of the actions. `Guarded` keeps the steps whose action meets a
condition on the state before it.
-/

namespace ServiceLib

variable {S A : Type}

/-- States the steps reach from `init`. -/
inductive Reachable (step : S → A → S → Prop) (init : S) : S → Prop
  | refl : Reachable step init init
  | step {s s' : S} {a : A} : Reachable step init s → step s a s' → Reachable step init s'

/-- The steps whose action `C` allows in the state before. -/
def Guarded (C : S → A → Prop) (step : S → A → S → Prop) (s : S) (a : A) (s' : S) : Prop :=
  C s a ∧ step s a s'

namespace Reachable
variable {step : S → A → S → Prop} {init : S}

/-- What holds at first and is kept by every step holds in every reachable state. -/
theorem inv {I : S → Prop} (h0 : I init) (hs : ∀ s a s', I s → step s a s' → I s') {s : S}
    (h : Reachable step init s) : I s := by
  induction h with
  | refl => exact h0
  | step _ ht ih => exact hs _ _ _ ih ht

theorem trans {s t : S} (h : Reachable step init s) (h' : Reachable step s t) : Reachable step init t := by
  induction h' with
  | refl => exact h
  | step _ ht ih => exact .step ih ht

/-- One more step of a run, by its action. -/
theorem next {s s' : S} (h : Reachable step init s) (a : A) (ht : step s a s') : Reachable step init s' := h.step ht

theorem nextGuarded {C : S → A → Prop} {s s' : S} (h : Reachable (Guarded C step) init s) (a : A) (hC : C s a)
    (ht : step s a s') : Reachable (Guarded C step) init s' := h.step ⟨hC, ht⟩

theorem forget {C : S → A → Prop} {s : S} (h : Reachable (Guarded C step) init s) : Reachable step init s := by
  induction h with
  | refl => exact .refl
  | step _ ht ih => exact .step ih ht.2

/-- A condition that always holds guards nothing. -/
theorem guarded {C : S → A → Prop} (hC : ∀ s a, C s a) {s : S} (h : Reachable step init s) :
    Reachable (Guarded C step) init s := by
  induction h with
  | refl => exact .refl
  | step _ ht ih => exact .step ih ⟨hC _ _, ht⟩

end Reachable

/-! ## Observers -/

section
variable {O : Type}

/-- The steps with an observer, who notes what `see` makes of each action and the state before it. -/
def Watching (see : S → A → O → O) (step : S → A → S → Prop) (s : S × O) (a : A) (s' : S × O) : Prop :=
  step s.1 a s'.1 ∧ s'.2 = see s.1 a s.2

namespace Reachable
variable {see : S → A → O → O} {step : S → A → S → Prop} {init : S} {o : O}

theorem unwatched {s : S × O} (h : Reachable (Watching see step) (init, o) s) : Reachable step init s.1 := by
  induction h with
  | refl => exact .refl
  | step _ ht ih => exact ih.step ht.1

/-- Every run can be watched. -/
theorem watched {s : S} (see : S → A → O → O) (o : O) (h : Reachable step init s) :
    ∃ o', Reachable (Watching see step) (init, o) (s, o') := by
  induction h with
  | refl => exact ⟨o, .refl⟩
  | step _ ht ih =>
    obtain ⟨o', ih⟩ := ih
    exact ⟨_, ih.step ⟨ht, rfl⟩⟩

theorem nextWatched {s s' : S} {o' : O} (h : Reachable (Watching see step) (init, o) (s, o')) (a : A) (ht : step s a s') :
    Reachable (Watching see step) (init, o) (s', see s a o') := h.step ⟨ht, rfl⟩

/-- One more step of a run whose guard reads what has been noted. -/
theorem nextNoted {C : S × O → A → Prop} {s s' : S} {o' : O}
    (h : Reachable (Guarded C (Watching see step)) (init, o) (s, o')) (a : A) (hC : C (s, o') a) (ht : step s a s') :
    Reachable (Guarded C (Watching see step)) (init, o) (s', see s a o') := h.step ⟨hC, ht, rfl⟩

end Reachable
end

/-! ## Steps that are functions -/

section
variable {next : S → A → S} {init : S} {I G : S → Prop} {C : S → A → Prop}

/-- When a right step keeps the invariant `I`, it holds along a run of right steps. -/
theorem inv_of_steps {P : S → A → Prop} (h0 : I init) (hkeep : ∀ s a, I s → P s a → I (next s a)) {actions : List A}
    (h : ∀ done a, done ++ [a] <+: actions → P (done.foldl next init) a) :
    ∀ done, done <+: actions → I (done.foldl next init) := by
  intro done hdone
  induction done using List.reverseRecOn with
  | nil => exact h0
  | append_singleton done a ih =>
    rw [List.foldl_append, List.foldl_cons, List.foldl_nil]
    exact hkeep _ a (ih ((List.prefix_append done [a]).trans hdone)) (h done a hdone)

/-- When a step from a state of the invariant `I` keeps it just as far as it meets `C`, and the
good states tell, all states of a run are good just when all its steps meet `C`. -/
theorem good_iff_meets (h0 : I init) (hgood : ∀ s, I s → G s) (hkeep : ∀ s a, I s → C s a → I (next s a))
    (hback : ∀ s a, I s → G (next s a) → C s a) (actions : List A) :
    (∀ done, done <+: actions → G (done.foldl next init)) ↔
      ∀ done a, done ++ [a] <+: actions → C (done.foldl next init) a := by
  constructor
  · intro h
    have hnext : ∀ done a, done ++ [a] <+: actions → G (next (done.foldl next init) a) := by
      intro done a hdone
      have hg := h _ hdone
      rwa [List.foldl_append, List.foldl_cons, List.foldl_nil] at hg
    have hinv := inv_of_steps h0 (fun s a hs hg => hkeep s a hs (hback s a hs hg)) hnext
    intro done a hdone
    exact hback _ a (hinv done ((List.prefix_append done [a]).trans hdone)) (hnext done a hdone)
  · intro h done hdone
    exact hgood _ (inv_of_steps h0 hkeep h done hdone)

/-- When a step from a state of the invariant is right just as it meets `C`, all steps of a run
are right just when they all meet `C`. -/
theorem steps_iff_meets {P : S → A → Prop} (h0 : I init) (hiff : ∀ s a, I s → (P s a ↔ C s a))
    (hkeep : ∀ s a, I s → P s a → I (next s a)) (actions : List A) :
    (∀ done a, done ++ [a] <+: actions → P (done.foldl next init) a) ↔
      ∀ done a, done ++ [a] <+: actions → C (done.foldl next init) a := by
  constructor
  · intro h done a hdone
    have hinv := inv_of_steps h0 hkeep h done ((List.prefix_append done [a]).trans hdone)
    exact (hiff _ a hinv).1 (h done a hdone)
  · intro h done a hdone
    have hinv := inv_of_steps h0 (fun s a hs hc => hkeep s a hs ((hiff s a hs).2 hc)) h done
      ((List.prefix_append done [a]).trans hdone)
    exact (hiff _ a hinv).2 (h done a hdone)

end

end ServiceLib
