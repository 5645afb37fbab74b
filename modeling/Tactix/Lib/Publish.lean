import Mathlib.Data.List.Infix
import Mathlib.Logic.Function.Basic
import Tactix.Lib.Runs
/-!
# Publishing to subscribers that call back

A value and the functions that are told about it. A write calls the subscribers one after
the other, by their places in the array, and each may subscribe, unsubscribe or write
before it returns. `kept_step` says which removals leave nobody behind.
-/

namespace ServiceLib

/-- A call under way: a subscriber's, or a walk over the subscribers that has `next` ahead
and goes on up to `len`, the length the array had when it began. -/
inductive Frame (F : Type) where
  | callback (fn : F)
  | forEach (next len : Nat)

/-- `latest` is what a function was called with last. -/
structure Channel (F V : Type) where
  subs : List F
  value : V
  latest : F → Option V
  stack : List (Frame F)

namespace Channel
variable {F V W : Type} [DecidableEq F]

def init (value : V) : Channel F V := ⟨[], value, fun _ => none, []⟩

inductive Call (F W : Type) where
  | subscribe (fn : F)
  | unsubscribe (fn : F)
  | write (w : W)

inductive Action (F W : Type) where
  | call (k : Call F W)
  | visit
  | ret

/-- `fn(value)`. -/
def invoke (c : Channel F V) (fn : F) : Channel F V :=
  { c with latest := Function.update c.latest fn (some c.value), stack := .callback fn :: c.stack }

variable (apply : V → W → V)

def call (c : Channel F V) : Call F W → Channel F V
  | .subscribe fn => { c with subs := c.subs ++ [fn] }.invoke fn
  | .unsubscribe fn => { c with subs := c.subs.eraseIdx (c.subs.idxOf fn) }
  | .write w => { c with value := apply c.value w, stack := .forEach 0 c.subs.length :: c.stack }

/-- The walk comes to its next place. A place past the end of the array is passed over. -/
def visit (c : Channel F V) (next len : Nat) (rest : List (Frame F)) : Channel F V :=
  if next < len then
    match c.subs[next]? with
    | some fn => { c with stack := .forEach (next + 1) len :: rest }.invoke fn
    | none => { c with stack := .forEach (next + 1) len :: rest }
  else { c with stack := rest }

/-- Calls are made from outside, or by the subscriber that runs. -/
inductive Step : Channel F V → Action F W → Channel F V → Prop
  | outside {c : Channel F V} {k : Call F W} : c.stack = [] → Step c (.call k) (c.call apply k)
  | inside {c : Channel F V} {k : Call F W} {fn : F} {rest : List (Frame F)} : c.stack = .callback fn :: rest →
      Step c (.call k) (c.call apply k)
  | visit {c : Channel F V} {next len : Nat} {rest : List (Frame F)} : c.stack = .forEach next len :: rest →
      Step c .visit (c.visit next len rest)
  | ret {c : Channel F V} {fn : F} {rest : List (Frame F)} : c.stack = .callback fn :: rest →
      Step c .ret { c with stack := rest }

/-- The writes of a run, in call order. -/
def written (_ : Channel F V) (a : Action F W) (writes : List W) : List W :=
  match a with
  | .call (.write w) => writes ++ [w]
  | _ => writes

/-! ## Who is still to be called -/

/-- A walk is yet to come to this place. -/
def Pending (c : Channel F V) (j : Nat) : Prop := ∃ next len, .forEach next len ∈ c.stack ∧ next ≤ j ∧ j < len

/-- Each place has the value or is still to be called. -/
def Kept (c : Channel F V) : Prop := ∀ j fn, c.subs[j]? = some fn → c.latest fn = some c.value ∨ c.Pending j

/-- Removing a function moves those behind it one place up: each has the value, or is still to be called there. -/
def Meets (c : Channel F V) : Action F W → Prop
  | .call (.unsubscribe fn) => ∀ j g, c.subs.idxOf fn < j → c.subs[j]? = some g →
      c.latest g = some c.value ∨ c.Pending (j - 1)
  | _ => True

/-- With no call under way everyone has the value, and the value is what the writes make of the first one. -/
structure Told (value : V) (writes : List W) (c : Channel F V) : Prop where
  latest : c.stack = [] → ∀ fn ∈ c.subs, c.latest fn = some c.value
  value : c.value = writes.foldl apply value

/-! ## What a step keeps -/

section
variable {apply} {c c' : Channel F V}

omit [DecidableEq F] in
theorem kept_init (value : V) : (init value : Channel F V).Kept := by
  intro j fn h
  cases h

/-- A call leaves everyone but the function it is of as they were. -/
theorem kept_invoke {fn : F} (h : ∀ j g, c.subs[j]? = some g → g = fn ∨ c.latest g = some c.value ∨ c.Pending j) :
    (c.invoke fn).Kept := by
  intro j g hj
  by_cases hg : g = fn
  · left
    rw [hg]
    exact Function.update_self ..
  · rcases (h j g hj).resolve_left hg with hlatest | ⟨next, len, hm, hb⟩
    · exact .inl ((Function.update_of_ne hg ..).trans hlatest)
    · exact .inr ⟨next, len, List.mem_cons_of_mem _ hm, hb⟩

theorem Kept.subscribe (h : c.Kept) (fn : F) : (c.call apply (.subscribe fn)).Kept := by
  apply kept_invoke
  intro j g hj
  rcases Nat.lt_or_ge j c.subs.length with hlt | hge
  · rw [List.getElem?_append_left hlt] at hj
    exact .inr (h j g hj)
  · rw [List.getElem?_append_right hge] at hj
    exact .inl (List.mem_singleton.1 (List.mem_of_getElem? hj))

theorem Kept.unsubscribe (h : c.Kept) {fn : F} (hmeets : c.Meets (.call (.unsubscribe fn) : Action F W)) :
    (c.call apply (.unsubscribe fn)).Kept := by
  intro j g hj
  change (c.subs.eraseIdx (c.subs.idxOf fn))[j]? = some g at hj
  rw [List.getElem?_eraseIdx] at hj
  split at hj
  · exact h j g hj
  · rename_i hlt
    exact hmeets (j + 1) g (by omega) hj

/-- A walk from the first place comes to everyone. -/
theorem kept_write (c : Channel F V) (w : W) : (c.call apply (.write w)).Kept := by
  intro j g hj
  have hlt : j < c.subs.length := (List.getElem?_eq_some_iff.1 hj).1
  exact .inr ⟨0, c.subs.length, List.mem_cons_self .., Nat.zero_le j, hlt⟩

theorem Kept.visit (h : c.Kept) {next len : Nat} {rest : List (Frame F)} (hstack : c.stack = .forEach next len :: rest) :
    (c.visit next len rest).Kept := by
  have hpending : ∀ j, c.Pending j → (next ≤ j ∧ j < len) ∨ ∃ n l, .forEach n l ∈ rest ∧ n ≤ j ∧ j < l := by
    rintro j ⟨n, l, hm, hb⟩
    rw [hstack] at hm
    rcases List.mem_cons.1 hm with heq | hm
    · cases heq
      exact .inl hb
    · exact .inr ⟨n, l, hm, hb⟩
  unfold Channel.visit
  split
  · split
    · rename_i fn hfn
      apply kept_invoke
      intro j g hj
      by_cases hnext : j = next
      · rw [hnext] at hj
        exact .inl (Option.some.inj (hj.symm.trans hfn))
      · refine .inr ((h j g hj).imp_right fun hp => ?_)
        rcases hpending j hp with ⟨hle, hlt⟩ | ⟨n, l, hm, hb⟩
        · exact ⟨next + 1, len, List.mem_cons_self .., by omega, hlt⟩
        · exact ⟨n, l, List.mem_cons_of_mem _ hm, hb⟩
    · rename_i hnone
      intro j g hj
      refine (h j g hj).imp_right fun hp => ?_
      rcases hpending j hp with ⟨hle, hlt⟩ | ⟨n, l, hm, hb⟩
      · have hlen : j < c.subs.length := (List.getElem?_eq_some_iff.1 hj).1
        have hout : c.subs.length ≤ next := List.getElem?_eq_none_iff.1 hnone
        omega
      · exact ⟨n, l, List.mem_cons_of_mem _ hm, hb⟩
  · rename_i hend
    intro j g hj
    refine (h j g hj).imp_right fun hp => ?_
    rcases hpending j hp with ⟨hle, hlt⟩ | hrest
    · omega
    · exact hrest

omit [DecidableEq F] in
theorem Kept.ret (h : c.Kept) {fn : F} {rest : List (Frame F)} (hstack : c.stack = .callback fn :: rest) :
    Kept { c with stack := rest } := by
  intro j g hj
  refine (h j g hj).imp_right fun ⟨n, l, hm, hb⟩ => ?_
  rw [hstack] at hm
  rcases List.mem_cons.1 hm with heq | hm
  · cases heq
  · exact ⟨n, l, hm, hb⟩

theorem Kept.call (h : c.Kept) {k : Call F W} (hmeets : c.Meets (.call k)) : (c.call apply k).Kept := by
  cases k with
  | subscribe fn => exact h.subscribe fn
  | unsubscribe fn => exact h.unsubscribe hmeets
  | write w => exact kept_write c w

/-- Every step keeps it that meets the condition. -/
theorem Kept.step (h : c.Kept) {a : Action F W} (hmeets : c.Meets a) (hs : Step apply c a c') : c'.Kept := by
  cases hs with
  | outside _ => exact h.call hmeets
  | inside _ => exact h.call hmeets
  | visit hstack => exact h.visit hstack
  | ret hstack => exact h.ret hstack

/-- The value is what the writes make of the first one. -/
theorem value_step {value : V} {writes : List W} (h : c.value = writes.foldl apply value) {a : Action F W}
    (hs : Step apply c a c') : c'.value = (written c a writes).foldl apply value := by
  have hcall : ∀ k, (c.call apply k).value = (written c (.call k) writes).foldl apply value := by
    intro k
    cases k with
    | subscribe fn => exact h
    | unsubscribe fn => exact h
    | write w =>
      change apply c.value w = (writes ++ [w]).foldl apply value
      rw [List.foldl_append, ← h]
      rfl
  cases hs with
  | outside _ => exact hcall _
  | inside _ => exact hcall _
  | visit _ =>
    unfold Channel.visit
    split
    · split
      · exact h
      · exact h
    · exact h
  | ret _ => exact h

omit [DecidableEq F] in
theorem Kept.told (h : c.Kept) {value : V} {writes : List W} (hvalue : c.value = writes.foldl apply value) :
    Told apply value writes c := by
  refine ⟨fun hstack fn hfn => ?_, hvalue⟩
  obtain ⟨j, hj⟩ := List.mem_iff_getElem?.1 hfn
  rcases h j fn hj with hlatest | ⟨n, l, hm, -⟩
  · exact hlatest
  · rw [hstack] at hm
    cases hm

/-- In every run whose removals leave nobody behind, everyone is told what its writes make of the first value. -/
theorem told_of_reachable (value : V) {writes : List W}
    (h : Reachable (Watching written (Guarded Meets (Step apply))) (init value, []) (c, writes)) : Told apply value writes c := by
  have hinv : c.Kept ∧ c.value = writes.foldl apply value := by
    refine h.inv (I := fun p => p.1.Kept ∧ p.1.value = p.2.foldl apply value) ⟨kept_init value, rfl⟩ ?_
    rintro p a ⟨c', writes'⟩ ⟨hkept, hvalue⟩ ⟨⟨hmeets, hs⟩, rfl⟩
    exact ⟨hkept.step hmeets hs, value_step hvalue hs⟩
  exact hinv.1.told hinv.2

end

end Channel

end ServiceLib
