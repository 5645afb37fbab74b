import Tactix.ZeroTrust.Flag
/-!
# The Zero-Trust gate

`zeroTrustGate.ts`. The chain is called inside the `try` that guards the lookup
of the flag. `gate_iff` says what follows: the one chain that should run is the
only one exactly when its call does not throw.
-/
open Tactix.Js ServiceLib

namespace Tactix.ZeroTrust

/-- The settings `authStandardChain` and `authStrictChain` of the application, and the
default chain `(r, s, n) => n()`. -/
inductive Chain where
  | authStandardChain
  | authStrictChain
  | default
  deriving DecidableEq

/-- Which chains the application has set. -/
structure App where
  authStandardChain : Bool
  authStrictChain : Bool

/-- What the call of a chain comes to. What it does with the request, the response and
`next` meanwhile is its own. -/
inductive Outcome where
  | returns
  | throws
  /-- It returns a promise, which is rejected later. -/
  | rejects
  deriving DecidableEq

/-- What `return` gave back to the caller. -/
inductive Returned where
  | value
  | rejectedPromise

/-- What the `try` block may throw. -/
inductive Thrown where
  | lookup (e : Error)
  | chain

abbrev Gate := Prog Unit Chain (fun _ => Outcome) Thrown

def call (c : Chain) : Gate Returned :=
  .await c fun
    | .returns => .ret .value
    | .throws => .raise .chain
    | .rejects => .ret .rejectedPromise

def App.standard (app : App) : Chain := if app.authStandardChain then .authStandardChain else .default

def App.strict (app : App) : Chain := if app.authStrictChain then .authStrictChain else app.standard

/-- `zt ? strict : standard`. -/
def App.chain (app : App) (zt : Bool) : Chain := if zt then app.strict else app.standard

/-- The middleware, from what `await getZeroTrustEnabled()` came to. -/
def zeroTrustGate (app : App) (flag : Except Error Bool) : Gate Returned :=
  Prog.orElse (do
    let zt ← Prog.ofExcept (flag.mapError .lookup)
    call (app.chain zt)) fun _ => call app.standard

/-- The chains that were called, in order. What each call comes to is up to the chain. -/
def called (behave : Chain → List Chain → Outcome) (calls : List Chain) (c : Chain) (out : Outcome)
    (calls' : List Chain) : Prop :=
  out = behave c calls ∧ calls' = calls ++ [c]

/-- A request through the gate, with the chains it called. -/
def Passes (behave : Chain → List Chain → Outcome) (app : App) (flag : Except Error Bool) (calls : List Chain) : Prop :=
  ∃ r, Prog.Exec (called behave) (fun _ _ => True) (zeroTrustGate app flag) () [] () calls r

/-- One chain is called, once, and it is the strict one when the flag is set and there
is one. -/
def OneChain (app : App) (zt : Bool) (calls : List Chain) : Prop :=
  (∃ c, calls = [c]) ∧ (zt = true → app.authStrictChain = true → calls = [.authStrictChain])

/-- The lookup of the flag never fails. -/
theorem getZeroTrustEnabled_ok {env : Env} {D : Type} {ans : D → (q : Query) → q.Reply → D → Prop}
    {passes : Memory → Memory → Prop} {m m' : Memory} {d d' : D} {flag : Except Error Bool}
    (h : Prog.Exec ans passes (getZeroTrustEnabled env) m d m' d' flag) :
    ∃ zt, flag = .ok zt := by
  obtain ⟨r, hres, rfl⟩ := Prog.exec_map.1 h
  suffices hr : ∃ c, r = .ok c by
    obtain ⟨c, rfl⟩ := hr
    exact ⟨c.val, rfl⟩
  have hres := Prog.exec_read.1 hres
  split at hres
  · exact ⟨_, hres.2.2⟩
  · split at hres
    · exact ⟨_, hres.2.2⟩
    · rcases Prog.exec_bind.1 hres with ⟨row, m₁, d₁, -, h'⟩ | ⟨e, h', -⟩
      · exact ⟨_, h'.2.2⟩
      · obtain ⟨row, hrow⟩ := Prog.exec_orElse_ret h'
        cases hrow

section
variable {behave : Chain → List Chain → Outcome} {app : App} {zt : Bool} {calls : List Chain}

/-- The chains a request runs: the chosen one, and the standard one after it when it throws. -/
theorem passes_iff : Passes behave app (.ok zt) calls ↔
    calls = if behave (app.chain zt) [] = .throws then [app.chain zt, app.standard] else [app.chain zt] := by
  constructor
  · rintro ⟨r, out, _, _, ⟨rfl, rfl⟩, -, h⟩
    cases hout : behave (app.chain zt) [] with
    | returns =>
      rw [hout] at h
      exact h.2.1
    | rejects =>
      rw [hout] at h
      exact h.2.1
    | throws =>
      rw [hout] at h
      obtain ⟨out, _, _, ⟨-, rfl⟩, -, h⟩ := h
      cases out <;> exact h.2.1
  · rintro rfl
    cases hout : behave (app.chain zt) [] with
    | returns => exact ⟨_, .returns, _, (), ⟨hout.symm, rfl⟩, trivial, rfl, rfl, rfl⟩
    | rejects => exact ⟨_, .rejects, _, (), ⟨hout.symm, rfl⟩, trivial, rfl, rfl, rfl⟩
    | throws =>
      cases hout' : behave app.standard [app.chain zt] with
      | returns =>
        exact ⟨_, .throws, _, (), ⟨hout.symm, rfl⟩, trivial, .returns, _, (), ⟨hout'.symm, rfl⟩, trivial, rfl, rfl, rfl⟩
      | rejects =>
        exact ⟨_, .throws, _, (), ⟨hout.symm, rfl⟩, trivial, .rejects, _, (), ⟨hout'.symm, rfl⟩, trivial, rfl, rfl, rfl⟩
      | throws =>
        exact ⟨_, .throws, _, (), ⟨hout.symm, rfl⟩, trivial, .throws, _, (), ⟨hout'.symm, rfl⟩, trivial, rfl, rfl, rfl⟩

end

/-- One chain runs, and it is the right one, exactly when the first chain that is
called does not throw. -/
theorem gate_iff (env : Env) (app : App) (behave : Chain → List Chain → Outcome) {D : Type}
    {ans : D → (q : Query) → q.Reply → D → Prop} {passes : Memory → Memory → Prop} {m m' : Memory} {d d' : D}
    {flag : Except Error Bool} {calls : List Chain} (h : Prog.Exec ans passes (getZeroTrustEnabled env) m d m' d' flag)
    (hp : Passes behave app flag calls) :
    ∃ zt, flag = .ok zt ∧ (OneChain app zt calls ↔ behave (app.chain zt) [] ≠ .throws) := by
  obtain ⟨zt, rfl⟩ := getZeroTrustEnabled_ok h
  refine ⟨zt, rfl, ?_⟩
  rw [passes_iff.1 hp]
  constructor
  · rintro ⟨⟨c, hc⟩, -⟩ ht
    rw [if_pos ht] at hc
    cases hc
  · intro ht
    rw [if_neg ht]
    refine ⟨⟨_, rfl⟩, fun hzt hs => ?_⟩
    simp [App.chain, App.strict, hzt, hs]

/-- The flag is set and the strict chain answers later with an error. -/
theorem gate_iff_sample : OneChain ⟨true, true⟩ true [.authStrictChain] := by
  have hflag : Prog.Exec served (fun _ _ => True) (getZeroTrustEnabled .sample) ⟨0, some ⟨true, 0, .DB⟩⟩ (some true)
      ⟨0, some ⟨true, 0, .DB⟩⟩ (some true) (.ok true) := ⟨rfl, rfl, rfl⟩
  obtain ⟨zt, hzt, h⟩ := gate_iff .sample ⟨true, true⟩ (fun _ _ => .rejects) hflag (passes_iff.2 rfl)
  cases hzt
  exact h.2 (by simp)

/-- The strict chain throws, and the standard chain runs in its place. -/
theorem strict_throws : ¬ ∀ (behave : Chain → List Chain → Outcome) app zt calls, Passes behave app (.ok zt) calls →
    OneChain app zt calls := by
  intro hall
  have hp : Passes (fun c _ => if c = .authStrictChain then .throws else .returns) ⟨true, true⟩ (.ok true)
      [.authStrictChain, .authStandardChain] := passes_iff.2 rfl
  obtain ⟨⟨c, hc⟩, -⟩ := hall _ _ _ _ hp
  cases hc

end Tactix.ZeroTrust
