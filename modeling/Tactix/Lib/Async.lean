import Mathlib.Logic.Basic
/-!
# Asynchronous functions

The body of an `async` function over a shared memory `M`. It asks queries `Q`
of the world outside and waits for their replies; between two waits it runs
alone. `Exec` is one call with no other in between, and `wp` is what a call
guarantees when others run while it waits.
-/

namespace ServiceLib

/-- An `async` function: it returns a value or throws an error. -/
inductive Prog (M Q : Type) (R : Q → Type) (E α : Type) : Type where
  | ret (a : α)
  | raise (e : E)
  | get (k : M → Prog M Q R E α)
  | set (m : M) (k : Prog M Q R E α)
  | await (q : Q) (k : R q → Prog M Q R E α)

namespace Prog
variable {M Q : Type} {R : Q → Type} {E α β : Type}

protected def bind : Prog M Q R E α → (α → Prog M Q R E β) → Prog M Q R E β
  | ret a, f => f a
  | raise e, _ => raise e
  | get k, f => get fun m => (k m).bind f
  | set m k, f => set m (k.bind f)
  | await q k, f => await q fun a => (k a).bind f

/-- What the call comes to, its error included. -/
def attempt : Prog M Q R E α → Prog M Q R E (Except E α)
  | ret a => ret (.ok a)
  | raise e => ret (.error e)
  | get k => get fun m => (k m).attempt
  | set m k => set m k.attempt
  | await q k => await q fun a => (k a).attempt

instance : Monad (Prog M Q R E) where
  pure := ret
  bind := Prog.bind

/-- `await q`. -/
def ask (q : Q) : Prog M Q R E (R q) := await q ret

def read : Prog M Q R E M := get ret

def write (m : M) : Prog M Q R E Unit := set m (ret ())

def ofExcept : Except E α → Prog M Q R E α
  | .ok a => ret a
  | .error e => raise e

/-- `try p catch (e) h`. -/
def orElse (p : Prog M Q R E α) (h : E → Prog M Q R E α) : Prog M Q R E α :=
  p.attempt.bind fun
    | .ok a => ret a
    | .error e => h e

/-- `try p finally f`: an error of `f` replaces what `p` came to. -/
def andFinally (p : Prog M Q R E α) (f : Prog M Q R E Unit) : Prog M Q R E α :=
  p.attempt.bind fun r => f.bind fun _ => ofExcept r

@[simp] theorem ret_bind (a : α) (f : α → Prog M Q R E β) : (ret a >>= f) = f a := rfl

@[simp] theorem get_bind (k : M → Prog M Q R E α) (f : α → Prog M Q R E β) :
    (get k >>= f) = get fun m => k m >>= f := rfl

/-! ## One call at a time -/

section
variable {D : Type} (ans : D → (q : Q) → R q → D → Prop) (passes : M → M → Prop)

/-- A run of `p` from memory `m` and data `d` that ends with `r`. `ans` is how the
world replies to a query, and `passes` what becomes of the memory meanwhile. -/
def Exec : Prog M Q R E α → M → D → M → D → Except E α → Prop
  | ret a, m, d, m', d', r => m' = m ∧ d' = d ∧ r = .ok a
  | raise e, m, d, m', d', r => m' = m ∧ d' = d ∧ r = .error e
  | get k, m, d, m', d', r => Exec (k m) m d m' d' r
  | set m₁ k, _, d, m', d', r => Exec k m₁ d m' d' r
  | await q k, m, d, m', d', r => ∃ a d₁ m₁, ans d q a d₁ ∧ passes m m₁ ∧ Exec (k a) m₁ d₁ m' d' r

variable {ans passes}

/-- A wait whose reply is `a`. -/
theorem exec_await {q : Q} {k : R q → Prog M Q R E α} {m m₁ m' : M} {d d₁ d' : D} {r : Except E α} (a : R q)
    (ha : ans d q a d₁) (hp : passes m m₁) (h : Exec ans passes (k a) m₁ d₁ m' d' r) :
    Exec ans passes (await q k) m d m' d' r :=
  ⟨a, d₁, m₁, ha, hp, h⟩

theorem exec_read {f : M → Prog M Q R E β} {m m' : M} {d d' : D} {r : Except E β} :
    Exec ans passes (read >>= f) m d m' d' r ↔ Exec ans passes (f m) m d m' d' r := Iff.rfl

/-- A run of `p` and then of `f` on its value, or one in which `p` throws. -/
theorem exec_bind {p : Prog M Q R E α} {f : α → Prog M Q R E β} {m m' : M} {d d' : D} {r : Except E β} :
    Exec ans passes (p >>= f) m d m' d' r ↔
      (∃ a m₁ d₁, Exec ans passes p m d m₁ d₁ (.ok a) ∧ Exec ans passes (f a) m₁ d₁ m' d' r) ∨
      ∃ e, Exec ans passes p m d m' d' (.error e) ∧ r = .error e := by
  induction p generalizing m d with
  | ret a =>
    constructor
    · exact fun h => .inl ⟨a, m, d, ⟨rfl, rfl, rfl⟩, h⟩
    · rintro (⟨_, _, _, ⟨rfl, rfl, h⟩, h'⟩ | ⟨e, ⟨-, -, h⟩, -⟩)
      · cases h; exact h'
      · cases h
  | raise e =>
    constructor
    · rintro ⟨rfl, rfl, rfl⟩
      exact .inr ⟨e, ⟨rfl, rfl, rfl⟩, rfl⟩
    · rintro (⟨_, _, _, ⟨-, -, h⟩, -⟩ | ⟨_, ⟨rfl, rfl, h⟩, rfl⟩)
      · cases h
      · cases h; exact ⟨rfl, rfl, rfl⟩
  | get k ih => exact ih m
  | set m₁ k ih => exact ih
  | await q k ih =>
    constructor
    · rintro ⟨a, d₁, m₁, ha, hp, h⟩
      rcases (ih a).1 h with ⟨b, m₂, d₂, hk, hf⟩ | ⟨e, hk, he⟩
      · exact .inl ⟨b, m₂, d₂, ⟨a, d₁, m₁, ha, hp, hk⟩, hf⟩
      · exact .inr ⟨e, ⟨a, d₁, m₁, ha, hp, hk⟩, he⟩
    · rintro (⟨b, m₂, d₂, ⟨a, d₁, m₁, ha, hp, hk⟩, hf⟩ | ⟨e, ⟨a, d₁, m₁, ha, hp, hk⟩, he⟩)
      · exact ⟨a, d₁, m₁, ha, hp, (ih a).2 (.inl ⟨b, m₂, d₂, hk, hf⟩)⟩
      · exact ⟨a, d₁, m₁, ha, hp, (ih a).2 (.inr ⟨e, hk, he⟩)⟩

theorem exec_map {p : Prog M Q R E α} {f : α → β} {m m' : M} {d d' : D} {r : Except E β} :
    Exec ans passes (p >>= fun a => pure (f a)) m d m' d' r ↔ ∃ r', Exec ans passes p m d m' d' r' ∧ r = r'.map f := by
  constructor
  · intro h
    rcases exec_bind.1 h with ⟨a, m₁, d₁, hp, rfl, rfl, rfl⟩ | ⟨e, hp, rfl⟩
    · exact ⟨_, hp, rfl⟩
    · exact ⟨_, hp, rfl⟩
  · rintro ⟨r', hp, rfl⟩
    cases r' with
    | ok a => exact exec_bind.2 (.inl ⟨a, m', d', hp, rfl, rfl, rfl⟩)
    | error e => exact exec_bind.2 (.inr ⟨e, hp, rfl⟩)

theorem exec_attempt {p : Prog M Q R E α} {m m' : M} {d d' : D} {r : Except E (Except E α)}
    (h : Exec ans passes p.attempt m d m' d' r) : ∃ r', r = .ok r' := by
  induction p generalizing m d with
  | ret a => exact ⟨_, h.2.2⟩
  | raise e => exact ⟨_, h.2.2⟩
  | get k ih => exact ih m h
  | set m₁ k ih => exact ih h
  | await q k ih =>
    obtain ⟨a, d₁, m₁, -, -, h⟩ := h
    exact ih a h

/-- A handler that returns leaves no error. -/
theorem exec_orElse_ret {p : Prog M Q R E α} {a : α} {m m' : M} {d d' : D} {r : Except E α}
    (h : Exec ans passes (p.orElse fun _ => ret a) m d m' d' r) : ∃ b, r = .ok b := by
  rcases exec_bind.1 h with ⟨x, m₁, d₁, -, h'⟩ | ⟨e, h', -⟩
  · cases x with
    | ok b => exact ⟨b, h'.2.2⟩
    | error e => exact ⟨a, h'.2.2⟩
  · obtain ⟨r', hr'⟩ := exec_attempt h'
    cases hr'

end

end Prog

end ServiceLib
