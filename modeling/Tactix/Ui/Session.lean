import Tactix.Js
import Tactix.Lib.Runs
/-!
# The session of the browser

The tokens of `App` in `app.tsx`, its `localStorage`, and the logins and refreshes under way. A
request that is under way when the user logs out is not taken back, and its answer is a session
again: `logout_final_iff` says when a logout is final.
-/
open Tactix.Js ServiceLib

namespace Tactix.Ui.Session

inductive Kind where
  | login
  | refresh
  deriving DecidableEq

/-- A request, and how many logouts there had been when it was sent. -/
structure Req where
  kind : Kind
  logouts : Nat

/-- `data.token` and `data.refreshToken` of an answer that is `ok`. -/
structure Tokens where
  token : Option String
  refreshToken : Option String

/-- A token that is `none` is `undefined`. The items of `localStorage` are `storedToken` and `storedRefresh`. -/
structure Tab where
  token : Option String
  refreshToken : Option String
  storedToken : Option String
  storedRefresh : Option String
  pending : List Req
  /-- The logouts so far, and the request whose answer the tokens are from. -/
  logouts : Nat
  source : Option Req

/-- `useState(localStorage.getItem(...) || '')`. -/
def load (storedToken storedRefresh : Option String) : Tab :=
  ⟨some (storedToken.getD ""), some (storedRefresh.getD ""), storedToken, storedRefresh, [], 0, none⟩

/-- `setItem` stores `undefined` as a text. -/
def itemText (v : Option String) : String := v.getD "undefined"

/-- `handleLogin`, and the `then` of a refresh. -/
def Tab.set (s : Tab) (r : Req) (data : Tokens) : Tab :=
  { s with
    token := data.token
    refreshToken := data.refreshToken
    storedToken := some (itemText data.token)
    storedRefresh := some (itemText data.refreshToken)
    source := some r }

def Tab.logout (s : Tab) : Tab :=
  { s with
    token := some ""
    refreshToken := some ""
    storedToken := none
    storedRefresh := none
    logouts := s.logouts + 1
    source := none }

def Tab.fetch (s : Tab) (kind : Kind) : Tab := { s with pending := s.pending ++ [⟨kind, s.logouts⟩] }

/-- What comes of an answer; `none` is one that is not `ok`, or no answer at all. -/
def Tab.handle (s : Tab) (r : Req) : Option Tokens → Tab
  | some data => s.set r data
  | none =>
    match r.kind with
    | .login => s
    | .refresh => s.logout

inductive Action where
  | submit
  | tick
  | answer (i : Nat) (data : Option Tokens)
  | logout
  | reload

inductive Step (s : Tab) : Action → Tab → Prop
  | submit : Step s .submit (s.fetch .login)
  /-- The interval is there as long as the refresh token is truthy. -/
  | tick : s.refreshToken.getD "" ≠ "" → Step s .tick (s.fetch .refresh)
  | answer {i : Nat} {r : Req} {data : Option Tokens} : s.pending[i]? = some r →
      Step s (.answer i data) ({ s with pending := s.pending.eraseIdx i }.handle r data)
  | logout : Step s .logout s.logout
  | reload : Step s .reload { load s.storedToken s.storedRefresh with logouts := s.logouts, source := s.source }

/-! ## After a logout -/

/-- Every request under way has been sent after as many logouts as there were then. -/
def Counted (s : Tab) : Prop := ∀ r ∈ s.pending, r.logouts ≤ s.logouts

/-- Since the logout that made them `n`, nothing older has come back. -/
structure Since (n : Nat) (s : Tab) : Prop where
  logouts : n ≤ s.logouts
  pending : ∀ r ∈ s.pending, n ≤ r.logouts
  source : ∀ r ∈ s.source, n ≤ r.logouts
  out : s.source = none → s.token = some "" ∧ s.refreshToken = some "" ∧ s.storedToken = none ∧ s.storedRefresh = none

section
variable {s s' : Tab} {n : Nat}

theorem counted_fetch (h : Counted s) (kind : Kind) : Counted (s.fetch kind) := by
  intro r hr
  rcases List.mem_append.1 hr with hr | hr
  · exact h r hr
  · rw [List.mem_singleton.1 hr]
    exact Nat.le_refl _

theorem counted_handle (h : Counted s) (r : Req) (data : Option Tokens) : Counted (s.handle r data) := by
  unfold Tab.handle
  split
  · exact h
  · split
    · exact h
    · exact fun r hr => (h r hr).trans (Nat.le_succ _)

theorem counted_step {a : Action} (h : Counted s) (hs : Step s a s') : Counted s' := by
  cases hs with
  | submit => exact counted_fetch h .login
  | tick => exact counted_fetch h .refresh
  | @answer i r data _ =>
    have hrest : Counted { s with pending := s.pending.eraseIdx i } := fun r hr => h r (List.mem_of_mem_eraseIdx hr)
    exact counted_handle hrest r data
  | logout => exact fun r hr => (h r hr).trans (Nat.le_succ _)
  | reload => exact fun r hr => absurd hr List.not_mem_nil

theorem since_fetch (h : Since n s) (kind : Kind) : Since n (s.fetch kind) := by
  refine ⟨h.logouts, fun r hr => ?_, h.source, h.out⟩
  rcases List.mem_append.1 hr with hr | hr
  · exact h.pending r hr
  · rw [List.mem_singleton.1 hr]
    exact h.logouts

/-- Another logout. -/
theorem since_logout (hn : n ≤ s.logouts + 1) (hpending : ∀ r ∈ s.pending, n ≤ r.logouts) : Since n s.logout :=
  ⟨hn, hpending, (fun r hr => by cases hr), fun _ => ⟨rfl, rfl, rfl, rfl⟩⟩

theorem since_handle (h : Since n s) {r : Req} (hr : n ≤ r.logouts) (data : Option Tokens) : Since n (s.handle r data) := by
  unfold Tab.handle
  split
  · exact ⟨h.logouts, h.pending, (fun r' hr' => by cases hr'; exact hr), fun hsource => by cases hsource⟩
  · split
    · exact h
    · exact since_logout (h.logouts.trans (Nat.le_succ _)) h.pending

theorem since_step {a : Action} (h : Since n s) (hs : Step s a s') : Since n s' := by
  cases hs with
  | submit => exact since_fetch h .login
  | tick => exact since_fetch h .refresh
  | @answer i r data hr =>
    refine since_handle ?_ (h.pending r (List.mem_of_getElem? hr)) data
    exact ⟨h.logouts, fun r hr => h.pending r (List.mem_of_mem_eraseIdx hr), h.source, h.out⟩
  | logout => exact since_logout (h.logouts.trans (Nat.le_succ _)) h.pending
  | reload =>
    refine ⟨h.logouts, (fun r hr => by cases hr), h.source, fun hsource => ?_⟩
    obtain ⟨-, -, htoken, hrefresh⟩ := h.out hsource
    rw [htoken, hrefresh]
    exact ⟨rfl, rfl, rfl, rfl⟩

end

/-- A logout is final when no login and no refresh is under way, and only then: whatever follows, reloads too, the
tokens are empty or from an answer to a request that was sent after it. -/
theorem logout_final_iff {storedToken storedRefresh : Option String} {s : Tab}
    (h : Reachable Step (load storedToken storedRefresh) s) :
    (∀ s', Reachable Step s.logout s' → (s'.token = some "" ∧ s'.refreshToken = some "") ∨
      ∃ r ∈ s'.source, s.logout.logouts ≤ r.logouts) ↔ s.pending = [] := by
  constructor
  · intro hfinal
    have hcounted : Counted s := h.inv (I := Counted) (fun r hr => absurd hr List.not_mem_nil) fun _ _ _ => counted_step
    cases hpending : s.pending with
    | nil => rfl
    | cons r rest =>
      have hfirst : s.logout.pending[0]? = some r := by
        change s.pending[0]? = some r
        rw [hpending]
        rfl
      -- Its answer sets the tokens again.
      rcases hfinal _ (Reachable.refl.next (.answer 0 (some ⟨some "t", none⟩)) (.answer hfirst)) with ⟨htoken, -⟩ | ⟨r', hr', hle⟩
      · simp [Tab.handle, Tab.set] at htoken
      · cases hr'
        have hold := hcounted r (by rw [hpending]; exact List.mem_cons_self)
        exact absurd hle (Nat.not_le.2 (Nat.lt_succ_of_le hold))
  · intro hpending s' hs'
    have hnone : ∀ r ∈ s.pending, s.logouts + 1 ≤ r.logouts := fun r hr => by
      rw [hpending] at hr
      cases hr
    have hsince : Since (s.logouts + 1) s' := hs'.inv (I := Since _) (since_logout (Nat.le_refl _) hnone) fun _ _ _ => since_step
    cases hsource : s'.source with
    | none => exact .inl ⟨(hsince.out hsource).1, (hsince.out hsource).2.1⟩
    | some r => exact .inr ⟨r, rfl, hsince.source r hsource⟩

/-- The refresh is under way. -/
theorem logout_final_iff_sample : ¬ ∀ s', Reachable Step ((load none (some "r")).fetch .refresh).logout s' →
    (s'.token = some "" ∧ s'.refreshToken = some "") ∨ ∃ r ∈ s'.source, 1 ≤ r.logouts := by
  have h1 : Reachable Step (load none (some "r")) _ := Reachable.refl.next .tick (.tick (by decide))
  exact fun hfinal => absurd ((logout_final_iff h1).1 hfinal) (by simp [Tab.fetch])

end Tactix.Ui.Session
