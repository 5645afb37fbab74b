import Tactix.Realtime.Server
/-!
# Who gets a client

A WebSocket is kept when `verify` accepts the token of its upgrade request.
When `@tactix/authz` does not load, `verify` accepts every token:
`clients_authenticated` says which upgrades that leaves right.
-/
open Tactix.Js Tactix.Authz ServiceLib

namespace Tactix.Realtime

variable {Ws : Type} [DecidableEq Ws]

/-- The token is signed for the configured public key and has not expired. -/
def Valid (env : Env) (now : Nat) (token : String) : Prop :=
  env.jwt.SignedRS256 env.PUBLIC_KEY token ∧ ¬ env.jwt.Expired now token

/-- The upgrade request of every client had a token that was valid then. -/
def Authenticated (env : Env) (w : World Ws) : Prop :=
  ∀ ws c, w.conns ws = some c → c.registered = true →
    ∃ token, extractToken env c.request = some token ∧ Valid env c.openedAt token

/-- Without `@tactix/authz`, an upgrade that goes through has a valid token. -/
def Vetted (env : Env) (w : World Ws) : Action Ws → Prop
  | .upgrade _ req handshake => env.authzLoads = false → handshake = true → servedPath req = true →
    ∀ token, extractToken env req = some token → Valid env w.now token
  | _ => True

theorem verify_valid {env : Env} {now : Nat} {token : String} {p : Payload} (hload : env.authzLoads = true)
    (h : env.verify now token = some p) : Valid env now token := by
  rw [Env.verify, if_pos hload, verifyJwtRS256, Env.PUBLIC_KEY, unescapeNewlines_idem, ← Env.PUBLIC_KEY] at h
  exact env.jwt.verify_rs256 _ _ _ _ h

theorem upgrade_some {env : Env} {now : Nat} {req : UpgradeRequest} {user : TactixUser} :
    upgrade env now req = some user ↔ servedPath req = true ∧
      ∃ token p, extractToken env req = some token ∧ env.verify now token = some p ∧ env.userOf p = user := by
  unfold upgrade
  split
  · rename_i h
    simp [h, Option.bind_eq_some_iff]
  · rename_i h
    simp [h]

/-- A client keeps its request, and a client that is gone stays so. -/
theorem handle_request (c : Conn) (input : Input) :
    (c.handle input).request = c.request ∧ (c.handle input).openedAt = c.openedAt ∧
      ((c.handle input).registered = true → c.registered = true) := by
  have hflush : ∀ c : Conn, (flush c).request = c.request ∧ (flush c).openedAt = c.openedAt ∧
      ((flush c).registered = true → c.registered = true) := by
    intro c
    rcases flush_cases c with ⟨-, e⟩ | ⟨msg, queue, -, -, -, e⟩ <;> rw [e] <;> exact ⟨rfl, rfl, id⟩
  cases input with
  | broadcast e =>
    rcases broadcast_cases c e with ⟨-, he⟩ | ⟨-, -, he⟩ | ⟨-, -, he⟩
    · rw [Conn.handle, he]; exact ⟨rfl, rfl, id⟩
    · rw [Conn.handle, he]; exact ⟨rfl, rfl, id⟩
    · rw [Conn.handle, he]; exact hflush (c.push e)
  | message data =>
    cases data with
    | none => exact ⟨rfl, rfl, id⟩
    | some msg => rcases message_cases c msg with ⟨-, e⟩ | ⟨j, -, e⟩ <;> rw [Conn.handle, e] <;> exact ⟨rfl, rfl, id⟩
  | sent err =>
    cases err with
    | true => exact ⟨rfl, rfl, id⟩
    | false => exact hflush { c with sending := false, callbacks := c.callbacks - 1 }
  | fetched i answer =>
    rcases fetched_cases c i answer with e | ⟨f, -, ⟨-, e⟩ | ⟨incident, -, e⟩⟩ <;> rw [Conn.handle, e] <;>
      exact ⟨rfl, rfl, id⟩
  | leave => exact ⟨rfl, rfl, id⟩
  | close => exact ⟨rfl, rfl, by simp [Conn.handle]⟩

theorem authenticated_step {env : Env} {w w' : World Ws} {a : Action Ws} (hi : Authenticated env w) (hv : Vetted env w a)
    (hs : Step env w a w') : Authenticated env w' := by
  have hkeep : ∀ (c : Conn) (input : Input) token, extractToken env c.request = some token ∧ Valid env c.openedAt token →
      extractToken env (c.handle input).request = some token ∧ Valid env (c.handle input).openedAt token :=
    fun c input token h => by rw [(handle_request c input).1, (handle_request c input).2.1]; exact h
  intro ws c' hc hreg
  cases step_change hs with
  | quiet h => exact hi ws c' (h ▸ hc) hreg
  | @opened ws' req user hnew hu =>
    by_cases hws : ws = ws'
    · subst hws
      obtain rfl : Conn.opened user req w.now = c' := by simpa [World.put] using hc
      obtain ⟨hpath, token, p, ht, hp, -⟩ := upgrade_some.1 hu
      refine ⟨token, ht, ?_⟩
      -- The real `verify` vouches for the token; with the fallback only the step's condition does.
      cases hload : env.authzLoads with
      | true => exact verify_valid hload hp
      | false => exact hv hload rfl hpath token ht
    · exact hi ws c' (by simpa [World.put, hws] using hc) hreg
  | broadcast _ h =>
    rw [h] at hc
    obtain ⟨c, h0, rfl⟩ := Option.map_eq_some_iff.1 hc
    by_cases hr : c.registered = true
    · rw [if_pos hr]
      obtain ⟨token, ht⟩ := hi ws c h0 hr
      exact ⟨token, hkeep c _ token ht⟩
    · rw [if_neg hr] at hreg
      exact absurd hreg hr
  | @on ws' c input _ h0 _ h =>
    rw [h] at hc
    by_cases hws : ws = ws'
    · subst hws
      obtain rfl : c.handle input = c' := by simpa using hc
      obtain ⟨token, ht⟩ := hi ws c h0 ((handle_request c input).2.2 hreg)
      exact ⟨token, hkeep c input token ht⟩
    · exact hi ws c' (by simpa [hws] using hc) hreg

theorem vetted_of_authenticated {env : Env} {w w' : World Ws} {a : Action Ws} (hi : Authenticated env w')
    (hs : Step env w a w') : Vetted env w a := by
  cases a with
  | upgrade ws req handshake =>
    rintro hload rfl hpath token ht
    have hu : upgrade env w.now req = some (env.userOf ⟨none, none, none, none, none⟩) :=
      upgrade_some.2 ⟨hpath, token, _, ht, by rw [Env.verify, hload]; rfl, rfl⟩
    obtain rfl : w.put ws (.opened (env.userOf ⟨none, none, none, none, none⟩) req w.now) = w' := by
      unfold Step step at hs
      split at hs
      · cases hs
      · simp only [hu] at hs
        split at hs
        · cases hs
        · simpa using hs
    obtain ⟨token', ht', hvalid⟩ := hi ws _ (Function.update_self ..) rfl
    obtain rfl : token = token' := Option.some.inj (ht.symm.trans ht')
    exact hvalid
  | _ => trivial

/-- In every run of vetted steps every client is authenticated, and a step that
is not vetted adds one that is not. -/
theorem clients_authenticated (env : Env) :
    (∀ w : World Ws, Reachable (Guarded (Vetted env) (Step env)) .init w → Authenticated env w) ∧
    (∀ (w w' : World Ws) (a : Action Ws), Step env w a w' → ¬ Vetted env w a → ¬ Authenticated env w') := by
  refine ⟨fun w hr => hr.inv (fun ws c h => by simp [World.init] at h) fun w a w' hi hs => ?_,
    fun w w' a hs hv hi => hv (vetted_of_authenticated hi hs)⟩
  exact authenticated_step hi hs.1 hs.2

/-- An environment without `@tactix/authz`, in which only the token `t` is signed. -/
def Env.fallback : Env :=
  { Env.accepting with
    authzLoads := false, searchToken := fun url => if url = "/rt?token=t" then some "t" else some "x" }

/-- A client with the token `t` is authenticated, and one that follows with the
token `x` is not. -/
theorem clients_authenticated_sample :
    ∃ w w' : World Nat, ((∃ c, w.conns 0 = some c ∧ c.registered = true) ∧ Authenticated .fallback w) ∧
      (∃ c, w'.conns 1 = some c ∧ c.registered = true) ∧ ¬ Authenticated .fallback w' := by
  have hvetted : Vetted .fallback (.init : World Nat) (.upgrade 0 ⟨"/rt?token=t", fun _ => none⟩ true) := by
    rintro - - - token ⟨⟩
    exact ⟨rfl, not_false⟩
  have hsigned : Step .fallback (.init : World Nat) (.upgrade 0 ⟨"/rt?token=t", fun _ => none⟩ true)
      (.put .init 0 (.opened (Env.fallback.userOf ⟨none, none, none, none, none⟩) ⟨"/rt?token=t", fun _ => none⟩ 0)) := rfl
  have hforged : Step .fallback
      (.put .init 0 (.opened (Env.fallback.userOf ⟨none, none, none, none, none⟩) ⟨"/rt?token=t", fun _ => none⟩ 0))
      (.upgrade 1 ⟨"/rt?token=x", fun _ => none⟩ true) _ := rfl
  refine ⟨_, _, ⟨⟨_, rfl, rfl⟩, (clients_authenticated .fallback).1 _ (Reachable.refl.step ⟨hvetted, hsigned⟩)⟩,
    ⟨_, rfl, rfl⟩, (clients_authenticated .fallback).2 _ _ _ hforged fun hv => ?_⟩
  obtain ⟨hx, -⟩ := hv rfl rfl (by decide) "x" rfl
  simp [Env.fallback, Env.accepting, JsonWebToken.accepting] at hx

/-- The fallback `verify` lets in a token nobody signed. -/
theorem fallback_admits : ¬ ∀ (env : Env) (w : World Nat), Reachable (Step env) .init w → Authenticated env w := by
  intro h
  have hs : Step .fallback (.init : World Nat) (.upgrade 0 ⟨"/rt?token=x", fun _ => none⟩ true) _ := rfl
  obtain ⟨token, ht, hsigned, -⟩ := h .fallback _ (Reachable.refl.step hs) 0 _ rfl rfl
  obtain rfl : "x" = token := Option.some.inj ht
  simp [Env.fallback, Env.accepting, JsonWebToken.accepting] at hsigned

end Tactix.Realtime
