import Tactix.Eng.Service
import Tactix.Lib.EventLoop
/-!
# Who gets the engineering chat

The REST routes ask for a token with an allowed role. The upgrade handler asks
for nothing but the path: `forwarded_authorized` says which upgrades keep the
messages among those the REST routes would let in.
-/
open Tactix.Js Tactix.Authz ServiceLib

namespace Tactix.Eng

/-- The upgrade request presented a token that `authenticate` accepts. -/
def Client.Authorized (env : Env) (c : Client) : Prop :=
  ∃ payload, authenticate env c.openedAt c.request.headers = .ok payload

/-- Every message went to clients that had presented such a token. -/
def Confined (env : Env) (s : State) : Prop :=
  ∀ ws msg, (ws, msg) ∈ s.forwarded → ∃ c, s.clients ws = some c ∧ c.Authorized env

/-- A request that opens a WebSocket presents a token that `authenticate` accepts. -/
def Admits (env : Env) (s : State) : Action → Prop
  | .upgrade _ req handshake => servedPath req = true → handshake = true →
    ∃ payload, authenticate env s.now req.headers = .ok payload
  | _ => True

/-- Whoever is connected, and whoever got a message, has been authorized. -/
structure Vetted (env : Env) (s : State) : Prop where
  all : ∀ ws c, s.clients ws = some c → c.Authorized env
  connected : ∀ ws ∈ s.wsClients, s.clients ws ≠ none
  forwarded : ∀ ws msg, (ws, msg) ∈ s.forwarded → s.clients ws ≠ none

section
variable {env : Env} {s s' : State} {a : Action}

theorem Vetted.confined (h : Vetted env s) : Confined env s := by
  intro ws msg hm
  obtain ⟨c, hc⟩ := Option.ne_none_iff_exists'.1 (h.forwarded ws msg hm)
  exact ⟨c, hc, h.all ws c hc⟩

/-- A WebSocket opens whose request is authorized. -/
theorem Vetted.opened (h : Vetted env s) {ws : Nat} {c : Client} (hc : c.Authorized env) :
    Vetted env { s with wsClients := s.wsClients ++ [ws], clients := Function.update s.clients ws (some c) } := by
  have hkeep : ∀ ws', s.clients ws' ≠ none → Function.update s.clients ws (some c) ws' ≠ none := by
    intro ws' hne
    by_cases he : ws' = ws
    · simp [he]
    · rwa [Function.update_of_ne he]
  refine ⟨update_forall hc fun ws' c' _ hc' => h.all ws' c' hc', fun ws' hw => ?_, fun ws' m hm => hkeep ws' (h.forwarded ws' m hm)⟩
  rcases List.mem_append.1 hw with hw | hw
  · exact hkeep ws' (h.connected ws' hw)
  · rw [List.mem_singleton.1 hw]
    simp

theorem vetted_step (hi : Vetted env s) (ha : Admits env s a) (hs : Step env s a s') : Vetted env s' := by
  unfold Step at hs
  cases a with
  | tick n =>
    obtain rfl := Option.some.inj hs
    exact ⟨hi.all, hi.connected, hi.forwarded⟩
  | connectNats =>
    obtain rfl := Option.some.inj hs
    exact ⟨hi.all, hi.connected, hi.forwarded⟩
  | post req =>
    unfold State.next at hs
    dsimp only at hs
    split at hs
    · obtain rfl := Option.some.inj hs
      split
      · exact ⟨hi.all, hi.connected, hi.forwarded⟩
      · exact hi
    · obtain rfl := Option.some.inj hs
      exact hi
  | close ws =>
    obtain rfl := Option.some.inj hs
    exact ⟨hi.all, fun ws' hw => hi.connected ws' (List.mem_of_mem_filter hw), hi.forwarded⟩
  | nats msg sends =>
    unfold State.next at hs
    dsimp only at hs
    split at hs
    · obtain rfl := Option.some.inj hs
      refine ⟨hi.all, hi.connected, fun ws m hm => ?_⟩
      rcases List.mem_append.1 hm with hm | hm
      · exact hi.forwarded ws m hm
      · obtain ⟨ws', hws, he⟩ := List.mem_map.1 hm
        cases he
        exact hi.connected ws (List.mem_of_mem_filter hws)
    · cases hs
  | upgrade ws req handshake =>
    unfold State.next at hs
    dsimp only at hs
    split at hs
    · cases hs
    · split at hs
      · rename_i hopen
        obtain ⟨hpath, hhand⟩ := Bool.and_eq_true_iff.1 hopen
        obtain rfl := Option.some.inj hs
        exact hi.opened (ha hpath hhand)
      · obtain rfl := Option.some.inj hs
        exact hi

/-- A WebSocket that is opened without such a token gets the next message. -/
theorem escapes_of_unvetted (ha : ¬ Admits env s a) (hs : Step env s a s') :
    ∃ s'', Reachable (Step env) s' s'' ∧ ¬ Confined env s'' := by
  cases a with
  | upgrade ws req handshake =>
    simp only [Admits, not_forall] at ha
    obtain ⟨hpath, hhand, hauth⟩ := ha
    unfold Step State.next at hs
    dsimp only at hs
    rw [hpath, hhand] at hs
    split at hs
    · cases hs
    · obtain rfl := Option.some.inj hs
      -- the next message goes to everyone in `wsClients`, where `ws` now is
      let s₁ : State := { s with
        wsClients := s.wsClients ++ [ws], clients := Function.update s.clients ws (some ⟨req, s.now⟩) }
      let s₂ : State := { s₁ with subscribed := true }
      let s₃ : State := { s₂ with forwarded := s₂.forwarded ++ (s₂.wsClients.filter fun _ => true).map fun w => (w, "") }
      have hconnect : Step env s₁ .connectNats s₂ := rfl
      have hnats : Step env s₂ (.nats "" fun _ => true) s₃ := by simp [Step, State.next, s₃, s₂]
      refine ⟨s₃, (Reachable.refl.step hconnect).step hnats, fun hc => ?_⟩
      obtain ⟨c, hcl, hok⟩ := hc ws "" (by simp [s₃, s₂, s₁])
      obtain rfl : c = ⟨req, s.now⟩ := by simpa [s₃, s₂, s₁] using hcl.symm
      exact hauth hok
  | _ => exact absurd trivial ha

end

/-- In every run in which every WebSocket is opened with a token `authenticate`
accepts, messages go to such clients only; and any other WebSocket may get one. -/
theorem forwarded_authorized (env : Env) (start : Nat) :
    (∀ s, Reachable (Guarded (Admits env) (Step env)) (.init start) s → Confined env s) ∧
      ∀ s a s', Reachable (Step env) (.init start) s → Step env s a s' → ¬ Admits env s a →
        ∃ s'', Reachable (Step env) (.init start) s'' ∧ ¬ Confined env s'' := by
  constructor
  · intro s h
    have hinit : Vetted env (.init start) := ⟨by simp [State.init], by simp [State.init], by simp [State.init]⟩
    exact (h.inv hinit fun s a s' hi hs => vetted_step hi hs.1 hs.2).confined
  · intro s a s' h hs ha
    obtain ⟨s'', h', hc⟩ := escapes_of_unvetted ha hs
    exact ⟨s'', (h.step hs).trans h', hc⟩

/-! ## A WebSocket with a token, and one without -/

namespace Sample

/-- The token `t` is an engineer's, and no other token verifies. -/
def env : Env :=
  ⟨some "org", some "ENG", "i1", some "key",
    fun _ token _ => if token = "t" then some (.obj [("roles", .arr [.str "ENG"])]) else none,
    fun _ => "2025-08-17T10:00:00.000Z"⟩

def engineer : IncomingMessage := ⟨"/eng/ws", fun name => if name = "authorization" then some "Bearer t" else none⟩

def stranger : IncomingMessage := ⟨"/eng/ws", fun _ => none⟩

/-- The engineer is connected and has been sent the message `m`. -/
def served : State := ⟨0, true, [1], Function.update (fun _ => none) 1 (some ⟨engineer, 0⟩), [], [(1, "m")]⟩

theorem served_reachable : Reachable (Guarded (Admits env) (Step env)) (.init 0) served := by
  have h0 : Reachable (Guarded (Admits env) (Step env)) (.init 0) (.init 0) := .refl
  have hadmits : Admits env (.init 0) (.upgrade 1 engineer true) := fun _ _ => ⟨_, rfl⟩
  have h1 := h0.nextGuarded (.upgrade 1 engineer true) hadmits rfl
  have h2 := h1.nextGuarded .connectNats trivial rfl
  exact h2.nextGuarded (.nats "m" fun _ => true) trivial rfl

theorem stranger_unvetted (s : State) (ws : Nat) : ¬ Admits env s (.upgrade ws stranger true) := by
  intro h
  obtain ⟨p, hp⟩ := h rfl rfl
  cases hp

end Sample

/-- The law holds of the engineer who has been sent a message, and no longer when
a client without any header has joined. -/
theorem forwarded_authorized_sample :
    Confined Sample.env Sample.served ∧ ∃ s, Reachable (Step Sample.env) (.init 0) s ∧ ¬ Confined Sample.env s := by
  have hstep : Step Sample.env Sample.served (.upgrade 2 Sample.stranger true) _ := rfl
  exact ⟨(forwarded_authorized Sample.env 0).1 _ Sample.served_reachable,
    (forwarded_authorized Sample.env 0).2 _ _ _ Sample.served_reachable.forget hstep (Sample.stranger_unvetted _ 2)⟩

/-- A client without any header is sent a message. -/
theorem stranger_listens : ¬ ∀ (env : Env) start s, Reachable (Step env) (.init start) s → Confined env s := by
  intro hall
  have hstep : Step Sample.env (.init 0) (.upgrade 1 Sample.stranger true) _ := rfl
  obtain ⟨s, hs, hc⟩ := escapes_of_unvetted (Sample.stranger_unvetted _ 1) hstep
  exact hc (hall Sample.env 0 s ((Reachable.refl.step hstep).trans hs))

end Tactix.Eng
