import Tactix.Realtime.Queue
/-!
# Frames and subscriptions

A client that subscribes to another incident keeps its queue, and a snapshot
it asked for before may still come. Its frames belong to its subscription in
every run where neither is left at a subscribe (`in_scope`).
-/
open Tactix.Js Tactix.Authz ServiceLib

namespace Tactix.Realtime

/-- A frame for a client subscribed to `j`. -/
def Obs.fits (j : Rat) : Obs → Prop
  | .handed e => e.incidentId = some (.num j) ∨ str? e.type = some "PLAYBOOK_NOTIFY"
  | .snapshot incidentId _ _ => incidentId = some j
  | .broadcast _ | .subscribed _ | .overflow .. => True

/-- After a subscribe, up to the next one, every frame fits it. -/
def InScope (h : List Obs) : Prop :=
  ∀ h₁ j h₂ o h₃, h = h₁ ++ .subscribed j :: h₂ ++ o :: h₃ → (∀ k, .subscribed k ∉ h₂) → o.fits j

/-- What `j`'s subscriber still gets whatever happens: its queue, and the
snapshots of its fetches. -/
def Conn.awaits (c : Conn) (j : Rat) : Prop :=
  (∀ e ∈ c.queue, e.matches (some j) = true) ∧ ∀ f ∈ c.fetches, f.incidentId = some j

/-- A message subscribes only to an incident that all that is queued and being
fetched is for. -/
def Clean (c : Conn) : Input → Prop
  | .message (some msg) => ∀ j, subscribes msg = some j → c.awaits j
  | _ => True

theorem matches_some {e : Event} {j : Rat} (h : e.matches (some j) = true) : (Obs.handed e).fits j := by
  rw [Event.matches, Bool.or_eq_true] at h
  rcases h with h | h
  · exact .inr (by simpa [Event.isNotify] using h)
  · left
    cases hi : e.incidentId with
    | none => simp [sameIncident, hi] at h
    | some v => cases v <;> simp_all [sameIncident]

theorem subscription_kept (incidentId : Option Rat) {h : List Obs} (hn : ∀ k, .subscribed k ∉ h) :
    subscription incidentId h = incidentId := by
  induction h with
  | nil => rfl
  | cons o h ih =>
    have ho : o.subscribe incidentId = incidentId := by
      cases o with
      | subscribed k => exact absurd List.mem_cons_self (hn k)
      | _ => rfl
    rw [subscription, List.foldl_cons, ho]
    exact ih fun k hk => hn k (List.mem_cons_of_mem _ hk)

/-! ## The invariant -/

structure ScopeInv (c : Conn) : Prop where
  subscription_eq : c.incidentId = subscription none c.history
  awaits : ∀ j, c.incidentId = some j → c.awaits j
  frames : ∀ h o h', c.history = h ++ o :: h' → ∀ j, subscription none h = some j → o.fits j

/-- A client that observes a frame, or anything else, that fits. -/
theorem scope_observe {c c' : Conn} {o : Obs} (hi : ScopeInv c) (hh : c'.history = c.history ++ [o])
    (hsub : c'.incidentId = o.subscribe c.incidentId) (ho : ∀ j, c.incidentId = some j → o.fits j)
    (ha : ∀ j, c'.incidentId = some j → c'.awaits j) : ScopeInv c' := by
  refine ⟨by rw [hh, subscription_snoc, ← hi.subscription_eq, hsub], ha, fun h o' h' he j hj => ?_⟩
  rw [hh] at he
  rcases snoc_eq_append_cons he with ⟨-, rfl, rfl⟩ | ⟨t, -, ht⟩
  · exact ho j (hi.subscription_eq.trans hj)
  · exact hi.frames h o' t ht j hj

theorem scope_flush {c : Conn} (hi : ScopeInv c) : ScopeInv (flush c) := by
  rcases flush_cases c with ⟨-, e⟩ | ⟨msg, queue, -, hq, -, e⟩
  · rw [e]; exact hi
  · rw [e]
    refine scope_observe (o := .handed msg) hi rfl rfl (fun j hj => ?_) fun j hj => ⟨?_, (hi.awaits j hj).2⟩
    · exact matches_some ((hi.awaits j hj).1 msg (by simp [hq]))
    · exact fun e he => (hi.awaits j hj).1 e (by rw [hq]; exact List.mem_cons_of_mem _ he)

theorem scope_broadcast {c : Conn} (hi : ScopeInv c) (e : Event) : ScopeInv (c.broadcast e) := by
  have hpush : e.matches c.incidentId = true → ScopeInv (c.push e) := by
    intro hm
    refine scope_observe (o := .broadcast e) hi rfl rfl (fun _ _ => trivial) fun j hj => ⟨fun x hx => ?_, (hi.awaits j hj).2⟩
    rcases List.mem_append.1 hx with hx | hx
    · exact (hi.awaits j hj).1 x hx
    · rw [List.mem_singleton.1 hx, ← show c.incidentId = some j from hj]; exact hm
  rcases broadcast_cases c e with ⟨-, he⟩ | ⟨hm, -, he⟩ | ⟨hm, -, he⟩
  · rw [he]
    exact scope_observe (o := .broadcast e) hi rfl rfl (fun _ _ => trivial) hi.awaits
  · rw [he]
    refine scope_observe (o := .overflow c.queue e) (hpush hm) rfl rfl (fun _ _ => trivial) fun j hj => ⟨by simp, ?_⟩
    intro f hf
    rcases List.mem_append.1 hf with hf | hf
    · exact (hi.awaits j hj).2 f hf
    · rw [List.mem_singleton.1 hf]; exact hj
  · rw [he]; exact scope_flush (hpush hm)

theorem scope_handle {c : Conn} (hi : ScopeInv c) (input : Input) (hG : Clean c input) : ScopeInv (c.handle input) := by
  cases input with
  | broadcast e => exact scope_broadcast hi e
  | message data =>
    cases data with
    | none => exact hi
    | some msg =>
      rcases message_cases c msg with ⟨-, e⟩ | ⟨j, hj, e⟩
      · rw [Conn.handle, e]; exact hi
      · rw [Conn.handle, e]
        refine scope_observe (o := .subscribed j) hi rfl rfl (fun _ _ => trivial) fun k hk => ?_
        obtain rfl : j = k := by simpa using hk
        refine ⟨(hG j hj).1, fun f hf => ?_⟩
        rcases List.mem_append.1 hf with hf | hf
        · exact (hG j hj).2 f hf
        · split at hf
          · simp at hf
          · rw [List.mem_singleton.1 hf]
  | sent err =>
    have hidle : ScopeInv { c with sending := false, callbacks := c.callbacks - 1 } := { hi with }
    simp only [Conn.handle, Conn.sent]
    split
    · exact { hidle with }
    · exact scope_flush hidle
  | fetched i answer =>
    have herase : ∀ j, c.incidentId = some j → ∀ f ∈ c.fetches.eraseIdx i, f.incidentId = some j :=
      fun j hj f hf => (hi.awaits j hj).2 f (List.mem_of_mem_eraseIdx hf)
    rcases fetched_cases c i answer with e | ⟨f, hf, ⟨-, e⟩ | ⟨incident, -, e⟩⟩
    · rw [Conn.handle, e]; exact hi
    · rw [Conn.handle, e]
      exact { hi with awaits := fun j hj => ⟨(hi.awaits j hj).1, herase j hj⟩ }
    · rw [Conn.handle, e]
      exact scope_observe (o := .snapshot f.incidentId incident f.seq) hi rfl rfl
        (fun j hj => (hi.awaits j hj).2 f (List.mem_of_getElem? hf)) fun j hj => ⟨(hi.awaits j hj).1, herase j hj⟩
  | leave => exact { hi with }
  | close => exact { hi with }

variable {Ws : Type} [DecidableEq Ws]

/-- In every run in which the client subscribes with nothing of another
incident queued or being fetched, its frames fit its subscription. -/
theorem in_scope {env : Env} {ws : Ws} {w : World Ws} (hr : Reachable (Guarded (Allowed Clean ws) (Step env)) .init w)
    {c : Conn} (hc : w.conns ws = some c) : InScope c.history := by
  have hi : ScopeInv c := by
    refine conn_inv (I := fun _ c => ScopeInv c) (fun es user req now => ?_) (fun _ _ _ hi _ => hi)
      (fun es e c hi _ _ _ => scope_broadcast hi e) (fun es c input hi _ hG => scope_handle hi input hG) hr hc
    exact ⟨rfl, by simp [Conn.opened], by simp [Conn.opened]⟩
  intro h₁ j h₂ o h₃ he hn
  refine hi.frames _ o h₃ he j ?_
  rw [subscription, List.foldl_append, List.foldl_cons]
  exact subscription_kept (some j) hn

/-- A client that changes to incident 2 once all of incident 1 is sent. -/
theorem in_scope_resubscribed : ∃ w : World Nat, ∃ c, w.conns 0 = some c ∧ subscription none c.history = some 2 ∧
    (handed c.history).map (·.oid) = [0, 1] ∧ InScope c.history := by
  have h0 : Reachable (Guarded (Allowed Clean 0) (Step .accepting)) (.init : World Nat) _ := .refl
  have h1 := h0.nextGuarded (.upgrade 0 ⟨"/rt", fun _ => none⟩ true) (fun _ _ => trivial) rfl
  have h2 := h1.nextGuarded (.on 0 (.message (some (.obj [("type", .str "subscribe"), ("incidentId", .num 1)]))))
    (fun c hc _ j _ => by cases hc; exact ⟨List.forall_mem_nil _, List.forall_mem_nil _⟩) rfl
  have h3 := h2.nextGuarded (.notification (some (.obj [("incidentId", .num 1)]))) (fun _ _ _ => trivial) rfl
  have h4 := h3.nextGuarded (.on 0 (.sent false)) (fun _ _ _ => trivial) rfl
  have h5 := h4.nextGuarded (.on 0 (.message (some (.obj [("type", .str "subscribe"), ("incidentId", .num 2)]))))
    (fun c hc _ j _ => by cases hc; exact ⟨List.forall_mem_nil _, List.forall_mem_nil _⟩) rfl
  have h6 := h5.nextGuarded (.notification (some (.obj [("incidentId", .num 2)]))) (fun _ _ _ => trivial) rfl
  have scope {w : World Nat} {c : Conn} (hr : Reachable (Guarded (Allowed Clean 0) (Step .accepting)) .init w)
      (hc : w.conns 0 = some c) : w.conns 0 = some c ∧ InScope c.history := ⟨hc, in_scope hr hc⟩
  obtain ⟨hc, hs⟩ := scope h6 rfl
  exact ⟨_, _, hc, rfl, rfl, hs⟩

/-- Two events of incident 1; the second one still waits when the client
subscribes to incident 2, and is sent after that. -/
theorem out_of_scope : ¬ ∀ (env : Env) (w : World Nat) (c : Conn), Reachable (Step env) .init w → w.conns 0 = some c →
    InScope c.history := by
  intro h
  have h0 : Reachable (Step .accepting) (.init : World Nat) _ := .refl
  have h1 := h0.next (.upgrade 0 ⟨"/rt", fun _ => none⟩ true) rfl
  have h2 := h1.next (.on 0 (.message (some (.obj [("type", .str "subscribe"), ("incidentId", .num 1)])))) rfl
  have h3 := h2.next (.notification (some (.obj [("incidentId", .num 1)]))) rfl
  have h4 := h3.next (.notification (some (.obj [("incidentId", .num 1)]))) rfl
  have h5 := h4.next (.on 0 (.message (some (.obj [("type", .str "subscribe"), ("incidentId", .num 2)])))) rfl
  have h6 := h5.next (.on 0 (.sent false)) rfl
  have hfit := h _ _ _ h6 rfl [.subscribed 1, .broadcast _, .handed _, .broadcast _] 2 [] (.handed _) [] rfl (by simp)
  rcases hfit with hid | hnotify
  · have h12 : (1 : Rat) = 2 := by injection hid with hid; injection hid
    exact absurd h12 (by decide)
  · exact absurd hnotify (by decide)

end Tactix.Realtime
