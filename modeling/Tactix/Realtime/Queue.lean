import Tactix.Realtime.Server
import Tactix.Lib.Fifo
/-!
# The queue of a client

`enqueue`, `flush` and the send callback refine a FIFO queue that overflows
empty (`ServiceLib.Fifo`): the marks are read off a client's history, and an
event arrives when it is broadcast while it matches the subscription of that
moment. Which events those are an observer knows from the actions alone
(`Watch`), and `client_delivers` says that they are the ones handed over.
-/
open Tactix.Js Tactix.Authz ServiceLib

namespace Tactix.Realtime

/-! ## Reading a history -/

/-- The events broadcast. -/
def seen (h : List Obs) : List Event := h.filterMap fun | .broadcast e => some e | _ => none

def Obs.subscribe (incidentId : Option Rat) : Obs → Option Rat
  | .subscribed j => some j
  | _ => incidentId

/-- The incident subscribed to after a history. -/
def subscription (incidentId : Option Rat) (h : List Obs) : Option Rat := h.foldl Obs.subscribe incidentId

/-- What an observation is to the queue of a client with this subscription. -/
def Obs.marks (incidentId : Option Rat) : Obs → List (Mark Event)
  | .broadcast e => if e.matches incidentId then [.arrived e] else []
  | .handed e => [.delivered e]
  | .overflow queue e => [.dropped (queue ++ [e])]
  | .subscribed _ | .snapshot .. => []

def marksFrom (incidentId : Option Rat) : List Obs → List (Mark Event)
  | [] => []
  | o :: h => o.marks incidentId ++ marksFrom (o.subscribe incidentId) h

def marks (h : List Obs) : List (Mark Event) := marksFrom none h

/-- The events broadcast while they matched. -/
def matched (h : List Obs) : List Event := arrivals (marks h)

/-- The events `flush` gave to `ws.send`. -/
def handed (h : List Obs) : List Event := deliveries (marks h)

/-- The events overflows discarded. -/
def discarded (h : List Obs) : List Event := drops (marks h)

theorem marksFrom_append (incidentId : Option Rat) (h h' : List Obs) :
    marksFrom incidentId (h ++ h') = marksFrom incidentId h ++ marksFrom (subscription incidentId h) h' := by
  induction h generalizing incidentId with
  | nil => rfl
  | cons o h ih => rw [List.cons_append, marksFrom, ih, marksFrom, List.append_assoc]; rfl

theorem marks_snoc (h : List Obs) (o : Obs) : marks (h ++ [o]) = marks h ++ o.marks (subscription none h) := by
  rw [marks, marksFrom_append, marksFrom, marksFrom, List.append_nil]; rfl

theorem subscription_snoc (h : List Obs) (o : Obs) :
    subscription none (h ++ [o]) = o.subscribe (subscription none h) := by
  simp [subscription]

theorem seen_append (h h' : List Obs) : seen (h ++ h') = seen h ++ seen h' := List.filterMap_append

theorem matched_sublist (h : List Obs) : (matched h).Sublist (seen h) := by
  suffices hs : ∀ incidentId, (arrivals (marksFrom incidentId h)).Sublist (seen h) from hs none
  have hone : ∀ incidentId (o : Obs), (arrivals (o.marks incidentId)).Sublist (seen [o]) := by
    intro incidentId o
    cases o with
    | broadcast e => cases hm : e.matches incidentId <;> simp [Obs.marks, arrivals, seen, hm]
    | subscribed | handed | overflow | snapshot => simp [Obs.marks, arrivals]
  induction h with
  | nil => exact fun _ => .slnil
  | cons o h ih =>
    intro incidentId
    rw [marksFrom, arrivals_append, ← List.singleton_append, seen_append]
    exact (hone incidentId o).append (ih _)

/-! ## The invariant -/

/-- What holds of a client even inside `enqueue`. -/
structure Core (es : List Event) (c : Conn) : Prop where
  subscription_eq : c.incidentId = subscription none c.history
  fifo : Fifo (marks c.history) c.queue
  callbacks : c.callbacks = if c.sending then 1 else 0
  overflows : ∀ queue e, .overflow queue e ∈ c.history → queue.length = MAX_QUEUE
  broadcasts : seen c.history <:+: es
  connected : c.registered = true → seen c.history <:+ es

structure QueueInv (es : List Event) (c : Conn) : Prop extends Core es c where
  bounded : c.queue.length ≤ MAX_QUEUE
  busy : c.isOpen = true → c.queue ≠ [] → c.sending = true

/-- A client observes something that is no broadcast. -/
theorem core_observe {es : List Event} {c c' : Conn} {o : Obs} (hi : Core es c)
    (hh : c'.history = c.history ++ [o]) (hreg : c'.registered = c.registered) (hseen : ∀ e, o ≠ .broadcast e)
    (hsub : c'.incidentId = o.subscribe c.incidentId) (hf : Fifo (marks c.history ++ o.marks c.incidentId) c'.queue)
    (hc : c'.callbacks = if c'.sending then 1 else 0)
    (ho : ∀ queue e, o = .overflow queue e → queue.length = MAX_QUEUE) : Core es c' := by
  have hs : seen c'.history = seen c.history := by
    rw [hh, seen_append]
    cases o <;> simp_all [seen]
  refine ⟨?_, ?_, hc, ?_, hs ▸ hi.broadcasts, fun h => hs ▸ hi.connected (hreg ▸ h)⟩
  · rw [hh, subscription_snoc, ← hi.subscription_eq, hsub]
  · rw [hh, marks_snoc, ← hi.subscription_eq]; exact hf
  · intro queue e hm
    rw [hh] at hm
    rcases List.mem_append.1 hm with hm | hm
    · exact hi.overflows queue e hm
    · exact ho queue e (List.mem_singleton.1 hm).symm

/-- A broadcast arrives in the queue if it matches. -/
theorem core_broadcast {es : List Event} {c : Conn} (hi : Core es c) (hreg : c.registered = true) (e : Event) :
    Core (es ++ [e]) { c.observe (.broadcast e) with
      queue := if e.matches c.incidentId then c.queue ++ [e] else c.queue } := by
  have hs : seen (c.history ++ [.broadcast e]) = seen c.history ++ [e] := seen_append _ _
  have hsuf : seen (c.history ++ [.broadcast e]) <:+ es ++ [e] := by
    rw [hs]
    exact List.suffix_append_inj_of_length_eq rfl |>.2 ⟨hi.connected hreg, rfl⟩
  refine ⟨?_, ?_, hi.callbacks, ?_, hsuf.isInfix, fun _ => hsuf⟩
  · simp only [Conn.observe, subscription_snoc, hi.subscription_eq]; rfl
  · simp only [Conn.observe, marks_snoc, ← hi.subscription_eq, Obs.marks]
    split
    · exact hi.fifo.snoc .arrive
    · rw [List.append_nil]; exact hi.fifo
  · intro queue e' hm
    exact hi.overflows queue e' (by simpa [Conn.observe] using hm)

theorem inv_opened (es : List Event) (user : TactixUser) (req : UpgradeRequest) (now : Nat) :
    QueueInv es (.opened user req now) :=
  ⟨⟨rfl, .nil, rfl, by simp [Conn.opened], List.nil_infix, fun _ => List.nil_suffix⟩, Nat.zero_le _,
    fun _ h => absurd rfl h⟩

/-- Broadcasts go on after a client is gone. -/
theorem inv_gone {es : List Event} {c : Conn} (hi : QueueInv es c) (hreg : c.registered = false) (e : Event) :
    QueueInv (es ++ [e]) c :=
  { hi with broadcasts := hi.broadcasts.trans List.infix_append_left, connected := by simp [hreg] }

theorem inv_flush {es : List Event} {c : Conn} (hi : Core es c) (hb : c.queue.length ≤ MAX_QUEUE) :
    QueueInv es (flush c) := by
  rcases flush_cases c with ⟨hr, e⟩ | ⟨msg, queue, -, hq, hs, e⟩
  · rw [e]
    refine ⟨hi, hb, fun hopen hne => ?_⟩
    cases hs : c.sending with
    | true => rfl
    | false => simp [Conn.ready, hs, hopen, hne] at hr
  · have hf := hi.fifo
    rw [hq] at hf hb
    rw [e]
    refine ⟨core_observe (o := .handed msg) hi rfl rfl (by simp) rfl (hf.snoc .deliver) ?_ (by simp),
      Nat.le_of_succ_le hb, fun _ _ => rfl⟩
    simp [Conn.observe, hi.callbacks, hs]

theorem inv_broadcast {es : List Event} {c : Conn} (hi : QueueInv es c) (hreg : c.registered = true) (e : Event) :
    QueueInv (es ++ [e]) (c.broadcast e) := by
  have hcore := core_broadcast hi.toCore hreg e
  -- An overflow drops the queue with the event in it, as if the event had arrived first.
  rcases broadcast_cases c e with ⟨hm, he⟩ | ⟨hm, hfull, he⟩ | ⟨hm, hroom, he⟩
  · rw [hm] at hcore
    rw [he]
    exact ⟨hcore, hi.bounded, hi.busy⟩
  · rw [hm] at hcore
    rw [he]
    refine ⟨core_observe (o := .overflow c.queue e) hcore rfl rfl (by simp) rfl (hcore.fifo.snoc .drop) hi.callbacks ?_,
      Nat.zero_le _, fun _ h => absurd rfl h⟩
    rintro queue e' ⟨⟩
    exact Nat.le_antisymm hi.bounded hfull
  · rw [hm] at hcore
    rw [he]
    refine inv_flush hcore ?_
    show (c.queue ++ [e]).length ≤ MAX_QUEUE
    rw [List.length_append]
    exact hroom

theorem inv_handle {es : List Event} {c : Conn} (hi : QueueInv es c) (input : Input) (he : c.enabled input = true) :
    QueueInv es (c.handle input) := by
  have hmarks : ∀ {o : Obs}, o.marks c.incidentId = [] → Fifo (marks c.history ++ o.marks c.incidentId) c.queue :=
    fun h => by rw [h, List.append_nil]; exact hi.fifo
  cases input with
  | broadcast e => simp [Conn.enabled] at he
  | message data =>
    cases data with
    | none => exact hi
    | some msg =>
      rcases message_cases c msg with ⟨-, e⟩ | ⟨j, -, e⟩
      · rw [Conn.handle, e]; exact hi
      · rw [Conn.handle, e]
        exact ⟨core_observe (o := .subscribed j) hi.toCore rfl rfl (by simp) rfl (hmarks rfl) hi.callbacks (by simp),
          hi.bounded, hi.busy⟩
  | sent err =>
    have hsending : c.sending = true := by
      by_contra h
      simp [Conn.enabled, hi.callbacks, h] at he
    have hcore : Core es { c with sending := false, callbacks := c.callbacks - 1 } :=
      { hi.toCore with callbacks := by simp [hi.callbacks, hsending] }
    simp only [Conn.handle, Conn.sent]
    split
    · exact ⟨{ hcore with }, hi.bounded, by simp⟩
    · exact inv_flush hcore hi.bounded
  | fetched i answer =>
    rcases fetched_cases c i answer with e | ⟨f, -, ⟨-, e⟩ | ⟨incident, -, e⟩⟩
    · rw [Conn.handle, e]; exact hi
    · rw [Conn.handle, e]; exact { hi with }
    · rw [Conn.handle, e]
      exact ⟨core_observe (o := .snapshot f.incidentId incident f.seq) hi.toCore rfl rfl (by simp) rfl (hmarks rfl)
        hi.callbacks (by simp), hi.bounded, hi.busy⟩
  | leave => exact ⟨{ hi.toCore with }, hi.bounded, by simp [Conn.handle]⟩
  | close => exact ⟨{ hi.toCore with connected := by simp [Conn.handle] }, hi.bounded, by simp [Conn.handle]⟩

/-! ## A client seen from outside -/

/-- What the requests, messages and notifications of a run tell of one client:
whether it is connected, its subscription, and the events to come to it. -/
structure Watch where
  connected : Bool
  incidentId : Option Rat
  due : List Event

def Watch.init : Watch := ⟨false, none, []⟩

def Watch.hear (o : Watch) : Input → Watch
  | .message (some msg) => { o with incidentId := (subscribes msg).or o.incidentId }
  | .close => { o with connected := false }
  | _ => o

/-- An event is due when it is broadcast while the client is connected and the
event matches the client's last subscription. -/
def Watch.announce (o : Watch) (e : Event) : Watch :=
  if o.connected && e.matches o.incidentId then { o with due := o.due ++ [e] } else o

/-- The observer is right about a client. -/
structure Watch.Knows (o : Watch) (c : Conn) : Prop where
  connected : o.connected = c.registered
  incidentId : o.incidentId = subscription none c.history
  due : o.due = matched c.history

theorem matched_snoc (h : List Obs) {o : Obs} (ho : ∀ e, o ≠ .broadcast e) : matched (h ++ [o]) = matched h := by
  rw [matched, marks_snoc, arrivals_append]
  cases o with
  | broadcast e => exact absurd rfl (ho e)
  | subscribed | handed | overflow | snapshot => exact List.append_nil _

theorem matched_broadcast (h : List Obs) (e : Event) :
    matched (h ++ [.broadcast e]) = matched h ++ if e.matches (subscription none h) then [e] else [] := by
  rw [matched, marks_snoc, arrivals_append, Obs.marks]
  split <;> rfl

/-- An observation that is neither a broadcast nor a subscription. -/
theorem knows_observe {o : Watch} {c c' : Conn} {x : Obs} (hi : o.Knows c) (hreg : c'.registered = c.registered)
    (hh : c'.history = c.history ++ [x]) (hb : ∀ e, x ≠ .broadcast e) (hs : ∀ j, x ≠ .subscribed j) : o.Knows c' := by
  have hsub : x.subscribe (subscription none c.history) = subscription none c.history := by
    cases x with
    | subscribed j => exact absurd rfl (hs j)
    | broadcast | handed | overflow | snapshot => rfl
  refine ⟨hreg ▸ hi.connected, ?_, ?_⟩
  · rw [hh, subscription_snoc, hsub]
    exact hi.incidentId
  · rw [hh, matched_snoc _ hb]
    exact hi.due

theorem knows_flush {o : Watch} {c : Conn} (hi : o.Knows c) : o.Knows (flush c) := by
  rcases flush_cases c with ⟨-, e⟩ | ⟨msg, queue, -, -, -, e⟩ <;> rw [e]
  · exact hi
  · exact knows_observe (x := .handed msg) hi rfl rfl (by simp) (by simp)

theorem knows_broadcast {o : Watch} {c : Conn} (hi : o.Knows c) (hreg : c.registered = true) (e : Event) :
    (o.announce e).Knows (c.broadcast e) := by
  have hone : ∀ c' : Conn, c'.registered = c.registered → c'.history = c.history ++ [.broadcast e] →
      (o.announce e).Knows c' := by
    intro c' hr hh
    have hsub : subscription none c'.history = subscription none c.history := by
      rw [hh, subscription_snoc]
      rfl
    have hmatched := matched_broadcast c.history e
    rw [← hh, ← hi.incidentId, ← hi.due] at hmatched
    have hcond : (o.connected && e.matches o.incidentId) = e.matches o.incidentId := by rw [hi.connected, hreg, Bool.true_and]
    unfold Watch.announce
    rw [hcond]
    split
    · rename_i hm
      rw [if_pos hm] at hmatched
      exact ⟨hi.connected.trans hr.symm, hi.incidentId.trans hsub.symm, hmatched.symm⟩
    · rename_i hm
      rw [if_neg hm, List.append_nil] at hmatched
      exact ⟨hi.connected.trans hr.symm, hi.incidentId.trans hsub.symm, hmatched.symm⟩
  rcases broadcast_cases c e with ⟨-, he⟩ | ⟨-, -, he⟩ | ⟨-, -, he⟩ <;> rw [he]
  · exact hone _ rfl rfl
  · exact knows_observe (x := .overflow c.queue e) (hone (c.push e) rfl rfl) rfl rfl (by simp) (by simp)
  · exact knows_flush (hone (c.push e) rfl rfl)

theorem knows_handle {o : Watch} {c : Conn} (hi : o.Knows c) {input : Input} (he : c.enabled input = true) :
    (o.hear input).Knows (c.handle input) := by
  cases input with
  | broadcast e => simp [Conn.enabled] at he
  | message data =>
    cases data with
    | none => exact hi
    | some msg =>
      rcases message_cases c msg with ⟨hj, e⟩ | ⟨j, hj, e⟩
      · rw [Conn.handle, e, Watch.hear, hj]
        exact hi
      · rw [Conn.handle, e, Watch.hear, hj]
        have hsub : subscription none (c.history ++ [.subscribed j]) = some j := subscription_snoc _ _
        refine ⟨hi.connected, hsub.symm, ?_⟩
        exact hi.due.trans (matched_snoc _ (by simp)).symm
  | sent err =>
    cases err with
    | true => exact ⟨hi.connected, hi.incidentId, hi.due⟩
    | false =>
      exact knows_flush (c := { c with sending := false, callbacks := c.callbacks - 1 })
        ⟨hi.connected, hi.incidentId, hi.due⟩
  | fetched i answer =>
    rcases fetched_cases c i answer with e | ⟨f, -, ⟨-, e⟩ | ⟨incident, -, e⟩⟩ <;> rw [Conn.handle, e]
    · exact hi
    · exact ⟨hi.connected, hi.incidentId, hi.due⟩
    · exact knows_observe (x := .snapshot f.incidentId incident f.seq) hi rfl rfl (by simp) (by simp)
  | leave => exact ⟨hi.connected, hi.incidentId, hi.due⟩
  | close => exact ⟨rfl, hi.incidentId, hi.due⟩

section
variable {Ws : Type} [DecidableEq Ws]

/-- What the observer of client `ws` makes of an action. -/
def Watch.see (env : Env) (ws : Ws) (w : World Ws) (a : Action Ws) (o : Watch) : Watch :=
  match a with
  | .upgrade ws' req true =>
    if ws' = ws ∧ (upgrade env w.now req).isSome = true then { o with connected := true } else o
  | .notification (some body) => o.announce (w.event body)
  | .on ws' input => if ws' = ws then o.hear input else o
  | _ => o

/-- The runs in which client `ws` is watched. -/
abbrev WatchStep (env : Env) (ws : Ws) : World Ws × Watch → Action Ws → World Ws × Watch → Prop :=
  Watching (Watch.see env ws) (Step env)

/-- The observer knows nothing of a client that is not there yet. -/
structure Watched (ws : Ws) (w : World Ws) (o : Watch) : Prop where
  absent : w.conns ws = none → o = .init
  client : ∀ c, w.conns ws = some c → o.Knows c

omit [DecidableEq Ws] in
/-- A step that is about another client, or about none. -/
theorem watched_other {ws : Ws} {w w' : World Ws} {o : Watch} (hi : Watched ws w o) (h : w'.conns ws = w.conns ws) :
    Watched ws w' o :=
  ⟨fun hn => hi.absent (h ▸ hn), fun c hc => hi.client c (h ▸ hc)⟩

theorem watched_upgrade {env : Env} {ws ws' : Ws} {w w' : World Ws} {o : Watch} {req : UpgradeRequest} {handshake : Bool}
    (hi : Watched ws w o) (hs : Step env w (.upgrade ws' req handshake) w') :
    Watched ws w' (Watch.see env ws w (.upgrade ws' req handshake) o) := by
  unfold Step step at hs
  split at hs
  · cases hs
  · simp only at hs
    split at hs
    · cases hs
    · rename_i hnew
      cases hu : upgrade env w.now req with
      | none =>
        rw [hu] at hs
        cases hs
        cases handshake with
        | false => exact hi
        | true => simpa [Watch.see, hu] using hi
      | some user =>
        rw [hu] at hs
        cases handshake with
        | false =>
          cases hs
          exact hi
        | true =>
          obtain rfl : w.put ws' (.opened user req w.now) = w' := by simpa using hs
          by_cases hws : ws' = ws
          · subst hws
            have ho : o = .init := hi.absent (by simpa using hnew)
            have hsee : Watch.see env ws' w (.upgrade ws' req true) o = ⟨true, none, []⟩ := by
              rw [ho]
              simp [Watch.see, hu, Watch.init]
            have hput : (w.put ws' (.opened user req w.now)).conns ws' = some (.opened user req w.now) := by
              simp [World.put]
            rw [hsee]
            refine ⟨fun h => ?_, fun c hc => ?_⟩
            · rw [hput] at h
              cases h
            · rw [hput] at hc
              cases hc
              exact ⟨rfl, rfl, rfl⟩
          · have hsee : Watch.see env ws w (.upgrade ws' req true) o = o := by simp [Watch.see, hws]
            rw [hsee]
            exact watched_other hi (by simp [World.put, Ne.symm hws])

theorem watched_notification {env : Env} {ws : Ws} {w w' : World Ws} {o : Watch} {payload : Option Json}
    (hi : Watched ws w o) (hs : Step env w (.notification payload) w') :
    Watched ws w' (Watch.see env ws w (.notification payload) o) := by
  unfold Step step at hs
  split at hs
  · cases hs
  · cases payload with
    | none =>
      cases hs
      exact hi
    | some body =>
      cases hs
      cases hc : w.conns ws with
      | none =>
        have ho : Watch.see env ws w (.notification (some body)) o = o := by
          rw [hi.absent hc]
          rfl
        rw [ho]
        exact watched_other hi (by simp [hc])
      | some c =>
        have hknows := hi.client c hc
        cases hr : c.registered with
        | false =>
          -- A client that is gone hears of nothing.
          have ho : Watch.see env ws w (.notification (some body)) o = o := by
            simp [Watch.see, Watch.announce, hknows.connected, hr]
          rw [ho]
          exact watched_other hi (by simp [hc, hr])
        | true =>
          refine ⟨fun h => by simp [hc] at h, fun c' h => ?_⟩
          obtain rfl : c.broadcast (w.event body) = c' := by simpa [hc, hr] using h
          exact knows_broadcast hknows hr _

theorem watched_on {env : Env} {ws ws' : Ws} {w w' : World Ws} {o : Watch} {input : Input} (hi : Watched ws w o)
    (hs : Step env w (.on ws' input) w') : Watched ws w' (Watch.see env ws w (.on ws' input) o) := by
  unfold Step step at hs
  split at hs
  · cases hs
  · simp only [Option.bind_eq_bind, Option.bind_eq_some_iff] at hs
    obtain ⟨c, hc, hs⟩ := hs
    split at hs
    · rename_i he
      cases hs
      by_cases hws : ws' = ws
      · subst hws
        rw [Watch.see, if_pos rfl]
        refine ⟨fun h => by simp [World.put] at h, fun c' h => ?_⟩
        obtain rfl : c.handle input = c' := by simpa [World.put] using h
        exact knows_handle (hi.client c hc) he
      · rw [Watch.see, if_neg hws]
        exact watched_other hi (by simp [World.put, Ne.symm hws])
    · cases hs

theorem watched_step {env : Env} {ws : Ws} {w w' : World Ws} {o : Watch} {a : Action Ws} (hi : Watched ws w o)
    (hs : Step env w a w') : Watched ws w' (Watch.see env ws w a o) := by
  cases a with
  | tick n =>
    unfold Step step at hs
    split at hs
    · cases hs
    · cases hs
      exact watched_other hi rfl
  | upgrade ws' req handshake => exact watched_upgrade hi hs
  | notification payload => exact watched_notification hi hs
  | on ws' input => exact watched_on hi hs

/-- In every watched run of steps of the service the observer is right. -/
theorem reachable_watched {env : Env} {ws : Ws} {R : World Ws → Action Ws → World Ws → Prop}
    (hR : ∀ w a w', R w a w' → Step env w a w') {s : World Ws × Watch}
    (hr : Reachable (Watching (Watch.see env ws) R) (.init, .init) s) : Watched ws s.1 s.2 := by
  refine hr.inv (I := fun s => Watched ws s.1 s.2) ?_ fun s a s' hi hs => ?_
  · exact ⟨fun _ => rfl, fun c h => by simp [World.init] at h⟩
  · rw [hs.2]
    exact watched_step hi (hR _ _ _ hs.1)

end

/-! ## Every reachable client -/

/-- What holds of a client to which the events `due` were to come. -/
structure Delivers (due : List Event) (c : Conn) : Prop where
  bounded : c.queue.length ≤ MAX_QUEUE
  one_send : c.callbacks ≤ 1
  no_stall : c.isOpen = true → c.queue ≠ [] → c.callbacks = 1
  in_order : (due.map (·.oid)).Pairwise (· < ·)
  delivered : handed c.history ++ c.queue = due.filter fun e => e.oid ∉ (discarded c.history).map (·.oid)
  arrived : matched c.history = due
  /-- An overflow discards the events not handed over by then, and its trigger. -/
  overflows : ∀ h queue e h', c.history = h ++ .overflow queue e :: h' → queue.length = MAX_QUEUE ∧
    handed h ++ (queue ++ [e]) = (matched h).filter fun e => e.oid ∉ (discarded h).map (·.oid)

variable {Ws : Type} [DecidableEq Ws]

theorem reachable_queueInv {env : Env} {w : World Ws} (hr : Reachable (Step env) .init w) {ws : Ws} {c : Conn}
    (hc : w.conns ws = some c) : QueueInv w.broadcasts c := by
  have hr' : Reachable (Guarded (Allowed (fun _ _ => True) ws) (Step env)) .init w :=
    hr.guarded fun w a c _ => by cases a <;> simp; split <;> simp
  exact conn_inv (I := QueueInv) inv_opened (fun es e c hi hreg => inv_gone hi hreg e)
    (fun es e c hi _ hreg _ => inv_broadcast hi hreg e) (fun es c input hi he _ => inv_handle hi input he) hr' hc

/-- Every client of every run gets what was due to it, in order, without
duplicates, except for what overflows discarded. -/
theorem client_delivers {env : Env} {ws : Ws} {w : World Ws} {o : Watch}
    (hr : Reachable (WatchStep env ws) (.init, .init) (w, o)) {c : Conn} (hc : w.conns ws = some c) : Delivers o.due c := by
  have hdue := ((reachable_watched (fun _ _ _ h => h) hr).client c hc).due
  have hi := reachable_queueInv hr.unwatched hc
  have hlt : (w.broadcasts.map (·.oid)).Pairwise (· < ·) := by
    rw [broadcasts_oid hr.unwatched]; exact List.pairwise_lt_range
  have hmatched : ∀ h, h <+: c.history → ((matched h).map (·.oid)).Pairwise (· < ·) := by
    intro h hp
    have hsub : (matched h).Sublist w.broadcasts :=
      (matched_sublist h).trans ((hp.filterMap _).sublist.trans hi.broadcasts.sublist)
    exact hlt.sublist (hsub.map _)
  have hnodup : ∀ h, h <+: c.history → ((matched h).map (·.oid)).Nodup :=
    fun h hp => (hmatched h hp).imp Nat.ne_of_lt
  refine ⟨hi.bounded, ?_, ?_, ?_, ?_, hdue.symm, ?_⟩
  · rw [hi.callbacks]; split <;> simp
  · intro hopen hq; rw [hi.callbacks, hi.busy hopen hq]; rfl
  · rw [hdue]; exact hmatched _ List.prefix_rfl
  · rw [hdue]; exact hi.fifo.delivered_queued (·.oid) (hnodup _ List.prefix_rfl)
  · intro h queue e h' he
    refine ⟨hi.overflows queue e (by simp [he]), ?_⟩
    have hf := hi.fifo
    rw [he, marks, marksFrom_append, marksFrom] at hf
    exact (hf.of_dropped).delivered_queued (·.oid) (hnodup _ ⟨_, he.symm⟩)

/-- A client subscribes to incident 1, which then has two events: the first is
being sent, the second waits. -/
theorem client_delivers_two : ∃ (w : World Nat) (o : Watch) (c : Conn), w.conns 0 = some c ∧ o.due.map (·.oid) = [0, 1] ∧
    (handed c.history).map (·.oid) = [0] ∧ c.queue.map (·.oid) = [1] ∧ Delivers o.due c := by
  have h0 : Reachable (WatchStep .accepting 0) ((.init : World Nat), .init) _ := .refl
  have h1 := h0.nextWatched (.upgrade 0 ⟨"/rt", fun _ => none⟩ true) rfl
  have h2 := h1.nextWatched (.on 0 (.message (some (.obj [("type", .str "subscribe"), ("incidentId", .num 1)])))) rfl
  have h3 := h2.nextWatched (.notification (some (.obj [("incidentId", .num 1), ("seq", .num 1)]))) rfl
  have h4 := h3.nextWatched (.notification (some (.obj [("incidentId", .num 1), ("seq", .num 2)]))) rfl
  have delivers {w : World Nat} {o : Watch} {c : Conn} (hr : Reachable (WatchStep .accepting 0) (.init, .init) (w, o))
      (hc : w.conns 0 = some c) : w.conns 0 = some c ∧ Delivers o.due c := ⟨hc, client_delivers hr hc⟩
  obtain ⟨hc, hd⟩ := delivers h4 rfl
  exact ⟨_, _, _, hc, rfl, rfl, rfl, hd⟩

end Tactix.Realtime
