import Mathlib.Data.List.Perm.Basic
import Tactix.Realtime.Queue
/-!
# Snapshot and delta catch-up

An overflow answers for what it discards with a snapshot, which is fetched
while later events are sent, and which may never come. `KeepsUp` are the
conditions on the inputs of a client under which nothing is lost and no
snapshot is older than a frame before it (`catches_up`).
-/
open Tactix.Js Tactix.Authz ServiceLib

namespace Tactix.Realtime

/-- The `seq` of a frame, when it is a number. -/
def Obs.seqNo : Obs → Option Rat
  | .handed e => num? e.seq
  | .snapshot _ _ seq => num? seq
  | .broadcast _ | .subscribed _ | .overflow .. => none

/-- A snapshot with `seq` at least that of the event. -/
def Covers (seq : Option Json) (e : Event) : Prop := ∃ m n, num? e.seq = some m ∧ num? seq = some n ∧ m ≤ n

/-- Every event that was due was sent once it was broadcast, or is covered by a
snapshot sent after it. -/
def CaughtUp (due : List Event) (h : List Obs) : Prop :=
  ∀ e ∈ due, ∃ h₁ h₂, h = h₁ ++ .broadcast e :: h₂ ∧
    (.handed e ∈ h₂ ∨ ∃ incidentId incident seq, .snapshot incidentId incident seq ∈ h₂ ∧ Covers seq e)

/-- No snapshot has a smaller `seq` than a frame before it. -/
def Forward (h : List Obs) : Prop :=
  ∀ h₁ incidentId incident seq h₂, h = h₁ ++ .snapshot incidentId incident seq :: h₂ →
    ∀ o ∈ h₁, ∀ m n, o.seqNo = some m → num? seq = some n → m ≤ n

/-! ## Conditions on the inputs -/

/-- No frame so far has a `seq` above `n`. -/
def SentUpTo (h : List Obs) (n : Rat) : Prop := ∀ o ∈ h, ∀ m, o.seqNo = some m → m ≤ n

/-- A frame with this `seq` overtakes none of the snapshots being fetched. -/
def InTurn (fetches : List Fetch) (seq : Option Rat) : Prop :=
  ∀ n, seq = some n → ∀ f ∈ fetches, ∀ p, num? f.seq = some p → n ≤ p

/-- An overflow is triggered by an event numbered at least as high as all the
queued ones and all the frames sent; a subscribe asks for a snapshot numbered
so; an overflow's fetch does not fail; and an event or a snapshot is sent only
in turn. -/
def KeepsUp (c : Conn) : Input → Prop
  | .broadcast e => e.matches c.incidentId = true →
    (MAX_QUEUE ≤ c.queue.length → (∀ x ∈ c.queue ++ [e], Covers e.seq x) ∧ ∀ n, num? e.seq = some n → SentUpTo c.history n) ∧
    (c.queue.length < MAX_QUEUE → ∀ msg, (c.push e).ready = some msg → InTurn c.fetches (num? msg.seq))
  | .message (some msg) => ∀ j n, subscribes msg = some j → num? (msg.get? "seq") = some n → SentUpTo c.history n
  | .sent false => ∀ msg, { c with sending := false }.ready = some msg → InTurn c.fetches (num? msg.seq)
  | .fetched i answer => ∀ f, c.fetches[i]? = some f →
    match answer with
    | none => f.overflow = false
    | some _ => InTurn (c.fetches.eraseIdx i) (num? f.seq)
  | _ => True

/-! ## The invariant -/

/-- An overflow's snapshot that is still to come covers the event. -/
def Promised (fetches : List Fetch) (e : Event) : Prop := ∃ f ∈ fetches, f.overflow = true ∧ Covers f.seq e

structure CatchInv (c : Conn) : Prop where
  accounted : ∀ h₁ e h₂, c.history = h₁ ++ .broadcast e :: h₂ → e.matches (subscription none h₁) = true →
    e ∈ c.queue ∨ Promised c.fetches e ∨ .handed e ∈ h₂ ∨
      ∃ incidentId incident seq, .snapshot incidentId incident seq ∈ h₂ ∧ Covers seq e
  forward : Forward c.history
  in_turn : ∀ o ∈ c.history, InTurn c.fetches o.seqNo

theorem inTurn_append {fs gs : List Fetch} {seq : Option Rat} (hf : InTurn fs seq) (hg : InTurn gs seq) :
    InTurn (fs ++ gs) seq := by
  intro n hn f hm
  rcases List.mem_append.1 hm with hm | hm
  · exact hf n hn f hm
  · exact hg n hn f hm

theorem forward_snoc {h : List Obs} {o : Obs} (hf : Forward h)
    (ho : ∀ incidentId incident seq, o = .snapshot incidentId incident seq → ∀ n, num? seq = some n → SentUpTo h n) :
    Forward (h ++ [o]) := by
  intro h₁ incidentId incident seq h₂ he o' ho' m n hm hn
  rcases snoc_eq_append_cons he with ⟨-, rfl, rfl⟩ | ⟨t, -, ht⟩
  · exact ho incidentId incident seq rfl n hn o' ho' m hm
  · exact hf h₁ incidentId incident seq t ht o' ho' m n hm hn

/-- A client observes something: a broadcast that matches is queued, and each
event queued or promised stays so or is accounted for by the observation. -/
theorem catch_observe {c c' : Conn} {o : Obs} (hi : CatchInv c) (hh : c'.history = c.history ++ [o])
    (hb : ∀ e, o = .broadcast e → e.matches (subscription none c.history) = true → e ∈ c'.queue)
    (hq : ∀ e ∈ c.queue, e ∈ c'.queue ∨ Promised c'.fetches e ∨ o = .handed e)
    (hp : ∀ e, Promised c.fetches e → Promised c'.fetches e ∨
      ∃ incidentId incident seq, o = .snapshot incidentId incident seq ∧ Covers seq e)
    (hf : ∀ incidentId incident seq, o = .snapshot incidentId incident seq → ∀ n, num? seq = some n →
      SentUpTo c.history n)
    (ht : ∀ o' ∈ c.history, InTurn c'.fetches o'.seqNo) (hto : InTurn c'.fetches o.seqNo) : CatchInv c' := by
  refine ⟨fun h₁ e h₂ he hm => ?_, hh ▸ forward_snoc hi.forward hf, fun o' ho' => ?_⟩
  · rw [hh] at he
    rcases snoc_eq_append_cons he with ⟨-, rfl, rfl⟩ | ⟨t, rfl, ht⟩
    · exact .inl (hb e rfl hm)
    -- An event of before moves from the queue, or from a promise, to what is observed now.
    · rcases hi.accounted h₁ e t ht hm with h | h | h | ⟨incidentId, incident, seq, h, hc⟩
      · rcases hq e h with h | h | rfl
        · exact .inl h
        · exact .inr (.inl h)
        · exact .inr (.inr (.inl (by simp)))
      · rcases hp e h with h | ⟨incidentId, incident, seq, rfl, hc⟩
        · exact .inr (.inl h)
        · exact .inr (.inr (.inr ⟨incidentId, incident, seq, by simp, hc⟩))
      · exact .inr (.inr (.inl (List.mem_append_left _ h)))
      · exact .inr (.inr (.inr ⟨incidentId, incident, seq, List.mem_append_left _ h, hc⟩))
  · rw [hh] at ho'
    rcases List.mem_append.1 ho' with ho' | ho'
    · exact ht o' ho'
    · rw [List.mem_singleton.1 ho']; exact hto

theorem inTurn_none (fs : List Fetch) : InTurn fs none := fun _ h => nomatch h

theorem promised_append {fs : List Fetch} (gs : List Fetch) {e : Event} (h : Promised fs e) : Promised (fs ++ gs) e := by
  obtain ⟨f, hf, h⟩ := h
  exact ⟨f, List.mem_append_left _ hf, h⟩

theorem catch_flush {c : Conn} (hi : CatchInv c) (hG : ∀ msg, c.ready = some msg → InTurn c.fetches (num? msg.seq)) :
    CatchInv (flush c) := by
  rcases flush_cases c with ⟨-, e⟩ | ⟨msg, queue, hr, hq, -, e⟩
  · rw [e]; exact hi
  · rw [e]
    refine catch_observe (o := .handed msg) hi rfl (by simp) (fun x hx => ?_) (fun x hx => .inl hx) (by simp) hi.in_turn
      (hG msg hr)
    rw [hq] at hx
    rcases List.mem_cons.1 hx with rfl | hx
    · exact .inr (.inr rfl)
    · exact .inl hx

theorem catch_broadcast {c : Conn} (hi : CatchInv c) (hs : c.incidentId = subscription none c.history) {e : Event}
    (hG : KeepsUp c (.broadcast e)) : CatchInv (c.broadcast e) := by
  have hpush : CatchInv (c.push e) :=
    catch_observe (o := .broadcast e) hi rfl (by rintro _ ⟨⟩ -; simp [Conn.push])
      (fun x hx => .inl (List.mem_append_left _ hx)) (fun x hx => .inl hx) (by simp) hi.in_turn (inTurn_none _)
  rcases broadcast_cases c e with ⟨hm, he⟩ | ⟨hm, hfull, he⟩ | ⟨hm, hroom, he⟩
  · rw [he]
    refine catch_observe (o := .broadcast e) hi rfl ?_ (fun x hx => .inl hx) (fun x hx => .inl hx) (by simp) hi.in_turn
      (inTurn_none _)
    rintro _ ⟨⟩ hm'
    simp [hs ▸ hm] at hm'
  · obtain ⟨hcov, hsent⟩ := (hG hm).1 hfull
    rw [he]
    refine catch_observe (o := .overflow c.queue e) hpush rfl (by simp) (fun x hx => .inr (.inl ?_))
      (fun x hx => .inl (promised_append _ hx)) (by simp) (fun o ho => ?_) (inTurn_none _)
    · exact ⟨⟨c.incidentId, e.seq, true⟩, by simp, rfl, hcov x hx⟩
    · refine inTurn_append (hpush.in_turn o ho) fun m hm f hf n hn => ?_
      rw [List.mem_singleton.1 hf] at hn
      rcases List.mem_append.1 ho with ho | ho
      · exact hsent n hn o ho m hm
      · rw [List.mem_singleton.1 ho] at hm; exact nomatch hm
  · rw [he]
    exact catch_flush hpush ((hG hm).2 hroom)

/-- All fetches but the one that answered are still to come. -/
theorem promised_eraseIdx {fs : List Fetch} {i : Nat} {f : Fetch} (hf : fs[i]? = some f) {e : Event}
    (h : Promised fs e) : Promised (fs.eraseIdx i) e ∨ (f.overflow = true ∧ Covers f.seq e) := by
  obtain ⟨g, hg, ho, hc⟩ := h
  obtain ⟨hi, rfl⟩ := List.getElem?_eq_some_iff.1 hf
  rcases List.mem_cons.1 ((List.getElem_cons_eraseIdx_perm hi).symm.subset hg) with rfl | hg
  · exact .inr ⟨ho, hc⟩
  · exact .inl ⟨g, hg, ho, hc⟩

theorem inTurn_eraseIdx {fs : List Fetch} {seq : Option Rat} (h : InTurn fs seq) (i : Nat) :
    InTurn (fs.eraseIdx i) seq := fun n hn f hf => h n hn f (List.mem_of_mem_eraseIdx hf)

theorem catch_handle {c : Conn} (hi : CatchInv c) (hs : c.incidentId = subscription none c.history) (input : Input)
    (hG : KeepsUp c input) : CatchInv (c.handle input) := by
  cases input with
  | broadcast e => exact catch_broadcast hi hs hG
  | message data =>
    cases data with
    | none => exact hi
    | some msg =>
      rcases message_cases c msg with ⟨-, e⟩ | ⟨j, hj, e⟩
      · rw [Conn.handle, e]; exact hi
      · rw [Conn.handle, e]
        refine catch_observe (o := .subscribed j) hi rfl (by simp) (fun x hx => .inl hx)
          (fun x hx => .inl (promised_append _ hx)) (by simp) (fun o ho => ?_) (inTurn_none _)
        refine inTurn_append (hi.in_turn o ho) fun m hm f hf n hn => ?_
        split at hf
        · simp at hf
        · rename_i seq hseq
          rw [List.mem_singleton.1 hf] at hn
          exact hG j n hj (hseq.trans hn) o ho m hm
  | sent err =>
    have hidle : CatchInv { c with sending := false, callbacks := c.callbacks - 1 } := { hi with }
    cases err with
    | true => exact { hidle with }
    | false => exact catch_flush hidle hG
  | fetched i answer =>
    rcases fetched_cases c i answer with e | ⟨f, hf, ⟨rfl, e⟩ | ⟨incident, rfl, e⟩⟩
    · rw [Conn.handle, e]; exact hi
    · -- Only the fetch of a subscription may fail: it promised nothing.
      have hno : f.overflow = false := hG f hf
      rw [Conn.handle, e]
      refine { hi with accounted := fun h₁ x h₂ he hm => ?_, in_turn := fun o ho => inTurn_eraseIdx (hi.in_turn o ho) i }
      rcases hi.accounted h₁ x h₂ he hm with h | h | h
      · exact .inl h
      · rcases promised_eraseIdx hf h with h | ⟨ho, -⟩
        · exact .inr (.inl h)
        · simp [hno] at ho
      · exact .inr (.inr h)
    · rw [Conn.handle, e]
      refine catch_observe (o := .snapshot f.incidentId incident f.seq) hi rfl (by simp) (fun x hx => .inl hx)
        (fun x hx => ?_) ?_ (fun o ho => inTurn_eraseIdx (hi.in_turn o ho) i) (hG f hf)
      · rcases promised_eraseIdx hf hx with h | ⟨-, hc⟩
        · exact .inl h
        · exact .inr ⟨_, _, _, rfl, hc⟩
      · rintro _ _ _ ⟨⟩ n hn o ho m hm
        exact hi.in_turn o ho m hm f (List.mem_of_getElem? hf) n hn
  | leave => exact { hi with }
  | close => exact { hi with }

variable {Ws : Type} [DecidableEq Ws]

/-- The events that arrived are in the history, where they matched. -/
theorem mem_marksFrom {e : Event} {incidentId : Option Rat} {h : List Obs} (he : e ∈ arrivals (marksFrom incidentId h)) :
    ∃ h₁ h₂, h = h₁ ++ .broadcast e :: h₂ ∧ e.matches (subscription incidentId h₁) = true := by
  induction h generalizing incidentId with
  | nil => simp [marksFrom, arrivals] at he
  | cons o h ih =>
    rw [marksFrom, arrivals_append] at he
    rcases List.mem_append.1 he with he | he
    · cases o with
      | broadcast e' =>
        simp only [Obs.marks] at he
        split at he
        · rename_i hm
          obtain rfl : e = e' := by simpa [arrivals] using he
          exact ⟨[], h, rfl, hm⟩
        · simp [arrivals] at he
      | subscribed | handed | overflow | snapshot => simp [Obs.marks, arrivals] at he
    · obtain ⟨h₁, h₂, rfl, hm⟩ := ih he
      exact ⟨o :: h₁, h₂, rfl, hm⟩

/-- In every run whose inputs keep up, an open client with no send and no
fetch under way has been sent every event that was due to it, or a later
snapshot that covers it; and no snapshot ever goes back. -/
theorem catches_up {env : Env} {ws : Ws} {w : World Ws} {o : Watch}
    (hr : Reachable (Watching (Watch.see env ws) (Guarded (Allowed KeepsUp ws) (Step env))) (.init, .init) (w, o))
    {c : Conn} (hc : w.conns ws = some c) :
    (c.isOpen = true → c.callbacks = 0 → c.fetches = [] → CaughtUp o.due c.history) ∧ Forward c.history := by
  have hdue := ((reachable_watched (fun _ _ _ h => h.2) hr).client c hc).due
  have hi : QueueInv w.broadcasts c ∧ CatchInv c := by
    refine conn_inv (I := fun es c => QueueInv es c ∧ CatchInv c) (fun es user req now => ?_) (fun es e c hi hreg => ?_)
      (fun es e c hi _ hreg hG => ?_) (fun es c input hi he hG => ?_) hr.unwatched hc
    · exact ⟨inv_opened .., by simp [Conn.opened], fun _ _ _ _ _ he => by simp [Conn.opened] at he, by simp [Conn.opened]⟩
    · exact ⟨inv_gone hi.1 hreg e, hi.2⟩
    · exact ⟨inv_broadcast hi.1 hreg e, catch_broadcast hi.2 hi.1.subscription_eq hG⟩
    · exact ⟨inv_handle hi.1 input he, catch_handle hi.2 hi.1.subscription_eq input hG⟩
  refine ⟨fun hopen hidle hnone e he => ?_, hi.2.forward⟩
  -- Nothing waits in the queue of an open client that sends nothing.
  have hqueue : c.queue = [] := by
    by_contra hne
    have hcb := hi.1.callbacks
    rw [hidle, hi.1.busy hopen hne] at hcb
    simp at hcb
  rw [hdue] at he
  obtain ⟨h₁, h₂, hh, hm⟩ := mem_marksFrom he
  refine ⟨h₁, h₂, hh, ?_⟩
  rcases hi.2.accounted h₁ e h₂ hh hm with h | ⟨f, hf, -⟩ | h
  · simp [hqueue] at h
  · simp [hnone] at hf
  · exact h

/-- A client asks for what it missed up to event 3, gets the snapshot, then
event 4. -/
theorem catches_up_subscribed : ∃ (w : World Nat) (o : Watch) (c : Conn), w.conns 0 = some c ∧ o.due.map (·.oid) = [0] ∧
    c.history.filterMap Obs.seqNo = [3, 4] ∧ CaughtUp o.due c.history ∧ Forward c.history := by
  have h0 : Reachable (Watching (Watch.see .accepting 0) (Guarded (Allowed KeepsUp 0) (Step .accepting)))
      ((.init : World Nat), .init) _ := .refl
  have h1 := h0.nextWatched (.upgrade 0 ⟨"/rt", fun _ => none⟩ true) ⟨fun _ _ => trivial, rfl⟩
  have h2 := h1.nextWatched (.on 0 (.message (some (.obj [("type", .str "subscribe"), ("incidentId", .num 1), ("seq", .num 3)]))))
    ⟨fun c hc _ => by cases hc; rintro j n - - o ho; exact absurd ho List.not_mem_nil, rfl⟩
  have h3 := h2.nextWatched (.on 0 (.fetched 0 (some (.obj []))))
    ⟨fun c hc _ => by cases hc; rintro f - n - g hg; exact absurd hg List.not_mem_nil, rfl⟩
  have h4 := h3.nextWatched (.notification (some (.obj [("incidentId", .num 1), ("seq", .num 4)])))
    ⟨fun c hc _ => by
      cases hc
      refine fun _ => ⟨fun hfull => absurd hfull (by decide), ?_⟩
      rintro - msg - n - g hg; exact absurd hg List.not_mem_nil, rfl⟩
  have h5 := h4.nextWatched (.on 0 (.sent false))
    ⟨fun c hc _ => by cases hc; rintro msg - n - g hg; exact absurd hg List.not_mem_nil, rfl⟩
  have caught {w : World Nat} {o : Watch} {c : Conn}
      (hr : Reachable (Watching (Watch.see .accepting 0) (Guarded (Allowed KeepsUp 0) (Step .accepting))) (.init, .init) (w, o))
      (hc : w.conns 0 = some c) (hopen : c.isOpen = true) (hidle : c.callbacks = 0) (hnone : c.fetches = []) :
      w.conns 0 = some c ∧ CaughtUp o.due c.history ∧ Forward c.history :=
    ⟨hc, (catches_up hr hc).1 hopen hidle hnone, (catches_up hr hc).2⟩
  obtain ⟨hc, hcaught⟩ := caught h5 rfl rfl rfl rfl
  exact ⟨_, _, _, hc, rfl, rfl, hcaught⟩

/-- A client of one incident asks for what it missed up to event 3; event 5 is
sent before the snapshot, which is labelled 3. -/
theorem snapshot_goes_back : ¬ ∀ (env : Env) (w : World Nat) (o : Watch) (c : Conn),
    Reachable (WatchStep env 0) (.init, .init) (w, o) → w.conns 0 = some c → c.isOpen = true →
    (∀ k, .subscribed k ∈ c.history → k = 1) →
    (c.callbacks = 0 → c.fetches = [] → CaughtUp o.due c.history) ∧ Forward c.history := by
  intro h
  have h0 : Reachable (WatchStep .accepting 0) ((.init : World Nat), .init) _ := .refl
  have h1 := h0.nextWatched (.upgrade 0 ⟨"/rt", fun _ => none⟩ true) rfl
  have h2 := h1.nextWatched
    (.on 0 (.message (some (.obj [("type", .str "subscribe"), ("incidentId", .num 1), ("seq", .num 3)])))) rfl
  have h3 := h2.nextWatched (.notification (some (.obj [("incidentId", .num 1), ("seq", .num 5)]))) rfl
  have h4 := h3.nextWatched (.on 0 (.fetched 0 (some (.obj [])))) rfl
  have back {w : World Nat} {o : Watch} {c : Conn} (e : Event)
      (hr : Reachable (WatchStep .accepting 0) (.init, .init) (w, o)) (hc : w.conns 0 = some c)
      (hopen : c.isOpen = true) (he : num? e.seq = some 5)
      (hh : c.history = [.subscribed 1, .broadcast e, .handed e] ++ .snapshot (some 1) (.obj []) (some (.num 3)) :: []) :
      False := by
    have hforward := (h _ w o c hr hc hopen (by simp [hh])).2
    have hle : (5 : Rat) ≤ 3 := hforward _ _ _ _ _ hh (.handed e) (by simp) 5 3 he rfl
    exact absurd hle (by decide)
  exact back ⟨0, .obj [("incidentId", .num 1), ("seq", .num 5)]⟩ h4 rfl rfl rfl rfl

end Tactix.Realtime
