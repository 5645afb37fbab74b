import Tactix.IncidentSvc.Notified
import Tactix.Realtime.Queue
/-!
# From the log to the clients

incident-svc, the channel `tactix_events` and the realtime service as one system. A
`NOTIFY` may fail, a notification may wait or get lost, and others send to the same
channel. `frames_follow_log` says that a client is still handed events of the log only,
in the order of the log and each at most once.
-/
open Tactix.Js Tactix.IncidentSvc ServiceLib

namespace Tactix.Realtime

/-- A payload on the channel. `origin` is the event it tells of, when incident-svc sent it. -/
structure Notice where
  payload : List Char
  origin : Option Listener.IncidentEvent

structure System (D Ws : Type) where
  svc : Listener.State D
  /-- How many of its queries PostgreSQL has executed. One connection executes them in order. -/
  executed : Nat
  /-- What is on its way to the realtime service. -/
  wire : List Notice
  rt : World Ws
  /-- The notices behind the broadcasts. -/
  heard : List Notice
  /-- The payloads of other senders. -/
  foreign : List (List Char)

inductive SystemAction (Ws : Type) where
  | svc (a : Listener.Act)
  | execute (ok : Bool)
  | foreign (payload : List Char)
  | lose
  | deliver
  | rt (a : Action Ws)

variable {D Ws : Type}

def System.init (dbClient : Bool) (d : D) : System D Ws := ⟨Sys.init (.init dbClient) d, 0, [], .init, [], []⟩

section
variable (nums : NumberText)

/-- `NOTIFY tactix_events` with the text of the envelope. Other queries send nothing. -/
def notices (q : Listener.Query) : List Notice :=
  (q.event.map fun e => ⟨stringify nums 0 e.envelope, some e⟩).toList

/-- What `JSON.parse` of a payload hands to `broadcast`, if it does not throw. -/
def Notice.body (n : Notice) : Option Json := parse nums n.payload

inductive SystemStep [DecidableEq Ws] (env : Listener.Env) (ans : D → (q : Listener.Query) → q.Reply → D → Prop) (rtEnv : Env) :
    System D Ws → SystemAction Ws → System D Ws → Prop
  | svc {s : System D Ws} {a : Listener.Act} {svc : Listener.State D} : Listener.ListenerStep env ans s.svc a svc →
      SystemStep env ans rtEnv s (.svc a) { s with svc }
  | execute {s : System D Ws} {q : Listener.Query} {ok : Bool} : s.svc.issued[s.executed]? = some q →
      SystemStep env ans rtEnv s (.execute ok)
        { s with executed := s.executed + 1, wire := s.wire ++ if ok then notices nums q else [] }
  | foreign {s : System D Ws} {payload : List Char} : SystemStep env ans rtEnv s (.foreign payload)
      { s with wire := s.wire ++ [⟨payload, none⟩], foreign := payload :: s.foreign }
  | lose {s : System D Ws} {n : Notice} {wire : List Notice} : s.wire = n :: wire →
      SystemStep env ans rtEnv s .lose { s with wire }
  | deliver {s : System D Ws} {n : Notice} {wire : List Notice} {rt : World Ws} : s.wire = n :: wire →
      Step rtEnv s.rt (.notification (n.body nums)) rt → SystemStep env ans rtEnv s .deliver
        { s with wire, rt, heard := s.heard ++ if (n.body nums).isSome then [n] else [] }
  | rt {s : System D Ws} {a : Action Ws} {rt : World Ws} : (∀ body, a ≠ .notification body) → Step rtEnv s.rt a rt →
      SystemStep env ans rtEnv s (.rt a) { s with rt }

/-- The notices come from the log, in its order, and the broadcasts are the notices. -/
structure Chained (s : System D Ws) : Prop where
  executed : s.executed ≤ s.svc.issued.length
  order : ((s.heard ++ s.wire).filterMap (·.origin)).Sublist ((s.svc.issued.take s.executed).filterMap Listener.Query.event)
  payloads : ∀ n ∈ s.heard ++ s.wire, ∀ e, n.origin = some e → n.payload = stringify nums 0 e.envelope
  foreign : ∀ n ∈ s.heard ++ s.wire, n.origin = none → n.payload ∈ s.foreign
  broadcasts : s.rt.broadcasts.map (fun e => some e.body) = s.heard.map (·.body nums)

end

section
variable {nums : NumberText} {env : Listener.Env} {ans : D → (q : Listener.Query) → q.Reply → D → Prop} {rtEnv : Env}
  {s s' : System D Ws}

theorem chained_init (dbClient : Bool) (d : D) : Chained nums (.init dbClient d : System D Ws) :=
  ⟨Nat.zero_le _, .slnil, by simp [System.init], by simp [System.init], rfl⟩

/-- The service issues more queries behind those it has issued. -/
theorem issued_grows {svc svc' : Listener.State D} {a : Listener.Act} (h : Listener.ListenerStep env ans svc a svc') :
    svc.issued <+: svc'.issued := by
  cases h with
  | start => exact List.prefix_append ..
  | answer => exact List.prefix_rfl
  | resume => exact List.prefix_append ..
  | outside => exact List.prefix_rfl

theorem Chained.svc (h : Chained nums s) {svc : Listener.State D} (hp : s.svc.issued <+: svc.issued) :
    Chained nums { s with svc } := by
  obtain ⟨t, ht⟩ := hp
  have htake : svc.issued.take s.executed = s.svc.issued.take s.executed := by
    rw [← ht, List.take_append_of_le_length h.executed]
  exact { h with
    executed := h.executed.trans (by simp [← ht])
    order := by rw [htake]; exact h.order }

theorem Chained.execute (h : Chained nums s) {q : Listener.Query} (hq : s.svc.issued[s.executed]? = some q) (ok : Bool) :
    Chained nums { s with executed := s.executed + 1, wire := s.wire ++ if ok then notices nums q else [] } := by
  obtain ⟨hlt, hget⟩ := List.getElem?_eq_some_iff.1 hq
  have htake : s.svc.issued.take (s.executed + 1) = s.svc.issued.take s.executed ++ [q] := by
    rw [List.take_add_one, hq, Option.toList_some]
  have hmem : ∀ n ∈ s.heard ++ (s.wire ++ if ok then notices nums q else []), n ∈ s.heard ++ s.wire ∨
      ∃ e, q.event = some e ∧ n = ⟨stringify nums 0 e.envelope, some e⟩ := by
    intro n hn
    rw [← List.append_assoc] at hn
    rcases List.mem_append.1 hn with hn | hn
    · exact .inl hn
    · split at hn
      · rw [notices, Option.mem_toList] at hn
        obtain ⟨e, he, rfl⟩ := Option.map_eq_some_iff.1 hn
        exact .inr ⟨e, he, rfl⟩
      · cases hn
  refine ⟨hlt, ?_, fun n hn e he => ?_, fun n hn hnone => ?_, h.broadcasts⟩
  · dsimp only
    rw [htake, ← List.append_assoc, List.filterMap_append, List.filterMap_append (l := s.svc.issued.take _)]
    refine h.order.append ?_
    split
    · cases he : q.event <;> simp [notices, he]
    · simp
  · rcases hmem n hn with hn | ⟨e', -, rfl⟩
    · exact h.payloads n hn e he
    · cases he
      rfl
  · rcases hmem n hn with hn | ⟨e', -, rfl⟩
    · exact h.foreign n hn hnone
    · cases hnone

theorem Chained.send (h : Chained nums s) (payload : List Char) :
    Chained nums { s with wire := s.wire ++ [⟨payload, none⟩], foreign := payload :: s.foreign } := by
  refine ⟨h.executed, ?_, fun n hn e he => ?_, fun n hn hnone => ?_, h.broadcasts⟩
  · dsimp only
    rw [← List.append_assoc, List.filterMap_append]
    simpa using h.order
  · rw [← List.append_assoc] at hn
    rcases List.mem_append.1 hn with hn | hn
    · exact h.payloads n hn e he
    · rw [List.mem_singleton.1 hn] at he
      cases he
  · rw [← List.append_assoc] at hn
    rcases List.mem_append.1 hn with hn | hn
    · exact List.mem_cons_of_mem _ (h.foreign n hn hnone)
    · rw [List.mem_singleton.1 hn]
      exact List.mem_cons_self

/-- A notice is taken off the wire: it is heard, or nobody hears of it. -/
theorem Chained.take (h : Chained nums s) {n : Notice} {wire heard : List Notice} (hw : s.wire = n :: wire)
    (hheard : heard = [n] ∨ heard = []) {rt : World Ws}
    (hb : rt.broadcasts.map (fun e => some e.body) = (s.heard ++ heard).map (·.body nums)) :
    Chained nums { s with wire, rt, heard := s.heard ++ heard } := by
  have hsub : ((s.heard ++ heard) ++ wire).Sublist (s.heard ++ s.wire) := by
    rw [hw, List.append_assoc]
    refine (List.Sublist.refl _).append ?_
    rcases hheard with rfl | rfl
    · exact .refl _
    · exact List.sublist_cons_self ..
  exact ⟨h.executed, (hsub.filterMap _).trans h.order, fun n hn => h.payloads n (hsub.subset hn),
    fun n hn => h.foreign n (hsub.subset hn), hb⟩

variable [DecidableEq Ws]

/-- A notification is broadcast when it parses. -/
theorem notification_broadcasts {w w' : World Ws} {payload : Option Json} (h : Step rtEnv w (.notification payload) w') :
    w'.broadcasts.map (fun e => some e.body) = w.broadcasts.map (fun e => some e.body) ++ (payload.map some).toList := by
  unfold Step step at h
  split at h
  · cases h
  · cases payload with
    | none => cases h; simp
    | some body => cases h; simp [World.event]

theorem quiet_broadcasts {w w' : World Ws} {a : Action Ws} (ha : ∀ body, a ≠ .notification body) (h : Step rtEnv w a w') :
    w'.broadcasts = w.broadcasts := by
  cases step_change h with
  | quiet _ hb => exact hb
  | opened => rfl
  | broadcast => exact absurd rfl (ha _)
  | on _ _ _ hb => exact hb

theorem chained_step {a : SystemAction Ws} (h : Chained nums s) (hs : SystemStep nums env ans rtEnv s a s') :
    Chained nums s' := by
  cases hs with
  | svc hstep => exact h.svc (issued_grows hstep)
  | execute hq => exact h.execute hq _
  | foreign => exact h.send _
  | lose hw =>
    have hb : s.rt.broadcasts.map (fun e => some e.body) = (s.heard ++ ([] : List Notice)).map (·.body nums) := by
      rw [List.append_nil, h.broadcasts]
    simpa using h.take hw (.inr rfl) hb
  | @deliver n _ _ hw hstep =>
    refine h.take hw ?_ ?_
    · split
      · exact .inl rfl
      · exact .inr rfl
    · rw [notification_broadcasts hstep, h.broadcasts, List.map_append]
      cases hbody : n.body nums <;> simp [hbody]
  | rt ha hstep => exact { h with broadcasts := by dsimp only; rw [quiet_broadcasts ha hstep]; exact h.broadcasts }

/-- A run of the system, as the runs of its parts. -/
theorem system_parts {dbClient : Bool} {d : D} (h : Reachable (SystemStep nums env ans rtEnv) (.init dbClient d) s) :
    Reachable (Listener.ListenerStep env ans) (Sys.init (.init dbClient) d) s.svc ∧ Reachable (Step rtEnv) .init s.rt ∧
      Chained nums s := by
  refine h.inv (I := fun s => Reachable (Listener.ListenerStep env ans) (Sys.init (.init dbClient) d) s.svc ∧
    Reachable (Step rtEnv) .init s.rt ∧ Chained nums s) ⟨.refl, .refl, chained_init dbClient d⟩ ?_
  rintro s a s' ⟨hsvc, hrt, hc⟩ hs
  refine ⟨?_, ?_, chained_step hc hs⟩
  · cases hs with
    | svc hstep => exact hsvc.step hstep
    | _ => exact hsvc
  · cases hs with
    | deliver _ hstep => exact hrt.step hstep
    | rt _ hstep => exact hrt.step hstep
    | _ => exact hrt

/-- What a client was handed it was handed in the order of the broadcasts. -/
theorem handed_sublist {w : World Ws} (hr : Reachable (Step rtEnv) .init w) {ws : Ws} {c : Conn} (hc : w.conns ws = some c) :
    (handed c.history).Sublist w.broadcasts := by
  have hi := reachable_queueInv hr hc
  have hmatched : (matched c.history).Sublist w.broadcasts := (matched_sublist c.history).trans hi.broadcasts.sublist
  have hnodup : ((matched c.history).map (·.oid)).Nodup := by
    refine (hmatched.map (·.oid)).nodup ?_
    rw [broadcasts_oid hr]
    exact List.nodup_range
  have hall := hi.fifo.delivered_queued (·.oid) hnodup
  have hsub : (handed c.history ++ c.queue).Sublist (matched c.history) := hall ▸ List.filter_sublist
  exact (List.sublist_append_left _ _).trans (hsub.trans hmatched)

/-- The notice behind a broadcast. -/
theorem heard_of_broadcast {dbClient : Bool} {d : D} (h : Reachable (SystemStep nums env ans rtEnv) (.init dbClient d) s) {e : Event}
    (he : e ∈ s.rt.broadcasts) : ∃ n ∈ s.heard, s.heard[e.oid]? = some n ∧ n.body nums = some e.body := by
  obtain ⟨-, hrt, hc⟩ := system_parts h
  obtain ⟨k, hk⟩ := List.mem_iff_getElem?.1 he
  have hoid : e.oid = k := by
    have hmap := congrArg (·[k]?) (broadcasts_oid hrt)
    have hlt := (List.getElem?_eq_some_iff.1 hk).1
    simpa only [List.getElem?_map, hk, List.getElem?_range hlt, Option.map_some, Option.some.injEq] using hmap
  have hmap := congrArg (·[k]?) hc.broadcasts
  simp only [List.getElem?_map, hk, Option.map_some] at hmap
  obtain ⟨n, hn, hbody⟩ := Option.map_eq_some_iff.1 hmap.symm
  exact ⟨n, List.mem_of_getElem? hn, hoid ▸ hn, hbody⟩

/-- The origins of the broadcasts are those of the notices heard. -/
theorem origins_of_broadcasts (hrt : Reachable (Step rtEnv) .init s.rt) (hc : Chained nums s) :
    (s.rt.broadcasts.filterMap fun e => s.heard[e.oid]?.bind (·.origin)) = s.heard.filterMap (·.origin) := by
  have hlen : s.rt.broadcasts.length = s.heard.length := by simpa using congrArg List.length hc.broadcasts
  have hheard : (List.range s.heard.length).map (s.heard[·]?) = s.heard.map some :=
    List.ext_getElem (by simp) fun k h₁ h₂ => by simp [List.getElem?_eq_getElem (show k < s.heard.length by simpa using h₂)]
  calc (s.rt.broadcasts.filterMap fun e => s.heard[e.oid]?.bind (·.origin))
    _ = (s.rt.broadcasts.map (·.oid)).filterMap (fun k => s.heard[k]?.bind (·.origin)) := by rw [List.filterMap_map]; rfl
    _ = ((List.range s.heard.length).map (s.heard[·]?)).filterMap (·.bind (·.origin)) := by
      rw [broadcasts_oid hrt, hlen, List.filterMap_map]; rfl
    _ = s.heard.filterMap (·.origin) := by rw [hheard, List.filterMap_map]; rfl

/-- In every run, the frames a client was handed that come from incident-svc are events of
its log, in the order of the log and each at most once, and carry the event's envelope;
all others are payloads of other senders. -/
theorem frames_follow_log (hparse : ∀ t, env.parse t = parse nums t.toList) {dbClient : Bool} {d : D}
    (h : Reachable (SystemStep nums env ans rtEnv) (.init dbClient d) s) (ws : Ws) {c : Conn} (hconn : s.rt.conns ws = some c) :
    ∃ origin : Event → Option Listener.IncidentEvent, ((handed c.history).filterMap origin).Sublist s.svc.mem.events ∧
      ∀ e ∈ handed c.history, (∀ x, origin e = some x → e.body = x.envelope) ∧
        (origin e = none → ∃ t ∈ s.foreign, parse nums t = some e.body) := by
  obtain ⟨hsvc, hrt, hc⟩ := system_parts h
  have henv : env.Parses := fun t v hv => parse_distinct (hparse t ▸ hv)
  have hhanded := handed_sublist hrt hconn
  have hannounced : ((s.svc.issued.take s.executed).filterMap Listener.Query.event).Sublist (Listener.announced s.svc) :=
    (List.take_sublist _ _).filterMap _
  have horder : (s.heard.filterMap (·.origin)).Sublist (Listener.announced s.svc) :=
    ((List.sublist_append_left _ _).filterMap _).trans (hc.order.trans hannounced)
  let origin : Event → Option Listener.IncidentEvent := fun e => s.heard[e.oid]?.bind (·.origin)
  refine ⟨origin, ?_, fun e he => ?_⟩
  · have heq : s.rt.broadcasts.filterMap origin = s.heard.filterMap (·.origin) := origins_of_broadcasts hrt hc
    calc ((handed c.history).filterMap origin)
      List.Sublist _ (s.rt.broadcasts.filterMap origin) := hhanded.filterMap _
      List.Sublist _ (Listener.announced s.svc) := heq ▸ horder
      List.Sublist _ s.svc.mem.events := Listener.announced_sublist henv hsvc
  · obtain ⟨n, hn, hget, hbody⟩ := heard_of_broadcast h (hhanded.subset he)
    have horigin : origin e = n.origin := by simp only [origin, hget, Option.bind_some]
    have hmem : n ∈ s.heard ++ s.wire := List.mem_append_left _ hn
    rw [horigin]
    refine ⟨fun x hx => ?_, fun hnone => ⟨n.payload, hc.foreign n hmem hnone, hbody⟩⟩
    have hx' : x ∈ Listener.announced s.svc := horder.subset (List.mem_filterMap.2 ⟨n, hn, hx⟩)
    have hd := Listener.envelope_distinct (Listener.reachable_announces henv hsvc x hx').2
    rw [Notice.body, hc.payloads n hmem x hx, parse_stringify hd] at hbody
    exact (Option.some.inj hbody).symm

end

/-- The runs of incident-svc by itself are runs of the system. -/
theorem svc_run {nums : NumberText} {env : Listener.Env} {ans : D → (q : Listener.Query) → q.Reply → D → Prop} {rtEnv : Env}
    [DecidableEq Ws] {init s : System D Ws} (h : Reachable (SystemStep nums env ans rtEnv) init s) {svc : Listener.State D}
    (hsvc : Reachable (Listener.ListenerStep env ans) s.svc svc) :
    Reachable (SystemStep nums env ans rtEnv) init { s with svc } := by
  induction hsvc with
  | refl => exact h
  | step _ ht ih => exact ih.next (.svc _) (.svc ht)

/-- A notice that can be read is broadcast. -/
theorem SystemStep.hear {nums : NumberText} {env : Listener.Env} {ans : D → (q : Listener.Query) → q.Reply → D → Prop}
    {rtEnv : Env} [DecidableEq Ws] {s : System D Ws} {n : Notice} {wire : List Notice} {body : Json} {rt : World Ws}
    (hw : s.wire = n :: wire) (hb : n.body nums = some body) (hs : Step rtEnv s.rt (.notification (some body)) rt) :
    SystemStep nums env ans rtEnv s .deliver { s with wire, rt, heard := s.heard ++ [n] } := by
  have hstep : SystemStep nums env ans rtEnv s .deliver
      { s with wire, rt, heard := s.heard ++ if (n.body nums).isSome then [n] else [] } := .deliver hw (by rw [hb]; exact hs)
  rwa [hb] at hstep

namespace Sample

/-- A platform that reads texts as `JSON.parse` does. -/
def platform : Listener.Env := { Listener.Env.sample with parse := fun t => parse .unary t.toList }

def created : Listener.IncidentEvent := ⟨1, 1, .CREATED (.str "Outage") (.str "low") none⟩

theorem created_body : (⟨stringify .unary 0 created.envelope, some created⟩ : Notice).body .unary = some created.envelope :=
  parse_stringify (Listener.envelope_distinct (by simp [created, Listener.EventPayload.json, distinct_obj, Json.Distinct])) 0

end Sample

/-- A client subscribes to incident 1, which is created then, and gets the event. -/
theorem frames_follow_log_sample : ∃ (s : System Unit Nat) (c : Conn), s.rt.conns 0 = some c ∧
    (handed c.history).map (·.body) = [Sample.created.envelope] ∧
    ∃ origin : Event → Option Listener.IncidentEvent, ((handed c.history).filterMap origin).Sublist s.svc.mem.events ∧
      ∀ e ∈ handed c.history, (∀ x, origin e = some x → e.body = x.envelope) ∧
        (origin e = none → ∃ t ∈ s.foreign, parse .unary t = some e.body) := by
  have c0 : Reachable (Guarded (fun _ _ => True) (Listener.ListenerStep Sample.platform Listener.anyReply))
    (Sys.init (.init true) ()) _ := .refl
  have c1 := reach_start c0 trivial (i := 0) (l := .sample "POST" "/incidents") rfl rfl
  have c2 := reach_answer c1 trivial (i := 0) (a := some [Listener.Sample.chunk]) (d := ()) rfl trivial
  have c3 := reach_resume c2 trivial (i := 0) rfl rfl
  have h0 : Reachable (SystemStep .unary Sample.platform Listener.anyReply .accepting) (.init true () : System Unit Nat) _ := .refl
  have h1 := h0.next (.rt (.upgrade 0 ⟨"/rt", fun _ => none⟩ true)) (.rt (by simp) rfl)
  have h2 := h1.next (.rt (.on 0 (.message (some (.obj [("type", .str "subscribe"), ("incidentId", .num 1)]))))) (.rt (by simp) rfl)
  have h3 := svc_run h2 c3.forget
  have h4 := h3.next (.execute true) (.execute rfl)
  have h5 := h4.next (.execute true) (.execute rfl)
  have h6 := h5.next .deliver (.hear rfl Sample.created_body rfl)
  exact ⟨_, _, rfl, rfl, frames_follow_log (fun _ => rfl) h6 0 rfl⟩

end Tactix.Realtime
