import Mathlib.Data.List.Perm.Subperm
import Mathlib.Data.List.Sort
import Tactix.IncidentSvc.Log
import Tactix.JsonRoundTrip
/-!
# What incident-svc announces

`commitEvent` sends the envelope of the event it has put in the log. In every run the
events announced are a part of the log, in its order (`announced_sublist`), and a
reader of an envelope's text gets the envelope back.
-/
open Tactix.Js Tactix.Authz ServiceLib

namespace Tactix.IncidentSvc.Listener

/-! ## Envelopes -/

def EventPayload.type : EventPayload → String
  | .CREATED .. => "CREATED"
  | .COMMENT_ADDED _ => "COMMENT_ADDED"
  | .STATUS_CHANGED _ => "STATUS_CHANGED"
  | .ATTACHMENT_ADDED .. => "ATTACHMENT_ADDED"

/-- The `payload` as an object; `JSON.stringify` leaves out an undefined description. -/
def EventPayload.json : EventPayload → Json
  | .CREATED title severity description =>
    .obj ([("title", title), ("severity", severity)] ++ (description.map fun d => ("description", d)).toList)
  | .COMMENT_ADDED comment => .obj [("comment", comment)]
  | .STATUS_CHANGED status => .obj [("status", status)]
  | .ATTACHMENT_ADDED attachmentId objectName filename =>
    .obj [("attachmentId", .num attachmentId), ("objectName", .str objectName), ("filename", .str filename)]

/-- The `envelope` of `commitEvent`. -/
def IncidentEvent.envelope (e : IncidentEvent) : Json :=
  .obj [("incidentId", .num e.incidentId), ("seq", .num e.id), ("type", .str e.payload.type), ("payload", e.payload.json)]

/-- The event a query announces. -/
def Query.event : Query → Option IncidentEvent
  | .notify incidentId seq payload => some ⟨seq, incidentId, payload⟩
  | _ => none

/-- The events announced so far. -/
def announced {D : Type} (s : State D) : List IncidentEvent := s.issued.filterMap Query.event

/-- What `JSON.parse` returns has no field twice. -/
def Env.Parses (env : Env) : Prop := ∀ s v, env.parse s = some v → v.Distinct

theorem envelope_distinct {e : IncidentEvent} (h : e.payload.json.Distinct) : e.envelope.Distinct := by
  simp [IncidentEvent.envelope, distinct_obj, Json.Distinct, h]

theorem created_distinct {title severity : Json} {description : Option Json} (ht : title.Distinct) (hs : severity.Distinct)
    (hd : ∀ d, description = some d → d.Distinct) : (EventPayload.CREATED title severity description).json.Distinct := by
  cases description with
  | none => simp [EventPayload.json, distinct_obj, ht, hs]
  | some d => simp [EventPayload.json, distinct_obj, ht, hs, hd d rfl]

theorem attached_distinct (id : Nat) (objectName filename : String) :
    (EventPayload.ATTACHMENT_ADDED id objectName filename).json.Distinct := by
  simp [EventPayload.json, distinct_obj, Json.Distinct]

/-! ## What a request announces -/

/-- The log grows at its end, and what is announced is in it. -/
def announceSpec : Spec Incoming Memory Query Query.Reply where
  reply _ _ := True
  inv _ := True
  rely m m' := m.events <+: m'.events
  issue _ _ _ m q := ∀ e, q.event = some e → e ∈ m.events ∧ e.payload.json.Distinct
  rely_refl _ := List.prefix_rfl
  rely_trans h h' := h.trans h'

/-- Nothing is said of what a request comes to. -/
def anyEnd (_ : Incoming) (_ : Entries) (_ _ : Memory) (_ : Except Error (Option Response)) : Prop := True

section
variable {env : Env} {req : Incoming} {h : Entries} {m₀ m : Memory} {β : Type}
  {post : Entries → Memory → Memory → Except Error β → Prop}

theorem wait_announces {q : Query} {k : q.Reply → Svc β} (hg : m₀.events <+: m.events) (hq : q.event = none)
    (hk : ∀ a m₁, (k a).wp announceSpec req post (⟨q, a⟩ :: h) m₁ m₁) : (Prog.await q k).wp announceSpec req post h m₀ m :=
  ⟨⟨trivial, hg, fun e he => by rw [hq] at he; cases he⟩, fun a m₁ _ _ _ => hk a m₁⟩

theorem json_announces (hg : m₀.events <+: m.events) (code : Nat) (body : Body) :
    (json code body).wp announceSpec req (announceSpec.Ends anyEnd req) h m₀ m := ⟨trivial, hg, trivial⟩

/-- The body that is read has no field twice. -/
theorem readBody_announces (henv : env.Parses) {f : Option Json → Svc β} (hg : m₀.events <+: m.events)
    (hk : ∀ body h' m₁, (∀ v, body = some v → v.Distinct) → (f body).wp announceSpec req post h' m₁ m₁) :
    (readBody env >>= f).wp announceSpec req post h m₀ m := by
  refine wait_announces hg rfl fun chunks m₁ => hk _ _ m₁ fun v hv => ?_
  obtain ⟨chunks, -, hv⟩ := Option.bind_eq_some_iff.1 hv
  dsimp only at hv
  split at hv
  · cases hv
    simp [distinct_obj]
  · exact henv _ _ hv

theorem required_distinct {body : Option Json} (hbody : ∀ v, body = some v → v.Distinct) {key : String} {v : Json}
    (h : required body key = some v) : v.Distinct := by
  obtain ⟨hget, -⟩ := Option.filter_eq_some_iff.1 h
  obtain ⟨b, hb, hv⟩ := Option.bind_eq_some_iff.1 hget
  exact get?_distinct (hbody b hb) hv

/-- The event announced has just been put at the end of the log. -/
theorem commitEvent_announces {event : IncidentEvent} (hd : event.payload.json.Distinct) {f : Unit → Svc β}
    (hg : m₀.events <+: m.events) (hk : ∀ h' m₁, (f ()).wp announceSpec req post h' m₁ m₁) :
    (commitEvent event >>= f).wp announceSpec req post h m₀ m := by
  have hlog : m₀.events <+: m.events ++ [event] := hg.trans (List.prefix_append ..)
  change Prog.wp _ _ (ite _ _ _ >>= f) post h m₀ { m with events := m.events ++ [event] }
  split
  · refine ⟨⟨trivial, hlog, fun e he => ?_⟩, fun a m₁ _ _ _ => wait_announces List.prefix_rfl rfl fun _ m₂ => hk _ m₂⟩
    cases he
    exact ⟨List.mem_append_right _ (List.mem_singleton_self _), hd⟩
  · exact wait_announces hlog rfl fun _ m₁ => hk _ m₁

theorem createIncident_announces (henv : env.Parses) :
    (createIncident env).wp announceSpec req (announceSpec.Ends anyEnd req) h m m := by
  refine readBody_announces henv List.prefix_rfl fun body h₁ m₁ hbody => ?_
  split
  · rename_i title severity htitle hseverity
    have hdescription : ∀ d, body.bind (·.get? "description") = some d → d.Distinct := by
      intro d hd
      obtain ⟨b, hb, hget⟩ := Option.bind_eq_some_iff.1 hd
      exact get?_distinct (hbody b hb) hget
    refine commitEvent_announces (created_distinct (required_distinct hbody htitle) (required_distinct hbody hseverity)
      hdescription) List.prefix_rfl fun h₂ m₂ => wait_announces List.prefix_rfl rfl fun _ m₃ => ?_
    exact json_announces List.prefix_rfl _ _
  · exact json_announces List.prefix_rfl _ _

/-- A turn that changes an incident and announces it. -/
theorem amend_announces {id : Nat} {f : Incident → Incident} {payload : EventPayload} (hd : payload.json.Distinct)
    (m : Memory) : (newEvent id payload >>= fun event => amend id f >>= fun _ => commitEvent event >>= fun _ =>
      jsonIncident 200 id).wp announceSpec req (announceSpec.Ends anyEnd req) h m m :=
  commitEvent_announces hd List.prefix_rfl fun _ _ => json_announces List.prefix_rfl _ _

theorem addComment_announces (henv : env.Parses) (incidentId : String) :
    (addComment env incidentId).wp announceSpec req (announceSpec.Ends anyEnd req) h m m := by
  refine readBody_announces henv List.prefix_rfl fun body h₁ m₁ hbody => ?_
  split
  · exact json_announces List.prefix_rfl _ _
  · rename_i comment hcomment
    refine wp_read.2 ?_
    split
    · exact json_announces List.prefix_rfl _ _
    · refine amend_announces ?_ m₁
      simp [EventPayload.json, distinct_obj, required_distinct hbody hcomment]

theorem setStatus_announces (henv : env.Parses) (incidentId : String) :
    (setStatus env incidentId).wp announceSpec req (announceSpec.Ends anyEnd req) h m m := by
  refine readBody_announces henv List.prefix_rfl fun body h₁ m₁ hbody => ?_
  split
  · exact json_announces List.prefix_rfl _ _
  · rename_i status hstatus
    refine wp_read.2 ?_
    split
    · exact json_announces List.prefix_rfl _ _
    · refine amend_announces ?_ m₁
      simp [EventPayload.json, distinct_obj, required_distinct hbody hstatus]

theorem readMultipart_announces {contentType : Option String} {f : Option File → Svc β} (hg : m₀.events <+: m.events)
    (hk : ∀ file h' m₁, (f file).wp announceSpec req post h' m₁ m₁) :
    (readMultipart contentType >>= f).wp announceSpec req post h m₀ m := by
  unfold readMultipart
  split
  · exact wait_announces hg rfl fun _ m₁ => hk _ _ m₁
  · exact wait_announces hg rfl fun _ m₁ => hk _ _ m₁

theorem addAttachment_announces (contentType : Option String) (incidentId uuid : String) :
    (addAttachment contentType incidentId uuid).wp announceSpec req (announceSpec.Ends anyEnd req) h m m := by
  refine wp_read.2 ?_
  split
  · exact json_announces List.prefix_rfl _ _
  · refine readMultipart_announces List.prefix_rfl fun file h₁ m₁ => ?_
    cases file with
    | none => exact json_announces List.prefix_rfl _ _
    | some file => exact commitEvent_announces (attached_distinct ..) List.prefix_rfl fun _ _ => json_announces List.prefix_rfl _ _

theorem listIncidents_announces (searchParams : String → Option String) :
    (listIncidents env searchParams).wp announceSpec req (announceSpec.Ends anyEnd req) h m m := by
  change Prog.wp _ _ (ite _ _ _) _ _ _ _
  split
  · refine wait_announces List.prefix_rfl rfl fun rows m₁ => ?_
    cases rows with
    | none => exact ⟨trivial, List.prefix_rfl, trivial⟩
    | some rows => exact json_announces List.prefix_rfl _ _
  · split
    · exact json_announces List.prefix_rfl _ _
    · rename_i q hq
      cases (m.incidents.filter _).filterM (matchesQ env (env.toLowerCase q)) with
      | ok list => exact json_announces List.prefix_rfl _ _
      | error e => exact ⟨trivial, List.prefix_rfl, trivial⟩

theorem handle_announces (henv : env.Parses) (target : String) (searchParams : String → Option String) (route : Route) :
    (handle env req target searchParams route).wp announceSpec req (announceSpec.Ends anyEnd req) h m m := by
  have hg : m.events <+: m.events := List.prefix_rfl
  cases route with
  | orgUnits opId =>
    refine wait_announces hg rfl fun rows m₁ => ?_
    cases rows with
    | none => exact ⟨trivial, List.prefix_rfl, trivial⟩
    | some rows => exact json_announces List.prefix_rfl _ _
  | createIncident => exact createIncident_announces henv
  | listIncidents => exact listIncidents_announces searchParams
  | getIncident id =>
    refine wp_read.2 ?_
    split
    · exact json_announces hg _ _
    · exact json_announces hg _ _
  | comment id => exact addComment_announces henv id
  | status id =>
    simp only [handle]
    split
    · exact ⟨trivial, hg, trivial⟩
    · exact setStatus_announces henv id
  | attachments id => exact addAttachment_announces req.contentType id req.uuid
  | health | notFound => exact json_announces hg _ _
  | _ => exact ⟨trivial, hg, trivial⟩

end

/-- Every request announces what it has put in the log. -/
theorem run_announces {env : Env} (henv : env.Parses) : announceSpec.Implements anyEnd (listener env) := by
  intro req m _
  unfold listener
  split
  · exact json_announces List.prefix_rfl _ _
  · split
    · exact ⟨trivial, List.prefix_rfl, trivial⟩
    · exact handle_announces henv ..

/-! ## Runs -/

section
variable {env : Env} {D : Type} {ans : D → (q : Query) → q.Reply → D → Prop} {s s' : State D}

/-- What was announced is in the log. -/
def Announces (s : State D) : Prop := ∀ e ∈ announced s, e ∈ s.mem.events ∧ e.payload.json.Distinct

theorem announces_turn {i : Nat} {req : Incoming} {h : Entries} (ho : Announces s)
    (ht : Turn announceSpec anyEnd s i req h s') : Announces s' := by
  cases ht with
  | @asks m q k _ hg hq _ =>
    intro e he
    simp only [announced, List.filterMap_append, List.mem_append] at he
    rcases he with he | he
    · exact ⟨hg.subset (ho e he).1, (ho e he).2⟩
    · obtain ⟨q', hq', hevent⟩ := List.mem_filterMap.1 he
      rw [List.mem_singleton.1 hq'] at hevent
      exact hq e hevent
  | ends _ hg _ => exact fun e he => ⟨hg.subset (ho e he).1, (ho e he).2⟩

theorem announces_step {a : Act} (ho : Announces s) (hc : Change announceSpec anyEnd ans clients s a s') : Announces s' := by
  cases hc with
  | start _ ht => exact announces_turn ho ht
  | answer => exact ho
  | resume _ _ ht => exact announces_turn ho ht
  | outside h =>
    obtain ⟨rfl, -⟩ := h
    exact ho

theorem reachable_announces (henv : env.Parses) {dbClient : Bool} {d : D}
    (h : Reachable (ListenerStep env ans) (Sys.init (.init dbClient) d) s) : Announces s :=
  (run_inv (C := fun _ _ => True) (run_announces henv) (fun _ _ _ _ _ => trivial)
    (fun _ _ _ _ _ _ hc => ⟨trivial, by rw [hc.1]; exact List.prefix_rfl⟩)
    (Sys.init_meets trivial) (by simp [Announces, announced, Sys.init])
    (fun _ _ _ _ ho _ hc => announces_step ho hc) (h.guarded fun _ _ => trivial)).2

theorem announced_ids (s : State D) : (announced s).map (·.id) = notified s := by
  rw [announced, notified, List.map_filterMap]
  refine List.filterMap_congr fun q _ => ?_
  cases q <;> rfl

/-- The events announced are a part of the log, in its order. -/
theorem announced_sublist (henv : env.Parses) {dbClient : Bool} {d : D}
    (h : Reachable (ListenerStep env ans) (Sys.init (.init dbClient) d) s) : (announced s).Sublist s.mem.events := by
  obtain ⟨⟨hi, -⟩, ho⟩ := reachable_meets h
  have hannounced : (announced s).Pairwise fun a b => a.id < b.id := by
    rw [← List.pairwise_map, announced_ids]
    exact ho.sorted
  have hlog : s.mem.events.Pairwise fun a b => a.id < b.id := by
    rw [← List.pairwise_map, hi.seqs]
    exact List.pairwise_lt_range'
  have hsub : (announced s).Subperm s.mem.events :=
    List.Nodup.subperm (hannounced.imp fun hab he => by rw [he] at hab; exact absurd hab (Nat.lt_irrefl _))
      fun e he => (reachable_announces henv h e he).1
  have hantisymm : Std.Antisymm fun a b : IncidentEvent => a.id < b.id := ⟨fun a b hab hba => by omega⟩
  exact List.sublist_of_subperm_of_pairwise hsub hannounced hlog

end

end Tactix.IncidentSvc.Listener
