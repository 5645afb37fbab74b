import Mathlib.Data.List.Induction
import Tactix.IncidentSvc.Listener
import Tactix.Lib.Lists
/-!
# The event log of incident-svc

Four handlers change the arrays and record what they did as an event, each in
one turn. `log_consistent` says that at every point of every schedule the log
tells the whole story: its fold is what the arrays hold.
-/
open Tactix.Js Tactix.Authz ServiceLib

namespace Tactix.IncidentSvc.Listener

/-! ## The fold of the log -/

/-- Incidents and attachments after an event. -/
def apply (s : List Incident × List Attachment) (e : IncidentEvent) : List Incident × List Attachment :=
  match e.payload with
  | .CREATED title severity description =>
    (s.1 ++ [⟨e.incidentId, title, description.getD .null, severity, .str "open", []⟩], s.2)
  | .COMMENT_ADDED comment =>
    (s.1.map fun i => if i.id = e.incidentId then { i with comments := i.comments ++ [comment] } else i, s.2)
  | .STATUS_CHANGED status => (s.1.map fun i => if i.id = e.incidentId then { i with status } else i, s.2)
  | .ATTACHMENT_ADDED attachmentId objectName filename =>
    (s.1, s.2 ++ [⟨attachmentId, e.incidentId, objectName, filename⟩])

def replay (events : List IncidentEvent) : List Incident × List Attachment := events.foldl apply ([], [])

theorem replay_append (events : List IncidentEvent) (e : IncidentEvent) :
    replay (events ++ [e]) = apply (replay events) e := by
  simp [replay]

/-- The comment an event adds to an incident. -/
def commentOf (id : Nat) (e : IncidentEvent) : Option Json :=
  match e.payload with
  | .COMMENT_ADDED comment => if e.incidentId = id then some comment else none
  | _ => none

/-- The status of an incident after an event. -/
def statusAfter (id : Nat) (current : Json) (e : IncidentEvent) : Json :=
  match e.payload with
  | .STATUS_CHANGED status => if e.incidentId = id then status else current
  | _ => current

/-- The comments the log has for an incident. -/
def commentsOf (id : Nat) (events : List IncidentEvent) : List Json := events.filterMap (commentOf id)

/-- The status the log has for an incident: the one set last. -/
def statusOf (id : Nat) (events : List IncidentEvent) : Json := events.foldl (statusAfter id) (.str "open")

/-- What the log tells of an incident is what the incident shows. -/
def Told (events : List IncidentEvent) (i : Incident) : Prop :=
  i.comments = commentsOf i.id events ∧ i.status = statusOf i.id events

theorem told_append {events : List IncidentEvent} {i : Incident} {e : IncidentEvent} :
    Told (events ++ [e]) i ↔ i.comments = commentsOf i.id events ++ (commentOf i.id e).toList ∧
      i.status = statusAfter i.id (statusOf i.id events) e := by
  simp only [Told, commentsOf, statusOf, List.filterMap_append, List.foldl_append, List.foldl_cons, List.foldl_nil]
  cases h : commentOf i.id e <;> simp [h]

/-- An event that tells nothing of the incident. -/
theorem Told.keep {events : List IncidentEvent} {i : Incident} {e : IncidentEvent} (h : Told events i)
    (hc : commentOf i.id e = none) (hs : ∀ current, statusAfter i.id current e = current) : Told (events ++ [e]) i := by
  rw [told_append, hc, hs, Option.toList_none, List.append_nil]
  exact h

/-- An event of another incident. -/
theorem Told.other {events : List IncidentEvent} {i : Incident} {e : IncidentEvent} (h : Told events i)
    (he : i.id ≠ e.incidentId) : Told (events ++ [e]) i := by
  refine h.keep ?_ fun current => ?_
  · unfold commentOf
    split <;> simp [he.symm]
  · unfold statusAfter
    split <;> simp [he.symm]

/-- Of an incident the log does not know it tells nothing. -/
theorem told_new {events : List IncidentEvent} {i : Incident} (h : ∀ e ∈ events, e.incidentId ≠ i.id)
    (hc : i.comments = []) (hs : i.status = .str "open") : Told events i := by
  induction events using List.reverseRecOn with
  | nil => exact ⟨hc, hs⟩
  | append_singleton events e ih =>
    exact (ih fun e' he' => h e' (List.mem_append_left _ he')).other (h e (by simp)).symm

/-- What the log says of the arrays. -/
structure LogInv (m : Memory) : Prop where
  seqs : m.events.map (·.id) = List.range' 1 m.events.length
  nextEvent : m.nextEventId = m.events.length + 1
  replay : replay m.events = (m.incidents, m.attachments)
  incidentIds : m.incidents.map (·.id) = List.range' 1 m.incidents.length
  nextIncident : m.nextIncidentId = m.incidents.length + 1
  attachmentIds : m.attachments.map (·.id) = List.range' 1 m.attachments.length
  nextAttachment : m.nextAttachmentId = m.attachments.length + 1
  stored : ∀ a ∈ m.attachments, m.objectStore a.objectName ≠ none
  known : ∀ e ∈ m.events, e.incidentId ∈ m.incidents.map (·.id)
  told : ∀ i ∈ m.incidents, Told m.events i

theorem logInv_init (dbClient : Bool) : LogInv (.init dbClient) :=
  ⟨rfl, rfl, rfl, rfl, rfl, rfl, rfl, by simp [Memory.init], by simp [Memory.init], by simp [Memory.init]⟩

theorem map_id_amend (id : Nat) {f : Incident → Incident} (hf : ∀ i, (f i).id = i.id) (l : List Incident) :
    (l.map fun i => if i.id = id then f i else i).map (·.id) = l.map (·.id) := by
  rw [List.map_map]
  refine List.map_congr_left fun i _ => ?_
  simp only [Function.comp_apply]
  split <;> simp [hf]

section
variable {m : Memory}

theorem LogInv.known_snoc (hi : LogInv m) {event : IncidentEvent} (hid : event.incidentId ∈ m.incidents.map (·.id)) :
    ∀ e ∈ m.events ++ [event], e.incidentId ∈ m.incidents.map (·.id) := by
  intro e he
  rcases List.mem_append.1 he with he | he
  · exact hi.known e he
  · rw [List.mem_singleton.1 he]
    exact hid

/-- The turn in which an incident is created. -/
theorem LogInv.create (hi : LogInv m) (title severity : Json) (description : Option Json) :
    LogInv { m with
      nextIncidentId := m.nextIncidentId + 1
      nextEventId := m.nextEventId + 1
      incidents := m.incidents ++ [⟨m.nextIncidentId, title, description.getD .null, severity, .str "open", []⟩]
      events := m.events ++ [⟨m.nextEventId, m.nextIncidentId, .CREATED title severity description⟩] } where
  seqs := range'_snoc hi.seqs hi.nextEvent
  nextEvent := by simp [hi.nextEvent]
  replay := by rw [replay_append, hi.replay]; rfl
  incidentIds := range'_snoc hi.incidentIds hi.nextIncident
  nextIncident := by simp [hi.nextIncident]
  attachmentIds := hi.attachmentIds
  nextAttachment := hi.nextAttachment
  stored := hi.stored
  known := by
    simp only [List.map_append, List.mem_append]
    rintro e (he | he)
    · exact .inl (hi.known e he)
    · exact .inr (by simp [List.mem_singleton.1 he])
  told := by
    intro i hm
    rcases List.mem_append.1 hm with hm | hm
    · exact (hi.told i hm).keep rfl fun _ => rfl
    · -- No event before names the new incident.
      obtain rfl := List.mem_singleton.1 hm
      refine (told_new (fun e he (heq : e.incidentId = m.nextIncidentId) => ?_) rfl rfl).keep rfl fun _ => rfl
      have hmem := hi.known e he
      rw [heq, hi.incidentIds, hi.nextIncident, List.mem_range'_1] at hmem
      omega

/-- The turn in which an incident is changed, as its event says. -/
theorem LogInv.amend (hi : LogInv m) {id : Nat} (hid : id ∈ m.incidents.map (·.id)) {f : Incident → Incident}
    (hf : ∀ i, (f i).id = i.id) {payload : EventPayload}
    (happly : ∀ n s, apply s ⟨n, id, payload⟩ = (s.1.map fun i => if i.id = id then f i else i, s.2))
    (htold : ∀ events i n, i.id = id → Told events i → Told (events ++ [⟨n, id, payload⟩]) (f i)) :
    LogInv { m with
      nextEventId := m.nextEventId + 1
      incidents := m.incidents.map fun i => if i.id = id then f i else i
      events := m.events ++ [⟨m.nextEventId, id, payload⟩] } where
  seqs := range'_snoc hi.seqs hi.nextEvent
  nextEvent := by simp [hi.nextEvent]
  replay := by rw [replay_append, hi.replay, happly]
  incidentIds := by rw [map_id_amend id hf, hi.incidentIds, List.length_map]
  nextIncident := by simp [hi.nextIncident]
  attachmentIds := hi.attachmentIds
  nextAttachment := hi.nextAttachment
  stored := hi.stored
  known := by
    rw [map_id_amend id hf]
    exact hi.known_snoc hid
  told := by
    intro i hm
    obtain ⟨j, hj, rfl⟩ := List.mem_map.1 hm
    split
    · rename_i heq
      exact htold _ _ _ heq (hi.told j hj)
    · rename_i hne
      exact (hi.told j hj).other hne

/-- The turn in which a file is attached. -/
theorem LogInv.attach (hi : LogInv m) {id : Nat} (hid : id ∈ m.incidents.map (·.id)) (objectName filename : String)
    (data : Buffer) :
    LogInv { m with
      objectStore := Function.update m.objectStore objectName (some data)
      nextAttachmentId := m.nextAttachmentId + 1
      attachments := m.attachments ++ [⟨m.nextAttachmentId, id, objectName, filename⟩]
      nextEventId := m.nextEventId + 1
      events := m.events ++ [⟨m.nextEventId, id, .ATTACHMENT_ADDED m.nextAttachmentId objectName filename⟩] } where
  seqs := range'_snoc hi.seqs hi.nextEvent
  nextEvent := by simp [hi.nextEvent]
  replay := by rw [replay_append, hi.replay]; rfl
  incidentIds := hi.incidentIds
  nextIncident := hi.nextIncident
  attachmentIds := range'_snoc hi.attachmentIds hi.nextAttachment
  nextAttachment := by simp [hi.nextAttachment]
  stored := by
    intro a ha
    change Function.update m.objectStore objectName (some data) a.objectName ≠ none
    by_cases hname : a.objectName = objectName
    · simp [hname]
    · rw [Function.update_of_ne hname]
      rcases List.mem_append.1 ha with ha | ha
      · exact hi.stored a ha
      · obtain rfl := List.mem_singleton.1 ha
        exact absurd rfl hname
  known := hi.known_snoc hid
  told := fun i hm => (hi.told i hm).keep rfl fun _ => rfl

end

/-! ## What a request does -/

def Query.seq : Query → Option Nat
  | .notify _ seq _ => some seq
  | _ => none

/-- Events and incidents stay. -/
structure Grown (m m' : Memory) : Prop where
  events : m.events.length ≤ m'.events.length
  incidents : ∀ i ∈ m.incidents, i.id ∈ m'.incidents.map (·.id)

/-- A rejection the listener does not catch. -/
def Rejected : ((q : Query) × q.Reply) → Prop
  | ⟨.orgUnits _, none⟩ | ⟨.listIncidents _ _, none⟩ => True
  | _ => False

/-- No reply so far was a rejection that is not caught. -/
def Clean (h : Entries) : Prop := ∀ x ∈ h, ¬ Rejected x

/-- An incident that cannot be searched: its title is no text, or it has to be looked
for in a description that is none. -/
def Unsearchable (env : Env) (needle : String) (i : Incident) : Prop :=
  match i.title with
  | .str t => includes (env.toLowerCase t) needle = false ∧ (∀ s, i.description ≠ .str s) ∧ i.description ≠ .null
  | _ => True

/-- The requests on which the listener throws before it waits for anything. -/
inductive Crashes (env : Env) (m : Memory) (req : Incoming) : Prop
  | invalidUrl {target : String} : orString req.url none = some target → env.parseUrl target = none → Crashes env m req
  | status {target pathname id : String} {searchParams : String → Option String} {code : Nat} :
      orString req.url none = some target → env.parseUrl target = some (pathname, searchParams) →
      routeOf m.dbClient req.method pathname = .status id →
      requireRole ["dispatcher"] (req.request target) = .error code → Crashes env m req
  | search {target pathname q : String} {searchParams : String → Option String} {i : Incident} :
      orString req.url none = some target → env.parseUrl target = some (pathname, searchParams) →
      routeOf m.dbClient req.method pathname = .listIncidents → m.dbClient = false →
      orString (searchParams "q") none = some q → i ∈ m.incidents →
      (orString (searchParams "status") none).all (isText i.status) = true → Unsearchable env (env.toLowerCase q) i →
      Crashes env m req

def listenerSpec : Spec Incoming Memory Query Query.Reply where
  reply _ _ := True
  inv := LogInv
  rely := Grown
  issue _ h m₀ m q := Clean h ∧ ∀ seq, q.seq = some seq → m₀.events.length < seq ∧ seq ≤ m.events.length
  rely_refl m := ⟨Nat.le_refl _, fun i hi => List.mem_map_of_mem hi⟩
  rely_trans h h' := ⟨Nat.le_trans h.events h'.events, fun i hi => by
    obtain ⟨j, hj, he⟩ := List.mem_map.1 (h.incidents i hi)
    exact he ▸ h'.incidents j hj⟩

/-- What a request comes to: an answer, which in the case of a 201 shows an incident
of the array, or an error that something uncaught has caused. -/
def Ended (env : Env) (req : Incoming) (h : Entries) (m₀ m : Memory) : Except Error (Option Response) → Prop
  | .ok reply => Clean h ∧ ∀ x, reply = some ⟨201, .incident x⟩ → ∃ i ∈ m.incidents, x = some i
  | .error _ => ¬ Clean h ∨ (h = [] ∧ Crashes env m₀ req)

section
variable {env : Env} {req : Incoming} {h : Entries} {m₀ m : Memory} {β : Type}
  {post : Entries → Memory → Memory → Except Error β → Prop}

theorem Clean.cons (hc : Clean h) {x : (q : Query) × q.Reply} (hx : ¬ Rejected x) : Clean (x :: h) :=
  List.forall_mem_cons.2 ⟨hx, hc⟩

theorem not_clean {x : (q : Query) × q.Reply} (hx : Rejected x) : ¬ Clean (x :: h) :=
  fun hc => hc x (List.mem_cons_self ..) hx

theorem wait_wp {q : Query} {k : q.Reply → Svc β} (hi : LogInv m) (hg : Grown m₀ m) (hc : Clean h) (hq : q.seq = none)
    (hk : ∀ a m₁, LogInv m₁ → Grown m m₁ → (k a).wp listenerSpec req post (⟨q, a⟩ :: h) m₁ m₁) :
    (Prog.await q k).wp listenerSpec req post h m₀ m :=
  ⟨⟨hi, hg, hc, by simp [hq]⟩, fun a m₁ _ hi hg => hk a m₁ hi hg⟩

theorem readBody_wp {f : Option Json → Svc β} (hi : LogInv m) (hg : Grown m₀ m) (hc : Clean h)
    (hk : ∀ body h' m₁, Clean h' → LogInv m₁ → Grown m m₁ → (f body).wp listenerSpec req post h' m₁ m₁) :
    (readBody env >>= f).wp listenerSpec req post h m₀ m :=
  wait_wp hi hg hc rfl fun _ m₁ hi₁ hg₁ => hk _ _ m₁ (hc.cons id) hi₁ hg₁

theorem readMultipart_wp {contentType : Option String} {f : Option File → Svc β} (hi : LogInv m) (hg : Grown m₀ m)
    (hc : Clean h)
    (hk : ∀ file h' m₁, Clean h' → LogInv m₁ → Grown m m₁ → (f file).wp listenerSpec req post h' m₁ m₁) :
    (readMultipart contentType >>= f).wp listenerSpec req post h m₀ m := by
  unfold readMultipart
  split
  · exact wait_wp hi hg hc rfl fun _ m₁ hi₁ hg₁ => hk _ _ m₁ (hc.cons id) hi₁ hg₁
  · exact wait_wp hi hg hc rfl fun _ m₁ hi₁ hg₁ => hk _ _ m₁ (hc.cons id) hi₁ hg₁

/-- The event is in the log before anything waits. -/
theorem commitEvent_wp {event : IncidentEvent} {f : Unit → Svc β} (hi : LogInv { m with events := m.events ++ [event] })
    (hg : Grown m₀ { m with events := m.events ++ [event] }) (hn : m₀.events.length = m.events.length)
    (hid : event.id = m.events.length + 1) (hc : Clean h)
    (hk : ∀ h' m₁, Clean h' → LogInv m₁ → Grown { m with events := m.events ++ [event] } m₁ →
      (f ()).wp listenerSpec req post h' m₁ m₁) :
    (commitEvent event >>= f).wp listenerSpec req post h m₀ m := by
  change Prog.wp _ _ (ite _ _ _ >>= f) post h m₀ { m with events := m.events ++ [event] }
  split
  · -- The NOTIFY carries the id the log has just got.
    refine ⟨⟨hi, hg, hc, ?_⟩, fun a m₁ _ hi₁ hg₁ => ?_⟩
    · intro seq hseq
      obtain rfl := Option.some.inj hseq
      simp only [List.length_append, List.length_singleton]
      omega
    · exact wait_wp hi₁ (listenerSpec.rely_refl _) (hc.cons id) rfl fun u m₂ hi₂ hg₂ =>
        hk _ m₂ ((hc.cons id).cons id) hi₂ (listenerSpec.rely_trans hg₁ hg₂)
  · exact wait_wp hi hg hc rfl fun u m₁ hi₁ hg₁ => hk _ m₁ (hc.cons id) hi₁ hg₁

theorem json_wp {code : Nat} {body : Body} (hi : LogInv m) (hg : Grown m₀ m) (hc : Clean h)
    (hbody : code = 201 → ∀ x, body = .incident x → ∃ i ∈ m.incidents, x = some i) :
    (json code body).wp listenerSpec req (listenerSpec.Ends (Ended env) req) h m₀ m := by
  refine ⟨hi, hg, hc, fun x hx => ?_⟩
  obtain ⟨rfl, rfl⟩ := Response.mk.inj (Option.some.inj hx)
  exact hbody rfl x rfl

theorem mem_of_incident {id : Nat} {i : Incident} (h : m.incident id = some i) : id ∈ m.incidents.map (·.id) :=
  List.mem_map.2 ⟨i, List.mem_of_find?_eq_some h, by simpa using List.find?_some h⟩

theorem incident_some {id : Nat} (hid : id ∈ m.incidents.map (·.id)) : ∃ i ∈ m.incidents, m.incident id = some i := by
  obtain ⟨j, hj, hjid⟩ := List.mem_map.1 hid
  have hs : (m.incidents.find? (·.id = id)).isSome := List.find?_isSome.2 ⟨j, hj, by simpa using hjid⟩
  obtain ⟨i, hi⟩ := Option.isSome_iff_exists.1 hs
  exact ⟨i, List.mem_of_find?_eq_some hi, hi⟩

theorem jsonIncident_wp {code id : Nat} (hi : LogInv m) (hg : Grown m₀ m) (hc : Clean h)
    (hid : code = 201 → id ∈ m.incidents.map (·.id)) :
    (jsonIncident code id).wp listenerSpec req (listenerSpec.Ends (Ended env) req) h m₀ m :=
  json_wp hi hg hc fun hcode x hx => by
    obtain ⟨i, hm, hfind⟩ := incident_some (hid hcode)
    exact ⟨i, hm, by rw [← hfind]; exact (Body.incident.inj hx).symm⟩

/-- A turn that changes an incident and records it. -/
theorem amend_wp {id : Nat} {i₀ : Incident} (hfind : m.incident id = some i₀) {f : Incident → Incident}
    {payload : EventPayload} (hi : LogInv m) (hc : Clean h) (hf : ∀ i, (f i).id = i.id)
    (happly : ∀ n s, apply s ⟨n, id, payload⟩ = (s.1.map fun i => if i.id = id then f i else i, s.2))
    (htold : ∀ events i n, i.id = id → Told events i → Told (events ++ [⟨n, id, payload⟩]) (f i)) :
    (newEvent id payload >>= fun event => amend id f >>= fun _ => commitEvent event >>= fun _ => jsonIncident 200 id).wp
      listenerSpec req (listenerSpec.Ends (Ended env) req) h m m := by
  refine commitEvent_wp (hi.amend (mem_of_incident hfind) hf happly htold) ⟨by simp, fun i hm => ?_⟩ rfl hi.nextEvent hc
    fun h' m₁ hc₁ hi₁ _ => ?_
  · change i.id ∈ (m.incidents.map fun i => if i.id = id then f i else i).map (·.id)
    rw [map_id_amend id hf]
    exact List.mem_map_of_mem hm
  · exact jsonIncident_wp hi₁ (listenerSpec.rely_refl _) hc₁ (by simp)

theorem createIncident_wp (hi : LogInv m) (hc : Clean h) :
    (createIncident env).wp listenerSpec req (listenerSpec.Ends (Ended env) req) h m m := by
  refine readBody_wp hi (listenerSpec.rely_refl _) hc fun body h₁ m₁ hc₁ hi₁ _ => ?_
  split
  · rename_i title severity _ _
    refine commitEvent_wp (hi₁.create title severity _) ⟨by simp, fun i hm => ?_⟩ rfl hi₁.nextEvent hc₁
      fun h' m₂ hc₂ hi₂ hg₂ => ?_
    · exact List.mem_map_of_mem (List.mem_append_left _ hm)
    · refine wait_wp hi₂ (listenerSpec.rely_refl _) hc₂ rfl fun u m₃ hi₃ hg₃ => ?_
      -- The new incident is still there.
      exact jsonIncident_wp hi₃ (listenerSpec.rely_refl _) (hc₂.cons id)
        fun _ => (listenerSpec.rely_trans hg₂ hg₃).incidents _ (List.mem_append_right _ (List.mem_singleton_self _))
  · exact json_wp hi₁ (listenerSpec.rely_refl _) hc₁ (by simp)

theorem addComment_wp (hi : LogInv m) (hc : Clean h) (incidentId : String) :
    (addComment env incidentId).wp listenerSpec req (listenerSpec.Ends (Ended env) req) h m m := by
  refine readBody_wp hi (listenerSpec.rely_refl _) hc fun body h₁ m₁ hc₁ hi₁ _ => ?_
  split
  · exact json_wp hi₁ (listenerSpec.rely_refl _) hc₁ (by simp)
  · refine wp_read.2 ?_
    split
    · exact json_wp hi₁ (listenerSpec.rely_refl _) hc₁ (by simp)
    · rename_i hfind
      refine amend_wp hfind hi₁ hc₁ (fun _ => rfl) (fun _ _ => rfl) fun events i n hid ht => ?_
      rw [told_append]
      simp [commentOf, statusAfter, hid, ht.1, ht.2]

theorem setStatus_wp (hi : LogInv m) (hc : Clean h) (incidentId : String) :
    (setStatus env incidentId).wp listenerSpec req (listenerSpec.Ends (Ended env) req) h m m := by
  refine readBody_wp hi (listenerSpec.rely_refl _) hc fun body h₁ m₁ hc₁ hi₁ _ => ?_
  split
  · exact json_wp hi₁ (listenerSpec.rely_refl _) hc₁ (by simp)
  · refine wp_read.2 ?_
    split
    · exact json_wp hi₁ (listenerSpec.rely_refl _) hc₁ (by simp)
    · rename_i hfind
      refine amend_wp hfind hi₁ hc₁ (fun _ => rfl) (fun _ _ => rfl) fun events i n hid ht => ?_
      rw [told_append]
      simp [commentOf, statusAfter, hid, ht.1]

theorem addAttachment_wp (hi : LogInv m) (hc : Clean h) (contentType : Option String) (incidentId uuid : String) :
    (addAttachment contentType incidentId uuid).wp listenerSpec req (listenerSpec.Ends (Ended env) req) h m m := by
  refine wp_read.2 ?_
  split
  · exact json_wp hi (listenerSpec.rely_refl _) hc (by simp)
  · rename_i hfind
    refine readMultipart_wp hi (listenerSpec.rely_refl _) hc fun file h₁ m₁ hc₁ hi₁ hg₁ => ?_
    cases file with
    | none => exact json_wp hi₁ (listenerSpec.rely_refl _) hc₁ (by simp)
    | some file =>
      -- The incident was there before the file came, and is there now.
      obtain ⟨j, hj, hjid⟩ := List.mem_map.1 (mem_of_incident hfind)
      refine commitEvent_wp (hi₁.attach (hjid ▸ hg₁.incidents j hj) _ file.filename file.data) ⟨by simp, fun i hm => ?_⟩ rfl
        hi₁.nextEvent hc₁ fun h' m₂ hc₂ hi₂ _ => json_wp hi₂ (listenerSpec.rely_refl _) hc₂ (by simp)
      exact List.mem_map_of_mem hm

theorem getIncident_wp (hi : LogInv m) (hc : Clean h) (incidentId : String) :
    (getIncident incidentId).wp listenerSpec req (listenerSpec.Ends (Ended env) req) h m m := by
  refine wp_read.2 ?_
  split
  · exact json_wp hi (listenerSpec.rely_refl _) hc (by simp)
  · exact json_wp hi (listenerSpec.rely_refl _) hc (by simp)

theorem getOrgUnits_wp (hi : LogInv m) (hc : Clean h) (opId : String) :
    (getOrgUnits opId).wp listenerSpec req (listenerSpec.Ends (Ended env) req) h m m := by
  refine wait_wp hi (listenerSpec.rely_refl _) hc rfl fun rows m₁ hi₁ _ => ?_
  cases rows with
  | none => exact ⟨hi₁, listenerSpec.rely_refl _, .inl (not_clean trivial)⟩
  | some rows => exact json_wp hi₁ (listenerSpec.rely_refl _) (hc.cons id) (by simp)

/-- A search throws on an incident that cannot be searched. -/
theorem matchesQ_ok (needle : String) (i : Incident) :
    (∃ b, matchesQ env needle i = .ok b) ↔ ¬ Unsearchable env needle i := by
  cases htitle : i.title with
  | str t =>
    cases hin : includes (env.toLowerCase t) needle with
    | true => simp [matchesQ, Unsearchable, lower, htitle, hin, bind, Except.bind, pure, Except.pure]
    | false =>
      cases hdescription : i.description <;>
        simp [matchesQ, Unsearchable, lower, htitle, hin, hdescription, bind, Except.bind, pure, Except.pure]
  | _ => simp [matchesQ, Unsearchable, lower, htitle, bind, Except.bind]

theorem unsearchable_of_error {needle : String} {list : List Incident} {e : Error}
    (h : list.filterM (matchesQ env needle) = .error e) : ∃ i ∈ list, Unsearchable env needle i := by
  by_contra hno
  simp only [not_exists, not_and] at hno
  obtain ⟨l', hl'⟩ := (filterM_ok list).2 fun i hm => (matchesQ_ok needle i).2 (hno i hm)
  rw [h] at hl'
  cases hl'

theorem listIncidents_wp {target pathname : String} {searchParams : String → Option String} (hi : LogInv m)
    (htarget : orString req.url none = some target) (hurl : env.parseUrl target = some (pathname, searchParams))
    (hroute : routeOf m.dbClient req.method pathname = .listIncidents) (hc : Clean []) :
    (listIncidents env searchParams).wp listenerSpec req (listenerSpec.Ends (Ended env) req) [] m m := by
  have hg := listenerSpec.rely_refl m
  change Prog.wp _ _ (ite _ _ _) _ _ _ _
  split
  · refine wait_wp hi hg hc rfl fun rows m₁ hi₁ _ => ?_
    cases rows with
    | none => exact ⟨hi₁, listenerSpec.rely_refl _, .inl (not_clean trivial)⟩
    | some rows => exact json_wp hi₁ (listenerSpec.rely_refl _) (hc.cons id) (by simp)
  · rename_i hdb
    split
    · exact json_wp hi hg hc (by simp)
    · rename_i q hq
      cases hfilter : (m.incidents.filter _).filterM (matchesQ env (env.toLowerCase q)) with
      | ok list => exact json_wp hi hg hc (by simp)
      | error e =>
        obtain ⟨i, hm, hu⟩ := unsearchable_of_error hfilter
        obtain ⟨hm, hstatus⟩ := List.mem_filter.1 hm
        exact ⟨hi, hg, .inr ⟨rfl, .search htarget hurl hroute (by simpa using hdb) hq hm hstatus hu⟩⟩

theorem handle_wp {target pathname : String} {searchParams : String → Option String} (hi : LogInv m)
    (htarget : orString req.url none = some target) (hurl : env.parseUrl target = some (pathname, searchParams))
    {route : Route} (hroute : routeOf m.dbClient req.method pathname = route) (hc : Clean []) :
    (handle env req target searchParams route).wp listenerSpec req (listenerSpec.Ends (Ended env) req) [] m m := by
  have hg := listenerSpec.rely_refl m
  cases route with
  | health => exact json_wp hi hg hc (by simp)
  | orgUnits opId => exact getOrgUnits_wp hi hc opId
  | createIncident => exact createIncident_wp hi hc
  | listIncidents => exact listIncidents_wp hi htarget hurl hroute hc
  | getIncident id => exact getIncident_wp hi hc id
  | comment id => exact addComment_wp hi hc id
  | status id =>
    simp only [handle]
    split
    · rename_i code hrole
      exact ⟨hi, hg, .inr ⟨rfl, .status htarget hurl hroute hrole⟩⟩
    · exact setStatus_wp hi hc id
  | attachments id => exact addAttachment_wp hi hc req.contentType id req.uuid
  | notFound => exact json_wp hi hg hc (by simp)
  | _ => exact ⟨hi, hg, hc, by simp⟩

end

/-- Every request keeps the log in step with the arrays. -/
theorem run_meets (env : Env) : listenerSpec.Implements (Ended env) (listener env) := by
  intro req m hi
  have hc : Clean [] := by simp [Clean]
  have hg := listenerSpec.rely_refl m
  unfold listener
  split
  · exact json_wp hi hg hc (by simp)
  · rename_i target htarget
    split
    · rename_i hurl
      exact ⟨hi, hg, .inr ⟨rfl, .invalidUrl htarget hurl⟩⟩
    · rename_i pathname searchParams hurl
      exact handle_wp hi htarget hurl rfl hc

/-! ## Runs -/

section
variable {env : Env} {D : Type} {ans : D → (q : Query) → q.Reply → D → Prop} {s s' : State D}

theorem clients_keep (set : Bool) (m : Memory) (d : D) (m' : Memory) (d' : D) (hi : LogInv m)
    (h : clients set m d m' d') : LogInv m' ∧ Grown m m' := by
  obtain ⟨rfl, -⟩ := h
  exact ⟨⟨hi.seqs, hi.nextEvent, hi.replay, hi.incidentIds, hi.nextIncident, hi.attachmentIds, hi.nextAttachment, hi.stored,
    hi.known, hi.told⟩, Nat.le_refl _, fun i hm => List.mem_map_of_mem hm⟩

/-- The `seq` of the notifications issued so far. -/
def notified (s : State D) : List Nat := s.issued.filterMap Query.seq

/-- Notifications go out in order, each for an event of the log. -/
structure Ordered (s : State D) : Prop where
  sorted : (notified s).Pairwise (· < ·)
  past : ∀ seq ∈ notified s, seq ≤ s.mem.events.length

theorem ordered_turn {i : Nat} {req : Incoming} {h : Entries} (ho : Ordered s)
    (ht : Turn listenerSpec (Ended env) s i req h s') : Ordered s' := by
  cases ht with
  | @asks m q k hi hg hq hk =>
    cases hseq : q.seq with
    | none => exact ⟨by simpa [notified, hseq] using ho.sorted,
        fun seq hm => Nat.le_trans (ho.past seq (by simpa [notified, hseq] using hm)) hg.events⟩
    | some seq =>
      obtain ⟨hlt, hle⟩ := hq.2 seq hseq
      refine ⟨?_, fun seq' hm => ?_⟩
      · simp only [notified, List.filterMap_append, List.filterMap_cons, hseq, List.filterMap_nil, List.pairwise_append]
        refine ⟨ho.sorted, List.pairwise_singleton _ _, fun seq' hm seq'' hm' => ?_⟩
        obtain rfl := List.mem_singleton.1 hm'
        exact Nat.lt_of_le_of_lt (ho.past seq' hm) hlt
      · simp only [notified, List.filterMap_append, List.filterMap_cons, hseq, List.filterMap_nil, List.mem_append,
          List.mem_singleton] at hm
        rcases hm with hm | rfl
        · exact Nat.le_trans (ho.past seq' hm) hg.events
        · exact hle
  | ends hi hg hp => exact ⟨ho.sorted, fun seq hm => Nat.le_trans (ho.past seq hm) hg.events⟩

theorem ordered_step {a : Act} (ho : Ordered s) (hc : Change listenerSpec (Ended env) ans clients s a s') : Ordered s' := by
  cases hc with
  | start _ ht => exact ordered_turn ho ht
  | answer => exact ⟨ho.sorted, ho.past⟩
  | resume _ _ ht => exact ordered_turn ho ht
  | outside h =>
    obtain ⟨rfl, -⟩ := h
    exact ⟨ho.sorted, ho.past⟩

theorem reachable_meets {dbClient : Bool} {d : D} (h : Reachable (ListenerStep env ans) (Sys.init (.init dbClient) d) s) :
    s.Meets listenerSpec (Ended env) ∧ Ordered s :=
  run_inv (C := fun _ _ => True) (run_meets env) (fun _ _ _ _ _ => trivial) clients_keep
    (Sys.init_meets (logInv_init dbClient)) ⟨by simp [notified, Sys.init], by simp [notified, Sys.init]⟩
    (fun _ _ _ _ ho _ hc => ordered_step ho hc) (h.guarded fun _ _ => trivial)

end

/-- Whatever is asked in whatever order, the log is consecutive and its fold is what
the arrays hold, every attachment is stored, and notifications go out in order. -/
theorem log_consistent (env : Env) {D : Type} (ans : D → (q : Query) → q.Reply → D → Prop) (dbClient : Bool) {d : D}
    {s : State D} (h : Reachable (ListenerStep env ans) (Sys.init (.init dbClient) d) s) :
    s.mem.events.map (·.id) = List.range' 1 s.mem.events.length ∧
    replay s.mem.events = (s.mem.incidents, s.mem.attachments) ∧
    (s.mem.incidents.map (·.id)).Nodup ∧ (s.mem.attachments.map (·.id)).Nodup ∧
    (∀ a ∈ s.mem.attachments, s.mem.objectStore a.objectName ≠ none) ∧
    (s.issued.filterMap Query.seq).Pairwise (· < ·) := by
  obtain ⟨⟨hi, -⟩, ho⟩ := reachable_meets h
  refine ⟨hi.seqs, hi.replay, ?_, ?_, hi.stored, ho.sorted⟩
  · rw [hi.incidentIds]
    exact List.nodup_range'
  · rw [hi.attachmentIds]
    exact List.nodup_range'

/-- While a client is set one incident is created, and a request that came before that comments it. -/
theorem log_consistent_sample :
    replay [⟨1, 1, .CREATED (.str "Outage") (.str "low") none⟩, ⟨2, 1, .COMMENT_ADDED (.str "Pump sent")⟩] =
      ([⟨1, .str "Outage", .null, .str "low", .str "open", [.str "Pump sent"]⟩], []) := by
  have h0 : Reachable (Guarded (fun _ _ => True) (ListenerStep .sample anyReply)) (Sys.init (.init true) ()) _ := .refl
  have h1 := reach_start h0 trivial (i := 0) (l := .sample "POST" "/incidents") rfl rfl
  have h2 := reach_start h1 trivial (i := 1) (l := .sample "POST" "/incidents/1/comment") rfl rfl
  have h3 := reach_answer h2 trivial (i := 0) (a := some [Sample.chunk]) (d := ()) rfl trivial
  have h4 := reach_resume h3 trivial (i := 0) rfl rfl
  have h5 := reach_answer h4 trivial (i := 1) (a := some [Sample.commentChunk]) (d := ()) rfl trivial
  have h6 := reach_resume h5 trivial (i := 1) rfl rfl
  exact (log_consistent .sample anyReply true h6.forget).2.1

end Tactix.IncidentSvc.Listener
