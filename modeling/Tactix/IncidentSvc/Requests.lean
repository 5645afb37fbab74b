import Tactix.IncidentSvc.Log
/-!
# The incidents the requests ask for

What the bodies of the requests say of incidents, in the order the listener gets
them. `incidents_requested` says that at every point of every schedule the array
holds what they ask for, and nothing else.
-/
open Tactix.Js Tactix.Authz ServiceLib

namespace Tactix.IncidentSvc.Listener

/-- What a request asks for. -/
inductive Effect where
  | created (title severity : Json) (description : Option Json)
  | commented (incidentId : Nat) (comment : Json)
  | statusSet (incidentId : Nat) (status : Json)

/-- The body of a request, once its chunks are there. -/
def parsed (env : Env) (chunks : Option (List Buffer)) : Option Json :=
  chunks.bind fun chunks =>
    let data := String.join (chunks.map env.text)
    if data = "" then some (.obj []) else env.parse data

/-- What a request with this body asks for on its route: a title and a severity make an
incident, a comment or, where the role is there, a status change one. -/
def effectOf (dispatcher : Bool) (body : Option Json) : Route → Option Effect
  | .createIncident => (required body "title").bind fun title => (required body "severity").map fun severity =>
      .created title severity (body.bind (·.get? "description"))
  | .comment id => (required body "comment").map (.commented (number id))
  | .status id => if dispatcher then (required body "status").map (.statusSet (number id)) else none
  | _ => none

def Incoming.dispatcher (req : Incoming) (target : String) : Bool :=
  (requireRole ["dispatcher"] (req.request target)).isOk

def Incoming.effect (env : Env) (req : Incoming) (body : Option Json) : Option Effect :=
  (orString req.url none).bind fun target => (env.parseUrl target).bind fun (pathname, _) =>
    effectOf (req.dispatcher target) body (routeOf false req.method pathname)

/-- An incident after an effect. -/
def Incident.after (i : Incident) : Effect → Incident
  | .created .. => i
  | .commented id comment => if i.id = id then { i with comments := i.comments ++ [comment] } else i
  | .statusSet id status => if i.id = id then { i with status } else i

/-- The incidents an effect adds to `n` others. -/
def Effect.adds (n : Nat) : Effect → List Incident
  | .created title severity description => [⟨n + 1, title, description.getD .null, severity, .str "open", []⟩]
  | _ => []

/-- All incidents after an effect. -/
def after (incidents : List Incident) (e : Effect) : List Incident :=
  incidents.map (·.after e) ++ e.adds incidents.length

/-- The incidents some effects ask for. -/
def incidentsOf (effects : List Effect) : List Incident := effects.foldl after []

def Effect.isCreated : Effect → Bool
  | .created .. => true
  | _ => false

/-- The comment an effect adds to an incident. -/
def Effect.comment (id : Nat) : Effect → Option Json
  | .commented incidentId comment => if incidentId = id then some comment else none
  | _ => none

/-- The status of an incident after an effect. -/
def Effect.status (id : Nat) (current : Json) : Effect → Json
  | .statusSet incidentId status => if incidentId = id then status else current
  | _ => current

/-- An incident that was created with this id, when `later` came after. -/
def shown (id : Nat) (title severity : Json) (description : Option Json) (later : List Effect) : Incident :=
  ⟨id, title, description.getD .null, severity, later.foldl (fun current e => e.status id current) (.str "open"),
    later.filterMap (·.comment id)⟩

/-- The incident that one of these effects has created, with the next free id. -/
def Requested (effects : List Effect) (i : Incident) : Prop :=
  ∃ before title severity description later, effects = before ++ .created title severity description :: later ∧
    i = shown (before.countP (·.isCreated) + 1) title severity description later

/-! ## What the effects ask for -/

section
variable {effects : List Effect} {e : Effect} {i : Incident}

theorem shown_snoc (id : Nat) (title severity : Json) (description : Option Json) (later : List Effect) :
    shown id title severity description (later ++ [e]) = (shown id title severity description later).after e := by
  simp only [shown, List.foldl_append, List.foldl_cons, List.foldl_nil, List.filterMap_append]
  cases e with
  | created => simp [Effect.status, Effect.comment, Incident.after]
  | commented incidentId comment =>
    by_cases h : id = incidentId
    · simp [Effect.status, Effect.comment, Incident.after, h]
    · simp [Effect.status, Effect.comment, Incident.after, h, Ne.symm h]
  | statusSet incidentId status =>
    by_cases h : id = incidentId
    · simp [Effect.status, Effect.comment, Incident.after, h]
    · simp [Effect.status, Effect.comment, Incident.after, h, Ne.symm h]

/-- One more effect changes the incidents there are, or creates one. -/
theorem requested_snoc :
    Requested (effects ++ [e]) i ↔ (∃ j, Requested effects j ∧ j.after e = i) ∨
      i ∈ e.adds (effects.countP (·.isCreated)) := by
  constructor
  · rintro ⟨before, title, severity, description, later, heq, rfl⟩
    rcases List.eq_nil_or_concat later with rfl | ⟨later, last, rfl⟩
    · obtain ⟨rfl, hlast⟩ := List.append_inj' heq rfl
      obtain rfl := List.singleton_inj.1 hlast
      exact .inr (List.mem_singleton_self _)
    · rw [List.concat_eq_append] at heq ⊢
      rw [← List.cons_append, ← List.append_assoc] at heq
      obtain ⟨rfl, hlast⟩ := List.append_inj' heq rfl
      obtain rfl := List.singleton_inj.1 hlast
      exact .inl ⟨_, ⟨before, title, severity, description, later, rfl, rfl⟩, (shown_snoc ..).symm⟩
  · rintro (⟨j, ⟨before, title, severity, description, later, rfl, rfl⟩, rfl⟩ | hadds)
    · exact ⟨before, title, severity, description, later ++ [e], by simp, (shown_snoc ..).symm⟩
    · cases e with
      | created title severity description =>
        obtain rfl := List.mem_singleton.1 hadds
        exact ⟨effects, title, severity, description, [], rfl, rfl⟩
      | commented | statusSet => cases hadds

theorem incidentsOf_snoc : incidentsOf (effects ++ [e]) = after (incidentsOf effects) e := by
  simp [incidentsOf]

theorem length_incidentsOf : (incidentsOf effects).length = effects.countP (·.isCreated) := by
  induction effects using List.reverseRecOn with
  | nil => rfl
  | append_singleton effects e ih =>
    rw [incidentsOf_snoc, after, List.length_append, List.length_map, List.countP_append, ih]
    cases e <;> rfl

theorem mem_incidentsOf : i ∈ incidentsOf effects ↔ Requested effects i := by
  induction effects using List.reverseRecOn generalizing i with
  | nil =>
    constructor
    · intro h
      cases h
    · rintro ⟨before, title, severity, description, later, heq, -⟩
      simp at heq
  | append_singleton effects e ih =>
    rw [incidentsOf_snoc, after, List.mem_append, List.mem_map, length_incidentsOf, requested_snoc]
    simp only [ih]

end

/-! ## What a request does to the incidents -/

/-- What a request asked for in the turn that follows these replies. -/
def noted (env : Env) (req : Incoming) : Entries → List Effect
  | [⟨.body, chunks⟩] => (req.effect env (parsed env chunks)).toList
  | _ => []

/-- A turn does to the incidents what the request asks for, when its body has just come. -/
def takenSpec (env : Env) : Spec Incoming Memory Query Query.Reply where
  reply _ _ := True
  inv m := m.nextIncidentId = m.incidents.length + 1
  rely _ _ := True
  issue req h m₀ m _ := m.incidents = (noted env req h).foldl after m₀.incidents
  rely_refl _ := trivial
  rely_trans _ _ := trivial

def Taken (env : Env) (req : Incoming) (h : Entries) (m₀ m : Memory) (_ : Except Error (Option Response)) : Prop :=
  m.incidents = (noted env req h).foldl after m₀.incidents

section
variable {env : Env} {req : Incoming} {h : Entries} {m₀ m : Memory}

/-- Before its body has come a request asks for nothing. -/
theorem noted_cons {q : Query} {a : q.Reply} (hq : q ≠ .body) : noted env req (⟨q, a⟩ :: h) = [] := by
  cases q with
  | body => exact absurd rfl hq
  | notify | orgUnits | listIncidents | turn => simp [noted]

theorem noted_long {x y : (q : Query) × q.Reply} : noted env req (x :: y :: h) = [] := by
  simp [noted]

/-- The memory after a turn that does what the request has asked for. -/
structure Done (env : Env) (req : Incoming) (h : Entries) (m₀ m : Memory) : Prop where
  next : m.nextIncidentId = m.incidents.length + 1
  incidents : m.incidents = (noted env req h).foldl after m₀.incidents

/-- A turn that changes no incident, after replies that ask for nothing. -/
theorem Done.nothing (hi : (takenSpec env).inv m) (hn : noted env req h = []) : Done env req h m m :=
  ⟨hi, by rw [hn]; rfl⟩

theorem wait_taken {β : Type} {q : Query} {k : q.Reply → Svc β} {post : Entries → Memory → Memory → Except Error β → Prop}
    (hd : Done env req h m₀ m)
    (hk : ∀ a m₁, (takenSpec env).inv m₁ → (k a).wp (takenSpec env) req post (⟨q, a⟩ :: h) m₁ m₁) :
    (Prog.await q k).wp (takenSpec env) req post h m₀ m :=
  ⟨⟨hd.next, trivial, hd.incidents⟩, fun a m₁ _ hi _ => hk a m₁ hi⟩

theorem json_taken (code : Nat) (body : Body) (hd : Done env req h m₀ m) :
    (json code body).wp (takenSpec env) req ((takenSpec env).Ends (Taken env) req) h m₀ m :=
  ⟨hd.next, trivial, hd.incidents⟩

theorem raise_taken (e : Error) (hd : Done env req h m₀ m) :
    (Prog.raise e : Svc (Option Response)).wp (takenSpec env) req ((takenSpec env).Ends (Taken env) req) h m₀ m :=
  ⟨hd.next, trivial, hd.incidents⟩

theorem jsonIncident_taken (code id : Nat) (hd : Done env req h m₀ m) :
    (jsonIncident code id).wp (takenSpec env) req ((takenSpec env).Ends (Taken env) req) h m₀ m :=
  json_taken code _ hd

theorem readBody_taken {f : Option Json → Svc (Option Response)} (hi : (takenSpec env).inv m)
    (hk : ∀ chunks m₁, (takenSpec env).inv m₁ → (f (parsed env chunks)).wp (takenSpec env) req
      ((takenSpec env).Ends (Taken env) req) [⟨.body, chunks⟩] m₁ m₁) :
    (readBody env >>= f).wp (takenSpec env) req ((takenSpec env).Ends (Taken env) req) [] m m :=
  wait_taken (.nothing hi rfl) fun chunks m₁ hi₁ => hk chunks m₁ hi₁

/-- What is committed after the change leaves the incidents. -/
theorem commitEvent_taken {event : IncidentEvent} {f : Unit → Svc (Option Response)} {x : (q : Query) × q.Reply}
    (hd : Done env req (x :: h) m₀ m)
    (hk : ∀ h' m₁, noted env req h' = [] → (takenSpec env).inv m₁ →
      (f ()).wp (takenSpec env) req ((takenSpec env).Ends (Taken env) req) h' m₁ m₁) :
    (commitEvent event >>= f).wp (takenSpec env) req ((takenSpec env).Ends (Taken env) req) (x :: h) m₀ m := by
  change Prog.wp _ _ (ite _ _ _ >>= f) _ _ m₀ { m with events := m.events ++ [event] }
  split
  · refine wait_taken ⟨hd.next, hd.incidents⟩ fun a m₁ hi₁ => ?_
    exact wait_taken (.nothing hi₁ noted_long) fun _ m₂ hi₂ => hk _ m₂ noted_long hi₂
  · exact wait_taken ⟨hd.next, hd.incidents⟩ fun _ m₁ hi₁ => hk _ m₁ noted_long hi₁

section
variable {target pathname : String} {searchParams : String → Option String}

/-- What the body of a request on such a route asks for. -/
theorem effect_of_route (htarget : orString req.url none = some target)
    (hurl : env.parseUrl target = some (pathname, searchParams)) {route : Route}
    (hroute : routeOf m.dbClient req.method pathname = route) (htakes : route.takesBody = true) (body : Option Json) :
    req.effect env body = effectOf (req.dispatcher target) body route := by
  simp only [Incoming.effect, htarget, hurl, Option.bind_some, routeOf_takesBody hroute htakes]

theorem createIncident_taken {dispatcher : Bool} (hi : (takenSpec env).inv m)
    (heffect : ∀ body, req.effect env body = effectOf dispatcher body .createIncident) :
    (createIncident env).wp (takenSpec env) req ((takenSpec env).Ends (Taken env) req) [] m m := by
  refine readBody_taken hi fun chunks m₁ (hi₁ : m₁.nextIncidentId = m₁.incidents.length + 1) => ?_
  split
  · rename_i title severity htitle hseverity
    refine commitEvent_taken ⟨?_, ?_⟩ fun h' m₂ hn hi₂ => ?_
    · simp [hi₁]
    · simp [noted, heffect, effectOf, htitle, hseverity, after, Incident.after, Effect.adds, hi₁]
    · refine wait_taken (.nothing hi₂ hn) fun _ m₃ hi₃ => ?_
      exact jsonIncident_taken 201 _ (.nothing hi₃ (noted_cons (by simp)))
  · rename_i hno
    refine json_taken 400 _ (.nothing hi₁ ?_)
    cases htitle : required (parsed env chunks) "title" with
    | none => simp [noted, heffect, effectOf, htitle]
    | some title =>
      cases hseverity : required (parsed env chunks) "severity" with
      | none => simp [noted, heffect, effectOf, htitle, hseverity]
      | some severity => exact absurd hseverity (hno _ _ htitle)

/-- The turn in which an incident is changed, once the body has said how. -/
theorem amend_taken {chunks : Option (List Buffer)} {id : Nat} {f : Incident → Incident} {payload : EventPayload}
    {e : Effect} (hi : (takenSpec env).inv m) (heffect : req.effect env (parsed env chunks) = some e)
    (he : ∀ n, e.adds n = []) (hafter : ∀ i, i.after e = if i.id = id then f i else i) :
    (newEvent id payload >>= fun event => amend id f >>= fun _ => commitEvent event >>= fun _ => jsonIncident 200 id).wp
      (takenSpec env) req ((takenSpec env).Ends (Taken env) req) [⟨.body, chunks⟩] m m := by
  refine commitEvent_taken ⟨?_, ?_⟩ fun h' m₁ hn hi₁ => jsonIncident_taken 200 id (.nothing hi₁ hn)
  · change m.nextIncidentId = (m.incidents.map _).length + 1
    rw [List.length_map]
    exact hi
  · simp [noted, heffect, after, hafter, he]

/-- An effect on an incident that is not there changes none. -/
theorem after_unknown {id : Nat} {f : Incident → Incident} {e : Effect} (hfind : m.incident id = none)
    (he : ∀ n, e.adds n = []) (hafter : ∀ i, i.after e = if i.id = id then f i else i) :
    after m.incidents e = m.incidents := by
  have hother : ∀ i ∈ m.incidents, i.after e = i := by
    intro i hm
    have hne : ¬ i.id = id := by simpa using List.find?_eq_none.1 hfind i hm
    rw [hafter, if_neg hne]
  rw [after, he, List.append_nil]
  exact (List.map_congr_left hother).trans (List.map_id _)

/-- A handler that waits for a body, and changes the incident its text names in the
way the effect does. -/
theorem named_taken {key : String} {id : Nat} {f : Json → Incident → Incident} {payload : Json → EventPayload}
    {effect : Json → Effect} {text : String} (hi : (takenSpec env).inv m)
    (heffect : ∀ body, req.effect env body = (required body key).map effect) (he : ∀ v n, (effect v).adds n = [])
    (hafter : ∀ v i, i.after (effect v) = if i.id = id then f v i else i) :
    (readBody env >>= fun body => match required body key with
      | none => json 400 (.error text)
      | some v => Prog.read >>= fun m => match m.incident id with
        | none => json 404 .empty
        | some _ => newEvent id (payload v) >>= fun event => amend id (f v) >>= fun _ => commitEvent event >>= fun _ =>
            jsonIncident 200 id).wp (takenSpec env) req ((takenSpec env).Ends (Taken env) req) [] m m := by
  refine readBody_taken hi fun chunks m₁ hi₁ => ?_
  split
  · rename_i hv
    exact json_taken 400 _ (.nothing hi₁ (by simp [noted, heffect, hv]))
  · rename_i v hv
    have hv : req.effect env (parsed env chunks) = some (effect v) := by simp [heffect, hv]
    refine wp_read.2 ?_
    split
    · rename_i hfind
      refine json_taken 404 _ ⟨hi₁, ?_⟩
      simp [noted, hv, after_unknown hfind (he v) (hafter v)]
    · exact amend_taken hi₁ hv (he v) (hafter v)

theorem readMultipart_taken {contentType : Option String} {f : Option File → Svc (Option Response)}
    (hi : (takenSpec env).inv m)
    (hk : ∀ file x m₁, (takenSpec env).inv m₁ →
      (f file).wp (takenSpec env) req ((takenSpec env).Ends (Taken env) req) [x] m₁ m₁) :
    (readMultipart contentType >>= f).wp (takenSpec env) req ((takenSpec env).Ends (Taken env) req) [] m m := by
  unfold readMultipart
  split
  · exact wait_taken (.nothing hi rfl) fun _ m₁ hi₁ => hk _ _ m₁ hi₁
  · exact wait_taken (.nothing hi rfl) fun _ m₁ hi₁ => hk _ _ m₁ hi₁

/-- A file changes no incident. -/
theorem addAttachment_taken (hi : (takenSpec env).inv m) (heffect : ∀ body, req.effect env body = none)
    (contentType : Option String) (incidentId uuid : String) :
    (addAttachment contentType incidentId uuid).wp (takenSpec env) req ((takenSpec env).Ends (Taken env) req) [] m m := by
  refine wp_read.2 ?_
  split
  · exact json_taken 404 _ (.nothing hi rfl)
  · refine readMultipart_taken hi fun file x m₁ hi₁ => ?_
    have hnone : noted env req [x] = [] := by
      obtain ⟨q, a⟩ := x
      cases q with
      | body => simp [noted, heffect]
      | notify | orgUnits | listIncidents | turn => rfl
    cases file with
    | none => exact json_taken 400 _ (.nothing hi₁ hnone)
    | some file =>
      exact commitEvent_taken ⟨hi₁, by simp [hnone]⟩ fun h' m₂ hn hi₂ => json_taken 201 _ (.nothing hi₂ hn)

theorem listIncidents_taken (hi : (takenSpec env).inv m) :
    (listIncidents env searchParams).wp (takenSpec env) req ((takenSpec env).Ends (Taken env) req) [] m m := by
  change Prog.wp _ _ (ite _ _ _) _ _ _ _
  split
  · refine wait_taken (.nothing hi rfl) fun rows m₁ hi₁ => ?_
    cases rows with
    | none => exact raise_taken _ (.nothing hi₁ rfl)
    | some rows => exact json_taken 200 _ (.nothing hi₁ rfl)
  · split
    · exact json_taken 200 _ (.nothing hi rfl)
    · cases hfilter : (m.incidents.filter _).filterM (matchesQ env (env.toLowerCase _)) with
      | ok list => exact json_taken 200 _ (.nothing hi rfl)
      | error e => exact raise_taken e (.nothing hi rfl)

theorem handle_taken (hi : (takenSpec env).inv m) (htarget : orString req.url none = some target)
    (hurl : env.parseUrl target = some (pathname, searchParams)) {route : Route}
    (hroute : routeOf m.dbClient req.method pathname = route) :
    (handle env req target searchParams route).wp (takenSpec env) req ((takenSpec env).Ends (Taken env) req) [] m m := by
  have hd : Done env req [] m m := .nothing hi rfl
  have heffect := effect_of_route htarget hurl hroute
  cases route with
  | health => exact json_taken 200 _ hd
  | orgUnits opId =>
    refine wait_taken hd fun rows m₁ hi₁ => ?_
    cases rows with
    | none => exact raise_taken _ (.nothing hi₁ rfl)
    | some rows => exact json_taken 200 _ (.nothing hi₁ rfl)
  | createIncident => exact createIncident_taken hi (heffect rfl)
  | listIncidents => exact listIncidents_taken hi
  | getIncident id =>
    refine wp_read.2 ?_
    split
    · exact json_taken 404 _ hd
    · exact json_taken 200 _ hd
  | comment id => exact named_taken hi (heffect rfl) (fun _ _ => rfl) fun _ _ => rfl
  | status id =>
    simp only [handle]
    split
    · exact raise_taken _ hd
    · rename_i hrole
      have hset : ∀ body, req.effect env body = (required body "status").map (.statusSet (number id)) := fun body => by
        rw [heffect rfl, effectOf, if_pos (by simp [Incoming.dispatcher, hrole, Except.isOk, Except.toBool])]
      exact named_taken hi hset (fun _ _ => rfl) fun _ _ => rfl
  | attachments id => exact addAttachment_taken hi (heffect rfl) req.contentType id req.uuid
  | notFound => exact json_taken 404 _ hd
  | _ => exact ⟨hi, trivial, hd.incidents⟩

end

end

/-- Every request does to the incidents what it asks for, in the turn its body comes. -/
theorem listener_taken (env : Env) : (takenSpec env).Implements (Taken env) (listener env) := by
  intro req m hi
  have hd : Done env req [] m m := .nothing hi rfl
  unfold listener
  split
  · exact json_taken 404 _ hd
  · rename_i target htarget
    split
    · exact raise_taken _ hd
    · rename_i pathname searchParams hurl
      exact handle_taken hi htarget hurl rfl

/-! ## Runs -/

/-- Notes what the requests ask for, each in the turn its body has come. -/
def Sys.effects (env : Env) {D : Type} (s : State D) (a : Act) (effects : List Effect) : List Effect :=
  match a with
  | .resume i =>
    match s.threads i with
    | some t => effects ++ noted env t.call t.asked
    | none => effects
  | _ => effects

section
variable {env : Env} {D : Type} {ans : D → (q : Query) → q.Reply → D → Prop} {s s' : State D} {a : Act}
  {effects : List Effect}

theorem incidentsOf_append (more : List Effect) :
    incidentsOf (effects ++ more) = more.foldl after (incidentsOf effects) := List.foldl_append

theorem turn_incidents {i : Nat} {req : Incoming} {h : Entries}
    (ht : Turn (takenSpec env) (Taken env) s i req h s') :
    s'.mem.incidents = (noted env req h).foldl after s.mem.incidents := by
  cases ht with
  | asks _ _ hissue => exact hissue
  | ends _ _ hpost => exact hpost

/-- A step does to the incidents what is noted of it. -/
theorem step_effects (hc : Change (takenSpec env) (Taken env) ans clients s a s')
    (hs : s.mem.incidents = incidentsOf effects) : s'.mem.incidents = incidentsOf (Sys.effects env s a effects) := by
  cases hc with
  | start _ ht => rw [turn_incidents ht, hs]; rfl
  | answer => exact hs
  | resume hi _ ht => rw [turn_incidents ht, hs, ← incidentsOf_append]; simp only [Sys.effects, hi]
  | outside ho =>
    obtain ⟨rfl, -⟩ := ho
    exact hs

theorem clients_taken (set : Bool) (m : Memory) (d : D) (m' : Memory) (d' : D) (hi : (takenSpec env).inv m)
    (h : clients set m d m' d') : (takenSpec env).inv m' ∧ (takenSpec env).rely m m' := by
  obtain ⟨rfl, -⟩ := h
  exact ⟨hi, trivial⟩

/-- At every point the array holds what the requests so far have asked for. -/
theorem incidents_requested {dbClient : Bool} {d : D}
    (h : Reachable (Watching (Sys.effects env) (ListenerStep env ans)) (Sys.init (.init dbClient) d, []) (s, effects)) :
    s.mem.incidents = incidentsOf effects := by
  refine (h.inv (I := fun p => p.1.Meets (takenSpec env) (Taken env) ∧ p.1.mem.incidents = incidentsOf p.2)
    ⟨Sys.init_meets rfl, rfl⟩ ?_).2
  rintro p a ⟨s', effects'⟩ ⟨hm, hi⟩ ⟨hs, rfl⟩
  have hc := change_of_step (listener_taken env) hm hs
  exact ⟨hc.meets (fun _ _ _ _ _ => trivial) clients_taken hm, step_effects hc hi⟩

end

end Tactix.IncidentSvc.Listener
