import Tactix.IncidentSvc.Requests
/-!
# Two stores of incidents

Requests create, comment and serve the incidents of an array; with a database
client `GET /incidents` lists the rows of a table none of them writes.
`list_iff` says when the two show the same.
-/
open Tactix.Js Tactix.Authz ServiceLib

namespace Tactix.IncidentSvc.Listener

/-- The rows of the table `incidents`. -/
abbrev Table := List IncidentRow

/-- No query of the listener writes the table, and the unfiltered SELECT returns all
of it. All other replies are free. -/
def selects (d : Table) (q : Query) (r : q.Reply) (d' : Table) : Prop :=
  d' = d ∧ match q, r with
    | .listIncidents none none, some rows => rows.Perm d
    | _, _ => True

theorem perm_of_selects {d d' : Table} {status q : Option String} {rows : List IncidentRow}
    (h : selects d (.listIncidents status q) (some rows) d') (hstatus : status = none) (hq : q = none) : rows.Perm d := by
  subst hstatus hq
  exact h.2

/-- What a client sees of an incident. -/
structure View where
  id : Nat
  title : Json
  severity : Json
  status : Json
  comments : Json

def Incident.view (i : Incident) : View := ⟨i.id, i.title, i.severity, i.status, .arr i.comments⟩

def IncidentRow.view (r : IncidentRow) : View := ⟨r.id, .str r.title, .str r.severity, .str r.status, r.comments⟩

def Body.views : Body → List View
  | .incidents list => list.map (·.view)
  | .rows list => list.map (·.view)
  | _ => []

/-- A request that is handled with no other in between. -/
abbrev Alone (p : Svc (Option Response)) (s : State Table) (response : Response) : Prop :=
  ∃ m' d', Prog.Exec selects (fun m m' => m' = m) p s.mem s.data m' d' (.ok (some response))

/-- `GET /incidents` without `status` and `q` answers with this body. -/
def Lists (env : Env) (s : State Table) (body : Body) : Prop :=
  ∃ searchParams, orString (searchParams "status") none = none ∧ orString (searchParams "q") none = none ∧
    Alone (listIncidents env searchParams) s ⟨200, body⟩

/-- Some `GET /incidents/:id` answers with this incident. -/
def Serves (s : State Table) (i : Incident) : Prop := ∃ text, Alone (getIncident text) s ⟨200, .incident (some i)⟩

/-- The list shows what is served, and every incident that was answered 201, with the
comments and the status the log has for it. -/
structure ListLaw (env : Env) (s : State Table) : Prop where
  agrees : ∀ body, Lists env s body → ∀ v, v ∈ body.views ↔ ∃ i, Serves s i ∧ i.view = v
  created : ∀ i req h x, s.threads i = some ⟨req, h, .done (.ok (some ⟨201, .incident x⟩))⟩ → ∃ incident,
    x = some incident ∧ ∀ body, Lists env s body → ∃ v ∈ body.views, v.id = incident.id ∧
      v.comments = .arr (commentsOf incident.id s.mem.events) ∧ v.status = statusOf incident.id s.mem.events

/-- The table shows the incidents the requests ask for: one for each that was created,
with the comments and the status that later requests gave it. -/
def ShowsRequested (d : Table) (effects : List Effect) : Prop :=
  ∀ v, v ∈ d.map (·.view) ↔ ∃ i, Requested effects i ∧ i.view = v

/-- The decimal digits of a number stand for it. -/
theorem number_toString (n : Nat) : number (toString n) = n := by
  rw [number, Nat.toString_eq_ofList_toDigits, String.toList_ofList, ← Nat.ofDigitChars_eq_foldl]
  exact Nat.ofDigitChars_ten_toDigits

section
variable {env : Env} {s : State Table}

/-- What is listed: the table when a client is set, else the array. -/
theorem lists_iff {body : Body} : Lists env s body ↔
    (s.mem.dbClient = false ∧ body = .incidents s.mem.incidents) ∨
      (s.mem.dbClient = true ∧ ∃ rows : List IncidentRow, rows.Perm s.data ∧ body = .rows rows) := by
  constructor
  · rintro ⟨searchParams, hstatus, hq, m', d', h⟩
    change Prog.Exec _ _ (ite _ _ _) _ _ _ _ _ at h
    split at h
    · rename_i hdb
      obtain ⟨reply, _, _, hreply, -, h⟩ := h
      cases reply with
      | none => cases h.2.2
      | some rows =>
        cases h.2.2
        exact .inr ⟨hdb, rows, perm_of_selects hreply hstatus hq, rfl⟩
    · rename_i hdb
      rw [hstatus, hq] at h
      cases h.2.2
      exact .inl ⟨by simpa using hdb, by simp⟩
  · rintro (⟨hdb, rfl⟩ | ⟨hdb, rows, hperm, rfl⟩)
    · refine ⟨fun _ => none, rfl, rfl, s.mem, s.data, ?_⟩
      change Prog.Exec _ _ (ite _ _ _) _ _ _ _ _
      rw [if_neg (by simp [hdb])]
      exact ⟨rfl, rfl, by simp [orString]⟩
    · refine ⟨fun _ => none, rfl, rfl, s.mem, s.data, ?_⟩
      change Prog.Exec _ _ (ite _ _ _) _ _ _ _ _
      rw [if_pos hdb]
      exact ⟨some rows, s.data, s.mem, ⟨rfl, hperm⟩, rfl, rfl, rfl, rfl⟩

theorem serves_iff (hi : LogInv s.mem) {i : Incident} : Serves s i ↔ i ∈ s.mem.incidents := by
  constructor
  · rintro ⟨text, m', d', h⟩
    have h := Prog.exec_read.1 h
    split at h
    · cases h.2.2
    · rename_i j hj
      cases h.2.2
      exact List.mem_of_find?_eq_some hj
  · intro hm
    obtain ⟨j, hj, hfind⟩ := incident_some (List.mem_map_of_mem hm)
    have hjid : j.id = i.id := by simpa using List.find?_some hfind
    have hnodup : (s.mem.incidents.map (·.id)).Nodup := by
      rw [hi.incidentIds]
      exact List.nodup_range'
    obtain rfl := List.inj_on_of_nodup_map hnodup hj hm hjid
    refine ⟨toString j.id, s.mem, s.data, ?_⟩
    refine Prog.exec_read.2 ?_
    rw [number_toString, hfind]
    exact ⟨rfl, rfl, rfl⟩

theorem served_views (hi : LogInv s.mem) (v : View) :
    (∃ i, Serves s i ∧ i.view = v) ↔ v ∈ s.mem.incidents.map (·.view) := by
  simp only [serves_iff hi, List.mem_map]

/-- The list shows what is served, as long as it shows the array or the table agrees. -/
theorem agrees_iff (env : Env) (hi : LogInv s.mem) {effects : List Effect} (hs : s.mem.incidents = incidentsOf effects) :
    (∀ body, Lists env s body → ∀ v, v ∈ body.views ↔ ∃ i, Serves s i ∧ i.view = v) ↔
      s.mem.dbClient = false ∨ ShowsRequested s.data effects := by
  have hserved : ∀ v, v ∈ s.mem.incidents.map (·.view) ↔ ∃ i, Requested effects i ∧ i.view = v := fun v => by
    simp only [hs, List.mem_map, mem_incidentsOf]
  simp only [served_views hi, lists_iff]
  constructor
  · intro h
    cases hdb : s.mem.dbClient with
    | false => exact .inl rfl
    | true => exact .inr fun v => (h (.rows s.data) (.inr ⟨hdb, s.data, .refl _, rfl⟩) v).trans (hserved v)
  · rintro hcond body (⟨hdb, rfl⟩ | ⟨hdb, rows, hperm, rfl⟩) v
    · rfl
    · rcases hcond with hno | hsame
      · rw [hdb] at hno
        cases hno
      · exact ((hperm.map _).mem_iff).trans ((hsame v).trans (hserved v).symm)

/-- No step writes the table. -/
theorem data_kept {m : Memory} {d : Table} (h : Reachable (ListenerStep env selects) (Sys.init m d) s) : s.data = d := by
  refine h.inv (I := fun s => s.data = d) rfl ?_
  rintro s a s' hd hs
  cases hs with
  | start | resume => exact hd
  | answer _ ha => exact ha.1.trans hd
  | outside ho => exact ho.2.trans hd

end

/-- In every reachable state the list obeys the law exactly when no client is set or
the table shows what the requests so far have asked for. -/
theorem list_iff (env : Env) (dbClient : Bool) (d : Table) {s : State Table} {effects : List Effect}
    (h : Reachable (Watching (Sys.effects env) (ListenerStep env selects)) (Sys.init (.init dbClient) d, []) (s, effects)) :
    ListLaw env s ↔ s.mem.dbClient = false ∨ ShowsRequested d effects := by
  have hm := (reachable_meets h.unwatched).1
  have hlist := agrees_iff env hm.1 (incidents_requested h)
  rw [data_kept h.unwatched] at hlist
  rw [← hlist]
  constructor
  · exact fun hl => hl.agrees
  · refine fun ha => ⟨ha, fun i req h x hi => ?_⟩
    obtain ⟨_, _, ⟨-, hended⟩, hg⟩ := hm.2 i _ hi
    obtain ⟨incident, hin, rfl⟩ := hended x rfl
    refine ⟨incident, rfl, fun body hbody => ?_⟩
    -- The incident is still in the array, as the log has it.
    obtain ⟨j, hj, hjid⟩ := List.mem_map.1 (hg.incidents incident hin)
    obtain ⟨hcomments, hstatus⟩ := hm.1.told j hj
    refine ⟨j.view, (ha body hbody j.view).2 ⟨j, (serves_iff hm.1).2 hj, rfl⟩, hjid, ?_, ?_⟩
    · rw [← hjid, ← hcomments]
      rfl
    · rw [← hjid, ← hstatus]
      rfl

/-- A client is set, and the table has a row for the incident that one request creates and
another comments: the first is answered with 201, and the list shows the incident. -/
theorem list_iff_sample : ∃ s : State Table, s.mem.dbClient = true ∧ ListLaw .sample s ∧
    ∃ req h x, s.threads 0 = some ⟨req, h, .done (.ok (some ⟨201, .incident x⟩))⟩ := by
  have h0 : Reachable (Watching (Sys.effects .sample) (ListenerStep .sample selects))
    (Sys.init (.init true) [⟨1, "Outage", none, "low", "open", .arr [.str "Pump sent"]⟩], []) _ := .refl
  have h1 := h0.nextWatched (.start 0 (.sample "POST" "/incidents")) (.start rfl)
  have h2 := h1.nextWatched (.answer 0 .body (some [Sample.chunk])) (.answer rfl ⟨rfl, trivial⟩)
  have h3 := h2.nextWatched (.resume 0) (.resume rfl)
  -- The NOTIFY, `await commitEvent` and `await indexIncident`.
  have h4 := (h3.nextWatched (.answer 0 (.notify ..) (some ())) (.answer rfl ⟨rfl, trivial⟩)).nextWatched (.resume 0) (.resume rfl)
  have h5 := (h4.nextWatched (.answer 0 .turn ()) (.answer rfl ⟨rfl, trivial⟩)).nextWatched (.resume 0) (.resume rfl)
  have h6 := (h5.nextWatched (.answer 0 .turn ()) (.answer rfl ⟨rfl, trivial⟩)).nextWatched (.resume 0) (.resume rfl)
  have h7 := h6.nextWatched (.start 1 (.sample "POST" "/incidents/1/comment")) (.start rfl)
  have h8 := h7.nextWatched (.answer 1 .body (some [Sample.commentChunk])) (.answer rfl ⟨rfl, trivial⟩)
  have h9 := h8.nextWatched (.resume 1) (.resume rfl)
  have hshows : ShowsRequested [⟨1, "Outage", none, "low", "open", .arr [.str "Pump sent"]⟩]
      [.created (.str "Outage") (.str "low") none, .commented 1 (.str "Pump sent")] := fun v => by
    simp only [← mem_incidentsOf]
    simp [incidentsOf, after, Incident.after, Effect.adds, IncidentRow.view, Incident.view, eq_comm]
  exact ⟨_, rfl, (list_iff .sample true _ h9).2 (.inr hshows), _, _, _, rfl⟩

/-- With one, an incident is created, answered with 201, and not in the list. -/
theorem created_unlisted :
    ¬ ∀ s, Reachable (ListenerStep .sample selects) (Sys.init (.init true) []) s → ListLaw .sample s := by
  intro hall
  have h0 : Reachable (Guarded (fun _ _ => True) (ListenerStep .sample selects)) (Sys.init (.init true) []) _ := .refl
  have h1 := reach_start h0 trivial (i := 0) (l := .sample "POST" "/incidents") rfl rfl
  have hread := reach_answer h1 trivial (i := 0) (a := some [Sample.chunk]) rfl ⟨rfl, trivial⟩
  have h2 := reach_resume hread trivial (i := 0) rfl rfl
  -- The NOTIFY, `await commitEvent` and `await indexIncident`.
  have h3 := reach_resume (reach_answer h2 trivial (i := 0) (a := some ()) rfl ⟨rfl, trivial⟩) trivial (i := 0) rfl rfl
  have h4 := reach_resume (reach_answer h3 trivial (i := 0) (a := ()) rfl ⟨rfl, trivial⟩) trivial (i := 0) rfl rfl
  have h5 := reach_resume (reach_answer h4 trivial (i := 0) (a := ()) rfl ⟨rfl, trivial⟩) trivial (i := 0) rfl rfl
  obtain ⟨incident, -, hlisted⟩ := (hall _ h5.forget).created 0 _ _ _ rfl
  obtain ⟨v, hv, -⟩ := hlisted (.rows []) (lists_iff.2 (.inr ⟨rfl, [], .refl _, rfl⟩))
  cases hv

end Tactix.IncidentSvc.Listener
