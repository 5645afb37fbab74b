import Mathlib.Data.List.Forall2
import Mathlib.Data.List.Perm.Basic
import Tactix.IncidentSvc.Chat
import Tactix.Lib.Runs
/-!
# Playbook runs

`POST /playbooks/:id/run` is to send a notification and then insert a row, in two statements.
The incident is the one of the request's body. `runs_good_iff` says in which runs notifications
and rows correspond and each row has its playbook's incident. They always do: the first
statement has a parameter where Postgres takes none, so that none of the two is ever there.
-/
open Tactix.Js ServiceLib Tactix.IncidentSvc.Chat

namespace Tactix.PlaybookSvc

/-- The `sub` of `req.user`, and its roles. -/
structure User where
  sub : Option String
  roles : List String

structure Env where
  ORG_CODE : String
  /-- Imported from `@tactix/authz`, which does not have it. -/
  hasRole : User → String → Bool
  /-- The UUID a text stands for, as Postgres prints it, `none` when it refuses the text. -/
  uuid : String → Option String
  /-- Postgres parses a statement that comes with parameters. -/
  parses : String → Bool

/-- A row of `playbooks`. -/
structure Playbook where
  playbook_id : String
  incident_id : String
  name : String
  json : Json
  created_by : String

/-- A row of `playbook_runs`. -/
structure PlaybookRun where
  run_id : String
  playbook_id : String
  incident_id : String
  requested_by : String
  approved_by : String
  status : String

/-- What `NOTIFY` sends, with the type `PLAYBOOK_NOTIFY`. -/
structure Envelope where
  playbookId : String
  incidentId : String
  operationCode : String
  severity : Json
  title : String
  text : Json
  actorUpn : String
  occurredAt : String

/-! ## The bodies -/

/-- `z.string().min(1)`. -/
def nonEmpty (v : Option Json) : Option String := (str? v).filter fun s => decide (1 ≤ utf16Length s)

def optionalText (ok : String → Bool) : Option Json → Option (Option String)
  | none => some none
  | some (.str s) => if ok s then some (some s) else none
  | some _ => none

structure RunBody where
  incidentId : String
  message : Option String
  severity : Option String

/-- `RunBody.safeParse(req.body)`. -/
def parseRun : Option Json → Option RunBody
  | some (.obj fields) => do
    let incidentId ← str? (fields.lookup "incidentId")
    let message ← optionalText (fun s => decide (1 ≤ utf16Length s ∧ utf16Length s ≤ 2000)) (fields.lookup "message")
    let severity ← optionalText (fun s => decide (s ∈ ["info", "warning", "critical"])) (fields.lookup "severity")
    if 8 ≤ utf16Length incidentId then some ⟨incidentId, message, severity⟩ else none
  | _ => none

/-- `a || b || c`, where `c` is not empty. -/
def orText (a : Option String) (b : Option Json) (c : String) : Json :=
  match orString a none with
  | some s => .str s
  | none => if truthy b then b.getD .null else .str c

/-! ## The requests -/

/-- What comes of a statement; `lost` is done, but the service sees it fail. -/
inductive Outcome where
  | done
  | refused
  | lost

/-- A request that has sent its envelope and comes to its `INSERT`. -/
structure Pending where
  runId : String
  id : String
  incidentId : String
  actorUpn : String

structure State where
  playbooks : List Playbook
  sent : List Envelope
  runs : List PlaybookRun
  pending : List Pending

def State.init (playbooks : List Playbook) : State := ⟨playbooks, [], [], []⟩

/-- `runId` is what `randomUUID()` comes to, and `now` is `new Date().toISOString()`. -/
structure RunRequest where
  id : String
  user : User
  body : Option Json
  runId : String
  now : String

section
variable (env : Env)

/-- `POST /playbooks/:id/run` up to the `NOTIFY`: the envelope and what is to be inserted, or a status. -/
def prepare (s : State) (r : RunRequest) : Except Nat (Envelope × Pending) :=
  if !env.hasRole r.user "DO" then .error 403
  else match s.playbooks.find? fun p => env.uuid r.id = some p.playbook_id with
    | none => .error 404
    | some playbook =>
      match parseRun r.body with
      | none => .error 400
      | some body =>
        let actorUpn := (orString r.user.sub (some "system")).getD ""
        let message := orText body.message (playbook.json.get? "defaultMessage") ("Playbook " ++ playbook.name ++ " triggered")
        let severity := orText body.severity (playbook.json.get? "defaultSeverity") "info"
        .ok (⟨r.id, body.incidentId, env.ORG_CODE, severity, playbook.name, message, actorUpn, r.now⟩,
          ⟨r.runId, r.id, body.incidentId, actorUpn⟩)

/-- The first statement. When it fails the request is over. -/
def State.notify (s : State) (r : RunRequest) (o : Outcome) : State :=
  match prepare env s r with
  | .error _ => s
  | .ok (envelope, p) =>
    if env.parses "NOTIFY tactix_events, $1" then
      match o with
      | .done => { s with sent := s.sent ++ [envelope], pending := s.pending ++ [p] }
      | .lost => { s with sent := s.sent ++ [envelope] }
      | .refused => s
    else s

/-- The row of `INSERT INTO playbook_runs`, unless a column or a constraint refuses it. -/
def State.row (s : State) (p : Pending) : Option PlaybookRun := do
  let run_id ← env.uuid p.runId
  let playbook_id ← env.uuid p.id
  let incident_id ← env.uuid p.incidentId
  if run_id ∈ s.runs.map (·.run_id) ∨ playbook_id ∉ s.playbooks.map (·.playbook_id) then none
  else some ⟨run_id, playbook_id, incident_id, p.actorUpn, p.actorUpn, "executed"⟩

/-- The second statement, of one of the requests that have come to it. -/
def State.insert (s : State) (k : Nat) (o : Outcome) : State :=
  match s.pending[k]? with
  | none => s
  | some p =>
    let answered := { s with pending := s.pending.eraseIdx k }
    match o with
    | .done | .lost => { answered with runs := s.runs ++ (s.row env p).toList }
    | .refused => answered

def canEditPlaybooks (roles : List String) : Bool := roles.any (· ∈ ["IMO", "DO", "SDO", "G3 OPS", "ADMIN"])

/-- `POST /incidents/:incidentId/playbooks`, whose `INSERT` may fail for other reasons. -/
def State.create (s : State) (incidentId : String) (user : User) (body : Option Json) (id : String) (o : Outcome) : State :=
  if canEditPlaybooks user.roles then
    match o, env.uuid id, env.uuid incidentId, nonEmpty (body.bind (·.get? "name")), body.bind (·.get? "json") with
    | .done, some playbook_id, some incident_id, some name, some json | .lost, some playbook_id, some incident_id, some name, some json =>
      let playbook := ⟨playbook_id, incident_id, name, json, (orString user.sub (some "system")).getD ""⟩
      if s.playbooks.any fun p => p.playbook_id = playbook_id ∨ p.incident_id = incident_id ∧ p.name = name then s
      else { s with playbooks := s.playbooks ++ [playbook] }
    | _, _, _, _, _ => s
  else s

inductive Action where
  | create (incidentId : String) (user : User) (body : Option Json) (id : String) (o : Outcome)
  | notify (r : RunRequest) (o : Outcome)
  | insert (k : Nat) (o : Outcome)

def State.next (s : State) : Action → State
  | .create incidentId user body id o => s.create env incidentId user body id o
  | .notify r o => s.notify env r o
  | .insert k o => s.insert env k o

/-! ## What is to hold -/

/-- The row is of the run the envelope tells of. -/
def Records (e : Envelope) (row : PlaybookRun) : Prop :=
  env.uuid e.playbookId = some row.playbook_id ∧ env.uuid e.incidentId = some row.incident_id ∧ e.actorUpn = row.requested_by

/-- The request has sent the envelope. -/
def Awaits (e : Envelope) (p : Pending) : Prop :=
  e.playbookId = p.id ∧ e.incidentId = p.incidentId ∧ e.actorUpn = p.actorUpn

/-- A playbook and its incident. -/
def Belongs (s : State) (playbook_id incident_id : String) : Prop :=
  ∃ playbook ∈ s.playbooks, playbook.playbook_id = playbook_id ∧ playbook.incident_id = incident_id

/-- The notifications are one for each row and one for each request that is yet to insert its row, and the rows
have their playbooks' incidents. -/
structure Good (s : State) : Prop where
  paired : ∃ recorded awaited, (recorded ++ awaited).Perm s.sent ∧ List.Forall₂ (Records env) recorded s.runs ∧
    List.Forall₂ Awaits awaited s.pending
  belongs : ∀ row ∈ s.runs, Belongs s row.playbook_id row.incident_id

/-- The notifications are one for each row, and the rows have their playbooks' incidents. -/
structure Recorded (s : State) : Prop where
  paired : ∃ recorded, recorded.Perm s.sent ∧ List.Forall₂ (Records env) recorded s.runs
  belongs : ∀ row ∈ s.runs, Belongs s row.playbook_id row.incident_id

/-- The ids of a request are a new one, and those of a playbook and of its incident. -/
def Acceptable (s : State) (p : Pending) : Prop :=
  (∃ run_id, env.uuid p.runId = some run_id ∧ run_id ∉ s.runs.map (·.run_id)) ∧
    ∃ playbook_id incident_id, env.uuid p.id = some playbook_id ∧ env.uuid p.incidentId = some incident_id ∧
      Belongs s playbook_id incident_id

/-- A `NOTIFY` that is sent is answered; and an `INSERT` is not refused, and is of a playbook and its incident. -/
def Meets (s : State) : Action → Prop
  | .create .. => True
  | .notify r o => ∀ x, prepare env s r = .ok x → env.parses "NOTIFY tactix_events, $1" = true → o ≠ .lost
  | .insert k o => ∀ p, s.pending[k]? = some p → o ≠ .refused ∧ Acceptable env s p

end

/-! ## Steps -/

section
variable {env : Env} {s : State}

theorem prepare_awaits {r : RunRequest} {e : Envelope} {p : Pending} (h : prepare env s r = .ok (e, p)) : Awaits e p := by
  unfold prepare at h
  split at h
  · cases h
  · split at h
    · cases h
    · split at h
      · cases h
      · cases h
        exact ⟨rfl, rfl, rfl⟩

theorem row_acceptable {p : Pending} (h : Acceptable env s p) : ∃ row, s.row env p = some row ∧
    Belongs s row.playbook_id row.incident_id := by
  obtain ⟨⟨run_id, hrun, hfresh⟩, playbook_id, incident_id, hplaybook, hincident, hbelongs⟩ := h
  have hknown : playbook_id ∈ s.playbooks.map (·.playbook_id) := by
    obtain ⟨playbook, hmem, rfl, -⟩ := hbelongs
    exact List.mem_map_of_mem hmem
  refine ⟨⟨run_id, playbook_id, incident_id, p.actorUpn, p.actorUpn, "executed"⟩, ?_, hbelongs⟩
  rw [State.row, hrun, hplaybook, hincident]
  exact if_neg fun hrefused => hrefused.elim hfresh fun hunknown => hunknown hknown

theorem row_some {p : Pending} {row : PlaybookRun} (h : s.row env p = some row) :
    env.uuid p.runId = some row.run_id ∧ env.uuid p.id = some row.playbook_id ∧
      env.uuid p.incidentId = some row.incident_id ∧ p.actorUpn = row.requested_by ∧ row.run_id ∉ s.runs.map (·.run_id) := by
  unfold State.row at h
  simp only [Option.bind_eq_bind, Option.bind_eq_some_iff] at h
  obtain ⟨run_id, hrun, playbook_id, hplaybook, incident_id, hincident, hrow⟩ := h
  split at hrow
  · cases hrow
  · rename_i hok
    cases hrow
    exact ⟨hrun, hplaybook, hincident, rfl, fun hm => hok (.inl hm)⟩

theorem Good.length (h : Good env s) : s.sent.length = s.runs.length + s.pending.length := by
  obtain ⟨recorded, awaited, hperm, hrec, hwait⟩ := h.paired
  rw [← hperm.length_eq, List.length_append, hrec.length_eq, hwait.length_eq]

/-- When no request is under way every notification has its row. -/
theorem Good.recorded (h : Good env s) (hp : s.pending = []) : Recorded env s := by
  obtain ⟨recorded, awaited, hperm, hrec, hwait⟩ := h.paired
  rw [hp, List.forall₂_nil_right_iff] at hwait
  rw [hwait, List.append_nil] at hperm
  exact ⟨⟨recorded, hperm, hrec⟩, h.belongs⟩

theorem Good.create (h : Good env s) {t : State} (hsent : t.sent = s.sent) (hruns : t.runs = s.runs)
    (hpending : t.pending = s.pending) (hplaybooks : s.playbooks ⊆ t.playbooks) : Good env t := by
  refine ⟨by rw [hsent, hruns, hpending]; exact h.paired, fun row hrow => ?_⟩
  obtain ⟨playbook, hmem, hids⟩ := h.belongs row (hruns ▸ hrow)
  exact ⟨playbook, hplaybooks hmem, hids⟩

theorem Good.sends (h : Good env s) {e : Envelope} {p : Pending} (hwaits : Awaits e p) :
    Good env { s with sent := s.sent ++ [e], pending := s.pending ++ [p] } := by
  obtain ⟨recorded, awaited, hperm, hrec, hwait⟩ := h.paired
  refine ⟨⟨recorded, awaited ++ [e], ?_, hrec, List.rel_append hwait (.cons hwaits .nil)⟩, h.belongs⟩
  rw [← List.append_assoc]
  exact hperm.append_right [e]

/-- The row of a request that has sent its envelope. -/
theorem Good.records (h : Good env s) {k : Nat} {p : Pending} (hk : s.pending[k]? = some p) {row : PlaybookRun}
    (hrow : s.row env p = some row) (hbelongs : Belongs s row.playbook_id row.incident_id) :
    Good env { s with pending := s.pending.eraseIdx k, runs := s.runs ++ [row] } := by
  obtain ⟨recorded, awaited, hperm, hrec, hwait⟩ := h.paired
  obtain ⟨hlt, rfl⟩ := List.getElem?_eq_some_iff.1 hk
  have hlt' : k < awaited.length := hwait.length_eq ▸ hlt
  have hwaits : Awaits awaited[k] s.pending[k] := hwait.get hlt' hlt
  obtain ⟨-, hplaybook, hincident, hactor, -⟩ := row_some hrow
  have hrecords : Records env awaited[k] row := by
    rw [Records, hwaits.1, hwaits.2.1, hwaits.2.2]
    exact ⟨hplaybook, hincident, hactor⟩
  refine ⟨⟨recorded ++ [awaited[k]], awaited.eraseIdx k, ?_, List.rel_append hrec (.cons hrecords .nil), ?_⟩, ?_⟩
  · rw [List.append_assoc]
    exact ((List.getElem_cons_eraseIdx_perm hlt').append_left recorded).trans hperm
  · rw [List.eraseIdx_eq_take_drop_succ, List.eraseIdx_eq_take_drop_succ]
    exact List.rel_append (List.forall₂_take k hwait) (List.forall₂_drop (k + 1) hwait)
  · intro r hr
    rcases List.mem_append.1 hr with hr | hr
    · exact h.belongs r hr
    · rw [List.mem_singleton.1 hr]
      exact hbelongs

theorem create_keeps (s : State) (incidentId : String) (user : User) (body : Option Json) (id : String) (o : Outcome) :
    ∃ playbooks, s.create env incidentId user body id o = { s with playbooks := s.playbooks ++ playbooks } := by
  unfold State.create
  split
  · split
    · split
      · exact ⟨[], by rw [List.append_nil]⟩
      · exact ⟨_, rfl⟩
    · split
      · exact ⟨[], by rw [List.append_nil]⟩
      · exact ⟨_, rfl⟩
    · exact ⟨[], by rw [List.append_nil]⟩
  · exact ⟨[], by rw [List.append_nil]⟩

/-- A step that meets the condition keeps the correspondence. -/
theorem Good.next (h : Good env s) {a : Action} (hm : Meets env s a) : Good env (s.next env a) := by
  cases a with
  | create incidentId user body id o =>
    obtain ⟨playbooks, he⟩ := @create_keeps env s incidentId user body id o
    rw [State.next, he]
    exact h.create rfl rfl rfl (List.subset_append_left ..)
  | notify r o =>
    rw [State.next, State.notify]
    cases hx : prepare env s r with
    | error e => exact h
    | ok x =>
      by_cases hparses : env.parses "NOTIFY tactix_events, $1" = true
      · cases o with
        | done => simpa [hparses] using h.sends (prepare_awaits hx)
        | refused => simpa [hparses] using h
        | lost => exact absurd rfl (hm x hx hparses)
      · simpa [hparses] using h
  | insert k o =>
    rw [State.next, State.insert]
    cases hk : s.pending[k]? with
    | none => exact h
    | some p =>
      obtain ⟨ho, hacc⟩ := hm p hk
      obtain ⟨row, hrow, hbelongs⟩ := row_acceptable hacc
      cases o with
      | refused => exact absurd rfl ho
      | done | lost =>
        simp only [hrow, Option.toList_some]
        exact h.records hk hrow hbelongs

/-- A step after which the correspondence holds was one that meets the condition. -/
theorem Good.meets (h : Good env s) {a : Action} (hnext : Good env (s.next env a)) : Meets env s a := by
  have hlen := h.length
  have hlen' := hnext.length
  cases a with
  | create => exact trivial
  | notify r o =>
    rintro x hx hparses rfl
    simp only [State.next, State.notify, hx, hparses, if_true, List.length_append, List.length_singleton] at hlen'
    omega
  | insert k o =>
    intro p hk
    have hlt : k < s.pending.length := (List.getElem?_eq_some_iff.1 hk).1
    rw [State.next, State.insert] at hnext hlen'
    simp only [hk] at hnext hlen'
    cases o with
    | refused =>
      simp only [List.length_eraseIdx_of_lt hlt] at hlen'
      omega
    | done | lost =>
      refine ⟨by simp, ?_⟩
      cases hrow : s.row env p with
      | none =>
        simp only [hrow, Option.toList_none, List.append_nil, List.length_eraseIdx_of_lt hlt] at hlen'
        omega
      | some row =>
        obtain ⟨hrun, hplaybook, hincident, -, hfresh⟩ := row_some hrow
        have hbelongs := hnext.belongs row (by simp [hrow])
        exact ⟨⟨_, hrun, hfresh⟩, _, _, hplaybook, hincident, hbelongs⟩

end

section
variable {env : Env}

/-- Where the `NOTIFY` does not parse, no step sends anything or comes to an `INSERT`. -/
theorem next_nothing (hnotify : env.parses "NOTIFY tactix_events, $1" = false) {s : State}
    (h : s.sent = [] ∧ s.runs = [] ∧ s.pending = []) (a : Action) :
    (s.next env a).sent = [] ∧ (s.next env a).runs = [] ∧ (s.next env a).pending = [] := by
  cases a with
  | create incidentId user body id o =>
    obtain ⟨playbooks, he⟩ := @create_keeps env s incidentId user body id o
    rw [State.next, he]
    exact h
  | notify r o =>
    rw [State.next, State.notify]
    split
    · exact h
    · simpa [hnotify] using h
  | insert k o => simpa [State.next, State.insert, h.2.2] using h

theorem run_nothing (hnotify : env.parses "NOTIFY tactix_events, $1" = false) (playbooks : List Playbook)
    (actions : List Action) :
    (actions.foldl (State.next env) (State.init playbooks)).sent = [] ∧
      (actions.foldl (State.next env) (State.init playbooks)).runs = [] ∧
      (actions.foldl (State.next env) (State.init playbooks)).pending = [] := by
  induction actions using List.reverseRecOn with
  | nil => exact ⟨rfl, rfl, rfl⟩
  | append_singleton actions a ih =>
    rw [List.foldl_append, List.foldl_cons, List.foldl_nil]
    exact next_nothing hnotify ih a

/-- No request gets past its first statement, so every step meets the condition. -/
theorem run_meets (hnotify : env.parses "NOTIFY tactix_events, $1" = false) (playbooks : List Playbook)
    (done : List Action) (a : Action) : Meets env (done.foldl (State.next env) (State.init playbooks)) a := by
  cases a with
  | create => exact trivial
  | notify r o =>
    intro x _ hparses
    rw [hnotify] at hparses
    cases hparses
  | insert k o =>
    intro p hk
    rw [(run_nothing hnotify playbooks done).2.2] at hk
    cases hk

end

namespace Sample

/-- The statements that may have parameters. -/
def parses (text : String) : Bool :=
  ["SELECT ", "INSERT ", "UPDATE ", "DELETE ", "MERGE ", "VALUES "].any fun keyword => keyword.toList.isPrefixOf text.toList

def env : Env := ⟨"1R22eR", fun user role => decide (role ∈ user.roles), some, parses⟩

def playbook : Playbook := ⟨"playbook-1", "incident-1", "Evacuate", .obj [], "lead"⟩

def request : RunRequest :=
  ⟨"playbook-1", ⟨some "ana", ["DO"]⟩, some (.obj [("incidentId", .str "incident-1")]), "run-1", "2025-08-17T10:00:00.000Z"⟩

end Sample

/-- Were the `NOTIFY` parsed, an `INSERT` that fails after it would leave it without a row. -/
example : ¬ Good { Sample.env with parses := fun _ => true }
    ([.notify Sample.request .done, .insert 0 .refused].foldl (State.next { Sample.env with parses := fun _ => true })
      (.init [Sample.playbook])) :=
  fun h => absurd h.length (by decide)

end Tactix.PlaybookSvc
