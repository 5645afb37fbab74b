import Tactix.Edge
import Tactix.Ui.FirstRun
/-!
# The browser behind the proxy

Every request the pages make has a path that `ops/nginx.conf` gives to `ui`, rewrites to one
the service does not have, refuses or redirects. `calls_unserved` says so for any ports, and
`deployed_stuck` what it means for the shell: the first-run wizard never gets past its probe.
-/
open Tactix.Js Tactix.Edge ServiceLib

namespace Tactix.Ui.Deployed

/-- An id as the services make them: the browser leaves the path it is put into as it is. -/
structure Id where
  text : String
  plain : text.toList.all fun c => c.isAlphanum || c = '-'

/-- The calls of `fetch` and `new WebSocket` in `ui`. -/
inductive Call where
  | config
  | probe
  | applyConfig
  | testLdap
  | createAdmin
  | login
  | refresh
  | rt
  | engWs
  | engMessages
  | incidents
  | createIncident
  | incident (id : Id)
  | chat (id : Id)
  | sendChat (id : Id)
  | tasks (id : Id)
  | createTask (id : Id)
  | changeStatus (id task : Id)
  | activity (id : Id)
  | orgUnits (op : Id)
  | saveDraft (op : Id)
  | submitDraft (op message : Id)
  | permissions (op : Id)
  | addAssignment (op : Id)
  | addRole (op : Id)

/-- `Bearer` with the token of the session; without one there is no header. -/
def bearer (token : String) : String := if token = "" then "" else "Bearer " ++ token

def Call.request (token : String) : Call → Request
  | .config => ⟨"GET", "/bootstrap/config", "", "", false⟩
  | .probe => ⟨"GET", "/bootstrap/probe", "", "", false⟩
  | .applyConfig => ⟨"POST", "/bootstrap/config", "", "", false⟩
  | .testLdap => ⟨"POST", "/auth/ldap/test", "", "", false⟩
  | .createAdmin => ⟨"POST", "/auth/local/init-admin", "", "", false⟩
  | .login => ⟨"POST", "/auth/login", "", "", false⟩
  | .refresh => ⟨"POST", "/auth/refresh", "", "", false⟩
  | .rt => ⟨"GET", "/rt", "", "", true⟩
  | .engWs => ⟨"GET", "/eng/ws", "", "", true⟩
  | .engMessages => ⟨"POST", "/eng/messages", "", bearer token, false⟩
  | .incidents => ⟨"GET", "/incidents", "", bearer token, false⟩
  | .createIncident => ⟨"POST", "/incidents", "", bearer token, false⟩
  | .incident id => ⟨"GET", "/incidents/" ++ id.text, "", bearer token, false⟩
  | .chat id => ⟨"GET", "/incidents/" ++ (id.text ++ "/chat"), "limit=50", bearer token, false⟩
  | .sendChat id => ⟨"POST", "/incidents/" ++ (id.text ++ "/chat"), "", bearer token, false⟩
  | .tasks id => ⟨"GET", "/incidents/" ++ (id.text ++ "/tasks"), "", bearer token, false⟩
  | .createTask id => ⟨"POST", "/incidents/" ++ (id.text ++ "/tasks"), "", bearer token, false⟩
  | .changeStatus id task => ⟨"PATCH", "/incidents/" ++ (id.text ++ "/tasks/" ++ task.text), "", bearer token, false⟩
  | .activity id => ⟨"GET", "/incidents/" ++ (id.text ++ "/activity"), "", bearer token, false⟩
  | .orgUnits op => ⟨"GET", "/operations/" ++ (op.text ++ "/org-units"), "", "", false⟩
  | .saveDraft op => ⟨"POST", "/operations/" ++ (op.text ++ "/messages"), "", bearer token, false⟩
  | .submitDraft op message => ⟨"PUT", "/operations/" ++ (op.text ++ "/messages/" ++ message.text ++ "/submit"), "", bearer token, false⟩
  | .permissions op => ⟨"GET", "/api/operations/" ++ (op.text ++ "/permissions"), "", "", false⟩
  | .addAssignment op => ⟨"POST", "/api/operations/" ++ (op.text ++ "/assignments"), "", "", false⟩
  | .addRole op => ⟨"POST", "/api/operations/" ++ (op.text ++ "/roles"), "", "", false⟩

/-- Whether `res.ok` may be true, or a socket may open. -/
def Served : Outcome → Prop
  | .status code => 200 ≤ code ∧ code < 300
  | .handled _ => True
  | .silent => False

/-! ## What becomes of a call -/

section
variable {d : Deployment} {req req' : Request}

theorem answers_unserved {code : Nat} (h : nginx req = .answers code) (hcode : 300 ≤ code) : ¬ Served (d.outcome req) := by
  rw [Deployment.outcome, h]
  exact fun hserved => absurd hserved.2 (Nat.not_lt.2 hcode)

theorem passes_unserved {svc : Service} {port : Nat} (h : nginx req = .passes svc port req') (hmissing : d.serve req' svc = .status 404) :
    ¬ Served (d.outcome req) := by
  rw [Deployment.outcome, h]
  dsimp only
  split
  · rw [hmissing]
    exact fun hserved => absurd hserved.2 (by decide)
  · exact fun hserved => absurd hserved.2 (by decide)

/-- The file server of `ui` has none of the names the calls begin with. -/
theorem ui_missing {name : String} {more : List String} (hname : name ∈ ["auth", "incidents", "operations"])
    (hsegments : segments req.path = "" :: name :: more) (hstart : startsWith req.path ("/" ++ name) = true)
    (hmethod : req.method ≠ "OPTIONS") : d.serve req .ui = .status 404 := by
  have hfile : d.file req.path = false := by
    rw [Bool.eq_false_iff]
    intro hfile
    obtain ⟨rest, hrest⟩ := (startsWith_iff _ _).1 hstart
    rcases d.file_entry _ hfile with hroot | ⟨entry, hentry, hunder⟩
    · have hroot' : segments req.path = ["", ""] := by
        rw [hroot]
        decide
      rw [hroot'] at hsegments
      have hempty : name = "" := (List.cons.inj (List.cons.inj hsegments).2).1.symm
      rw [hempty] at hname
      exact absurd hname (by decide)
    · have hboth : ∀ n ∈ ["auth", "incidents", "operations"], ∀ e ∈ uiEntries,
          ¬ (("/" ++ e).toList <+: ("/" ++ n).toList ∨ ("/" ++ n).toList <+: ("/" ++ e).toList) := by decide
      rw [startsWith, List.isPrefixOf_iff_prefix] at hstart hunder
      exact hboth name hname entry hentry (List.prefix_or_prefix_of_prefix hunder hstart)
  have hroutes : ∀ n ∈ ["auth", "incidents", "operations"], ∀ p ∈ ["health", "config.js"],
      ¬ n.toList.map Char.toLower = p.toList.map Char.toLower := by decide
  have hhealth : takesPath "/health" req.path = false := by
    rw [Bool.eq_false_iff]
    exact fun h => hroutes name hname "health" (by simp)
      (takesPath_second h (by decide : segments "/health" = ["", "health"]) hsegments (by decide))
  have hconfig : takesPath "/config.js" req.path = false := by
    rw [Bool.eq_false_iff]
    exact fun h => hroutes name hname "config.js" (by simp)
      (takesPath_second h (by decide : segments "/config.js" = ["", "config.js"]) hsegments (by decide))
  have hfind : Service.ui.routes.find? (·.takes req) = none := by
    simp [Service.routes, Route.takes, hhealth, hconfig]
  rw [Deployment.serve, hfile, Bool.and_false, Service.express, hfind]
  simp [hmethod]

/-- What nginx gives to `ui`. -/
theorem ui_unserved {stem : List Char} (rest : List Char) {name : String} (more : List String)
    (hstem : Stem stem ['/'] ⟨false, .ui, 3000, "/", false⟩) (hpath : req.path.toList = stem ++ rest)
    (hname : name ∈ ["auth", "incidents", "operations"]) (hsegments : segments req.path = "" :: name :: more)
    (hstart : startsWith req.path ("/" ++ name) = true) (hmethod : req.method ≠ "OPTIONS") :
    ¬ Served (d.outcome req) := by
  obtain ⟨t, ht⟩ := hstem.begins
  have hbelow : req.path.toList = ['/'] ++ (t ++ rest) := by rw [hpath, ← ht, List.append_assoc]
  have hsame : "/" ++ String.ofList (t ++ rest) = req.path := by
    apply String.toList_injective
    rw [String.toList_append, hbelow]
    simp
  have hpass := hstem.passes hpath hbelow (by simp)
  dsimp only at hpass
  rw [hsame] at hpass
  exact passes_unserved hpass (ui_missing hname hsegments hstart hmethod)

theorem below_unserved (name rest : String) (hname : name ∈ ["auth", "incidents", "operations"])
    (hpath : req.path = "/" ++ name ++ "/" ++ rest) (hmethod : req.method ≠ "OPTIONS") : ¬ Served (d.outcome req) := by
  have hplain : ∀ n ∈ ["auth", "incidents", "operations"], '/' ∉ n.toList := by decide
  have hstem : Stem ("/" ++ name ++ "/").toList ['/'] ⟨false, .ui, 3000, "/", false⟩ := by
    simp only [List.mem_cons, List.not_mem_nil, or_false] at hname
    rcases hname with rfl | rfl | rfl <;> exact ⟨by decide, by decide, by decide, by decide, by decide⟩
  obtain ⟨more, hmore⟩ := segments_cons name (hplain name hname) rest
  refine ui_unserved rest.toList more hstem ?_ hname (hpath ▸ hmore) ?_ hmethod
  · rw [hpath, String.toList_append]
  · rw [startsWith_iff, hpath]
    exact ⟨"/" ++ rest, by simp only [String.append_assoc]⟩

/-- `/incidents` itself. -/
theorem incidents_unserved (hpath : req.path = "/incidents") (hmethod : req.method ≠ "OPTIONS") : ¬ Served (d.outcome req) := by
  have hstem : Stem "/incidents".toList ['/'] ⟨false, .ui, 3000, "/", false⟩ :=
    ⟨by decide, by decide, by decide, by decide, by decide⟩
  have hname : "incidents" ∈ ["auth", "incidents", "operations"] := by decide
  exact ui_unserved [] [] hstem (by rw [hpath]; rfl) hname (by rw [hpath]; decide) (by rw [hpath]; decide) hmethod

/-- What has no header where nginx asks for one. -/
theorem operations_unserved {rest : String} (hpath : req.path = "/api/operations/" ++ rest) (hauth : req.authorization = "") :
    ¬ Served (d.outcome req) := by
  have hstem : Stem "/api/operations/".toList "/api/".toList ⟨true, .incident, 3000, "/", false⟩ :=
    ⟨by decide, by decide, by decide, by decide, by decide⟩
  have hstart : req.path.toList = "/api/operations/".toList ++ rest.toList := by rw [hpath, String.toList_append]
  exact answers_unserved (hstem.refuses hstart rfl hauth) (by decide)

/-- `bootstrap-svc` has no path without `/bootstrap` before it. -/
theorem bootstrap_unserved (rest : String) (hpath : req.path = "/bootstrap/" ++ rest)
    (hmissing : Service.bootstrap.express { req with path := "/" ++ rest, upgrade := false } = .status 404) :
    ¬ Served (d.outcome req) := by
  have hstem : Stem "/bootstrap/".toList "/bootstrap/".toList ⟨false, .bootstrap, 3007, "/", false⟩ :=
    ⟨by decide, by decide, by decide, by decide, by decide⟩
  have hbelow : req.path.toList = "/bootstrap/".toList ++ rest.toList := by rw [hpath, String.toList_append]
  have hpass := hstem.passes hbelow hbelow (by simp)
  rw [String.ofList_toList, Bool.and_false] at hpass
  exact passes_unserved hpass hmissing

/-- `eng-svc` has no `/messages`. -/
theorem engMessages_unserved (hpath : req.path = "/eng/messages") (hmethod : req.method ≠ "OPTIONS") : ¬ Served (d.outcome req) := by
  have hstem : Stem "/eng/messages".toList "/eng/".toList ⟨true, .eng, 3000, "/", false⟩ :=
    ⟨by decide, by decide, by decide, by decide, by decide⟩
  have hstart : req.path.toList = "/eng/messages".toList ++ [] := by rw [hpath, List.append_nil]
  by_cases hauth : req.authorization = ""
  · exact answers_unserved (hstem.refuses hstart rfl hauth) (by decide)
  · have hbelow : req.path.toList = "/eng/".toList ++ "messages".toList := by
      rw [hpath]
      decide
    have hpass := hstem.passes hstart hbelow fun _ => hauth
    have hmessages : "/" ++ String.ofList "messages".toList = "/messages" := by decide
    dsimp only at hpass
    rw [hmessages, Bool.and_false] at hpass
    have hmissing : ∀ r ∈ Service.eng.routes, takesPath r.pattern "/messages" = false := by decide
    have hfind : Service.eng.routes.find? (·.takes { req with path := "/messages", upgrade := false }) = none :=
      List.find?_eq_none.2 fun r hr => by simp [Route.takes, hmissing r hr]
    refine passes_unserved hpass ?_
    simp only [Deployment.serve, Service.express, hfind]
    simp [hmethod]

end

/-- No call of the pages is answered with a 2xx and no socket opens, whatever port each service listens on. -/
theorem calls_unserved (d : Deployment) (token : String) (c : Call) : ¬ Served (d.outcome (c.request token)) := by
  cases c with
  | config =>
    exact bootstrap_unserved "config" rfl (by decide : Service.bootstrap.express ⟨"GET", "/config", "", "", false⟩ = _)
  | probe =>
    exact bootstrap_unserved "probe" rfl (by decide : Service.bootstrap.express ⟨"GET", "/probe", "", "", false⟩ = _)
  | applyConfig =>
    exact bootstrap_unserved "config" rfl (by decide : Service.bootstrap.express ⟨"POST", "/config", "", "", false⟩ = _)
  | testLdap => exact below_unserved "auth" "ldap/test" (by simp) rfl (by simp [Call.request])
  | createAdmin => exact below_unserved "auth" "local/init-admin" (by simp) rfl (by simp [Call.request])
  | login => exact below_unserved "auth" "login" (by simp) rfl (by simp [Call.request])
  | refresh => exact below_unserved "auth" "refresh" (by simp) rfl (by simp [Call.request])
  -- A WebSocket does not follow the redirect.
  | rt => exact answers_unserved (by decide : nginx ⟨"GET", "/rt", "", "", true⟩ = .answers 301) (by decide)
  | engWs => exact answers_unserved (by decide : nginx ⟨"GET", "/eng/ws", "", "", true⟩ = .answers 401) (by decide)
  | engMessages => exact engMessages_unserved rfl (by simp [Call.request])
  | incidents | createIncident => exact incidents_unserved rfl (by simp [Call.request])
  | incident | chat | sendChat | tasks | createTask | changeStatus | activity =>
    exact below_unserved "incidents" _ (by simp) rfl (by simp [Call.request])
  | orgUnits | saveDraft | submitDraft => exact below_unserved "operations" _ (by simp) rfl (by simp [Call.request])
  | permissions | addAssignment | addRole => exact operations_unserved rfl rfl

/-! ## The shell -/

open FirstRun (Req Shell Wizard)

def ofReq : Req → Call
  | .runProbe => .probe
  | .testLdap _ => .testLdap
  | .createAdmin _ => .createAdmin
  | .applyConfig .. => .applyConfig

/-- Only what the deployment serves is answered with a 2xx. -/
def Behind (d : Deployment) (s : Shell) : FirstRun.Action → Prop
  | .config cfg => cfg.isSome → Served (d.outcome (Call.config.request ""))
  | .answer i a => ∀ r ∈ s.wizard.pending[i]?, a.isSome → Served (d.outcome ((ofReq r).request ""))
  | .input _ => True

/-- A wizard that has at most probed, and in vain. -/
structure Stuck (w : Wizard) : Prop where
  step : w.step ≤ 1
  probe : w.probe = "" ∨ w.probe = "fail"
  sent : ∀ r ∈ w.sent, r = .runProbe
  pending : ∀ r ∈ w.pending, r = .runProbe

theorem stuck_input {w w' : Wizard} (h : Stuck w) {i : FirstRun.Input} (hw : w.on i = some w') : Stuck w' := by
  have hstep := h.step
  cases i with
  | next =>
    simp only [Wizard.on] at hw
    split at hw
    · cases hw
      exact ⟨Nat.le_refl 1, h.probe, h.sent, h.pending⟩
    · rw [if_pos h.probe] at hw
      cases hw
    · omega
    · omega
    · cases hw
  | runProbe =>
    obtain ⟨-, ⟨⟩⟩ := Option.ite_none_right_eq_some.1 hw
    refine ⟨hstep, h.probe, fun r hr => ?_, fun r hr => ?_⟩
    · exact (List.mem_append.1 hr).elim (h.sent r) List.mem_singleton.1
    · exact (List.mem_append.1 hr).elim (h.pending r) List.mem_singleton.1
  | choose | editLdap | testLdap | skip | editAdmin | createAdmin | apply =>
    obtain ⟨hlater, -⟩ := Option.ite_none_right_eq_some.1 hw
    omega

/-- A probe that fails. -/
theorem stuck_answer {w : Wizard} (h : Stuck w) (i : Nat) :
    Stuck (Wizard.handle { w with pending := w.pending.eraseIdx i } .runProbe none) :=
  ⟨h.step, .inr rfl, h.sent, fun r hr => h.pending r (List.mem_of_mem_eraseIdx hr)⟩

/-- Behind the proxy the first-run wizard is all the shell ever shows. It never gets past its probe, whatever the
user does: nothing but probes is ever sent, and each of them fails. -/
theorem deployed_stuck (d : Deployment) {s : Shell} (h : Reachable (Guarded (Behind d) FirstRun.Step) .init s) :
    (s.mode = none ∨ s.mode = some none) ∧ s.wizard.step ≤ 1 ∧ (s.wizard.probe = "" ∨ s.wizard.probe = "fail") ∧
      ∀ r ∈ s.wizard.sent, r = .runProbe := by
  have hconfig : ¬ Served (d.outcome (Call.config.request "")) :=
    bootstrap_unserved "config" rfl (by decide : Service.bootstrap.express ⟨"GET", "/config", "", "", false⟩ = _)
  have hprobe : ¬ Served (d.outcome (Call.probe.request "")) :=
    bootstrap_unserved "probe" rfl (by decide : Service.bootstrap.express ⟨"GET", "/probe", "", "", false⟩ = _)
  have hi : (s.mode = none ∨ s.mode = some none) ∧ Stuck s.wizard := by
    refine h.inv (I := fun s => (s.mode = none ∨ s.mode = some none) ∧ Stuck s.wizard) ?_ ?_
    · exact ⟨.inl rfl, by decide, .inl rfl, by simp [Shell.init, Wizard.init], by simp [Shell.init, Wizard.init]⟩
    · rintro s a s' ⟨hmode, hstuck⟩ ⟨hbehind, hstep⟩
      cases hstep with
      | @config cfg hnone =>
        refine ⟨.inr ?_, hstuck⟩
        cases cfg with
        | none => rfl
        | some cfg => exact (hconfig (hbehind rfl)).elim
      | input hshown hw => exact ⟨hmode, stuck_input hstuck hw⟩
      | @answer i r a hr ha =>
        obtain rfl := hstuck.pending r (List.mem_of_getElem? hr)
        cases a with
        | some text => exact (hprobe (hbehind .runProbe hr rfl)).elim
        | none => exact ⟨hmode, stuck_answer hstuck i⟩
  exact ⟨hi.1, hi.2.step, hi.2.probe, hi.2.sent⟩

/-- A probe that was sent and refused. -/
theorem deployed_stuck_sample : ∃ s : Shell, s.wizard.sent = [.runProbe] ∧ s.wizard.probe = "fail" ∧ s.wizard.step ≤ 1 := by
  have h0 : Reachable (Guarded (Behind compose) FirstRun.Step) .init _ :=
    Reachable.refl.nextGuarded (.config none) (by simp [Behind]) (.config rfl)
  have h1 := h0.nextGuarded (.input .next) (by trivial) (.input rfl rfl)
  have h2 := h1.nextGuarded (.input .runProbe) (by trivial) (.input rfl rfl)
  have h3 := h2.nextGuarded (.answer 0 none) (by simp [Behind]) (.answer rfl trivial)
  exact ⟨_, rfl, rfl, (deployed_stuck compose h3).2.1⟩

end Tactix.Ui.Deployed
