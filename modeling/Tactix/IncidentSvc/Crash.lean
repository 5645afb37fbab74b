import Tactix.IncidentSvc.Log
/-!
# Requests that end the process

An error that leaves the listener is a rejected promise nobody handles, and ends
the process. `escapes_iff_unhandled` says which steps of a run lead there.
-/
open Tactix.Js Tactix.Authz ServiceLib

namespace Tactix.IncidentSvc.Listener

/-- An error has left the listener in request `i`. -/
def Escapes {D : Type} (s : State D) (i : Nat) : Prop :=
  ∃ req h e, s.threads i = some ⟨req, h, .done (.error e)⟩

/-- A step that the listener can handle: a request it does not throw on at once, and a
reply that is not a rejection it does not catch. -/
def Handled (env : Env) {D : Type} (s : State D) : Act → Prop
  | .start _ req => ¬ Crashes env s.mem req
  | .answer _ q a => ¬ Rejected ⟨q, a⟩
  | _ => True

/-- Nothing has escaped, and no call has had a rejection it does not catch. -/
structure Calm {D : Type} (s : State D) : Prop where
  escapes : ∀ i, ¬ Escapes s i
  clean : ∀ i h, s.asked i = some h → Clean h

section
variable {env : Env} {D : Type} {ans : D → (q : Query) → q.Reply → D → Prop} {s s' : State D}

theorem Calm.update {i : Nat} {t : Thread Incoming Memory Query Query.Reply Error (Option Response)} (hi : Calm s)
    (hs : s'.threads = Function.update s.threads i (some t)) (he : ∀ e, t.status ≠ .done (.error e)) (hc : Clean t.asked) :
    Calm s' := by
  refine ⟨fun j => ?_, fun j h hj => ?_⟩
  · rintro ⟨req, h, e, hj⟩
    rw [hs] at hj
    rcases update_cases hj with ⟨rfl, rfl⟩ | ⟨-, hj⟩
    · exact he e rfl
    · exact hi.escapes j ⟨req, h, e, hj⟩
  · rw [asked_update hs] at hj
    rcases update_cases hj with ⟨rfl, rfl⟩ | ⟨-, hj⟩
    · exact hc
    · exact hi.clean j h hj

/-- A turn that throws has a reason. -/
theorem calm_turn {i : Nat} {req : Incoming} {h : Entries} (hi : Calm s) (hc : Clean h)
    (hno : h = [] → ¬ Crashes env s.mem req) (ht : Turn listenerSpec (Ended env) s i req h s') : Calm s' := by
  cases ht with
  | asks => exact hi.update rfl (by simp) hc
  | @ends m r _ _ hp =>
    refine hi.update rfl (fun e he => ?_) hc
    cases he
    rcases hp with hp | ⟨hh, hp⟩
    · exact hp hc
    · exact hno hh hp

theorem calm_step {a : Act} (hi : Calm s) (ha : Handled env s a)
    (hc : Change listenerSpec (Ended env) ans clients s a s') : Calm s' := by
  cases hc with
  | start _ ht => exact calm_turn hi (by simp [Clean]) (fun _ => ha) ht
  | @answer i req h q k r d hw _ =>
    refine hi.update rfl (by simp) ((hi.clean i h ?_).cons ha)
    simp [Sys.asked, hw]
  | @resume i req h p s' hp hh ht =>
    refine calm_turn hi (hi.clean i h ?_) (fun he => absurd he hh) ht
    simp [Sys.asked, hp]
  | outside h =>
    obtain ⟨rfl, rfl⟩ := h
    exact ⟨hi.escapes, hi.clean⟩

theorem error_of_unsearchable {needle : String} {list : List Incident} {i : Incident} (hm : i ∈ list)
    (hu : Unsearchable env needle i) : ∃ e, list.filterM (matchesQ env needle) = .error e := by
  cases h : list.filterM (matchesQ env needle) with
  | error e => exact ⟨e, rfl⟩
  | ok l' => exact absurd hu ((matchesQ_ok needle i).1 ((filterM_ok list).1 ⟨l', h⟩ i hm))

/-- A request the listener throws on. -/
theorem crashes_advance {m : Memory} {req : Incoming} (h : Crashes env m req) :
    ∃ e, (listener env req).advance m = (m, .done (.error e)) := by
  cases h with
  | invalidUrl htarget hurl =>
    refine ⟨.invalidUrl, ?_⟩
    simp only [listener, htarget, hurl]
    rfl
  | @status target pathname id searchParams code htarget hurl hroute hrole =>
    refine ⟨.typeError, ?_⟩
    simp only [listener, htarget, hurl]
    change (handle env req target searchParams (routeOf m.dbClient req.method pathname)).advance m = _
    simp only [hroute, handle, hrole]
    rfl
  | @search target pathname q searchParams i htarget hurl hroute hdb hq hm hstatus hu =>
    have hkept : i ∈ m.incidents.filter fun i => (orString (searchParams "status") none).all (isText i.status) :=
      List.mem_filter.2 ⟨hm, hstatus⟩
    obtain ⟨e, he⟩ := error_of_unsearchable hkept hu
    refine ⟨e, ?_⟩
    simp only [listener, htarget, hurl]
    change (handle env req target searchParams (routeOf m.dbClient req.method pathname)).advance m = _
    rw [hroute]
    change (ite _ _ _ : Svc (Option Response)).advance m = _
    simp only [hdb, Bool.false_eq_true, if_false, hq, he]
    rfl

/-- A request that has had an uncaught rejection throws in its next turn. -/
theorem escapes_of_ready {i : Nat} {req : Incoming} {h : Entries} {p : Svc (Option Response)}
    (hm : s.Meets listenerSpec (Ended env)) (hp : s.threads i = some ⟨req, h, .ready p⟩) (hh : ¬ Clean h) :
    Escapes (s.run i req h p) i := by
  have ht : Turn listenerSpec (Ended env) s i req h _ := turn_of_wp ((hm.2 i _ hp).2 _ hm.1 (listenerSpec.rely_refl _))
  generalize s.run i req h p = s' at ht
  cases ht with
  | asks _ _ hq _ => exact absurd hq.1 hh
  | @ends m r _ _ hr =>
    cases r with
    | ok reply => exact absurd hr.1 hh
    | error e => exact ⟨req, h, e, Function.update_self ..⟩

theorem escapes_of_rejected {i : Nat} {q : Query} {r : q.Reply} (hm : s.Meets listenerSpec (Ended env))
    (hr : Rejected ⟨q, r⟩) (hs : ListenerStep env ans s (.answer i q r) s') :
    ∃ s'', ListenerStep env ans s' (.resume i) s'' ∧ Escapes s'' i := by
  have hm' := (change_of_step (run_meets env) hm hs).meets (fun _ _ _ _ _ => trivial) clients_keep hm
  cases hs with
  | @answer i req h q k r d hw _ =>
    have hp : (Function.update s.threads i (some (⟨req, ⟨q, r⟩ :: h, .ready (k r)⟩ :
        Thread Incoming Memory Query Query.Reply Error (Option Response)))) i = some ⟨req, ⟨q, r⟩ :: h, .ready (k r)⟩ :=
      Function.update_self ..
    exact ⟨_, .resume hp, escapes_of_ready hm' hp (not_clean hr)⟩

/-- A request that the listener throws on leaves it with the error. -/
theorem escapes_of_crashes {i : Nat} {req : Incoming} (hc : Crashes env s.mem req)
    (hs : ListenerStep env ans s (.start i req) s') : Escapes s' i := by
  obtain ⟨e, he⟩ := crashes_advance hc
  cases hs with
  | start _ => exact ⟨req, [], e, by simp [Sys.run, he]⟩

end

/-- In a run of handled steps nothing escapes, and a step that is not handled leads to
an error that escapes, at once or when the request goes on. -/
theorem escapes_iff_unhandled (env : Env) {D : Type} (ans : D → (q : Query) → q.Reply → D → Prop) (dbClient : Bool)
    (d : D) :
    (∀ s, Reachable (Guarded (Handled env) (ListenerStep env ans)) (Sys.init (.init dbClient) d) s → ∀ i, ¬ Escapes s i) ∧
    (∀ s a s', Reachable (ListenerStep env ans) (Sys.init (.init dbClient) d) s → ListenerStep env ans s a s' →
      ¬ Handled env s a → ∃ i, Escapes s' i ∨ ∃ s'', ListenerStep env ans s' (.resume i) s'' ∧ Escapes s'' i) := by
  constructor
  · intro s h
    have hcalm : Calm (Sys.init (.init dbClient) d : State D) :=
      ⟨fun i hi => by simp [Escapes, Sys.init] at hi, fun i h hi => by simp [Sys.asked, Sys.init] at hi⟩
    exact (run_inv (run_meets env) (fun _ _ _ _ _ => trivial) clients_keep (Sys.init_meets (logInv_init dbClient)) hcalm
      (fun _ _ _ _ hi ha hc => calm_step hi ha hc) h).2.escapes
  · intro s a s' h hs ha
    cases a with
    | start i req => exact ⟨i, .inl (escapes_of_crashes (Classical.not_not.1 ha) hs)⟩
    | answer i q r => exact ⟨i, .inr (escapes_of_rejected (reachable_meets h).1 (Classical.not_not.1 ha) hs)⟩
    | resume i => exact absurd trivial ha
    | outside o => exact absurd trivial ha

/-- A request for the list of incidents is handled. -/
theorem escapes_iff_unhandled_sample : ∃ s : State Unit, (s.threads 0).isSome ∧ ∀ i, ¬ Escapes s i := by
  have h0 : Reachable (Guarded (Handled .sample) (ListenerStep .sample anyReply)) (Sys.init (.init true) ()) _ := .refl
  have h1 := reach_start h0 (by
    rintro (⟨htarget, hurl⟩ | ⟨htarget, hurl, hroute, -⟩ | ⟨-, -, -, hdb, -⟩)
    · cases htarget
      cases hurl
    · cases htarget
      cases hurl
      cases hroute
    · cases hdb) (i := 0) (l := .sample "GET" "/incidents") rfl rfl
  exact ⟨_, rfl, (escapes_iff_unhandled .sample anyReply true ()).1 _ h1⟩

/-- A request to change a status, as any client can send it, ends the process. -/
theorem status_escapes :
    ¬ ∀ s, Reachable (ListenerStep .sample anyReply) (Sys.init (.init false) ()) s → ∀ i, ¬ Escapes s i := by
  intro hall
  have h0 : Reachable (Guarded (fun _ _ => True) (ListenerStep .sample anyReply)) (Sys.init (.init false) ()) _ := .refl
  have h1 := reach_start h0 trivial (i := 0) (l := .sample "POST" "/incidents/1/status") rfl rfl
  exact hall _ h1.forget 0 ⟨_, _, _, rfl⟩

end Tactix.IncidentSvc.Listener
