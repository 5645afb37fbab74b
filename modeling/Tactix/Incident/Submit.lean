import Tactix.Incident.Invariants
/-!
# One submission per incident

`submit` decides on the events it loaded. Over `inMemory` the decision and the
append are one block of code, so it is always made on the whole log. Over
`postgres` the log may have grown, or may have been read out of order:
`submit_once` says under which steps one submission still is enough, and
`submit_race` is the schedule of two.
-/
open ServiceLib

namespace Tactix.Incident

variable {Id State Handle Pending : Type} [DecidableEq Id]

/-- A submit that is answered succeeds, is refused as not a draft, or did not find the incident. -/
def Refusing (found : List Nat) (r : Nat) (t : Thread Id Handle Pending) : Prop :=
  ∀ reply, t.command = .submit → t.phase = .done reply →
    (∃ incident, reply = .ok incident) ∨ reply = .error "Only draft incidents can be submitted" ∨
      (reply = .notFound ∧ r ∉ found)

/-- The requests are answered as if each incident could be submitted once. -/
structure SubmitOnce (S : EventStore Id State Handle Pending) (s : Sys Id State Handle Pending) (found : List Nat) :
    Prop where
  stored : ∀ id, (S.log s.store id).count .IncidentSubmitted ≤ 1
  success : ∀ r r' t t' incident incident', s.threads r = some t → s.threads r' = some t' → t.command = .submit →
    t'.command = .submit → t.id = t'.id → t.phase = .done (.ok incident) → t'.phase = .done (.ok incident') → r = r'
  refused : ∀ r t, s.threads r = some t → Refusing found r t

/-! ## Over any store -/

section
variable {S : EventStore Id State Handle Pending} {s s' : Sys Id State Handle Pending} {found : List Nat} {a : Action Id Handle}

omit [DecidableEq Id]

/-- No load is of a request that has its answer. -/
theorem Refusing.watched {r : Nat} {t : Thread Id Handle Pending} (h : Refusing found r t) (hs : Step S s a s')
    (ht : s.threads r = some t) : Refusing (s.found S a found) r t := by
  intro reply hc hd
  have hload : ∀ h, a ≠ .load r h := by
    rintro h rfl
    cases hs with
    | load ht' hp' =>
      rw [ht] at ht'
      cases ht'
      rw [hd] at hp'
      cases hp'
  rw [mem_found_of_ne hload]
  exact h reply hc hd

theorem refusing_step {E : Handle → Prop} (hi : ∀ r t, s.threads r = some t → Refusing found r t) (hs : Step S s a s')
    (hfound : Found E s found)
    (hempty : ∀ r t h, s.threads r = some t → t.phase = .loaded h → S.events s.store h = [] → E h)
    (hf : ∀ r t, s.threads r = some t → t.command = .submit → a ≠ .loadFails r ∧ ∀ stored, a ≠ .appendFails r stored) :
    ∀ r t, s'.threads r = some t → Refusing (s.found S a found) r t := by
  have hkeep : ∀ r t, s.threads r = some t → Refusing (s.found S a found) r t := fun r t ht => (hi r t ht).watched hs ht
  have hupd : ∀ {s' : Sys Id State Handle Pending} {r t}, s'.threads = Function.update s.threads r (some t) →
      Refusing (s.found S a found) r t → ∀ r t, s'.threads r = some t → Refusing (s.found S a found) r t := by
    intro s' r t he ht r' t' h
    rw [he] at h
    rcases update_some h with ⟨rfl, rfl⟩ | ⟨-, h⟩
    · exact ht
    · exact hkeep r' t' h
  cases hs with
  | refuse => exact hkeep
  | @arrive r req uuid id now c =>
    rcases arrive_cases S s r id c now with ⟨-, e⟩ | ⟨title, description, org, rfl, e⟩
    · rw [e]; exact hupd (put_threads ..) fun _ _ h => by simp at h
    · rw [e]; exact hupd (append_threads ..) fun _ _ h => by simp at h
  | load ht => exact hupd (put_threads ..) fun _ _ h => by simp at h
  | @resume r t h now ht hp =>
    rcases resume_cases S s r t (S.events s.store h) now with ⟨-, -, e⟩ | ⟨reply, ha, e⟩ | ⟨next, -, e⟩
    · rw [e]; exact hkeep
    · rw [e]
      refine hupd (put_threads ..) fun reply' hc hd => ?_
      obtain rfl : reply = reply' := by simpa using hd
      simp only at hc ⊢
      rw [hc] at ha
      generalize hev : S.events s.store h = events at ha
      cases ha with
      | notFound => exact .inr (.inr ⟨rfl, fun hr => (hfound.loaded r t h ht hp).1 hr (hempty r t h ht hp hev)⟩)
      | refused => exact .inr (.inl rfl)
    · rw [e]; exact hupd (append_threads ..) fun _ _ h => by simp at h
  | settle => exact hupd (put_threads ..) fun _ _ h => by simp at h
  | @respond r t incident =>
    refine hupd (put_threads ..) fun reply hc hd => .inl ⟨incident, ?_⟩
    simp only at hc hd
    rw [hc] at hd
    simpa [Command.reply] using hd.symm
  | @loadFails r t _ ht => exact hupd (put_threads ..) fun _ hc => absurd rfl (hf r t ht hc).1
  | @appendFails r t p incident stored _ ht =>
    refine hupd (r := r) (t := { t with phase := .done (.error "store") }) ?_
      fun _ hc => absurd rfl ((hf r t ht hc).2 stored)
    cases stored <;> rfl

end

/-- Two submissions in one log are two requests. -/
theorem submits_eq {s : Sys Id State Handle Pending} {rs : List Nat} {r r' : Nat} {t t' : Thread Id Handle Pending}
    (hone : (s.eventsOf rs t.id).count .IncidentSubmitted ≤ 1) (hr : r ∈ rs) (hr' : r' ∈ rs)
    (ht : s.threads r = some t) (ht' : s.threads r' = some t') (hc : t.command = .submit) (hc' : t'.command = .submit)
    (hid : t.id = t'.id) : r = r' :=
  eq_of_filterMap_count hone hr hr' (eventOf_some.2 ⟨t, ht, rfl, by rw [hc]; rfl⟩)
    (eventOf_some.2 ⟨t', ht', hid.symm, by rw [hc']; rfl⟩)

/-! ## In memory -/

theorem submitOnce_inMemory {s : MemSys Id} {found : List Nat}
    (hr : Reachable (Watching (Sys.found inMemory) (Step inMemory)) (Sys.init inMemory, []) (s, found)) :
    SubmitOnce inMemory s found := by
  have hi := reachable_inv hr.unwatched
  have hrefuse : ∀ r t, s.threads r = some t → Refusing found r t := by
    suffices hs : Reachable (Watching (Sys.found inMemory) (Step inMemory)) (Sys.init inMemory, []) (s, found) ∧
        ∀ r t, s.threads r = some t → Refusing found r t from hs.2
    refine hr.inv (I := fun p => Reachable (Watching (Sys.found inMemory) (Step inMemory)) (Sys.init inMemory, []) p ∧
      ∀ r t, p.1.threads r = some t → Refusing p.2 r t) ⟨.refl, fun r t h => by simp [Sys.init] at h⟩ ?_
    rintro p a ⟨s', found'⟩ hi hs
    obtain ⟨hstep, hsee⟩ := id hs
    simp only at hstep hsee
    refine ⟨hi.1.step hs, ?_⟩
    rw [hsee]
    refine refusing_step hi.2 hstep (reachable_found hi.1) (fun r t h ht hp hev => ?_) fun r t _ _ => ?_
    · rcases events_loaded (reachable_inv hi.1.unwatched) ht hp with ⟨hn, -⟩ | ⟨-, h1, hne⟩
      · exact hn
      · exact absurd (h1 ▸ hev) hne
    · cases hstep with
      | loadFails hf => exact absurd hf (by simp [inMemory])
      | appendFails hf => exact absurd hf (by simp [inMemory])
      | _ => simp
  have hcalled : ∀ r t incident, s.threads r = some t → t.command = .submit → t.phase = .done (.ok incident) →
      r ∈ s.calls :=
    fun r t incident ht hc hp => (hi.called r).2 ⟨t, ht, by simp [Thread.appendRan, hc, hp, Phase.called]⟩
  refine ⟨hi.once, fun r r' t t' incident incident' ht ht' hc hc' hid hp hp' => ?_, hrefuse⟩
  exact submits_eq (hi.log_eq t.id ▸ hi.once t.id) (hcalled r t incident ht hc hp) (hcalled r' t' incident' ht' hc' hp')
    ht ht' hc hc' hid

/-! ## In Postgres -/

/-- The service over `PgEventStore`. -/
abbrev PgSys (Id : Type) := Sys Id (List (Row Id)) (List IncidentEvent) (Row Id)

/-- The events of an incident in the order of their inserts. -/
def Sys.rows (s : PgSys Id) (id : Id) : List IncidentEvent := postgres.log s.store id

/-- The steps that leave `submit` alone: its SELECT lists a submission after
the creation, no other submission was inserted between its SELECT and its
INSERT, and neither query is rejected. -/
def Undisturbed (s : PgSys Id) : Action Id (List IncidentEvent) → Prop
  | .load r h => ∀ t, s.threads r = some t → t.command = .submit → .IncidentSubmitted ∈ h →
      (fromEvents t.id h).status = .Submitted
  | .settle r => ∀ t, s.threads r = some t → t.command = .submit → .IncidentSubmitted ∈ s.rows t.id →
      .IncidentSubmitted ∈ t.events
  | .loadFails r | .appendFails r _ => ∀ t, s.threads r = some t → t.command ≠ .submit
  | _ => True

/-- What a handler's phase says about its submission; `stored` is whether its
row was inserted. -/
def ThreadInv (stored : Prop) (t : Thread Id (List IncidentEvent) (Row Id)) : Prop :=
  match t.phase with
  | .loading => ¬ stored
  | .loaded h => ¬ stored ∧ (t.command = .submit → .IncidentSubmitted ∈ h → (fromEvents t.id h).status = .Submitted)
  | .appending row _ => ¬ stored ∧ row.incident_id = t.id ∧ t.command.event = some row.event ∧
      (t.command = .submit → .IncidentSubmitted ∉ t.events)
  | .appended _ => stored
  | .done reply => t.command = .submit → (∃ incident, reply = .ok incident) → stored

structure PgInv (s : PgSys Id) : Prop where
  log_eq : ∀ id, s.rows id = s.eventsOf s.settled id
  known : ∀ r ∈ s.settled, s.threads r ≠ none
  thread : ∀ r t, s.threads r = some t → ThreadInv (r ∈ s.settled) t
  once : ∀ id, (s.rows id).count .IncidentSubmitted ≤ 1

theorem pgInv_init : PgInv (Sys.init postgres : PgSys Id) where
  log_eq _ := rfl
  known r hr := by simp [Sys.init] at hr
  thread r t h := by simp [Sys.init] at h
  once _ := Nat.zero_le 1

/-- A step of one request that inserts no row. -/
theorem pgInv_put {s s' : PgSys Id} (hi : PgInv s) {r : Nat} {t : Thread Id (List IncidentEvent) (Row Id)}
    (hstore : s'.store = s.store) (hsettled : s'.settled = s.settled)
    (hthreads : s'.threads = Function.update s.threads r (some t))
    (hkeep : s.threads r = none ∨ ∃ u, s.threads r = some u ∧ u.id = t.id ∧ u.command = t.command)
    (ht : ThreadInv (r ∈ s.settled) t) : PgInv s' := by
  have hrows : ∀ id, s'.rows id = s.rows id := fun id => by rw [Sys.rows, hstore]; rfl
  constructor
  · intro id
    rw [hrows, hi.log_eq, hsettled]
    refine (eventsOf_congr fun r' hr' => ?_).symm
    rw [commandOf_eq hthreads]
    split
    · rename_i h
      subst h
      obtain ⟨u, hu, hid, hc⟩ := hkeep.resolve_left (hi.known r' hr')
      rw [commandOf_some hu, hid, hc]
    · rfl
  · intro r' hr'
    rw [hthreads]
    by_cases h : r' = r
    · simp [h]
    · rw [Function.update_of_ne h]; exact hi.known r' (hsettled ▸ hr')
  · intro r' t' h
    rw [hthreads] at h
    rw [hsettled]
    rcases update_some h with ⟨rfl, rfl⟩ | ⟨-, h⟩
    · exact ht
    · exact hi.thread r' t' h
  · intro id; rw [hrows]; exact hi.once id

theorem rows_settle (s : PgSys Id) (r : Nat) (row : Row Id) (id : Id) :
    (s.settle postgres r row).rows id = s.rows id ++ if row.incident_id = id then [row.event] else [] := by
  by_cases h : row.incident_id = id <;> simp [Sys.rows, postgres, rowsOf, h]

/-- A row is inserted, and is no second submission. -/
theorem pgInv_settle {s : PgSys Id} (hi : PgInv s) {r : Nat} {t t' : Thread Id (List IncidentEvent) (Row Id)}
    {row : Row Id} {incident : IncidentState Id} (ht : s.threads r = some t) (hp : t.phase = .appending row incident)
    (hid : t'.id = t.id) (hc : t'.command = t.command) (ht' : ThreadInv True t')
    (hund : t.command = .submit → .IncidentSubmitted ∈ s.rows t.id → .IncidentSubmitted ∈ t.events) :
    PgInv ((s.settle postgres r row).put r t') := by
  have hthread := hi.thread r t ht
  rw [ThreadInv, hp] at hthread
  obtain ⟨hns, hrow, hev, hsub⟩ := hthread
  have hrows : ∀ id, ((s.settle postgres r row).put r t').rows id =
      s.rows id ++ if row.incident_id = id then [row.event] else [] := rows_settle s r row
  have hcmd : ((s.settle postgres r row).put r t').commandOf = s.commandOf :=
    commandOf_kept (s := s) ht hid hc (put_threads ..)
  constructor
  · intro id
    have hself : ((s.settle postgres r row).put r t').commandOf r = some (row.incident_id, t.command) := by
      rw [hcmd, commandOf_some ht, hrow]
    rw [hrows, hi.log_eq, put_settled, settle_settled, eventsOf_snoc hself hev]
    congr 1
    exact (eventsOf_congr fun r' _ => by rw [hcmd]).symm
  · intro r' hr'
    rw [put_threads]
    by_cases h : r' = r
    · simp [h]
    · rw [Function.update_of_ne h]
      exact hi.known r' (by simpa [h] using hr')
  · intro r' u hu
    rw [put_settled, settle_settled]
    rcases update_some hu with ⟨rfl, rfl⟩ | ⟨hne, hu⟩
    · simpa using ht'
    · simpa [hne] using hi.thread r' u hu
  · intro id
    rw [hrows]
    split
    · rename_i h
      -- An earlier submission in the log would have been among the events it read.
      refine count_snoc (hi.once id) fun he hm => ?_
      have hsubmit : t.command = .submit := by
        rw [he] at hev; cases hcm : t.command <;> simp_all [Command.event]
      exact hsub hsubmit (hund hsubmit (by rwa [← hrow, h]))
    · rw [List.append_nil]; exact hi.once id

theorem pgInv_step {s s' : PgSys Id} {a : Action Id (List IncidentEvent)} (hi : PgInv s) (hu : Undisturbed s a)
    (hs : Step postgres s a s') : PgInv s' := by
  cases hs with
  | refuse => exact hi
  | @arrive r req uuid id now c hr =>
    have hnew : r ∉ s.settled := fun h => hi.known r h hr
    rcases arrive_cases postgres s r id c now with ⟨-, e⟩ | ⟨title, description, org, rfl, e⟩
    · rw [e]
      exact pgInv_put hi rfl rfl (put_threads ..) (.inl hr) hnew
    · rw [e]
      exact pgInv_put hi rfl rfl (append_threads ..) (.inl hr) ⟨hnew, rfl, rfl, by simp⟩
  | @load r t h ht hp =>
    have hns := hi.thread r t ht
    rw [ThreadInv, hp] at hns
    exact pgInv_put hi rfl rfl (put_threads ..) (.inr ⟨t, ht, rfl, rfl⟩) ⟨hns, hu t ht⟩
  | @resume r t h now ht hp =>
    have hth := hi.thread r t ht
    rw [ThreadInv, hp] at hth
    obtain ⟨hns, hread⟩ := hth
    rcases resume_cases postgres s r t (postgres.events s.store h) now with ⟨-, -, e⟩ | ⟨reply, ha, e⟩ | ⟨next, hd, e⟩
    · rw [e]; exact hi
    · rw [e]
      refine pgInv_put hi rfl rfl (put_threads ..) (.inr ⟨t, ht, rfl, rfl⟩) fun hc ⟨incident, hok⟩ => ?_
      simp only at hc
      rw [hc, hok] at ha
      generalize postgres.events s.store h = events at ha
      cases ha
    · rw [e]
      refine pgInv_put hi rfl rfl (append_threads ..) (.inr ⟨t, ht, rfl, rfl⟩) ⟨hns, rfl, hd.event.2.1, fun hc hm => ?_⟩
      -- The submission was read, so the incident was not a draft.
      have hev : Command.submit.event = some next.2 := hc ▸ hd.event.2.1
      have hdraft := hd.draft (Option.some.inj hev).symm
      have hsubmitted : (fromEvents t.id (postgres.events s.store h)).status = .Submitted := hread hc hm
      simp [hsubmitted] at hdraft
  | @settle r t row incident ht hp =>
    exact pgInv_settle hi ht hp rfl rfl trivial (hu t ht)
  | @respond r t incident ht hp =>
    have hin := hi.thread r t ht
    rw [ThreadInv, hp] at hin
    exact pgInv_put hi rfl rfl (put_threads ..) (.inr ⟨t, ht, rfl, rfl⟩) fun _ _ => hin
  | @loadFails r t _ ht =>
    exact pgInv_put hi rfl rfl (put_threads ..) (.inr ⟨t, ht, rfl, rfl⟩) fun hc => absurd hc (hu t ht)
  | @appendFails r t row incident stored _ ht hp =>
    cases stored with
    | false => exact pgInv_put hi rfl rfl (put_threads ..) (.inr ⟨t, ht, rfl, rfl⟩) fun hc => absurd hc (hu t ht)
    | true => exact pgInv_settle hi ht hp rfl rfl (fun _ _ => trivial) fun hc => absurd hc (hu t ht)

theorem load_postgres_nil {rows : List (Row Id)} {id : Id} {h : List IncidentEvent} (hl : postgres.load rows id h) :
    postgres.log rows id = [] ↔ h = [] := by
  obtain ⟨sel, hp, -, rfl⟩ := hl
  have hlen := hp.length_eq
  constructor
  · intro hn
    have hrows : rowsOf rows id = [] := List.map_eq_nil_iff.1 hn
    rw [hrows] at hp
    rw [hp.eq_nil, List.map_nil]
  · intro hn
    rw [List.map_eq_nil_iff.1 hn, List.length_nil] at hlen
    exact List.map_eq_nil_iff.2 (List.length_eq_zero_iff.1 hlen.symm)

theorem submitOnce_postgres {s : PgSys Id} {found : List Nat}
    (hr : Reachable (Watching (Sys.found postgres) (Guarded Undisturbed (Step postgres))) (Sys.init postgres, []) (s, found)) :
    SubmitOnce postgres s found := by
  have hi : PgInv s := hr.unwatched.inv pgInv_init fun _ _ _ hi hs => pgInv_step hi hs.1 hs.2
  have hrefuse : ∀ r t, s.threads r = some t → Refusing found r t := by
    suffices hs : Found (· = []) s found ∧ ∀ r t, s.threads r = some t → Refusing found r t from hs.2
    refine hr.inv (I := fun p => Found (· = []) p.1 p.2 ∧ ∀ r t, p.1.threads r = some t → Refusing p.2 r t)
      ⟨found_init, fun r t h => by simp [Sys.init] at h⟩ fun p a p' hi hs => ?_
    obtain ⟨⟨hund, hstep⟩, hsee⟩ := hs
    rw [hsee]
    refine ⟨found_step hi.1 hstep fun id h => load_postgres_nil, refusing_step hi.2 hstep hi.1 (fun r t h ht hp hev => hev)
      fun r t ht hc => ?_⟩
    constructor
    · rintro rfl; exact hund t ht hc
    · rintro stored rfl; exact hund t ht hc
  have hsettled : ∀ r t incident, s.threads r = some t → t.command = .submit → t.phase = .done (.ok incident) →
      r ∈ s.settled := by
    intro r t incident ht hc hp
    have hin := hi.thread r t ht
    rw [ThreadInv, hp] at hin
    exact hin hc ⟨incident, rfl⟩
  refine ⟨hi.once, fun r r' t t' incident incident' ht ht' hc hc' hid hp hp' => ?_, hrefuse⟩
  exact submits_eq (hi.log_eq t.id ▸ hi.once t.id) (hsettled r t incident ht hc hp)
    (hsettled r' t' incident' ht' hc' hp') ht ht' hc hc' hid

/-- In memory, every schedule submits an incident once at most. In Postgres,
every schedule of undisturbed steps does. -/
theorem submit_once :
    (∀ (s : MemSys Id) (found : List Nat),
      Reachable (Watching (Sys.found inMemory) (Step inMemory)) (Sys.init inMemory, []) (s, found) →
      SubmitOnce inMemory s found) ∧
    (∀ (s : PgSys Id) (found : List Nat),
      Reachable (Watching (Sys.found postgres) (Guarded Undisturbed (Step postgres))) (Sys.init postgres, []) (s, found) →
      SubmitOnce postgres s found) :=
  ⟨fun _ _ => submitOnce_inMemory, fun _ _ => submitOnce_postgres⟩

/-- Two submits of incident 7 in Postgres, one after the other; the second one
is refused. -/
theorem submit_once_second : ∃ s : PgSys Nat,
    s.rows 7 = [.IncidentCreated "T" "D" "unit", .IncidentSubmitted] ∧ SubmitOnce postgres s [2, 1] ∧
      ∃ t, s.threads 2 = some t ∧ t.phase = .done (.error "Only draft incidents can be submitted") := by
  have h0 : Reachable (Watching (Sys.found postgres) (Guarded Undisturbed (Step postgres)))
      ((Sys.init postgres : PgSys Nat), []) _ := .refl
  have h1 := h0.nextWatched (.arrive 0 (.create (.obj [("title", .str "T"), ("description", .str "D"), ("org", .str "unit")]))
    7 0) ⟨trivial, .arrive rfl (by decide) rfl⟩
  have h2 := h1.nextWatched (.settle 0) ⟨fun t ht => by cases ht; decide, .settle rfl rfl⟩
  have h3 := h2.nextWatched (.arrive 1 (.submit 7) 8 1) ⟨trivial, .arrive rfl (by decide) rfl⟩
  have h4 := h3.nextWatched (.load 1 [.IncidentCreated "T" "D" "unit"]) ⟨fun t ht => by cases ht; decide,
    .load rfl rfl ⟨[⟨7, .IncidentCreated "T" "D" "unit", 0⟩], .refl _, by simp, rfl⟩⟩
  have h5 := h4.nextWatched (.resume 1 2) ⟨trivial, .resume rfl rfl⟩
  have h6 := h5.nextWatched (.settle 1) ⟨fun t ht => by cases ht; decide, .settle rfl rfl⟩
  have h7 := h6.nextWatched (.arrive 2 (.submit 7) 8 3) ⟨trivial, .arrive rfl (by decide) rfl⟩
  have h8 := h7.nextWatched (.load 2 [.IncidentCreated "T" "D" "unit", .IncidentSubmitted]) ⟨fun t ht => by cases ht; decide,
    .load rfl rfl ⟨[⟨7, .IncidentCreated "T" "D" "unit", 0⟩, ⟨7, .IncidentSubmitted, 2⟩], .refl _, by simp, rfl⟩⟩
  have h9 := h8.nextWatched (.resume 2 4) ⟨trivial, .resume rfl rfl⟩
  exact ⟨_, rfl, submit_once.2 _ _ h9, _, rfl, rfl⟩

/-- Two submits that both select before either inserts: both are stored. -/
theorem submit_race :
    ¬ ∀ (s : PgSys Nat) (found : List Nat),
      Reachable (Watching (Sys.found postgres) (Step postgres)) (Sys.init postgres, []) (s, found) →
      SubmitOnce postgres s found := by
  intro h
  have h0 : Reachable (Watching (Sys.found postgres) (Step postgres)) ((Sys.init postgres : PgSys Nat), []) _ := .refl
  have h1 := h0.nextWatched (.arrive 0 (.create (.obj [("title", .str "T"), ("description", .str "D"), ("org", .str "unit")])) 7 0)
    (.arrive rfl (by decide) rfl)
  have h2 := h1.nextWatched (.settle 0) (.settle rfl rfl)
  have h3 := h2.nextWatched (.arrive 1 (.submit 7) 8 1) (.arrive rfl (by decide) rfl)
  have h4 := h3.nextWatched (.arrive 2 (.submit 7) 8 1) (.arrive rfl (by decide) rfl)
  have hsel : ∀ st : List (Row Nat), st = [⟨7, .IncidentCreated "T" "D" "unit", 0⟩] →
      postgres.load st 7 [.IncidentCreated "T" "D" "unit"] := by
    rintro _ rfl
    exact ⟨[⟨7, .IncidentCreated "T" "D" "unit", 0⟩], .refl _, by simp, rfl⟩
  have h5 := h4.nextWatched (.load 1 [.IncidentCreated "T" "D" "unit"]) (.load rfl rfl (hsel _ rfl))
  have h6 := h5.nextWatched (.load 2 [.IncidentCreated "T" "D" "unit"]) (.load rfl rfl (hsel _ rfl))
  have h7 := h6.nextWatched (.resume 1 2) (.resume rfl rfl)
  have h8 := h7.nextWatched (.resume 2 2) (.resume rfl rfl)
  have h9 := h8.nextWatched (.settle 1) (.settle rfl rfl)
  have h10 := h9.nextWatched (.settle 2) (.settle rfl rfl)
  exact absurd ((h _ _ h10).stored 7) (by decide)

end Tactix.Incident
