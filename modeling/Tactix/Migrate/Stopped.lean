import Tactix.Migrate.Runs
/-!
# Migrations that stop

`up` of `incident-svc` stops at 015 at the latest, since the incidents of 002 have no
`incident_id`: `up_stops`. What it leaves behind can neither be made again nor be dropped:
`up_strands`.
-/
open ServiceLib ServiceLib.Ddl

namespace Tactix.Migrate

/-! ## Any database -/

/-- The tables that `up` makes from 015 on. -/
def last : List String := ["incident_chat_messages", "cp_roster", "cp_shifts"]

/-- A run of `up` has not executed 015. Since 002, which makes `incidents`, it sees no other such table. -/
def Before (db : Schema) (r : Run) : Prop :=
  r.command = ⟨.incident, .up⟩ → r.executed ≤ 14 ∧ (2 ≤ r.executed → Lacks "incidents" ["incident_id"] db)

/-- Up to 014 the last tables are not made, and no file of any service changes the columns of `incidents`. -/
theorem files_apart (c : Command) (i : Nat) (hi : c = ⟨.incident, .up⟩ → i < 14) : ∀ f ∈ c.files[i]?, ∀ st ∈ f.sql,
    (∀ n ∈ last, st.makes n = false) ∧ st.recolumns "incidents" = false ∧
      ((c = ⟨.incident, .up⟩ → i ≠ 1) → st.makes "incidents" = false) := by
  obtain ⟨service, direction⟩ := c
  have hall : ∀ i ∈ List.range 17, ((⟨service, direction⟩ : Command) = ⟨.incident, .up⟩ → i < 14) →
      ∀ f ∈ (⟨service, direction⟩ : Command).files[i]?, ∀ st ∈ f.sql, (∀ n ∈ last, st.makes n = false) ∧
      st.recolumns "incidents" = false ∧
        (((⟨service, direction⟩ : Command) = ⟨.incident, .up⟩ → i ≠ 1) → st.makes "incidents" = false) := by
    cases service <;> cases direction <;> decide
  intro f hf
  refine hall i (List.mem_range.2 ?_) hi f hf
  obtain ⟨hlt, -⟩ := List.getElem?_eq_some_iff.1 hf
  refine lt_of_lt_of_le hlt ?_
  cases service <;> cases direction <;> decide

section
variable {db db' : Schema}

/-- 002 makes the table. -/
theorem incidents_made (hexec : execAll db [.createTable "incidents" false IncidentSvc.incidents] = some db') :
    Lacks "incidents" ["incident_id"] db' := .made hexec (by decide)

/-- 015 fails. -/
theorem chat_fails (hchat : db.find? "incident_chat_messages" = none) (h : Lacks "incidents" ["incident_id"] db) {f : SqlFile}
    (hf : IncidentSvc.up[14]? = some f) : execAll db f.sql = none := by
  cases hf
  exact execAll_of_first (createTable_dangling (t := IncidentSvc.incidentChatMessages) (d := "incident_id")
    (List.mem_cons_of_mem _ List.mem_cons_self) (List.mem_singleton_self _) (by decide) (fun t ht => h t ht _ (by simp)) hchat true)

theorem before_kept (hchat : db.find? "incident_chat_messages" = none) :
    Kept (fun db' => ∀ n ∈ last, db.find? n = none → db'.find? n = none) Before where
  start c _ _ := ⟨Nat.zero_le _, fun h => absurd h (Nat.not_succ_le_zero 1)⟩
  exit hr hcommand hexecuted hup := by
    rw [hexecuted]
    exact hr (hcommand ▸ hup)
  file {db₁ db₂ r f} hI hr hexit hf hexec := by
    have hbefore : r.command = ⟨.incident, .up⟩ → r.executed < 14 := by
      intro hup
      obtain ⟨hle, hlacks⟩ := hr hup
      refine Nat.lt_of_le_of_ne hle fun he => ?_
      rw [hup, he] at hf
      rw [chat_fails (hI _ (by simp [last]) hchat) (hlacks (by omega)) hf] at hexec
      cases hexec
    have happart := files_apart r.command r.executed hbefore f hf
    have hkeep : Lacks "incidents" ["incident_id"] db₁ → Lacks "incidents" ["incident_id"] db₂ := by
      intro hlacks
      by_cases hmakes : r.command = ⟨.incident, .up⟩ ∧ r.executed = 1
      · obtain ⟨hup, hone⟩ := hmakes
        rw [hup, hone] at hf
        cases hf
        exact incidents_made hexec
      · refine hlacks.keep hexec fun st hst => ⟨(happart st hst).2.2 fun hup hone => hmakes ⟨hup, hone⟩, ?_⟩
        exact (happart st hst).2.1
    refine ⟨fun n hn habsent => ?_, fun hup => ⟨hbefore hup, fun htwo => ?_⟩, fun r' hr' hup => ?_⟩
    · exact execAll_absent hexec (fun st hst => (happart st hst).1 n hn) (hI n hn habsent)
    · change r.command = _ at hup
      change 2 ≤ r.executed + 1 at htwo
      by_cases hone : r.executed = 1
      · rw [hup, hone] at hf
        cases hf
        exact incidents_made hexec
      · exact hkeep ((hr hup).2 (by omega))
    · exact ⟨(hr' hup).1, fun htwo => hkeep ((hr' hup).2 htwo)⟩
  warlog {db₁ db₂} hI hexec := by
    have happart : ∀ st ∈ warlogInit, (∀ n ∈ last, st.makes n = false) ∧ st.makes "incidents" = false ∧
        st.recolumns "incidents" = false := by decide
    refine ⟨fun n hn habsent => ?_, fun r' hr' hup => ⟨(hr' hup).1, fun htwo => ?_⟩⟩
    · exact execAll_absent hexec (fun st hst => (happart st hst).1 n hn) (hI n hn habsent)
    · exact ((hr' hup).2 htwo).keep hexec fun st hst => (happart st hst).2

end

/-- On any database without `incident_chat_messages`, whatever else it holds and whatever is run beside it, `up` of
`incident-svc` stops at 015 at the latest. The tables of the chat and of the schedule are never made. -/
theorem up_stops {db : Schema} (hchat : db.find? "incident_chat_messages" = none) {s : System}
    (h : Reachable Step ⟨db, []⟩ s) : (∀ r ∈ s.runs, r.command = ⟨.incident, .up⟩ → r.executed ≤ 14 ∧ r.exit ≠ some 0) ∧
      ∀ n ∈ last, db.find? n = none → s.db.find? n = none := by
  obtain ⟨hI, hP⟩ := (before_kept hchat).reachable (fun n _ habsent => habsent) (by simp) h
  refine ⟨fun r hr hup => ⟨(hP r hr hup).1, fun hexit => ?_⟩, hI⟩
  have hle := (hP r hr hup).1
  rw [r.complete hexit, hup] at hle
  exact absurd hle (by decide)

/-- The first file is executed on an empty database. -/
theorem up_stops_sample : ∃ s : System, s.runs.map (·.executed) = [1] ∧ s.db.find? "cp_shifts" = none := by
  have husers : (execAll .empty [.createTable "users" false IncidentSvc.users]).isSome := by decide
  have h1 : Reachable Step ⟨.empty, []⟩ _ := Reachable.refl.next (.start ⟨.incident, .up⟩) .start
  have h2 := h1.next .file (.file (p := []) (q := []) rfl rfl rfl (Option.some_get husers).symm)
  exact ⟨_, rfl, (up_stops (by decide) h2).2 "cp_shifts" (by decide) (by decide)⟩

/-! ## After a run that was stopped -/

/-- There are users, and messages that keep the table of the incidents from being dropped. -/
structure Stranded (db : Schema) : Prop where
  users : ∃ t, db.table? "users" = some t
  incidents : ∃ t, db.table? "incidents" = some t
  messages : ∃ u, db.table? "messages" = some u ∧ ∃ c ∈ u.constraints, c.target? = some "incidents"

/-- A run that was begun, or one of `up` that has executed 014. -/
def Late (r : Run) : Prop :=
  (r.command = ⟨.incident, .up⟩ → r.executed = 0 ∨ 14 ≤ r.executed) ∧ (r.command = ⟨.incident, .down⟩ → r.executed ≤ 4)

/-- The files such a run can execute. -/
theorem late_apart (c : Command) (i : Nat) (hup : c = ⟨.incident, .up⟩ → 14 ≤ i) (hdown : c = ⟨.incident, .down⟩ → i < 4) :
    ∀ f ∈ c.files[i]?, ∀ st ∈ f.sql, (∀ n ∈ ["users", "incidents", "messages"], st.touches n = false) ∧
      st.unlinks "incidents" = false := by
  obtain ⟨service, direction⟩ := c
  have hall : ∀ i ∈ List.range 17, ((⟨service, direction⟩ : Command) = ⟨.incident, .up⟩ → 14 ≤ i) →
      ((⟨service, direction⟩ : Command) = ⟨.incident, .down⟩ → i < 4) →
      ∀ f ∈ (⟨service, direction⟩ : Command).files[i]?, ∀ st ∈ f.sql,
        (∀ n ∈ ["users", "incidents", "messages"], st.touches n = false) ∧ st.unlinks "incidents" = false := by
    cases service <;> cases direction <;> decide
  intro f hf
  refine hall i (List.mem_range.2 ?_) hup hdown f hf
  obtain ⟨hlt, -⟩ := List.getElem?_eq_some_iff.1 hf
  refine lt_of_lt_of_le hlt ?_
  cases service <;> cases direction <;> decide

section
variable {db db' : Schema}

theorem stranded_keep (h : Stranded db) {sql : List Stmt} (hexec : execAll db sql = some db')
    (happart : ∀ st ∈ sql, (∀ n ∈ ["users", "incidents", "messages"], st.touches n = false) ∧ st.unlinks "incidents" = false) :
    Stranded db' := by
  obtain ⟨t, ht⟩ := h.users
  obtain ⟨t₂, ht₂⟩ := h.incidents
  obtain ⟨u, hu, c, hc, htarget⟩ := h.messages
  obtain ⟨t', ht', -⟩ := execAll_table hexec (fun st hst => (happart st hst).1 _ (by simp)) ht
  obtain ⟨t₂', ht₂', -⟩ := execAll_table hexec (fun st hst => (happart st hst).1 _ (by simp)) ht₂
  obtain ⟨u', hu', hkept⟩ := execAll_table hexec (fun st hst => (happart st hst).1 _ (by simp)) hu
  refine ⟨⟨t', ht'⟩, ⟨t₂', ht₂'⟩, u', hu', c, hkept.constraints c hc fun target htarget' => ?_, htarget⟩
  rw [htarget] at htarget'
  cases htarget'
  simpa [footprint] using fun st hst => (happart st hst).2

/-- 001 fails, and so does `DROP TABLE incidents`. -/
theorem late_file (h : Stranded db) {r : Run} (hr : Late r) (hexit : r.exit = none) {f : SqlFile}
    (hf : r.command.files[r.executed]? = some f) (hexec : execAll db f.sql = some db') :
    Stranded db' ∧ Late (r.next hexit) ∧ (r.command = ⟨.incident, .up⟩ → 14 ≤ r.executed) := by
  have hup : r.command = ⟨.incident, .up⟩ → 14 ≤ r.executed := by
    intro hup
    refine (hr.1 hup).resolve_left fun hzero => ?_
    rw [hup, hzero] at hf
    cases hf
    obtain ⟨t, ht⟩ := h.users
    have hthere : db.find? "users" ≠ none := by
      rw [table?_iff_find?.1 ht]
      exact Option.some_ne_none _
    rw [execAll_of_first (createTable_exists hthere _)] at hexec
    cases hexec
  have hdown : r.command = ⟨.incident, .down⟩ → r.executed < 4 := by
    intro hdown
    refine Nat.lt_of_le_of_ne (hr.2 hdown) fun hfour => ?_
    rw [hdown, hfour] at hf
    cases hf
    obtain ⟨t, ht⟩ := h.incidents
    obtain ⟨u, hu, c, hc, htarget⟩ := h.messages
    rw [execAll_of_first (dropTable_referenced ht hu (by decide) hc htarget)] at hexec
    cases hexec
  refine ⟨stranded_keep h hexec (late_apart r.command r.executed hup hdown f hf), ⟨fun hc => .inr ?_, fun hc => hdown hc⟩, hup⟩
  exact Nat.le_succ_of_le (hup hc)

theorem stranded_warlog (h : Stranded db) (hexec : execAll db warlogInit = some db') : Stranded db' :=
  stranded_keep h hexec (by decide)

/-- A run that was begun on such a database. -/
theorem late_kept : Kept Stranded fun _ r => Late r ∧ (r.command = ⟨.incident, .up⟩ → r.executed = 0) where
  start c _ := ⟨⟨fun _ => .inl rfl, fun _ => Nat.zero_le _⟩, fun _ => rfl⟩
  exit hr hcommand hexecuted := by
    unfold Late
    rw [hcommand, hexecuted]
    exact hr
  file {db db' r f} hI hr hexit hf hexec := by
    obtain ⟨hI', hlate, hup⟩ := late_file hI hr.1 hexit hf hexec
    refine ⟨hI', ⟨hlate, fun hc => ?_⟩, fun _ hr' => hr'⟩
    have hzero := hr.2 hc
    have hfourteen := hup hc
    omega
  warlog hI hexec := ⟨stranded_warlog hI hexec, fun _ hr' => hr'⟩

end

/-! ## One run after another -/

/-- A run is begun when all others are over. -/
def Alone (s : System) : Action → Prop
  | .start _ => ∀ r ∈ s.runs, r.exit ≠ none
  | _ => True

/-- What a run of `up` that has not come to 014 has made. -/
structure Early (db : Schema) (r : Run) : Prop where
  users : 1 ≤ r.executed → ∃ t, db.table? "users" = some t
  incidents : 2 ≤ r.executed → ∃ t, db.table? "incidents" = some t

/-- Only the last run is under way, and either the database is stranded or no run has executed 014. -/
structure OneByOne (s : System) : Prop where
  ended : ∀ r ∈ s.runs.dropLast, r.exit ≠ none
  phase : (Stranded s.db ∧ ∀ r ∈ s.runs, r.exit = none → Late r) ∨
    ((∀ r ∈ s.runs, r.command = ⟨.incident, .up⟩ → r.executed < 14) ∧
      ∀ r ∈ s.runs, r.exit = none → r.command = ⟨.incident, .up⟩ → Early s.db r)

theorem early_apart : ∀ i ∈ List.range 13, ∀ f ∈ IncidentSvc.up[i]?, ∀ st ∈ f.sql,
    ∀ n ∈ ["users", "incidents"], st.touches n = false := by decide

section
variable {db db' : Schema} {s s' : System} {a : Action} {r : Run}

theorem made_keep {n : String} {sql : List Stmt} (h : ∃ t, db.table? n = some t) (hexec : execAll db sql = some db')
    (hn : ∀ st ∈ sql, st.touches n = false) : ∃ t, db'.table? n = some t := by
  obtain ⟨t, ht⟩ := h
  obtain ⟨t', ht', -⟩ := execAll_table hexec hn ht
  exact ⟨t', ht'⟩

/-- A file before 014. -/
theorem early_file (h : Early db r) (hup : r.command = ⟨.incident, .up⟩) (hexit : r.exit = none) (hbefore : r.executed < 13)
    {f : SqlFile} (hf : r.command.files[r.executed]? = some f) (hexec : execAll db f.sql = some db') : Early db' (r.next hexit) := by
  rw [hup] at hf
  have happart := early_apart r.executed (List.mem_range.2 hbefore) f hf
  constructor
  · intro _
    by_cases hzero : r.executed = 0
    · rw [hzero] at hf
      cases hf
      exact ⟨_, execAll_made hexec⟩
    · exact made_keep (h.users (by omega)) hexec fun st hst => happart st hst _ (by simp)
  · intro htwo
    change 2 ≤ r.executed + 1 at htwo
    by_cases hone : r.executed = 1
    · rw [hone] at hf
      cases hf
      exact ⟨_, execAll_made hexec⟩
    · exact made_keep (h.incidents (by omega)) hexec fun st hst => happart st hst _ (by simp)

/-- 014 strands the database. -/
theorem messages_strand (h : Early db r) (hlast : r.executed = 13) {f : SqlFile} (hf : IncidentSvc.up[13]? = some f)
    (hexec : execAll db f.sql = some db') : Stranded db' := by
  cases hf
  have happart : ∀ st ∈ [Stmt.dropTable "messages" true, .createTable "messages" false IncidentSvc.messages,
      .createIndex "idx_messages_incident" false "messages" ["incident_id"]], ∀ n ∈ ["users", "incidents"],
      st.touches n = false := by decide
  refine ⟨made_keep (h.users (by omega)) hexec fun st hst => happart st hst _ (by simp),
    made_keep (h.incidents (by omega)) hexec fun st hst => happart st hst _ (by simp), ?_⟩
  obtain ⟨db₁, -, hrest⟩ := Option.bind_eq_some_iff.1 hexec
  obtain ⟨db₂, hcreate, hindex⟩ := Option.bind_eq_some_iff.1 hrest
  obtain ⟨u, hu, hkept⟩ := execAll_table hindex (by decide) (createTable_made hcreate).2
  refine ⟨u, hu, references "messages" "incident_id" "incidents" "id", hkept.constraints _ (by decide) (by decide), rfl⟩

/-- Nothing follows the run that is under way. -/
theorem active_last {p q : List Run} (hover : ∀ x ∈ (p ++ r :: q).dropLast, x.exit ≠ none) (hexit : r.exit = none) : q = [] := by
  cases q with
  | nil => rfl
  | cons x q =>
    refine absurd hexit (hover r ?_)
    rw [List.dropLast_append_of_ne_nil (by simp), List.dropLast_cons_of_ne_nil (by simp)]
    simp

/-- The last run goes on or ends. -/
theorem OneByOne.replace (h : OneByOne s) {p q : List Run} {r' : Run} (hruns : s.runs = p ++ r :: q) (hexit : r.exit = none)
    (hphase : (Stranded db ∧ (r'.exit = none → Late r')) ∨ ((∀ r ∈ s.runs, r.command = ⟨.incident, .up⟩ → r.executed < 14) ∧
      (r'.command = ⟨.incident, .up⟩ → r'.executed < 14 ∧ (r'.exit = none → Early db r')))) : OneByOne ⟨db, p ++ r' :: q⟩ := by
  have hover := h.ended
  rw [hruns] at hover hphase
  obtain rfl := active_last hover hexit
  rw [List.dropLast_concat] at hover
  refine ⟨by rwa [List.dropLast_concat], ?_⟩
  refine hphase.imp (And.imp_right fun hlate x hx hnone => ?_) fun ⟨hall, hnext⟩ => ⟨fun x hx hup => ?_, fun x hx hnone hup => ?_⟩
  all_goals rcases List.mem_append.1 hx with hx | hx
  · exact absurd hnone (hover x hx)
  · obtain rfl := List.mem_singleton.1 hx
    exact hlate hnone
  · exact hall x (List.mem_append_left _ hx) hup
  · obtain rfl := List.mem_singleton.1 hx
    exact (hnext hup).1
  · exact absurd hnone (hover x hx)
  · obtain rfl := List.mem_singleton.1 hx
    exact (hnext hup).2 hnone

theorem oneByOne_step (h : OneByOne s) (hs : Guarded Alone Step s a s') : OneByOne s' := by
  obtain ⟨halone, hs⟩ := hs
  cases hs with
  | @start c =>
    refine ⟨by rwa [List.dropLast_concat], ?_⟩
    refine h.phase.imp (And.imp_right fun _ x hx hnone => ?_) fun ⟨hall, _⟩ => ⟨fun x hx hup => ?_, fun x hx hnone hup => ?_⟩
    all_goals rcases List.mem_append.1 hx with hx | hx
    · exact absurd hnone (halone x hx)
    · obtain rfl := List.mem_singleton.1 hx
      exact ⟨fun _ => .inl rfl, fun _ => Nat.zero_le _⟩
    · exact hall x hx hup
    · obtain rfl := List.mem_singleton.1 hx
      exact Nat.zero_lt_succ _
    · exact absurd hnone (halone x hx)
    · obtain rfl := List.mem_singleton.1 hx
      exact ⟨fun h => absurd h (Nat.not_succ_le_zero 0), fun h => absurd h (Nat.not_succ_le_zero 1)⟩
  | @file p q r f db hruns hexit hf hexec =>
    have hr : r ∈ s.runs := by rw [hruns]; simp
    refine h.replace hruns hexit ?_
    rcases h.phase with ⟨hstranded, hlate⟩ | ⟨hall, hearly⟩
    · obtain ⟨hstranded', hnext, -⟩ := late_file hstranded (hlate r hr hexit) hexit hf hexec
      exact .inl ⟨hstranded', fun _ => hnext⟩
    · by_cases hup : r.command = ⟨.incident, .up⟩
      · have hlt := hall r hr hup
        by_cases hlast : r.executed = 13
        · refine .inl ⟨messages_strand (hearly r hr hexit hup) hlast ?_ hexec, fun _ => ⟨fun _ => .inr ?_, fun hdown => ?_⟩⟩
          · rwa [hup, hlast] at hf
          · change 14 ≤ r.executed + 1
            omega
          · rw [Run.next, hup] at hdown
            cases hdown
        · refine .inr ⟨hall, fun _ => ⟨?_, fun _ => early_file (hearly r hr hexit hup) hup hexit (by omega) hf hexec⟩⟩
          change r.executed + 1 < 14
          omega
      · exact .inr ⟨hall, fun hup' => absurd hup' hup⟩
  | @fail p q r hruns hexit =>
    refine h.replace hruns hexit (h.phase.imp (And.imp_right fun _ hnone => by cases hnone) ?_)
    exact fun ⟨hall, _⟩ => ⟨hall, fun hup => ⟨hall r (by rw [hruns]; simp) hup, fun hnone => by cases hnone⟩⟩
  | @finish p q r hruns hexit hlast =>
    refine h.replace hruns hexit (h.phase.imp (And.imp_right fun _ hnone => by cases hnone) ?_)
    exact fun ⟨hall, _⟩ => ⟨hall, fun hup => ⟨hall r (by rw [hruns]; simp) hup, fun hnone => by cases hnone⟩⟩
  | warlog hexec =>
    refine ⟨h.ended, h.phase.imp (And.imp_left fun hstranded => stranded_warlog hstranded hexec) (And.imp_right ?_)⟩
    have happart : ∀ st ∈ warlogInit, ∀ n ∈ ["users", "incidents"], st.touches n = false := by decide
    intro hearly r hr hnone hup
    have hr' := hearly r hr hnone hup
    exact ⟨fun hone => made_keep (hr'.users hone) hexec fun st hst => happart st hst _ (by simp),
      fun htwo => made_keep (hr'.incidents htwo) hexec fun st hst => happart st hst _ (by simp)⟩

end

/-- When runs follow one another on any database, and one `up` of `incident-svc` has executed 014, none that is begun
after it succeeds any more, up or down, also when they are run side by side: there are users, and the incidents cannot
be dropped. -/
theorem up_strands {db : Schema} {s s' : System} (h : Reachable (Guarded Alone Step) ⟨db, []⟩ s)
    (hup : ∃ r ∈ s.runs, r.command = ⟨.incident, .up⟩ ∧ 14 ≤ r.executed) (h' : Reachable Step ⟨s.db, []⟩ s') :
    ∀ r ∈ s'.runs, r.command.service = .incident → r.exit ≠ some 0 := by
  have hone : OneByOne s := h.inv (I := OneByOne) ⟨by simp, .inr ⟨by simp, by simp⟩⟩ fun _ _ _ => oneByOne_step
  have hstranded : Stranded s.db := by
    refine hone.phase.elim And.left fun ⟨hall, _⟩ => ?_
    obtain ⟨r, hr, hc, hle⟩ := hup
    exact absurd hle (Nat.not_le.2 (hall r hr hc))
  intro r hr hincident hexit
  obtain ⟨⟨-, hdown⟩, hnone⟩ := (late_kept.reachable (s := ⟨s.db, []⟩) hstranded (by simp) h').2 r hr
  have hexecuted := r.complete hexit
  obtain ⟨⟨service, direction⟩, executed, exit, complete⟩ := r
  cases hincident
  cases direction with
  | up =>
    rw [hnone rfl] at hexecuted
    change 0 = IncidentSvc.up.length at hexecuted
    exact absurd hexecuted (by decide)
  | down =>
    have hle := hdown rfl
    rw [hexecuted] at hle
    change IncidentSvc.down.length ≤ 4 at hle
    exact absurd hle (by decide)

def execFiles (db : Schema) : List SqlFile → Option Schema
  | [] => some db
  | f :: files => (execAll db f.sql).bind (execFiles · files)

/-- A run by itself executes its files one by one. -/
theorem alone_files {db db' : Schema} {s : System} {r : Run} (files : List SqlFile) (hexit : r.exit = none)
    (hfiles : files <+: r.command.files.drop r.executed) (hexec : execFiles db files = some db')
    (h : Reachable (Guarded Alone Step) s ⟨db, [r]⟩) :
    ∃ r', r'.command = r.command ∧ r'.executed = r.executed + files.length ∧ Reachable (Guarded Alone Step) s ⟨db', [r']⟩ := by
  induction files generalizing db r with
  | nil =>
    cases hexec
    exact ⟨r, rfl, rfl, h⟩
  | cons f files ih =>
    obtain ⟨db₁, hfirst, hrest⟩ := Option.bind_eq_some_iff.1 hexec
    obtain ⟨rest, hdrop⟩ := hfiles
    have hf : r.command.files[r.executed]? = some f := by
      rw [← List.head?_drop, ← hdrop]
      rfl
    have hnext : files <+: r.command.files.drop (r.executed + 1) := by
      rw [← List.tail_drop, ← hdrop]
      exact ⟨rest, rfl⟩
    have h₁ := h.nextGuarded .file trivial (.file (p := []) (q := []) rfl hexit hf hfirst)
    obtain ⟨r', hcommand, hexecuted, h'⟩ := ih (r := r.next hexit) hexit hnext hrest h₁
    refine ⟨r', hcommand, hexecuted.trans ?_, h'⟩
    change r.executed + 1 + files.length = r.executed + (files.length + 1)
    omega

/-- An empty database after 014. -/
def strandedDb : Schema := (execFiles .empty (IncidentSvc.up.take 14)).get (by decide)

/-- There `down` has come to 002. -/
theorem up_strands_sample : ∃ s : System, s.runs.map (fun r => (r.command, r.executed)) = [(⟨.incident, .down⟩, 1)] ∧
    ∀ r ∈ s.runs, r.exit ≠ some 0 := by
  have hup : execFiles .empty (IncidentSvc.up.take 14) = some strandedDb := (Option.some_get _).symm
  have h0 : Reachable (Guarded Alone Step) ⟨.empty, []⟩ _ :=
    Reachable.refl.nextGuarded (.start ⟨.incident, .up⟩) (by simp [Alone]) .start
  obtain ⟨r, hcommand, hexecuted, h⟩ := alone_files _ rfl (List.take_prefix 14 _) hup h0
  have hdown : (execAll strandedDb [.dropTable "attachments" false]).isSome := by decide
  have h1 : Reachable Step ⟨strandedDb, []⟩ _ := Reachable.refl.next (.start ⟨.incident, .down⟩) .start
  have h2 := h1.next .file (.file (p := []) (q := []) rfl rfl rfl (Option.some_get hdown).symm)
  refine ⟨_, rfl, fun r' hr' => up_strands h ⟨r, by simp, hcommand, ?_⟩ h2 r' hr' ?_⟩
  · rw [hexecuted]
    decide
  · obtain rfl := List.mem_singleton.1 hr'
    rfl

end Tactix.Migrate
