import Tactix.Migrate.Runs
/-!
# Migrations in the deployment

The database of `docker-compose.yml` begins with an `operations` of its own, made by
`init.sql`. `compose_migrate` says that no migration of `incident-svc` succeeds there, and
`queries_fail` that the handlers that need its tables cannot be answered, whatever is run.
-/
open ServiceLib ServiceLib.Ddl

namespace Tactix.Migrate

/-- The tables that are made after `operations`, and three that the code uses and no command makes. -/
def unmade : List String :=
  ["positions", "assignments", "role_grants", "org_units", "operation_role_grants", "messages", "incident_chat_messages",
    "cp_roster", "cp_shifts", "orders", "order_versions", "order_sections", "order_collab_docs", "order_collab_updates",
    "order_comments", "incident_messages", "incidents_events", "security_settings"]

/-- `init.sql` has made an `operations` that has no such columns, and to which `units` has a foreign key; and what there
is of `incident_tasks` is as `playbook-svc` makes it. -/
structure Initialized (db : Schema) : Prop where
  operations : ∃ t, db.table? "operations" = some t ∧ ∀ c ∈ ["operation_id", "code"], t.has c = false
  units : ∃ u, db.table? "units" = some u ∧ ∃ c ∈ u.constraints, c.target? = some "operations"
  unmade : ∀ n ∈ unmade, db.find? n = none
  tasks : Lacks "incident_tasks" ["title", "updated_at"] db

/-- The files that can be executed there. -/
def Command.executable (c : Command) : Nat :=
  match c.service, c.direction with
  | .incident, _ => 6
  | .orders, .up => 0
  | _, _ => c.files.length

/-- The statement makes none of the tables, and leaves the ones of `init.sql` alone. -/
def Spares (st : Stmt) : Prop :=
  (∀ n ∈ unmade, st.makes n = false) ∧ (∀ n ∈ ["operations", "units"], st.touches n = false) ∧ st.unlinks "operations" = false

instance (st : Stmt) : Decidable (Spares st) := inferInstanceAs (Decidable (_ ∧ _ ∧ _))

/-- The text does not make `incident_tasks` and keeps its columns, or is the one of `playbook-svc`. -/
def SparesTasks (sql : List Stmt) : Prop :=
  (∀ st ∈ sql, st.makes "incident_tasks" = false ∧ st.recolumns "incident_tasks" = false) ∨
    sql = [.createTable "incident_tasks" false PlaybookSvc.incidentTasks]

instance (sql : List Stmt) : Decidable (SparesTasks sql) := inferInstanceAs (Decidable (_ ∨ _))

theorem executable_spares (c : Command) : ∀ f ∈ c.files.take c.executable, (∀ st ∈ f.sql, Spares st) ∧ SparesTasks f.sql := by
  obtain ⟨service, direction⟩ := c
  cases service <;> cases direction <;> decide

section
variable {db db' : Schema}

theorem has_of_kept {unlinked : String → Bool} {t t' : Table} (h : t.Kept unlinked t') (n : String) : t'.has n = t.has n := by
  rw [Table.has, Table.has, h.columns]

theorem initialized_keep (h : Initialized db) {sql : List Stmt} (hexec : execAll db sql = some db')
    (hspares : ∀ st ∈ sql, Spares st) (htasks : SparesTasks sql) : Initialized db' := by
  obtain ⟨t, ht, hcolumns⟩ := h.operations
  obtain ⟨u, hu, c, hc, htarget⟩ := h.units
  refine ⟨?_, ?_, fun n hn => execAll_absent hexec (fun st hst => (hspares st hst).1 n hn) (h.unmade n hn), ?_⟩
  · obtain ⟨t', ht', hkept⟩ := execAll_table hexec (fun st hst => (hspares st hst).2.1 _ (by simp)) ht
    exact ⟨t', ht', fun c hc => by rw [has_of_kept hkept, hcolumns c hc]⟩
  · obtain ⟨u', hu', hkept⟩ := execAll_table hexec (fun st hst => (hspares st hst).2.1 _ (by simp)) hu
    refine ⟨u', hu', c, hkept.constraints c hc fun target htarget' => ?_, htarget⟩
    rw [htarget] at htarget'
    cases htarget'
    simpa [footprint] using fun st hst => (hspares st hst).2.2
  · rcases htasks with hkeep | rfl
    · exact h.tasks.keep hexec hkeep
    · exact .made hexec (by decide)

/-- The next file fails. -/
theorem executable_last (h : Initialized db) {c : Command} {f : SqlFile} (hf : c.files[c.executable]? = some f) :
    execAll db f.sql = none := by
  obtain ⟨t, ht, hcolumns⟩ := h.operations
  obtain ⟨u, hu, key, hkey, htarget⟩ := h.units
  obtain ⟨service, direction⟩ := c
  cases service with
  | incident =>
    cases direction with
    | up =>
      cases hf
      refine execAll_of_first (createTable_exists ?_ _)
      rw [table?_iff_find?.1 ht]
      exact Option.some_ne_none _
    | down =>
      cases hf
      exact execAll_of_first (dropTable_referenced ht hu (by decide) hkey htarget)
  | orders =>
    cases direction with
    | up =>
      cases hf
      have habsent := h.unmade "orders" (by simp [unmade])
      refine execAll_of_first (createTable_dangling (t := OrdersSvc.orders) (d := "operation_id")
        (List.mem_cons_of_mem _ List.mem_cons_self) (List.mem_singleton_self _) (by decide) (fun t' ht' => ?_) habsent true)
      rw [ht] at ht'
      cases ht'
      exact hcolumns _ (by simp)
    | down => cases hf
  | playbook => cases direction <;> cases hf
  | eng => cases direction <;> cases hf

end

theorem executable_kept : Kept Initialized fun _ r => r.executed ≤ r.command.executable where
  start c _ := Nat.zero_le _
  exit hr hcommand hexecuted := by
    rw [hcommand, hexecuted]
    exact hr
  file {db db' r f} hI hr hexit hf hexec := by
    have hlt : r.executed < r.command.executable := by
      refine Nat.lt_of_le_of_ne hr fun he => ?_
      rw [he] at hf
      rw [executable_last hI hf] at hexec
      cases hexec
    have hmem : f ∈ r.command.files.take r.command.executable := by
      obtain ⟨hi, rfl⟩ := List.getElem?_eq_some_iff.1 hf
      exact List.mem_take_iff_getElem.2 ⟨r.executed, by omega, rfl⟩
    obtain ⟨hspares, htasks⟩ := executable_spares _ f hmem
    exact ⟨initialized_keep hI hexec hspares htasks, hlt, fun r' hr' => hr'⟩
  warlog hI hexec := ⟨initialized_keep hI hexec (by decide) (by decide), fun r' hr' => hr'⟩

/-- On the database of `docker-compose.yml` no migration of `incident-svc` ever succeeds, up or down, and none of
`orders-svc` up, in whatever order and however often they are run. The tables after `operations` are never made. -/
theorem compose_migrate {db : Schema} (hdb : Initialized db) {s : System} (h : Reachable Step ⟨db, []⟩ s) :
    (∀ r ∈ s.runs, r.exit = some 0 → r.command.service ≠ .incident ∧ r.command ≠ ⟨.orders, .up⟩) ∧
      ∀ n ∈ unmade, s.db.find? n = none := by
  obtain ⟨hI, hP⟩ := executable_kept.reachable hdb (by simp) h
  refine ⟨fun r hr hexit => ?_, hI.unmade⟩
  have hle := hP r hr
  rw [r.complete hexit] at hle
  have hshort : ∀ c : Command, c.files.length ≤ c.executable → c.service ≠ .incident ∧ c ≠ ⟨.orders, .up⟩ := by
    rintro ⟨service, direction⟩
    cases service <;> cases direction <;> decide
  exact hshort r.command hle

/-- The database as `init.sql` leaves it. -/
def composeDb : Schema := (execAll .empty initSql).get (by decide)

theorem composeDb_initialized : Initialized composeDb := by
  have htasks : composeDb.table? "incident_tasks" = none := by decide
  refine ⟨⟨Init.operations, by decide, by decide⟩, ⟨Init.units, by decide, ?_⟩, by decide, fun t ht => ?_⟩
  · exact ⟨references "units" "operation_id" "operations" "id", by decide, rfl⟩
  · rw [htasks] at ht
    cases ht

/-- The first file of `incident-svc` is executed there. -/
theorem composeDb_users : ∃ db, Reachable Step ⟨composeDb, []⟩ ⟨db, [(Run.begin ⟨.incident, .up⟩).next rfl]⟩ := by
  have husers : (execAll composeDb [.createTable "users" false IncidentSvc.users]).isSome := by decide
  have h1 : Reachable Step ⟨composeDb, []⟩ _ := Reachable.refl.next (.start ⟨.incident, .up⟩) .start
  exact ⟨_, h1.next .file (.file (p := []) (q := []) rfl rfl rfl (Option.some_get husers).symm)⟩

theorem compose_migrate_sample : ∃ s : System, s.runs.map (·.executed) = [1] ∧ ∀ n ∈ unmade, s.db.find? n = none := by
  obtain ⟨db, h⟩ := composeDb_users
  exact ⟨_, rfl, (compose_migrate composeDb_initialized h).2⟩

/-! ## What the handlers ask for -/

/-- A query, by a table and the columns it always names. -/
structure Query where
  table : String
  columns : List String

/-- Its table and the columns are there. -/
def Query.planned (q : Query) (db : Schema) : Bool := (db.table? q.table).any fun t => q.columns.all t.has

/-- The queries of `incident-svc` but for the list of incidents, those of `services/incident` and of `packages/settings`. -/
def queries : List Query :=
  [⟨"operations", ["operation_id", "code"]⟩, ⟨"operations", ["operation_id", "code", "title"]⟩,
    ⟨"assignments", ["user_upn", "active", "operation_id"]⟩, ⟨"assignments", ["operation_id"]⟩,
    ⟨"assignments", ["assignment_id", "operation_id", "user_upn"]⟩,
    ⟨"assignments", ["position_id", "alt_display_name", "active", "assignment_id"]⟩, ⟨"assignments", ["assignment_id"]⟩,
    ⟨"assignments", ["assignment_id", "operation_id", "user_upn", "position_id", "alt_display_name", "created_by_upn"]⟩,
    ⟨"assignments", ["active", "assignment_id", "operation_id"]⟩,
    ⟨"role_grants", ["user_upn", "role", "operation_id"]⟩, ⟨"role_grants", ["operation_id"]⟩,
    ⟨"role_grants", ["grant_id", "operation_id", "user_upn", "role", "created_by_upn"]⟩,
    ⟨"org_units", ["org_unit_id", "scope", "unit_name", "xmpp_jid", "operation_id"]⟩,
    ⟨"messages", ["id", "incident_id", "author", "content", "status"]⟩, ⟨"messages", ["status", "id", "incident_id"]⟩,
    ⟨"incident_chat_messages", ["msg_id", "incident_id", "author_upn", "text", "created_at"]⟩,
    ⟨"incident_chat_messages", ["msg_id", "incident_id", "author_upn", "text"]⟩,
    ⟨"incident_messages", ["message_id", "author_upn", "content", "created_at", "incident_id"]⟩,
    ⟨"incident_tasks", ["task_id", "incident_id", "role", "assignee_upn", "title", "description", "status", "created_by",
      "created_at", "updated_at"]⟩,
    ⟨"incident_tasks", ["updated_at", "incident_id", "task_id"]⟩,
    ⟨"incident_tasks", ["task_id", "title", "status", "updated_at", "incident_id"]⟩,
    ⟨"cp_roster", ["operation_id"]⟩, ⟨"cp_roster", ["operation_id", "user_upn", "role", "active"]⟩,
    ⟨"cp_shifts", ["operation_id"]⟩, ⟨"cp_shifts", ["operation_id", "shift_id"]⟩,
    ⟨"cp_shifts", ["shift_id", "operation_id", "user_upn", "role", "starts_at", "ends_at"]⟩,
    ⟨"cp_shifts", ["shift_id", "operation_id", "user_upn", "role", "starts_at", "ends_at", "notes", "created_by"]⟩,
    ⟨"cp_shifts", ["shift_id", "user_upn", "role", "starts_at", "ends_at", "operation_id"]⟩,
    ⟨"incidents_events", ["id", "incident_id", "type", "payload", "timestamp"]⟩,
    ⟨"incidents_events", ["type", "payload", "incident_id", "timestamp"]⟩,
    ⟨"security_settings", ["id", "zero_trust_enabled", "updated_at", "updated_by"]⟩]

/-- Each of them needs a table that is not made, or a column that its table has not got. -/
theorem queries_need : ∀ q ∈ queries, q.table ∈ unmade ∨ (q.table = "operations" ∧ "operation_id" ∈ q.columns) ∨
    (q.table = "incident_tasks" ∧ "updated_at" ∈ q.columns) := by decide

/-- A column that is missing. -/
theorem not_planned {q : Query} {db : Schema} {c : String} (hc : c ∈ q.columns)
    (h : ∀ t, db.table? q.table = some t → t.has c = false) : q.planned db = false := by
  unfold Query.planned
  cases ht : db.table? q.table with
  | none => rfl
  | some t =>
    rw [Option.any_some, List.all_eq_false]
    exact ⟨c, hc, by simp [h t ht]⟩

/-- Whatever migrations are run, no such query can be answered. -/
theorem queries_fail {db : Schema} (hdb : Initialized db) {s : System} (h : Reachable Step ⟨db, []⟩ s) :
    ∀ q ∈ queries, q.planned s.db = false := by
  obtain ⟨hI, -⟩ := executable_kept.reachable hdb (by simp) h
  intro q hq
  rcases queries_need q hq with hunmade | ⟨htable, hcolumn⟩ | ⟨htable, hcolumn⟩
  · have habsent : s.db.table? q.table = none := by
      unfold Schema.table?
      rw [hI.unmade _ hunmade]
    unfold Query.planned
    rw [habsent]
    rfl
  · obtain ⟨t, ht, hcolumns⟩ := hI.operations
    refine not_planned hcolumn fun t' ht' => ?_
    rw [htable, ht] at ht'
    cases ht'
    exact hcolumns _ (by simp)
  · refine not_planned hcolumn fun t ht => ?_
    rw [htable] at ht
    exact hI.tasks t ht _ (by simp)

/-- A task cannot be changed there. -/
theorem queries_fail_sample : ∃ s : System, s.runs.map (·.executed) = [1] ∧
    Query.planned ⟨"incident_tasks", ["updated_at", "incident_id", "task_id"]⟩ s.db = false := by
  obtain ⟨db, h⟩ := composeDb_users
  exact ⟨_, rfl, queries_fail composeDb_initialized h _ (by simp [queries])⟩

end Tactix.Migrate
