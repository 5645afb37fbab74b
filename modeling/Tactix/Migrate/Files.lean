import Tactix.Lib.Ddl
import Tactix.Migrations
/-!
# The files of the migrations

The SQL of the services that share the database of `docker-compose.yml`, statement by
statement, `init.sql` with which that database begins, and the table that `warlog-svc` makes
when it starts. `files_sorted` says that the files are in the order `runMigrations` takes.
-/
open ServiceLib.Ddl

namespace Tactix.Migrate

/-! ## Constraints under the names they get -/

def primaryKey (table : String) (columns : List String) : Constraint := .unique (table ++ "_pkey") columns

def unique (table : String) (columns : List String) : Constraint :=
  .unique (table ++ "_" ++ "_".intercalate columns ++ "_key") columns

def check (table column : String) : Constraint := .check (table ++ "_" ++ column ++ "_check") [column]

def references (table column target targetColumn : String) : Constraint :=
  .foreign (table ++ "_" ++ column ++ "_fkey") [column] target [targetColumn]

structure SqlFile where
  name : String
  sql : List Stmt

/-! ## `services/incident-svc/migrations/up` -/

namespace IncidentSvc

def users : Table where
  columns := [⟨"id", .bigint⟩, ⟨"email", .text⟩, ⟨"created_at", .timestamptz⟩]
  constraints := [primaryKey "users" ["id"], unique "users" ["email"]]
  triggers := []

def incidents : Table where
  columns := [⟨"id", .bigint⟩, ⟨"user_id", .bigint⟩, ⟨"title", .text⟩, ⟨"severity", .text⟩, ⟨"description", .text⟩,
    ⟨"status", .text⟩, ⟨"comments", .jsonb⟩, ⟨"created_at", .timestamptz⟩]
  constraints := [primaryKey "incidents" ["id"], references "incidents" "user_id" "users" "id"]
  triggers := []

def incidentEvents : Table where
  columns := [⟨"id", .bigint⟩, ⟨"incident_id", .bigint⟩, ⟨"type", .text⟩, ⟨"payload", .jsonb⟩, ⟨"created_at", .timestamptz⟩]
  constraints := [primaryKey "incident_events" ["id"], references "incident_events" "incident_id" "incidents" "id"]
  triggers := []

def approvals : Table where
  columns := [⟨"id", .bigint⟩, ⟨"incident_id", .bigint⟩, ⟨"user_id", .bigint⟩, ⟨"status", .text⟩, ⟨"created_at", .timestamptz⟩]
  constraints := [primaryKey "approvals" ["id"], references "approvals" "incident_id" "incidents" "id",
    references "approvals" "user_id" "users" "id"]
  triggers := []

def attachments : Table where
  columns := [⟨"id", .bigint⟩, ⟨"incident_id", .bigint⟩, ⟨"url", .text⟩, ⟨"created_at", .timestamptz⟩]
  constraints := [primaryKey "attachments" ["id"], references "attachments" "incident_id" "incidents" "id"]
  triggers := []

def operations : Table where
  columns := [⟨"operation_id", .uuid⟩, ⟨"code", .text⟩, ⟨"title", .text⟩, ⟨"created_at", .timestamptz⟩]
  constraints := [primaryKey "operations" ["operation_id"], unique "operations" ["code"]]
  triggers := []

def positions : Table where
  columns := [⟨"position_id", .uuid⟩, ⟨"operation_id", .uuid⟩, ⟨"code", .text⟩, ⟨"display_name", .text⟩]
  constraints := [primaryKey "positions" ["position_id"], references "positions" "operation_id" "operations" "operation_id",
    unique "positions" ["operation_id", "code"]]
  triggers := []

def assignments : Table where
  columns := [⟨"assignment_id", .uuid⟩, ⟨"operation_id", .uuid⟩, ⟨"user_upn", .text⟩, ⟨"position_id", .uuid⟩,
    ⟨"alt_display_name", .text⟩, ⟨"active", .boolean⟩, ⟨"created_by_upn", .text⟩, ⟨"created_at", .timestamptz⟩]
  constraints := [primaryKey "assignments" ["assignment_id"],
    references "assignments" "operation_id" "operations" "operation_id",
    references "assignments" "position_id" "positions" "position_id"]
  triggers := []

def roleGrants : Table where
  columns := [⟨"grant_id", .uuid⟩, ⟨"operation_id", .uuid⟩, ⟨"user_upn", .text⟩, ⟨"role", .text⟩, ⟨"created_by_upn", .text⟩,
    ⟨"created_at", .timestamptz⟩]
  constraints := [primaryKey "role_grants" ["grant_id"], references "role_grants" "operation_id" "operations" "operation_id",
    unique "role_grants" ["operation_id", "user_upn", "role"], check "role_grants" "role"]
  triggers := []

def orgUnits : Table where
  columns := [⟨"org_unit_id", .uuid⟩, ⟨"operation_id", .uuid⟩, ⟨"scope", .text⟩, ⟨"unit_name", .text⟩, ⟨"xmpp_jid", .text⟩]
  constraints := [primaryKey "org_units" ["org_unit_id"], references "org_units" "operation_id" "operations" "operation_id"]
  triggers := []

def operationRoleGrants : Table where
  columns := [⟨"id", .uuid⟩, ⟨"operation_id", .uuid⟩, ⟨"user_upn", .text⟩, ⟨"role", .text⟩, ⟨"alt_name", .text⟩,
    ⟨"created_by_upn", .text⟩, ⟨"created_at", .timestamptz⟩]
  constraints := [primaryKey "operation_role_grants" ["id"],
    references "operation_role_grants" "operation_id" "operations" "operation_id", check "operation_role_grants" "role",
    unique "operation_role_grants" ["operation_id", "user_upn"]]
  triggers := []

def messages : Table where
  columns := [⟨"id", .uuid⟩, ⟨"incident_id", .bigint⟩, ⟨"author", .text⟩, ⟨"content", .text⟩, ⟨"status", .text⟩,
    ⟨"created_at", .timestamptz⟩]
  constraints := [primaryKey "messages" ["id"], references "messages" "incident_id" "incidents" "id"]
  triggers := []

def incidentChatMessages : Table where
  columns := [⟨"msg_id", .uuid⟩, ⟨"incident_id", .uuid⟩, ⟨"author_upn", .text⟩, ⟨"text", .text⟩, ⟨"created_at", .timestamptz⟩]
  constraints := [primaryKey "incident_chat_messages" ["msg_id"],
    references "incident_chat_messages" "incident_id" "incidents" "incident_id"]
  triggers := []

def cpRoster : Table where
  columns := [⟨"roster_id", .uuid⟩, ⟨"operation_id", .uuid⟩, ⟨"user_upn", .text⟩, ⟨"role", .text⟩, ⟨"display_name", .text⟩,
    ⟨"alt_name", .text⟩, ⟨"active", .boolean⟩, ⟨"created_at", .timestamptz⟩]
  constraints := [primaryKey "cp_roster" ["roster_id"], references "cp_roster" "operation_id" "operations" "operation_id",
    unique "cp_roster" ["operation_id", "user_upn", "role"]]
  triggers := []

def cpShifts : Table where
  columns := [⟨"shift_id", .uuid⟩, ⟨"operation_id", .uuid⟩, ⟨"user_upn", .text⟩, ⟨"role", .text⟩, ⟨"starts_at", .timestamptz⟩,
    ⟨"ends_at", .timestamptz⟩, ⟨"source", .text⟩, ⟨"notes", .text⟩, ⟨"created_by", .text⟩, ⟨"created_at", .timestamptz⟩,
    ⟨"updated_at", .timestamptz⟩]
  constraints := [primaryKey "cp_shifts" ["shift_id"], references "cp_shifts" "operation_id" "operations" "operation_id",
    .check "cp_shifts_check" ["ends_at", "starts_at"]]
  triggers := []

/-- The columns 016 adds to `incident_tasks`. -/
def taskColumns : List Column :=
  [⟨"assignee_upn", .text⟩, ⟨"title", .text⟩, ⟨"description", .text⟩, ⟨"status", .text⟩, ⟨"created_by", .text⟩,
    ⟨"created_at", .timestamptz⟩, ⟨"updated_at", .timestamptz⟩]

def up : List SqlFile :=
  [⟨"001_create_users.sql", [.createTable "users" false users]⟩,
    ⟨"002_create_incidents.sql", [.createTable "incidents" false incidents]⟩,
    ⟨"003_create_incident_events.sql", [.createTable "incident_events" false incidentEvents]⟩,
    ⟨"004_create_approvals.sql", [.createTable "approvals" false approvals]⟩,
    ⟨"005_create_attachments.sql", [.createTable "attachments" false attachments]⟩,
    ⟨"006_add_incidents_search_index.sql",
      [.createIndex "incidents_title_description_idx" true "incidents" ["title", "description"]]⟩,
    ⟨"007_create_operations.sql", [.createTable "operations" false operations]⟩,
    ⟨"008_create_positions.sql", [.createTable "positions" false positions]⟩,
    ⟨"009_create_assignments.sql", [.createTable "assignments" false assignments,
      .createUnnamedIndex "assignments_operation_id_user_upn_idx" "assignments" ["operation_id", "user_upn"]]⟩,
    ⟨"010_create_role_grants.sql", [.createTable "role_grants" false roleGrants]⟩,
    ⟨"011_create_messages.sql", [.select]⟩,
    ⟨"012_create_org_units.sql", [.createTable "org_units" false orgUnits,
      .createIndex "idx_org_units_operation" false "org_units" ["operation_id"]]⟩,
    ⟨"013_create_operation_role_grants.sql", [.createTable "operation_role_grants" true operationRoleGrants]⟩,
    ⟨"014_create_incident_messages.sql", [.dropTable "messages" true, .createTable "messages" false messages,
      .createIndex "idx_messages_incident" false "messages" ["incident_id"]]⟩,
    ⟨"015_create_incident_chat_messages.sql", [.createTable "incident_chat_messages" true incidentChatMessages,
      .createIndex "ix_icm_incident_created" true "incident_chat_messages" ["incident_id", "created_at"]]⟩,
    ⟨"016_alter_incident_tasks.sql", taskColumns.map (.addColumn "incident_tasks") ++
      [.dropConstraint "incident_tasks" "incident_tasks_status_check",
        .addConstraint "incident_tasks" (check "incident_tasks" "status"),
        .dropConstraint "incident_tasks" "incident_tasks_incident_id_fkey",
        .addConstraint "incident_tasks" (references "incident_tasks" "incident_id" "incidents" "incident_id"),
        .createIndex "ix_it_incident_status" true "incident_tasks" ["incident_id", "status", "updated_at"]]⟩,
    ⟨"017_create_schedule.sql", [.createTable "cp_roster" true cpRoster,
      .createIndex "ix_cp_roster_op_role" true "cp_roster" ["operation_id", "role"],
      .createTable "cp_shifts" true cpShifts,
      .createIndex "ix_cp_shifts_op_window" true "cp_shifts" ["operation_id", "starts_at", "ends_at"],
      .createFunction "trg_cp_shifts_touch_updated",
      .dropTrigger "cp_shifts_touch_updated" "cp_shifts",
      .createTrigger ⟨"cp_shifts_touch_updated", "trg_cp_shifts_touch_updated"⟩ "cp_shifts"]⟩]

/-! ## `services/incident-svc/migrations/down` -/

def down : List SqlFile :=
  [⟨"001_drop_attachments.sql", [.dropTable "attachments" false]⟩,
    ⟨"002_drop_approvals.sql", [.dropTable "approvals" false]⟩,
    ⟨"003_drop_incident_events.sql", [.dropTable "incident_events" false]⟩,
    ⟨"003a_drop_incidents_search_index.sql", [.dropIndex "incidents_title_description_idx"]⟩,
    ⟨"004_drop_incidents.sql", [.dropTable "incidents" false]⟩,
    ⟨"005_drop_users.sql", [.dropTable "users" false]⟩,
    ⟨"007_create_operations.sql", [.dropTable "operations" false]⟩,
    ⟨"008_create_positions.sql", [.dropTable "positions" false]⟩,
    ⟨"009_create_assignments.sql", [.dropTable "assignments" false]⟩,
    ⟨"010_create_role_grants.sql", [.dropTable "role_grants" false]⟩,
    ⟨"011_drop_messages.sql", [.dropTable "messages" false]⟩,
    ⟨"012_drop_org_units.sql", [.dropTable "org_units" false]⟩,
    ⟨"013_drop_operation_role_grants.sql", [.dropTable "operation_role_grants" false]⟩,
    ⟨"014_drop_messages.sql", [.dropTable "messages" false]⟩,
    ⟨"015_drop_incident_chat_messages.sql", [.dropTable "incident_chat_messages" false]⟩,
    ⟨"016_revert_incident_tasks.sql", [.dropColumn "incident_tasks" "assignee_upn", .dropColumn "incident_tasks" "title",
      .dropColumn "incident_tasks" "created_by", .dropColumn "incident_tasks" "updated_at",
      .dropConstraint "incident_tasks" "incident_tasks_status_check",
      .addConstraint "incident_tasks" (check "incident_tasks" "status"),
      .dropConstraint "incident_tasks" "incident_tasks_incident_id_fkey",
      .dropIndex "ix_it_incident_status"]⟩,
    ⟨"017_drop_schedule.sql", [.dropTrigger "cp_shifts_touch_updated" "cp_shifts",
      .dropFunction "trg_cp_shifts_touch_updated", .dropTable "cp_shifts" false, .dropTable "cp_roster" false]⟩]

end IncidentSvc

/-! ## The other services -/

namespace PlaybookSvc

def playbooks : Table where
  columns := [⟨"playbook_id", .uuid⟩, ⟨"incident_id", .uuid⟩, ⟨"name", .text⟩, ⟨"json", .jsonb⟩, ⟨"created_by", .text⟩,
    ⟨"created_at", .timestamptz⟩, ⟨"updated_at", .timestamptz⟩]
  constraints := [primaryKey "playbooks" ["playbook_id"], unique "playbooks" ["incident_id", "name"]]
  triggers := []

def playbookRuns : Table where
  columns := [⟨"run_id", .uuid⟩, ⟨"playbook_id", .uuid⟩, ⟨"incident_id", .uuid⟩, ⟨"requested_by", .text⟩,
    ⟨"approved_by", .text⟩, ⟨"status", .text⟩, ⟨"overrides", .jsonb⟩, ⟨"result", .jsonb⟩, ⟨"created_at", .timestamptz⟩,
    ⟨"executed_at", .timestamptz⟩]
  constraints := [primaryKey "playbook_runs" ["run_id"], references "playbook_runs" "playbook_id" "playbooks" "playbook_id",
    check "playbook_runs" "status"]
  triggers := []

def incidentTasks : Table where
  columns := [⟨"task_id", .uuid⟩, ⟨"incident_id", .uuid⟩, ⟨"role", .text⟩, ⟨"description", .text⟩, ⟨"status", .text⟩,
    ⟨"created_at", .timestamptz⟩]
  constraints := [primaryKey "incident_tasks" ["task_id"], check "incident_tasks" "status"]
  triggers := []

def up : List SqlFile :=
  [⟨"001_create_playbooks.sql", [.createTable "playbooks" false playbooks]⟩,
    ⟨"002_create_playbook_runs.sql", [.createTable "playbook_runs" false playbookRuns]⟩,
    ⟨"003_create_incident_tasks.sql", [.createTable "incident_tasks" false incidentTasks]⟩]

def down : List SqlFile :=
  [⟨"001_drop_playbooks.sql", [.dropTable "playbooks" false]⟩,
    ⟨"002_drop_playbook_runs.sql", [.dropTable "playbook_runs" false]⟩,
    ⟨"003_drop_incident_tasks.sql", [.dropTable "incident_tasks" false]⟩]

end PlaybookSvc

namespace OrdersSvc

def orders : Table where
  columns := [⟨"order_id", .uuid⟩, ⟨"operation_id", .uuid⟩, ⟨"incident_id", .uuid⟩, ⟨"order_type", .text⟩, ⟨"title", .text⟩,
    ⟨"status", .text⟩, ⟨"classification", .text⟩, ⟨"distribution", .text⟩, ⟨"current_version", .integer⟩,
    ⟨"created_by", .text⟩, ⟨"created_at", .timestamptz⟩, ⟨"updated_at", .timestamptz⟩]
  constraints := [primaryKey "orders" ["order_id"], references "orders" "operation_id" "operations" "operation_id",
    references "orders" "incident_id" "incidents" "incident_id", check "orders" "order_type", check "orders" "status"]
  triggers := []

def orderVersions : Table where
  columns := [⟨"order_id", .uuid⟩, ⟨"version", .integer⟩, ⟨"content_json", .jsonb⟩, ⟨"changelog", .text⟩,
    ⟨"authored_by", .text⟩, ⟨"authored_at", .timestamptz⟩]
  constraints := [primaryKey "order_versions" ["order_id", "version"],
    references "order_versions" "order_id" "orders" "order_id"]
  triggers := []

def orderSections : Table where
  columns := [⟨"order_id", .uuid⟩, ⟨"section_id", .text⟩, ⟨"title", .text⟩, ⟨"owner_role", .text⟩, ⟨"owner_upn", .text⟩,
    ⟨"edit_roles", .textArray⟩, ⟨"view_roles", .textArray⟩, ⟨"sort_index", .integer⟩]
  constraints := [primaryKey "order_sections" ["order_id", "section_id"],
    references "order_sections" "order_id" "orders" "order_id"]
  triggers := []

def orderCollabDocs : Table where
  columns := [⟨"order_id", .uuid⟩, ⟨"section_id", .text⟩, ⟨"snapshot_ver", .bigint⟩, ⟨"snapshot_data", .bytea⟩,
    ⟨"updated_at", .timestamptz⟩]
  constraints := [primaryKey "order_collab_docs" ["order_id", "section_id"]]
  triggers := []

def orderCollabUpdates : Table where
  columns := [⟨"order_id", .uuid⟩, ⟨"section_id", .text⟩, ⟨"seq", .bigint⟩, ⟨"update_data", .bytea⟩, ⟨"created_at", .timestamptz⟩]
  constraints := [primaryKey "order_collab_updates" ["seq"]]
  triggers := []

def orderComments : Table where
  columns := [⟨"comment_id", .uuid⟩, ⟨"order_id", .uuid⟩, ⟨"section_id", .text⟩, ⟨"anchor_json", .jsonb⟩, ⟨"author_upn", .text⟩,
    ⟨"body", .text⟩, ⟨"created_at", .timestamptz⟩, ⟨"resolved", .boolean⟩, ⟨"resolved_by", .text⟩, ⟨"resolved_at", .timestamptz⟩]
  constraints := [primaryKey "order_comments" ["comment_id"], references "order_comments" "order_id" "orders" "order_id"]
  triggers := []

def up : List SqlFile :=
  [⟨"001_init.sql", [.createTable "orders" true orders,
      .createIndex "ix_orders_op" true "orders" ["operation_id", "updated_at"],
      .createFunction "trg_orders_touch_updated",
      .dropTrigger "orders_touch_updated" "orders",
      .createTrigger ⟨"orders_touch_updated", "trg_orders_touch_updated"⟩ "orders",
      .createTable "order_versions" true orderVersions,
      .createTable "order_sections" true orderSections,
      .createTable "order_collab_docs" true orderCollabDocs,
      .createTable "order_collab_updates" true orderCollabUpdates,
      .createIndex "ix_collab_updates_idx" true "order_collab_updates" ["order_id", "section_id", "seq"],
      .createTable "order_comments" true orderComments]⟩]

def down : List SqlFile :=
  [⟨"001_drop_orders.sql", [.dropTable "order_comments" false, .dropTable "order_collab_updates" false,
      .dropTable "order_collab_docs" false, .dropTable "order_sections" false, .dropTable "order_versions" false,
      .dropTrigger "orders_touch_updated" "orders", .dropFunction "trg_orders_touch_updated", .dropTable "orders" false]⟩]

end OrdersSvc

namespace EngSvc

def engMessages : Table where
  columns := [⟨"msg_id", .uuid⟩, ⟨"org_code", .text⟩, ⟨"operation_code", .text⟩, ⟨"from_instance_id", .text⟩,
    ⟨"from_user_upn", .text⟩, ⟨"text", .text⟩, ⟨"created_at", .timestamptz⟩]
  constraints := [primaryKey "eng_messages" ["msg_id"]]
  triggers := []

def migrations : List SqlFile :=
  [⟨"001_init.sql", [.createTable "eng_messages" true engMessages,
      .createIndex "ix_eng_1" true "eng_messages" ["org_code", "operation_code", "created_at"]]⟩]

end EngSvc

/-! ## The database before them -/

namespace Init

def campaigns : Table where
  columns := [⟨"id", .integer⟩, ⟨"name", .text⟩]
  constraints := [primaryKey "campaigns" ["id"]]
  triggers := []

def operations : Table where
  columns := [⟨"id", .integer⟩, ⟨"campaign_id", .integer⟩, ⟨"name", .text⟩, ⟨"xmpp_host", .text⟩, ⟨"xmpp_room", .text⟩]
  constraints := [primaryKey "operations" ["id"], references "operations" "campaign_id" "campaigns" "id"]
  triggers := []

def units : Table where
  columns := [⟨"id", .integer⟩, ⟨"operation_id", .integer⟩, ⟨"name", .text⟩]
  constraints := [primaryKey "units" ["id"], references "units" "operation_id" "operations" "id"]
  triggers := []

def warlogEntries : Table where
  columns := [⟨"id", .integer⟩, ⟨"operation_id", .integer⟩, ⟨"unit_id", .integer⟩, ⟨"ts", .timestamptz⟩, ⟨"author", .text⟩,
    ⟨"message", .text⟩]
  constraints := [primaryKey "warlog_entries" ["id"], references "warlog_entries" "operation_id" "operations" "id",
    references "warlog_entries" "unit_id" "units" "id"]
  triggers := []

end Init

/-- `ops/postgres/init.sql`. -/
def initSql : List Stmt :=
  [.createTable "campaigns" true Init.campaigns, .createTable "operations" true Init.operations,
    .createTable "units" true Init.units, .createTable "warlog_entries" true Init.warlogEntries]

/-- `init` of `warlog-svc`. -/
def warlogInit : List Stmt :=
  [.createTable "warlog" true ⟨[⟨"id", .integer⟩, ⟨"author", .text⟩, ⟨"content", .text⟩, ⟨"created_at", .timestamptz⟩],
    [primaryKey "warlog" ["id"]], []⟩]

/-! ## The commands -/

inductive Service where
  | incident
  | playbook
  | orders
  | eng
  deriving DecidableEq

inductive Direction where
  | up
  | down
  deriving DecidableEq

/-- `node migrate.js up` or `down` in one of the services. -/
structure Command where
  service : Service
  direction : Direction
  deriving DecidableEq

/-- `eng-svc` does not look at the direction. -/
def Command.files (c : Command) : List SqlFile :=
  match c.service, c.direction with
  | .incident, .up => IncidentSvc.up
  | .incident, .down => IncidentSvc.down
  | .playbook, .up => PlaybookSvc.up
  | .playbook, .down => PlaybookSvc.down
  | .orders, .up => OrdersSvc.up
  | .orders, .down => OrdersSvc.down
  | .eng, _ => EngSvc.migrations

/-- `readdirSync(...).sort()` gives them in this order. -/
theorem files_sorted (c : Command) :
    c.files.Pairwise fun a b => Migrations.codeUnits a.name < Migrations.codeUnits b.name := by
  obtain ⟨service, direction⟩ := c
  cases service <;> cases direction <;> decide

end Tactix.Migrate
