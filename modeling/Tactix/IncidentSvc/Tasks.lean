import Mathlib.Data.List.Forall2
import Tactix.Js
import Tactix.Lib.Lists
/-!
# Changing a task

`PATCH /incidents/:id/tasks/:taskId` puts an `UPDATE` together out of the fields it counts as
given, with a placeholder for each. `patchTask_iff` says when the row is afterwards what the
body asks for and nothing else has changed.
-/
open Tactix.Js ServiceLib

namespace Tactix.IncidentSvc

/-- A row of `incident_tasks`. -/
structure TaskRow where
  task_id : String
  incident_id : Nat
  role : String
  assignee_upn : Option String
  title : String
  description : String
  status : String
  created_by : String
  created_at : Nat
  updated_at : Nat

/-- A body the schema accepts. -/
structure TaskPatch where
  status : Option String
  title : Option String
  description : Option String
  assigneeUpn : Option String

/-- `z.string().optional()`. -/
def optionalString : Option Json → Option (Option String)
  | none => some none
  | some (.str s) => some (some s)
  | some _ => none

def taskStatuses : List String := ["open", "in_progress", "done", "cancelled"]

def taskPatchSchema : Json → Option TaskPatch
  | .obj fields => do
    let body := Json.obj fields
    let status ← optionalString (body.get? "status")
    let title ← optionalString (body.get? "title")
    let description ← optionalString (body.get? "description")
    let assigneeUpn ← optionalString (body.get? "assigneeUpn")
    if status.all (· ∈ taskStatuses) then some ⟨status, title, description, assigneeUpn⟩ else none
  | _ => none

/-! ## The statement -/

/-- A parameter of a query. -/
inductive SqlValue where
  | num (n : Nat)
  | text (s : String)
  | date (t : Nat)
  /-- A value of the type `task_id` has. -/
  | taskId (id : String)
  deriving DecidableEq

inductive TaskColumn where
  | status
  | title
  | description
  | assignee_upn
  | updated_at

/-- `fields` and `params`: columns with the numbers of their placeholders. -/
structure Assignments where
  fields : List (TaskColumn × Nat)
  params : List SqlValue

def Assignments.push (u : Assignments) (c : TaskColumn) (v : SqlValue) : Assignments :=
  ⟨u.fields ++ [(c, u.params.length + 1)], u.params ++ [v]⟩

def Assignments.pushText (u : Assignments) (c : TaskColumn) : Option String → Assignments
  | some s => u.push c (.text s)
  | none => u

/-- The fields of the body that count: `status`, `title` and `description` when they are truthy, and
`assigneeUpn` when it is there. -/
def TaskPatch.assignments (data : TaskPatch) : Assignments :=
  let u : Assignments := ⟨[], []⟩
  let u := u.pushText .status (orString data.status none)
  let u := u.pushText .title (orString data.title none)
  let u := u.pushText .description (orString data.description none)
  u.pushText .assignee_upn data.assigneeUpn

/-- `UPDATE incident_tasks SET … WHERE incident_id=$… AND task_id=$… RETURNING *`, with its parameters. -/
structure UpdateTasks where
  set : List (TaskColumn × Nat)
  incident_id : Nat
  task_id : Nat
  params : List SqlValue

def Assignments.statement (u : Assignments) (now incidentId : Nat) (taskId : String) : UpdateTasks :=
  let u := u.push .updated_at (.date now)
  let params := u.params ++ [.num incidentId] ++ [.taskId taskId]
  ⟨u.fields, params.length - 1, params.length, params⟩

/-- `$n`. -/
def UpdateTasks.param (q : UpdateTasks) (n : Nat) : Option SqlValue := q.params[n - 1]?

/-- A column takes a value of its type. -/
def TaskRow.set (row : TaskRow) (c : TaskColumn) (v : SqlValue) : Option TaskRow :=
  match c, v with
  | .status, .text s => some { row with status := s }
  | .title, .text s => some { row with title := s }
  | .description, .text s => some { row with description := s }
  | .assignee_upn, .text s => some { row with assignee_upn := some s }
  | .updated_at, .date t => some { row with updated_at := t }
  | _, _ => none

def UpdateTasks.selects (q : UpdateTasks) (row : TaskRow) : Bool :=
  q.param q.incident_id = some (.num row.incident_id) && q.param q.task_id = some (.taskId row.task_id)

def UpdateTasks.apply (q : UpdateTasks) (row : TaskRow) : Option TaskRow :=
  q.set.foldlM (fun row f => (q.param f.2).bind (row.set f.1)) row

/-- No text holds the character zero. -/
def SqlValue.storable : SqlValue → Bool
  | .text s => '\x00' ∉ s.toList
  | _ => true

/-- The table after the statement and the rows it returns; `none` when the query fails. -/
def UpdateTasks.run (q : UpdateTasks) (table : List TaskRow) : Option (List TaskRow × List TaskRow) :=
  if q.params.all SqlValue.storable then do
    let rows ← (table.filter q.selects).mapM q.apply
    let table ← table.mapM fun row => if q.selects row then q.apply row else some row
    return (table, rows)
  else none

inductive TaskBody where
  | empty
  | error (error : String)
  | task (row : TaskRow)

structure TaskReply where
  status : Nat
  body : TaskBody

/-- `patchTaskHandler`; `none` when it throws. What becomes of the `NOTIFY` does not matter. -/
def patchTaskHandler (table : List TaskRow) (now incidentId : Nat) (taskId : String) (body : Json) :
    Option (List TaskRow × TaskReply) :=
  match taskPatchSchema body with
  | none => some (table, ⟨400, .error "invalid body"⟩)
  | some data =>
    let u := data.assignments
    if u.fields.isEmpty then some (table, ⟨200, .empty⟩)
    else
      match (u.statement now incidentId taskId).run table with
      | none => none
      | some (table, []) => some (table, ⟨404, .empty⟩)
      | some (table, task :: _) => some (table, ⟨200, .task task⟩)

/-! ## What the body asks for -/

/-- The row with the fields that are given. -/
def TaskPatch.applied (data : TaskPatch) (row : TaskRow) : TaskRow :=
  { row with
    status := data.status.getD row.status
    title := data.title.getD row.title
    description := data.description.getD row.description
    assignee_upn := data.assigneeUpn.or row.assignee_upn }

def TaskRow.Is (row : TaskRow) (incidentId : Nat) (taskId : String) : Prop :=
  row.incident_id = incidentId ∧ row.task_id = taskId

instance (row : TaskRow) (incidentId : Nat) (taskId : String) : Decidable (row.Is incidentId taskId) :=
  inferInstanceAs (Decidable (_ ∧ _))

/-- The task gets what is given and keeps the rest but `updated_at`, and other rows are left alone. -/
def TaskPatch.Changes (data : TaskPatch) (incidentId : Nat) (taskId : String) (row row' : TaskRow) : Prop :=
  (row.Is incidentId taskId → row' = { data.applied row with updated_at := row'.updated_at }) ∧
    (¬ row.Is incidentId taskId → row' = row)

/-- The answer is 200 and the task is changed, or it is 404 and nothing is. -/
structure Patches (data : TaskPatch) (table : List TaskRow) (incidentId : Nat) (taskId : String)
    (table' : List TaskRow) (reply : TaskReply) : Prop where
  found : (∃ row ∈ table, row.Is incidentId taskId) →
    reply.status = 200 ∧ List.Forall₂ (data.Changes incidentId taskId) table table'
  missing : ¬ (∃ row ∈ table, row.Is incidentId taskId) → reply.status = 404 ∧ table' = table

/-- Nothing is given, unless a title or description that is empty. -/
def TaskPatch.Idle (data : TaskPatch) : Prop :=
  data.status = none ∧ data.title.getD "" = "" ∧ data.description.getD "" = "" ∧ data.assigneeUpn = none

/-- A title or description given as empty is so already, Postgres takes the texts, and if nothing else
is given then the task is there. -/
structure TaskPatch.Plain (data : TaskPatch) (table : List TaskRow) (incidentId : Nat) (taskId : String) : Prop where
  title : data.title = some "" → ∀ row ∈ table, row.Is incidentId taskId → row.title = ""
  description : data.description = some "" → ∀ row ∈ table, row.Is incidentId taskId → row.description = ""
  texts : ∀ s, s ∈ data.title ∨ s ∈ data.description ∨ s ∈ data.assigneeUpn → '\x00' ∉ s.toList
  idle : data.Idle → ∃ row ∈ table, row.Is incidentId taskId

/-! ## Placeholders -/

section
variable {u : Assignments} {values : List (TaskColumn × SqlValue)} {q : UpdateTasks}

/-- Each placeholder has the value of its column, whatever parameters follow. -/
structure Assignments.Binds (u : Assignments) (values : List (TaskColumn × SqlValue)) : Prop where
  fields : List.Forall₂ (fun f v => f.1 = v.1 ∧ ∀ later, (u.params ++ later)[f.2 - 1]? = some v.2) u.fields values
  params : u.params = values.map (·.2)

theorem binds_nil : (⟨[], []⟩ : Assignments).Binds [] := ⟨.nil, rfl⟩

theorem Assignments.Binds.push (h : u.Binds values) (c : TaskColumn) (v : SqlValue) :
    (u.push c v).Binds (values ++ [(c, v)]) := by
  constructor
  · refine List.rel_append (h.fields.imp fun f w hf => ?_) (.cons ⟨rfl, fun later => ?_⟩ .nil)
    · refine ⟨hf.1, fun later => ?_⟩
      rw [Assignments.push, List.append_assoc]
      exact hf.2 _
    · rw [Assignments.push, Nat.add_sub_cancel, List.append_assoc, List.getElem?_append_right (Nat.le_refl _), Nat.sub_self]
      rfl
  · rw [Assignments.push, h.params, List.map_append]
    rfl

/-- The value a text has for its column. -/
def textValue (c : TaskColumn) (s : Option String) : List (TaskColumn × SqlValue) := (s.map fun s => (c, .text s)).toList

theorem Assignments.Binds.pushText (h : u.Binds values) (c : TaskColumn) (s : Option String) :
    (u.pushText c s).Binds (values ++ textValue c s) := by
  cases s with
  | none => rwa [textValue, Option.map_none, Option.toList_none, List.append_nil]
  | some s => exact h.push c (.text s)

/-- A row is set from the values the placeholders stand for. -/
theorem apply_eq (h : List.Forall₂ (fun f v => f.1 = v.1 ∧ q.param f.2 = some v.2) q.set values) (row : TaskRow) :
    q.apply row = values.foldlM (fun row v => row.set v.1 v.2) row := by
  unfold UpdateTasks.apply
  generalize q.set = fields at h ⊢
  induction h generalizing row with
  | nil => rfl
  | cons hf _ ih =>
    rw [List.foldlM_cons, List.foldlM_cons, hf.1, hf.2, Option.bind_some]
    exact bind_congr fun row => ih row

end

/-! ## The statement of a body -/

section
variable {data : TaskPatch} {table : List TaskRow} {row : TaskRow} {now incidentId : Nat} {taskId : String}

/-- The columns that are set, and to what. -/
def TaskPatch.values (data : TaskPatch) : List (TaskColumn × SqlValue) :=
  textValue .status (orString data.status none) ++ textValue .title (orString data.title none) ++
    textValue .description (orString data.description none) ++ textValue .assignee_upn data.assigneeUpn

/-- The row with the fields that count. -/
def TaskPatch.counted (data : TaskPatch) (now : Nat) (row : TaskRow) : TaskRow :=
  { row with
    status := (orString data.status none).getD row.status
    title := (orString data.title none).getD row.title
    description := (orString data.description none).getD row.description
    assignee_upn := data.assigneeUpn.or row.assignee_upn
    updated_at := now }

theorem assignments_binds (data : TaskPatch) : data.assignments.Binds data.values :=
  (((binds_nil.pushText .status _).pushText .title _).pushText .description _).pushText .assignee_upn _

theorem statement_params (u : Assignments) (now incidentId : Nat) (taskId : String) :
    (u.statement now incidentId taskId).params = (u.params ++ [.date now]) ++ [.num incidentId, .taskId taskId] := by
  simp [Assignments.statement, Assignments.push]

theorem apply_statement (data : TaskPatch) (now incidentId : Nat) (taskId : String) (row : TaskRow) :
    (data.assignments.statement now incidentId taskId).apply row = some (data.counted now row) := by
  have hbinds := (assignments_binds data).push .updated_at (.date now)
  have hset : List.Forall₂ (fun f v => f.1 = v.1 ∧
      (data.assignments.statement now incidentId taskId).param f.2 = some v.2)
      (data.assignments.statement now incidentId taskId).set (data.values ++ [(.updated_at, .date now)]) := by
    refine hbinds.fields.imp fun f v hf => ⟨hf.1, ?_⟩
    rw [UpdateTasks.param, statement_params]
    exact hf.2 _
  rw [apply_eq hset, TaskPatch.values, TaskPatch.counted]
  cases orString data.status none <;> cases orString data.title none <;> cases orString data.description none <;>
    cases data.assigneeUpn <;> rfl

theorem selects_statement (u : Assignments) (now incidentId : Nat) (taskId : String) :
    (u.statement now incidentId taskId).selects = fun row => decide (row.Is incidentId taskId) := by
  have hlen : (u.statement now incidentId taskId).params.length = (u.params ++ [SqlValue.date now]).length + 2 := by
    rw [statement_params, List.length_append]
    rfl
  have hincident : (u.statement now incidentId taskId).param (u.statement now incidentId taskId).incident_id =
      some (.num incidentId) := by
    have hnumber : (u.statement now incidentId taskId).incident_id - 1 = (u.params ++ [SqlValue.date now]).length := by
      change (u.statement now incidentId taskId).params.length - 1 - 1 = _
      rw [hlen]
      omega
    rw [UpdateTasks.param, hnumber, statement_params, List.getElem?_append_right (Nat.le_refl _), Nat.sub_self]
    rfl
  have htask : (u.statement now incidentId taskId).param (u.statement now incidentId taskId).task_id =
      some (.taskId taskId) := by
    have hnumber : (u.statement now incidentId taskId).task_id - 1 = (u.params ++ [SqlValue.date now]).length + 1 := by
      change (u.statement now incidentId taskId).params.length - 1 = _
      rw [hlen]
      omega
    rw [UpdateTasks.param, hnumber, statement_params, List.getElem?_append_right (Nat.le_add_right ..), Nat.add_sub_cancel_left]
    rfl
  funext row
  rw [UpdateTasks.selects, hincident, htask, Bool.eq_iff_iff, decide_eq_true_iff]
  simp only [Option.some.injEq, SqlValue.num.injEq, SqlValue.taskId.injEq, Bool.and_eq_true, decide_eq_true_eq]
  exact and_congr eq_comm eq_comm

/-! ## What the table takes -/

theorem textValue_storable (c : TaskColumn) (o : Option String) :
    ((textValue c o).map (·.2)).all SqlValue.storable = true ↔ ∀ s ∈ o, '\x00' ∉ s.toList := by
  cases o <;> simp [textValue, SqlValue.storable]

/-- An empty text has no character zero. -/
theorem plain_orString (o : Option String) :
    (∀ s ∈ orString o none, '\x00' ∉ s.toList) ↔ ∀ s ∈ o, '\x00' ∉ s.toList := by
  simp only [Option.mem_def, orString_eq_some]
  refine forall_congr' fun s => ⟨fun h hs => ?_, fun h hs => h hs.1⟩
  by_cases he : s = ""
  · rw [he]
    decide
  · exact h ⟨hs, he⟩

theorem statement_storable (hstatus : ∀ s ∈ data.status, s ∈ taskStatuses) (now incidentId : Nat) (taskId : String) :
    (data.assignments.statement now incidentId taskId).params.all SqlValue.storable = true ↔
      ∀ s, s ∈ data.title ∨ s ∈ data.description ∨ s ∈ data.assigneeUpn → '\x00' ∉ s.toList := by
  have hplain : ∀ s ∈ data.status, '\x00' ∉ s.toList := by
    have hall : ∀ s ∈ taskStatuses, '\x00' ∉ s.toList := by decide
    exact fun s hs => hall s (hstatus s hs)
  have hrest : [SqlValue.date now, .num incidentId, .taskId taskId].all SqlValue.storable = true := rfl
  rw [statement_params, (assignments_binds data).params, List.append_assoc, List.singleton_append, List.all_append, hrest,
    Bool.and_true, TaskPatch.values]
  simp only [List.map_append, List.all_append, Bool.and_eq_true, textValue_storable, plain_orString]
  constructor
  · rintro ⟨⟨⟨-, htitle⟩, hdescription⟩, hassignee⟩ s (hs | hs | hs)
    · exact htitle s hs
    · exact hdescription s hs
    · exact hassignee s hs
  · intro h
    exact ⟨⟨⟨hplain, fun s hs => h s (.inl hs)⟩, fun s hs => h s (.inr (.inl hs))⟩, fun s hs => h s (.inr (.inr hs))⟩

/-- The table with the task updated, at the time `t` gives. -/
def TaskPatch.updated (data : TaskPatch) (incidentId : Nat) (taskId : String) (t : TaskRow → Nat) (table : List TaskRow) :
    List TaskRow :=
  table.map fun row => if row.Is incidentId taskId then data.counted (t row) row else row

theorem run_statement (hparams : (data.assignments.statement now incidentId taskId).params.all SqlValue.storable = true)
    (table : List TaskRow) : (data.assignments.statement now incidentId taskId).run table =
      some (data.updated incidentId taskId (fun _ => now) table,
        (table.filter fun row => row.Is incidentId taskId).map (data.counted now)) := by
  have hrows := mapM_eq_map (l := table.filter fun row => row.Is incidentId taskId)
    fun row _ => apply_statement data now incidentId taskId row
  have htable : table.mapM (fun row => if row.Is incidentId taskId then
      (data.assignments.statement now incidentId taskId).apply row else some row) =
      some (data.updated incidentId taskId (fun _ => now) table) := by
    apply mapM_eq_map
    intro row _
    rw [apply_statement]
    split <;> rfl
  rw [UpdateTasks.run, if_pos hparams, selects_statement]
  simp only [decide_eq_true_eq]
  rw [hrows, htable]
  rfl

/-! ## What becomes of the row -/

theorem counted_iff (hstatus : ∀ s ∈ data.status, s ∈ taskStatuses) (t : Nat) (row : TaskRow) :
    data.counted t row = { data.applied row with updated_at := (data.counted t row).updated_at } ↔
      (data.title = some "" → row.title = "") ∧ (data.description = some "" → row.description = "") := by
  have hs : (orString data.status none).getD row.status = data.status.getD row.status := by
    refine getD_orString.2 fun h => ?_
    exact absurd (hstatus "" h) (by decide)
  rw [← getD_orString, ← getD_orString]
  simp [TaskPatch.counted, TaskPatch.applied, hs]

theorem textValue_eq_nil {c : TaskColumn} {o : Option String} : textValue c o = [] ↔ o = none := by
  cases o <;> simp [textValue]

theorem orString_eq_none {o : Option String} : orString o none = none ↔ o.getD "" = "" := by
  cases o with
  | none => simp [orString]
  | some s =>
    by_cases hs : s = ""
    · simp [hs, orString]
    · simp [orString_ne hs, hs]

/-- No field counts just when the body is idle. -/
theorem fields_eq_nil_iff (hstatus : ∀ s ∈ data.status, s ∈ taskStatuses) : data.assignments.fields = [] ↔ data.Idle := by
  have hvalues : data.assignments.fields = [] ↔ data.values = [] := by
    rw [← List.length_eq_zero_iff, (assignments_binds data).fields.length_eq, List.length_eq_zero_iff]
  rw [hvalues, TaskPatch.values]
  simp only [List.append_eq_nil_iff, textValue_eq_nil, orString_eq_none, and_assoc]
  refine and_congr ⟨fun h => ?_, fun h => by rw [h]; rfl⟩ Iff.rfl
  cases hs : data.status with
  | none => rfl
  | some s =>
    rw [hs, Option.getD_some] at h
    exact absurd (hstatus s hs) (by rw [h]; decide)

/-- An idle body leaves the row as it is. -/
theorem TaskPatch.Idle.counted (h : data.Idle) (row : TaskRow) : data.counted row.updated_at row = row := by
  obtain ⟨hs, ht, hd, ha⟩ := h
  rw [TaskPatch.counted, hs, orString_eq_none.2 ht, orString_eq_none.2 hd, ha]
  rfl

theorem TaskPatch.Idle.texts (h : data.Idle) {s : String} (hs : s ∈ data.title ∨ s ∈ data.description ∨ s ∈ data.assigneeUpn) :
    '\x00' ∉ s.toList := by
  obtain ⟨-, ht, hd, ha⟩ := h
  rcases hs with hs | hs | hs
  · rw [Option.mem_def.1 hs, Option.getD_some] at ht
    rw [ht]
    decide
  · rw [Option.mem_def.1 hs, Option.getD_some] at hd
    rw [hd]
    decide
  · cases ha.symm.trans hs

theorem taskPatchSchema_status {body : Json} (h : taskPatchSchema body = some data) : ∀ s ∈ data.status, s ∈ taskStatuses := by
  cases body with
  | obj fields =>
    obtain ⟨status, -, h⟩ := Option.bind_eq_some_iff.1 h
    obtain ⟨title, -, h⟩ := Option.bind_eq_some_iff.1 h
    obtain ⟨description, -, h⟩ := Option.bind_eq_some_iff.1 h
    obtain ⟨assigneeUpn, -, h⟩ := Option.bind_eq_some_iff.1 h
    split at h
    · rename_i hall
      rw [← Option.some.inj h]
      intro s hs
      have hs' : status = some s := hs
      rw [hs'] at hall
      simpa using hall
    · cases h
  | _ => cases h

/-- An update changes the task as the body asks for when no text given as empty stays. -/
theorem changes_updated (incidentId : Nat) (taskId : String) (hstatus : ∀ s ∈ data.status, s ∈ taskStatuses) (t : TaskRow → Nat) (table : List TaskRow) :
    List.Forall₂ (data.Changes incidentId taskId) table (data.updated incidentId taskId t table) ↔
      (data.title = some "" → ∀ row ∈ table, row.Is incidentId taskId → row.title = "") ∧
        (data.description = some "" → ∀ row ∈ table, row.Is incidentId taskId → row.description = "") := by
  have hone : ∀ row, data.Changes incidentId taskId row (if row.Is incidentId taskId then data.counted (t row) row else row) ↔
      (row.Is incidentId taskId →
        (data.title = some "" → row.title = "") ∧ (data.description = some "" → row.description = "")) := by
    intro row
    by_cases his : row.Is incidentId taskId
    · rw [if_pos his, ← counted_iff hstatus (t row) row]
      exact ⟨fun h => h.1, fun h => ⟨h, fun hnot => absurd his hnot⟩⟩
    · rw [if_neg his]
      exact ⟨fun _ h => absurd h his, fun _ => ⟨fun h => absurd h his, fun _ => rfl⟩⟩
  rw [TaskPatch.updated, List.forall₂_map_right_iff, List.forall₂_same]
  simp only [hone]
  constructor
  · intro h
    exact ⟨fun ht row hrow his => (h row hrow his).1 ht, fun hd row hrow his => (h row hrow his).2 hd⟩
  · rintro ⟨ht, hd⟩ row hrow his
    exact ⟨fun h => ht h row hrow his, fun h => hd h row hrow his⟩

theorem TaskPatch.Idle.updated (h : data.Idle) : data.updated incidentId taskId (·.updated_at) table = table := by
  conv_rhs => rw [← List.map_id table]
  refine List.map_congr_left fun row _ => ?_
  rw [h.counted, ite_self, id]

theorem updated_missing {t : TaskRow → Nat} (h : ¬ ∃ row ∈ table, row.Is incidentId taskId) :
    data.updated incidentId taskId t table = table := by
  conv_rhs => rw [← List.map_id table]
  exact List.map_congr_left fun row hrow => if_neg fun his => h ⟨row, hrow, his⟩

/-! ## The answers -/

/-- A body of which no field counts is answered as if all were well. -/
theorem patchTask_nothing {body : Json} (h : taskPatchSchema body = some data) (hnil : data.assignments.fields = [])
    (table : List TaskRow) (now incidentId : Nat) (taskId : String) :
    patchTaskHandler table now incidentId taskId body = some (table, ⟨200, .empty⟩) := by
  rw [patchTaskHandler, h]
  dsimp only
  rw [hnil]
  rfl

/-- The answer to any other is what the statement comes to. -/
theorem patchTask_update {body : Json} (h : taskPatchSchema body = some data) (hne : data.assignments.fields ≠ [])
    (table : List TaskRow) (now incidentId : Nat) (taskId : String) :
    patchTaskHandler table now incidentId taskId body =
      match (data.assignments.statement now incidentId taskId).run table with
      | none => none
      | some (table, []) => some (table, ⟨404, .empty⟩)
      | some (table, task :: _) => some (table, ⟨200, .task task⟩) := by
  have hempty : data.assignments.fields.isEmpty = false := by simpa using hne
  rw [patchTaskHandler, h]
  dsimp only
  rw [hempty]
  rfl

section
variable {body : Json} (h : taskPatchSchema body = some data) (hne : data.assignments.fields ≠ [])
include h hne

/-- Without the task nothing changes. -/
theorem patchTask_missing (hparams : (data.assignments.statement now incidentId taskId).params.all SqlValue.storable = true)
    (hmissing : ¬ ∃ row ∈ table, row.Is incidentId taskId) :
    patchTaskHandler table now incidentId taskId body = some (table, ⟨404, .empty⟩) := by
  have hnone : (table.filter fun row => row.Is incidentId taskId) = [] := by
    rw [List.filter_eq_nil_iff]
    exact fun row hrow his => hmissing ⟨row, hrow, of_decide_eq_true his⟩
  rw [patchTask_update h hne, run_statement hparams, hnone, updated_missing hmissing]
  rfl

/-- With the task its row is changed. -/
theorem patchTask_found (hparams : (data.assignments.statement now incidentId taskId).params.all SqlValue.storable = true)
    (hthere : ∃ row ∈ table, row.Is incidentId taskId) : ∃ task, patchTaskHandler table now incidentId taskId body =
      some (data.updated incidentId taskId (fun _ => now) table, ⟨200, .task task⟩) := by
  obtain ⟨row, hrow, his⟩ := hthere
  have hmem : row ∈ table.filter fun row => row.Is incidentId taskId := List.mem_filter.2 ⟨hrow, decide_eq_true his⟩
  rw [patchTask_update h hne, run_statement hparams]
  cases hrows : table.filter fun row => row.Is incidentId taskId with
  | nil =>
    rw [hrows] at hmem
    cases hmem
  | cons first rest => exact ⟨_, rfl⟩

/-- A text Postgres does not take. -/
theorem patchTask_refused (hparams : ¬ (data.assignments.statement now incidentId taskId).params.all SqlValue.storable = true)
    (table : List TaskRow) : patchTaskHandler table now incidentId taskId body = none := by
  have hrefused : (data.assignments.statement now incidentId taskId).run table = none := if_neg hparams
  rw [patchTask_update h hne, hrefused]

end

end

/-- The row is what the body asks for and the rest as it was just when the body gives no title or description
as empty that was not, no text holds U+0000, and something else is given or the task is there. -/
theorem patchTask_iff {body : Json} {data : TaskPatch} (h : taskPatchSchema body = some data) (table : List TaskRow)
    (now incidentId : Nat) (taskId : String) :
    (∃ table' reply, patchTaskHandler table now incidentId taskId body = some (table', reply) ∧
      Patches data table incidentId taskId table' reply) ↔ data.Plain table incidentId taskId := by
  have hstatus := taskPatchSchema_status h
  have hstorable := statement_storable hstatus now incidentId taskId
  by_cases hidle : data.Idle
  · rw [patchTask_nothing h ((fields_eq_nil_iff hstatus).2 hidle)]
    have hchanges := changes_updated incidentId taskId hstatus (·.updated_at) table
    rw [hidle.updated] at hchanges
    constructor
    · rintro ⟨table', reply, hreply, hpatches⟩
      obtain ⟨rfl, rfl⟩ := Prod.mk.inj (Option.some.inj hreply)
      have hthere : ∃ row ∈ table, row.Is incidentId taskId := by
        by_contra hnot
        cases (hpatches.missing hnot).1
      obtain ⟨ht, hd⟩ := hchanges.1 (hpatches.found hthere).2
      exact ⟨ht, hd, fun s hs => hidle.texts hs, fun _ => hthere⟩
    · intro hplain
      refine ⟨table, ⟨200, .empty⟩, rfl, fun _ => ⟨rfl, hchanges.2 ⟨hplain.title, hplain.description⟩⟩, fun hnot => ?_⟩
      exact absurd (hplain.idle hidle) hnot
  · have hne : data.assignments.fields ≠ [] := fun hnil => hidle ((fields_eq_nil_iff hstatus).1 hnil)
    have hchanges := changes_updated incidentId taskId hstatus (fun _ => now) table
    constructor
    · rintro ⟨table', reply, hreply, hpatches⟩
      have hparams : (data.assignments.statement now incidentId taskId).params.all SqlValue.storable = true := by
        by_contra hparams
        cases (patchTask_refused h hne hparams table).symm.trans hreply
      have hset : (∃ row ∈ table, row.Is incidentId taskId) →
          List.Forall₂ (data.Changes incidentId taskId) table (data.updated incidentId taskId (fun _ => now) table) := by
        intro hthere
        obtain ⟨task, htask⟩ := patchTask_found h hne hparams hthere
        obtain ⟨rfl, -⟩ := Prod.mk.inj (Option.some.inj (htask.symm.trans hreply))
        exact (hpatches.found hthere).2
      refine ⟨fun hempty row hrow his => ?_, fun hempty row hrow his => ?_, hstorable.1 hparams, fun h => absurd h hidle⟩
      · exact (hchanges.1 (hset ⟨row, hrow, his⟩)).1 hempty row hrow his
      · exact (hchanges.1 (hset ⟨row, hrow, his⟩)).2 hempty row hrow his
    · intro hplain
      have hparams := hstorable.2 hplain.texts
      by_cases hthere : ∃ row ∈ table, row.Is incidentId taskId
      · obtain ⟨task, htask⟩ := patchTask_found h hne hparams hthere
        exact ⟨_, _, htask, fun _ => ⟨rfl, hchanges.2 ⟨hplain.title, hplain.description⟩⟩, fun hnot => absurd hthere hnot⟩
      · exact ⟨_, _, patchTask_missing h hne hparams hthere, fun hfound => absurd hfound hthere, fun _ => ⟨rfl, rfl⟩⟩

/-- An open task. -/
def TaskRow.sample : TaskRow := ⟨"t1", 1, "OPS", none, "Pump", "Check the pump", "open", "ana", 0, 0⟩

/-- A task is done. -/
theorem patchTask_done : ∃ table' reply,
    patchTaskHandler [TaskRow.sample] 5 1 "t1" (.obj [("status", .str "done")]) = some (table', reply) ∧
      Patches ⟨some "done", none, none, none⟩ [TaskRow.sample] 1 "t1" table' reply := by
  refine (patchTask_iff rfl [TaskRow.sample] 5 1 "t1").2 ⟨?_, ?_, ?_, ?_⟩
  · intro h
    cases h
  · intro h
    cases h
  · rintro s (h | h | h) <;> cases h
  · intro h
    cases h.1

/-- An empty description is answered as if it had been set, and the old one stays. -/
theorem patchTask_empty : taskPatchSchema (.obj [("description", .str "")]) = some ⟨none, none, some "", none⟩ ∧
    ¬ ∃ table' reply, patchTaskHandler [TaskRow.sample] 5 1 "t1" (.obj [("description", .str "")]) = some (table', reply) ∧
      Patches ⟨none, none, some "", none⟩ [TaskRow.sample] 1 "t1" table' reply := by
  refine ⟨rfl, ?_⟩
  rintro ⟨table', reply, hreply, hpatches⟩
  have htable : [TaskRow.sample] = table' := (Prod.mk.inj (Option.some.inj hreply)).1
  have his : TaskRow.sample.Is 1 "t1" := ⟨rfl, rfl⟩
  have hchanges := (hpatches.found ⟨TaskRow.sample, by simp, his⟩).2
  rw [← htable, List.forall₂_cons] at hchanges
  have hdescription := congrArg TaskRow.description (hchanges.1.1 his)
  change "Check the pump" = "" at hdescription
  exact absurd hdescription (by decide)

end Tactix.IncidentSvc
