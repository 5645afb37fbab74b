import Mathlib.Data.Int.ConditionallyCompleteOrder
import Mathlib.Data.List.Nodup
import Mathlib.Order.ConditionallyCompleteLattice.Basic
import Tactix.Js
import Tactix.Lib.Intervals
/-!
# The schedule's tables

`cp_roster` and `cp_shifts` with the constraints of their migration, and the
queries of `schedule.repo.ts` and `schedule.service.ts` with the answers
Postgres gives them.
-/
open Tactix.Js ServiceLib

namespace Tactix.Schedule

/-- The environment of a start, and how texts are read. -/
structure Env where
  SHIFT_MAX_HOURS : Number
  ALLOW_OVERSIZE_SHIFTS : Bool
  SCHEDULE_HORIZON_DAYS : Number
  /-- The instant of a time text in milliseconds, `none` when the date is invalid.
  JavaScript and Postgres read the same. -/
  instant : String → Option Int
  instant_empty : instant "" = none
  /-- The UUID a text stands for, as Postgres prints it, `none` when it refuses the text. -/
  uuid : String → Option String

structure ShiftInput where
  userUpn : String
  role : String
  startsAt : String
  endsAt : String
  notes : Option String

/-- `Partial<ShiftInput>`. -/
structure ShiftPatch where
  userUpn : Option String
  role : Option String
  startsAt : Option String
  endsAt : Option String
  notes : Option String

/-- A row of `cp_shifts`; `ordered` is the table's check. -/
structure ShiftRow where
  shift_id : String
  operation_id : String
  user_upn : String
  role : String
  starts_at : Int
  ends_at : Int
  notes : Option String
  created_by : String
  created_at : Int
  updated_at : Int
  ordered : starts_at < ends_at

/-- `cp_shifts` with its primary key. -/
structure Shifts where
  rows : List ShiftRow
  primary : (rows.map (·.shift_id)).Nodup

structure RosterRow where
  operation_id : String
  user_upn : String
  role : String
  display_name : Option String
  active : Bool

/-- `cp_roster` with its unique key. -/
structure Roster where
  rows : List RosterRow
  unique : (rows.map fun r => (r.operation_id, r.user_upn, r.role)).Nodup

/-- The shift an envelope carries. -/
structure ShiftPart where
  shiftId : Option String
  userUpn : Option String
  role : Option String
  startsAt : Option Int
  endsAt : Option Int
  notes : String
  deriving DecidableEq

/-- What is sent on `tactix_events`. -/
inductive Envelope where
  | SCHEDULE_SHIFT_CREATED (operationId : String) (shift : ShiftPart)
  | SCHEDULE_SHIFT_UPDATED (operationId : String) (shift : ShiftPart)
  | SCHEDULE_SHIFT_DELETED (operationId shiftId : String)

/-- The database, and the notifications sent so far. -/
structure Db where
  cp_shifts : Shifts
  cp_roster : Roster
  notified : List Envelope

/-! ## Queries -/

/-- The `SET` list of an update. -/
structure ShiftFields where
  user_upn : Option String
  role : Option String
  starts_at : Option String
  ends_at : Option String
  notes : Option String

/-- The queries, with their parameters. A parameter that is `none` is `undefined`. -/
inductive Query where
  | getShift (opId shiftId : String)
  | rosterExists (opId : String) (userUpn : Option String) (role : String)
  /-- The two conflict queries; the one of `updateShift` leaves out `except`. -/
  | conflict (opId : String) (userUpn : Option String) (role : String) (except startsAt endsAt : Option String)
  | insertShift (opId : String) (input : ShiftInput) (createdBy : String)
  | updateShift (fields : ShiftFields) (opId shiftId : String)
  | deleteShift (opId shiftId : String)
  | listShifts (opId : String) (fromTo : Option (String × String)) (role user : Option String)
  | listActiveAt (opId atIso : String)
  | notify (envelope : Envelope)

/-- The columns `listActiveAt` selects. -/
structure ActiveRow where
  shift_id : String
  user_upn : String
  role : String
  ends_at : Int
  display_name : Option String

/-- What the code reads of a query's `rows`. -/
def Query.Rows : Query → Type
  | getShift .. => Option ShiftRow
  | rosterExists .. => Nat
  | conflict .. => Option String
  | insertShift .. => ShiftRow
  | updateShift .. => Option ShiftRow
  | deleteShift .. => Unit
  | listShifts .. => List ShiftRow
  | listActiveAt .. => List ActiveRow
  | notify _ => Unit

/-- A reply; `none` when the query is rejected. -/
abbrev Query.Reply (q : Query) : Type := Option q.Rows

/-- The `WHERE` clause of the conflict queries. -/
def ShiftRow.Conflicts (env : Env) (row : ShiftRow) (opId : String) (userUpn : Option String) (role : String)
    (except startsAt endsAt : Option String) : Prop :=
  env.uuid opId = some row.operation_id ∧ userUpn = some row.user_upn ∧ row.role = role ∧
    (∀ id, except = some id → env.uuid id ≠ some row.shift_id) ∧
    ∃ s e, startsAt.bind env.instant = some s ∧ endsAt.bind env.instant = some e ∧ Crosses row.starts_at row.ends_at s e

/-- The row an `UPDATE` makes of `row`. -/
def ShiftFields.Updates (env : Env) (fields : ShiftFields) (row row' : ShiftRow) : Prop :=
  row'.shift_id = row.shift_id ∧ row'.operation_id = row.operation_id ∧ row'.created_by = row.created_by ∧
    row'.created_at = row.created_at ∧ row'.user_upn = fields.user_upn.getD row.user_upn ∧
    row'.role = fields.role.getD row.role ∧
    (fields.starts_at.elim (some row.starts_at) env.instant = some row'.starts_at) ∧
    (fields.ends_at.elim (some row.ends_at) env.instant = some row'.ends_at) ∧ row'.notes = fields.notes.or row.notes

/-- The row an `INSERT` adds. -/
def ShiftInput.Inserts (env : Env) (input : ShiftInput) (opId createdBy : String) (row : ShiftRow) : Prop :=
  env.uuid opId = some row.operation_id ∧ row.user_upn = input.userUpn ∧ row.role = input.role ∧
    env.instant input.startsAt = some row.starts_at ∧ env.instant input.endsAt = some row.ends_at ∧
    row.notes = input.notes ∧ row.created_by = createdBy

/-- `LEFT JOIN cp_roster`. -/
def Db.withRoster (d : Db) (s : ShiftRow) : List ActiveRow :=
  match d.cp_roster.rows.filter fun r => r.operation_id = s.operation_id ∧ r.user_upn = s.user_upn ∧ r.role = s.role with
  | [] => [⟨s.shift_id, s.user_upn, s.role, s.ends_at, none⟩]
  | rs => rs.map fun r => ⟨s.shift_id, s.user_upn, s.role, s.ends_at, r.display_name⟩

/-- The database after a statement that leaves `rows` in `cp_shifts`. -/
def Db.Sets (d : Db) (rows : List ShiftRow) (d' : Db) : Prop :=
  d'.cp_shifts.rows = rows ∧ d'.cp_roster = d.cp_roster ∧ d'.notified = d.notified

/-- The rows a query may return, and the database after it. Without `ORDER BY` any
order of the rows is right, and with `LIMIT 1` any of them. -/
def Db.Returns (env : Env) (d : Db) (d' : Db) : (q : Query) → q.Rows → Prop
  | .getShift opId shiftId, (row : Option ShiftRow) =>
    ∃ o i, env.uuid opId = some o ∧ env.uuid shiftId = some i ∧ d' = d ∧
      row = d.cp_shifts.rows.find? fun r => r.operation_id = o ∧ r.shift_id = i
  | .rosterExists opId userUpn role, (n : Nat) =>
    ∃ o, env.uuid opId = some o ∧ d' = d ∧ n = d.cp_roster.rows.countP fun r =>
      r.operation_id = o ∧ some r.user_upn = userUpn ∧ r.role = role ∧ r.active
  | .conflict opId userUpn role except startsAt endsAt, (id : Option String) =>
    d' = d ∧ match id with
      | some id => ∃ row ∈ d.cp_shifts.rows, row.shift_id = id ∧ row.Conflicts env opId userUpn role except startsAt endsAt
      | none => ∀ row ∈ d.cp_shifts.rows, ¬ row.Conflicts env opId userUpn role except startsAt endsAt
  | .insertShift opId input createdBy, (row : ShiftRow) =>
    input.Inserts env opId createdBy row ∧ row.shift_id ∉ d.cp_shifts.rows.map (·.shift_id) ∧
      d.Sets (d.cp_shifts.rows ++ [row]) d'
  | .updateShift fields opId shiftId, (row : Option ShiftRow) =>
    ∃ o i, env.uuid opId = some o ∧ env.uuid shiftId = some i ∧ match row with
      | none => d' = d ∧ ∀ r ∈ d.cp_shifts.rows, ¬ (r.operation_id = o ∧ r.shift_id = i)
      | some row' => ∃ row ∈ d.cp_shifts.rows, row.operation_id = o ∧ row.shift_id = i ∧ fields.Updates env row row' ∧
          d.Sets (d.cp_shifts.rows.map fun r => if r.shift_id = i then row' else r) d'
  | .deleteShift opId shiftId, (_ : Unit) =>
    ∃ o i, env.uuid opId = some o ∧ env.uuid shiftId = some i ∧
      d.Sets (d.cp_shifts.rows.filter fun r => ¬ (r.operation_id = o ∧ r.shift_id = i)) d'
  | .listShifts opId fromTo role user, (rows : List ShiftRow) =>
    ∃ o, env.uuid opId = some o ∧ d' = d ∧ ∃ span : Option (Int × Int),
      fromTo.map (fun p => (env.instant p.1, env.instant p.2)) = span.map (fun p => (some p.1, some p.2)) ∧
      rows.Perm (d.cp_shifts.rows.filter fun r => r.operation_id = o ∧
        (∀ p ∈ span, r.starts_at < p.2 ∧ p.1 < r.ends_at) ∧ (∀ x ∈ role, r.role = x) ∧ (∀ x ∈ user, r.user_upn = x))
  | .listActiveAt opId atIso, (rows : List ActiveRow) =>
    ∃ o t, env.uuid opId = some o ∧ env.instant atIso = some t ∧ d' = d ∧
      rows.Perm
        ((d.cp_shifts.rows.filter fun r => r.operation_id = o ∧ r.starts_at ≤ t ∧ t < r.ends_at).flatMap d.withRoster)
  | .notify e, (_ : Unit) => d' = { d with notified := d.notified ++ [e] }

/-- A query is rejected, for whatever reason and then without effect, or it
returns rows. -/
def answers (env : Env) (d : Db) (q : Query) (a : q.Reply) (d' : Db) : Prop :=
  match a with
  | none => d' = d
  | some rows => d.Returns env d' q rows

/-! ## Shifts that overlap -/

/-- The same operation, user and role. -/
def SameDuty (a b : ShiftRow) : Prop := a.operation_id = b.operation_id ∧ a.user_upn = b.user_upn ∧ a.role = b.role

def ShiftRow.span (row : ShiftRow) : Set Int := Set.Ico row.starts_at row.ends_at

/-- No two shifts of one user in one role overlap. -/
def Apart (rows : List ShiftRow) : Prop :=
  ∀ a ∈ rows, ∀ b ∈ rows, a.shift_id ≠ b.shift_id → SameDuty a b → ¬ (a.span ∩ b.span).Nonempty

theorem SameDuty.symm {a b : ShiftRow} (h : SameDuty a b) : SameDuty b a := ⟨h.1.symm, h.2.1.symm, h.2.2.symm⟩

theorem span_inter {a b : ShiftRow} : (a.span ∩ b.span).Nonempty ↔ Crosses a.starts_at a.ends_at b.starts_at b.ends_at :=
  (crosses_iff a.ordered b.ordered).symm

/-- Putting in a row that is apart from the rows with other ids. -/
theorem Apart.put {rows rows' : List ShiftRow} {new : ShiftRow} (h : Apart rows)
    (hrows : ∀ r ∈ rows', r = new ∨ (r ∈ rows ∧ r.shift_id ≠ new.shift_id))
    (hfree : ∀ r ∈ rows, r.shift_id ≠ new.shift_id → SameDuty r new → ¬ (r.span ∩ new.span).Nonempty) :
    Apart rows' := by
  intro a ha b hb hid hduty
  rcases hrows a ha with rfl | ⟨ha, hna⟩ <;> rcases hrows b hb with rfl | ⟨hb, hnb⟩
  · exact absurd rfl hid
  · rw [Set.inter_comm]
    exact hfree b hb hnb hduty.symm
  · exact hfree a ha hna hduty
  · exact h a ha b hb hid hduty

theorem Apart.sub {rows rows' : List ShiftRow} (h : Apart rows) (hrows : ∀ r ∈ rows', r ∈ rows) : Apart rows' :=
  fun a ha b hb => h a (hrows a ha) b (hrows b hb)

theorem Shifts.eq_of_id {t : Shifts} {a b : ShiftRow} (ha : a ∈ t.rows) (hb : b ∈ t.rows) (h : a.shift_id = b.shift_id) :
    a = b :=
  List.inj_on_of_nodup_map t.primary ha hb h

/-- What an update leaves in the table: the new row, and the others as they were. -/
theorem mem_replaced {rows : List ShiftRow} {id : String} {row' r : ShiftRow}
    (hr : r ∈ rows.map fun r => if r.shift_id = id then row' else r) : r = row' ∨ (r ∈ rows ∧ r.shift_id ≠ id) := by
  obtain ⟨r', hr', rfl⟩ := List.mem_map.1 hr
  split
  · exact .inl rfl
  · exact .inr ⟨hr', ‹_›⟩

/-- The database of a start, with any roster. -/
def Db.start (roster : Roster) : Db := ⟨⟨[], List.nodup_nil⟩, roster, []⟩

/-! ## Values for concrete runs -/

/-- The defaults, the times of one day, and some UUIDs as Postgres prints them. -/
def Env.sample : Env where
  SHIFT_MAX_HOURS := .fin 48
  ALLOW_OVERSIZE_SHIFTS := false
  SCHEDULE_HORIZON_DAYS := .fin 365
  instant text := [("2025-08-17T10:00:00Z", 1755424800000), ("2025-08-17T12:00:00Z", 1755432000000),
    ("2025-08-17T14:00:00Z", 1755439200000), ("2025-08-17T16:00:00Z", 1755446400000)].lookup text
  instant_empty := by decide
  uuid text := if text ∈ ["00000000-0000-0000-0000-000000000001", "00000000-0000-0000-0000-000000000002",
    "00000000-0000-0000-0000-00000000000a", "00000000-0000-0000-0000-00000000000b"] then some text else none

namespace Sample

def op : String := "00000000-0000-0000-0000-000000000001"

def roster : Roster := ⟨[⟨op, "ana", "IMO", none, true⟩, ⟨op, "", "IMO", none, true⟩], by decide⟩

/-- Ana is to be on duty from ten to twelve, or from two to four. -/
def morning : ShiftInput := ⟨"ana", "IMO", "2025-08-17T10:00:00Z", "2025-08-17T12:00:00Z", none⟩

def afternoon : ShiftInput := ⟨"ana", "IMO", "2025-08-17T14:00:00Z", "2025-08-17T16:00:00Z", none⟩

def rowA : ShiftRow :=
  ⟨"00000000-0000-0000-0000-00000000000a", op, "ana", "IMO", 1755424800000, 1755432000000, none, "system", 0, 0, by decide⟩

def rowB : ShiftRow :=
  ⟨"00000000-0000-0000-0000-00000000000b", op, "ana", "IMO", 1755439200000, 1755446400000, none, "system", 0, 0, by decide⟩

end Sample

end Tactix.Schedule
