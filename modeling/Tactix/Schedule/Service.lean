import Mathlib.Data.List.Sort
import Tactix.Lib.Async
import Tactix.Schedule.Store
/-!
# The schedule service

`schedule.service.ts` over `schedule.repo.ts`. The shared memory is the clock,
`Date.now()`. Every call of `client.query` waits for its reply.
-/
open Tactix.Js ServiceLib

namespace Tactix.Schedule

/-- The `body` of a thrown error. -/
inductive ErrorBody where
  | invalid_time
  | out_of_horizon
  | duration_exceeds_max (maxHours : Number)
  | not_in_roster
  | overlap (conflictingShiftId : String)
  | not_found

inductive Error where
  /-- `throwErr(status, body)`. -/
  | thrown (status : Nat) (body : ErrorBody)
  /-- The rejection of a query. -/
  | rejected
  | typeError

abbrev Svc := Prog Int Query Query.Reply Error

def throwErr {α : Type} (status : Nat) (body : ErrorBody) : Svc α := .raise (.thrown status body)

/-- `await client.query(...)`. -/
def query (q : Query) : Svc q.Rows :=
  .await q fun
    | some rows => .ret rows
    | none => .raise .rejected

/-- `try { await client.query('NOTIFY tactix_events, $1', ...) } catch (_) {}`. -/
def notify (envelope : Envelope) : Svc Unit := .await (.notify envelope) fun _ => .ret ()

/-! ## `schedule.repo.ts` -/

/-- The properties callers read of a row the repository returns. -/
structure ShiftView where
  shiftId : Option String
  operationId : Option String
  userUpn : Option String
  role : Option String
  startsAt : Option Int
  endsAt : Option Int
  notes : Option String
  createdBy : Option String
  createdAt : Option Int
  updatedAt : Option Int

def camel (row : ShiftRow) : ShiftView :=
  ⟨some row.shift_id, some row.operation_id, some row.user_upn, some row.role, some row.starts_at, some row.ends_at,
    row.notes, some row.created_by, some row.created_at, some row.updated_at⟩

/-- A row as it comes: only `role` and `notes` are columns of that name. -/
def raw (row : ShiftRow) : ShiftView := ⟨none, none, none, some row.role, none, none, row.notes, none, none, none⟩

/-- `!fields.length`. -/
def ShiftFields.isEmpty (f : ShiftFields) : Bool :=
  f.user_upn.isNone && f.role.isNone && f.starts_at.isNone && f.ends_at.isNone && f.notes.isNone

namespace Repo

def getShift (opId shiftId : String) : Svc (Option ShiftRow) := query (.getShift opId shiftId)

def rosterExists (opId : String) (userUpn : Option String) (role : String) : Svc Bool := do
  let rows : Nat ← query (.rosterExists opId userUpn role)
  return rows > 0

def createShift (opId : String) (input : ShiftInput) (createdBy : String) : Svc ShiftView := do
  let row ← query (.insertShift opId input createdBy)
  return camel row

/-- The `SET` list of a patch: a field of it counts when it is truthy, `notes` when
it is there. -/
def fields (patch : ShiftPatch) : ShiftFields :=
  ⟨orString patch.userUpn none, orString patch.role none, orString patch.startsAt none, orString patch.endsAt none,
    patch.notes⟩

def updateShift (opId shiftId : String) (patch : ShiftPatch) : Svc (Option ShiftView) :=
  if (fields patch).isEmpty then do
    let row ← getShift opId shiftId
    return row.map raw
  else do
    let row : Option ShiftRow ← query (.updateShift (fields patch) opId shiftId)
    return row.map camel

def deleteShift (opId shiftId : String) : Svc Unit := query (.deleteShift opId shiftId)

/-- The bounds count only when both are there and not empty. -/
def listShifts (opId : String) (from' to' role user : Option String) : Svc (List ShiftRow) :=
  let fromTo := (orString from' none).bind fun f => (orString to' none).map fun t => (f, t)
  query (.listShifts opId fromTo (orString role none) (orString user none))

def listActiveAt (opId atIso : String) : Svc (List ActiveRow) := query (.listActiveAt opId atIso)

end Repo

/-! ## `schedule.service.ts` -/

/-- `durationHours` of `lib/time.ts`, on dates in milliseconds. -/
def durationHours (startsAt endsAt : Int) : Rat := ((endsAt - startsAt : Int) : Rat) / 3600000

def withinHorizon (env : Env) (now date : Int) : Bool :=
  (env.SCHEDULE_HORIZON_DAYS.scale 86400000).ge (date - now).natAbs

/-- The checks on the dates both calls begin with. A comparison with an invalid
date is false. -/
def checkDates (env : Env) (now : Int) (startsAt endsAt : Option String) : Except Error Unit :=
  match startsAt.bind env.instant, endsAt.bind env.instant with
  | some start, some stop =>
    if ¬ start < stop then .error (.thrown 400 .invalid_time)
    else if !withinHorizon env now start || !withinHorizon env now stop then .error (.thrown 400 .out_of_horizon)
    else if env.SHIFT_MAX_HOURS.lt (durationHours start stop) && !env.ALLOW_OVERSIZE_SHIFTS then
      .error (.thrown 400 (.duration_exceeds_max env.SHIFT_MAX_HOURS))
    else .ok ()
  | _, _ => .error (.thrown 400 .invalid_time)

/-- The `shift` of an envelope. -/
def ShiftView.part (row : ShiftView) : ShiftPart :=
  ⟨row.shiftId, row.userUpn, row.role, row.startsAt, row.endsAt, row.notes.getD ""⟩

/-- The checks both calls make, line for line the same but for `except`: the dates,
the roster, the conflict query. -/
def check (env : Env) (opId : String) (userUpn : Option String) (role : String)
    (except startsAt endsAt : Option String) : Svc Unit := do
  let now ← Prog.read
  Prog.ofExcept (checkDates env now startsAt endsAt)
  let rosterOk ← Repo.rosterExists opId userUpn role
  if !rosterOk then throwErr 400 .not_in_roster
  else
    let conflict : Option String ← query (.conflict opId userUpn role except startsAt endsAt)
    match conflict with
    | some id => throwErr 409 (.overlap id)
    | none => return ()

def createShift (env : Env) (opId : String) (input : ShiftInput) (createdBy : String) : Svc ShiftView := do
  check env opId (some input.userUpn) input.role none (some input.startsAt) (some input.endsAt)
  let row ← Repo.createShift opId input createdBy
  notify (.SCHEDULE_SHIFT_CREATED opId row.part)
  return row

def updateShift (env : Env) (opId shiftId : String) (patch : ShiftPatch) : Svc ShiftView := do
  let existing ← Repo.getShift opId shiftId
  match existing with
  | none => throwErr 404 .not_found
  | some existing =>
    -- `next = { ...existing, ...patch }`: of the row's columns only `role` has a name the patch uses.
    check env opId patch.userUpn (patch.role.getD existing.role) (some shiftId) patch.startsAt patch.endsAt
    let row ← Repo.updateShift opId shiftId patch
    match row with
    | none => throwErr 404 .not_found
    | some row =>
      notify (.SCHEDULE_SHIFT_UPDATED opId row.part)
      return row

def deleteShift (opId shiftId : String) : Svc Unit := do
  Repo.deleteShift opId shiftId
  notify (.SCHEDULE_SHIFT_DELETED opId shiftId)

def listShifts (opId : String) (from' to' role user : Option String) : Svc (List ShiftRow) :=
  Repo.listShifts opId from' to' role user

/-- What `listActiveAt` lists of a shift. -/
structure ActiveEntry where
  userUpn : String
  displayName : Option String
  shiftId : String
  endsAt : Int
  deriving DecidableEq

/-- The object `roles`: its own properties, in the order JavaScript keeps them. -/
abbrev Roles := List (String × List ActiveEntry)

structure ActiveAt where
  atIso : String
  roles : Roles

/-- The number a property name is when it is an array index, one below 2³² - 1. -/
def arrayIndex (key : String) : Option Nat :=
  let n := key.toList.foldl (fun n c => 10 * n + (c.toNat - '0'.toNat)) 0
  if key ≠ "" ∧ key.toList.all Char.isDigit ∧ (key = "0" ∨ key.toList.head? ≠ some '0') ∧ n < 4294967295 then some n else none

/-- Array indices come first, in their order; the other names come as they were added. -/
def precedes (role : String) (p : String × List ActiveEntry) : Bool :=
  match arrayIndex role, arrayIndex p.1 with
  | some m, some n => m < n
  | some _, none => true
  | none, _ => false

/-- `roles[role].push(entry)`, with `roles[role]` new when it is not an own property. -/
def Roles.push (role : String) (entry : ActiveEntry) (roles : Roles) : Roles :=
  if role ∈ roles.map (·.1) then roles.map fun p => if p.1 = role then (p.1, p.2 ++ [entry]) else p
  else roles.orderedInsert (fun a b => precedes a.1 b) (role, [entry])

/-- The body of the loop. A property `roles` inherits is truthy, so no list takes its
place, and it has no `push`. -/
def addActive (roles : Roles) (r : ActiveRow) : Except Error Roles :=
  if roles.lookup r.role = none ∧ r.role ∈ objectPrototype then .error .typeError
  else .ok (Roles.push r.role ⟨r.user_upn, r.display_name, r.shift_id, r.ends_at⟩ roles)

def listActiveAt (opId atIso : String) : Svc ActiveAt := do
  let rows ← Repo.listActiveAt opId atIso
  let roles ← Prog.ofExcept (rows.foldlM addActive [])
  return ⟨atIso, roles⟩

/-! ## Calls -/

/-- The calls that write. -/
inductive Call where
  | createShift (opId : String) (input : ShiftInput) (createdBy : String)
  | updateShift (opId shiftId : String) (patch : ShiftPatch)
  | deleteShift (opId shiftId : String)

/-- What a call does; `deleteShift` returns nothing. -/
def Call.run (env : Env) : Call → Svc (Option ShiftView)
  | .createShift opId input createdBy => do return some (← Schedule.createShift env opId input createdBy)
  | .updateShift opId shiftId patch => do return some (← Schedule.updateShift env opId shiftId patch)
  | .deleteShift opId shiftId => do
    Schedule.deleteShift opId shiftId
    return none

end Tactix.Schedule
