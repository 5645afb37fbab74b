import Tactix.Authz
import Tactix.IncidentSvc.Effective
/-!
# The operation endpoints of incident-svc

`GET /operations/:id/permissions`, `POST` and `DELETE` of assignments and
`POST` of roles share one sequence: look the operation up, query the caller's
rows, evaluate, check. The sequence passes the assignment rows where
`effective` expects the grants and asks the role set for the name of an
action, so it always refuses: `decides_iff` says when that is right.
-/
open Tactix.Js Tactix.Authz

namespace Tactix.IncidentSvc

structure Operation where
  operation_id : String
  code : String
  title : String
  deriving DecidableEq

structure Assignment where
  assignment_id : String
  operation_id : String
  user_upn : String
  position_id : Option String
  alt_display_name : Option String
  active : Bool
  created_by_upn : Option String

structure RoleGrant where
  grant_id : String
  operation_id : String
  user_upn : String
  role : String
  created_by_upn : Option String

structure Db where
  operations : List Operation
  assignments : List Assignment
  role_grants : List RoleGrant

/-- The properties the endpoints read of `req.user`; `sub` and `upn` are
`none` where the object has no such property. -/
structure ReqUser where
  sub : Option String
  upn : Option String
  ad_groups : Option (List String)

def Db.operation (db : Db) (opId : String) : Option Operation := db.operations.find? (·.operation_id = opId)

/-- `SELECT user_upn, active FROM assignments WHERE operation_id=$1 AND user_upn=$2`.
An undefined parameter is NULL, which equals nothing. -/
def Db.myAssign (db : Db) (opId : String) (upn : Option String) : List Assignment :=
  db.assignments.filter fun a => a.operation_id = opId ∧ some a.user_upn = upn

/-- `SELECT user_upn, role FROM role_grants WHERE operation_id=$1 AND user_upn=$2`. -/
def Db.myRoles (db : Db) (opId : String) (upn : Option String) : List RoleGrant :=
  db.role_grants.filter fun g => g.operation_id = opId ∧ some g.user_upn = upn

/-- What `effective` sees of a row with the columns `user_upn, active`. -/
def Assignment.asGrantRow (a : Assignment) : RoleGrantRow := ⟨a.user_upn, none⟩

def RoleGrant.asGrantRow (g : RoleGrant) : RoleGrantRow := ⟨g.user_upn, some g.role⟩

/-- The call of `effective` with four arguments. It declares three, so the
last one, the granted roles, is dropped. -/
def callEffective (suffixes : List String) (user : User) (code : String) (assignments _grants : List RoleGrantRow) :
    List Role :=
  effective suffixes user code assignments

inductive Reply where
  | notFound
  | forbidden
  | badRequest (error : String)
  | permissions (operation : Operation) (assignments : List Assignment) (canAssign : Bool)
      (roleGrants : Option (List RoleGrant))
  | assignment (row : Option Assignment)
  | grant (row : RoleGrant)
  | noContent

/-- The check every operation endpoint begins with. -/
def requirePermission (suffixes : List String) (db : Db) (opId : String) (user : ReqUser) (name : String) :
    Except Reply (Operation × List Role) :=
  match db.operation opId with
  | none => .error .notFound
  | some op =>
    -- The user is looked up by `sub`, and the set is asked for an action's name.
    let perms := callEffective suffixes ⟨user.sub, user.ad_groups.getD []⟩ op.code
      ((db.myAssign opId user.sub).map (·.asGrantRow)) ((db.myRoles opId user.sub).map (·.asGrantRow))
    if has perms name then .ok (op, perms) else .error .forbidden

/-- `GET /operations/:id/permissions`. -/
def getPermissions (suffixes : List String) (db : Db) (opId : String) (user : ReqUser) : Reply :=
  match requirePermission suffixes db opId user "READ" with
  | .error r => r
  | .ok (op, perms) =>
    let assignments := db.assignments.filter (·.operation_id = opId)
    let roleGrants := db.role_grants.filter (·.operation_id = opId)
    if has perms "ASSIGN" then .permissions op assignments true (some roleGrants)
    else .permissions op (assignments.filter fun a => some a.user_upn = user.sub) false none

/-- The fields of a body that has a `userUpn`. -/
structure AssignmentBody where
  userUpn : String
  positionId : Option String
  altDisplayName : Option String

/-- `POST /operations/:id/assignments`; `id` is the new row's `randomUUID()`. -/
def postAssignment (suffixes : List String) (db : Db) (opId : String) (user : ReqUser) (body : Option AssignmentBody)
    (id : String) : Db × Reply :=
  match requirePermission suffixes db opId user "ASSIGN" with
  | .error r => (db, r)
  | .ok _ =>
    match body with
    | none => (db, .badRequest "userUpn required")
    | some body =>
      match db.assignments.find? fun a => a.operation_id = opId ∧ a.user_upn = body.userUpn with
      | some old =>
        let set := fun a : Assignment => if a.assignment_id = old.assignment_id then
          { a with position_id := body.positionId, alt_display_name := body.altDisplayName, active := true } else a
        let rows := db.assignments.map set
        ({ db with assignments := rows }, .assignment (rows.find? (·.assignment_id = old.assignment_id)))
      | none =>
        let row := ⟨id, opId, body.userUpn, body.positionId, body.altDisplayName, true, user.sub⟩
        ({ db with assignments := db.assignments ++ [row] }, .assignment (some row))

/-- `DELETE /operations/:id/assignments/:assignmentId`. -/
def deleteAssignment (suffixes : List String) (db : Db) (opId : String) (user : ReqUser) (assignmentId : String) :
    Db × Reply :=
  match requirePermission suffixes db opId user "ASSIGN" with
  | .error r => (db, r)
  | .ok _ =>
    let set := fun a : Assignment =>
      if a.assignment_id = assignmentId ∧ a.operation_id = opId then { a with active := false } else a
    ({ db with assignments := db.assignments.map set }, .noContent)

/-- The fields of a body that has a `userUpn` and a `role`. -/
structure RoleBody where
  userUpn : String
  role : String

/-- `POST /operations/:id/roles`; `id` is the new row's `randomUUID()`. -/
def postRole (suffixes : List String) (db : Db) (opId : String) (user : ReqUser) (body : Option RoleBody) (id : String) :
    Db × Reply :=
  match requirePermission suffixes db opId user "ASSIGN" with
  | .error r => (db, r)
  | .ok _ =>
    match body with
    | none => (db, .badRequest "userUpn and role required")
    | some body =>
      let same := fun g : RoleGrant => g.operation_id = opId ∧ g.user_upn = body.userUpn ∧ g.role = body.role
      match db.role_grants.find? fun g => same g with
      | some old =>
        let row := { old with created_by_upn := user.sub }
        ({ db with role_grants := db.role_grants.map fun g => if same g then row else g }, .grant row)
      | none =>
        let row := ⟨id, opId, body.userUpn, body.role, user.sub⟩
        ({ db with role_grants := db.role_grants ++ [row] }, .grant row)

/-! ## What the endpoints decide -/

/-- A request to one of the four endpoints. -/
inductive Call where
  | getPermissions
  | postAssignment (body : Option AssignmentBody) (id : String)
  | deleteAssignment (assignmentId : String)
  | postRole (body : Option RoleBody) (id : String)

def Call.reply (suffixes : List String) (db : Db) (opId : String) (user : ReqUser) : Call → Reply
  | .getPermissions => IncidentSvc.getPermissions suffixes db opId user
  | .postAssignment body id => (IncidentSvc.postAssignment suffixes db opId user body id).2
  | .deleteAssignment id => (IncidentSvc.deleteAssignment suffixes db opId user id).2
  | .postRole body id => (IncidentSvc.postRole suffixes db opId user body id).2

/-- The action the documentation asks for. -/
def Call.action : Call → Action
  | .getPermissions => .READ
  | .postAssignment .. | .deleteAssignment .. | .postRole .. => .ASSIGN

def Allowed (r : Reply) : Prop := r ≠ .notFound ∧ r ≠ .forbidden

/-- The endpoint allows the call on operation `op` exactly when the documented
roles of `user` on it permit the action. -/
def Decides (suffixes : List String) (db : Db) (opId : String) (user : ReqUser) (call : Call) : Prop :=
  ∀ op, db.operation opId = some op →
    (Allowed (call.reply suffixes db opId user) ↔
      can (documentedRoles suffixes ⟨user.upn, user.ad_groups.getD []⟩ op.code
        ((db.myRoles opId user.upn).map (·.asGrantRow))) call.action = true)

/-- No role is called `READ` or `ASSIGN`. -/
theorem has_action_name (roles : List Role) : has roles "READ" = false ∧ has roles "ASSIGN" = false := by
  constructor <;>
  · simp only [has, List.any_eq_false, decide_eq_true_eq]
    intro r _
    cases r <;> decide

theorem requirePermission_refuses (suffixes : List String) {db : Db} {opId : String} (user : ReqUser) {op : Operation}
    (h : db.operation opId = some op) {name : String} (hn : name = "READ" ∨ name = "ASSIGN") :
    requirePermission suffixes db opId user name = .error .forbidden := by
  simp only [requirePermission, h]
  rcases hn with rfl | rfl
  · rw [(has_action_name _).1]; rfl
  · rw [(has_action_name _).2]; rfl

theorem reply_forbidden (suffixes : List String) {db : Db} {opId : String} (user : ReqUser) {op : Operation}
    (h : db.operation opId = some op) (call : Call) : call.reply suffixes db opId user = .forbidden := by
  have hr : requirePermission suffixes db opId user "READ" = _ := requirePermission_refuses suffixes user h (.inl rfl)
  have ha : requirePermission suffixes db opId user "ASSIGN" = _ := requirePermission_refuses suffixes user h (.inr rfl)
  cases call
  · simp [Call.reply, getPermissions, hr]
  · simp [Call.reply, postAssignment, ha]
  · simp [Call.reply, deleteAssignment, ha]
  · simp [Call.reply, postRole, ha]

/-- The endpoints decide as documented exactly where the documented roles deny
the action. -/
theorem decides_iff (suffixes : List String) (db : Db) (opId : String) (user : ReqUser) (call : Call) :
    Decides suffixes db opId user call ↔
      ∀ op, db.operation opId = some op →
        can (documentedRoles suffixes ⟨user.upn, user.ad_groups.getD []⟩ op.code
          ((db.myRoles opId user.upn).map (·.asGrantRow))) call.action = false := by
  refine forall_congr' fun op => forall_congr' fun hop => ?_
  rw [reply_forbidden suffixes user hop call]
  simp [Allowed]

/-- A member of the operation's READ group is refused its permissions. -/
theorem reader_refused :
    ¬ Decides ["READ", "VIEW", "ALL"] ⟨[⟨"1", "OP1", "Flood"⟩], [], []⟩ "1"
      ⟨some "ana@x", some "ana@x", some ["OP1_READ"]⟩ .getPermissions := by
  intro h
  have hop : Db.operation ⟨[⟨"1", "OP1", "Flood"⟩], [], []⟩ "1" = some ⟨"1", "OP1", "Flood"⟩ := by decide
  have hr := ((h _ hop).2 (by decide)).2
  exact hr (reply_forbidden _ _ hop _)

end Tactix.IncidentSvc
