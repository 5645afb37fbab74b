import Mathlib.Tactic.Cases
import Tactix.Js
/-!
# Effective permissions

`rbac/effective.ts`, and the evaluation documented for it: the roles a user
has on an operation are closed downward under ADMIN > IMO > EDITOR > VIEWER.
`mem_effective_iff` says the two agree on any grant rows.
-/

namespace Tactix.IncidentSvc

inductive Role where
  | VIEWER
  | EDITOR
  | IMO
  | ADMIN
  deriving DecidableEq, Repr

inductive Action where
  | READ
  | WRITE
  | ASSIGN
  | ADMIN
  deriving DecidableEq, Repr

namespace Role

/-- The string the source writes for the role. -/
def name : Role → String
  | VIEWER => "VIEWER"
  | EDITOR => "EDITOR"
  | IMO => "IMO"
  | ADMIN => "ADMIN"

def ofName? (s : String) : Option Role := [VIEWER, EDITOR, IMO, ADMIN].find? (·.name = s)

def rank : Role → Nat
  | VIEWER => 0
  | EDITOR => 1
  | IMO => 2
  | ADMIN => 3

end Role

/-- The properties `effective` reads of a row; `role` is `none` on a row that
has no such column. -/
structure RoleGrantRow where
  user_upn : String
  role : Option String

/-- The `user` argument of `effective`. -/
structure User where
  upn : Option String
  ad_groups : List String

/-- `roles.add(role)`. -/
def addRole (roles : List Role) (role : Role) : List Role := if role ∈ roles then roles else roles ++ [role]

def escalate (roles : List Role) (role : Option String) : List Role :=
  if role = some "ADMIN" then [Role.ADMIN, .IMO, .EDITOR, .VIEWER].foldl addRole roles
  else if role = some "IMO" then [Role.IMO, .EDITOR, .VIEWER].foldl addRole roles
  else if role = some "EDITOR" then [Role.EDITOR, .VIEWER].foldl addRole roles
  else if role = some "VIEWER" then addRole roles .VIEWER
  else roles

/-- Whether some AD group gives default READ: `<code>_<suffix>`. -/
def readGroup (suffixes : List String) (groups : List String) (op : String) : Bool :=
  suffixes.any fun suffix => (op ++ "_" ++ suffix) ∈ groups

/-- `suffixes` is `READ_SUFFIXES`, fixed by the environment at start-up. -/
def effective (suffixes : List String) (user : User) (operationCode : String) (roleGrants : List RoleGrantRow) :
    List Role :=
  let roles := if readGroup suffixes user.ad_groups operationCode then escalate [] (some "VIEWER") else []
  roleGrants.foldl (fun roles g => if some g.user_upn = user.upn then escalate roles g.role else roles) roles

/-- `roles.has(name)`: the set holds strings, so any name may be asked for. -/
def has (roles : List Role) (name : String) : Bool := roles.any (·.name = name)

def can (roles : List Role) : Action → Bool
  | .READ => has roles "VIEWER" || has roles "EDITOR" || has roles "IMO" || has roles "ADMIN"
  | .WRITE => has roles "EDITOR" || has roles "IMO" || has roles "ADMIN"
  | .ASSIGN => has roles "IMO" || has roles "ADMIN"
  | .ADMIN => has roles "ADMIN"

/-! ## The documented evaluation -/

/-- AD-derived VIEWER, overlaid with the roles granted to the user. -/
def sources (suffixes : List String) (user : User) (operationCode : String) (roleGrants : List RoleGrantRow) :
    List Role :=
  (if readGroup suffixes user.ad_groups operationCode then [.VIEWER] else []) ++
    roleGrants.filterMap fun g => if some g.user_upn = user.upn then g.role.bind Role.ofName? else none

/-- The roles below some source. -/
def documentedRoles (suffixes : List String) (user : User) (operationCode : String) (roleGrants : List RoleGrantRow) :
    List Role :=
  [Role.VIEWER, .EDITOR, .IMO, .ADMIN].filter fun r =>
    (sources suffixes user operationCode roleGrants).any fun s => r.rank ≤ s.rank

/-! ## `effective` computes it -/

theorem mem_addRole (roles : List Role) (x r : Role) : r ∈ addRole roles x ↔ r ∈ roles ∨ r = x := by
  unfold addRole
  split
  · exact ⟨.inl, fun h => h.elim id fun e => e ▸ ‹x ∈ roles›⟩
  · simp

theorem Role.ofName?_name (r : Role) : Role.ofName? r.name = some r := by
  cases r <;> rfl

theorem Role.name_of_ofName? {s : String} {r : Role} (h : Role.ofName? s = some r) : r.name = s := by
  simpa using List.find?_some h

/-- Escalating by a role adds what is at or below it; any other string adds nothing. -/
theorem mem_escalate (roles : List Role) (role : Option String) (r : Role) :
    r ∈ escalate roles role ↔ r ∈ roles ∨ ∃ s, role.bind Role.ofName? = some s ∧ r.rank ≤ s.rank := by
  by_cases h : ∃ s : Role, role = some s.name
  · obtain ⟨s, rfl⟩ := h
    have hs : ((some s.name).bind Role.ofName?) = some s := Role.ofName?_name s
    simp only [hs, Option.some.injEq, exists_eq_left']
    cases s <;> cases r <;> simp [escalate, mem_addRole, Role.name, Role.rank]
  · have hne : ∀ s : Role, role ≠ some s.name := fun s hs => h ⟨s, hs⟩
    have h1 := hne .ADMIN
    have h2 := hne .IMO
    have h3 := hne .EDITOR
    have h4 := hne .VIEWER
    simp only [Role.name] at h1 h2 h3 h4
    simp only [escalate, h1, h2, h3, h4, if_false]
    refine ⟨.inl, fun hr => hr.elim id fun ⟨s, hs, _⟩ => ?_⟩
    obtain ⟨n, rfl, hn⟩ := Option.bind_eq_some_iff.1 hs
    exact absurd rfl (Role.name_of_ofName? hn ▸ hne s)

theorem mem_grants (user : User) (grants : List RoleGrantRow) (roles : List Role) (r : Role) :
    r ∈ grants.foldl (fun roles g => if some g.user_upn = user.upn then escalate roles g.role else roles) roles ↔
      r ∈ roles ∨ ∃ s ∈ grants.filterMap (fun g => if some g.user_upn = user.upn then g.role.bind Role.ofName? else none),
        r.rank ≤ s.rank := by
  induction grants generalizing roles with
  | nil => simp
  | cons g grants ih =>
    rw [List.foldl_cons, ih]
    by_cases hg : some g.user_upn = user.upn
    · rw [if_pos hg, mem_escalate, List.filterMap_cons, if_pos hg]
      cases hs : g.role.bind Role.ofName? <;> simp [or_assoc]
    · rw [if_neg hg, List.filterMap_cons, if_neg hg]

/-- The evaluator gives the documented roles, whatever the grant rows hold. -/
theorem mem_effective_iff (suffixes : List String) (user : User) (op : String) (grants : List RoleGrantRow) (r : Role) :
    r ∈ effective suffixes user op grants ↔ r ∈ documentedRoles suffixes user op grants := by
  have hall : r ∈ [Role.VIEWER, .EDITOR, .IMO, .ADMIN] := by cases r <;> decide
  simp only [effective, mem_grants, documentedRoles, List.mem_filter, hall, true_and, sources, List.any_append,
    Bool.or_eq_true, List.any_eq_true, decide_eq_true_eq]
  -- The granted roles are the same on both sides; the AD groups give VIEWER or nothing.
  refine or_congr ?_ Iff.rfl
  by_cases hr : readGroup suffixes user.ad_groups op
  · cases r <;> simp [hr, mem_escalate, Role.ofName?, Role.name, Role.rank]
  · simp [hr]

end Tactix.IncidentSvc
