import Mathlib.Data.List.MinMax
import Tactix.IncidentSvc.Effective
/-!
# `services/rbac`

The second evaluator of permissions: it keeps an AD-derived VIEWER and one
granted role, and looks an action up in a table. `evaluators_agree` says that
it decides as the evaluator of incident-svc does.
-/
open Tactix.Js Tactix.IncidentSvc

namespace Tactix.Rbac

structure EffectiveInput where
  upn : String
  adGroups : List String
  operationCode : String
  readSuffixes : Option (List String)
  dbGrantRole : Option Role

structure EffectiveResult where
  roles : List Role
  highest : Role

def ORDER : List Role := [.VIEWER, .EDITOR, .IMO, .ADMIN]

def ACTION_MAP : Action → List Role
  | .READ => [.VIEWER, .EDITOR, .IMO, .ADMIN]
  | .WRITE => [.EDITOR, .IMO, .ADMIN]
  | .ASSIGN => [.IMO, .ADMIN]
  | .ADMIN => [.ADMIN]

/-- The suffixes of the input, or the defaults when there are none. -/
def EffectiveInput.suffixes (input : EffectiveInput) : List String :=
  match input.readSuffixes with
  | none | some [] => ["READ", "VIEW", "ALL"]
  | some suffixes => suffixes

def hasReadGroup (input : EffectiveInput) : Bool :=
  let start := input.operationCode ++ "_"
  input.adGroups.any fun g => startsWith g start && slice g start.toList.length ∈ input.suffixes

def computeEffective (input : EffectiveInput) : EffectiveResult :=
  let roles := if hasReadGroup input then addRole [] .VIEWER else []
  let roles := match input.dbGrantRole with
    | some role => addRole roles role
    | none => roles
  let highest := roles.foldl (fun highest r => if ORDER.idxOf highest < ORDER.idxOf r then r else highest) .VIEWER
  ⟨roles, if roles = [] then .VIEWER else highest⟩

def can (roles : List Role) (action : Action) : Bool := (ACTION_MAP action).any (· ∈ roles)

/-! ## What an action takes -/

/-- The rank an action takes. -/
def need : Action → Nat
  | .READ => 0
  | .WRITE => 1
  | .ASSIGN => 2
  | .ADMIN => 3

theorem can_iff (roles : List Role) (action : Action) : can roles action = true ↔ ∃ r ∈ roles, need action ≤ r.rank := by
  have hmap : ∀ r, r ∈ ACTION_MAP action ↔ need action ≤ r.rank := by
    intro r
    cases action <;> cases r <;> decide
  simp only [can, List.any_eq_true, decide_eq_true_eq, hmap]
  exact exists_congr fun r => and_comm

theorem has_name (roles : List Role) (r : Role) : has roles r.name = true ↔ r ∈ roles := by
  have hname : ∀ s : Role, s.name = r.name ↔ s = r := by
    intro s
    cases s <;> cases r <;> decide
  simp [has, hname]

/-- The disjunctions of incident-svc are the same thresholds. -/
theorem incidentSvc_can (roles : List Role) (action : Action) : IncidentSvc.can roles action = can roles action := by
  have hhas := has_name roles
  have hv := hhas .VIEWER
  have he := hhas .EDITOR
  have hi := hhas .IMO
  have ha := hhas .ADMIN
  simp only [Role.name] at hv he hi ha
  rw [Bool.eq_iff_iff]
  cases action <;> simp [IncidentSvc.can, can, ACTION_MAP, hv, he, hi, ha, or_assoc]

/-! ## The two evaluators -/

/-- A group of the operation with a read suffix, whichever way one looks for it. -/
theorem hasReadGroup_eq (input : EffectiveInput) :
    hasReadGroup input = readGroup input.suffixes input.adGroups input.operationCode := by
  rw [Bool.eq_iff_iff]
  simp only [hasReadGroup, readGroup, List.any_eq_true, Bool.and_eq_true, decide_eq_true_eq]
  constructor
  · rintro ⟨g, hg, hstart, hsuffix⟩
    obtain ⟨suffix, rfl⟩ := (startsWith_iff _ _).1 hstart
    rw [slice_append] at hsuffix
    exact ⟨suffix, hsuffix, hg⟩
  · rintro ⟨suffix, hsuffix, hg⟩
    exact ⟨_, hg, (startsWith_iff _ _).2 ⟨suffix, rfl⟩, by rwa [slice_append]⟩

theorem mem_computeEffective (input : EffectiveInput) (r : Role) :
    r ∈ (computeEffective input).roles ↔ (hasReadGroup input = true ∧ r = .VIEWER) ∨ input.dbGrantRole = some r := by
  have hviewer : r ∈ (if hasReadGroup input then addRole [] .VIEWER else []) ↔ hasReadGroup input = true ∧ r = .VIEWER := by
    split <;> simp [addRole, *]
  unfold computeEffective
  dsimp only
  cases input.dbGrantRole with
  | none => simp [hviewer]
  | some role => rw [mem_addRole, hviewer, Option.some.injEq, eq_comm (a := role)]

/-- The rows of a user with some roles. -/
def grantsOf (upn : String) (roles : List Role) : List RoleGrantRow := roles.map fun r => ⟨upn, some r.name⟩

theorem effective_can_iff (suffixes : List String) (upn : String) (groups : List String) (op : String) (grants : List Role)
    (action : Action) :
    can (effective suffixes ⟨some upn, groups⟩ op (grantsOf upn grants)) action = true ↔
      (readGroup suffixes groups op = true ∧ need action = 0) ∨ ∃ s ∈ grants, need action ≤ s.rank := by
  have hall : ∀ r, r ∈ [Role.VIEWER, .EDITOR, .IMO, .ADMIN] := by
    intro r
    cases r <;> decide
  have hgrants : (grantsOf upn grants).filterMap (fun g => if some g.user_upn = some upn then g.role.bind Role.ofName? else none)
      = grants := by
    simp [grantsOf, List.filterMap_map, Role.ofName?_name]
  rw [can_iff]
  simp only [mem_effective_iff, documentedRoles, List.mem_filter, hall, true_and, List.any_eq_true, decide_eq_true_eq,
    sources, hgrants, List.mem_append]
  constructor
  · rintro ⟨r, ⟨s, hs | hs, hrank⟩, hneed⟩
    · split at hs
      · rw [List.mem_singleton.1 hs] at hrank
        exact .inl ⟨‹_›, Nat.eq_zero_of_le_zero (hneed.trans hrank)⟩
      · cases hs
    · exact .inr ⟨s, hs, hneed.trans hrank⟩
  · rintro (⟨hread, hneed⟩ | ⟨s, hs, hneed⟩)
    · exact ⟨.VIEWER, ⟨.VIEWER, .inl (by simp [hread]), Nat.le_refl _⟩, Nat.le_of_eq hneed⟩
    · exact ⟨s, ⟨s, .inr hs, Nat.le_refl _⟩, hneed⟩

/-- Some grant reaches a rank exactly when the highest does. -/
theorem exists_grant_iff (grants : List Role) (n : Nat) :
    (∃ s ∈ grants, n ≤ s.rank) ↔ ∃ r, grants.argmax Role.rank = some r ∧ n ≤ r.rank := by
  constructor
  · rintro ⟨s, hs, hn⟩
    cases hmax : grants.argmax Role.rank with
    | none =>
      rw [List.argmax_eq_none.1 hmax] at hs
      cases hs
    | some r => exact ⟨r, rfl, hn.trans (List.le_of_mem_argmax hs hmax)⟩
  · rintro ⟨r, hr, hn⟩
    exact ⟨r, List.argmax_mem hr, hn⟩

/-- With the same read suffixes, and the highest of the user's grants, both
evaluators decide alike. -/
theorem evaluators_agree {suffixes : List String} (hsuffixes : suffixes ≠ []) (upn : String) (groups : List String)
    (op : String) (grants : List Role) (action : Action) :
    IncidentSvc.can (effective suffixes ⟨some upn, groups⟩ op (grantsOf upn grants)) action =
      can (computeEffective ⟨upn, groups, op, some suffixes, grants.argmax Role.rank⟩).roles action := by
  have hsame : (EffectiveInput.mk upn groups op (some suffixes) (grants.argmax Role.rank)).suffixes = suffixes := by
    cases suffixes with
    | nil => exact absurd rfl hsuffixes
    | cons s ss => rfl
  rw [incidentSvc_can, Bool.eq_iff_iff, effective_can_iff, exists_grant_iff, can_iff]
  simp only [mem_computeEffective, hasReadGroup_eq, hsame]
  constructor
  · rintro (⟨hread, hneed⟩ | ⟨r, hr, hneed⟩)
    · exact ⟨.VIEWER, .inl ⟨hread, rfl⟩, Nat.le_of_eq hneed⟩
    · exact ⟨r, .inr hr, hneed⟩
  · rintro ⟨r, ⟨hread, rfl⟩ | hr, hneed⟩
    · exact .inl ⟨hread, Nat.eq_zero_of_le_zero hneed⟩
    · exact .inr ⟨r, hr, hneed⟩

/-- Ana reads by a group of the operation and assigns by her second grant. -/
theorem evaluators_agree_sample :
    IncidentSvc.can (effective ["READ"] ⟨some "ana", ["OPX_READ"]⟩ "OPX" (grantsOf "ana" [.EDITOR, .IMO])) .ASSIGN =
      can (computeEffective ⟨"ana", ["OPX_READ"], "OPX", some ["READ"], [Role.EDITOR, .IMO].argmax Role.rank⟩).roles
        .ASSIGN :=
  evaluators_agree (by decide) "ana" ["OPX_READ"] "OPX" [.EDITOR, .IMO] .ASSIGN

end Tactix.Rbac
