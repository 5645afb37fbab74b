import Tactix.Lib.Keyed
import Tactix.Lib.Occurs
import Tactix.Rbac
/-!
# The assigned roles of `services/rbac`

A map from users and operations to roles, kept under the two joined by `::`.
`assignments_refine_iff` says which sequences of calls it answers as a map of pairs
would; `ownKey_of_plain` is about ids that are safe in any sequence.
-/
open Tactix.IncidentSvc ServiceLib

namespace Tactix.Rbac

/-- `assignments`. -/
abbrev Assignments := String → Option Role

section
variable (toLowerCase : String → String)

def assignmentKey (userUpn operationId : String) : String := toLowerCase userUpn ++ "::" ++ operationId

def assignRole (assignments : Assignments) (userUpn : String) (role : Role) (operationId _byUpn : String) : Assignments :=
  Function.update assignments (assignmentKey toLowerCase userUpn operationId) (some role)

/-- The assigned role, `none` for `null`. -/
def getAssignedRole (assignments : Assignments) (userUpn operationId : String) : Option Role :=
  assignments (assignmentKey toLowerCase userUpn operationId)

def clearAssignments : Assignments := fun _ => none

inductive Call where
  | assignRole (userUpn : String) (role : Role) (operationId byUpn : String)
  | clearAssignments

def Call.run (assignments : Assignments) : Call → Assignments
  | .assignRole userUpn role operationId byUpn => Rbac.assignRole toLowerCase assignments userUpn role operationId byUpn
  | .clearAssignments => Rbac.clearAssignments

/-- The map after these calls, from the empty one of the start. -/
def assignmentsAfter (calls : List Call) : Assignments := calls.foldl (Call.run toLowerCase) clearAssignments

/-! ## What it is for -/

/-- A call is for this user, ignoring case, on this operation, or clears all. -/
def Call.Concerns (userUpn operationId : String) : Call → Prop
  | .assignRole u _ o _ => toLowerCase u = toLowerCase userUpn ∧ o = operationId
  | .clearAssignments => True

/-- The most recent assignment of the user on the operation since the last clear gave this role. -/
def LastAssigned (calls : List Call) (userUpn operationId : String) (role : Role) : Prop :=
  ∃ before u o byUpn after, calls = before ++ .assignRole u role o byUpn :: after ∧
    toLowerCase u = toLowerCase userUpn ∧ o = operationId ∧
    ∀ call ∈ after, ¬ call.Concerns toLowerCase userUpn operationId

/-- All along the calls everybody reads the last role assigned, and assigning a role changes it for
nobody else. -/
structure Refines (calls : List Call) : Prop where
  reads : ∀ done, done <+: calls → ∀ u o role,
    getAssignedRole toLowerCase (assignmentsAfter toLowerCase done) u o = some role ↔ LastAssigned toLowerCase done u o role
  frame : ∀ done u role o byUpn, done ++ [.assignRole u role o byUpn] <+: calls →
    ∀ u' o', ¬ (toLowerCase u' = toLowerCase u ∧ o' = o) →
      getAssignedRole toLowerCase (assignmentsAfter toLowerCase (done ++ [.assignRole u role o byUpn])) u' o' =
        getAssignedRole toLowerCase (assignmentsAfter toLowerCase done) u' o'

/-- No other user or operation has the key of this one. -/
def OwnKey (userUpn operationId : String) : Prop :=
  ∀ u o, assignmentKey toLowerCase u o = assignmentKey toLowerCase userUpn operationId →
    toLowerCase u = toLowerCase userUpn ∧ o = operationId

end

/-! ## The map of pairs -/

section
variable {toLowerCase : String → String} {calls : List Call}

/-- What a call does to a map of pairs. -/
def Call.op : Call → MapOp (String × String) Role
  | .assignRole u role o _ => .put (u, o) role
  | .clearAssignments => .clear

/-- A user, ignoring case, and an operation. -/
def pair (toLowerCase : String → String) (p : String × String) : String × String := (toLowerCase p.1, p.2)

def pairKey (toLowerCase : String → String) (p : String × String) : String := assignmentKey toLowerCase p.1 p.2

theorem pairKey_of_pair {p q : String × String} (h : pair toLowerCase p = pair toLowerCase q) :
    pairKey toLowerCase p = pairKey toLowerCase q := by
  obtain ⟨hu, ho⟩ := Prod.mk.inj h
  rw [pairKey, pairKey, assignmentKey, assignmentKey, hu, ho]

theorem ownKey_iff {u o : String} : OwnKey toLowerCase u o ↔ Alone (pair toLowerCase) (pairKey toLowerCase) (u, o) := by
  constructor
  · intro h p hp
    obtain ⟨hu, ho⟩ := h p.1 p.2 hp
    exact Prod.ext hu ho
  · intro h u' o' hkey
    exact Prod.mk.inj (h (u', o') hkey)

theorem assignmentsAfter_eq (calls : List Call) :
    assignmentsAfter toLowerCase calls = store (pairKey toLowerCase) (calls.map Call.op) := by
  have hrun : ∀ m call, Call.run toLowerCase m call = (Call.op call).apply (pairKey toLowerCase) m := by
    intro m call
    cases call <;> rfl
  rw [store, List.foldl_map, assignmentsAfter]
  exact congrArg (fun f => List.foldl f clearAssignments calls) (funext₂ hrun)

theorem lastAssigned_iff {u o : String} {role : Role} :
    LastAssigned toLowerCase calls u o role ↔ store (pair toLowerCase) (calls.map Call.op) (pair toLowerCase (u, o)) = some role := by
  have htouches : ∀ call : Call, call.op.Touches (pair toLowerCase) (pair toLowerCase (u, o)) ↔ call.Concerns toLowerCase u o := by
    intro call
    cases call with
    | assignRole u' r o' b => exact Prod.mk_inj
    | clearAssignments => exact Iff.rfl
  rw [store_eq_some_iff]
  constructor
  · rintro ⟨before, u', o', byUpn, after, rfl, hu, ho, hafter⟩
    refine ⟨before.map Call.op, (u', o'), after.map Call.op, by simp [Call.op], Prod.ext hu ho, ?_⟩
    rw [List.forall_mem_map]
    exact fun call hcall => (htouches call).not.2 (hafter call hcall)
  · rintro ⟨before, p, after, hmap, hp, hafter⟩
    obtain ⟨cs, cs', rfl, -, hcs⟩ := List.map_eq_append_iff.1 hmap
    obtain ⟨call, after', rfl, hcall, rfl⟩ := List.map_eq_cons_iff.1 hcs
    cases call with
    | assignRole u' r o' byUpn =>
      obtain ⟨rfl, rfl⟩ := MapOp.put.inj hcall
      obtain ⟨hu, ho⟩ := Prod.mk.inj hp
      refine ⟨cs, u', o', byUpn, after', rfl, hu, ho, fun call hm => ?_⟩
      exact (htouches call).not.1 (List.forall_mem_map.1 hafter call hm)
    | clearAssignments => cases hcall

theorem reads_iff {calls : List Call} :
    (∀ u o role, getAssignedRole toLowerCase (assignmentsAfter toLowerCase calls) u o = some role ↔
      LastAssigned toLowerCase calls u o role) ↔ Agrees (pair toLowerCase) (pairKey toLowerCase) (calls.map Call.op) := by
  have hget : ∀ u o, getAssignedRole toLowerCase (assignmentsAfter toLowerCase calls) u o =
      store (pairKey toLowerCase) (calls.map Call.op) (pairKey toLowerCase (u, o)) := by
    intro u o
    rw [assignmentsAfter_eq]
    rfl
  constructor
  · intro h p
    apply Option.ext
    intro role
    rw [← lastAssigned_iff, ← h p.1 p.2 role, hget]
  · intro h u o role
    rw [hget, lastAssigned_iff, h (u, o)]

end

/-- Everybody reads the last role assigned, all along a sequence of calls, just when each assignment in
it is for a user and an operation that no others share their key with. -/
theorem assignments_refine_iff (toLowerCase : String → String) (calls : List Call) : Refines toLowerCase calls ↔
    ∀ u role o byUpn, .assignRole u role o byUpn ∈ calls → OwnKey toLowerCase u o := by
  constructor
  · intro h u role o byUpn hm
    have hops : ∀ done, done <+: calls.map Call.op → Agrees (pair toLowerCase) (pairKey toLowerCase) done := by
      intro done hdone
      obtain ⟨calls', hpre, rfl⟩ := List.prefix_map_iff.1 hdone
      exact reads_iff.1 (h.reads calls' hpre)
    exact ownKey_iff.2 (alone_of_agrees hops (List.mem_map_of_mem (f := Call.op) hm))
  · intro h
    refine ⟨fun done hdone => ?_, ?_⟩
    · refine reads_iff.2 (agrees_of_alone (fun p q => pairKey_of_pair) fun p role hm => ?_)
      obtain ⟨call, hcall, hop⟩ := List.mem_map.1 hm
      cases call with
      | assignRole u role' o byUpn =>
        obtain ⟨rfl, rfl⟩ := MapOp.put.inj hop
        exact ownKey_iff.1 (h u _ o byUpn (hdone.subset hcall))
      | clearAssignments => cases hop
    · intro done u role o byUpn hpre u' o' hother
      have hown := h u role o byUpn (hpre.subset (by simp))
      rw [assignmentsAfter, List.foldl_append, ← assignmentsAfter]
      exact Function.update_of_ne (fun hkey => hother (hown u' o' hkey)) _ _

/-! ## Ids that need no care -/

/-- No `::` in either id, and no colon beside the one between them. -/
theorem ownKey_of_plain {toLowerCase : String → String} {u o : String} (hu : Clear "::".toList (toLowerCase u).toList)
    (ho : ¬ "::".toList <:+: ':' :: o.toList) : OwnKey toLowerCase u o := by
  intro u' o' hkey
  have htext : (toLowerCase u').toList ++ "::".toList ++ o'.toList = (toLowerCase u).toList ++ "::".toList ++ o.toList := by
    have h := congrArg String.toList hkey
    rwa [assignmentKey, assignmentKey, String.toList_append, String.toList_append, String.toList_append,
      String.toList_append] at h
  obtain ⟨hu', ho'⟩ := hu.cut_unique ho htext
  exact ⟨String.toList_inj.1 hu', String.toList_inj.1 ho'⟩

/-- A role on one operation is read on another: `ana` on `op::1` has the key of `ana::op` on `1`. -/
theorem assignments_shared : ¬ Refines String.toLower [.assignRole "ana" .EDITOR "op::1" "boss"] := by
  intro h
  have hlower : ∀ s : String, s.toList.map Char.toLower = s.toList → s.toLower = s :=
    fun s hs => String.toList_inj.1 (String.toList_map.trans hs)
  have hkey : assignmentKey String.toLower "ana::op" "1" = assignmentKey String.toLower "ana" "op::1" := by
    rw [assignmentKey, assignmentKey, hlower "ana::op" (by decide), hlower "ana" (by decide)]
    decide
  have hother : ¬ ("ana::op".toLower = "ana".toLower ∧ "1" = "op::1") := fun ho => absurd ho.2 (by decide)
  have hframe := h.frame [] "ana" .EDITOR "op::1" "boss" (List.prefix_refl _) "ana::op" "1" hother
  have hread : getAssignedRole String.toLower (assignmentsAfter String.toLower [.assignRole "ana" .EDITOR "op::1" "boss"])
      "ana::op" "1" = some .EDITOR := (congrArg _ hkey).trans (Function.update_self ..)
  cases hread.symm.trans hframe

end Tactix.Rbac
