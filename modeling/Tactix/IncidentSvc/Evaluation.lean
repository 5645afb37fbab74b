import Mathlib.Order.UpperLower.Closure
import Tactix.Lib.Occurs
import Tactix.Rbac
/-!
# What the evaluation of permissions keeps to

The roles are ordered, and a set of effective roles is the lower closure of what a user
has authority from. That the order of groups and rows, repeats and other users' rows do not
matter, and that roles never shrink, follows from it.
-/
open ServiceLib

namespace Tactix.IncidentSvc

theorem Role.rank_injective : Function.Injective Role.rank := by
  intro r s h
  cases r <;> cases s <;> cases h <;> rfl

/-- ADMIN > IMO > EDITOR > VIEWER. -/
instance : PartialOrder Role := PartialOrder.lift Role.rank Role.rank_injective

/-- VIEWER by an AD group of the operation, and the roles granted to the user. -/
def authority (suffixes : List String) (user : User) (op : String) (grants : List RoleGrantRow) : Set Role :=
  {r | (r = .VIEWER ∧ ∃ suffix ∈ suffixes, op ++ "_" ++ suffix ∈ user.ad_groups) ∨
    ∃ g ∈ grants, some g.user_upn = user.upn ∧ g.role = some r.name}

structure Evaluation (suffixes : List String) : Prop where
  closure : ∀ user op grants, {r | r ∈ effective suffixes user op grants} = lowerClosure (authority suffixes user op grants)
  /-- Neither order nor repeats matter. -/
  same : ∀ upn op groups groups' grants grants', (∀ group, group ∈ groups ↔ group ∈ groups') →
    (∀ g, g ∈ grants ↔ g ∈ grants') →
      ∀ r, r ∈ effective suffixes ⟨upn, groups⟩ op grants ↔ r ∈ effective suffixes ⟨upn, groups'⟩ op grants'
  /-- Other users' rows do not matter. -/
  own : ∀ user op grants, effective suffixes user op (grants.filter fun g => some g.user_upn = user.upn) =
    effective suffixes user op grants
  grows : ∀ upn op groups groups' grants grants', groups ⊆ groups' → grants ⊆ grants' →
    effective suffixes ⟨upn, groups⟩ op grants ⊆ effective suffixes ⟨upn, groups'⟩ op grants'
  can : ∀ roles roles' action, (∀ r ∈ roles, ∃ s ∈ roles', r ≤ s) → can roles action = true → can roles' action = true
  /-- A group is of one operation. -/
  one : (∀ suffix ∈ suffixes, '_' ∉ suffix.toList) → ∀ group upn upn' op op',
    .VIEWER ∈ effective suffixes ⟨upn, [group]⟩ op [] → .VIEWER ∈ effective suffixes ⟨upn', [group]⟩ op' [] → op = op'

section
variable {suffixes : List String} {user : User} {op : String} {grants : List RoleGrantRow} {r : Role}

theorem mem_sources : r ∈ sources suffixes user op grants ↔ r ∈ authority suffixes user op grants := by
  unfold sources authority
  rw [List.mem_append, Set.mem_ofPred_eq]
  refine or_congr ?_ ?_
  · by_cases hread : readGroup suffixes user.ad_groups op = true
    · rw [if_pos hread, List.mem_singleton]
      simp only [readGroup, List.any_eq_true, decide_eq_true_eq] at hread
      rw [and_iff_left hread]
    · rw [if_neg hread]
      simp only [readGroup, List.any_eq_true, decide_eq_true_eq] at hread
      simp only [List.not_mem_nil, hread, and_false]
  · rw [List.mem_filterMap]
    refine exists_congr fun g => and_congr_right fun _ => ?_
    split
    · rename_i hown
      rw [Option.bind_eq_some_iff, and_iff_right hown]
      constructor
      · rintro ⟨name, hname, hr⟩
        rw [hname, Role.name_of_ofName? hr]
      · intro hrole
        exact ⟨r.name, hrole, Role.ofName?_name r⟩
    · rename_i hown
      simp [hown]

theorem mem_effective : r ∈ effective suffixes user op grants ↔ ∃ s ∈ authority suffixes user op grants, r ≤ s := by
  have hall : r ∈ [Role.VIEWER, .EDITOR, .IMO, .ADMIN] := by cases r <;> decide
  rw [mem_effective_iff, documentedRoles, List.mem_filter, List.any_eq_true, and_iff_right hall]
  simp only [mem_sources, decide_eq_true_eq]
  exact Iff.rfl

theorem authority_mono {upn : Option String} {groups groups' : List String} {grants' : List RoleGrantRow}
    (hgroups : groups ⊆ groups') (hgrants : grants ⊆ grants') :
    authority suffixes ⟨upn, groups⟩ op grants ⊆ authority suffixes ⟨upn, groups'⟩ op grants' := by
  rintro r (⟨rfl, suffix, hsuffix, hg⟩ | ⟨g, hg, hown, hrole⟩)
  · exact .inl ⟨rfl, suffix, hsuffix, hgroups hg⟩
  · exact .inr ⟨g, hgrants hg, hown, hrole⟩

theorem effective_mono {upn : Option String} {groups groups' : List String} {grants' : List RoleGrantRow}
    (hgroups : groups ⊆ groups') (hgrants : grants ⊆ grants') :
    effective suffixes ⟨upn, groups⟩ op grants ⊆ effective suffixes ⟨upn, groups'⟩ op grants' := by
  intro r hr
  obtain ⟨s, hs, hrs⟩ := mem_effective.1 hr
  exact mem_effective.2 ⟨s, authority_mono hgroups hgrants hs, hrs⟩

theorem effective_own : effective suffixes user op (grants.filter fun g => some g.user_upn = user.upn) =
    effective suffixes user op grants := by
  unfold effective
  rw [List.foldl_filter]
  congr 1
  funext roles g
  by_cases hown : some g.user_upn = user.upn
  · rw [if_pos (decide_eq_true hown)]
  · rw [if_neg (by simpa using hown), if_neg hown]

/-- VIEWER without a grant comes from a group with the name of the operation. -/
theorem viewer_group {upn : Option String} {group : String} (h : .VIEWER ∈ effective suffixes ⟨upn, [group]⟩ op []) :
    ∃ suffix ∈ suffixes, group = op ++ "_" ++ suffix := by
  obtain ⟨s, ⟨-, suffix, hsuffix, hg⟩ | ⟨g, hg, -⟩, -⟩ := mem_effective.1 h
  · exact ⟨suffix, hsuffix, (List.mem_singleton.1 hg).symm⟩
  · cases hg

theorem group_op_unique {op' s s' : String} (hs : '_' ∉ s.toList) (hs' : '_' ∉ s'.toList)
    (h : op ++ "_" ++ s = op' ++ "_" ++ s') : op = op' := by
  have htext := congrArg String.toList h
  simp only [String.toList_append, List.append_assoc] at htext
  exact String.toList_inj.1 (cut_last_unique hs hs' htext).1

end

/-- A role that may do more may do what a lower one may. -/
theorem can_mono {roles roles' : List Role} {action : Action} (h : ∀ r ∈ roles, ∃ s ∈ roles', r ≤ s)
    (hcan : can roles action = true) : can roles' action = true := by
  rw [Rbac.incidentSvc_can, Rbac.can_iff] at hcan ⊢
  obtain ⟨r, hr, hneed⟩ := hcan
  obtain ⟨s, hs, hrs⟩ := h r hr
  exact ⟨s, hs, hneed.trans hrs⟩

/-- Whatever the suffixes, the evaluation keeps to this. -/
theorem effective_evaluation (suffixes : List String) : Evaluation suffixes := by
  refine ⟨?_, ?_, fun user op grants => effective_own, ?_, fun roles roles' action => can_mono, ?_⟩
  · intro user op grants
    ext r
    exact mem_effective.trans mem_lowerClosure.symm
  · intro upn op groups groups' grants grants' hgroups hgrants r
    exact ⟨fun hr => effective_mono (fun g => (hgroups g).1) (fun g => (hgrants g).1) hr,
      fun hr => effective_mono (fun g => (hgroups g).2) (fun g => (hgrants g).2) hr⟩
  · intro upn op groups groups' grants grants' hgroups hgrants
    exact effective_mono hgroups hgrants
  · intro hplain group upn upn' op op' h h'
    obtain ⟨s, hs, rfl⟩ := viewer_group h
    obtain ⟨s', hs', heq⟩ := viewer_group h'
    exact group_op_unique (hplain s hs) (hplain s' hs') heq

end Tactix.IncidentSvc
