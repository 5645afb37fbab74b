import Mathlib.Logic.Function.Basic
import Tactix.Lib.Runs
import Tactix.Schedule.Calls
/-!
# What a consumer of the envelopes sees

A consumer folds the `SCHEDULE_SHIFT_*` envelopes into a map keyed by
`shiftId`. `deleteShift` announces the deletion of whatever id it was given:
`consumer_agrees` says that the map is the table in every run whose deletions
name a shift of the operation, and `delete_announces` that one other deletion
is enough to lose a shift that is still there.
-/
open Tactix.Js ServiceLib

namespace Tactix.Schedule

/-- A shift as it is announced, with its operation. -/
abbrev Entry := String × ShiftPart

/-- One envelope, on a map keyed by `shiftId`. -/
def consume (seen : String → Option Entry) : Envelope → String → Option Entry
  | .SCHEDULE_SHIFT_CREATED opId shift | .SCHEDULE_SHIFT_UPDATED opId shift =>
    match shift.shiftId with
    | some id => Function.update seen id (some (opId, shift))
    | none => seen
  | .SCHEDULE_SHIFT_DELETED _ id => Function.update seen id none

/-- The map after all envelopes. -/
def consumed (es : List Envelope) : String → Option Entry := es.foldl consume fun _ => none

/-- `cp_shifts` by id, down to operation, user, role, start, end and notes. -/
def project (rows : List ShiftRow) (id : String) : Option Entry :=
  (rows.find? (·.shift_id = id)).map fun row => (row.operation_id, (camel row).part)

/-- The answers of a database on which `NOTIFY` succeeds. -/
def announcing (env : Env) (d : Db) (q : Query) (a : q.Reply) (d' : Db) : Prop :=
  answers env d q a d' ∧ ((∃ e, q = .notify e) → a ≠ none)

/-- A step announces what it did, and nothing else. -/
inductive Told (env : Env) (d d' : Db) : Prop
  | nothing : d'.cp_shifts = d.cp_shifts → d'.notified = d.notified → Told env d d'
  | created {row : ShiftRow} : row.shift_id ∉ d.cp_shifts.rows.map (·.shift_id) →
      d'.cp_shifts.rows = d.cp_shifts.rows ++ [row] →
      d'.notified = d.notified ++ [.SCHEDULE_SHIFT_CREATED row.operation_id (camel row).part] → Told env d d'
  | updated {row row' : ShiftRow} : row ∈ d.cp_shifts.rows → row'.shift_id = row.shift_id →
      d'.cp_shifts.rows = (d.cp_shifts.rows.map fun r => if r.shift_id = row.shift_id then row' else r) →
      d'.notified = d.notified ++ [.SCHEDULE_SHIFT_UPDATED row'.operation_id (camel row').part] → Told env d d'
  | deleted {row : ShiftRow} {opId : String} : row ∈ d.cp_shifts.rows → env.uuid opId = some row.operation_id →
      d'.cp_shifts.rows = (d.cp_shifts.rows.filter fun r => r.shift_id ≠ row.shift_id) →
      d'.notified = d.notified ++ [.SCHEDULE_SHIFT_DELETED opId row.shift_id] → Told env d d'

/-- The ids of a call are written as Postgres prints them, and a deletion names
a stored shift of its operation. -/
def Named (env : Env) (d : Db) (a : Call × Except Error (Option ShiftView)) : Prop :=
  match a.1 with
  | .createShift opId _ _ | .updateShift opId _ _ => ∀ o, env.uuid opId = some o → o = opId
  | .deleteShift opId shiftId => ∀ o i, env.uuid opId = some o → env.uuid shiftId = some i →
      ∃ row ∈ d.cp_shifts.rows, row.operation_id = o ∧ row.shift_id = i ∧ i = shiftId

/-! ## One envelope -/

theorem project_add {rows : List ShiftRow} {row : ShiftRow} (h : row.shift_id ∉ rows.map (·.shift_id)) :
    project (rows ++ [row]) = Function.update (project rows) row.shift_id (some (row.operation_id, (camel row).part)) := by
  funext id
  by_cases hid : id = row.shift_id
  · subst hid
    have hnone : rows.find? (·.shift_id = row.shift_id) = none := by
      refine List.find?_eq_none.2 fun r hr he => h ?_
      rw [← of_decide_eq_true he]
      exact List.mem_map_of_mem hr
    simp [project, List.find?_append, hnone]
  · rw [Function.update_of_ne hid]
    simp [project, List.find?_append, Ne.symm hid]

theorem project_replace {rows : List ShiftRow} {row row' : ShiftRow} (h : row ∈ rows)
    (hid' : row'.shift_id = row.shift_id) :
    project (rows.map fun r => if r.shift_id = row.shift_id then row' else r) =
      Function.update (project rows) row'.shift_id (some (row'.operation_id, (camel row').part)) := by
  have hkeep : ∀ r : ShiftRow, (if r.shift_id = row.shift_id then row' else r).shift_id = r.shift_id := by
    intro r
    split
    · rename_i he
      rw [hid', he]
    · rfl
  funext id
  rw [project, List.find?_map]
  simp only [Function.comp_def, hkeep, Option.map_map]
  by_cases hid : id = row'.shift_id
  · rw [hid, Function.update_self, hid']
    cases hf : rows.find? (·.shift_id = row.shift_id) with
    | none => exact absurd (List.find?_eq_none.1 hf row h) (by simp)
    | some r =>
      have hr : r.shift_id = row.shift_id := by simpa using List.find?_some hf
      simp [hr]
  · rw [Function.update_of_ne hid, project]
    cases hf : rows.find? (·.shift_id = id) with
    | none => rfl
    | some r =>
      have hr : r.shift_id = id := by simpa using List.find?_some hf
      simp [show ¬ r.shift_id = row.shift_id from fun he => hid (by rw [← hr, he, hid'])]

theorem project_remove {rows : List ShiftRow} {id : String} :
    project (rows.filter fun r => r.shift_id ≠ id) = Function.update (project rows) id none := by
  funext id'
  by_cases hid : id' = id
  · subst hid
    rw [Function.update_self, project, List.find?_eq_none.2, Option.map_none]
    intro r hr he
    simp only [List.mem_filter, decide_eq_true_eq] at hr he
    exact hr.2 he
  · rw [Function.update_of_ne hid, project, project, List.find?_filter]
    congr 2
    funext r
    by_cases hr : r.shift_id = id' <;> simp [hr, hid]

/-- A consumer that was up to date still is after a step that tells what it did. -/
theorem Told.consumed {env : Env} {d d' : Db} (h : Told env d d') (hi : consumed d.notified = project d.cp_shifts.rows) :
    consumed d'.notified = project d'.cp_shifts.rows := by
  cases h with
  | nothing hs hn => rw [hs, hn, hi]
  | created hfresh hs hn => rw [hs, hn, project_add hfresh, ← hi, Schedule.consumed, List.foldl_concat]; rfl
  | updated hrow hid hs hn => rw [hs, hn, project_replace hrow hid, ← hi, Schedule.consumed, List.foldl_concat]; rfl
  | deleted hrow hop hs hn => rw [hs, hn, project_remove, ← hi, Schedule.consumed, List.foldl_concat]; rfl

/-! ## One call -/

theorem announcing_answers (env : Env) : Answering env (announcing env) := fun _ _ _ _ h => h.1

/-- `NOTIFY` succeeds, so the envelope is sent. -/
theorem notify_sent {env : Env} {d d' : Db} {e : Envelope} {a : Query.Reply (.notify e)}
    (h : announcing env d (.notify e) a d') : d' = { d with notified := d.notified ++ [e] } := by
  cases a with
  | none => exact absurd rfl (h.2 ⟨e, rfl⟩)
  | some u => exact h.1

theorem told_of_step {env : Env} {d d' : Db} {a : Call × Except Error (Option ShiftView)} (hc : Named env d a)
    (h : CallStep env (announcing env) d a d') : Told env d d' := by
  cases ran_of_step (announcing_answers env) h with
  | createShift hr =>
    cases hr with
    | refused => exact .nothing rfl rfl
    | @added row d₁ _ _ _ hins hfresh hset hn =>
      obtain rfl := hc _ hins.1
      rw [notify_sent hn]
      exact .created hfresh hset.1 (by rw [hset.2.2])
  | updateShift hr =>
    cases hr with
    | refused => exact .nothing rfl rfl
    | @changed row row' d₁ _ _ hrow hop hid _ hup hset hn =>
      obtain rfl := hc _ hop
      rw [notify_sent hn]
      exact .updated hrow hup.1 hset.1 (by rw [hset.2.2, hup.2.1])
  | deleteShift hr =>
    cases hr with
    | rejected => exact .nothing rfl rfl
    | @removed o i d₁ _ _ ho hi hset hn =>
      obtain ⟨row, hrow, rfl, rfl, rfl⟩ := hc o i ho hi
      rw [notify_sent hn]
      refine .deleted hrow ho ?_ (by rw [hset.2.2])
      -- The key alone picks the row out.
      rw [hset.1]
      refine List.filter_congr fun r hr => ?_
      by_cases hid : r.shift_id = row.shift_id
      · simp [Shifts.eq_of_id hr hrow hid]
      · simp [hid]

/-! ## Runs -/

/-- In every run in which the ids are spelled as Postgres prints them and each
deletion names a stored shift of its operation, the consumer's map is the table
after every call, and each call tells exactly what it did. -/
theorem consumer_agrees (env : Env) (roster : Roster) {d : Db}
    (h : Reachable (Guarded (Named env) (CallStep env (announcing env))) (Db.start roster) d) :
    consumed d.notified = project d.cp_shifts.rows ∧
      ∀ a d', Named env d a → CallStep env (announcing env) d a d' → Told env d d' := by
  refine ⟨?_, fun a d' hc hs => told_of_step hc hs⟩
  refine h.inv (I := fun d => consumed d.notified = project d.cp_shifts.rows) rfl ?_
  rintro d a d' hi ⟨hc, hs⟩
  exact (told_of_step hc hs).consumed hi

theorem announcing_serving (env : Env) : Serving env (announcing env) :=
  fun _ _ _ _ h => ⟨h, fun _ => Option.some_ne_none _⟩

/-- Two shifts are added, and the consumer has both. -/
theorem consumer_agrees_sample : consumed Sample.db₂.notified = project Sample.db₂.cp_shifts.rows :=
  (consumer_agrees .sample Sample.roster
    ((Reachable.refl.nextGuarded _ (by simp [Named, Env.sample]) (Sample.first (announcing_serving _))).nextGuarded _
      (by simp [Named, Env.sample]) (Sample.second (announcing_serving _)))).1

/-- A deletion of Ana's shift under another operation deletes nothing, and the
consumer drops the shift. -/
theorem delete_announces :
    ¬ ∀ d, Reachable (CallStep .sample (announcing .sample)) (Db.start Sample.roster) d →
      consumed d.notified = project d.cp_shifts.rows := by
  intro hall
  have hserve := announcing_serving .sample
  let e : Envelope := .SCHEDULE_SHIFT_DELETED "00000000-0000-0000-0000-000000000002" Sample.rowA.shift_id
  have hrun : Alone (announcing .sample) (deleteShift "00000000-0000-0000-0000-000000000002" Sample.rowA.shift_id) 0
      Sample.db₁ 0 { Sample.db₁ with notified := Sample.db₁.notified ++ [e] } (.ok ()) :=
    query_exec hserve (.deleteShift _ _) () ⟨"00000000-0000-0000-0000-000000000002", Sample.rowA.shift_id, by decide,
      by decide, rfl, rfl, rfl⟩ (notify_exec hserve)
  have hreach := (Reachable.refl.next _ (Sample.first hserve)).next
    (.deleteShift "00000000-0000-0000-0000-000000000002" Sample.rowA.shift_id, .ok none)
    ⟨_, _, Prog.exec_map.2 ⟨.ok (), hrun, rfl⟩⟩
  have heq := congrFun (hall _ hreach) Sample.rowA.shift_id
  exact absurd heq (by decide)

end Tactix.Schedule
