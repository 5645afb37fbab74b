import Tactix.IncidentSvc.Tasks
import Tactix.Lib.Runs
/-!
# The tasks of an incident

`GET` and `POST /incidents/:id/tasks` beside the `PATCH` of `Tasks.lean`, over whole runs. A
list has what was touched last at its head: `reread_tasks` says what a second list tells to
somebody who has the first.
-/
open Tactix.Js ServiceLib

namespace Tactix.IncidentSvc

/-! ## Listing and creating -/

/-- The rows `getTasksHandler` may answer with; rows of one `updated_at` come in any order. -/
def ListsTasks (table : List TaskRow) (incidentId : Nat) (status : Option String) (found : List TaskRow) : Prop :=
  found.Perm (table.filter fun row => row.incident_id = incidentId ∧ ∀ s ∈ orString status none, row.status = s) ∧
    found.Pairwise fun a b => b.updated_at ≤ a.updated_at

/-- A body the schema of `postTaskHandler` accepts. -/
structure TaskDraft where
  role : String
  assigneeUpn : Option String
  title : String
  description : String

def taskDraftSchema : Json → Option TaskDraft
  | .obj fields => do
    let body := Json.obj fields
    let role ← str? (body.get? "role")
    let assigneeUpn ← optionalString (body.get? "assigneeUpn")
    let title ← str? (body.get? "title")
    let description ← str? (body.get? "description")
    return ⟨role, assigneeUpn, title, description⟩
  | _ => none

/-- The row of the `INSERT`. `sub` is the one of the user. -/
def TaskDraft.row (draft : TaskDraft) (now incidentId : Nat) (sub : Option String) (taskId : String) : TaskRow where
  task_id := taskId
  incident_id := incidentId
  role := draft.role
  assignee_upn := orString draft.assigneeUpn none
  title := draft.title
  description := draft.description
  status := "open"
  created_by := (orString (orString sub draft.assigneeUpn) (some "unknown")).getD ""
  created_at := now
  updated_at := now

/-- The texts of a row, as parameters of the `INSERT`. -/
def TaskRow.texts (row : TaskRow) : List SqlValue :=
  ([row.role] ++ row.assignee_upn.toList ++ [row.title, row.description, row.status, row.created_by]).map .text

/-- `postTaskHandler`, with the id `randomUUID()`; `none` when it throws: the primary key is taken, the
incident is none of `incidents`, or a text cannot be stored. What becomes of the `NOTIFY` does not matter. -/
def postTaskHandler (table : List TaskRow) (incidents : List Nat) (now incidentId : Nat) (sub : Option String)
    (taskId : String) (body : Json) : Option (List TaskRow × TaskReply) :=
  match taskDraftSchema body with
  | none => some (table, ⟨400, .error "invalid body"⟩)
  | some draft =>
    let row := draft.row now incidentId sub taskId
    if taskId ∉ table.map (·.task_id) ∧ incidentId ∈ incidents ∧ row.texts.all SqlValue.storable then
      some (table ++ [row], ⟨201, .task row⟩)
    else none

/-! ## Runs -/

inductive TaskChange where
  | post (incidentId : Nat) (sub : Option String) (taskId : String) (body : Json)
  | patch (incidentId : Nat) (taskId : String) (body : Json)

/-- A handler that has taken its `new Date()`; its statement has not run. -/
structure TaskWrite where
  now : Nat
  change : TaskChange

structure TaskStore where
  rows : List TaskRow
  now : Nat
  writes : List TaskWrite

def TaskWrite.result (w : TaskWrite) (table : List TaskRow) (incidents : List Nat) : Option (List TaskRow × TaskReply) :=
  match w.change with
  | .post incidentId sub taskId body => postTaskHandler table incidents w.now incidentId sub taskId body
  | .patch incidentId taskId body => patchTaskHandler table w.now incidentId taskId body

/-- The table after a handler; a query that fails leaves it alone. -/
def TaskWrite.table (w : TaskWrite) (table : List TaskRow) (incidents : List Nat) : List TaskRow :=
  ((w.result table incidents).map Prod.fst).getD table

inductive TaskAction where
  | tick (n : Nat)
  | asks (change : TaskChange)
  | lands (incidents : List Nat)
  | fails

/-- Statements run in any order, and any of them may fail. -/
inductive TaskStep (s : TaskStore) : TaskAction → TaskStore → Prop
  | tick {n : Nat} : TaskStep s (.tick n) { s with now := s.now + n }
  | asks {change : TaskChange} : TaskStep s (.asks change) { s with writes := s.writes ++ [⟨s.now, change⟩] }
  | lands {incidents : List Nat} {p q : List TaskWrite} {w : TaskWrite} : s.writes = p ++ w :: q →
      TaskStep s (.lands incidents) { s with rows := w.table s.rows incidents, writes := p ++ q }
  | fails {p q : List TaskWrite} {w : TaskWrite} : s.writes = p ++ w :: q → TaskStep s .fails { s with writes := p ++ q }

/-! ## What a handler does to the table -/

/-- A new row at the end, or some of the rows touched: each keeps its key and its incident. -/
inductive Touches (now : Nat) (table : List TaskRow) : List TaskRow → Prop
  | same : Touches now table table
  | inserted {row : TaskRow} : row.task_id ∉ table.map (·.task_id) → row.updated_at = now → Touches now table (table ++ [row])
  | updated {p : TaskRow → Prop} [DecidablePred p] {f : TaskRow → TaskRow} :
      (∀ row, (f row).task_id = row.task_id ∧ (f row).incident_id = row.incident_id ∧ (f row).updated_at = now) →
      Touches now table (table.map fun row => if p row then f row else row)

theorem touches_post {table table' : List TaskRow} {incidents : List Nat} {now incidentId : Nat} {sub : Option String}
    {taskId : String} {body : Json} {reply : TaskReply}
    (h : postTaskHandler table incidents now incidentId sub taskId body = some (table', reply)) : Touches now table table' := by
  unfold postTaskHandler at h
  split at h
  · cases h
    exact .same
  · dsimp only at h
    split at h
    · rename_i hrow
      cases h
      exact .inserted hrow.1 rfl
    · cases h

theorem touches_patch {table table' : List TaskRow} {now incidentId : Nat} {taskId : String} {body : Json} {reply : TaskReply}
    (h : patchTaskHandler table now incidentId taskId body = some (table', reply)) : Touches now table table' := by
  cases hbody : taskPatchSchema body with
  | none =>
    rw [patchTaskHandler, hbody] at h
    cases h
    exact .same
  | some data =>
    by_cases hnil : data.assignments.fields = []
    · rw [patchTask_nothing hbody hnil] at h
      cases h
      exact .same
    · rw [patchTask_update hbody hnil] at h
      by_cases hparams : (data.assignments.statement now incidentId taskId).params.all SqlValue.storable = true
      · rw [run_statement hparams] at h
        have htable : table' = data.updated incidentId taskId (fun _ => now) table := by
          split at h
          · cases h
          · rename_i hrun
            cases h
            exact (Prod.mk.inj (Option.some.inj hrun)).1.symm
          · rename_i hrun
            cases h
            exact (Prod.mk.inj (Option.some.inj hrun)).1.symm
        rw [htable]
        exact .updated fun row => ⟨rfl, rfl, rfl⟩
      · have hrefused : (data.assignments.statement now incidentId taskId).run table = none := if_neg hparams
        rw [hrefused] at h
        cases h

theorem TaskWrite.touches (w : TaskWrite) (table : List TaskRow) (incidents : List Nat) :
    Touches w.now table (w.table table incidents) := by
  unfold TaskWrite.table
  cases hresult : w.result table incidents with
  | none => exact .same
  | some answer =>
    unfold TaskWrite.result at hresult
    split at hresult
    · exact touches_post hresult
    · exact touches_patch hresult

/-! ## A later list -/

section
variable {s s' : TaskStore} {t : Nat}

/-- The table after `t`: rows are as they were or have been touched since, and what is under way will be. -/
structure TaskStore.Since (s : TaskStore) (t : Nat) (s' : TaskStore) : Prop where
  now : t < s'.now
  writes : ∀ w ∈ s'.writes, t < w.now
  back : ∀ row ∈ s'.rows, row ∈ s.rows ∨ t < row.updated_at
  forth : ∀ row ∈ s.rows, row ∈ s'.rows ∨ ∃ row' ∈ s'.rows, row'.task_id = row.task_id ∧ row'.incident_id = row.incident_id ∧
    t < row'.updated_at

theorem Touches.back {now : Nat} {table table' : List TaskRow} (ht : Touches now table table') {row : TaskRow}
    (hrow : row ∈ table') : row ∈ table ∨ row.updated_at = now := by
  cases ht with
  | same => exact .inl hrow
  | inserted _ hnow =>
    rcases List.mem_append.1 hrow with hrow | hrow
    · exact .inl hrow
    · exact .inr (List.mem_singleton.1 hrow ▸ hnow)
  | updated hf =>
    obtain ⟨r, hr, rfl⟩ := List.mem_map.1 hrow
    split
    · exact .inr (hf r).2.2
    · exact .inl hr

theorem Touches.forth {now : Nat} {table table' : List TaskRow} (ht : Touches now table table') {row : TaskRow}
    (hrow : row ∈ table) : row ∈ table' ∨ ∃ row' ∈ table', row'.task_id = row.task_id ∧ row'.incident_id = row.incident_id ∧
      row'.updated_at = now := by
  cases ht with
  | same => exact .inl hrow
  | inserted => exact .inl (List.mem_append_left _ hrow)
  | @updated p _ f hf =>
    have himage : (if p row then f row else row) ∈ table.map fun row => if p row then f row else row := List.mem_map_of_mem hrow
    by_cases hp : p row
    · exact .inr ⟨f row, by simpa [hp] using himage, hf row⟩
    · exact .inl (by simpa [hp] using himage)

/-- A statement with a later date keeps it. -/
theorem TaskStore.Since.touched {now : Nat} {table : List TaskRow} (h : s.Since t s') (hnow : t < now)
    (ht : Touches now s'.rows table) : s.Since t { s' with rows := table } where
  now := h.now
  writes := h.writes
  back row hrow := by
    rcases ht.back hrow with hrow | hrow
    · exact h.back row hrow
    · exact .inr (hrow ▸ hnow)
  forth row hrow := by
    rcases h.forth row hrow with hrow | ⟨row₁, hrow₁, hkey, hincident, hlt⟩
    · rcases ht.forth hrow with hrow | ⟨row', hrow', hkey, hincident, hlt⟩
      · exact .inl hrow
      · exact .inr ⟨row', hrow', hkey, hincident, hlt ▸ hnow⟩
    · rcases ht.forth hrow₁ with hrow₁ | ⟨row', hrow', hkey', hincident', hlt'⟩
      · exact .inr ⟨row₁, hrow₁, hkey, hincident, hlt⟩
      · exact .inr ⟨row', hrow', hkey'.trans hkey, hincident'.trans hincident, hlt' ▸ hnow⟩

theorem since_step {a : TaskAction} {s₁ s₂ : TaskStore} (h : s.Since t s₁) (hstep : TaskStep s₁ a s₂) : s.Since t s₂ := by
  cases hstep with
  | tick => exact ⟨h.now.trans_le (Nat.le_add_right ..), h.writes, h.back, h.forth⟩
  | asks =>
    refine ⟨h.now, fun w hw => ?_, h.back, h.forth⟩
    rcases List.mem_append.1 hw with hw | hw
    · exact h.writes w hw
    · exact List.mem_singleton.1 hw ▸ h.now
  | @lands incidents p q w heq =>
    have hwrites : ∀ w' ∈ p ++ w :: q, t < w'.now := heq ▸ h.writes
    obtain ⟨hnow, hwrites', hback, hforth⟩ := h.touched (hwrites w (by simp)) (w.touches s₁.rows incidents)
    exact ⟨hnow, fun w' hw' => hwrites w' (by simp at hw' ⊢; tauto), hback, hforth⟩
  | @fails p q w heq =>
    have hwrites : ∀ w' ∈ p ++ w :: q, t < w'.now := heq ▸ h.writes
    exact ⟨h.now, fun w' hw' => hwrites w' (by simp at hw' ⊢; tauto), h.back, h.forth⟩

theorem since_of_reachable (hnow : t < s.now) (hwrites : ∀ w ∈ s.writes, t < w.now) (h : Reachable TaskStep s s') :
    s.Since t s' :=
  h.inv (I := s.Since t) ⟨hnow, hwrites, fun _ hrow => .inl hrow, fun _ hrow => .inl hrow⟩ fun _ _ _ => since_step

theorem mem_listsTasks {table found : List TaskRow} {incidentId : Nat} {status : Option String}
    (h : ListsTasks table incidentId status found) {row : TaskRow} :
    row ∈ found ↔ row ∈ table ∧ row.incident_id = incidentId ∧ ∀ s ∈ orString status none, row.status = s := by
  rw [h.1.mem_iff, List.mem_filter, decide_eq_true_eq]

/-- A table in the order of the list is the list of its incident. -/
theorem listsTasks_self {rows : List TaskRow} {incidentId : Nat} (hall : ∀ row ∈ rows, row.incident_id = incidentId)
    (h : rows.Pairwise fun a b => b.updated_at ≤ a.updated_at) : ListsTasks rows incidentId none rows := by
  have hrows : (rows.filter fun row => row.incident_id = incidentId ∧ ∀ s ∈ orString none none, row.status = s) = rows :=
    List.filter_eq_self.2 fun row hrow => by simpa [orString] using hall row hrow
  exact ⟨by rw [hrows], h⟩

end

/-- A list read after another one is what has been touched since `t`, and then tasks of the first list:
exactly those older than `t` that are still as they were. The other ones older than `t` have been touched. At
`t` every handler that is under way at the first list had yet to start. -/
theorem reread_tasks {s s' : TaskStore} {t : Nat} (hnow : t < s.now) (hwrites : ∀ w ∈ s.writes, t < w.now)
    (h : Reachable TaskStep s s') {incidentId : Nat} {status : Option String} {l l' : List TaskRow}
    (hl : ListsTasks s.rows incidentId status l) (hl' : ListsTasks s'.rows incidentId status l') :
    ∃ fresh kept, l' = fresh ++ kept ∧ (∀ row ∈ fresh, t < row.updated_at) ∧
      (∀ row, row ∈ kept ↔ row ∈ l ∧ row.updated_at ≤ t ∧ row ∈ s'.rows) ∧
      ∀ row ∈ l, row.updated_at ≤ t → row ∉ kept → ∃ row' ∈ s'.rows, row'.task_id = row.task_id ∧
        row'.incident_id = incidentId ∧ t < row'.updated_at := by
  have hs := since_of_reachable hnow hwrites h
  have hkept : ∀ row, row ∈ l'.filter (fun row => row.updated_at ≤ t) ↔ row ∈ l ∧ row.updated_at ≤ t ∧ row ∈ s'.rows := by
    intro row
    rw [List.mem_filter, decide_eq_true_eq, mem_listsTasks hl', mem_listsTasks hl]
    constructor
    · rintro ⟨⟨hrow, hmatch⟩, hold⟩
      exact ⟨⟨(hs.back row hrow).resolve_right (Nat.not_lt.2 hold), hmatch⟩, hold, hrow⟩
    · rintro ⟨⟨-, hmatch⟩, hold, hrow'⟩
      exact ⟨⟨hrow', hmatch⟩, hold⟩
  refine ⟨l'.filter fun row => t < row.updated_at, l'.filter fun row => row.updated_at ≤ t,
    (filter_append_filter_of_sorted TaskRow.updated_at t hl'.2).symm, fun row hrow => ?_, hkept, fun row hrow hold hnot => ?_⟩
  · simpa using (List.mem_filter.1 hrow).2
  · obtain ⟨hrows, hincident, -⟩ := (mem_listsTasks hl).1 hrow
    rcases hs.forth row hrows with hstill | ⟨row', hrow', hkey, hincident', hlt⟩
    · exact absurd ((hkept row).2 ⟨hrow, hold, hstill⟩) hnot
    · exact ⟨row', hrow', hkey, hincident'.trans hincident, hlt⟩

def demoTask (taskId title : String) (updated_at : Nat) : TaskRow :=
  ⟨taskId, 7, "ops", none, title, "", "open", "a@x", 1, updated_at⟩

/-- One of two tasks is renamed between the lists. -/
theorem reread_tasks_sample : ∃ fresh kept, [demoTask "t1" "Map" 6, demoTask "t2" "Call" 3] = fresh ++ kept ∧
    (∀ row ∈ fresh, 4 < row.updated_at) ∧
    (∀ row, row ∈ kept ↔ row ∈ [demoTask "t1" "Plan" 4, demoTask "t2" "Call" 3] ∧ row.updated_at ≤ 4 ∧
      row ∈ [demoTask "t1" "Map" 6, demoTask "t2" "Call" 3]) ∧
    ∀ row ∈ [demoTask "t1" "Plan" 4, demoTask "t2" "Call" 3], row.updated_at ≤ 4 → row ∉ kept →
      ∃ row' ∈ [demoTask "t1" "Map" 6, demoTask "t2" "Call" 3], row'.task_id = row.task_id ∧ row'.incident_id = 7 ∧
        4 < row'.updated_at := by
  let rows := [demoTask "t1" "Plan" 4, demoTask "t2" "Call" 3]
  let w : TaskWrite := ⟨6, .patch 7 "t1" (.obj [("title", .str "Map")])⟩
  have htable : w.table rows [] = [demoTask "t1" "Map" 6, demoTask "t2" "Call" 3] := rfl
  have htick : Reachable TaskStep ⟨rows, 5, []⟩ ⟨rows, 6, []⟩ := Reachable.refl.step (.tick (n := 1))
  have hask : Reachable TaskStep ⟨rows, 5, []⟩ ⟨rows, 6, [w]⟩ := htick.step .asks
  have hland : TaskStep ⟨rows, 6, [w]⟩ (.lands []) ⟨w.table rows [], 6, []⟩ := .lands (p := []) (q := []) rfl
  rw [htable] at hland
  exact reread_tasks (by decide) (by simp) (hask.step hland)
    (listsTasks_self (by simp [rows, demoTask]) (by simp [rows, demoTask]))
    (listsTasks_self (by simp [demoTask]) (by simp [demoTask]))
end Tactix.IncidentSvc
