import Tactix.Schedule.Service
/-!
# One call of the schedule service

What `createShift`, `updateShift` and `deleteShift` do to the tables when
nothing else happens between their queries: `created_of_exec`,
`updated_of_exec` and `deleted_of_exec`.
-/
open Tactix.Js ServiceLib

namespace Tactix.Schedule

/-- The roster has an active entry for the user in the role. -/
def Roster.Has (roster : Roster) (opId userUpn role : String) : Prop :=
  ∃ r ∈ roster.rows, r.operation_id = opId ∧ r.user_upn = userUpn ∧ r.role = role ∧ r.active = true

/-- Answers a database may give, some of the ones of `answers`. -/
def Answering (env : Env) (ans : Db → (q : Query) → q.Reply → Db → Prop) : Prop :=
  ∀ d q a d', ans d q a d' → answers env d q a d'

/-- A call of `p` with no other call in between. The clock may show anything. -/
abbrev Alone (ans : Db → (q : Query) → q.Reply → Db → Prop) {α : Type} (p : Svc α) (now : Int) (d : Db) (now' : Int)
    (d' : Db) (r : Except Error α) : Prop :=
  p.Exec ans (fun _ _ => True) now d now' d' r

/-- The row a shift is found in. -/
theorem find_row {t : Shifts} {row : ShiftRow} (hrow : row ∈ t.rows) :
    t.rows.find? (fun r => r.operation_id = row.operation_id ∧ r.shift_id = row.shift_id) = some row := by
  cases h : t.rows.find? (fun r => r.operation_id = row.operation_id ∧ r.shift_id = row.shift_id) with
  | none =>
    have hnot := List.find?_eq_none.1 h row hrow
    simp at hnot
  | some r =>
    have hr := List.find?_some h
    simp only [decide_eq_true_eq] at hr
    rw [Shifts.eq_of_id (List.mem_of_find?_eq_some h) hrow hr.2]

/-! ## The dates -/

theorem checkDates_ok {env : Env} {now : Int} {startsAt endsAt : Option String}
    (h : checkDates env now startsAt endsAt = .ok ()) :
    ∃ s e, startsAt.bind env.instant = some s ∧ endsAt.bind env.instant = some e ∧ s < e ∧
      (env.ALLOW_OVERSIZE_SHIFTS = true ∨ env.SHIFT_MAX_HOURS.lt (durationHours s e) = false) := by
  unfold checkDates at h
  split at h
  · rename_i s e hs he
    refine ⟨s, e, hs, he, ?_⟩
    split at h
    · cases h
    · rename_i hlt
      split at h
      · cases h
      · split at h
        · cases h
        · rename_i hmax
          refine ⟨not_not.1 hlt, ?_⟩
          simp only [Bool.and_eq_true, Bool.not_eq_true', not_and, Bool.not_eq_false] at hmax
          by_cases hm : env.SHIFT_MAX_HOURS.lt (durationHours s e) = true
          · exact .inl (hmax hm)
          · exact .inr (Bool.eq_false_iff.2 hm)
  · cases h

theorem checkDates_of {env : Env} {now s e : Int} {startsAt endsAt : Option String}
    (hs : startsAt.bind env.instant = some s) (he : endsAt.bind env.instant = some e) (hlt : s < e)
    (hws : withinHorizon env now s = true) (hwe : withinHorizon env now e = true)
    (hmax : env.SHIFT_MAX_HOURS.lt (durationHours s e) = false) : checkDates env now startsAt endsAt = .ok () := by
  simp [checkDates, hs, he, hlt, hws, hwe, hmax]

theorem checkDates_error {env : Env} {now : Int} {startsAt endsAt : Option String} {e : Error} {id : String}
    (h : checkDates env now startsAt endsAt = .error e) : e ≠ .thrown 409 (.overlap id) := by
  unfold checkDates at h
  rintro rfl
  split at h
  · split at h
    · simp at h
    · split at h
      · simp at h
      · split at h
        · simp at h
        · cases h
  · simp at h

/-- A text with an instant is not empty, so a truthiness test keeps it. -/
theorem orString_instant {env : Env} {text : Option String} {t : Int} (h : text.bind env.instant = some t) :
    orString text none = text := by
  cases text with
  | none => cases h
  | some text =>
    refine orString_ne ?_ none
    rintro rfl
    rw [Option.bind_some, env.instant_empty] at h
    cases h

/-- A patch with valid dates sets both of them. -/
theorem fields_dates {env : Env} {now : Int} {patch : ShiftPatch}
    (h : checkDates env now patch.startsAt patch.endsAt = .ok ()) :
    (Repo.fields patch).starts_at = patch.startsAt ∧ (Repo.fields patch).ends_at = patch.endsAt ∧
      (Repo.fields patch).isEmpty = false := by
  obtain ⟨s, e, hs, he, -⟩ := checkDates_ok h
  have h1 : (Repo.fields patch).starts_at = patch.startsAt := orString_instant hs
  refine ⟨h1, orString_instant he, ?_⟩
  obtain ⟨text, htext, -⟩ := Option.bind_eq_some_iff.1 hs
  simp [ShiftFields.isEmpty, h1, htext]

/-- The dates an update writes are the ones that were checked. -/
theorem updates_dates {env : Env} {now : Int} {patch : ShiftPatch} {row row' : ShiftRow}
    (hdates : checkDates env now patch.startsAt patch.endsAt = .ok ()) (h : (Repo.fields patch).Updates env row row') :
    patch.startsAt.bind env.instant = some row'.starts_at ∧ patch.endsAt.bind env.instant = some row'.ends_at := by
  have hval : ∀ {x : Option String} {y : Option Int} {s t : Int}, x.bind env.instant = some s →
      x.elim y env.instant = some t → x.bind env.instant = some t := by
    intro x y s t hx hy
    cases x with
    | none => cases hx
    | some text => exact hy
  obtain ⟨s, e, hs, he, -⟩ := checkDates_ok hdates
  obtain ⟨hfs, hfe, -⟩ := fields_dates hdates
  obtain ⟨-, -, -, -, -, -, hs', he', -⟩ := h
  exact ⟨hval hs (hfs ▸ hs'), hval he (hfe ▸ he')⟩

/-! ## Queries -/

section
variable {env : Env} {ans : Db → (q : Query) → q.Reply → Db → Prop} {α β : Type} {now now' : Int} {d d' : Db}

theorem query_of_exec {q : Query} {r : Except Error q.Rows} (h : Alone ans (query q) now d now' d' r) :
    (∃ rows, ans d q (some rows) d' ∧ r = .ok rows) ∨ ans d q none d' ∧ r = .error .rejected := by
  obtain ⟨a, d₁, m₁, ha, -, h⟩ := h
  cases a with
  | none =>
    obtain ⟨-, rfl, rfl⟩ := h
    exact .inr ⟨ha, rfl⟩
  | some rows =>
    obtain ⟨-, rfl, rfl⟩ := h
    exact .inl ⟨rows, ha, rfl⟩

/-- A query and what is done with its rows, or its rejection. -/
theorem query_bind (hans : Answering env ans) {q : Query} {f : q.Rows → Svc β} {r : Except Error β}
    (h : Alone ans (query q >>= f) now d now' d' r) :
    (∃ (rows : q.Rows) (now₁ : Int) (d₁ : Db), ans d q (some rows) d₁ ∧ Alone ans (f rows) now₁ d₁ now' d' r) ∨
      d' = d ∧ r = .error .rejected := by
  rcases Prog.exec_bind.1 h with ⟨rows, m₁, d₁, hq, hf⟩ | ⟨e, hq, rfl⟩
  · rcases query_of_exec hq with ⟨rows', ha, he⟩ | ⟨-, he⟩
    · cases he
      exact .inl ⟨rows, m₁, d₁, ha, hf⟩
    · cases he
  · rcases query_of_exec hq with ⟨rows', -, he⟩ | ⟨ha, he⟩
    · cases he
    · cases he
      exact .inr ⟨hans _ _ _ _ ha, rfl⟩

theorem notify_bind {e : Envelope} {f : Unit → Svc β} {r : Except Error β}
    (h : Alone ans (notify e >>= f) now d now' d' r) :
    ∃ a now₁ d₁, ans d (.notify e) a d₁ ∧ Alone ans (f ()) now₁ d₁ now' d' r := by
  obtain ⟨a, d₁, m₁, ha, -, h⟩ := h
  exact ⟨a, m₁, d₁, ha, h⟩

/-- An error that says which shift is in the way says so rightly. -/
def Honest (env : Env) (d : Db) (opId : String) (userUpn : Option String) (role : String)
    (except startsAt endsAt : Option String) (e : Error) : Prop :=
  ∀ id, e = .thrown 409 (.overlap id) → (∃ now, checkDates env now startsAt endsAt = .ok ()) ∧
    ∃ row ∈ d.cp_shifts.rows, row.shift_id = id ∧ row.Conflicts env opId userUpn role except startsAt endsAt

/-- The checks passed. -/
structure Cleared (env : Env) (d : Db) (opId : String) (userUpn : Option String) (role : String)
    (except startsAt endsAt : Option String) : Prop where
  dates : ∃ now, checkDates env now startsAt endsAt = .ok ()
  roster : ∃ o u, env.uuid opId = some o ∧ userUpn = some u ∧ d.cp_roster.Has o u role
  free : ∀ row ∈ d.cp_shifts.rows, ¬ row.Conflicts env opId userUpn role except startsAt endsAt

theorem roster_of_exec (hans : Answering env ans) {opId role : String} {userUpn : Option String} {r : Except Error Bool}
    (h : Alone ans (Repo.rosterExists opId userUpn role) now d now' d' r) :
    d' = d ∧ (r = .error .rejected ∨ ∃ ok, r = .ok ok ∧
      (ok = true → ∃ o u, env.uuid opId = some o ∧ userUpn = some u ∧ d.cp_roster.Has o u role)) := by
  rcases query_bind hans h with ⟨rows, now₁, d₁, ha, hf⟩ | ⟨rfl, rfl⟩
  · obtain ⟨-, rfl, rfl⟩ := hf
    obtain ⟨o, ho, rfl, hn⟩ := hans _ _ _ _ ha
    refine ⟨rfl, .inr ⟨_, rfl, fun hpos => ?_⟩⟩
    obtain ⟨row, hrow, hp⟩ := List.countP_pos_iff.1 (Nat.lt_of_lt_of_eq (@of_decide_eq_true _ (Nat.decLt _ _) hpos) hn)
    simp only [decide_eq_true_eq] at hp
    exact ⟨o, row.user_upn, ho, hp.2.1.symm, row, hrow, hp.1, rfl, hp.2.2.1, hp.2.2.2⟩
  · exact ⟨rfl, .inl rfl⟩

theorem check_of_exec (hans : Answering env ans) {opId role : String} {userUpn except startsAt endsAt : Option String}
    {r : Except Error Unit} (h : Alone ans (check env opId userUpn role except startsAt endsAt) now d now' d' r) :
    d' = d ∧ ((r = .ok () ∧ Cleared env d opId userUpn role except startsAt endsAt) ∨
      ∃ e, r = .error e ∧ Honest env d opId userUpn role except startsAt endsAt e) := by
  change Alone ans (Prog.ofExcept (checkDates env now startsAt endsAt) >>= _) now d now' d' r at h
  cases hdates : checkDates env now startsAt endsAt with
  | error e =>
    rw [hdates] at h
    obtain ⟨-, rfl, rfl⟩ := h
    exact ⟨rfl, .inr ⟨e, rfl, fun id he => absurd he (checkDates_error hdates)⟩⟩
  | ok =>
    rw [hdates] at h
    change Alone ans (Repo.rosterExists opId userUpn role >>= _) now d now' d' r at h
    rcases Prog.exec_bind.1 h with ⟨ok, now₁, d₁, hr, hf⟩ | ⟨e, hr, rfl⟩
    · obtain ⟨rfl, hr | ⟨_, hr, hroster⟩⟩ := roster_of_exec hans hr
      · cases hr
      cases hr
      cases ok with
      | false =>
        obtain ⟨-, rfl, rfl⟩ := hf
        exact ⟨rfl, .inr ⟨_, rfl, fun id he => by simp at he⟩⟩
      | true =>
        rcases query_bind hans hf with ⟨conflict, now₂, d₂, ha, hf⟩ | ⟨rfl, rfl⟩
        · obtain ⟨rfl, hc⟩ := hans _ _ _ _ ha
          cases conflict with
          | none =>
            obtain ⟨-, rfl, rfl⟩ := hf
            exact ⟨rfl, .inl ⟨rfl, ⟨now, hdates⟩, hroster rfl, hc⟩⟩
          | some id =>
            obtain ⟨-, rfl, rfl⟩ := hf
            refine ⟨rfl, .inr ⟨_, rfl, fun id' he => ?_⟩⟩
            cases he
            exact ⟨⟨now, hdates⟩, hc⟩
        · exact ⟨rfl, .inr ⟨_, rfl, fun id he => by cases he⟩⟩
    · obtain ⟨rfl, hr | ⟨_, hr, -⟩⟩ := roster_of_exec hans hr
      · cases hr
        exact ⟨rfl, .inr ⟨_, rfl, fun id he => by cases he⟩⟩
      · cases hr

/-! ## What each call does -/

/-- `createShift`: refused, or the row is added and announced. -/
inductive Created (env : Env) (ans : Db → (q : Query) → q.Reply → Db → Prop) (opId : String) (input : ShiftInput)
    (createdBy : String) (d : Db) : Db → Except Error ShiftView → Prop
  | refused {e : Error} :
      Honest env d opId (some input.userUpn) input.role none (some input.startsAt) (some input.endsAt) e →
      Created env ans opId input createdBy d d (.error e)
  | added {row : ShiftRow} {d₁ d' : Db} {a : Query.Reply (.notify (.SCHEDULE_SHIFT_CREATED opId (camel row).part))} :
      Cleared env d opId (some input.userUpn) input.role none (some input.startsAt) (some input.endsAt) →
      input.Inserts env opId createdBy row → row.shift_id ∉ d.cp_shifts.rows.map (·.shift_id) →
      d.Sets (d.cp_shifts.rows ++ [row]) d₁ → ans d₁ (.notify (.SCHEDULE_SHIFT_CREATED opId (camel row).part)) a d' →
      Created env ans opId input createdBy d d' (.ok (camel row))

theorem created_of_exec (hans : Answering env ans) {opId createdBy : String} {input : ShiftInput}
    {r : Except Error ShiftView} (h : Alone ans (createShift env opId input createdBy) now d now' d' r) :
    Created env ans opId input createdBy d d' r := by
  rcases Prog.exec_bind.1 h with ⟨_, now₁, d₁, hc, hf⟩ | ⟨e, hc, rfl⟩
  · obtain ⟨rfl, ⟨-, hc⟩ | ⟨e, he, -⟩⟩ := check_of_exec hans hc
    · rcases Prog.exec_bind.1 hf with ⟨view, now₂, d₂, hi, hf⟩ | ⟨e, hi, rfl⟩
      · rcases query_bind hans hi with ⟨row, now₃, d₃, ha, hi⟩ | ⟨-, he⟩
        · obtain ⟨-, rfl, he⟩ := hi
          cases he
          obtain ⟨a, now₄, d₄, hn, hf⟩ := notify_bind hf
          obtain ⟨-, rfl, rfl⟩ := hf
          obtain ⟨hins, hfresh, hset⟩ := hans _ _ _ _ ha
          exact .added hc hins hfresh hset hn
        · cases he
      · rcases query_bind hans hi with ⟨row, now₃, d₃, ha, hi⟩ | ⟨rfl, he⟩
        · obtain ⟨-, -, he⟩ := hi
          cases he
        · cases he
          exact .refused fun id he => by cases he
    · cases he
  · obtain ⟨rfl, ⟨he, -⟩ | ⟨e', he, hh⟩⟩ := check_of_exec hans hc
    · cases he
    · cases he
      exact .refused hh

/-- `updateShift`: refused, or the row is changed and announced. -/
inductive Updated (env : Env) (ans : Db → (q : Query) → q.Reply → Db → Prop) (opId shiftId : String) (patch : ShiftPatch)
    (d : Db) : Db → Except Error ShiftView → Prop
  | refused {e : Error} {role : String} :
      Honest env d opId patch.userUpn role (some shiftId) patch.startsAt patch.endsAt e →
      Updated env ans opId shiftId patch d d (.error e)
  | changed {row row' : ShiftRow} {d₁ d' : Db} {a : Query.Reply (.notify (.SCHEDULE_SHIFT_UPDATED opId (camel row').part))} :
      row ∈ d.cp_shifts.rows → env.uuid opId = some row.operation_id → env.uuid shiftId = some row.shift_id →
      Cleared env d opId patch.userUpn (patch.role.getD row.role) (some shiftId) patch.startsAt patch.endsAt →
      (Repo.fields patch).Updates env row row' →
      d.Sets (d.cp_shifts.rows.map fun r => if r.shift_id = row.shift_id then row' else r) d₁ →
      ans d₁ (.notify (.SCHEDULE_SHIFT_UPDATED opId (camel row').part)) a d' →
      Updated env ans opId shiftId patch d d' (.ok (camel row'))

theorem update_of_exec (hans : Answering env ans) {opId shiftId : String} {patch : ShiftPatch}
    {r : Except Error (Option ShiftView)} (hne : (Repo.fields patch).isEmpty = false)
    (h : Alone ans (Repo.updateShift opId shiftId patch) now d now' d' r) :
    (d' = d ∧ (r = .error .rejected ∨ r = .ok none)) ∨
      ∃ row ∈ d.cp_shifts.rows, ∃ row', env.uuid opId = some row.operation_id ∧ env.uuid shiftId = some row.shift_id ∧
        (Repo.fields patch).Updates env row row' ∧
        d.Sets (d.cp_shifts.rows.map fun r => if r.shift_id = row.shift_id then row' else r) d' ∧
        r = .ok (some (camel row')) := by
  rw [Repo.updateShift, hne, if_neg Bool.false_ne_true] at h
  rcases query_bind hans h with ⟨res, now₁, d₁, ha, hf⟩ | ⟨rfl, rfl⟩
  · obtain ⟨-, rfl, rfl⟩ := hf
    obtain ⟨o, i, ho, hi, hres⟩ := hans _ _ _ _ ha
    cases res with
    | none => exact .inl ⟨hres.1, .inr rfl⟩
    | some row' =>
      obtain ⟨row, hrow, rfl, rfl, hup, hset⟩ := hres
      exact .inr ⟨row, hrow, row', ho, hi, hup, hset, rfl⟩
  · exact .inl ⟨rfl, .inl rfl⟩

theorem updated_of_exec (hans : Answering env ans) {opId shiftId : String} {patch : ShiftPatch}
    {r : Except Error ShiftView} (h : Alone ans (updateShift env opId shiftId patch) now d now' d' r) :
    Updated env ans opId shiftId patch d d' r := by
  have hother : ∀ role e, (∀ id, e ≠ .thrown 409 (.overlap id)) →
      Honest env d opId patch.userUpn role (some shiftId) patch.startsAt patch.endsAt e :=
    fun role e he id hid => absurd hid (he id)
  rcases query_bind hans h with ⟨existing, now₁, d₁, ha, hf⟩ | ⟨rfl, rfl⟩
  · obtain ⟨o, i, ho, hi, rfl, hex⟩ := hans _ _ _ _ ha
    cases existing with
    | none =>
      obtain ⟨-, rfl, rfl⟩ := hf
      exact .refused (hother "" _ fun id => by simp)
    | some row =>
      have hrow := List.mem_of_find?_eq_some hex.symm
      obtain ⟨rfl, rfl⟩ := by simpa using List.find?_some hex.symm
      rcases Prog.exec_bind.1 hf with ⟨_, now₂, d₂, hc, hg⟩ | ⟨e, hc, rfl⟩
      · obtain ⟨rfl, ⟨-, hc⟩ | ⟨e, he, -⟩⟩ := check_of_exec hans hc
        · obtain ⟨clock, hdates⟩ := hc.dates
          rcases Prog.exec_bind.1 hg with ⟨view, now₃, d₃, hu, hk⟩ | ⟨e, hu, rfl⟩
          · rcases update_of_exec hans (fields_dates hdates).2.2 hu with
              ⟨rfl, he | he⟩ | ⟨old, hold, row', -, hid, hup, hset, he⟩
            · cases he
            · cases he
              obtain ⟨-, rfl, rfl⟩ := hk
              exact .refused (hother "" _ fun id => by simp)
            · cases he
              obtain ⟨a, now₄, d₄, hn, hk⟩ := notify_bind hk
              obtain ⟨-, rfl, rfl⟩ := hk
              -- The row that is updated is the one that was read.
              obtain rfl := Shifts.eq_of_id hold hrow (Option.some.inj (hid.symm.trans hi))
              exact .changed hold ho hid hc hup hset hn
          · rcases update_of_exec hans (fields_dates hdates).2.2 hu with
              ⟨rfl, he | he⟩ | ⟨old, hold, row', -, hid, hup, hset, he⟩
            · cases he
              exact .refused (hother "" _ fun id => by simp)
            · cases he
            · cases he
        · cases he
      · obtain ⟨rfl, ⟨he, -⟩ | ⟨e', he, hh⟩⟩ := check_of_exec hans hc
        · cases he
        · cases he
          exact .refused hh
  · exact .refused (hother "" _ fun id => by simp)

/-- `deleteShift`: rejected, or whatever has the id is gone and that is announced. -/
inductive Deleted (env : Env) (ans : Db → (q : Query) → q.Reply → Db → Prop) (opId shiftId : String) (d : Db) :
    Db → Except Error Unit → Prop
  | rejected : Deleted env ans opId shiftId d d (.error .rejected)
  | removed {o i : String} {d₁ d' : Db} {a : Query.Reply (.notify (.SCHEDULE_SHIFT_DELETED opId shiftId))} :
      env.uuid opId = some o → env.uuid shiftId = some i →
      d.Sets (d.cp_shifts.rows.filter fun r => ¬ (r.operation_id = o ∧ r.shift_id = i)) d₁ →
      ans d₁ (.notify (.SCHEDULE_SHIFT_DELETED opId shiftId)) a d' → Deleted env ans opId shiftId d d' (.ok ())

theorem deleted_of_exec (hans : Answering env ans) {opId shiftId : String} {r : Except Error Unit}
    (h : Alone ans (deleteShift opId shiftId) now d now' d' r) : Deleted env ans opId shiftId d d' r := by
  rcases query_bind hans h with ⟨_, now₁, d₁, ha, hf⟩ | ⟨rfl, rfl⟩
  · obtain ⟨a, d₂, m, hn, -, -, rfl, rfl⟩ := hf
    obtain ⟨o, i, ho, hi, hset⟩ := hans _ _ _ _ ha
    exact .removed ho hi hset hn
  · exact .rejected

end

/-! ## Calls that succeed -/

theorem not_conflicts {env : Env} {row : ShiftRow} {opId role : String} {userUpn except startsAt endsAt : Option String}
    {s e : Int} (hs : startsAt.bind env.instant = some s) (he : endsAt.bind env.instant = some e)
    (h : ¬ Crosses row.starts_at row.ends_at s e) : ¬ row.Conflicts env opId userUpn role except startsAt endsAt := by
  rintro ⟨-, -, -, -, s', e', hs', he', hcross⟩
  rw [hs] at hs'
  rw [he] at he'
  cases hs'
  cases he'
  exact h hcross

/-- Answers among which every query may succeed. -/
def Serving (env : Env) (ans : Db → (q : Query) → q.Reply → Db → Prop) : Prop :=
  ∀ d q rows d', d.Returns env d' q rows → ans d q (some rows) d'

section
variable {env : Env} {ans : Db → (q : Query) → q.Reply → Db → Prop} {now : Int} {d d₁ : Db}

theorem query_exec (hans : Serving env ans) {α : Type} (q : Query) (rows : q.Rows) {f : q.Rows → Svc α} {now' : Int}
    {d' : Db} {r : Except Error α}
    (ha : d.Returns env d₁ q rows) (h : Alone ans (f rows) now d₁ now' d' r) :
    Alone ans (query q >>= f) now d now' d' r :=
  Prog.exec_await (some rows) (hans _ _ _ _ ha) trivial h

theorem notify_exec (hans : Serving env ans) {α : Type} {e : Envelope} {a : α} :
    Alone ans (notify e >>= fun _ => pure a) now d now { d with notified := d.notified ++ [e] } (.ok a) :=
  Prog.exec_await (some ()) (hans _ _ _ _ rfl) trivial ⟨rfl, rfl, rfl⟩

theorem roster_exec (hans : Serving env ans) {opId o user role : String} (ho : env.uuid opId = some o)
    (hroster : d.cp_roster.Has o user role) :
    Alone ans (Repo.rosterExists opId (some user) role) now d now d (.ok true) := by
  obtain ⟨r, hr, h1, h2, h3, h4⟩ := hroster
  have hpos : 0 < d.cp_roster.rows.countP fun r =>
      r.operation_id = o ∧ some r.user_upn = some user ∧ r.role = role ∧ r.active :=
    List.countP_pos_iff.2 ⟨r, hr, by simp [h1, h2, h3, h4]⟩
  refine query_exec hans (.rosterExists opId (some user) role) _ ⟨o, ho, rfl, rfl⟩ ⟨rfl, rfl, ?_⟩
  exact congrArg Except.ok (@decide_eq_true _ (Nat.decLt _ _) hpos).symm

theorem check_exec (hans : Serving env ans) {opId o user role : String} {except startsAt endsAt : Option String}
    (hdates : checkDates env now startsAt endsAt = .ok ()) (ho : env.uuid opId = some o)
    (hroster : d.cp_roster.Has o user role)
    (hfree : ∀ row ∈ d.cp_shifts.rows, ¬ row.Conflicts env opId (some user) role except startsAt endsAt) :
    Alone ans (check env opId (some user) role except startsAt endsAt) now d now d (.ok ()) := by
  change Alone _ (Prog.ofExcept (checkDates env now startsAt endsAt) >>= _) now d now d _
  rw [hdates]
  change Alone _ (Repo.rosterExists opId (some user) role >>= _) now d now d _
  refine Prog.exec_bind.2 (.inl ⟨true, now, d, roster_exec hans ho hroster, ?_⟩)
  exact query_exec hans (.conflict opId (some user) role except startsAt endsAt) none ⟨rfl, hfree⟩ ⟨rfl, rfl, rfl⟩

theorem created_exec (hans : Serving env ans) (d₁ : Db) {opId o createdBy : String} {input : ShiftInput}
    {row : ShiftRow} (hdates : checkDates env now (some input.startsAt) (some input.endsAt) = .ok ())
    (ho : env.uuid opId = some o) (hroster : d.cp_roster.Has o input.userUpn input.role)
    (hfree : ∀ row ∈ d.cp_shifts.rows, ¬ row.Conflicts env opId (some input.userUpn) input.role none
      (some input.startsAt) (some input.endsAt))
    (hins : input.Inserts env opId createdBy row) (hfresh : row.shift_id ∉ d.cp_shifts.rows.map (·.shift_id))
    (hset : d.Sets (d.cp_shifts.rows ++ [row]) d₁) :
    Alone ans (createShift env opId input createdBy) now d now
      { d₁ with notified := d₁.notified ++ [.SCHEDULE_SHIFT_CREATED opId (camel row).part] } (.ok (camel row)) := by
  refine Prog.exec_bind.2 (.inl ⟨(), now, d, check_exec hans hdates ho hroster hfree, ?_⟩)
  exact Prog.exec_bind.2 (.inl ⟨camel row, now, d₁,
    query_exec hans (.insertShift opId input createdBy) row ⟨hins, hfresh, hset⟩ ⟨rfl, rfl, rfl⟩, notify_exec hans⟩)

theorem updated_exec (hans : Serving env ans) (d₁ : Db) {opId o shiftId user : String} {patch : ShiftPatch}
    {row row' : ShiftRow} (hdates : checkDates env now patch.startsAt patch.endsAt = .ok ()) (ho : env.uuid opId = some o)
    (hid : env.uuid shiftId = some row.shift_id) (hrow : row ∈ d.cp_shifts.rows) (hop : row.operation_id = o)
    (huser : patch.userUpn = some user) (hroster : d.cp_roster.Has o user (patch.role.getD row.role))
    (hfree : ∀ row' ∈ d.cp_shifts.rows, ¬ row'.Conflicts env opId patch.userUpn (patch.role.getD row.role) (some shiftId)
      patch.startsAt patch.endsAt)
    (hup : (Repo.fields patch).Updates env row row')
    (hset : d.Sets (d.cp_shifts.rows.map fun r => if r.shift_id = row.shift_id then row' else r) d₁) :
    Alone ans (updateShift env opId shiftId patch) now d now
      { d₁ with notified := d₁.notified ++ [.SCHEDULE_SHIFT_UPDATED opId (camel row').part] } (.ok (camel row')) := by
  subst hop
  refine query_exec hans (.getShift opId shiftId) (some row) ⟨_, row.shift_id, ho, hid, rfl, (find_row hrow).symm⟩ ?_
  change Alone _ (check env opId patch.userUpn (patch.role.getD row.role) (some shiftId) patch.startsAt patch.endsAt >>= _)
    now d now _ _
  refine Prog.exec_bind.2 (.inl ⟨(), now, d, ?_, ?_⟩)
  · rw [huser] at hfree ⊢
    exact check_exec hans hdates ho hroster hfree
  · refine Prog.exec_bind.2 (.inl ⟨some (camel row'), now, d₁, ?_, notify_exec hans⟩)
    rw [Repo.updateShift, (fields_dates hdates).2.2, if_neg Bool.false_ne_true]
    exact query_exec hans (.updateShift (Repo.fields patch) opId shiftId) (some row')
      ⟨_, row.shift_id, ho, hid, row, hrow, rfl, rfl, hup, hset⟩ ⟨rfl, rfl, rfl⟩

end

theorem answers_serving (env : Env) : Serving env (answers env) := fun _ _ _ _ h => h

/-- One call after the other: a call, what it came to, and the database after it. -/
def CallStep (env : Env) (ans : Db → (q : Query) → q.Reply → Db → Prop) (d : Db)
    (a : Call × Except Error (Option ShiftView)) (d' : Db) : Prop :=
  ∃ now now', Alone ans (a.1.run env) now d now' d' a.2

/-- What a call does, by its kind. -/
inductive CallRan (env : Env) (ans : Db → (q : Query) → q.Reply → Db → Prop) (d d' : Db) :
    Call × Except Error (Option ShiftView) → Prop
  | createShift {opId createdBy : String} {input : ShiftInput} {r : Except Error ShiftView} :
      Created env ans opId input createdBy d d' r → CallRan env ans d d' (.createShift opId input createdBy, r.map some)
  | updateShift {opId shiftId : String} {patch : ShiftPatch} {r : Except Error ShiftView} :
      Updated env ans opId shiftId patch d d' r → CallRan env ans d d' (.updateShift opId shiftId patch, r.map some)
  | deleteShift {opId shiftId : String} {r : Except Error Unit} :
      Deleted env ans opId shiftId d d' r → CallRan env ans d d' (.deleteShift opId shiftId, r.map fun _ => none)

theorem ran_of_step {env : Env} {ans : Db → (q : Query) → q.Reply → Db → Prop} (hans : Answering env ans) {d d' : Db}
    {a : Call × Except Error (Option ShiftView)} (h : CallStep env ans d a d') : CallRan env ans d d' a := by
  obtain ⟨c, r⟩ := a
  obtain ⟨now, now', h⟩ := h
  cases c with
  | createShift opId input createdBy =>
    obtain ⟨r', hr, rfl⟩ := Prog.exec_map.1 h
    exact .createShift (created_of_exec hans hr)
  | updateShift opId shiftId patch =>
    obtain ⟨r', hr, rfl⟩ := Prog.exec_map.1 h
    exact .updateShift (updated_of_exec hans hr)
  | deleteShift opId shiftId =>
    obtain ⟨r', hr, rfl⟩ := Prog.exec_map.1 h
    exact .deleteShift (deleted_of_exec hans hr)

/-! ## A concrete run -/

namespace Sample

def created (row : ShiftRow) : Envelope := .SCHEDULE_SHIFT_CREATED op (camel row).part

def db₁ : Db := ⟨⟨[rowA], by decide⟩, roster, [created rowA]⟩

def db₂ : Db := ⟨⟨[rowA, rowB], by decide⟩, roster, [created rowA, created rowB]⟩

/-- The dates of `morning` pass on the day of the sample. -/
theorem morning_dates :
    checkDates .sample 1755424800000 (some morning.startsAt) (some morning.endsAt) = .ok () :=
  checkDates_of (s := 1755424800000) (e := 1755432000000) (by decide) (by decide) (by decide)
    (by decide +kernel) (by decide +kernel) (by decide +kernel)

theorem first {ans : Db → (q : Query) → q.Reply → Db → Prop} (hans : Serving .sample ans) :
    CallStep .sample ans (Db.start roster)
    (.createShift op morning "system", .ok (some (camel rowA))) db₁ := by
  refine ⟨1755424800000, 1755424800000, Prog.exec_map.2 ⟨.ok (camel rowA), ?_, rfl⟩⟩
  exact created_exec hans ⟨⟨[rowA], by decide⟩, roster, []⟩ morning_dates (by decide)
    ⟨⟨op, "ana", "IMO", none, true⟩, by simp [roster, Db.start], rfl, rfl, rfl, rfl⟩ (by simp [Db.start])
    ⟨by decide, rfl, rfl, by decide, by decide, rfl, rfl⟩ (by simp [Db.start]) ⟨rfl, rfl, rfl⟩

theorem afternoon_dates :
    checkDates .sample 1755424800000 (some afternoon.startsAt) (some afternoon.endsAt) = .ok () :=
  checkDates_of (s := 1755439200000) (e := 1755446400000) (by decide) (by decide) (by decide)
    (by decide +kernel) (by decide +kernel) (by decide +kernel)

/-- Ana's morning leaves her afternoon free. -/
theorem afternoon_free : ∀ row ∈ db₁.cp_shifts.rows, ¬ row.Conflicts .sample op (some afternoon.userUpn) afternoon.role none
    (some afternoon.startsAt) (some afternoon.endsAt) := by
  intro row hrow
  obtain rfl := List.mem_singleton.1 hrow
  exact not_conflicts (s := 1755439200000) (e := 1755446400000) (by decide) (by decide) (by decide)

theorem second {ans : Db → (q : Query) → q.Reply → Db → Prop} (hans : Serving .sample ans) : CallStep .sample ans db₁
    (.createShift op afternoon "system", .ok (some (camel rowB))) db₂ := by
  refine ⟨1755424800000, 1755424800000, Prog.exec_map.2 ⟨.ok (camel rowB), ?_, rfl⟩⟩
  exact created_exec hans ⟨⟨[rowA, rowB], by decide⟩, roster, [created rowA]⟩ afternoon_dates (by decide)
    ⟨⟨op, "ana", "IMO", none, true⟩, by simp [roster, db₁], rfl, rfl, rfl, rfl⟩ afternoon_free
    ⟨by decide, rfl, rfl, by decide, by decide, rfl, rfl⟩ (by decide) ⟨rfl, rfl, rfl⟩

end Sample

end Tactix.Schedule
