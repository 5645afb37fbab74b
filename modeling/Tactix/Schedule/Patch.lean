import Tactix.Schedule.Active
/-!
# Patches of a shift

`updateShift` merges the patch into the row as the table has it, in snake case,
so of the stored values only the role reaches the checks. `patch_iff` says which
patches come out as `createShift` would judge the merged shift.
-/
open Tactix.Js ServiceLib

namespace Tactix.Schedule

/-- A call with no other in between, on a database that answers its queries. After
any wait the clock shows `now`. -/
abbrev At (env : Env) (now : Int) {α : Type} (p : Svc α) (clock : Int) (d : Db) (clock' : Int) (d' : Db)
    (r : Except Error α) : Prop :=
  p.Exec (served env) (fun _ m => m = now) clock d clock' d' r

/-- The times of a shift that may be created at `now`. -/
structure Dates (env : Env) (now s e : Int) : Prop where
  order : s < e
  horizon : withinHorizon env now s = true ∧ withinHorizon env now e = true
  duration : env.SHIFT_MAX_HOURS.lt (durationHours s e) = true → env.ALLOW_OVERSIZE_SHIFTS = true

/-- A shift to be; a time is `none` when its text has none. -/
structure Plan where
  userUpn : String
  role : String
  startsAt : Option Int
  endsAt : Option Int
  notes : Option String

/-- The patch written over a stored shift. -/
def ShiftPatch.over (env : Env) (patch : ShiftPatch) (row : ShiftRow) : Plan where
  userUpn := patch.userUpn.getD row.user_upn
  role := patch.role.getD row.role
  startsAt := patch.startsAt.elim (some row.starts_at) env.instant
  endsAt := patch.endsAt.elim (some row.ends_at) env.instant
  notes := patch.notes.or row.notes

/-- What `createShift` asks of a shift of operation `o`. The shift with the id
`except` is not in its way. -/
def Plan.Passes (env : Env) (now : Int) (d : Db) (o : String) (except : Option String) (plan : Plan) : Prop :=
  ∃ s e, plan.startsAt = some s ∧ plan.endsAt = some e ∧ Dates env now s e ∧
    d.cp_roster.Has o plan.userUpn plan.role ∧
    ∀ row ∈ d.cp_shifts.rows, some row.shift_id ≠ except → row.operation_id = o → row.user_upn = plan.userUpn →
      row.role = plan.role → ¬ Crosses row.starts_at row.ends_at s e

/-- The row has the values of the plan; `updated_at` may be anything. -/
structure Plan.Stored (plan : Plan) (old row : ShiftRow) : Prop where
  user_upn : row.user_upn = plan.userUpn
  role : row.role = plan.role
  starts_at : some row.starts_at = plan.startsAt
  ends_at : some row.ends_at = plan.endsAt
  notes : row.notes = plan.notes
  rest : row.shift_id = old.shift_id ∧ row.operation_id = old.operation_id ∧ row.created_by = old.created_by ∧
    row.created_at = old.created_at

/-- The call succeeds exactly when the merged shift passes the checks, and then puts
it in the place of the stored one. -/
structure PatchLaw (env : Env) (now : Int) (d : Db) (row : ShiftRow) (patch : ShiftPatch) (d' : Db)
    (r : Except Error ShiftView) : Prop where
  succeeds : (∃ view, r = .ok view) ↔ (patch.over env row).Passes env now d row.operation_id (some row.shift_id)
  changes : ∀ view, r = .ok view → ∃ row', (patch.over env row).Stored row row' ∧
    d'.cp_shifts.rows = d.cp_shifts.rows.map fun x => if x.shift_id = row.shift_id then row' else x

/-- The patch sets the user and both times; where it empties the user or the role,
the stored one is empty. -/
structure Whole (patch : ShiftPatch) (row : ShiftRow) : Prop where
  sets : patch.userUpn ≠ none ∧ patch.startsAt ≠ none ∧ patch.endsAt ≠ none
  user : patch.userUpn = some "" → row.user_upn = ""
  role : patch.role = some "" → row.role = ""

/-! ## The checks -/

theorem checkDates_iff {env : Env} {now : Int} {startsAt endsAt : Option String} :
    checkDates env now startsAt endsAt = .ok () ↔
      ∃ s e, startsAt.bind env.instant = some s ∧ endsAt.bind env.instant = some e ∧ Dates env now s e := by
  unfold checkDates
  cases hs : startsAt.bind env.instant with
  | none => simp
  | some s =>
    cases he : endsAt.bind env.instant with
    | none => simp
    | some e =>
      simp only [Option.some.injEq, exists_and_left, exists_eq_left']
      constructor
      · intro h
        split at h
        · cases h
        · rename_i hlt
          split at h
          · cases h
          · rename_i hhor
            split at h
            · cases h
            · rename_i hmax
              simp only [Bool.or_eq_true, Bool.not_eq_true', not_or, Bool.not_eq_false] at hhor
              simp only [Bool.and_eq_true, Bool.not_eq_true', not_and, Bool.not_eq_false] at hmax
              exact ⟨not_not.1 hlt, hhor, hmax⟩
      · rintro ⟨hlt, ⟨hws, hwe⟩, hmax⟩
        rw [if_neg (not_not.2 hlt), hws, hwe]
        by_cases hm : env.SHIFT_MAX_HOURS.lt (durationHours s e) = true
        · simp [hmax hm]
        · simp [hm]

section
variable {env : Env} {now clock clock' : Int} {d d' : Db}

theorem conflicts_iff {opId o role : String} (ho : env.uuid opId = some o) {userUpn except startsAt endsAt : Option String}
    {s e : Int} (hs : startsAt.bind env.instant = some s) (he : endsAt.bind env.instant = some e) {row : ShiftRow} :
    row.Conflicts env opId userUpn role except startsAt endsAt ↔
      row.operation_id = o ∧ userUpn = some row.user_upn ∧ row.role = role ∧
        some row.shift_id ≠ except.bind env.uuid ∧ Crosses row.starts_at row.ends_at s e := by
  have hexcept : (∀ id, except = some id → env.uuid id ≠ some row.shift_id) ↔ some row.shift_id ≠ except.bind env.uuid := by
    cases except with
    | none => simp
    | some id => simp [eq_comm]
  simp only [ShiftRow.Conflicts, ho, hs, he, hexcept, Option.some.injEq, exists_and_left, exists_eq_left', eq_comm (a := o)]

theorem roster_iff {opId o role : String} (ho : env.uuid opId = some o) {userUpn : Option String} {r : Except Error Bool}
    (h : At env now (Repo.rosterExists opId userUpn role) clock d clock' d' r) :
    clock' = now ∧ d' = d ∧ ∃ ok, r = .ok ok ∧ (ok = true ↔ ∃ u, userUpn = some u ∧ d.cp_roster.Has o u role) := by
  obtain ⟨n, m, d₁, ⟨o', ho', rfl, hn⟩, rfl, rfl, rfl, rfl⟩ := served_bind h
  obtain rfl := Option.some.inj (ho.symm.trans ho')
  refine ⟨rfl, rfl, _, rfl, ?_⟩
  refine (@decide_eq_true_iff _ (Nat.decLt 0 n)).trans ((iff_of_eq (congrArg (0 < ·) hn)).trans ?_)
  rw [List.countP_pos_iff]
  simp only [decide_eq_true_eq]
  constructor
  · rintro ⟨row, hrow, h1, h2, h3, h4⟩
    exact ⟨_, h2.symm, row, hrow, h1, rfl, h3, h4⟩
  · rintro ⟨u, rfl, row, hrow, h1, rfl, h3, h4⟩
    exact ⟨row, hrow, h1, rfl, h3, h4⟩

/-- The checks of `createShift` and of `updateShift`, on texts. -/
theorem check_iff {opId o role : String} (ho : env.uuid opId = some o) {userUpn except startsAt endsAt : Option String}
    {r : Except Error Unit} (h : At env now (check env opId userUpn role except startsAt endsAt) now d clock' d' r) :
    d' = d ∧ (r = .ok () ↔ ∃ u, userUpn = some u ∧ Plan.Passes env now d o (except.bind env.uuid)
      ⟨u, role, startsAt.bind env.instant, endsAt.bind env.instant, none⟩) := by
  change At env now (Prog.ofExcept (checkDates env now startsAt endsAt) >>= _) now d clock' d' r at h
  cases hdates : checkDates env now startsAt endsAt with
  | error e =>
    rw [hdates] at h
    obtain ⟨-, rfl, rfl⟩ := h
    refine ⟨rfl, fun he => (by cases he), ?_⟩
    rintro ⟨u, -, s, e, hs, he, hd, -⟩
    rw [checkDates_iff.2 ⟨s, e, hs, he, hd⟩] at hdates
    cases hdates
  | ok =>
    obtain ⟨s, e, hs, he, hd⟩ := checkDates_iff.1 hdates
    rw [hdates] at h
    change At env now (Repo.rosterExists opId userUpn role >>= _) now d clock' d' r at h
    rcases Prog.exec_bind.1 h with ⟨ok, now₁, d₁, hr, hf⟩ | ⟨err, hr, rfl⟩
    · obtain ⟨rfl, rfl, _, hok, hroster⟩ := roster_iff ho hr
      cases hok
      cases ok with
      | false =>
        obtain ⟨-, rfl, rfl⟩ := hf
        refine ⟨rfl, fun he => (by cases he), ?_⟩
        rintro ⟨u, hu, -, -, -, -, -, hhas, -⟩
        exact absurd (hroster.2 ⟨u, hu, hhas⟩) Bool.false_ne_true
      | true =>
        obtain ⟨u, rfl, hhas⟩ := hroster.1 rfl
        obtain ⟨conflict, now₂, d₂, ⟨rfl, hc⟩, -, hf⟩ := served_bind hf
        cases conflict with
        | none =>
          obtain ⟨-, rfl, rfl⟩ := hf
          refine ⟨rfl, fun _ => ⟨u, rfl, s, e, hs, he, hd, hhas, ?_⟩, fun _ => rfl⟩
          intro row hrow hid hop huser hrole hcross
          exact hc row hrow ((conflicts_iff ho hs he).2 ⟨hop, by rw [huser], hrole, hid, hcross⟩)
        | some id =>
          obtain ⟨-, rfl, rfl⟩ := hf
          obtain ⟨row, hrow, -, hconflict⟩ := hc
          obtain ⟨hop, huser, hrole, hid, hcross⟩ := (conflicts_iff ho hs he).1 hconflict
          refine ⟨rfl, fun he => (by cases he), ?_⟩
          rintro ⟨u', hu', s', e', hs', he', -, -, hfree⟩
          cases hu'
          obtain rfl := Option.some.inj (hs.symm.trans hs')
          obtain rfl := Option.some.inj (he.symm.trans he')
          exact absurd hcross (hfree row hrow hid hop (Option.some.inj huser).symm hrole)
    · obtain ⟨-, -, _, hok, -⟩ := roster_iff ho hr
      cases hok

/-- `Plan.Passes` is what `createShift` checks. -/
theorem createShift_iff {opId o createdBy : String} (ho : env.uuid opId = some o) {input : ShiftInput}
    {r : Except Error ShiftView} (h : At env now (createShift env opId input createdBy) now d clock' d' r) :
    (∃ view, r = .ok view) ↔
      Plan.Passes env now d o none ⟨input.userUpn, input.role, env.instant input.startsAt, env.instant input.endsAt, none⟩ := by
  rcases Prog.exec_bind.1 h with ⟨_, now₁, d₁, hc, hf⟩ | ⟨e, hc, rfl⟩
  · obtain ⟨rfl, hiff⟩ := check_iff ho hc
    obtain ⟨u, hu, hpass⟩ := hiff.1 rfl
    cases hu
    obtain ⟨a, d₂, m, ha, -, hf⟩ := hf
    cases a with
    | none => exact absurd rfl ha.2
    | some row =>
      obtain ⟨b, d₃, m', -, -, -, -, rfl⟩ := hf
      exact ⟨fun _ => hpass, fun _ => ⟨_, rfl⟩⟩
  · obtain ⟨rfl, hiff⟩ := check_iff ho hc
    constructor
    · rintro ⟨view, hv⟩
      cases hv
    · intro hpass
      cases hiff.2 ⟨_, rfl, hpass⟩

/-- What `updateShift` checks: of the stored shift only the role. -/
def ShiftPatch.Checked (env : Env) (now : Int) (d : Db) (row : ShiftRow) (patch : ShiftPatch) : Prop :=
  ∃ u, patch.userUpn = some u ∧ Plan.Passes env now d row.operation_id (some row.shift_id)
    ⟨u, patch.role.getD row.role, patch.startsAt.bind env.instant, patch.endsAt.bind env.instant, none⟩

theorem updateShift_cases {opId shiftId : String} {patch : ShiftPatch} {row : ShiftRow} (hrow : row ∈ d.cp_shifts.rows)
    (ho : env.uuid opId = some row.operation_id) (hi : env.uuid shiftId = some row.shift_id) {r : Except Error ShiftView}
    (h : At env now (updateShift env opId shiftId patch) clock d clock' d' r) :
    (¬ patch.Checked env now d row ∧ ∃ e, r = .error e) ∨
      (patch.Checked env now d row ∧ ∃ row', r = .ok (camel row') ∧ (Repo.fields patch).Updates env row row' ∧
        d'.cp_shifts.rows = d.cp_shifts.rows.map fun x => if x.shift_id = row.shift_id then row' else x) := by
  obtain ⟨existing, now₁, d₁, ⟨o, i, ho', hi', rfl, hex⟩, rfl, hf⟩ := served_bind h
  obtain rfl := Option.some.inj (ho.symm.trans ho')
  obtain rfl := Option.some.inj (hi.symm.trans hi')
  rw [find_row hrow] at hex
  subst hex
  rcases Prog.exec_bind.1 hf with ⟨_, now₂, d₂, hc, hg⟩ | ⟨e, hc, rfl⟩
  · obtain ⟨rfl, hiff⟩ := check_iff ho hc
    rw [Option.bind_some, hi] at hiff
    have hchecked : patch.Checked env now₁ d₂ row := hiff.1 rfl
    refine .inr ⟨hchecked, ?_⟩
    obtain ⟨u, -, s, e, hs, he, hd, -⟩ := hchecked
    rw [Repo.updateShift, (fields_dates (checkDates_iff.2 ⟨s, e, hs, he, hd⟩)).2.2, if_neg Bool.false_ne_true] at hg
    obtain ⟨a, d₃, m, ⟨ha, hne⟩, -, hg⟩ := hg
    cases a with
    | none => exact absurd rfl hne
    | some found =>
      obtain ⟨o, i, ho', hi', hfound⟩ := ha
      obtain rfl := Option.some.inj (ho.symm.trans ho')
      obtain rfl := Option.some.inj (hi.symm.trans hi')
      cases found with
      | none => exact absurd ⟨rfl, rfl⟩ (hfound.2 row hrow)
      | some row' =>
        obtain ⟨old, hold, -, hid, hup, hsets⟩ := hfound
        obtain rfl := Shifts.eq_of_id hold hrow hid
        obtain ⟨b, d₄, m', ⟨hb, hne'⟩, -, -, rfl, rfl⟩ := hg
        cases b with
        | none => exact absurd rfl hne'
        | some _ =>
          cases hb
          exact ⟨row', rfl, hup, hsets.1⟩
  · obtain ⟨rfl, hiff⟩ := check_iff ho hc
    rw [Option.bind_some, hi] at hiff
    refine .inl ⟨fun hchecked => ?_, e, rfl⟩
    cases hiff.2 hchecked

/-! ## Every call is answered -/

theorem at_query {β : Type} {q : Query} {f : q.Rows → Svc β} {rows : q.Rows} {d₁ : Db} {r : Except Error β}
    (hrows : d.Returns env d₁ q rows) (h : At env now (f rows) now d₁ clock' d' r) :
    At env now (query q >>= f) clock d clock' d' r :=
  Prog.exec_await (some rows) ⟨hrows, by simp⟩ rfl h

/-- A conflict query finds a row or none. -/
theorem conflict_returns (opId role : String) (userUpn except startsAt endsAt : Option String) :
    ∃ id, d.Returns env d (.conflict opId userUpn role except startsAt endsAt) id := by
  by_cases h : ∃ row ∈ d.cp_shifts.rows, row.Conflicts env opId userUpn role except startsAt endsAt
  · obtain ⟨row, hrow, hconflict⟩ := h
    exact ⟨some row.shift_id, rfl, row, hrow, rfl, hconflict⟩
  · exact ⟨none, rfl, fun row hrow hconflict => h ⟨row, hrow, hconflict⟩⟩

theorem roster_answered {opId o : String} (ho : env.uuid opId = some o) (userUpn : Option String) (role : String) :
    ∃ ok, At env now (Repo.rosterExists opId userUpn role) clock d now d (.ok ok) := by
  have hcount : ∃ n, d.Returns env d (.rosterExists opId userUpn role) n := ⟨_, o, ho, rfl, rfl⟩
  obtain ⟨n, hn⟩ := hcount
  exact ⟨_, at_query hn ⟨rfl, rfl, rfl⟩⟩

theorem check_answered {opId o : String} (ho : env.uuid opId = some o) (role : String)
    (userUpn except startsAt endsAt : Option String) :
    ∃ r, At env now (check env opId userUpn role except startsAt endsAt) now d now d r := by
  change ∃ r, At env now (Prog.ofExcept (checkDates env now startsAt endsAt) >>= _) now d now d r
  cases checkDates env now startsAt endsAt with
  | error e => exact ⟨.error e, rfl, rfl, rfl⟩
  | ok =>
    change ∃ r, At env now (Repo.rosterExists opId userUpn role >>= _) now d now d r
    obtain ⟨ok, hroster⟩ := @roster_answered env now now d opId o ho userUpn role
    cases ok with
    | false => exact ⟨.error (.thrown 400 .not_in_roster), Prog.exec_bind.2 (.inl ⟨_, _, _, hroster, rfl, rfl, rfl⟩)⟩
    | true =>
      obtain ⟨id, hid⟩ := @conflict_returns env d opId role userUpn except startsAt endsAt
      cases id with
      | none => exact ⟨.ok (), Prog.exec_bind.2 (.inl ⟨_, _, _, hroster, at_query hid ⟨rfl, rfl, rfl⟩⟩)⟩
      | some id =>
        exact ⟨.error (.thrown 409 (.overlap id)), Prog.exec_bind.2 (.inl ⟨_, _, _, hroster, at_query hid ⟨rfl, rfl, rfl⟩⟩)⟩

/-- A checked patch finds its row, and what it makes of it is a row. -/
theorem update_returns {opId shiftId : String} {patch : ShiftPatch} {row : ShiftRow} (hrow : row ∈ d.cp_shifts.rows)
    (ho : env.uuid opId = some row.operation_id) (hi : env.uuid shiftId = some row.shift_id)
    (hc : patch.Checked env now d row) :
    ∃ row' d', d.Returns env d' (.updateShift (Repo.fields patch) opId shiftId) (some row') := by
  obtain ⟨u, -, s, e, hs, he, hd, -⟩ := hc
  obtain ⟨hstart, hstop, -⟩ := fields_dates (checkDates_iff.2 ⟨s, e, hs, he, hd⟩)
  have hset : ∀ {text : Option String} {t old : Int}, text.bind env.instant = some t →
      text.elim (some old) env.instant = some t := by
    intro text t old ht
    cases text with
    | none => cases ht
    | some text => exact ht
  let row' : ShiftRow := { row with
    user_upn := (Repo.fields patch).user_upn.getD row.user_upn, role := (Repo.fields patch).role.getD row.role
    starts_at := s, ends_at := e, notes := (Repo.fields patch).notes.or row.notes, ordered := hd.order }
  have hprimary : ((d.cp_shifts.rows.map fun r => if r.shift_id = row.shift_id then row' else r).map (·.shift_id)).Nodup := by
    rw [List.map_map]
    convert d.cp_shifts.primary using 2
    funext r
    simp only [Function.comp_apply]
    split
    · rename_i hid
      exact hid.symm
    · rfl
  exact ⟨row', { d with cp_shifts := ⟨_, hprimary⟩ }, _, _, ho, hi, row, hrow, rfl, rfl,
    ⟨rfl, rfl, rfl, rfl, rfl, rfl, by rw [hstart]; exact hset hs, by rw [hstop]; exact hset he, rfl⟩, rfl, rfl, rfl⟩

theorem updateShift_answered {opId shiftId : String} (patch : ShiftPatch) {row : ShiftRow} (hrow : row ∈ d.cp_shifts.rows)
    (ho : env.uuid opId = some row.operation_id) (hi : env.uuid shiftId = some row.shift_id) :
    ∃ d' r, At env now (updateShift env opId shiftId patch) clock d now d' r := by
  have hfound : d.Returns env d (.getShift opId shiftId) (some row) := ⟨_, _, ho, hi, rfl, (find_row hrow).symm⟩
  obtain ⟨r, hr⟩ := @check_answered env now d opId _ ho (patch.role.getD row.role) patch.userUpn (some shiftId) patch.startsAt
    patch.endsAt
  cases r with
  | error e => exact ⟨d, .error e, at_query hfound (Prog.exec_bind.2 (.inr ⟨e, hr, rfl⟩))⟩
  | ok =>
    obtain ⟨-, hiff⟩ := check_iff ho hr
    rw [Option.bind_some, hi] at hiff
    obtain ⟨u, -, s, e, hs, he, hd, -⟩ := hiff.1 rfl
    obtain ⟨-, -, hfields⟩ := fields_dates (checkDates_iff.2 ⟨s, e, hs, he, hd⟩)
    obtain ⟨row', d₁, hup⟩ := update_returns hrow ho hi (hiff.1 rfl)
    obtain ⟨d₂, hnotify⟩ : ∃ d₂, At env now (notify (.SCHEDULE_SHIFT_UPDATED opId (camel row').part)) now d₁ now d₂ (.ok ()) :=
      ⟨_, Prog.exec_await (some ()) ⟨rfl, by simp⟩ rfl ⟨rfl, rfl, rfl⟩⟩
    have hstored : At env now (Repo.updateShift opId shiftId patch) now d now d₁ (.ok (some (camel row'))) := by
      rw [Repo.updateShift, hfields, if_neg Bool.false_ne_true]
      exact at_query hup ⟨rfl, rfl, rfl⟩
    refine ⟨d₂, .ok (camel row'), at_query hfound (Prog.exec_bind.2 (.inl ⟨_, _, _, hr, ?_⟩))⟩
    refine Prog.exec_bind.2 (.inl ⟨_, _, _, hstored, ?_⟩)
    exact Prog.exec_bind.2 (.inl ⟨_, _, _, hnotify, rfl, rfl, rfl⟩)

/-! ## The merge -/

/-- A patch that sets the user and both times is checked as it is merged. -/
theorem checked_iff {patch : ShiftPatch} {row : ShiftRow}
    (h : patch.userUpn ≠ none ∧ patch.startsAt ≠ none ∧ patch.endsAt ≠ none) :
    patch.Checked env now d row ↔ (patch.over env row).Passes env now d row.operation_id (some row.shift_id) := by
  obtain ⟨u, hu⟩ := Option.ne_none_iff_exists'.1 h.1
  obtain ⟨s, hs⟩ := Option.ne_none_iff_exists'.1 h.2.1
  obtain ⟨e, he⟩ := Option.ne_none_iff_exists'.1 h.2.2
  simp [ShiftPatch.Checked, ShiftPatch.over, Plan.Passes, hu, hs, he]

/-- A patch that passes its checks sets the user and both times. -/
theorem sets_of_checked {patch : ShiftPatch} {row : ShiftRow} (h : patch.Checked env now d row) :
    patch.userUpn ≠ none ∧ patch.startsAt ≠ none ∧ patch.endsAt ≠ none := by
  obtain ⟨u, hu, s, e, hs, he, -⟩ := h
  obtain ⟨a, ha, -⟩ := Option.bind_eq_some_iff.1 hs
  obtain ⟨b, hb, -⟩ := Option.bind_eq_some_iff.1 he
  simp [hu, ha, hb]

/-- The row an update leaves is the merged shift, but for a text the patch empties. -/
theorem stored_iff {patch : ShiftPatch} {row row' : ShiftRow} (hc : patch.Checked env now d row)
    (hup : (Repo.fields patch).Updates env row row') :
    (patch.over env row).Stored row row' ↔ Whole patch row := by
  have hsets := sets_of_checked hc
  obtain ⟨u, hu, s, e, hs, he, hd, -⟩ := hc
  obtain ⟨hstart, hstop⟩ := updates_dates (checkDates_iff.2 ⟨s, e, hs, he, hd⟩) hup
  obtain ⟨hid, hop, hby, hat, huser, hrole, -, -, hnotes⟩ := hup
  constructor
  · intro h
    exact ⟨hsets, getD_orString.1 (huser.symm.trans h.user_upn), getD_orString.1 (hrole.symm.trans h.role)⟩
  · intro h
    refine ⟨huser.trans (getD_orString.2 h.user), hrole.trans (getD_orString.2 h.role), ?_, ?_, hnotes,
      hid, hop, hby, hat⟩
    · obtain ⟨text, htext⟩ := Option.ne_none_iff_exists'.1 hsets.2.1
      rw [htext] at hstart
      simp only [ShiftPatch.over, htext]
      exact hstart.symm
    · obtain ⟨text, htext⟩ := Option.ne_none_iff_exists'.1 hsets.2.2
      rw [htext] at hstop
      simp only [ShiftPatch.over, htext]
      exact hstop.symm

theorem patchLaw_iff {opId shiftId : String} {patch : ShiftPatch} {row : ShiftRow} (hrow : row ∈ d.cp_shifts.rows)
    (ho : env.uuid opId = some row.operation_id) (hi : env.uuid shiftId = some row.shift_id) {r : Except Error ShiftView}
    (h : At env now (updateShift env opId shiftId patch) clock d clock' d' r) :
    PatchLaw env now d row patch d' r ↔
      ((patch.over env row).Passes env now d row.operation_id (some row.shift_id) → Whole patch row) := by
  rcases updateShift_cases hrow ho hi h with ⟨hc, e, rfl⟩ | ⟨hc, row', rfl, hup, hrows⟩
  · constructor
    · intro hlaw hpass
      obtain ⟨view, hv⟩ := hlaw.succeeds.2 hpass
      cases hv
    · intro himp
      refine ⟨⟨fun ⟨view, hv⟩ => (by cases hv), fun hpass => ?_⟩, fun view hv => (by cases hv)⟩
      exact absurd ((checked_iff (himp hpass).sets).2 hpass) hc
  · constructor
    · intro hlaw hpass
      obtain ⟨new, hstored, hrows'⟩ := hlaw.changes _ rfl
      -- The table has one row with the id, so the two new rows are the same.
      have hsame : new = row' := by
        have hall := List.map_inj_left.1 (hrows'.symm.trans hrows) row hrow
        simpa using hall
      exact (stored_iff hc hup).1 (hsame ▸ hstored)
    · intro himp
      have hpass := (checked_iff (sets_of_checked hc)).1 hc
      exact ⟨⟨fun _ => hpass, fun _ => ⟨_, rfl⟩⟩, fun view _ => ⟨row', (stored_iff hc hup).2 (himp hpass), hrows⟩⟩

end

/-- A patch of a stored shift is answered; and it is judged as the merged shift would
be, and stored as merged, exactly when the merged shift fails the checks or the
patch has the user and both times, and empties no text. -/
theorem patch_iff (env : Env) (now clock : Int) (d : Db) {opId shiftId : String} (patch : ShiftPatch) {row : ShiftRow}
    (hrow : row ∈ d.cp_shifts.rows) (ho : env.uuid opId = some row.operation_id) (hi : env.uuid shiftId = some row.shift_id) :
    (∃ clock' d' r, At env now (updateShift env opId shiftId patch) clock d clock' d' r) ∧
      ∀ clock' d' r, At env now (updateShift env opId shiftId patch) clock d clock' d' r →
        (PatchLaw env now d row patch d' r ↔
          ((patch.over env row).Passes env now d row.operation_id (some row.shift_id) → Whole patch row)) :=
  ⟨⟨now, updateShift_answered patch hrow ho hi⟩, fun _ _ _ h => patchLaw_iff hrow ho hi h⟩

/-! ## Two patches -/

namespace Sample

/-- Ana's morning moves to the afternoon. -/
def moved : ShiftRow := { rowB with shift_id := rowA.shift_id }

def move : ShiftPatch := ⟨some "ana", none, some afternoon.startsAt, some afternoon.endsAt, none⟩

def db₃ : Db := ⟨⟨[moved], by decide⟩, roster, [created rowA]⟩

theorem move_dates : Dates .sample 1755424800000 1755439200000 1755446400000 :=
  ⟨by decide, ⟨by decide +kernel, by decide +kernel⟩, by decide +kernel⟩

theorem move_run : At .sample 1755424800000 (updateShift .sample op rowA.shift_id move) 0 db₁ 1755424800000
    { db₃ with notified := db₃.notified ++ [.SCHEDULE_SHIFT_UPDATED op (camel moved).part] } (.ok (camel moved)) := by
  have hfree : ∀ row ∈ db₁.cp_shifts.rows, ¬ row.Conflicts .sample op (some "ana") "IMO" (some rowA.shift_id)
      (some afternoon.startsAt) (some afternoon.endsAt) := by
    intro row hrow
    obtain rfl := List.mem_singleton.1 hrow
    exact not_conflicts (s := 1755439200000) (e := 1755446400000) (by decide) (by decide) (by decide)
  refine Prog.exec_await (some (some rowA)) ⟨⟨op, rowA.shift_id, by decide, by decide, rfl, rfl⟩, by simp⟩ rfl ?_
  change At _ _ (check .sample op (some "ana") "IMO" (some rowA.shift_id) (some afternoon.startsAt) (some afternoon.endsAt)
    >>= _) _ _ _ _ _
  refine Prog.exec_bind.2 (.inl ⟨(), 1755424800000, db₁, ?_, ?_⟩)
  · change At _ _ (Prog.ofExcept (checkDates .sample 1755424800000 (some afternoon.startsAt) (some afternoon.endsAt))
      >>= _) _ _ _ _ _
    rw [checkDates_iff.2 ⟨1755439200000, 1755446400000, by decide, by decide, move_dates⟩]
    refine Prog.exec_await (some (1 : Nat)) ⟨⟨op, by decide, rfl, by decide⟩, by simp⟩ rfl ?_
    exact Prog.exec_await (some none) ⟨⟨rfl, hfree⟩, by simp⟩ rfl ⟨rfl, rfl, rfl⟩
  · refine ⟨some (some moved), db₃, 1755424800000, ⟨⟨op, rowA.shift_id, by decide, by decide, rowA, by simp [db₁],
      rfl, rfl, ⟨rfl, rfl, rfl, rfl, rfl, rfl, by decide, by decide, rfl⟩, rfl, rfl, rfl⟩, by simp⟩, rfl, ?_⟩
    exact Prog.exec_await (some ()) ⟨rfl, by simp⟩ rfl ⟨rfl, rfl, rfl⟩

/-- A note on the morning. -/
def note : ShiftPatch := ⟨none, none, none, none, some "bring the radio"⟩

theorem note_run : At .sample 1755424800000 (updateShift .sample op rowA.shift_id note) 0 db₁ 1755424800000 db₁
    (.error (.thrown 400 .invalid_time)) :=
  Prog.exec_await (some (some rowA)) ⟨⟨op, rowA.shift_id, by decide, by decide, rfl, rfl⟩, by simp⟩ rfl ⟨rfl, rfl, rfl⟩

end Sample

theorem patch_iff_sample : PatchLaw .sample 1755424800000 Sample.db₁ Sample.rowA Sample.move
    { Sample.db₃ with notified := Sample.db₃.notified ++ [.SCHEDULE_SHIFT_UPDATED Sample.op (camel Sample.moved).part] }
    (.ok (camel Sample.moved)) :=
  ((patch_iff .sample _ _ _ Sample.move (by simp [Sample.db₁]) (by decide) (by decide)).2 _ _ _ Sample.move_run).2 fun _ =>
    ⟨by decide, by decide, by decide⟩

/-- A patch of the notes alone is refused: without times of its own it has none. -/
theorem note_refused : ¬ ∀ (env : Env) (now clock clock' : Int) (d d' : Db) opId shiftId patch row,
    row ∈ d.cp_shifts.rows → env.uuid opId = some row.operation_id → env.uuid shiftId = some row.shift_id →
      ∀ r, At env now (updateShift env opId shiftId patch) clock d clock' d' r → PatchLaw env now d row patch d' r := by
  intro hall
  have hlaw := hall _ _ _ _ _ _ _ _ _ Sample.rowA (by simp [Sample.db₁]) (by decide) (by decide) _ Sample.note_run
  obtain ⟨s, e, hs, he, hd⟩ := checkDates_iff.1 Sample.morning_dates
  cases hs
  cases he
  obtain ⟨view, hv⟩ := hlaw.succeeds.2 ⟨1755424800000, 1755432000000, rfl, rfl, hd,
    ⟨⟨Sample.op, "ana", "IMO", none, true⟩, by simp [Sample.roster, Sample.db₁], rfl, rfl, rfl, rfl⟩, by simp [Sample.db₁]⟩
  cases hv

end Tactix.Schedule
