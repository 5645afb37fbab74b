import Tactix.Lib.Runs
import Tactix.Schedule.Calls
/-!
# Shifts that overlap

Calls made one at a time keep the shifts of a user in a role apart:
`calls_sound`. They do so unless an update passes the checks as one user and
is written as another, because an empty string in the patch is checked and
then left out of the `SET` list: `empty_user_overlaps`.
-/
open Tactix.Js ServiceLib

namespace Tactix.Schedule

/-- No shift is longer than allowed, and no two of one user in one role overlap. -/
structure Sound (env : Env) (rows : List ShiftRow) : Prop where
  timed : ∀ row ∈ rows, row.starts_at < row.ends_at ∧
    (env.ALLOW_OVERSIZE_SHIFTS = true ∨ env.SHIFT_MAX_HOURS.lt (durationHours row.starts_at row.ends_at) = false)
  apart : Apart rows

/-- The start and the end a call asks for. -/
def Call.dates : Call → Option String × Option String
  | .createShift _ input _ => (some input.startsAt, some input.endsAt)
  | .updateShift _ _ patch => (patch.startsAt, patch.endsAt)
  | .deleteShift .. => (none, none)

/-- The shift with that id overlaps the interval the call asks for. -/
def Names (env : Env) (d : Db) (c : Call) (id : String) : Prop :=
  ∃ row ∈ d.cp_shifts.rows, row.shift_id = id ∧ ∃ s e, c.dates.1.bind env.instant = some s ∧
    c.dates.2.bind env.instant = some e ∧ (row.span ∩ Set.Ico s e).Nonempty

/-- When the roster accepts the user and the role an update is checked for, the
update writes them. -/
def Agrees (env : Env) (d : Db) (a : Call × Except Error (Option ShiftView)) : Prop :=
  match a.1 with
  | .updateShift opId shiftId patch => ∀ row ∈ d.cp_shifts.rows, env.uuid opId = some row.operation_id →
      env.uuid shiftId = some row.shift_id → ∀ user, patch.userUpn = some user →
      d.cp_roster.Has row.operation_id user (patch.role.getD row.role) →
      (Repo.fields patch).user_upn.getD row.user_upn = user ∧
        (Repo.fields patch).role.getD row.role = patch.role.getD row.role
  | _ => True

/-! ## What a call keeps -/

theorem Sound.put {env : Env} {rows rows' : List ShiftRow} (h : Sound env rows) (new : ShiftRow)
    (hrows : ∀ r ∈ rows', r = new ∨ (r ∈ rows ∧ r.shift_id ≠ new.shift_id))
    (hmax : env.ALLOW_OVERSIZE_SHIFTS = true ∨ env.SHIFT_MAX_HOURS.lt (durationHours new.starts_at new.ends_at) = false)
    (hfree : ∀ r ∈ rows, r.shift_id ≠ new.shift_id → SameDuty r new → ¬ (r.span ∩ new.span).Nonempty) :
    Sound env rows' := by
  refine ⟨fun r hr => ?_, h.apart.put hrows hfree⟩
  rcases hrows r hr with rfl | ⟨hr, -⟩
  · exact ⟨r.ordered, hmax⟩
  · exact h.timed r hr

theorem Sound.sub {env : Env} {rows rows' : List ShiftRow} (h : Sound env rows) (hrows : ∀ r ∈ rows', r ∈ rows) :
    Sound env rows' :=
  ⟨fun r hr => h.timed r (hrows r hr), h.apart.sub hrows⟩

/-- A row with the user, role and dates the checks passed for is apart from the
rows the conflict query looked at. -/
theorem Cleared.apart {env : Env} {d : Db} {opId role : String} {userUpn except startsAt endsAt : Option String}
    (h : Cleared env d opId userUpn role except startsAt endsAt) {new : ShiftRow}
    (hop : env.uuid opId = some new.operation_id) (hu : userUpn = some new.user_upn) (hr : new.role = role)
    (hs : startsAt.bind env.instant = some new.starts_at) (he : endsAt.bind env.instant = some new.ends_at)
    {r : ShiftRow} (hmem : r ∈ d.cp_shifts.rows) (hid : ∀ id, except = some id → env.uuid id ≠ some r.shift_id)
    (hduty : SameDuty r new) : ¬ (r.span ∩ new.span).Nonempty := by
  rw [span_inter]
  intro hcross
  refine h.free r hmem ⟨?_, ?_, hduty.2.2.trans hr, hid, _, _, hs, he, hcross⟩
  · rw [hop, hduty.1]
  · rw [hu, hduty.2.1]

theorem Cleared.max {env : Env} {d : Db} {opId role : String} {userUpn except startsAt endsAt : Option String}
    (h : Cleared env d opId userUpn role except startsAt endsAt) {s e : Int} (hs : startsAt.bind env.instant = some s)
    (he : endsAt.bind env.instant = some e) :
    env.ALLOW_OVERSIZE_SHIFTS = true ∨ env.SHIFT_MAX_HOURS.lt (durationHours s e) = false := by
  obtain ⟨now, hdates⟩ := h.dates
  obtain ⟨s', e', hs', he', -, hmax⟩ := checkDates_ok hdates
  rw [hs] at hs'
  rw [he] at he'
  cases hs'
  cases he'
  exact hmax

theorem sets_mem {d d' : Db} {rows : List ShiftRow} (h : d.Sets rows d') {r : ShiftRow} (hr : r ∈ d'.cp_shifts.rows) :
    r ∈ rows := h.1 ▸ hr

theorem notified_shifts {env : Env} {ans : Db → (q : Query) → q.Reply → Db → Prop} (hans : Answering env ans) {d d' : Db}
    {e : Envelope} {a : Query.Reply (.notify e)} (h : ans d (.notify e) a d') : d'.cp_shifts = d.cp_shifts := by
  have := hans _ _ _ _ h
  cases a with
  | none => rw [show d' = d from this]
  | some u => rw [show d' = { d with notified := d.notified ++ [e] } from this]

theorem sound_step {env : Env} {ans : Db → (q : Query) → q.Reply → Db → Prop} (hans : Answering env ans) {d d' : Db}
    {a : Call × Except Error (Option ShiftView)} (hi : Sound env d.cp_shifts.rows) (hc : Agrees env d a)
    (h : CallStep env ans d a d') : Sound env d'.cp_shifts.rows := by
  cases ran_of_step hans h with
  | createShift hr =>
    cases hr with
    | refused => exact hi
    | @added row d₁ _ _ hcl hins hfresh hset hn =>
      obtain ⟨hop, hu, hrole, hs, he, -⟩ := hins
      rw [notified_shifts hans hn]
      refine hi.put row (fun r hr => ?_) (hcl.max hs he) (fun r hr _ hduty => ?_)
      · rcases List.mem_append.1 (sets_mem hset hr) with hr | hr
        · exact .inr ⟨hr, fun he => hfresh (he ▸ List.mem_map_of_mem hr)⟩
        · exact .inl (List.mem_singleton.1 hr)
      · exact hcl.apart hop (congrArg some hu.symm) hrole hs he hr (fun id hid => by cases hid) hduty
  | updateShift hr =>
    cases hr with
    | refused => exact hi
    | @changed row row' d₁ _ _ hrow hop hid hcl hup hset hn =>
      obtain ⟨now, hdates⟩ := hcl.dates
      obtain ⟨hs, he⟩ := updates_dates hdates hup
      obtain ⟨hid', hop', -, -, hu', hrole', -⟩ := hup
      obtain ⟨o, user, ho, huser, hroster⟩ := hcl.roster
      obtain rfl := Option.some.inj (hop.symm.trans ho)
      -- The condition: the user and the role that are written are the checked ones.
      obtain ⟨hwu, hwr⟩ := hc row hrow hop hid user huser hroster
      rw [notified_shifts hans hn]
      refine hi.put row' (fun r hr => ?_) (hcl.max hs he) (fun r hr hne hduty => ?_)
      · rw [hid']
        exact mem_replaced (sets_mem hset hr)
      · refine hcl.apart (hop.trans (congrArg some hop'.symm)) ?_ (hrole'.trans hwr) hs he hr ?_ hduty
        · rw [huser, hu', hwu]
        · intro id hx
          cases hx
          rw [hid, ← hid']
          exact fun hx => hne (Option.some.inj hx).symm
  | deleteShift hr =>
    cases hr with
    | rejected => exact hi
    | removed _ _ hset hn =>
      rw [notified_shifts hans hn]
      exact hi.sub fun r hr => (List.mem_filter.1 (sets_mem hset hr)).1

/-- A call that throws changes nothing, and a 409 names a shift in the way. -/
theorem error_step {env : Env} {ans : Db → (q : Query) → q.Reply → Db → Prop} (hans : Answering env ans) {d d' : Db}
    {c : Call} {e : Error} (h : CallStep env ans d (c, .error e) d') :
    d' = d ∧ ∀ id, e = .thrown 409 (.overlap id) → Names env d c id := by
  -- A shift the conflict query finds overlaps the dates the call asks for.
  have hnames : ∀ {opId role : String} {userUpn except startsAt endsAt : Option String},
      Honest env d opId userUpn role except startsAt endsAt e → c.dates = (startsAt, endsAt) →
      ∀ id, e = .thrown 409 (.overlap id) → Names env d c id := by
    intro opId role userUpn except startsAt endsAt hh hdates id he
    obtain ⟨⟨now, hok⟩, row, hrow, hid, -, -, -, -, s, t, hs, ht, hcross⟩ := hh id he
    obtain ⟨s', t', hs', ht', hlt, -⟩ := checkDates_ok hok
    rw [hs] at hs'
    rw [ht] at ht'
    cases hs'
    cases ht'
    exact ⟨row, hrow, hid, s, t, by rw [hdates, hs], by rw [hdates, ht], (crosses_iff row.ordered hlt).1 hcross⟩
  generalize hr : (Except.error e : Except Error (Option ShiftView)) = r at h
  cases ran_of_step hans h with
  | @createShift _ _ _ r' hc =>
    cases hc with
    | refused hh =>
      cases hr
      exact ⟨rfl, hnames hh rfl⟩
    | added => cases hr
  | updateShift hc =>
    cases hc with
    | refused hh =>
      cases hr
      exact ⟨rfl, hnames hh rfl⟩
    | changed => cases hr
  | deleteShift hc =>
    cases hc with
    | rejected =>
      cases hr
      exact ⟨rfl, fun id he => by cases he⟩
    | removed => cases hr

/-! ## Runs -/

/-- In every run in which no update writes another user or role than it checked,
the shifts stay apart; whatever a call throws, it has changed nothing, and a
409 names a shift in the way. -/
theorem calls_sound (env : Env) (roster : Roster) {d : Db}
    (h : Reachable (Guarded (Agrees env) (CallStep env (answers env))) (Db.start roster) d) :
    Sound env d.cp_shifts.rows ∧
    (∀ c e d', CallStep env (answers env) d (c, .error e) d' → d'.cp_shifts = d.cp_shifts) ∧
    (∀ c id d', CallStep env (answers env) d (c, .error (.thrown 409 (.overlap id))) d' → Names env d c id) := by
  have hans : Answering env (answers env) := fun _ _ _ _ h => h
  refine ⟨?_, fun c e d' hs => by rw [(error_step hans hs).1], fun c id d' hs => (error_step hans hs).2 id rfl⟩
  refine h.inv (I := fun d => Sound env d.cp_shifts.rows) ⟨by simp [Db.start], by simp [Apart, Db.start]⟩ ?_
  rintro d a d' hi ⟨hc, hs⟩
  exact sound_step hans hi hc hs

/-- The afternoon shift after an update that moves it to the morning, over the other one. -/
def Sample.rowB' : ShiftRow :=
  { Sample.rowB with starts_at := Sample.rowA.starts_at, ends_at := Sample.rowA.ends_at, ordered := Sample.rowA.ordered }

/-- Ana has two shifts, and the roster has an entry for the empty user name. An
update of the second shift for that user is checked against nobody's shifts and
then moves Ana's shift over her other one. -/
theorem empty_user_overlaps :
    ¬ ∀ d, Reachable (CallStep .sample (answers .sample)) (Db.start Sample.roster) d → Sound .sample d.cp_shifts.rows := by
  intro hall
  have hserve := answers_serving .sample
  let patch : ShiftPatch := ⟨some "", none, some "2025-08-17T10:00:00Z", some "2025-08-17T12:00:00Z", none⟩
  have hfree : ∀ row ∈ Sample.db₂.cp_shifts.rows, ¬ row.Conflicts .sample Sample.op (some "") "IMO"
      (some Sample.rowB.shift_id) patch.startsAt patch.endsAt := by
    rintro row hrow ⟨-, hu, -⟩
    simp only [Sample.db₂, List.mem_cons, List.not_mem_nil, or_false] at hrow
    rcases hrow with rfl | rfl <;> exact absurd hu (by decide)
  have hup : (Repo.fields patch).Updates .sample Sample.rowB Sample.rowB' :=
    ⟨rfl, rfl, rfl, rfl, rfl, rfl, by decide, by decide, rfl⟩
  let d₃ : Db := ⟨⟨[Sample.rowA, Sample.rowB'], by decide⟩, Sample.roster, Sample.db₂.notified⟩
  have hrow : Sample.rowB ∈ Sample.db₂.cp_shifts.rows := by simp [Sample.db₂]
  have hrun := updated_exec hserve d₃ Sample.morning_dates (o := Sample.op) (by decide) (by decide) hrow rfl rfl
    ⟨⟨Sample.op, "", "IMO", none, true⟩, by simp [Sample.roster, Sample.db₂], rfl, rfl, rfl, rfl⟩ hfree hup
    ⟨by simp [d₃, Sample.db₂, show ¬ Sample.rowA.shift_id = Sample.rowB.shift_id by decide], rfl, rfl⟩
  have hreach := ((Reachable.refl.next _ (Sample.first hserve)).next _ (Sample.second hserve)).next
    (.updateShift Sample.op Sample.rowB.shift_id patch, .ok (some (camel Sample.rowB')))
    ⟨_, _, Prog.exec_map.2 ⟨.ok (camel Sample.rowB'), hrun, rfl⟩⟩
  have hsound := (hall _ hreach).apart Sample.rowA (by simp [d₃]) Sample.rowB' (by simp [d₃]) (by decide) ⟨rfl, rfl, rfl⟩
  exact hsound ⟨1755424800000, ⟨by decide, by decide⟩, by decide, by decide⟩

/-- One shift after another, with nothing in the way. -/
theorem calls_sound_sample : Sound .sample Sample.db₂.cp_shifts.rows :=
  (calls_sound .sample Sample.roster ((Reachable.refl.nextGuarded _ (by trivial)
    (Sample.first (answers_serving _))).nextGuarded _ (by trivial) (Sample.second (answers_serving _)))).1

end Tactix.Schedule
