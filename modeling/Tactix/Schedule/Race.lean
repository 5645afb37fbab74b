import Tactix.Lib.Reserve
import Tactix.Schedule.Calls
/-!
# Calls at the same time

The conflict query and the write are two statements, and other calls run in
between. `shifts_apart` says which schedules keep the shifts of a user in a
role apart: those in which nobody is told that a time is free while another
call has been told the same and has not written yet. `double_booking` is the
other case.
-/
open Tactix.Js ServiceLib

namespace Tactix.Schedule

abbrev Entries := Asked Query Query.Reply

/-- Calls of the service, over one database and one clock. -/
abbrev State := Sys Call Int Db Query Query.Reply Error (Option ShiftView)

abbrev Act := Action Call Int Query Query.Reply

/-- Between the turns only the clock moves, to any time. -/
def clock (o : Int) (_ : Int) (d : Db) (m' : Int) (d' : Db) : Prop := m' = o ∧ d' = d

abbrev RaceStep (env : Env) : State → Act → State → Prop := Step (Call.run env) (answers env) clock

/-! ## What a call asks -/

/-- A write follows at once on a conflict query that found nothing. -/
inductive Issues (env : Env) : Call → Entries → Query → Prop
  | getShift {l : Call} {h : Entries} {opId shiftId : String} : Issues env l h (.getShift opId shiftId)
  | rosterExists {l : Call} {h : Entries} {opId role : String} {userUpn : Option String} :
      Issues env l h (.rosterExists opId userUpn role)
  | conflict {l : Call} {h : Entries} {opId role : String} {userUpn except startsAt endsAt : Option String} :
      Issues env l h (.conflict opId userUpn role except startsAt endsAt)
  | notify {l : Call} {h : Entries} {e : Envelope} : Issues env l h (.notify e)
  | insert {opId createdBy : String} {input : ShiftInput} {h : Entries} :
      Issues env (.createShift opId input createdBy)
        (⟨.conflict opId (some input.userUpn) input.role none (some input.startsAt) (some input.endsAt), some none⟩ :: h)
        (.insertShift opId input createdBy)
  | update {opId shiftId role : String} {patch : ShiftPatch} {now : Int} {h : Entries} :
      checkDates env now patch.startsAt patch.endsAt = .ok () →
      Issues env (.updateShift opId shiftId patch)
        (⟨.conflict opId patch.userUpn role (some shiftId) patch.startsAt patch.endsAt, some none⟩ :: h)
        (.updateShift (Repo.fields patch) opId shiftId)
  | delete {opId shiftId : String} {h : Entries} :
      Issues env (.deleteShift opId shiftId) h (.deleteShift opId shiftId)

def raceSpec (env : Env) : Spec Call Int Query Query.Reply where
  reply _ _ := True
  inv _ := True
  rely _ _ := True
  issue l h _ _ q := Issues env l h q
  rely_refl _ := trivial
  rely_trans _ _ := trivial

/-- A `createShift` that succeeds has added a row. -/
def Added (l : Call) (h : Entries) (_ _ : Int) (r : Except Error (Option ShiftView)) : Prop :=
  match l, r with
  | .createShift opId input createdBy, .ok _ => ∃ row : ShiftRow, ⟨.insertShift opId input createdBy, some row⟩ ∈ h
  | _, _ => True

section
variable {env : Env} {l : Call} {h : Entries} {m₀ m : Int}

theorem query_wp {α : Type} {q : Query} {f : q.Rows → Svc α} {post : Entries → Int → Int → Except Error α → Prop}
    (hq : Issues env l h q) (he : ∀ h m₀ m, post h m₀ m (.error .rejected))
    (hk : ∀ rows m₁, (f rows).wp (raceSpec env) l post (⟨q, some rows⟩ :: h) m₁ m₁) :
    (query q >>= f).wp (raceSpec env) l post h m₀ m := by
  refine ⟨⟨trivial, trivial, hq⟩, fun a m₁ _ _ _ => ?_⟩
  cases a with
  | none => exact he _ _ _
  | some rows => exact hk rows m₁

theorem check_wp {opId role : String} {userUpn except startsAt endsAt : Option String}
    {post : Entries → Int → Int → Except Error Unit → Prop} (he : ∀ h m₀ m e, post h m₀ m (.error e))
    (hok : ∀ h now m₁, checkDates env now startsAt endsAt = .ok () →
      post (⟨.conflict opId userUpn role except startsAt endsAt, some none⟩ :: h) m₁ m₁ (.ok ())) :
    (check env opId userUpn role except startsAt endsAt).wp (raceSpec env) l post h m₀ m := by
  change (Prog.ofExcept (checkDates env m startsAt endsAt) >>= _).wp _ l post h m₀ m
  cases hdates : checkDates env m startsAt endsAt with
  | error e => exact he _ _ _ _
  | ok =>
    change (Repo.rosterExists opId userUpn role >>= _).wp _ l post h m₀ m
    refine wp_bind.2 (query_wp .rosterExists (fun _ _ _ => he _ _ _ _) fun rows m₁ => ?_)
    change Prog.wp _ l (ite _ _ _) post _ _ _
    split
    · exact he _ _ _ _
    · refine query_wp .conflict (fun _ _ _ => he _ _ _ _) fun conflict m₂ => ?_
      cases conflict with
      | some id => exact he _ _ _ _
      | none => exact hok _ m m₂ hdates

theorem notify_wp {α : Type} {e : Envelope} {a : α} {post : Entries → Int → Int → Except Error α → Prop}
    (hpost : ∀ x m₁, post (⟨.notify e, x⟩ :: h) m₁ m₁ (.ok a)) :
    (notify e >>= fun _ => pure a).wp (raceSpec env) l post h m₀ m :=
  ⟨⟨trivial, trivial, .notify⟩, fun x m₁ _ _ _ => hpost x m₁⟩

/-- Every call writes only right after its checks. -/
theorem run_meets (env : Env) : (raceSpec env).Implements Added (Call.run env) := by
  intro l m _
  cases l with
  | createShift opId input createdBy =>
    refine wp_bind.2 (wp_bind.2 (check_wp (fun _ _ _ _ => ⟨trivial, trivial, trivial⟩) fun h now m₁ hdates => ?_))
    refine wp_bind.2 (query_wp .insert (fun _ _ _ => ⟨trivial, trivial, trivial⟩) fun row m₂ => ?_)
    exact notify_wp fun x m₃ => ⟨trivial, trivial, row, by simp⟩
  | updateShift opId shiftId patch =>
    refine wp_bind.2 (query_wp .getShift (fun _ _ _ => ⟨trivial, trivial, trivial⟩) fun existing m₁ => ?_)
    cases existing with
    | none => exact ⟨trivial, trivial, trivial⟩
    | some existing =>
      refine wp_bind.2 (check_wp (fun _ _ _ _ => ⟨trivial, trivial, trivial⟩) fun h now m₂ hdates => ?_)
      refine wp_bind.2 ?_
      rw [Repo.updateShift, (fields_dates hdates).2.2, if_neg Bool.false_ne_true]
      refine query_wp (.update hdates) (fun _ _ _ => ⟨trivial, trivial, trivial⟩) fun row m₃ => ?_
      cases row with
      | none => exact ⟨trivial, trivial, trivial⟩
      | some row => exact notify_wp fun x m₄ => ⟨trivial, trivial, trivial⟩
  | deleteShift opId shiftId =>
    refine wp_bind.2 (query_wp .delete (fun _ _ _ => ⟨trivial, trivial, trivial⟩) fun _ m₁ => ?_)
    exact ⟨⟨trivial, trivial, .notify⟩, fun x m₂ _ _ _ => ⟨trivial, trivial, trivial⟩⟩

end

/-! ## Free slots -/

/-- An interval for a user in a role, for a new shift or for the one with id `except`. -/
structure Slot where
  operation_id : String
  user_upn : String
  role : String
  except : Option String
  s : Int
  e : Int

/-- The last reply to the call says that nothing is in the way of the slot. The call
has not written since. -/
inductive Clear (env : Env) (slot : Slot) : Entries → Prop
  | mk {opId : String} {except startsAt endsAt : Option String} {h : Entries} :
      env.uuid opId = some slot.operation_id → except.bind env.uuid = slot.except →
      startsAt.bind env.instant = some slot.s → endsAt.bind env.instant = some slot.e →
      Clear env slot (⟨.conflict opId (some slot.user_upn) slot.role except startsAt endsAt, some none⟩ :: h)

def Slot.Free (slot : Slot) (rows : List ShiftRow) : Prop :=
  ∀ row ∈ rows, some row.shift_id ≠ slot.except → row.operation_id = slot.operation_id → row.user_upn = slot.user_upn →
    row.role = slot.role → ¬ Crosses row.starts_at row.ends_at slot.s slot.e

/-- Two slots that cannot both be taken. -/
def Rival (a b : Slot) : Prop :=
  a.operation_id = b.operation_id ∧ a.user_upn = b.user_upn ∧ a.role = b.role ∧ Crosses a.s a.e b.s b.e ∧
    ¬ ∃ id, a.except = some id ∧ b.except = some id

/-- Nobody is told that a slot is free while another call has been told so of a
rival slot and has not written; and an update writes the user and the role its
conflict query was about. -/
def Fair (env : Env) (s : State) : Act → Prop
  | .answer i q a =>
    (∀ slot, Clear env slot [⟨q, a⟩] → ∀ j h slot', j ≠ i → s.asked j = some h → Clear env slot' h → ¬ Rival slot slot') ∧
    (∀ fields opId shiftId, q = .updateShift fields opId shiftId →
      ∀ opId' userUpn role except startsAt endsAt reply h,
      s.asked i = some (⟨.conflict opId' userUpn role except startsAt endsAt, reply⟩ :: h) →
      ∀ row ∈ s.data.cp_shifts.rows, env.uuid opId = some row.operation_id → env.uuid shiftId = some row.shift_id →
      userUpn = some (fields.user_upn.getD row.user_upn) ∧ role = fields.role.getD row.role)
  | _ => True

/-- The shifts are apart, a slot a call was told is free is free, and no two
calls have been told so of rivals. -/
structure Booked (env : Env) (rows : List ShiftRow) (asked : Nat → Option Entries) : Prop where
  apart : Apart rows
  free : ∀ i h slot, asked i = some h → Clear env slot h → slot.Free rows
  alone : ∀ i j h h' slot slot', i ≠ j → asked i = some h → asked j = some h' → Clear env slot h → Clear env slot' h' →
    ¬ Rival slot slot'

theorem Rival.symm {a b : Slot} (h : Rival a b) : Rival b a :=
  ⟨h.1.symm, h.2.1.symm, h.2.2.1.symm, h.2.2.2.1.symm, fun ⟨id, ha, hb⟩ => h.2.2.2.2 ⟨id, hb, ha⟩⟩

section
variable {env : Env} {rows rows' : List ShiftRow} {asked : Nat → Option Entries} {i : Nat} {h : Entries}

theorem Booked.reserved (hb : Booked env rows asked) : Reserved Slot.Free (Clear env) Rival rows asked :=
  ⟨hb.free, hb.alone⟩

theorem booked_of_reserved (ha : Apart rows) (hr : Reserved Slot.Free (Clear env) Rival rows asked) : Booked env rows asked :=
  ⟨ha, hr.free, hr.alone⟩

/-- A call is told of free slots that have no rival. -/
theorem Booked.told (hb : Booked env rows asked) (hfree : ∀ slot, Clear env slot h → slot.Free rows)
    (hno : ∀ slot, Clear env slot h → ∀ j h' slot', j ≠ i → asked j = some h' → Clear env slot' h' → ¬ Rival slot slot') :
    Booked env rows (Function.update asked i (some h)) :=
  booked_of_reserved hb.apart (hb.reserved.told (fun _ _ => Rival.symm) hfree hno)

/-- A reply that leaves its call with no slot to take. -/
theorem Booked.forget (hb : Booked env rows asked) (hno : ∀ slot, ¬ Clear env slot h) :
    Booked env rows (Function.update asked i (some h)) :=
  booked_of_reserved hb.apart (hb.reserved.forget hno)

theorem Booked.sub (hb : Booked env rows asked) (hrows : ∀ r ∈ rows', r ∈ rows) : Booked env rows' asked :=
  booked_of_reserved (hb.apart.sub hrows) (hb.reserved.sub fun _ hfree r hr => hfree r (hrows r hr))

/-- A call writes the row of a slot it was told is free. -/
theorem Booked.put (hb : Booked env rows asked) (slot : Slot) {new : ShiftRow} (hi : asked i = some h)
    (hcl : Clear env slot h) (hop : new.operation_id = slot.operation_id) (hu : new.user_upn = slot.user_upn)
    (hr : new.role = slot.role) (hs : new.starts_at = slot.s) (he : new.ends_at = slot.e)
    (hex : slot.except = none ∨ slot.except = some new.shift_id)
    (hrows : ∀ r ∈ rows', r = new ∨ (r ∈ rows ∧ r.shift_id ≠ new.shift_id)) {h' : Entries}
    (hno : ∀ slot, ¬ Clear env slot h') : Booked env rows' (Function.update asked i (some h')) := by
  have hapart : Apart rows' := by
    -- The rows with other ids leave the slot free.
    refine hb.apart.put hrows fun r hr' hid hduty => ?_
    rw [span_inter, hs, he]
    refine hb.free i h slot hi hcl r hr' ?_ (hduty.1.trans hop) (hduty.2.1.trans hu) (hduty.2.2.trans hr)
    rcases hex with hex | hex
    · simp [hex]
    · simpa [hex] using hid
  refine booked_of_reserved hapart (hb.reserved.take hi hcl (fun slot' hfree hrival => ?_) hno)
  intro r hr' hid' hop' hu' hrole'
  rcases hrows r hr' with rfl | ⟨hr', -⟩
  · -- The other calls' slots are not rivals of the one just taken.
    intro hcross
    refine hrival ⟨by rw [← hop, hop'], by rw [← hu, hu'], by rw [← hr, hrole'], by rw [← hs, ← he]; exact hcross, ?_⟩
    rintro ⟨id, hid, hid''⟩
    rcases hex with hex | hex
    · rw [hex] at hid
      cases hid
    · exact hid' (by rw [hid'', ← hid, hex])
  · exact hfree r hr' hid' hop' hu' hrole'

end

/-! ## Runs -/

theorem clear_head {env : Env} {slot : Slot} {x : (q : Query) × q.Reply} {h : Entries} (hc : Clear env slot (x :: h)) :
    Clear env slot [x] := by
  cases hc with
  | mk ho hx hs he => exact .mk ho hx hs he

/-- Only a reply to a conflict query tells of a free slot. -/
theorem not_clear {env : Env} {q : Query} {a : q.Reply} {h : Entries}
    (hne : ∀ opId userUpn role except startsAt endsAt, q ≠ .conflict opId userUpn role except startsAt endsAt) (slot : Slot) :
    ¬ Clear env slot (⟨q, a⟩ :: h) := by
  intro hc
  cases hc
  exact hne _ _ _ _ _ _ rfl

theorem not_clear_taken {env : Env} {opId role id : String} {userUpn except startsAt endsAt : Option String} {h : Entries}
    (slot : Slot) : ¬ Clear env slot (⟨.conflict opId userUpn role except startsAt endsAt, some (some id)⟩ :: h) :=
  fun hc => by cases hc

/-- What it tells is so. -/
theorem clear_free {env : Env} {d d' : Db} {slot : Slot} {opId role : String} {userUpn except startsAt endsAt : Option String}
    {h : Entries} (ha : answers env d (.conflict opId userUpn role except startsAt endsAt) (some none) d')
    (hc : Clear env slot (⟨.conflict opId userUpn role except startsAt endsAt, some none⟩ :: h)) :
    slot.Free d.cp_shifts.rows := by
  obtain ⟨-, hrows⟩ := ha
  cases hc with
  | mk ho hx hs he =>
    intro row hrow hid hop hu hr hcross
    refine hrows row hrow ⟨hop ▸ ho, by rw [hu], hr, fun id he' => ?_, _, _, hs, he, hcross⟩
    rw [he', Option.bind_some] at hx
    exact fun hid' => hid (by rw [← hx, hid'])

/-- What a reply leaves of `Booked`. -/
theorem booked_answer {env : Env} {s : State} {l : Call} {h : Entries} {i : Nat} {q : Query} {a : q.Reply} {d : Db}
    (hb : Booked env s.data.cp_shifts.rows s.asked) (hi : s.asked i = some h) (hq : Issues env l h q)
    (ha : answers env s.data q a d) (hf : Fair env s (.answer i q a)) :
    Booked env d.cp_shifts.rows (Function.update s.asked i (some (⟨q, a⟩ :: h))) := by
  cases a with
  | none =>
    obtain rfl : d = s.data := ha
    exact hb.forget fun slot hc => by cases hc
  | some rows =>
    cases hq with
    | getShift =>
      obtain ⟨o, j, -, -, rfl, -⟩ := ha
      exact hb.forget (not_clear (by simp))
    | rosterExists =>
      obtain ⟨o, -, rfl, -⟩ := ha
      exact hb.forget (not_clear (by simp))
    | @notify _ _ e =>
      obtain rfl : d = { s.data with notified := s.data.notified ++ [e] } := ha
      exact hb.forget (not_clear (by simp))
    | conflict =>
      obtain rfl : d = s.data := ha.1
      cases rows with
      | some id => exact hb.forget fun slot hc => by cases hc
      | none => exact hb.told (fun slot hc => clear_free ha hc) fun slot hc => hf.1 slot (clear_head hc)
    | @insert opId createdBy input h =>
      obtain ⟨⟨ho, hu, hr, hs, he, -⟩, hfresh, hset⟩ := ha
      refine hb.put ⟨rows.operation_id, input.userUpn, input.role, none, rows.starts_at, rows.ends_at⟩ hi
        (.mk ho rfl hs he) rfl hu hr rfl rfl (.inl rfl) (fun r hr' => ?_) (not_clear (by simp))
      rw [hset.1] at hr'
      rcases List.mem_append.1 hr' with hr' | hr'
      · exact .inr ⟨hr', fun hid => hfresh (hid ▸ List.mem_map_of_mem hr')⟩
      · exact .inl (List.mem_singleton.1 hr')
    | @update opId shiftId role patch now h hdates =>
      obtain ⟨o, j, ho, hj, hres⟩ := ha
      cases rows with
      | none => exact hres.1 ▸ hb.forget (not_clear (by simp))
      | some row' =>
        obtain ⟨row, hrow, rfl, rfl, hup, hset⟩ := hres
        obtain ⟨huser, hrole⟩ := hf.2 _ _ _ rfl _ _ _ _ _ _ _ _ hi row hrow ho hj
        obtain ⟨hs, he⟩ := updates_dates hdates hup
        obtain ⟨hid', hop', -, -, hu', hr', -⟩ := hup
        rw [huser, hrole, ← hu', ← hr'] at hi
        refine hb.put ⟨row.operation_id, row'.user_upn, row'.role, some row'.shift_id, row'.starts_at, row'.ends_at⟩
          hi (.mk ho ?_ hs he) hop' rfl rfl rfl rfl (.inr rfl) (fun r hr => ?_) (not_clear (by simp))
        · rw [Option.bind_some, hj, hid']
        · rw [hset.1] at hr
          rw [hid']
          exact mem_replaced hr
    | delete =>
      obtain ⟨o, j, -, -, hset⟩ := ha
      refine (hb.sub fun r hr => ?_).forget (not_clear (by simp))
      rw [hset.1] at hr
      exact (List.mem_filter.1 hr).1

abbrev RaceChange (env : Env) : State → Act → State → Prop := Change (raceSpec env) Added (answers env) clock

theorem booked_step {env : Env} {s s' : State} {a : Act} (hm : s.Meets (raceSpec env) Added)
    (hb : Booked env s.data.cp_shifts.rows s.asked) (hf : Fair env s a) (hc : RaceChange env s a s') :
    Booked env s'.data.cp_shifts.rows s'.asked := by
  refine hc.asked_inv (P := fun d asked => Booked env d.cp_shifts.rows asked) hm hb ?_ ?_ ?_
  · exact fun i _ => hb.forget fun slot hcl => by cases hcl
  · rintro i t q r d m₀ m₁ rfl hi hq ha
    exact booked_answer hb (by simp [Sys.asked, hi]) hq ha hf
  · rintro o m d ⟨-, rfl⟩
    exact hb

/-! ### Creations only -/

def Call.IsCreate : Call → Prop
  | .createShift .. => True
  | _ => False

/-- Every call so far is a `createShift`. -/
def Creates (s : State) : Prop := ∀ i t, s.threads i = some t → t.call.IsCreate

/-- What the calls were told they added is in the table, each under an id of its own. -/
structure Kept (env : Env) (rows : List ShiftRow) (asked : Nat → Option Entries) : Prop where
  kept : ∀ i h opId input createdBy row, asked i = some h → ⟨.insertShift opId input createdBy, some row⟩ ∈ h →
    row ∈ rows ∧ input.Inserts env opId createdBy row
  distinct : ∀ i j h h' opId input createdBy row opId' input' createdBy' row', i ≠ j → asked i = some h →
    asked j = some h' → ⟨.insertShift opId input createdBy, some row⟩ ∈ h →
    ⟨.insertShift opId' input' createdBy', some row'⟩ ∈ h' → row.shift_id ≠ row'.shift_id

theorem creates_of_change {env : Env} {s s' : State} {a : Act} (hc : RaceChange env s a s') (h : Creates s') :
    Creates s := by
  intro i t hi
  obtain ⟨t', ht', he⟩ := hc.call hi
  exact he ▸ h i t' ht'

section
variable {env : Env} {rows rows' : List ShiftRow} {asked : Nat → Option Entries} {i : Nat} {h : Entries}

/-- Calls that were told of no more rows than before. -/
theorem Kept.sub (hk : Kept env rows asked) {asked' : Nat → Option Entries}
    (hold : ∀ j h' opId input createdBy row, asked' j = some h' → ⟨.insertShift opId input createdBy, some row⟩ ∈ h' →
      ∃ h'', asked j = some h'' ∧ ⟨.insertShift opId input createdBy, some row⟩ ∈ h'') : Kept env rows asked' := by
  refine ⟨fun j h' _ _ _ _ hj hm => ?_, fun j k h' h'' _ _ _ _ _ _ _ _ hne hj hk' hm hm' => ?_⟩
  · obtain ⟨h₁, hj, hm⟩ := hold j h' _ _ _ _ hj hm
    exact hk.kept j h₁ _ _ _ _ hj hm
  · obtain ⟨h₁, hj, hm⟩ := hold j h' _ _ _ _ hj hm
    obtain ⟨h₂, hk', hm'⟩ := hold k h'' _ _ _ _ hk' hm'
    exact hk.distinct j k h₁ h₂ _ _ _ _ _ _ _ _ hne hj hk' hm hm'

theorem Kept.start (hk : Kept env rows asked) : Kept env rows (Function.update asked i (some [])) := by
  refine hk.sub fun j h' _ _ _ _ hj hm => ?_
  rcases update_cases hj with ⟨rfl, rfl⟩ | ⟨-, hj⟩
  · cases hm
  · exact ⟨h', hj, hm⟩

/-- A reply that adds nothing. -/
theorem Kept.reply (hk : Kept env rows asked) {x : (q : Query) × q.Reply} (hi : asked i = some h)
    (hx : ∀ opId input createdBy row, x ≠ ⟨.insertShift opId input createdBy, some row⟩) :
    Kept env rows (Function.update asked i (some (x :: h))) := by
  refine hk.sub fun j h' _ _ _ _ hj hm => ?_
  rcases update_cases hj with ⟨rfl, rfl⟩ | ⟨-, hj⟩
  · exact ⟨h, hi, (List.mem_cons.1 hm).resolve_left fun he => hx _ _ _ _ he.symm⟩
  · exact ⟨h', hj, hm⟩

theorem Kept.insert (hk : Kept env rows asked) (hi : asked i = some h) {opId createdBy : String} {input : ShiftInput}
    {row : ShiftRow} (hins : input.Inserts env opId createdBy row) (hfresh : row.shift_id ∉ rows.map (·.shift_id)) :
    Kept env (rows ++ [row]) (Function.update asked i (some (⟨.insertShift opId input createdBy, some row⟩ :: h))) := by
  -- What a call was told before is the new row, which has a new id, or was there already.
  have hold : ∀ j h' op inp by' r, Function.update asked i (some (⟨.insertShift opId input createdBy, some row⟩ :: h)) j =
      some h' → ⟨.insertShift op inp by', some r⟩ ∈ h' →
      (j = i ∧ r = row ∧ inp.Inserts env op by' r) ∨
        ∃ h'', asked j = some h'' ∧ ⟨.insertShift op inp by', some r⟩ ∈ h'' ∧ r ∈ rows ∧ inp.Inserts env op by' r := by
    intro j h' op inp by' r hj hm
    rcases update_cases hj with ⟨rfl, rfl⟩ | ⟨-, hj⟩
    · rcases List.mem_cons.1 hm with he | hm
      · cases he
        exact .inl ⟨rfl, rfl, hins⟩
      · exact .inr ⟨h, hi, hm, hk.kept j h op inp by' r hi hm⟩
    · exact .inr ⟨h', hj, hm, hk.kept j h' op inp by' r hj hm⟩
  refine ⟨fun j h' op inp by' r hj hm => ?_, fun j k h' h'' op inp by' r op' inp' by'' r' hne hj hk' hm hm' => ?_⟩
  · rcases hold j h' op inp by' r hj hm with ⟨-, rfl, hr⟩ | ⟨h'', -, -, hr, hr'⟩
    · exact ⟨by simp, hr⟩
    · exact ⟨List.mem_append_left _ hr, hr'⟩
  · rcases hold j h' op inp by' r hj hm with ⟨rfl, rfl, -⟩ | ⟨h₁, hj, hm, hr, -⟩ <;>
      rcases hold k h'' op' inp' by'' r' hk' hm' with ⟨rfl, rfl, -⟩ | ⟨h₂, hk', hm', hr', -⟩
    · exact absurd rfl hne
    · exact fun he => hfresh (he ▸ List.mem_map_of_mem hr')
    · exact fun he => hfresh (he ▸ List.mem_map_of_mem hr)
    · exact hk.distinct j k h₁ h₂ op inp by' r op' inp' by'' r' hne hj hk' hm hm'

end

theorem kept_answer {env : Env} {s : State} {l : Call} {h : Entries} {i : Nat} {q : Query} {a : q.Reply} {d : Db}
    (hk : Kept env s.data.cp_shifts.rows s.asked) (hi : s.asked i = some h) (hl : l.IsCreate) (hq : Issues env l h q)
    (ha : answers env s.data q a d) : Kept env d.cp_shifts.rows (Function.update s.asked i (some (⟨q, a⟩ :: h))) := by
  cases a with
  | none =>
    obtain rfl : d = s.data := ha
    exact hk.reply hi fun _ _ _ _ he => by cases he
  | some rows =>
    cases hq with
    | getShift =>
      obtain ⟨o, j, -, -, rfl, -⟩ := ha
      exact hk.reply hi fun _ _ _ _ he => by cases he
    | rosterExists =>
      obtain ⟨o, -, rfl, -⟩ := ha
      exact hk.reply hi fun _ _ _ _ he => by cases he
    | @notify _ _ e =>
      obtain rfl : d = { s.data with notified := s.data.notified ++ [e] } := ha
      exact hk.reply hi fun _ _ _ _ he => by cases he
    | conflict =>
      obtain ⟨rfl, -⟩ := ha
      exact hk.reply hi fun _ _ _ _ he => by cases he
    | insert =>
      obtain ⟨hins, hfresh, hset⟩ := ha
      rw [hset.1]
      exact hk.insert hi hins hfresh
    | update => exact hl.elim
    | delete => exact hl.elim

theorem kept_step {env : Env} {s s' : State} {a : Act} (hm : s.Meets (raceSpec env) Added)
    (hk : Creates s → Kept env s.data.cp_shifts.rows s.asked) (hc : RaceChange env s a s') (hcr : Creates s') :
    Kept env s'.data.cp_shifts.rows s'.asked := by
  have hcr₀ := creates_of_change hc hcr
  have hk := hk hcr₀
  refine hc.asked_inv (P := fun d asked => Kept env d.cp_shifts.rows asked) hm hk (fun i _ => hk.start) ?_ ?_
  · rintro i t q r d m₀ m₁ rfl hi hq ha
    exact kept_answer hk (by simp [Sys.asked, hi]) (hcr₀ i t hi) hq ha
  · rintro o m d ⟨-, rfl⟩
    exact hk

/-! ### The result -/

/-- Two creations for the same operation, user and role, of intervals that overlap. -/
def Clash (env : Env) : Call → Call → Prop
  | .createShift opId input _, .createShift opId' input' _ =>
    env.uuid opId = env.uuid opId' ∧ input.userUpn = input'.userUpn ∧ input.role = input'.role ∧
      ∃ s e s' e', env.instant input.startsAt = some s ∧ env.instant input.endsAt = some e ∧
        env.instant input'.startsAt = some s' ∧ env.instant input'.endsAt = some e' ∧
        (Set.Ico s e ∩ Set.Ico s' e').Nonempty
  | _, _ => False

def Succeeded (s : State) (i : Nat) (l : Call) : Prop :=
  ∃ h view, s.threads i = some ⟨l, h, .done (.ok view)⟩

/-- In every fair schedule of any calls, no two shifts of a user in a role overlap
at any time; and when all calls are creations, of two that clash at most one succeeds. -/
theorem shifts_apart (env : Env) (now : Int) (d : Db) (hd : Apart d.cp_shifts.rows) {s : State}
    (h : Reachable (Guarded (Fair env) (RaceStep env)) (Sys.init now d) s) :
    Apart s.data.cp_shifts.rows ∧
      (Creates s → ∀ i j l l', i ≠ j → Clash env l l' → ¬ (Succeeded s i l ∧ Succeeded s j l')) := by
  have hinv := run_inv (I := fun s : State => Booked env s.data.cp_shifts.rows s.asked ∧
      (Creates s → Kept env s.data.cp_shifts.rows s.asked)) (run_meets env) (fun _ _ _ _ _ => trivial)
    (fun _ _ _ _ _ _ _ => ⟨trivial, trivial⟩) (Sys.init_meets trivial)
    ⟨⟨hd, by simp [Sys.asked, Sys.init], by simp [Sys.asked, Sys.init]⟩,
      fun _ => ⟨by simp [Sys.asked, Sys.init], by simp [Sys.asked, Sys.init]⟩⟩
    (fun s a s' hm hi hf hc => ⟨booked_step hm hi.1 hf hc, kept_step hm hi.2 hc⟩) h
  obtain ⟨hm, hb, hk⟩ := hinv
  refine ⟨hb.apart, ?_⟩
  rintro hcr i j l l' hne hclash ⟨⟨h₁, v₁, hi⟩, h₂, v₂, hj⟩
  unfold Clash at hclash
  split at hclash
  · rename_i opId input createdBy opId' input' createdBy'
    obtain ⟨_, _, ⟨row, hrow⟩, -⟩ := hm.2 _ _ hi
    obtain ⟨_, _, ⟨row', hrow'⟩, -⟩ := hm.2 _ _ hj
    have hasked : s.asked i = some h₁ := by simp [Sys.asked, hi]
    have hasked' : s.asked j = some h₂ := by simp [Sys.asked, hj]
    obtain ⟨hmem, ho, hu, hr, hs, he, -⟩ := (hk hcr).kept i h₁ _ _ _ _ hasked hrow
    obtain ⟨hmem', ho', hu', hr', hs', he', -⟩ := (hk hcr).kept j h₂ _ _ _ _ hasked' hrow'
    have hid := (hk hcr).distinct i j h₁ h₂ _ _ _ _ _ _ _ _ hne hasked hasked' hrow hrow'
    obtain ⟨hop, huser, hrole, a, b, a', b', ha, hb', ha', hb'', hmeet⟩ := hclash
    rw [ha] at hs
    rw [hb'] at he
    rw [ha'] at hs'
    rw [hb''] at he'
    cases hs
    cases he
    cases hs'
    cases he'
    refine hb.apart row hmem row' hmem' hid ⟨?_, by rw [hu, hu', huser], by rw [hr, hr', hrole]⟩ hmeet
    exact Option.some.inj (by rw [← ho, ← ho', hop])
  · exact hclash

/-! ## Two calls at once -/

/-- The turns of a creation whose dates pass. -/
theorem create_turns {env : Env} (opId createdBy : String) {input : ShiftInput} {m : Int}
    (hdates : checkDates env m (some input.startsAt) (some input.endsAt) = .ok ()) :
    ∃ k₁ k₂ k₃, (Call.run env (.createShift opId input createdBy)).advance m =
        (m, .waiting (.rosterExists opId (some input.userUpn) input.role) k₁) ∧
      (k₁ (some (1 : Nat))).advance m = (m, .waiting
        (.conflict opId (some input.userUpn) input.role none (some input.startsAt) (some input.endsAt)) k₂) ∧
      (k₂ (some none)).advance m = (m, .waiting (.insertShift opId input createdBy) k₃) ∧
      (∀ id : String, (k₂ (some (some id))).advance m = (m, .done (.error (.thrown 409 (.overlap id))))) ∧
      ∀ row : ShiftRow, ∃ k₄, (k₃ (some row)).advance m =
          (m, .waiting (.notify (.SCHEDULE_SHIFT_CREATED opId (camel row).part)) k₄) ∧
        ∀ a, (k₄ a).advance m = (m, .done (.ok (some (camel row)))) := by
  simp only [Call.run, createShift, check, Prog.read, Prog.get_bind, Prog.ret_bind, Prog.advance, hdates,
    Prog.ofExcept, Repo.rosterExists, query]
  exact ⟨_, _, _, rfl, rfl, rfl, fun _ => rfl, fun _ => ⟨_, rfl, fun _ => rfl⟩⟩

/-- A reply that tells of no free slot, to a query that is no update. -/
theorem fair_other {env : Env} {s : State} {i : Nat} {q : Query} {a : q.Reply} (h : ∀ slot, ¬ Clear env slot [⟨q, a⟩])
    (hq : ∀ fields opId shiftId, q ≠ .updateShift fields opId shiftId) : Fair env s (.answer i q a) :=
  ⟨fun slot hc => absurd hc (h slot), fun fields opId shiftId he => absurd he (hq fields opId shiftId)⟩

namespace Sample

/-- The roster before any shift, and after the rows `rowA` and `rowB` before they are announced. -/
def db₀ : Db := Db.start roster

def dbA : Db := { db₀ with cp_shifts := db₁.cp_shifts }

def dbB : Db := { db₁ with cp_shifts := db₂.cp_shifts }

/-- Ana is on the roster. -/
theorem roster_answers {d : Db} (h : d.cp_roster = roster) :
    answers .sample d (.rosterExists op (some "ana") "IMO") (some (1 : Nat)) d :=
  ⟨op, by decide, rfl, by rw [h]; decide⟩

theorem morning_free : answers .sample db₀
    (.conflict op (some "ana") "IMO" none (some morning.startsAt) (some morning.endsAt)) (some none) db₀ :=
  ⟨rfl, by simp [db₀, Db.start]⟩

theorem morning_taken : answers .sample db₁
    (.conflict op (some "ana") "IMO" none (some morning.startsAt) (some morning.endsAt)) (some (some rowA.shift_id)) db₁ :=
  ⟨rfl, rowA, by simp [db₁], rfl, by decide, rfl, rfl, by simp, 1755424800000, 1755432000000, by decide, by decide, by decide⟩

theorem rowA_inserted : answers .sample db₀ (.insertShift op morning "system") (some rowA) dbA :=
  ⟨⟨by decide, rfl, rfl, by decide, by decide, rfl, rfl⟩, by simp [db₀, Db.start], rfl, rfl, rfl⟩

theorem rowA_announced : answers .sample dbA (.notify (created rowA)) (some ()) db₁ := by
  show db₁ = { dbA with notified := dbA.notified ++ [created rowA] }
  rfl

theorem afternoon_answers : answers .sample db₁
    (.conflict op (some "ana") "IMO" none (some afternoon.startsAt) (some afternoon.endsAt)) (some none) db₁ :=
  ⟨rfl, afternoon_free⟩

theorem rowB_inserted : answers .sample db₁ (.insertShift op afternoon "system") (some rowB) dbB :=
  ⟨⟨by decide, rfl, rfl, by decide, by decide, rfl, rfl⟩, by decide, rfl, rfl, rfl⟩

theorem mornings_clash : Clash .sample (.createShift op morning "system") (.createShift op morning "deputy") :=
  ⟨rfl, rfl, rfl, 1755424800000, 1755432000000, 1755424800000, 1755432000000, by decide, by decide, by decide, by decide,
    1755424800000, ⟨by decide, by decide⟩, by decide, by decide⟩

end Sample

/-- Ana is given the morning, a second dispatcher asks for the same morning and is refused, and
then the first asks for her afternoon. -/
theorem shifts_apart_sample : ∃ s : State, s.data.cp_shifts.rows = [Sample.rowA, Sample.rowB] ∧ Apart s.data.cp_shifts.rows ∧
    Clash .sample (.createShift Sample.op Sample.morning "system") (.createShift Sample.op Sample.morning "deputy") ∧
    Succeeded s 0 (.createShift Sample.op Sample.morning "system") ∧
    ¬ (Succeeded s 0 (.createShift Sample.op Sample.morning "system") ∧
      Succeeded s 1 (.createShift Sample.op Sample.morning "deputy")) := by
  obtain ⟨k₁, k₂, k₃, e₁, e₂, e₃, -, ek⟩ := create_turns Sample.op "system" Sample.morning_dates
  obtain ⟨k₄, e₄, e₅⟩ := ek Sample.rowA
  obtain ⟨j₁, j₂, -, f₁, f₂, -, f₃, -⟩ := create_turns Sample.op "deputy" Sample.morning_dates
  obtain ⟨l₁, l₂, l₃, g₁, g₂, g₃, -, gk⟩ := create_turns Sample.op "system" Sample.afternoon_dates
  obtain ⟨l₄, g₄, g₅⟩ := gk Sample.rowB
  have h0 : Reachable (Guarded (Fair .sample) (RaceStep .sample)) (Sys.init 1755424800000 Sample.db₀) _ := .refl
  have h1 := reach_start h0 trivial (i := 0) rfl e₁
  have h2 := reach_resume (reach_answer h1 (fair_other (fun _ hc => by cases hc) (by simp)) (i := 0) rfl
    (Sample.roster_answers rfl)) trivial (i := 0) rfl e₂
  have h3 := reach_answer h2 (by
    exact ⟨fun _ _ j h slot' hj hh => by simp [Sys.asked, Sys.init, hj] at hh, by simp⟩) (i := 0) rfl Sample.morning_free
  have h4 := reach_answer (reach_resume h3 trivial (i := 0) rfl e₃) (fair_other (fun _ hc => by cases hc) (by simp))
    (i := 0) rfl Sample.rowA_inserted
  have h5 := reach_answer (reach_resume h4 trivial (i := 0) rfl e₄) (fair_other (fun _ hc => by cases hc) (by simp))
    (i := 0) rfl Sample.rowA_announced
  have h6 := reach_resume h5 trivial (i := 0) rfl (e₅ _)
  -- The second dispatcher is told of Ana's shift.
  have h7 := reach_start h6 trivial (i := 1) rfl f₁
  have h8 := reach_resume (reach_answer h7 (fair_other (fun _ hc => by cases hc) (by simp)) (i := 1) rfl
    (Sample.roster_answers rfl)) trivial (i := 1) rfl f₂
  have h9 := reach_resume (reach_answer h8 (fair_other not_clear_taken (by simp)) (i := 1) rfl Sample.morning_taken) trivial
    (i := 1) rfl (f₃ _)
  -- The other calls have been told of no free slot since.
  have h10 := reach_start h9 trivial (i := 2) rfl g₁
  have h11 := reach_resume (reach_answer h10 (fair_other (fun _ hc => by cases hc) (by simp)) (i := 2) rfl
    (Sample.roster_answers rfl)) trivial (i := 2) rfl g₂
  have h12 := reach_answer h11 (by
    refine ⟨fun slot _ j h slot' hj hh hc => ?_, by simp⟩
    by_cases hj0 : j = 0
    · subst hj0
      simp [Sys.asked] at hh
      subst hh
      cases hc
    · by_cases hj1 : j = 1
      · subst hj1
        simp [Sys.asked] at hh
        subst hh
        exact absurd hc (not_clear_taken slot')
      · simp [Sys.asked, Sys.init, hj, hj0, hj1] at hh) (i := 2) rfl Sample.afternoon_answers
  have h13 := reach_answer (reach_resume h12 trivial (i := 2) rfl g₃) (fair_other (fun _ hc => by cases hc) (by simp))
    (i := 2) rfl Sample.rowB_inserted
  have hlaw := shifts_apart .sample 1755424800000 Sample.db₀ (by simp [Sample.db₀, Db.start, Apart]) h13
  refine ⟨_, rfl, hlaw.1, Sample.mornings_clash, ⟨_, _, rfl⟩,
    hlaw.2 (fun i t ht => ?_) 0 1 _ _ (by decide) Sample.mornings_clash⟩
  by_cases h2 : i = 2
  · subst h2
    simp at ht
    exact ht ▸ trivial
  · by_cases h1 : i = 1
    · subst h1
      simp at ht
      exact ht ▸ trivial
    · by_cases h0 : i = 0
      · subst h0
        simp at ht
        exact ht ▸ trivial
      · simp [Sys.init, h0, h1, h2] at ht

/-- The other row the table gets for Ana's morning. -/
def Sample.rowA' : ShiftRow :=
  { Sample.rowA with shift_id := "00000000-0000-0000-0000-00000000000b", ordered := Sample.rowA.ordered }

/-- Two dispatchers ask for the same shift. Each conflict query runs before either
insert, and both inserts are made. -/
theorem double_booking :
    ¬ ∀ s, Reachable (RaceStep .sample) (Sys.init 1755424800000 (Db.start Sample.roster)) s →
      Apart s.data.cp_shifts.rows := by
  intro hall
  obtain ⟨k₁, k₂, k₃, e₁, e₂, e₃, -, -⟩ := create_turns Sample.op "system" Sample.morning_dates
  let dB : Db := { Sample.dbA with cp_shifts := ⟨[Sample.rowA, Sample.rowA'], by decide⟩ }
  have hB : answers .sample Sample.dbA (.insertShift Sample.op Sample.morning "system") (some Sample.rowA') dB :=
    ⟨⟨by decide, rfl, rfl, by decide, by decide, rfl, rfl⟩, by decide, rfl, rfl, rfl⟩
  have h0 : Reachable (Guarded (fun _ _ => True) (RaceStep .sample)) (Sys.init 1755424800000 Sample.db₀) _ := .refl
  -- The first call checks,
  have h1 := reach_start h0 trivial (i := 0) rfl e₁
  have h2 := reach_resume (reach_answer h1 trivial (i := 0) rfl (Sample.roster_answers rfl)) trivial (i := 0) rfl e₂
  have h3 := reach_resume (reach_answer h2 trivial (i := 0) rfl Sample.morning_free) trivial (i := 0) rfl e₃
  -- and the second call checks.
  have h4 := reach_start h3 trivial (i := 1) rfl e₁
  have h5 := reach_resume (reach_answer h4 trivial (i := 1) rfl (Sample.roster_answers rfl)) trivial (i := 1) rfl e₂
  have h6 := reach_resume (reach_answer h5 trivial (i := 1) rfl Sample.morning_free) trivial (i := 1) rfl e₃
  have h7 := reach_answer (reach_answer h6 trivial (i := 0) rfl Sample.rowA_inserted) trivial (i := 1) rfl hB
  have hbad := hall _ h7.forget Sample.rowA (by simp [dB]) Sample.rowA' (by simp [dB]) (by decide) ⟨rfl, rfl, rfl⟩
  exact hbad ⟨1755424800000, ⟨by decide, by decide⟩, by decide, by decide⟩

end Tactix.Schedule
