import Mathlib.Data.List.Induction
import Mathlib.Data.List.Perm.Basic
import Tactix.Schedule.Calls
/-!
# Who is on duty

`listActiveAt` groups the shifts of an instant by role in a plain object,
which has some properties already: `active_iff` says that the list is right
unless a role is named like one of them. `listShifts` uses other comparisons
for a span of time and finds the same shifts.
-/
open Tactix.Js ServiceLib

namespace Tactix.Schedule

/-- The shifts of an operation at an instant. -/
def Db.active (d : Db) (o : String) (t : Int) : List ShiftRow :=
  d.cp_shifts.rows.filter fun r => r.operation_id = o ∧ r.starts_at ≤ t ∧ t < r.ends_at

/-- The display name the roster has for a shift. -/
def Db.displayName (d : Db) (s : ShiftRow) : Option String :=
  (d.cp_roster.rows.find? fun r => r.operation_id = s.operation_id ∧ r.user_upn = s.user_upn ∧ r.role = s.role).bind
    (·.display_name)

def Db.entry (d : Db) (s : ShiftRow) : ActiveEntry := ⟨s.user_upn, d.displayName s, s.shift_id, s.ends_at⟩

/-- The answer to a call whose query returned `rows` lists each active shift once
under its role, in the order of the rows, and nothing else; and no user twice
under a role when shifts are apart. -/
def ActiveLaw (d : Db) (o : String) (t : Int) (rows : List ActiveRow) (r : Except Error ActiveAt) : Prop :=
  ∃ res order, r = .ok res ∧ order.map (·.shift_id) = rows.map (·.shift_id) ∧ List.Perm order (d.active o t) ∧
    (res.roles.map (·.1)).Nodup ∧
    (∀ p ∈ res.roles, p.2 = (order.filter (·.role = p.1)).map d.entry ∧ p.2 ≠ []) ∧
    (∀ s ∈ order, s.role ∈ res.roles.map (·.1)) ∧
    (Apart d.cp_shifts.rows → ∀ p ∈ res.roles, (p.2.map (·.userUpn)).Nodup)

/-- The answer has exactly the shifts active at some instant of the span, each once. -/
def SpanLaw (d : Db) (o : String) (f u : Int) (r : Except Error (List ShiftRow)) : Prop :=
  ∃ rows, r = .ok rows ∧ (rows.map (·.shift_id)).Nodup ∧
    ∀ s, s ∈ rows ↔ ∃ t ∈ Set.Ico f u, s ∈ d.active o t

/-! ## Grouping -/

/-- The list a role should have after these rows. -/
def entriesOf (rows : List ActiveRow) (role : String) : List ActiveEntry :=
  (rows.filter (·.role = role)).map fun r => ⟨r.user_upn, r.display_name, r.shift_id, r.ends_at⟩

/-- `roles` after a loop over `rows`. -/
structure Grouped (rows : List ActiveRow) (roles : Roles) : Prop where
  keys : (roles.map (·.1)).Nodup
  lists : ∀ p ∈ roles, p.2 = entriesOf rows p.1 ∧ p.2 ≠ []
  all : ∀ r ∈ rows, r.role ∈ roles.map (·.1)
  own : ∀ k ∈ roles.map (·.1), k ∉ objectPrototype

theorem mem_push_keys {role k : String} {e : ActiveEntry} {roles : Roles} :
    k ∈ (Roles.push role e roles).map (·.1) ↔ k ∈ roles.map (·.1) ∨ k = role := by
  unfold Roles.push
  split
  · rename_i hr
    have hkeys : (roles.map fun p => if p.1 = role then (p.1, p.2 ++ [e]) else p).map (·.1) = roles.map (·.1) := by
      rw [List.map_map]
      refine List.map_congr_left fun p _ => ?_
      simp only [Function.comp_apply]
      split <;> rfl
    rw [hkeys]
    exact ⟨.inl, fun hk => hk.elim id fun hk => hk ▸ hr⟩
  · rw [((List.perm_orderedInsert _ _ _).map _).mem_iff, List.map_cons, List.mem_cons, or_comm]

theorem push_nodup {role : String} {e : ActiveEntry} {roles : Roles} (h : (roles.map (·.1)).Nodup) :
    ((Roles.push role e roles).map (·.1)).Nodup := by
  unfold Roles.push
  split
  · have hkeys : (roles.map fun p => if p.1 = role then (p.1, p.2 ++ [e]) else p).map (·.1) = roles.map (·.1) := by
      rw [List.map_map]
      refine List.map_congr_left fun p _ => ?_
      simp only [Function.comp_apply]
      split <;> rfl
    rw [hkeys]
    exact h
  · rename_i hr
    rw [((List.perm_orderedInsert _ _ _).map _).nodup_iff, List.map_cons, List.nodup_cons]
    exact ⟨hr, h⟩

/-- Only the list of the role changes, by one entry at its end. -/
theorem mem_push {role : String} {e : ActiveEntry} {roles : Roles} {p : String × List ActiveEntry}
    (hp : p ∈ Roles.push role e roles) :
    (p.1 ≠ role ∧ p ∈ roles) ∨
      p.1 = role ∧ ∃ es, p.2 = es ++ [e] ∧ ((role, es) ∈ roles ∨ es = [] ∧ role ∉ roles.map (·.1)) := by
  unfold Roles.push at hp
  split at hp
  · obtain ⟨q, hq, rfl⟩ := List.mem_map.1 hp
    by_cases hr : q.1 = role
    · rw [if_pos hr]
      exact .inr ⟨hr, q.2, rfl, .inl (hr ▸ hq)⟩
    · rw [if_neg hr]
      exact .inl ⟨hr, hq⟩
  · rename_i hnew
    rcases List.mem_cons.1 ((List.perm_orderedInsert _ _ _).mem_iff.1 hp) with rfl | hp
    · exact .inr ⟨rfl, [], rfl, .inr ⟨rfl, hnew⟩⟩
    · exact .inl ⟨fun he => hnew (he ▸ List.mem_map_of_mem hp), hp⟩

theorem lookup_none {roles : Roles} {role : String} : roles.lookup role = none ↔ role ∉ roles.map (·.1) := by
  rw [List.lookup_eq_none_iff, List.mem_map]
  constructor
  · rintro h ⟨p, hp, rfl⟩
    simpa using h p hp
  · intro h p hp
    simpa using fun he : role = p.1 => h ⟨p, hp, he.symm⟩

/-- A turn of the loop adds a row, unless its role is an inherited name. -/
theorem addActive_grouped {rows : List ActiveRow} {roles : Roles} (h : Grouped rows roles) (r : ActiveRow) :
    (r.role ∉ objectPrototype ∧ ∃ roles', addActive roles r = .ok roles' ∧ Grouped (rows ++ [r]) roles') ∨
      (r.role ∈ objectPrototype ∧ addActive roles r = .error .typeError) := by
  by_cases hr : r.role ∈ objectPrototype
  · have hnone : roles.lookup r.role = none := lookup_none.2 fun hk => h.own _ hk hr
    exact .inr ⟨hr, by simp [addActive, hr, hnone]⟩
  · refine .inl ⟨hr, _, if_neg fun hc => hr hc.2, ?_⟩
    refine ⟨push_nodup h.keys, fun p hp => ?_, fun x hx => ?_, fun k hk => ?_⟩
    · rcases mem_push hp with ⟨hne, hp⟩ | ⟨he, es, hes, hold⟩
      · obtain ⟨hl, hnil⟩ := h.lists p hp
        exact ⟨by simp [hl, entriesOf, List.filter_append, Ne.symm hne], hnil⟩
      · refine ⟨?_, by simp [hes]⟩
        -- What was under the role before, or nothing.
        have hbefore : es = entriesOf rows r.role := by
          rcases hold with hold | ⟨rfl, hnew⟩
          · exact (h.lists _ hold).1
          · rw [entriesOf, List.filter_eq_nil_iff.2, List.map_nil]
            intro x hx hxr
            exact hnew (of_decide_eq_true hxr ▸ h.all x hx)
        rw [hes, hbefore, he]
        simp [entriesOf, List.filter_append]
    · rw [mem_push_keys]
      rcases List.mem_append.1 hx with hx | hx
      · exact .inl (h.all x hx)
      · exact .inr (by rw [List.mem_singleton.1 hx])
    · rcases mem_push_keys.1 hk with hk | rfl
      · exact h.own k hk
      · exact hr

/-- The whole loop. -/
theorem group_rows (rows : List ActiveRow) :
    ((∀ r ∈ rows, r.role ∉ objectPrototype) ∧ ∃ roles, rows.foldlM addActive [] = .ok roles ∧ Grouped rows roles) ∨
      ((∃ r ∈ rows, r.role ∈ objectPrototype) ∧ rows.foldlM addActive [] = .error .typeError) := by
  induction rows using List.reverseRecOn with
  | nil => exact .inl ⟨by simp, [], rfl, ⟨List.nodup_nil, by simp, by simp, by simp⟩⟩
  | append_singleton rows r ih =>
    rw [List.foldlM_append]
    rcases ih with ⟨hown, roles, hroles, hg⟩ | ⟨⟨x, hx, hp⟩, he⟩
    · rw [hroles]
      rcases addActive_grouped hg r with ⟨hr, roles', hadd, hg'⟩ | ⟨hr, hadd⟩
      · refine .inl ⟨fun x hx => ?_, roles', by simp [hadd, bind, Except.bind, pure, Except.pure], hg'⟩
        rcases List.mem_append.1 hx with hx | hx
        · exact hown x hx
        · rw [List.mem_singleton.1 hx]; exact hr
      · exact .inr ⟨⟨r, by simp, hr⟩, by simp [hadd, bind, Except.bind]⟩
    · exact .inr ⟨⟨x, List.mem_append_left _ hx, hp⟩, by rw [he]; rfl⟩

/-! ## The query -/

/-- The row of a shift: the roster has at most one entry to join it with. -/
def Db.row (d : Db) (s : ShiftRow) : ActiveRow := ⟨s.shift_id, s.user_upn, s.role, s.ends_at, d.displayName s⟩

theorem withRoster_eq (d : Db) (s : ShiftRow) : d.withRoster s = [d.row s] := by
  have hhead := List.head?_filter (p := fun r : RosterRow =>
    r.operation_id = s.operation_id ∧ r.user_upn = s.user_upn ∧ r.role = s.role) (l := d.cp_roster.rows)
  unfold Db.withRoster Db.row Db.displayName
  rw [← hhead]
  cases hf : d.cp_roster.rows.filter fun r =>
    r.operation_id = s.operation_id ∧ r.user_upn = s.user_upn ∧ r.role = s.role with
  | nil => rfl
  | cons x rest =>
    have hkey : ∀ y ∈ x :: rest, (y.operation_id, y.user_upn, y.role) = (s.operation_id, s.user_upn, s.role) := by
      intro y hy
      rw [← hf, List.mem_filter, decide_eq_true_eq] at hy
      rw [hy.2.1, hy.2.2.1, hy.2.2.2]
    have hn : ((x :: rest).map fun r => (r.operation_id, r.user_upn, r.role)).Nodup :=
      hf ▸ d.cp_roster.unique.sublist (List.filter_sublist.map _)
    cases rest with
    | nil => rfl
    | cons y rest =>
      rw [List.map_cons, List.nodup_cons, hkey x (by simp), ← hkey y (by simp)] at hn
      exact absurd (by simp) hn.1

/-- In whatever order the rows come, they are those of the active shifts in some order. -/
theorem active_rows {d : Db} {shifts : List ShiftRow} {rows : List ActiveRow}
    (h : rows.Perm (shifts.flatMap d.withRoster)) :
    ∃ order, List.Perm order shifts ∧ rows = order.map d.row := by
  have hmap : shifts.flatMap d.withRoster = shifts.map d.row := by
    rw [List.map_eq_flatMap]
    exact congrArg (List.flatMap · shifts) (funext fun s => withRoster_eq d s)
  rw [hmap] at h
  obtain ⟨order, he, hp⟩ := (congrFun (congrFun (List.eq_map_comp_perm d.row) rows) shifts).mpr h
  exact ⟨order, hp, he⟩

theorem entriesOf_map (d : Db) (order : List ShiftRow) (role : String) :
    entriesOf (order.map d.row) role = (order.filter (·.role = role)).map d.entry := by
  rw [entriesOf, List.filter_map, List.map_map]
  rfl

/-! ## The answers -/

/-- The answers of a database on which the queries succeed. -/
def served (env : Env) (d : Db) (q : Query) (a : q.Reply) (d' : Db) : Prop := answers env d q a d' ∧ a ≠ none

/-- The answers of a database that returns these rows for one query. -/
def returning (env : Env) (q₀ : Query) (rows : q₀.Rows) (d : Db) (q : Query) (a : q.Reply) (d' : Db) : Prop :=
  answers env d q a d' ∧ (⟨q, a⟩ : (q : Query) × q.Reply) = ⟨q₀, some rows⟩

theorem returning_bind {env : Env} {passes : Int → Int → Prop} {β : Type} {now now' : Int} {d d' : Db} {q : Query}
    {rows : q.Rows} {f : q.Rows → Svc β} {r : Except Error β}
    (h : (query q >>= f).Exec (returning env q rows) passes now d now' d' r) :
    ∃ (now₁ : Int) (d₁ : Db), d.Returns env d₁ q rows ∧ passes now now₁ ∧
      (f rows).Exec (returning env q rows) passes now₁ d₁ now' d' r := by
  obtain ⟨a, d₁, m₁, ⟨ha, he⟩, hp, h⟩ := h
  cases he
  exact ⟨m₁, d₁, ha, hp, h⟩

theorem served_bind {env : Env} {passes : Int → Int → Prop} {β : Type} {now now' : Int} {d d' : Db} {q : Query}
    {f : q.Rows → Svc β} {r : Except Error β} (h : (query q >>= f).Exec (served env) passes now d now' d' r) :
    ∃ (rows : q.Rows) (now₁ : Int) (d₁ : Db), d.Returns env d₁ q rows ∧ passes now now₁ ∧
      (f rows).Exec (served env) passes now₁ d₁ now' d' r := by
  obtain ⟨a, d₁, m₁, ha, hp, h⟩ := h
  cases a with
  | none => exact absurd rfl ha.2
  | some rows => exact ⟨rows, m₁, d₁, ha.1, hp, h⟩

theorem mem_active {d : Db} {o : String} {t : Int} {s : ShiftRow} :
    s ∈ d.active o t ↔ s ∈ d.cp_shifts.rows ∧ s.operation_id = o ∧ s.starts_at ≤ t ∧ t < s.ends_at := by
  simp [Db.active, List.mem_filter]

theorem active_nodup (d : Db) (o : String) (t : Int) : (d.active o t).Nodup :=
  (d.cp_shifts.primary.of_map _).filter _

/-- With shifts apart, nobody is active twice in a role. -/
theorem users_nodup {d : Db} {o : String} {t : Int} {order : List ShiftRow} (hp : order.Perm (d.active o t))
    (hapart : Apart d.cp_shifts.rows) (role : String) :
    (((order.filter (·.role = role)).map d.entry).map (·.userUpn)).Nodup := by
  rw [List.map_map]
  refine List.Nodup.map_on (fun a ha b hb hab => ?_) (((hp.nodup_iff).2 (active_nodup d o t)).filter _)
  simp only [List.mem_filter, decide_eq_true_eq, hp.mem_iff, mem_active] at ha hb
  obtain ⟨⟨ha, hoa, hsa, hea⟩, hra⟩ := ha
  obtain ⟨⟨hb, hob, hsb, heb⟩, hrb⟩ := hb
  by_contra hne
  have hid : a.shift_id ≠ b.shift_id := fun h => hne (Shifts.eq_of_id ha hb h)
  exact hapart a ha b hb hid ⟨hoa.trans hob.symm, hab, hra.trans hrb.symm⟩ ⟨t, ⟨hsa, hea⟩, hsb, heb⟩

theorem listActiveAt_law {env : Env} {d d' : Db} {opId atIso o : String} {t now now' : Int} {rows : List ActiveRow}
    {r : Except Error ActiveAt} (ho : env.uuid opId = some o) (ht : env.instant atIso = some t)
    (h : Alone (returning env (.listActiveAt opId atIso) rows) (listActiveAt opId atIso) now d now' d' r) :
    ActiveLaw d o t rows r ↔ ∀ s ∈ d.active o t, s.role ∉ objectPrototype := by
  obtain ⟨now₁, d₁, ⟨o', t', ho', ht', rfl, hrows⟩, -, h⟩ := returning_bind h
  obtain rfl := Option.some.inj (ho.symm.trans ho')
  obtain rfl := Option.some.inj (ht.symm.trans ht')
  obtain ⟨order, hp, rfl⟩ := active_rows hrows
  have hroles : (∀ x ∈ order.map d₁.row, x.role ∉ objectPrototype) ↔ ∀ s ∈ d₁.active o t, s.role ∉ objectPrototype := by
    simp only [List.mem_map, forall_exists_index, and_imp, forall_apply_eq_imp_iff₂]
    exact forall_congr' fun s => by rw [hp.mem_iff]; rfl
  rcases group_rows (order.map d₁.row) with ⟨hown, roles, hfold, hg⟩ | ⟨⟨x, hx, hproto⟩, hfold⟩
  · rw [hfold] at h
    obtain ⟨-, -, rfl⟩ := h
    have hids : order.map (·.shift_id) = (order.map d₁.row).map (·.shift_id) := by
      rw [List.map_map]
      rfl
    refine ⟨fun _ => hroles.1 hown, fun _ => ⟨_, order, rfl, hids, hp, hg.keys, fun p hp' => ?_, fun s hs => ?_, ?_⟩⟩
    · rw [← entriesOf_map]
      exact hg.lists p hp'
    · exact hg.all _ (List.mem_map_of_mem hs)
    · intro hapart p hp'
      rw [(hg.lists p hp').1, entriesOf_map]
      exact users_nodup hp hapart p.1
  · rw [hfold] at h
    obtain ⟨-, -, rfl⟩ := h
    constructor
    · rintro ⟨res, -, hres, -⟩
      cases hres
    · exact fun hall => absurd hproto (hroles.2 hall x hx)

theorem listShifts_law {env : Env} {d d' : Db} {opId from' to' o : String} {f u now now' : Int}
    {r : Except Error (List ShiftRow)} (ho : env.uuid opId = some o) (hf : env.instant from' = some f)
    (hu : env.instant to' = some u) (hfu : f < u)
    (h : Alone (served env) (listShifts opId (some from') (some to') none none) now d now' d' r) :
    SpanLaw d o f u r := by
  have h1 : orString (some from') none = some from' := orString_instant hf
  have h2 : orString (some to') none = some to' := orString_instant hu
  rw [listShifts, Repo.listShifts, h1, h2] at h
  obtain ⟨a, d₁, m₁, ⟨ha, hne⟩, -, h⟩ := h
  cases a with
  | none => exact absurd rfl hne
  | some rows =>
    obtain ⟨-, -, rfl⟩ := h
    obtain ⟨o', ho', -, span, hspan, hp⟩ := ha
    obtain rfl := Option.some.inj (ho.symm.trans ho')
    cases span with
    | none => cases hspan
    | some span =>
      have hspan : (env.instant from', env.instant to') = (some span.1, some span.2) := Option.some.inj hspan
      rw [hf, hu, Prod.mk.injEq, Option.some.injEq, Option.some.injEq] at hspan
      obtain ⟨rfl, rfl⟩ := hspan
      refine ⟨rows, rfl, ?_, fun s => ?_⟩
      · exact ((hp.map _).nodup_iff).2 (d.cp_shifts.primary.sublist (List.filter_sublist.map _))
      · rw [hp.mem_iff, List.mem_filter, decide_eq_true_eq]
        simp only [mem_active]
        constructor
        · rintro ⟨hs, hop, hcross, -⟩
          -- A shift that crosses the span has an instant in it, and is active then.
          obtain ⟨t, ht, htu⟩ := (crosses_iff s.ordered hfu).1 (hcross _ rfl)
          exact ⟨t, htu, hs, hop, ht.1, ht.2⟩
        · rintro ⟨t, htu, hs, hop, hst, hte⟩
          refine ⟨hs, hop, fun p hp => ?_, by simp [orString], by simp [orString]⟩
          cases hp
          exact (crosses_iff s.ordered hfu).2 ⟨t, ⟨hst, hte⟩, htu⟩

/-- `listActiveAt` is right at an instant exactly when no active shift's role is a
name of `Object.prototype`; `listShifts` is right for every span. -/
theorem active_iff (env : Env) (d : Db) {opId o : String} (ho : env.uuid opId = some o) :
    (∀ atIso t rows now now' d' r, env.instant atIso = some t →
      Alone (returning env (.listActiveAt opId atIso) rows) (listActiveAt opId atIso) now d now' d' r →
      (ActiveLaw d o t rows r ↔ ∀ s ∈ d.active o t, s.role ∉ objectPrototype)) ∧
    (∀ from' to' f u now now' d' r, env.instant from' = some f → env.instant to' = some u → f < u →
      Alone (served env) (listShifts opId (some from') (some to') none none) now d now' d' r → SpanLaw d o f u r) :=
  ⟨fun _ _ _ _ _ _ _ ht h => listActiveAt_law ho ht h, fun _ _ _ _ _ _ _ _ hf hu hfu h => listShifts_law ho hf hu hfu h⟩

/-- At ten Ana is on duty. -/
theorem active_iff_sample : ActiveLaw Sample.db₁ Sample.op 1755424800000 [Sample.db₁.row Sample.rowA]
    (.ok ⟨"2025-08-17T10:00:00Z", [("IMO", [⟨"ana", none, Sample.rowA.shift_id, 1755432000000⟩])]⟩) := by
  have hrun : Alone (returning .sample (.listActiveAt Sample.op "2025-08-17T10:00:00Z") [Sample.db₁.row Sample.rowA])
      (listActiveAt Sample.op "2025-08-17T10:00:00Z") 0 Sample.db₁ 0 Sample.db₁
      (.ok ⟨"2025-08-17T10:00:00Z", [("IMO", [⟨"ana", none, Sample.rowA.shift_id, 1755432000000⟩])]⟩) :=
    ⟨some [Sample.db₁.row Sample.rowA], Sample.db₁, 0, ⟨⟨Sample.op, 1755424800000, by decide, by decide, rfl, .refl _⟩, rfl⟩,
      trivial, rfl, rfl, rfl⟩
  refine ((active_iff .sample Sample.db₁ (o := Sample.op) (by decide)).1 _ 1755424800000 _ _ _ _ _ (by decide) hrun).2 ?_
  intro s hs
  obtain rfl := List.mem_singleton.1 (mem_active.1 hs).1
  decide

/-- A role named `constructor` is a property of every object, and the loop throws. -/
theorem constructor_role_throws :
    ¬ ∀ d rows now now' d' r,
      Alone (returning .sample (.listActiveAt Sample.op "2025-08-17T10:00:00Z") rows)
        (listActiveAt Sample.op "2025-08-17T10:00:00Z") now d now' d' r →
      ActiveLaw d Sample.op 1755424800000 rows r := by
  intro hall
  let row : ShiftRow := { Sample.rowA with role := "constructor", ordered := Sample.rowA.ordered }
  let d : Db := ⟨⟨[row], by simp⟩, Sample.roster, []⟩
  have hrun : Alone (returning .sample (.listActiveAt Sample.op "2025-08-17T10:00:00Z") [d.row row])
      (listActiveAt Sample.op "2025-08-17T10:00:00Z") 0 d 0 d (.error .typeError) :=
    ⟨some [d.row row], d, 0, ⟨⟨Sample.op, 1755424800000, by decide, by decide, rfl, .refl _⟩, rfl⟩, trivial, rfl, rfl, rfl⟩
  obtain ⟨res, -, hres, -⟩ := hall d _ 0 0 d _ hrun
  cases hres

end Tactix.Schedule
