import Tactix.IncidentSvc.Listener
import Tactix.Lib.Like
import Tactix.Lib.Lists
/-!
# Two searches

`GET /incidents` with a database client and without one. The text of `q` becomes a
pattern as it is: `search_agrees_iff` says that the two searches find the same
incidents exactly when no character of it is wild.
-/
open Tactix.Js ServiceLib

namespace Tactix.IncidentSvc.Listener

/-! ## The query -/

inductive Column where
  | title
  | description
  | status

def IncidentRow.column (row : IncidentRow) : Column → Option String
  | .title => some row.title
  | .description => row.description
  | .status => some row.status

/-- `$n` is the `n`-th parameter. -/
inductive Expr where
  | column (c : Column)
  | param (n : Nat)
  | coalesce (e : Expr) (text : String)

inductive Clause where
  | eq (a b : Expr)
  | ilike (a b : Expr)
  | or (a b : Clause)

/-- What follows `WHERE`, joined by `AND`, and the parameters. -/
structure Where where
  clauses : List Clause
  params : List String

/-- The `WHERE` of `GET /incidents`. -/
def listWhere (status q : Option String) : Where :=
  let w : Where := match status with
    | some status => ⟨[.eq (.column .status) (.param 1)], [status]⟩
    | none => ⟨[], []⟩
  match q with
  | some q =>
    let params := w.params ++ ["%" ++ q ++ "%", "%" ++ q ++ "%"]
    let a := params.length - 1
    let b := params.length
    ⟨w.clauses ++ [.or (.ilike (.column .title) (.param a)) (.ilike (.coalesce (.column .description) "") (.param b))], params⟩
  | none => w

/-- `NULL` is `none`. -/
def Expr.eval (params : List String) (row : IncidentRow) : Expr → Option String
  | .column c => row.column c
  | .param n => params[n - 1]?
  | .coalesce e text => some ((e.eval params row).getD text)

/-- `none` is the unknown of SQL. -/
def Clause.eval (env : Env) (params : List String) (row : IncidentRow) : Clause → Option Bool
  | .eq a b => do return (← a.eval params row) = (← b.eval params row)
  | .ilike a b => do
    return like (env.toLowerCase (← b.eval params row)).toList (env.toLowerCase (← a.eval params row)).toList
  | .or a b =>
    match a.eval env params row, b.eval env params row with
    | some true, _ | _, some true => some true
    | some false, some false => some false
    | _, _ => none

/-- The row is selected. -/
def Where.selects (env : Env) (w : Where) (row : IncidentRow) : Bool :=
  w.clauses.all fun c => c.eval env w.params row = some true

/-! ## The two searches -/

/-- The incident the array holds for a row. -/
def IncidentRow.incident (row : IncidentRow) : Incident :=
  ⟨row.id, .str row.title, row.description.elim .null .str, .str row.severity, .str row.status,
    match row.comments with
    | .arr comments => comments
    | _ => []⟩

/-- The table is read only, and a query that succeeds returns the rows it selects in some order. -/
def searches (env : Env) (d : List IncidentRow) (q : Query) (r : q.Reply) (d' : List IncidentRow) : Prop :=
  d' = d ∧ match q, r with
    | .listIncidents status q, some rows => rows.Perm (d.filter ((listWhere status q).selects env))
    | _, _ => True

/-- `GET /incidents` over a table. -/
def DbLists (env : Env) (searchParams : String → Option String) (table rows : List IncidentRow) : Prop :=
  ∃ m m' d', m.dbClient = true ∧
    Prog.Exec (searches env) (fun _ _ => True) (listIncidents env searchParams) m table m' d' (.ok (some ⟨200, .rows rows⟩))

/-- `GET /incidents` over an array. -/
def MemoryLists (env : Env) (searchParams : String → Option String) (incidents list : List Incident) : Prop :=
  ∃ m m' d', m.dbClient = false ∧ m.incidents = incidents ∧
    Prog.Exec (searches env) (fun _ _ => True) (listIncidents env searchParams) m [] m' d' (.ok (some ⟨200, .incidents list⟩))

/-- Over the same incidents the two answer with the same. -/
def Agrees (env : Env) (searchParams : String → Option String) : Prop :=
  ∀ table rows list, DbLists env searchParams table rows →
    MemoryLists env searchParams (table.map (·.incident)) list → list.Perm (rows.map (·.incident))

/-- What `toLowerCase` does to texts, and `lower` in the database. -/
structure Folds (lower : String → String) : Prop where
  /-- Its characters stay as they are. -/
  folded : ∀ s, ∀ c ∈ (lower s).toList, lower (String.ofList [c]) = String.ofList [c]
  fixed : ∀ s : String, (∀ c ∈ s.toList, lower (String.ofList [c]) = String.ofList [c]) → lower s = s
  /-- A percent sign is no letter, and no letter changes beside it. -/
  between : ∀ s, lower ("%" ++ s ++ "%") = "%" ++ lower s ++ "%"
  wild : ∀ s, (∃ c ∈ (lower s).toList, isWild c = true) ↔ ∃ c ∈ s.toList, isWild c = true
  letter : lower "a" = "a"

/-! ## What each of them finds -/

section
variable {env : Env} {searchParams : String → Option String}

/-- The test of the array. -/
def holds (env : Env) (status q : Option String) (row : IncidentRow) : Bool :=
  status.all (row.status = ·) && q.all fun q =>
    includes (env.toLowerCase row.title) (env.toLowerCase q) ||
      includes (env.toLowerCase (row.description.getD "")) (env.toLowerCase q)

theorem dbLists_iff {table rows : List IncidentRow} : DbLists env searchParams table rows ↔
    rows.Perm (table.filter ((listWhere (orString (searchParams "status") none) (orString (searchParams "q") none)).selects env)) := by
  constructor
  · rintro ⟨m, m', d', hdb, h⟩
    change Prog.Exec _ _ (ite _ _ _) _ _ _ _ _ at h
    rw [if_pos hdb] at h
    obtain ⟨reply, _, _, hreply, -, h⟩ := h
    cases reply with
    | none => cases h.2.2
    | some found =>
      cases h.2.2
      exact hreply.2
  · intro h
    obtain ⟨m, hdb⟩ : ∃ m : Memory, m.dbClient = true := ⟨Memory.init true, rfl⟩
    refine ⟨m, m, table, hdb, ?_⟩
    change Prog.Exec _ _ (ite _ _ _) _ _ _ _ _
    rw [if_pos hdb]
    exact ⟨some rows, table, m, ⟨rfl, h⟩, trivial, rfl, rfl, rfl⟩

theorem matchesQ_incident (needle : String) (row : IncidentRow) : matchesQ env needle row.incident =
    .ok (includes (env.toLowerCase row.title) needle || includes (env.toLowerCase (row.description.getD "")) needle) := by
  unfold matchesQ
  cases hin : includes (env.toLowerCase row.title) needle with
  | true => simp [IncidentRow.incident, lower, hin, bind, Except.bind, pure, Except.pure]
  | false => cases hd : row.description <;>
      simp [IncidentRow.incident, lower, hin, hd, bind, Except.bind, pure, Except.pure]

/-- On incidents of rows no test throws. -/
theorem filterM_matchesQ (needle : String) (rows : List IncidentRow) :
    (rows.map (·.incident)).filterM (matchesQ env needle) = .ok ((rows.filter fun row =>
      includes (env.toLowerCase row.title) needle || includes (env.toLowerCase (row.description.getD "")) needle).map
        (·.incident)) := by
  have htest : ∀ i ∈ rows.map (·.incident),
      matchesQ env needle i = .ok ((matchesQ env needle i).toOption.getD false) := by
    intro i hi
    obtain ⟨row, -, rfl⟩ := List.mem_map.1 hi
    rw [matchesQ_incident]
    rfl
  rw [filterM_eq htest, List.filter_map]
  simp only [Function.comp_def, matchesQ_incident, Except.toOption, Option.getD_some]

/-- The array is filtered by the status first, and then by the text. -/
theorem exec_listIncidents {table : List IncidentRow} {m m' : Memory} {d' : List IncidentRow}
    {r : Except Error (Option Response)} (hdb : m.dbClient = false) (hm : m.incidents = table.map (·.incident)) :
    Prog.Exec (searches env) (fun _ _ => True) (listIncidents env searchParams) m [] m' d' r ↔
      m' = m ∧ d' = [] ∧ r = .ok (some ⟨200, .incidents ((table.filter
        (holds env (orString (searchParams "status") none) (orString (searchParams "q") none))).map (·.incident))⟩) := by
  have hstatus : (m.incidents.filter fun i => (orString (searchParams "status") none).all (isText i.status)) =
      (table.filter fun row => (orString (searchParams "status") none).all fun t => decide (row.status = t)).map (·.incident) := by
    rw [hm, List.filter_map]
    rfl
  change Prog.Exec _ _ (ite _ _ _) _ _ _ _ _ ↔ _
  rw [if_neg (by simp [hdb]), hstatus]
  cases orString (searchParams "q") none with
  | none =>
    have hholds : holds env (orString (searchParams "status") none) none =
        fun row => (orString (searchParams "status") none).all fun t => decide (row.status = t) := by
      funext row
      simp [holds]
    rw [hholds]
    exact Iff.rfl
  | some q =>
    dsimp only
    rw [filterM_matchesQ, List.filter_filter]
    have hholds : holds env (orString (searchParams "status") none) (some q) = fun row =>
        (includes (env.toLowerCase row.title) (env.toLowerCase q) ||
          includes (env.toLowerCase (row.description.getD "")) (env.toLowerCase q)) &&
        (orString (searchParams "status") none).all fun t => decide (row.status = t) := by
      funext row
      simp only [holds, Option.all_some, Bool.and_comm]
    rw [hholds]
    exact Iff.rfl

theorem memoryLists_iff {table : List IncidentRow} {list : List Incident} :
    MemoryLists env searchParams (table.map (·.incident)) list ↔
      list = (table.filter (holds env (orString (searchParams "status") none) (orString (searchParams "q") none))).map
        (·.incident) := by
  constructor
  · rintro ⟨m, m', d', hdb, hm, h⟩
    simpa using ((exec_listIncidents hdb hm).1 h).2.2
  · rintro rfl
    let m : Memory := { Memory.init false with incidents := table.map (·.incident) }
    exact ⟨m, m, [], rfl, rfl, (exec_listIncidents (m := m) rfl rfl).2 ⟨rfl, rfl, rfl⟩⟩

/-! ## When they agree -/

theorem or_eval {params : List String} {row : IncidentRow} {a b : Clause} {x y : Bool}
    (ha : a.eval env params row = some x) (hb : b.eval env params row = some y) :
    (Clause.or a b).eval env params row = some (x || y) := by
  rw [Clause.eval, ha, hb]
  cases x <;> cases y <;> rfl

/-- The clause for `q`: its two placeholders stand for the two texts pushed last. -/
theorem text_clause (params : List String) (pattern : String) (row : IncidentRow) :
    (Clause.or (.ilike (.column .title) (.param ((params ++ [pattern, pattern]).length - 1)))
      (.ilike (.coalesce (.column .description) "") (.param (params ++ [pattern, pattern]).length))).eval env
        (params ++ [pattern, pattern]) row =
      some (like (env.toLowerCase pattern).toList (env.toLowerCase row.title).toList ||
        like (env.toLowerCase pattern).toList (env.toLowerCase (row.description.getD "")).toList) := by
  have hlen : (params ++ [pattern, pattern]).length = params.length + 2 := List.length_append
  have ha : (Expr.param (params.length + 1)).eval (params ++ [pattern, pattern]) row = some pattern := by
    simp [Expr.eval]
  have hb : (Expr.param (params.length + 2)).eval (params ++ [pattern, pattern]) row = some pattern := by
    simp [Expr.eval]
  rw [hlen, show params.length + 2 - 1 = params.length + 1 by omega]
  refine or_eval ?_ ?_
  · rw [Clause.eval, ha]
    rfl
  · rw [Clause.eval, hb]
    rfl

/-- What the SQL selects. -/
theorem selects_eq (status q : Option String) (row : IncidentRow) : (listWhere status q).selects env row =
    (status.all (row.status = ·) && q.all fun q =>
      like (env.toLowerCase ("%" ++ q ++ "%")).toList (env.toLowerCase row.title).toList ||
        like (env.toLowerCase ("%" ++ q ++ "%")).toList (env.toLowerCase (row.description.getD "")).toList) := by
  cases q with
  | none => cases status <;> simp [listWhere, Where.selects, Clause.eval, Expr.eval, IncidentRow.column]
  | some q =>
    cases status with
    | none =>
      have htext : (Clause.or (.ilike (.column .title) (.param 1)) (.ilike (.coalesce (.column .description) "") (.param 2))).eval env
          ["%" ++ q ++ "%", "%" ++ q ++ "%"] row = _ := text_clause [] ("%" ++ q ++ "%") row
      simp [listWhere, Where.selects, htext]
    | some status =>
      have htext : (Clause.or (.ilike (.column .title) (.param 2)) (.ilike (.coalesce (.column .description) "") (.param 3))).eval env
          [status, "%" ++ q ++ "%", "%" ++ q ++ "%"] row = _ := text_clause [status] ("%" ++ q ++ "%") row
      have hstatus : (Clause.eq (.column .status) (.param 1)).eval env [status, "%" ++ q ++ "%", "%" ++ q ++ "%"] row =
          some (decide (row.status = status)) := rfl
      simp [listWhere, Where.selects, htext, hstatus]

/-- The pattern of a text that is not wild finds where the text occurs. -/
theorem like_eq_includes (hfold : Folds env.toLowerCase) {q : String} (hq : ∀ c ∈ q.toList, isWild c = false) (s : String) :
    like (env.toLowerCase ("%" ++ q ++ "%")).toList s.toList = includes s (env.toLowerCase q) := by
  have hwild : ∀ c ∈ (env.toLowerCase q).toList, isWild c = false := by
    intro c hc
    by_contra hne
    obtain ⟨d, hd, hdw⟩ := (hfold.wild q).1 ⟨c, hc, by simpa using hne⟩
    rw [hq d hd] at hdw
    cases hdw
  have hpattern : ("%" ++ env.toLowerCase q ++ "%").toList = '%' :: ((env.toLowerCase q).toList ++ ['%']) := by
    simp
  rw [hfold.between, hpattern, Bool.eq_iff_iff, like_around hwild]
  simp [includes]

/-- A row that the pattern of a wild text selects, and the text itself does not. -/
def stray (env : Env) (status : Option String) (q : String) : IncidentRow :=
  ⟨1, String.ofList (filled ((env.toLowerCase q).toList ++ ['%'])), none, "low", status.getD "open", .arr []⟩

theorem toLowerCase_stray (hfold : Folds env.toLowerCase) (status : Option String) (q : String) :
    env.toLowerCase (stray env status q).title = (stray env status q).title := by
  refine hfold.fixed _ fun c hc => ?_
  rw [stray, String.toList_ofList] at hc
  rcases mem_filled hc with hc | rfl
  · have hpattern : (env.toLowerCase ("%" ++ q ++ "%")).toList = '%' :: ((env.toLowerCase q).toList ++ ['%']) := by
      rw [hfold.between]
      simp
    exact hfold.folded ("%" ++ q ++ "%") c (hpattern ▸ List.mem_cons_of_mem _ hc)
  · exact hfold.letter

/-- A wild text finds more in the table. -/
theorem stray_selected (hfold : Folds env.toLowerCase) (status : Option String) {q : String}
    (hq : ∃ c ∈ q.toList, isWild c = true) : (listWhere status (some q)).selects env (stray env status q) = true ∧
      holds env status (some q) (stray env status q) = false := by
  have hpattern : ("%" ++ env.toLowerCase q ++ "%").toList = '%' :: ((env.toLowerCase q).toList ++ ['%']) := by
    simp
  obtain ⟨hlike, hnot⟩ := like_elsewhere ((hfold.wild q).2 hq)
  have htitle : (env.toLowerCase (stray env status q).title).toList = filled ((env.toLowerCase q).toList ++ ['%']) := by
    rw [toLowerCase_stray hfold, stray, String.toList_ofList]
  constructor
  · rw [selects_eq, Option.all_some, hfold.between, hpattern, htitle, hlike]
    cases status <;> simp [stray]
  · have hempty : env.toLowerCase "" = "" := hfold.fixed "" (by simp)
    have hne : env.toLowerCase q ≠ "" := by
      intro he
      obtain ⟨c, hc, -⟩ := (hfold.wild q).2 hq
      simp [he] at hc
    have hdescription : (stray env status q).description.getD "" = "" := rfl
    simp [holds, includes, htitle, hnot, hdescription, hempty, hne]

/-- Where `q` is wild, the table lists a row more than the array. -/
theorem not_agrees (hfold : Folds env.toLowerCase) {q : String} (hq : q ∈ searchParams "q")
    (hwild : ∃ c ∈ q.toList, isWild c = true) : ¬ Agrees env searchParams := by
  intro h
  have hne : q ≠ "" := by
    rintro rfl
    obtain ⟨c, hc, -⟩ := hwild
    simp at hc
  have hparam : orString (searchParams "q") none = some q := by
    rw [Option.mem_def.1 hq, orString_ne hne]
  obtain ⟨hin, hout⟩ := stray_selected hfold (orString (searchParams "status") none) hwild
  have hperm := h [stray env (orString (searchParams "status") none) q] [stray env (orString (searchParams "status") none) q] []
    (dbLists_iff.2 (by simp [hparam, hin])) (memoryLists_iff.2 (by simp [hparam, hout]))
  exact absurd hperm.length_eq (by simp)

/-- The two searches agree exactly when no character of `q` is wild. -/
theorem search_agrees_iff (hfold : Folds env.toLowerCase) :
    Agrees env searchParams ↔ ∀ q ∈ searchParams "q", ∀ c ∈ q.toList, isWild c = false := by
  constructor
  · intro h q hq
    by_contra hwild
    simp only [not_forall, Bool.not_eq_false, exists_prop] at hwild
    exact not_agrees hfold hq hwild h
  · intro h table rows list hdb hmem
    rw [dbLists_iff] at hdb
    rw [memoryLists_iff] at hmem
    subst hmem
    refine List.Perm.map _ (hdb.trans ?_).symm
    refine List.Perm.of_eq (List.filter_congr fun row _ => ?_)
    rw [selects_eq, holds]
    cases hparam : orString (searchParams "q") none with
    | none => rfl
    | some q =>
      have hq : q ∈ searchParams "q" := (orString_eq_some.1 hparam).1
      rw [Option.all_some, Option.all_some, like_eq_includes hfold (h q hq), like_eq_includes hfold (h q hq)]

end

/-! ## ASCII -/

/-- A capital letter becomes a small one, and nothing else changes. -/
theorem toLower_cases (c : Char) : c.toLower = c ∨ 97 ≤ c.toLower.toNat ∧ c.toLower.toNat ≤ 122 := by
  unfold Char.toLower
  split
  · rename_i h
    have h1 : 65 ≤ c.toNat := h.1
    have h2 : c.toNat ≤ 90 := h.2
    have h3 : (c.val + 32).toNat = (c.toNat + 32) % 4294967296 := UInt32.toNat_add c.val 32
    refine .inr ?_
    show 97 ≤ (c.val + 32).toNat ∧ (c.val + 32).toNat ≤ 122
    omega
  · exact .inl rfl

theorem toLower_small {c : Char} (h : 97 ≤ c.toNat) : c.toLower = c := by
  unfold Char.toLower
  rw [dif_neg]
  rintro ⟨-, h2⟩
  have h2 : c.toNat ≤ 90 := h2
  omega

theorem toLower_toLower (c : Char) : c.toLower.toLower = c.toLower := by
  rcases toLower_cases c with h | ⟨h, -⟩
  · rw [h, h]
  · exact toLower_small h

theorem isWild_fixed {c : Char} (h : isWild c = true) : c.toLower = c ∧ c.toNat < 97 := by
  simp only [isWild, Bool.or_eq_true, decide_eq_true_eq] at h
  rcases h with (rfl | rfl) | rfl <;> decide

theorem isWild_toLower (c : Char) : isWild c.toLower = isWild c := by
  rw [Bool.eq_iff_iff]
  constructor
  · intro h
    have hsmall := (isWild_fixed h).2
    rcases toLower_cases c with hc | hc
    · rwa [hc] at h
    · omega
  · intro h
    rwa [(isWild_fixed h).1]

def lowerAscii (s : String) : String := String.ofList (s.toList.map Char.toLower)

theorem folds_lowerAscii : Folds lowerAscii where
  folded s c hc := by
    rw [lowerAscii, String.toList_ofList, List.mem_map] at hc
    obtain ⟨d, -, rfl⟩ := hc
    simp only [lowerAscii, String.toList_ofList, List.map_cons, List.map_nil, toLower_toLower]
  fixed s h := by
    have hchar : ∀ c ∈ s.toList, c.toLower = c := fun c hc => by simpa [lowerAscii] using h c hc
    have hmap : s.toList.map Char.toLower = s.toList := by
      calc s.toList.map Char.toLower = s.toList.map id := List.map_congr_left hchar
        _ = s.toList := List.map_id _
    rw [lowerAscii, hmap, String.ofList_toList]
  between s := by
    apply String.toList_inj.1
    simp only [lowerAscii, String.toList_append, String.toList_ofList, List.map_append]
    rfl
  wild s := by
    simp [lowerAscii, isWild_toLower]
  letter := by decide

/-- A platform for texts in ASCII. -/
def Env.ascii : Env := { Env.sample with toLowerCase := lowerAscii }

/-- A search for `Fire` finds the same in both. -/
theorem search_fire : Agrees Env.ascii (fun name => if name = "q" then some "Fire" else none) :=
  (search_agrees_iff folds_lowerAscii).2 (by simp [isWild])

/-- A search for `100%` finds every title that holds `100` in the table. -/
theorem search_percent : ¬ Agrees Env.ascii (fun name => if name = "q" then some "100%" else none) :=
  not_agrees (q := "100%") folds_lowerAscii rfl ⟨'%', by decide, rfl⟩

end Tactix.IncidentSvc.Listener
