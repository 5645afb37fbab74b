import Mathlib.Data.List.Nodup
import Tactix.Lib.Lists
/-!
# Data definition

The tables, indexes and functions of a database, and the statements that define them. A text of
several statements takes effect as a whole or not at all. A text leaves alone what it does not
name: `execAll_absent`, `execAll_table` and `execAll_source` are the frame rules.
-/

namespace ServiceLib.Ddl

inductive ColumnType where
  | bigint
  | integer
  | boolean
  | text
  | textArray
  | uuid
  | jsonb
  | bytea
  | timestamptz
  deriving DecidableEq

structure Column where
  name : String
  type : ColumnType
  deriving DecidableEq

/-- `unique` is for primary keys too. -/
inductive Constraint where
  | unique (name : String) (columns : List String)
  | check (name : String) (columns : List String)
  | foreign (name : String) (columns : List String) (target : String) (targetColumns : List String)
  deriving DecidableEq

def Constraint.name : Constraint → String
  | .unique name _ => name
  | .check name _ => name
  | .foreign name .. => name

def Constraint.columns : Constraint → List String
  | .unique _ columns => columns
  | .check _ columns => columns
  | .foreign _ columns .. => columns

/-- The table a foreign key is to. -/
def Constraint.target? : Constraint → Option String
  | .foreign _ _ target _ => some target
  | _ => none

structure Trigger where
  name : String
  function : String
  deriving DecidableEq

structure Table where
  columns : List Column
  constraints : List Constraint
  triggers : List Trigger
  deriving DecidableEq

/-- The sequences of a table and the indexes behind its keys get names that are free, and have no part in what follows. -/
inductive Relation where
  | table (t : Table)
  | index (table : String) (columns : List String)
  deriving DecidableEq

def Relation.map (f : Table → Table) : Relation → Relation
  | .table t => .table (f t)
  | .index indexed columns => .index indexed columns

structure Schema where
  relations : List (String × Relation)
  functions : List String
  distinct : (relations.map (·.1)).Nodup

def Schema.empty : Schema := ⟨[], [], List.nodup_nil⟩

section
variable (db : Schema)

def Schema.find? (name : String) : Option Relation := (db.relations.find? (·.1 = name)).map (·.2)

def Schema.table? (name : String) : Option Table :=
  match db.find? name with
  | some (.table t) => some t
  | _ => none

end

/-! ## What a constraint needs -/

/-- Integers of two sizes can be compared. -/
def comparable (a b : ColumnType) : Bool := a = b || (a ∈ [.bigint, .integer] && b ∈ [.bigint, .integer])

def Table.type? (t : Table) (name : String) : Option ColumnType := (t.columns.find? (·.name = name)).map (·.type)

def Table.has (t : Table) (name : String) : Bool := t.columns.any (·.name = name)

/-- The columns of a foreign key and those it is to. -/
def Table.matches (t : Table) (columns : List String) (u : Table) (targetColumns : List String) : Bool :=
  columns.length = targetColumns.length && (columns.zip targetColumns).all fun (c, d) =>
    match t.type? c, u.type? d with
    | some a, some b => comparable a b
    | _, _ => false

/-- The columns are a key. -/
def Table.keyed (t : Table) (columns : List String) : Bool :=
  t.constraints.any fun
    | .unique _ key => key.isPerm columns
    | _ => false

def Schema.admits (db : Schema) (t : Table) : Constraint → Bool
  | .foreign _ columns target targetColumns =>
    match db.table? target with
    | some u => t.matches columns u targetColumns && u.keyed targetColumns
    | none => false
  | c => c.columns.all t.has

/-! ## Changes -/

def Schema.add (db : Schema) (name : String) (r : Relation) (h : name ∉ db.relations.map (·.1)) : Schema where
  relations := db.relations ++ [(name, r)]
  functions := db.functions
  distinct := nodup_map_snoc db.distinct h

def Schema.keep (db : Schema) (p : String × Relation → Bool) : Schema where
  relations := db.relations.filter p
  functions := db.functions
  distinct := (List.filter_sublist.map _).nodup db.distinct

/-- Each table is changed, and stays under its name. -/
def Schema.alter (db : Schema) (f : String → Table → Table) : Schema where
  relations := db.relations.map fun e => (e.1, e.2.map (f e.1))
  functions := db.functions
  distinct := by
    rw [List.map_map]
    exact db.distinct

/-- The table alone is changed. -/
def Schema.alterTable (db : Schema) (name : String) (f : Table → Table) : Schema :=
  db.alter fun n t => if n = name then f t else t

/-- The relation, and the indexes on it. -/
def Schema.remove (db : Schema) (name : String) : Schema :=
  db.keep fun
    | (n, .index table _) => n ≠ name && table ≠ name
    | (n, .table _) => n ≠ name

/-- Another table has a foreign key to this one. -/
def Schema.referenced (db : Schema) (name : String) : Bool :=
  db.relations.any fun
    | (n, .table t) => n ≠ name && t.constraints.any (·.target? = some name)
    | _ => false

/-- The foreign keys to the table go. -/
def Schema.unlink (db : Schema) (name : String) : Schema :=
  db.alter fun _ t => { t with constraints := t.constraints.filter (·.target? ≠ some name) }

/-! ## Statements -/

/-- The statements in the forms that are used: each `DROP` and `ALTER` has `IF EXISTS`, and functions are `OR REPLACE`. -/
inductive Stmt where
  | createTable (name : String) (ifNotExists : Bool) (t : Table)
  | dropTable (name : String) (cascade : Bool)
  | createIndex (name : String) (ifNotExists : Bool) (table : String) (columns : List String)
  /-- An index without a name gets one that begins like this. -/
  | createUnnamedIndex (base table : String) (columns : List String)
  | dropIndex (name : String)
  | addColumn (table : String) (column : Column)
  | dropColumn (table column : String)
  | addConstraint (table : String) (c : Constraint)
  | dropConstraint (table name : String)
  | createFunction (name : String)
  | dropFunction (name : String)
  | createTrigger (trigger : Trigger) (table : String)
  | dropTrigger (name table : String)
  | select
  deriving DecidableEq

/-- The first name that is free of `base`, `base1`, `base2` and so on. -/
def freeName (base : String) (names : List String) : Option String :=
  ((List.range (names.length + 1)).map fun i => if i = 0 then base else base ++ toString i).find? (· ∉ names)

/-- Other tables have a foreign key to these columns of the table. -/
def Schema.needs (db : Schema) (table : String) (p : List String → Bool) : Bool :=
  db.relations.any fun
    | (n, .table t) => n ≠ table && t.constraints.any fun
        | .foreign _ _ target targetColumns => target = table && p targetColumns
        | _ => false
    | _ => false

/-- The database after a statement, which fails with `none`. What fails because of the rows is left out. -/
def exec (db : Schema) : Stmt → Option Schema
  | .createTable name ifNotExists t =>
    if h : name ∈ db.relations.map (·.1) then if ifNotExists then some db else none
    else
      let made := db.add name (.table t) h
      if t.constraints.all (made.admits t) then some made else none
  | .dropTable name cascade =>
    match db.find? name with
    | none => some db
    | some (.index ..) => none
    | some (.table _) =>
      if cascade then some ((db.remove name).unlink name)
      else if db.referenced name then none else some (db.remove name)
  | .createIndex name ifNotExists table columns =>
    match db.table? table with
    | none => none
    | some t =>
      if columns.all t.has then
        if h : name ∈ db.relations.map (·.1) then if ifNotExists then some db else none
        else some (db.add name (.index table columns) h)
      else none
  | .createUnnamedIndex base table columns =>
    match db.table? table with
    | none => none
    | some t =>
      if columns.all t.has then
        match freeName base (db.relations.map (·.1)) with
        | none => none
        | some name => if h : name ∈ db.relations.map (·.1) then none else some (db.add name (.index table columns) h)
      else none
  | .dropIndex name =>
    match db.find? name with
    | none => some db
    | some (.index ..) => some (db.keep (·.1 ≠ name))
    | some (.table _) => none
  | .addColumn table column =>
    match db.find? table with
    | none => some db
    | some (.index ..) => none
    | some (.table t) => some (if t.has column.name then db else db.alterTable table fun t => { t with columns := t.columns ++ [column] })
  | .dropColumn table column =>
    match db.find? table with
    | none => some db
    | some (.index ..) => none
    | some (.table t) =>
      if t.has column then
        if db.needs table (column ∈ ·) then none
        else some ((db.alterTable table fun t => { t with
            columns := t.columns.filter (·.name ≠ column)
            constraints := t.constraints.filter (column ∉ ·.columns) }).keep fun
          | (_, .index indexed columns) => indexed ≠ table || column ∉ columns
          | _ => true)
      else some db
  | .addConstraint table c =>
    match db.find? table with
    | none => some db
    | some (.index ..) => none
    | some (.table t) =>
      if t.constraints.any (·.name = c.name) then none
      else if db.admits t c then some (db.alterTable table fun t => { t with constraints := t.constraints ++ [c] }) else none
  | .dropConstraint table name =>
    match db.find? table with
    | none => some db
    | some (.index ..) => none
    | some (.table t) =>
      if t.constraints.any fun
          | .unique n key => n = name && db.needs table (key.isPerm ·)
          | _ => false
      then none
      else some (db.alterTable table fun t => { t with constraints := t.constraints.filter (·.name ≠ name) })
  | .createFunction name => some { db with functions := if name ∈ db.functions then db.functions else db.functions ++ [name] }
  | .dropFunction name =>
    if db.relations.any fun
        | (_, .table t) => t.triggers.any (·.function = name)
        | _ => false
    then none
    else some { db with functions := db.functions.filter (· ≠ name) }
  | .createTrigger trigger table =>
    match db.table? table with
    | none => none
    | some t =>
      if trigger.function ∈ db.functions && !t.triggers.any (·.name = trigger.name) then
        some (db.alterTable table fun t => { t with triggers := t.triggers ++ [trigger] })
      else none
  | .dropTrigger name table =>
    some (db.alterTable table fun t => { t with triggers := t.triggers.filter (·.name ≠ name) })
  | .select => some db

/-- The statements of one text. -/
def execAll (db : Schema) : List Stmt → Option Schema
  | [] => some db
  | s :: rest => (exec db s).bind (execAll · rest)

/-! ## What a statement names -/

/-- The statement may make a relation of this name. -/
def Stmt.makes : Stmt → String → Bool
  | .createTable name .., n => n = name
  | .createIndex name .., n => n = name
  | .createUnnamedIndex base .., n => base.toList.isPrefixOf n.toList
  | _, _ => false

/-- The statement may drop or change the relation. -/
def Stmt.touches : Stmt → String → Bool
  | .dropTable name _, n => n = name
  | .dropIndex name, n => n = name
  | .addColumn table _, n => n = table
  | .dropColumn table _, n => n = table
  | .addConstraint table _, n => n = table
  | .dropConstraint table _, n => n = table
  | .createTrigger _ table, n => n = table
  | .dropTrigger _ table, n => n = table
  | _, _ => false

/-- The statement may drop foreign keys to the table. -/
def Stmt.unlinks : Stmt → String → Bool
  | .dropTable name cascade, n => cascade && n = name
  | _, _ => false

/-- The statement may add or drop a column. -/
def Stmt.recolumns : Stmt → String → Bool
  | .addColumn table _, n => n = table
  | .dropColumn table _, n => n = table
  | _, _ => false

structure Footprint where
  makes : String → Bool
  touches : String → Bool
  unlinks : String → Bool
  recolumns : String → Bool

def footprint (stmts : List Stmt) : Footprint where
  makes n := stmts.any (·.makes n)
  touches n := stmts.any (·.touches n)
  unlinks n := stmts.any (·.unlinks n)
  recolumns n := stmts.any (·.recolumns n)

/-! ## What is kept -/

/-- A table has its columns still, and its constraints, only that foreign keys to the tables of `unlinked` may be gone. -/
structure Table.Kept (unlinked : String → Bool) (t t' : Table) : Prop where
  columns : t'.columns = t.columns
  constraints : ∀ c ∈ t.constraints, (∀ target ∈ c.target?, unlinked target = false) → c ∈ t'.constraints

/-- What is not made stays away, what is not touched stays, and a table has the columns it had. -/
structure Frame (fp : Footprint) (db db' : Schema) : Prop where
  absent : ∀ n, fp.makes n = false → db.find? n = none → db'.find? n = none
  table : ∀ n t, fp.touches n = false → db.table? n = some t → ∃ t', db'.table? n = some t' ∧ t.Kept fp.unlinks t'
  source : ∀ n t', fp.makes n = false → fp.recolumns n = false → db'.table? n = some t' →
    ∃ t, db.table? n = some t ∧ t'.columns = t.columns

section
variable {db db' db'' : Schema} {fp fp' : Footprint} {unlinked : String → Bool} {n name : String}

theorem find?_eq_some {r : Relation} : db.find? n = some r ↔ (n, r) ∈ db.relations := by
  unfold Schema.find?
  rw [Option.map_eq_some_iff]
  constructor
  · rintro ⟨e, he, rfl⟩
    have hname := List.find?_some he
    rw [decide_eq_true_eq] at hname
    subst hname
    exact List.mem_of_find?_eq_some he
  · intro hmem
    cases hfind : db.relations.find? (·.1 = n) with
    | none => exact absurd (List.find?_eq_none.1 hfind _ hmem) (by simp)
    | some e =>
      have hname := List.find?_some hfind
      rw [decide_eq_true_eq] at hname
      refine ⟨e, rfl, ?_⟩
      rw [List.inj_on_of_nodup_map db.distinct (List.mem_of_find?_eq_some hfind) hmem hname]

theorem find?_eq_none : db.find? n = none ↔ n ∉ db.relations.map (·.1) := by
  unfold Schema.find?
  rw [Option.map_eq_none_iff, List.find?_eq_none]
  constructor
  · intro h hm
    obtain ⟨e, he, rfl⟩ := List.mem_map.1 hm
    simpa using h e he
  · intro h e he hname
    rw [decide_eq_true_eq] at hname
    exact h (hname ▸ List.mem_map_of_mem he)

theorem table?_iff_find? {t : Table} : db.table? n = some t ↔ db.find? n = some (.table t) := by
  unfold Schema.table?
  constructor
  · intro h
    split at h
    · rename_i t' hfind
      cases h
      exact hfind
    · cases h
  · intro h
    rw [h]

theorem table?_eq_some {t : Table} : db.table? n = some t ↔ (n, .table t) ∈ db.relations :=
  table?_iff_find?.trans find?_eq_some

@[simp]
theorem Table.Kept.refl (t : Table) : t.Kept unlinked t := ⟨rfl, fun _ hc _ => hc⟩

theorem Table.Kept.trans {t t' t'' : Table} (h : t.Kept unlinked t') (h' : t'.Kept unlinked t'') : t.Kept unlinked t'' :=
  ⟨h'.columns.trans h.columns, fun c hc hu => h'.constraints c (h.constraints c hc hu) hu⟩

theorem Frame.of_same (h : db'.relations = db.relations) : Frame fp db db' := by
  have htable : ∀ n, db'.table? n = db.table? n := fun n => by rw [Schema.table?, Schema.table?, Schema.find?, Schema.find?, h]
  refine ⟨fun n _ hn => ?_, fun n t _ ht => ⟨t, ?_, .refl t⟩, fun n t' _ _ ht' => ⟨t', ?_, rfl⟩⟩
  · rwa [Schema.find?, h]
  · rwa [htable]
  · rwa [← htable]

theorem Frame.refl (db : Schema) : Frame fp db db := .of_same rfl

theorem Frame.trans (h : Frame fp db db') (h' : Frame fp db' db'') : Frame fp db db'' := by
  refine ⟨fun n hn habsent => h'.absent n hn (h.absent n hn habsent), fun n t hn ht => ?_, fun n t'' hmade hcols ht'' => ?_⟩
  · obtain ⟨t', ht', hkept⟩ := h.table n t hn ht
    obtain ⟨t'', ht'', hkept'⟩ := h'.table n t' hn ht'
    exact ⟨t'', ht'', hkept.trans hkept'⟩
  · obtain ⟨t', ht', hsame'⟩ := h'.source n t'' hmade hcols ht''
    obtain ⟨t, ht, hsame⟩ := h.source n t' hmade hcols ht'
    exact ⟨t, ht, hsame'.trans hsame⟩

/-- A footprint that is larger. -/
structure Footprint.Within (fp fp' : Footprint) : Prop where
  makes : ∀ n, fp'.makes n = false → fp.makes n = false
  touches : ∀ n, fp'.touches n = false → fp.touches n = false
  unlinks : ∀ n, fp'.unlinks n = false → fp.unlinks n = false
  recolumns : ∀ n, fp'.recolumns n = false → fp.recolumns n = false

theorem Frame.mono (h : Frame fp db db') (hw : fp.Within fp') : Frame fp' db db' := by
  refine ⟨fun n hn => h.absent n (hw.makes n hn), fun n t hn ht => ?_,
    fun n t' hmade hcols => h.source n t' (hw.makes n hmade) (hw.recolumns n hcols)⟩
  obtain ⟨t', ht', hkept⟩ := h.table n t (hw.touches n hn) ht
  exact ⟨t', ht', hkept.columns, fun c hc hc' => hkept.constraints c hc fun target htarget => hw.unlinks target (hc' target htarget)⟩

theorem Frame.add {r : Relation} {h : name ∉ db.relations.map (·.1)} (hname : fp.makes name = true) :
    Frame fp db (db.add name r h) := by
  have hother : ∀ n, fp.makes n = false → n ≠ name := by
    rintro n hn rfl
    rw [hname] at hn
    cases hn
  refine ⟨fun n hn habsent => ?_, fun n t hn ht => ⟨t, ?_, .refl t⟩, fun n t' hn _ ht' => ⟨t', ?_, rfl⟩⟩
  · rw [find?_eq_none, Schema.add, List.map_append, List.mem_append, not_or]
    exact ⟨find?_eq_none.1 habsent, fun hm => hother n hn (List.mem_singleton.1 hm)⟩
  · rw [table?_eq_some] at ht ⊢
    exact List.mem_append_left _ ht
  · rw [table?_eq_some] at ht' ⊢
    refine (List.mem_append.1 ht').resolve_right fun hm => hother n hn ?_
    exact congrArg (·.1) (List.mem_singleton.1 hm)

theorem Frame.keep {p : String × Relation → Bool} (hp : ∀ n t, p (n, .table t) = false → fp.touches n = true) :
    Frame fp db (db.keep p) := by
  refine ⟨fun n _ habsent => ?_, fun n t hn ht => ⟨t, ?_, .refl t⟩, fun n t' _ _ ht' => ⟨t', ?_, rfl⟩⟩
  · rw [find?_eq_none] at habsent ⊢
    exact fun hm => habsent ((List.filter_sublist.map _).subset hm)
  · rw [table?_eq_some] at ht ⊢
    refine List.mem_filter.2 ⟨ht, ?_⟩
    by_contra hdropped
    rw [hp n t (Bool.eq_false_iff.2 hdropped)] at hn
    cases hn
  · rw [table?_eq_some] at ht' ⊢
    exact (List.mem_filter.1 ht').1

theorem Frame.alter {f : String → Table → Table} (hf : ∀ n (t : Table), fp.touches n = false → t.Kept fp.unlinks (f n t))
    (hcols : ∀ n (t : Table), fp.recolumns n = false → (f n t).columns = t.columns) : Frame fp db (db.alter f) := by
  refine ⟨fun n _ habsent => ?_, fun n t hn ht => ⟨f n t, ?_, hf n t hn⟩, fun n t' _ hn ht' => ?_⟩
  · rw [find?_eq_none, Schema.alter, List.map_map] at *
    exact habsent
  · rw [table?_eq_some] at ht ⊢
    exact List.mem_map.2 ⟨_, ht, rfl⟩
  · rw [table?_eq_some] at ht'
    obtain ⟨⟨n', r⟩, he, heq⟩ := List.mem_map.1 ht'
    cases r with
    | table t =>
      cases heq
      exact ⟨t, table?_eq_some.2 he, hcols _ _ hn⟩
    | index => cases heq

/-- The table alone is changed. -/
theorem Frame.alterTable {f : Table → Table} (hname : fp.touches name = true)
    (hcols : fp.recolumns name = true ∨ ∀ t, (f t).columns = t.columns) : Frame fp db (db.alterTable name f) := by
  apply Frame.alter
  · intro n t hn
    split
    · rename_i he
      rw [he, hname] at hn
      cases hn
    · exact .refl t
  · intro n t hn
    split
    · rename_i he
      rw [he] at hn
      exact hcols.resolve_left (fun hrecolumned => by rw [hrecolumned] at hn; cases hn) t
    · rfl

theorem Frame.remove (hname : fp.touches name = true) : Frame fp db (db.remove name) := by
  apply Frame.keep
  intro n t hdropped
  have hn : n = name := by simpa using hdropped
  rw [hn, hname]

theorem Frame.unlink (hname : fp.unlinks name = true) : Frame fp db (db.unlink name) := by
  apply Frame.alter
  · refine fun n t _ => ⟨rfl, fun c hc hkept => List.mem_filter.2 ⟨hc, ?_⟩⟩
    rw [decide_eq_true_eq]
    intro htarget
    have hfree := hkept name htarget
    rw [hname] at hfree
    cases hfree
  · exact fun _ _ _ => rfl

end

/-! ## What a statement does -/

section
variable {db db' : Schema} {s : Stmt} {stmts : List Stmt} {name table : String} {columns : List String}

theorem freeName_prefix {base : String} {names : List String} (h : freeName base names = some name) :
    base.toList <+: name.toList := by
  obtain ⟨i, -, rfl⟩ := List.mem_map.1 (List.mem_of_find?_eq_some h)
  split
  · exact List.prefix_rfl
  · rw [String.toList_append]
    exact List.prefix_append ..

theorem createTable_frame {ifNotExists : Bool} {t : Table} (h : exec db (.createTable name ifNotExists t) = some db') :
    Frame (footprint [.createTable name ifNotExists t]) db db' := by
  simp only [exec] at h
  split at h
  · split at h <;> cases h
    exact .refl db
  · split at h <;> cases h
    exact .add (by simp [footprint, Stmt.makes])

theorem dropTable_frame {cascade : Bool} (h : exec db (.dropTable name cascade) = some db') :
    Frame (footprint [.dropTable name cascade]) db db' := by
  have hname : (footprint [.dropTable name cascade]).touches name = true := by simp [footprint, Stmt.touches]
  simp only [exec] at h
  split at h
  · cases h
    exact .refl db
  · cases h
  · split at h
    · rename_i hcascade
      cases h
      exact (Frame.remove hname).trans (.unlink (by simp [footprint, Stmt.unlinks, hcascade]))
    · split at h <;> cases h
      exact .remove hname

theorem createIndex_frame {ifNotExists : Bool} (h : exec db (.createIndex name ifNotExists table columns) = some db') :
    Frame (footprint [.createIndex name ifNotExists table columns]) db db' := by
  simp only [exec] at h
  split at h
  · cases h
  · split at h
    · split at h
      · split at h <;> cases h
        exact .refl db
      · cases h
        exact .add (by simp [footprint, Stmt.makes])
    · cases h

theorem createUnnamedIndex_frame {base : String} (h : exec db (.createUnnamedIndex base table columns) = some db') :
    Frame (footprint [.createUnnamedIndex base table columns]) db db' := by
  simp only [exec] at h
  split at h
  · cases h
  · split at h
    · split at h
      · cases h
      · rename_i name hfree
        split at h <;> cases h
        exact .add (by simpa [footprint, Stmt.makes] using freeName_prefix hfree)
    · cases h

theorem dropIndex_frame (h : exec db (.dropIndex name) = some db') : Frame (footprint [.dropIndex name]) db db' := by
  simp only [exec] at h
  split at h
  · cases h
    exact .refl db
  · cases h
    exact .keep fun n t hdropped => by simpa [footprint, Stmt.touches] using hdropped
  · cases h

theorem addColumn_frame {column : Column} (h : exec db (.addColumn table column) = some db') :
    Frame (footprint [.addColumn table column]) db db' := by
  simp only [exec] at h
  split at h
  · cases h
    exact .refl db
  · cases h
  · cases h
    split
    · exact .refl db
    · exact .alterTable (by simp [footprint, Stmt.touches]) (.inl (by simp [footprint, Stmt.recolumns]))

theorem dropColumn_frame {column : String} (h : exec db (.dropColumn table column) = some db') :
    Frame (footprint [.dropColumn table column]) db db' := by
  have htouches : (footprint [.dropColumn table column]).touches table = true := by simp [footprint, Stmt.touches]
  have hrecolumns : (footprint [.dropColumn table column]).recolumns table = true := by simp [footprint, Stmt.recolumns]
  simp only [exec] at h
  split at h
  · cases h
    exact .refl db
  · cases h
  · split at h
    · split at h <;> cases h
      -- The column goes, and then the indexes on it.
      exact .trans (.alterTable htouches (.inl hrecolumns)) (.keep fun n t hdropped => by simp at hdropped)
    · cases h
      exact .refl db

theorem addConstraint_frame {c : Constraint} (h : exec db (.addConstraint table c) = some db') :
    Frame (footprint [.addConstraint table c]) db db' := by
  simp only [exec] at h
  split at h
  · cases h
    exact .refl db
  · cases h
  · split at h
    · cases h
    · split at h <;> cases h
      exact .alterTable (by simp [footprint, Stmt.touches]) (.inr fun _ => rfl)

theorem dropConstraint_frame (h : exec db (.dropConstraint table name) = some db') :
    Frame (footprint [.dropConstraint table name]) db db' := by
  simp only [exec] at h
  split at h
  · cases h
    exact .refl db
  · cases h
  · split at h <;> cases h
    exact .alterTable (by simp [footprint, Stmt.touches]) (.inr fun _ => rfl)

theorem dropFunction_frame (h : exec db (.dropFunction name) = some db') : Frame (footprint [.dropFunction name]) db db' := by
  simp only [exec] at h
  split at h <;> cases h
  exact .of_same rfl

theorem createTrigger_frame {trigger : Trigger} (h : exec db (.createTrigger trigger table) = some db') :
    Frame (footprint [.createTrigger trigger table]) db db' := by
  simp only [exec] at h
  split at h
  · cases h
  · split at h <;> cases h
    exact .alterTable (by simp [footprint, Stmt.touches]) (.inr fun _ => rfl)

/-- A statement changes what it names. -/
theorem exec_frame (h : exec db s = some db') : Frame (footprint [s]) db db' := by
  cases s with
  | createTable => exact createTable_frame h
  | dropTable => exact dropTable_frame h
  | createIndex => exact createIndex_frame h
  | createUnnamedIndex => exact createUnnamedIndex_frame h
  | dropIndex => exact dropIndex_frame h
  | addColumn => exact addColumn_frame h
  | dropColumn => exact dropColumn_frame h
  | addConstraint => exact addConstraint_frame h
  | dropConstraint => exact dropConstraint_frame h
  | createFunction =>
    cases h
    exact .of_same rfl
  | dropFunction => exact dropFunction_frame h
  | createTrigger => exact createTrigger_frame h
  | dropTrigger =>
    cases h
    exact .alterTable (by simp [footprint, Stmt.touches]) (.inr fun _ => rfl)
  | select =>
    cases h
    exact .refl db

theorem within_of_subset {stmts' : List Stmt} (h : stmts ⊆ stmts') : (footprint stmts).Within (footprint stmts') := by
  constructor <;>
  · intro n hn
    simp only [footprint, List.any_eq_false] at hn ⊢
    exact fun s hs => hn s (h hs)

/-- So does a text. -/
theorem execAll_frame (h : execAll db stmts = some db') : Frame (footprint stmts) db db' := by
  induction stmts generalizing db with
  | nil =>
    cases h
    exact .refl _
  | cons s rest ih =>
    obtain ⟨db₁, hs, hrest⟩ := Option.bind_eq_some_iff.1 h
    have hfirst : [s] ⊆ s :: rest := by simp
    have hrest' : rest ⊆ s :: rest := by simp
    exact ((exec_frame hs).mono (within_of_subset hfirst)).trans ((ih hrest).mono (within_of_subset hrest'))

/-- What no statement of a text makes is not made. -/
theorem execAll_absent (h : execAll db stmts = some db') (hn : ∀ s ∈ stmts, s.makes name = false)
    (habsent : db.find? name = none) : db'.find? name = none := by
  refine (execAll_frame h).absent name ?_ habsent
  simpa [footprint] using hn

/-- A table that no statement touches stays. -/
theorem execAll_table (h : execAll db stmts = some db') (hn : ∀ s ∈ stmts, s.touches name = false) {t : Table}
    (ht : db.table? name = some t) : ∃ t', db'.table? name = some t' ∧ t.Kept (footprint stmts).unlinks t' := by
  refine (execAll_frame h).table name t ?_ ht
  simpa [footprint] using hn

/-- A table that no statement makes has the columns it had. -/
theorem execAll_source (h : execAll db stmts = some db') (hn : ∀ s ∈ stmts, s.makes name = false ∧ s.recolumns name = false)
    {t' : Table} (ht' : db'.table? name = some t') : ∃ t, db.table? name = some t ∧ t'.columns = t.columns := by
  refine (execAll_frame h).source name t' ?_ ?_ ht'
  · simpa [footprint] using fun s hs => (hn s hs).1
  · simpa [footprint] using fun s hs => (hn s hs).2

/-- No such table has one of the columns. -/
def Lacks (table : String) (columns : List String) (db : Schema) : Prop :=
  ∀ t, db.table? table = some t → ∀ c ∈ columns, t.has c = false

theorem Lacks.keep {columns : List String} (h : Lacks name columns db) (hexec : execAll db stmts = some db')
    (hn : ∀ s ∈ stmts, s.makes name = false ∧ s.recolumns name = false) : Lacks name columns db' := by
  intro t' ht' c hc
  obtain ⟨t, ht, hcolumns⟩ := execAll_source hexec hn ht'
  rw [Table.has, hcolumns]
  exact h t ht c hc

/-! ## Failures -/

theorem execAll_of_first (h : exec db s = none) : execAll db (s :: stmts) = none := by
  rw [execAll, h, Option.bind_none]

/-- A table is made once. -/
theorem createTable_exists (h : db.find? name ≠ none) (t : Table) : exec db (.createTable name false t) = none := by
  have hmem : name ∈ db.relations.map (·.1) := by
    by_contra hmem
    exact h (find?_eq_none.2 hmem)
  simp only [exec, dif_pos hmem]
  rfl

theorem createTable_made {t : Table} (h : exec db (.createTable name false t) = some db') :
    db.find? name = none ∧ db'.table? name = some t := by
  simp only [exec] at h
  split at h
  · split at h
    · contradiction
    · cases h
  · rename_i hnew
    split at h <;> cases h
    refine ⟨find?_eq_none.2 hnew, ?_⟩
    rw [table?_eq_some]
    exact List.mem_append_right _ (List.mem_singleton_self _)

/-- A text that makes one table. -/
theorem execAll_made {t : Table} (h : execAll db [.createTable name false t] = some db') : db'.table? name = some t := by
  obtain ⟨db₁, hfirst, hrest⟩ := Option.bind_eq_some_iff.1 h
  cases hrest
  exact (createTable_made hfirst).2

theorem Lacks.made {t : Table} {columns : List String} (h : execAll db [.createTable name false t] = some db')
    (ht : ∀ c ∈ columns, t.has c = false) : Lacks name columns db' := by
  intro t' ht'
  rw [execAll_made h] at ht'
  cases ht'
  exact ht

theorem has_of_type? {t : Table} {column : String} {type : ColumnType} (h : t.type? column = some type) : t.has column = true := by
  obtain ⟨c, hc, -⟩ := Option.map_eq_some_iff.1 h
  rw [Table.has, List.any_eq_true]
  refine ⟨c, List.mem_of_find?_eq_some hc, ?_⟩
  have hname := List.find?_some hc
  exact hname

/-- The columns a foreign key is to are there. -/
theorem matches_has {t u : Table} {columns targetColumns : List String} (h : t.matches columns u targetColumns = true) :
    ∀ d ∈ targetColumns, u.has d = true := by
  rw [Table.matches, Bool.and_eq_true, decide_eq_true_eq, List.all_eq_true] at h
  obtain ⟨hlength, hall⟩ := h
  intro d hd
  obtain ⟨i, hi, rfl⟩ := List.mem_iff_getElem.1 hd
  have hpair : (columns[i], targetColumns[i]) ∈ columns.zip targetColumns :=
    List.mem_iff_getElem.2 ⟨i, by rw [List.length_zip]; omega, by rw [List.getElem_zip]⟩
  have htypes := hall _ hpair
  dsimp only at htypes
  split at htypes
  · exact has_of_type? ‹_›
  · cases htypes

/-- A foreign key needs the columns it is to. -/
theorem createTable_dangling {t : Table} {key target : String} {columns targetColumns : List String} {d : String}
    (hkey : .foreign key columns target targetColumns ∈ t.constraints) (hd : d ∈ targetColumns) (hne : target ≠ name)
    (hmissing : ∀ u, db.table? target = some u → u.has d = false) (habsent : db.find? name = none) (ifNotExists : Bool) :
    exec db (.createTable name ifNotExists t) = none := by
  have hnew := find?_eq_none.1 habsent
  simp only [exec, dif_neg hnew]
  apply if_neg
  intro hall
  have hadmits := List.all_eq_true.1 hall _ hkey
  simp only [Schema.admits] at hadmits
  split at hadmits
  · rename_i u hu
    rw [Bool.and_eq_true] at hadmits
    have hold : db.table? target = some u := by
      rw [table?_eq_some, Schema.add, List.mem_append] at hu
      rw [table?_eq_some]
      refine hu.resolve_right fun hm => hne ?_
      exact congrArg (·.1) (List.mem_singleton.1 hm)
    have hhas := matches_has hadmits.1 d hd
    rw [hmissing u hold] at hhas
    cases hhas
  · cases hadmits

/-- A table stays while another one has a foreign key to it. -/
theorem dropTable_referenced {t u : Table} {other : String} {c : Constraint} (ht : db.table? name = some t)
    (hu : db.table? other = some u) (hne : other ≠ name) (hc : c ∈ u.constraints) (htarget : c.target? = some name) :
    exec db (.dropTable name false) = none := by
  have hreferenced : db.referenced name = true := by
    rw [Schema.referenced, List.any_eq_true]
    refine ⟨(other, .table u), table?_eq_some.1 hu, ?_⟩
    simp only [Bool.and_eq_true, decide_eq_true_eq, List.any_eq_true]
    exact ⟨hne, c, hc, htarget⟩
  simp only [exec, table?_iff_find?.1 ht, hreferenced]
  rfl

end

end ServiceLib.Ddl
