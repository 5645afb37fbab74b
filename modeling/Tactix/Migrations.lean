import Mathlib.Data.List.Lex
import Tactix.Lib.Lists
import Tactix.Lib.Runs
/-!
# Migrations

`runMigrations` executes the files of a directory in order and keeps no record of it.
`migrations_right_iff` says in which sequences of runs each file takes effect once and a run
goes on where the last one stopped.
-/
open ServiceLib

namespace Tactix.Migrations

structure File where
  name : String
  sql : String

/-- What `readdirSync` gives. -/
structure Directory where
  files : List File
  distinct : (files.map (·.name)).Nodup

/-- The units a text is compared by. -/
def codeUnits (s : String) : List Nat :=
  s.toList.flatMap fun c => if c.toNat < 0x10000 then [c.toNat]
    else [0xd800 + (c.toNat - 0x10000) / 0x400, 0xdc00 + (c.toNat - 0x10000) % 0x400]

/-- `fs.existsSync(dir) ? fs.readdirSync(dir).sort() : []`. -/
def sortedFiles : Option Directory → List File
  | some dir => dir.files.mergeSort fun a b => decide (codeUnits a.name ≤ codeUnits b.name)
  | none => []

/-- The database after a run, the files whose SQL has taken effect, and the one that failed. -/
structure Outcome (Db : Type) where
  client : Db
  applied : List File
  failed : Option File

section
variable {Db : Type}
-- The database after some SQL; `none` when it fails, and nothing is done.
variable (query : Db → String → Option Db)

def runFiles (client : Db) : List File → Outcome Db
  | [] => ⟨client, [], none⟩
  | file :: files =>
    match query client file.sql with
    | none => ⟨client, [], some file⟩
    | some client =>
      let o := runFiles client files
      { o with applied := file :: o.applied }

def runMigrations (client : Db) (migrationsDir : Option Directory) : Outcome Db :=
  runFiles query client (sortedFiles migrationsDir)

/-! ## What a run should do -/

/-- The database and what has taken effect on it in all runs. -/
structure State (Db : Type) where
  client : Db
  log : List File

/-- A run, after others have done this to the database. -/
def State.next (dir : Option Directory) (s : State Db) (others : Db → Db) : State Db :=
  let o := runMigrations query (others s.client) dir
  ⟨o.client, s.log ++ o.applied⟩

/-- The run adds files in order, each once, and all that are left unless one fails; it changes nothing
when all have taken effect, and else begins with the first that has not. -/
structure Right (order log : List File) (client : Db) (o : Outcome Db) : Prop where
  once : log ++ o.applied <+: order
  all : o.failed = none → log ++ o.applied = order
  complete : log = order → o.client = client
  resumes : ∀ file rest, order = log ++ file :: rest → (o.applied ++ o.failed.toList).head? = some file

/-- No file has taken effect yet, or all have and the first one fails now. -/
def Fresh (dir : Option Directory) (s : State Db) (others : Db → Db) : Prop :=
  s.log = [] ∨ s.log = sortedFiles dir ∧ ∀ file, (sortedFiles dir).head? = some file → query (others s.client) file.sql = none

/-- Every run of a sequence of them is right. -/
def AllRight (dir : Option Directory) (start : Db) (runs : List (Db → Db)) : Prop :=
  ∀ done others, done ++ [others] <+: runs →
    let s : State Db := done.foldl (State.next query dir) ⟨start, []⟩
    Right (sortedFiles dir) s.log (others s.client) (runMigrations query (others s.client) dir)

end

/-! ## The order -/

theorem sortedFiles_perm (dir : Directory) : (sortedFiles (some dir)).Perm dir.files := List.mergeSort_perm ..

/-- The files run in the order of their names. -/
theorem sortedFiles_sorted (dir : Option Directory) :
    (sortedFiles dir).Pairwise fun a b => codeUnits a.name ≤ codeUnits b.name := by
  cases dir with
  | none => exact .nil
  | some dir => exact pairwise_mergeSort_key (codeUnits ·.name) dir.files

theorem sortedFiles_nodup (dir : Option Directory) : (sortedFiles dir).Nodup := by
  cases dir with
  | none => exact List.nodup_nil
  | some dir => exact (sortedFiles_perm dir).nodup_iff.2 dir.distinct.of_map

/-! ## A run -/

section
variable {Db : Type} {query : Db → String → Option Db}

theorem runFiles_applied (client : Db) (files : List File) : (runFiles query client files).applied <+: files := by
  induction files generalizing client with
  | nil => exact List.prefix_rfl
  | cons file files ih =>
    rw [runFiles]
    cases query client file.sql with
    | none => exact List.nil_prefix
    | some client' => exact List.cons_prefix_cons.2 ⟨rfl, ih client'⟩

theorem runFiles_all {client : Db} {files : List File} (h : (runFiles query client files).failed = none) :
    (runFiles query client files).applied = files := by
  induction files generalizing client with
  | nil => rfl
  | cons file files ih =>
    rw [runFiles] at h ⊢
    cases hq : query client file.sql with
    | none => simp [hq] at h
    | some client' =>
      rw [hq] at h
      exact congrArg (file :: ·) (ih h)

/-- A run always begins with the first file. -/
theorem runFiles_head (client : Db) (files : List File) :
    ((runFiles query client files).applied ++ (runFiles query client files).failed.toList).head? = files.head? := by
  cases files with
  | nil => rfl
  | cons file files => cases h : query client file.sql <;> simp [runFiles, h]

theorem runFiles_applied_nil {client : Db} {files : List File} :
    (runFiles query client files).applied = [] ↔ ∀ file, files.head? = some file → query client file.sql = none := by
  cases files with
  | nil => simp [runFiles]
  | cons file files => cases h : query client file.sql <;> simp [runFiles, h]

theorem runFiles_client {client : Db} {files : List File} (h : (runFiles query client files).applied = []) :
    (runFiles query client files).client = client := by
  cases files with
  | nil => rfl
  | cons file files => cases hq : query client file.sql <;> simp [runFiles, hq] at h ⊢

/-! ## Runs -/

variable {dir : Option Directory} {s : State Db} {others : Db → Db}

theorem Fresh.right (h : Fresh query dir s others) :
    Right (sortedFiles dir) s.log (others s.client) (runMigrations query (others s.client) dir) := by
  rcases h with hlog | ⟨hlog, hfails⟩
  · refine ⟨?_, ?_, ?_, ?_⟩
    · rw [hlog]
      exact runFiles_applied ..
    · intro hfailed
      rw [hlog]
      exact runFiles_all hfailed
    · intro hall
      have hnone : sortedFiles dir = [] := hall.symm.trans hlog
      rw [runMigrations, hnone]
      rfl
    · intro file rest hfile
      rw [hlog, List.nil_append] at hfile
      rw [runMigrations, runFiles_head, hfile, List.head?_cons]
  · have hnone : (runMigrations query (others s.client) dir).applied = [] := runFiles_applied_nil.2 hfails
    refine ⟨?_, fun _ => ?_, fun _ => runFiles_client hnone, ?_⟩
    · rw [hnone, List.append_nil, hlog]
    · rw [hnone, List.append_nil, hlog]
    · intro file rest hfile
      have hlen := congrArg List.length hfile
      rw [← hlog, List.length_append, List.length_cons] at hlen
      omega

/-- A run that begins anew after some of the files is not right: it is the first file that it begins with. -/
theorem Right.fresh (hlog : s.log <+: sortedFiles dir)
    (h : Right (sortedFiles dir) s.log (others s.client) (runMigrations query (others s.client) dir)) :
    Fresh query dir s others := by
  obtain ⟨rest, hrest⟩ := hlog
  cases hl : s.log with
  | nil => exact .inl hl
  | cons first log =>
    rw [hl, List.cons_append] at hrest
    cases rest with
    | nil =>
      have hall : s.log = sortedFiles dir := by rw [hl, ← hrest, List.append_nil]
      refine .inr ⟨hall, runFiles_applied_nil.1 ?_⟩
      have hlen := h.once.length_le
      rw [hall, List.length_append] at hlen
      exact List.length_eq_zero_iff.1 (by rw [runMigrations] at hlen; omega)
    | cons file rest =>
      have hhead := h.resumes file rest (by rw [hl, ← hrest, List.cons_append])
      rw [runMigrations, runFiles_head, ← hrest, List.head?_cons] at hhead
      have hdistinct := sortedFiles_nodup dir
      rw [← hrest, List.nodup_cons] at hdistinct
      exact absurd (by simp [Option.some.inj hhead]) hdistinct.1

end

/-- Every run is right, so that each file takes effect at most once, in order, and all have after a complete run,
just when at each run no file has taken effect yet, or all have and the first fails when it is executed again. -/
theorem migrations_right_iff {Db : Type} (query : Db → String → Option Db) (dir : Option Directory) (start : Db)
    (runs : List (Db → Db)) :
    AllRight query dir start runs ↔
      ∀ done others, done ++ [others] <+: runs → Fresh query dir (done.foldl (State.next query dir) ⟨start, []⟩) others := by
  have hiff : ∀ (s : State Db) (others : Db → Db), s.log <+: sortedFiles dir →
      (Right (sortedFiles dir) s.log (others s.client) (runMigrations query (others s.client) dir) ↔
        Fresh query dir s others) := fun _ _ hlog => ⟨Right.fresh hlog, Fresh.right⟩
  have hkeep : ∀ (s : State Db) (others : Db → Db), s.log <+: sortedFiles dir →
      Right (sortedFiles dir) s.log (others s.client) (runMigrations query (others s.client) dir) →
      (s.next query dir others).log <+: sortedFiles dir := fun _ _ _ hright => hright.once
  exact steps_iff_meets (I := fun s : State Db => s.log <+: sortedFiles dir) List.nil_prefix hiff hkeep runs

/-- `014_create_incident_messages.sql`. -/
def recreateMessages : File where
  name := "014_create_incident_messages.sql"
  sql := "DROP TABLE IF EXISTS messages CASCADE;\nCREATE TABLE messages (\n  id UUID PRIMARY KEY,\n" ++
    "  incident_id BIGINT REFERENCES incidents(id) ON DELETE CASCADE,\n  author TEXT NOT NULL,\n" ++
    "  content TEXT NOT NULL,\n  status TEXT NOT NULL,\n  created_at TIMESTAMPTZ NOT NULL DEFAULT now()\n);\n" ++
    "CREATE INDEX idx_messages_incident ON messages(incident_id);\n"

/-- The rows of `messages` after it. -/
def runSql (_messages : List String) (sql : String) : Option (List String) :=
  if sql = recreateMessages.sql then some [] else none

/-- A message is written between two starts; the second drops it. -/
theorem messages_dropped : ¬ ∀ (Db : Type) (query : Db → String → Option Db) (dir : Option Directory) (start : Db)
    (runs : List (Db → Db)), AllRight query dir start runs := by
  intro h
  have hright := h (List String) runSql (some ⟨[recreateMessages], List.nodup_singleton _⟩) []
    [id, fun rows => "Fire" :: rows] [id] (fun rows => "Fire" :: rows) List.prefix_rfl
  have hsame := hright.complete (by simp [sortedFiles, State.next, runMigrations, runFiles, runSql])
  simp [sortedFiles, State.next, runMigrations, runFiles, runSql] at hsame

end Tactix.Migrations
