import Tactix.Files
import Tactix.Lib.Disk
import Tactix.Lib.Runs
import Mathlib.Data.List.Forall2
/-!
# The MCP agent

`mcp_agent.ts` and `dispatcher.ts`: one run over the files of the queue, and any
number of runs with files dropped in between. A file that comes back under an
old name replaces the one in the archive: `archive_iff` says that nothing else
goes wrong. Numbers are those a text can hold: no `Infinity`, no `-0`, and none of
the limits of the engine.
-/
open Tactix.Js ServiceLib

namespace Tactix.Mcp

inductive Path where
  | queue (name : String)
  | archive (name : String)
  | log
  deriving DecidableEq

abbrev Files := Disk Path UInt8

/-- Why a task fails. -/
inductive TaskError where
  | unreadable
  /-- `JSON.parse` throws. -/
  | unparsed (raw : String)
  /-- The task is `null`. -/
  | nullTask
  | missing
  | unsupported (type : Json)
  /-- The log has no `push`. -/
  | noPush

/-- `string` is `String(v)`, or the message of what it throws. `readError` and
`parseError` are the messages of `readFile` and `JSON.parse`. -/
structure Env where
  texts : Texts
  string : Json → Except String String
  readError : String → String
  parseError : String → String

def TaskError.message (env : Env) (fileName : String) : TaskError → String
  | .unreadable => env.readError fileName
  | .unparsed raw => env.parseError raw
  | .nullTask => "Cannot read properties of null (reading 'task_id')"
  | .missing => "Missing required task fields"
  | .unsupported type =>
    match env.string type with
    | .ok s => "Unsupported task type: " ++ s
    | .error message => message
  | .noPush => "logs.push is not a function"

/-- `handleSitrepTask`, a placeholder. What it returns has no `output_path`. -/
def handleSitrepTask (_ : Json) : Option String := none

/-- `dispatchTask`: the `output_path` of what it returns. -/
def dispatchTask (task : Json) : Except TaskError (Option String) :=
  if str? (task.get? "type") = some "generate_sitrep" then .ok (handleSitrepTask task)
  else .error (.unsupported ((task.get? "type").getD .null))

/-- The part of `processTask` between the two files: the task and its output. -/
def runTask (env : Env) (raw : List UInt8) : Except TaskError (Json × Option String) :=
  match env.texts.json raw with
  | none => .error (.unparsed (env.texts.decode raw))
  | some .null => .error .nullTask
  | some task =>
    if !truthy (task.get? "task_id") || !truthy (task.get? "type") || !truthy (task.get? "context") then .error .missing
    else (dispatchTask task).map fun output_path => (task, output_path)

/-- `output_path || null`. -/
def orNull (s : Option String) : Json := ((orString s none).map Json.str).getD .null

def successLog (task : Json) (output_path : Option String) (timestamp : String) : Json :=
  .obj [("task_id", (task.get? "task_id").getD .null), ("type", (task.get? "type").getD .null), ("status", .str "success"),
    ("timestamp", .str timestamp), ("output", orNull output_path)]

def failedLog (env : Env) (fileName : String) (e : TaskError) (timestamp : String) : Json :=
  .obj [("task_id", .str fileName), ("type", .str "unknown"), ("status", .str "failed"), ("timestamp", .str timestamp),
    ("error", .str (e.message env fileName))]

/-- `logTaskResult`. A log that is missing or does not parse is empty. -/
def logTaskResult (env : Env) (d : Files) (log : Json) : Except TaskError Files :=
  match (d.read .log).bind env.texts.json with
  | none => .ok (d.writeFile .log (env.texts.bytes (.arr [log])))
  | some (.arr logs) => .ok (d.writeFile .log (env.texts.bytes (.arr (logs ++ [log]))))
  | some _ => .error .noPush

/-- The `try` block. -/
def attempt (env : Env) (d : Files) (fileName timestamp : String) : Except TaskError Files :=
  match d.read (.queue fileName) with
  | none => .error .unreadable
  | some raw =>
    match runTask env raw with
    | .error e => .error e
    | .ok (task, output_path) => logTaskResult env d (successLog task output_path timestamp)

/-- `archiveTask`; `false` when it throws. -/
def archiveTask (d : Files) (fileName : String) : Files × Bool :=
  match d.rename (.queue fileName) (.archive fileName) with
  | some d => (d, true)
  | none => (d, false)

/-- `processTask`: the files after it, and whether it returns. The `catch` may throw
itself, and then `finally` still archives the file. -/
def processTask (env : Env) (d : Files) (fileName timestamp : String) : Files × Bool :=
  match attempt env d fileName timestamp with
  | .ok d => archiveTask d fileName
  | .error e =>
    match logTaskResult env d (failedLog env fileName e timestamp) with
    | .ok d => archiveTask d fileName
    | .error _ => ((archiveTask d fileName).1, false)

/-- The loop of `main`. -/
def processAll (env : Env) (timestamp : String → String) : Files → List String → Files × Bool
  | d, [] => (d, true)
  | d, file :: files =>
    match processTask env d file (timestamp file) with
    | (d, true) => processAll env timestamp d files
    | (d, false) => (d, false)

/-- `f.endsWith('.json')`. -/
def isJson (f : String) : Bool := ".json".toList.isSuffixOf f.toList

/-- `main`, for what `readdir` lists. `timestamp` is when the entry of a file is made. -/
def main (env : Env) (timestamp : String → String) (d : Files) (files : List String) : Files × Bool :=
  processAll env timestamp d (files.filter isJson)

/-- `files` is a listing of the queue. -/
def Lists (d : Files) (files : List String) : Prop :=
  files.Nodup ∧ ∀ name, name ∈ files ↔ d.read (.queue name) ≠ none

/-- Files are dropped, and the agent runs. -/
inductive Action where
  | drop (name : String) (bytes : List UInt8)
  | run (timestamp : String → String) (files : List String)

inductive Step (env : Env) : Files → Action → Files → Prop
  | drop {d : Files} {name : String} {bytes : List UInt8} :
      Step env d (.drop name bytes) (d.writeFile (.queue name) bytes)
  | run {d : Files} {timestamp : String → String} {files : List String} : Lists d files →
      Step env d (.run timestamp files) (main env timestamp d files).1

/-! ## What is to hold -/

/-- The entries of the log; `none` when it holds something else. -/
def logs (env : Env) (d : Files) : Option (List Json) :=
  match d.read .log with
  | none => some []
  | some bytes =>
    match env.texts.json bytes with
    | some (.arr logs) => some logs
    | _ => none

/-- The file parses, the three fields are there as the agent tests it, and the type is known. -/
def Succeeds (env : Env) (bytes : List UInt8) : Prop :=
  ∃ task, env.texts.json bytes = some task ∧ truthy (task.get? "task_id") = true ∧ truthy (task.get? "type") = true ∧
    truthy (task.get? "context") = true ∧ str? (task.get? "type") = some "generate_sitrep"

/-- The entry is the one of a file with this content. -/
def Reports (env : Env) (bytes : List UInt8) (entry : Json) : Prop :=
  (str? (entry.get? "status") = some "success" ∧ Succeeds env bytes) ∨
    (str? (entry.get? "status") = some "failed" ∧ ¬ Succeeds env bytes)

/-- One entry for each file, in order. -/
def Entries (env : Env) (d : Files) (files : List String) (entries : List Json) : Prop :=
  List.Forall₂ (fun name entry => ∃ bytes, d.read (.queue name) = some bytes ∧ Reports env bytes entry) files entries

/-- What a run over `files` is to do. -/
structure RunLaw (env : Env) (d : Files) (files : List String) (d' : Files) : Prop where
  archived : ∀ name ∈ files, d'.read (.queue name) = none ∧ d'.read (.archive name) = d.read (.queue name)
  kept : ∀ name bytes, d.read (.archive name) = some bytes → d'.read (.archive name) = some bytes
  logged : ∃ old entries, logs env d = some old ∧ logs env d' = some (old ++ entries) ∧ Entries env d files entries

/-- No file has the name of one in the archive with other content. -/
def Fresh (d : Files) (files : List String) : Prop :=
  ∀ name ∈ files, ∀ bytes, d.read (.archive name) = some bytes → d.read (.queue name) = some bytes

/-! ## The log -/

section
variable {env : Env} {d : Files}

theorem logs_distinct {old : List Json} (h : logs env d = some old) : ∀ v ∈ old, v.Distinct := by
  unfold logs at h
  split at h
  · obtain rfl := Option.some.inj h
    simp
  · split at h
    · rename_i hjson
      obtain rfl := Option.some.inj h
      exact distinct_arr.1 (json_distinct hjson)
    · cases h

/-- What a write of the log leaves. -/
structure Appended (env : Env) (d : Files) (log : Json) (d' : Files) : Prop where
  logs : ∀ old, logs env d = some old → Mcp.logs env d' = some (old ++ [log])
  read : ∀ p, p ≠ .log → d'.read p = d.read p

theorem logs_writeFile {entries : List Json} (h : ∀ v ∈ entries, v.Distinct) :
    logs env (d.writeFile .log (env.texts.bytes (.arr entries))) = some entries := by
  rw [logs, Disk.read_writeFile, if_pos rfl]
  dsimp only
  rw [json_bytes env.texts (distinct_arr.2 h)]

theorem logTaskResult_ok {log : Json} (hlog : log.Distinct) (h : logs env d ≠ none) :
    ∃ d', logTaskResult env d log = .ok d' ∧ Appended env d log d' := by
  obtain ⟨old, hold⟩ := Option.ne_none_iff_exists'.1 h
  have hwritten : logTaskResult env d log = .ok (d.writeFile .log (env.texts.bytes (.arr (old ++ [log])))) := by
    unfold logs at hold
    unfold logTaskResult
    split at hold
    · rename_i hread
      obtain rfl := Option.some.inj hold
      rw [hread]
      rfl
    · rename_i bytes hread
      split at hold
      · rename_i hjson
        obtain rfl := Option.some.inj hold
        rw [hread, Option.bind_some, hjson]
      · cases hold
  refine ⟨_, hwritten, fun old' hold' => ?_, fun p hp => ?_⟩
  · obtain rfl := Option.some.inj (hold.symm.trans hold')
    refine logs_writeFile fun v hv => ?_
    rcases List.mem_append.1 hv with hv | hv
    · exact logs_distinct hold v hv
    · rwa [List.mem_singleton.1 hv]
  · rw [Disk.read_writeFile, if_neg hp]

/-- The log is all that counts of the files. -/
theorem logs_congr {d' : Files} (h : d'.read .log = d.read .log) : logs env d' = logs env d := by
  unfold logs
  rw [h]

/-! ## One file -/

/-- What comes of a file's content: the task, or an error. -/
theorem runTask_cases (env : Env) (raw : List UInt8) :
    (Succeeds env raw ∧ ∃ task, env.texts.json raw = some task ∧ runTask env raw = .ok (task, none)) ∨
      (¬ Succeeds env raw ∧ ∃ e, runTask env raw = .error e) := by
  cases hjson : env.texts.json raw with
  | none =>
    refine .inr ⟨?_, _, by simp only [runTask, hjson]; rfl⟩
    rintro ⟨task, ht, -⟩
    cases hjson.symm.trans ht
  | some task =>
    by_cases hs : Succeeds env raw
    · obtain ⟨task', ht, hid, htype, hcontext, hname⟩ := id hs
      obtain rfl := Option.some.inj (hjson.symm.trans ht)
      refine .inl ⟨hs, task, rfl, ?_⟩
      unfold runTask
      rw [hjson]
      cases task with
      | null => cases hid
      | _ => simp [hid, htype, hcontext, dispatchTask, hname, handleSitrepTask, Except.map]
    · refine .inr ⟨hs, ?_⟩
      have hall : ¬ (truthy (task.get? "task_id") = true ∧ truthy (task.get? "type") = true ∧
          truthy (task.get? "context") = true ∧ str? (task.get? "type") = some "generate_sitrep") :=
        fun h => hs ⟨task, hjson, h⟩
      unfold runTask
      rw [hjson]
      cases task with
      | null => exact ⟨_, rfl⟩
      | _ =>
        dsimp only
        split
        · exact ⟨_, rfl⟩
        · rename_i hfields
          simp only [Bool.or_eq_true, Bool.not_eq_true', not_or, Bool.not_eq_false] at hfields
          rw [dispatchTask, if_neg fun hname => hall ⟨hfields.1.1, hfields.1.2, hfields.2, hname⟩]
          exact ⟨_, rfl⟩

theorem successLog_distinct {task : Json} (ht : task.Distinct) (output_path : Option String) (timestamp : String) :
    (successLog task output_path timestamp).Distinct := by
  have hfield : ∀ key, ((task.get? key).getD .null).Distinct := by
    intro key
    cases h : task.get? key with
    | none => trivial
    | some v => exact get?_distinct ht h
  have hnull : (orNull output_path).Distinct := by
    unfold orNull
    cases orString output_path none <;> trivial
  refine distinct_obj.2 ⟨by simp, ?_⟩
  simp only [List.forall_mem_cons]
  exact ⟨hfield "task_id", hfield "type", trivial, trivial, hnull, by simp⟩

theorem failedLog_distinct (env : Env) (fileName : String) (e : TaskError) (timestamp : String) :
    (failedLog env fileName e timestamp).Distinct := by
  simp [failedLog, Json.Distinct, DistinctFields]

/-- What a run does with one file of the queue. -/
structure Processed (env : Env) (d : Files) (file : String) (raw : List UInt8) (d' : Files) : Prop where
  read : ∀ p, p ≠ .log →
    d'.read p = if p = .archive file then some raw else if p = .queue file then none else d.read p
  logs : ∃ entry, Reports env raw entry ∧ ∀ old, logs env d = some old → Mcp.logs env d' = some (old ++ [entry])

theorem archiveTask_processed {d' : Files} {file : String} {raw : List UInt8} {entry : Json}
    (hraw : d.read (.queue file) = some raw) (ha : Appended env d entry d') (hentry : Reports env raw entry) :
    ∃ d'', archiveTask d' file = (d'', true) ∧ Processed env d file raw d'' := by
  have hqueue : d'.read (.queue file) = some raw := (ha.read _ (by simp)).trans hraw
  obtain ⟨d'', hr⟩ : ∃ d'', d'.rename (.queue file) (.archive file) = some d'' := by
    refine Option.ne_none_iff_exists'.1 fun hnone => ?_
    rw [Disk.read, Disk.rename_none.1 hnone] at hqueue
    cases hqueue
  have hread := fun p => Disk.read_rename (r := p) hr
  refine ⟨d'', by simp [archiveTask, hr], fun p hp => ?_, entry, hentry, fun old hold => ?_⟩
  · rw [hread, hqueue, ha.read p hp]
  · have hlog : d''.read .log = d'.read .log := by simp [hread]
    exact (logs_congr hlog).trans (ha.logs old hold)

theorem processTask_processed {file : String} (timestamp : String) {raw : List UInt8}
    (hraw : d.read (.queue file) = some raw) (hlogs : logs env d ≠ none) :
    ∃ d', processTask env d file timestamp = (d', true) ∧ Processed env d file raw d' := by
  rcases runTask_cases env raw with ⟨hs, task, htask, hrun⟩ | ⟨hs, e, hrun⟩
  · obtain ⟨d', hd, ha⟩ := logTaskResult_ok (successLog_distinct (json_distinct htask) none timestamp) hlogs
    have hattempt : attempt env d file timestamp = .ok d' := by simp only [attempt, hraw, hrun, hd]
    rw [processTask, hattempt]
    exact archiveTask_processed hraw ha (.inl ⟨rfl, hs⟩)
  · have hattempt : attempt env d file timestamp = .error e := by simp only [attempt, hraw, hrun]
    obtain ⟨d', hd, ha⟩ := logTaskResult_ok (failedLog_distinct env file e timestamp) hlogs
    rw [processTask, hattempt]
    dsimp only
    rw [hd]
    exact archiveTask_processed hraw ha (.inr ⟨rfl, hs⟩)

end

/-! ## A run -/

/-- What a run does with its files: each is in the archive in place of whatever was
there under its name, and the rest is as it was. -/
structure RunDone (env : Env) (d : Files) (files : List String) (d' : Files) : Prop where
  queue : ∀ name, d'.read (.queue name) = if name ∈ files then none else d.read (.queue name)
  archive : ∀ name, d'.read (.archive name) = if name ∈ files then d.read (.queue name) else d.read (.archive name)
  logs : ∀ old, logs env d = some old → ∃ entries, Mcp.logs env d' = some (old ++ entries) ∧ Entries env d files entries

/-- The entries depend on the queue alone. -/
theorem Entries.congr {env : Env} {d d' : Files} {files : List String} {entries : List Json} (h : Entries env d files entries)
    (hsame : ∀ name ∈ files, d.read (.queue name) = d'.read (.queue name)) : Entries env d' files entries := by
  refine List.Forall₂.imp (fun name entry => ?_) ((List.forall₂_and_left _ _).2 ⟨hsame, h⟩)
  rintro ⟨hname, bytes, hread, hreports⟩
  exact ⟨bytes, hname.symm.trans hread, hreports⟩

theorem processAll_done (env : Env) (timestamp : String → String) {files : List String} (hn : files.Nodup) {d : Files}
    (hqueue : ∀ name ∈ files, d.read (.queue name) ≠ none) (hlogs : logs env d ≠ none) :
    ∃ d', processAll env timestamp d files = (d', true) ∧ RunDone env d files d' := by
  induction files generalizing d with
  | nil => exact ⟨d, rfl, by simp, by simp, fun old hold => ⟨[], by simp [hold], .nil⟩⟩
  | cons file files ih =>
    rw [List.nodup_cons] at hn
    obtain ⟨raw, hraw⟩ := Option.ne_none_iff_exists'.1 (hqueue file List.mem_cons_self)
    obtain ⟨d₁, hd₁, hp⟩ := processTask_processed (timestamp file) hraw hlogs
    obtain ⟨entry, hentry, hlogs₁⟩ := hp.logs
    -- The other files are where they were.
    have hrest : ∀ name ∈ files, d₁.read (.queue name) = d.read (.queue name) := by
      intro name hname
      have hne : name ≠ file := fun he => hn.1 (he ▸ hname)
      rw [hp.read _ (by simp), if_neg (by simp), if_neg (by simpa using hne)]
    obtain ⟨old, hold⟩ := Option.ne_none_iff_exists'.1 hlogs
    obtain ⟨d', hd', hdone⟩ := ih hn.2 (fun name hname => by
      rw [hrest name hname]; exact hqueue name (List.mem_cons_of_mem _ hname)) (by rw [hlogs₁ old hold]; simp)
    refine ⟨d', by rw [processAll, hd₁]; exact hd', fun name => ?_, fun name => ?_, fun old' hold' => ?_⟩
    · rw [hdone.queue, hp.read _ (by simp)]
      by_cases hname : name = file <;> by_cases hmem : name ∈ files <;> simp [hname, hmem]
    · rw [hdone.archive, hp.read (.archive name) (by simp)]
      by_cases hname : name = file
      · subst hname
        simp [hn.1, hraw]
      · by_cases hmem : name ∈ files
        · simp [hname, hmem, hrest name hmem]
        · simp [hname, hmem]
    · obtain ⟨entries, hentries, hall⟩ := hdone.logs _ (hlogs₁ old' hold')
      refine ⟨entry :: entries, by rw [hentries, List.append_assoc]; rfl, .cons ⟨raw, hraw, hentry⟩ ?_⟩
      exact hall.congr hrest

theorem main_done (env : Env) (timestamp : String → String) {d : Files} {files : List String} (hfiles : Lists d files)
    (hlogs : logs env d ≠ none) :
    ∃ d', main env timestamp d files = (d', true) ∧ RunDone env d (files.filter isJson) d' :=
  processAll_done env timestamp (hfiles.1.filter _)
    (fun name hname => (hfiles.2 name).1 (List.mem_of_mem_filter hname)) hlogs

/-- The archive is kept if no name in it comes back with other content. -/
theorem RunDone.law_iff {env : Env} {d d' : Files} {files : List String} (hdone : RunDone env d files d')
    (hlogs : Mcp.logs env d ≠ none) : RunLaw env d files d' ↔ Fresh d files := by
  refine ⟨fun hlaw name hname bytes hbytes => ?_, fun hfresh => ⟨fun name hname => ?_, fun name bytes hbytes => ?_, ?_⟩⟩
  · have hkept := hlaw.kept name bytes hbytes
    rwa [hdone.archive, if_pos hname] at hkept
  · rw [hdone.queue, hdone.archive, if_pos hname, if_pos hname]
    exact ⟨rfl, rfl⟩
  · rw [hdone.archive]
    split
    · rename_i hname
      exact hfresh name hname bytes hbytes
    · exact hbytes
  · obtain ⟨old, hold⟩ := Option.ne_none_iff_exists'.1 hlogs
    obtain ⟨entries, hentries, hall⟩ := hdone.logs old hold
    exact ⟨old, entries, hold, hentries, hall⟩

/-- The log stays a list, whatever is dropped. -/
theorem logs_kept {env : Env} {d d' : Files} {a : Action} (hlogs : logs env d ≠ none) (h : Step env d a d') :
    logs env d' ≠ none := by
  cases h with
  | @drop name bytes =>
    have hlog : (d.writeFile (.queue name) bytes).read .log = d.read .log := by simp [Disk.read_writeFile]
    rwa [logs_congr hlog]
  | @run timestamp files hfiles =>
    obtain ⟨d', hd', hdone⟩ := main_done env timestamp hfiles hlogs
    obtain ⟨old, hold⟩ := Option.ne_none_iff_exists'.1 hlogs
    obtain ⟨entries, hentries, -⟩ := hdone.logs old hold
    rw [hd', hentries]
    simp

theorem reachable_logs {env : Env} {d₀ d : Files} (hlogs : logs env d₀ ≠ none) (h : Reachable (Step env) d₀ d) :
    logs env d ≠ none :=
  h.inv (I := fun d => logs env d ≠ none) hlogs fun _ _ _ hs ht => logs_kept hs ht

/-- Whatever is dropped between the runs, a run returns; each file it processes ends
in the archive and has its entry in the log, and what was in the archive is there
still if and only if no file has the name of an archived one with other content. -/
theorem archive_iff (env : Env) {d₀ d : Files} (hlogs : logs env d₀ ≠ none) (h : Reachable (Step env) d₀ d)
    (timestamp : String → String) {files : List String} (hfiles : Lists d files) :
    (main env timestamp d files).2 = true ∧
      (RunLaw env d (files.filter isJson) (main env timestamp d files).1 ↔ Fresh d (files.filter isJson)) := by
  have hlogs := reachable_logs hlogs h
  obtain ⟨d', hd', hdone⟩ := main_done env timestamp hfiles hlogs
  rw [hd']
  exact ⟨rfl, hdone.law_iff hlogs⟩

/-! ## A name that comes back -/

namespace Sample

def env : Env := ⟨⟨.unary, fun _ => ""⟩, fun _ => .ok "", fun _ => "", fun _ => "Unexpected end of JSON input"⟩

/-- `a.json` with some bytes, in the queue. -/
def dropped (d : Files) (bytes : List UInt8) : Files := d.writeFile (.queue "a.json") bytes

/-- A task, as it was archived before under the same name. -/
def task : List UInt8 :=
  env.texts.bytes (.obj [("task_id", .str "t1"), ("type", .str "generate_sitrep"), ("context", .str "OP1")])

def archived : Files := Disk.empty.writeFile (.archive "a.json") task

theorem filter_name : ["a.json"].filter isJson = ["a.json"] := by decide

theorem lists_dropped {d : Files} (h : ∀ name, d.read (.queue name) = none) (bytes : List UInt8) :
    Lists (dropped d bytes) ["a.json"] := by
  refine ⟨by simp, fun name => ?_⟩
  rw [dropped, Disk.read_writeFile, h]
  by_cases hname : name = "a.json" <;> simp [hname]

end Sample

/-- A task that is dropped once more, as it is in the archive. -/
theorem archive_iff_sample : Sample.archived.read (.archive "a.json") = some Sample.task ∧
    RunLaw Sample.env (Sample.dropped Sample.archived Sample.task) ["a.json"]
      (main Sample.env (fun _ => "2024-01-01T00:00:00.000Z") (Sample.dropped Sample.archived Sample.task) ["a.json"]).1 := by
  have hread : ∀ p, Sample.archived.read p = if p = .archive "a.json" then some Sample.task else none := fun p => by
    rw [Sample.archived, Disk.read_writeFile]
    rfl
  have hdrop : Reachable (Step Sample.env) Sample.archived (Sample.dropped Sample.archived Sample.task) := .step .refl .drop
  have hlogs : logs Sample.env Sample.archived ≠ none := by simp [logs, hread]
  have hlaw := (archive_iff Sample.env hlogs hdrop (fun _ => "2024-01-01T00:00:00.000Z")
    (Sample.lists_dropped (by simp [hread]) Sample.task)).2
  rw [Sample.filter_name] at hlaw
  refine ⟨by simp [hread], hlaw.2 fun name hname bytes hbytes => ?_⟩
  rw [List.mem_singleton.1 hname, Sample.dropped, Disk.read_writeFile, if_neg (by simp), hread, if_pos rfl] at hbytes
  rw [List.mem_singleton.1 hname, Sample.dropped, Disk.read_writeFile, if_pos rfl]
  exact hbytes

/-- The second `a.json` replaces the first in the archive. -/
theorem archived_file_lost : ¬ ∀ (env : Env) (d₀ d : Files), logs env d₀ ≠ none → Reachable (Step env) d₀ d →
    ∀ (timestamp : String → String) (files : List String), Lists d files →
      RunLaw env d (files.filter isJson) (main env timestamp d files).1 := by
  intro hall
  have hlogs : logs Sample.env .empty ≠ none := by simp [logs, Disk.read, Disk.empty]
  have hdrop : Reachable (Step Sample.env) .empty (Sample.dropped .empty []) := .step .refl .drop
  have hlists : Lists (Sample.dropped .empty []) ["a.json"] := Sample.lists_dropped (fun _ => rfl) []
  obtain ⟨d, hd, hdone⟩ := main_done Sample.env (fun _ => "") hlists (logs_kept hlogs .drop)
  rw [Sample.filter_name] at hdone
  have hrun := hdrop.next (.run (fun _ => "") ["a.json"]) (.run hlists)
  rw [hd] at hrun
  have hempty : ∀ name, d.read (.queue name) = none := by
    intro name
    rw [hdone.queue, Sample.dropped, Disk.read_writeFile]
    by_cases hname : name = "a.json"
    · simp [hname]
    · simp [hname, Disk.read, Disk.empty]
  have harchive : d.read (.archive "a.json") = some [] := by
    rw [hdone.archive, if_pos List.mem_cons_self, Sample.dropped, Disk.read_writeFile, if_pos rfl]
  -- The second file, with a byte in it.
  have hagain := hrun.next (.drop "a.json" [0]) .drop
  have hlaw := hall Sample.env .empty _ hlogs hagain (fun _ => "") ["a.json"] (Sample.lists_dropped hempty [0])
  have hlogs' := reachable_logs hlogs hagain
  obtain ⟨d', hd', hdone'⟩ := main_done Sample.env (fun _ => "") (Sample.lists_dropped hempty [0]) hlogs'
  rw [Sample.filter_name] at hdone' hlaw
  have hmain : (main Sample.env (fun _ => "") (Sample.dropped d [0]) ["a.json"]).1 = d' := congrArg Prod.fst hd'
  have hkept := ((hdone'.law_iff hlogs').1 (hmain ▸ hlaw)) "a.json" List.mem_cons_self [] (by
    rw [Sample.dropped, Disk.read_writeFile, if_neg (by simp), harchive])
  rw [Sample.dropped, Disk.read_writeFile, if_pos rfl] at hkept
  cases hkept

end Tactix.Mcp
