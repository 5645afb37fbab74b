import Tactix.Lib.Lines
import Tactix.ZtAudit
/-!
# `zt-audit` as a gate

All the checks of the tool over a checkout, and the exit code with `--ci`. `ci_passes_iff` says
what of the tracked files decides it: `tools/zt-audit.ts` is one of them, and holds the markers
that it looks for. `env_unused_never` is about the check that never reports anything.
-/
open Tactix.Js ServiceLib

namespace Tactix.ZtAudit

/-- What `git ls-files` lists, and what `readFile` gives of each file. -/
structure Checkout where
  gitFiles : List String
  read : String → List Char

/-- An issue of any check; not all have a line. -/
structure Finding where
  severity : Severity
  kind : String
  file : String
  line : Option Nat
  message : String

/-! ## The files that are read -/

def textExtensions : List String := [".ts", ".tsx", ".js", ".json", ".md", ".env", ".sh", ".yml", ".yaml"]

/-- The last part of a path, backwards. -/
def baseReversed (path : String) : List Char := path.toList.reverse.takeWhile (· ≠ '/')

/-- `path.extname`: from the last dot of the last part, unless it is the first character there. No file is called `..`. -/
def extname (path : String) : String :=
  let base := baseReversed path
  match base.dropWhile (· ≠ '.') with
  | _ :: _ :: _ => String.ofList ('.' :: (base.takeWhile (· ≠ '.')).reverse)
  | _ => ""

def isText (file : String) : Bool := extname file ∈ textExtensions

/-- `fileContents.get(file) || ''`. -/
def Checkout.content (c : Checkout) (file : String) : List Char :=
  if file ∈ c.gitFiles && isText file then c.read file else []

/-! ## The checks of a file -/

def markers : List (List Char) :=
  ["TODO".toList, "FIXME".toList, "HACK".toList, "XXX".toList, "STUB".toList, "TBD".toList, "PENDING".toList]

/-- `markerRe.test(text)`. -/
def isMarked (text : List Char) : Bool := markers.any fun w => decide (w <:+: text)

def markerIssues (file : String) (content : List Char) : List Finding :=
  (lines content).zipIdx.filterMap fun (line, idx) =>
    if isMarked line then some ⟨.high, "marker", file, some (idx + 1), trim (String.ofList line)⟩ else none

/-- `/\.on\(['"]connection['"]/`. -/
def connections : List (List Char) :=
  [".on('connection'".toList, ".on('connection\"".toList, ".on(\"connection'".toList, ".on(\"connection\"".toList]

def wsConn (text : List Char) : Bool := connections.any fun w => decide (w <:+: text)

/-- `/token|Sec-WebSocket-Protocol/.test(content)`. -/
def mentionsToken (content : List Char) : Bool :=
  decide ("token".toList <:+: content) || decide ("Sec-WebSocket-Protocol".toList <:+: content)

def wsIssues (file : String) (content : List Char) : List Finding :=
  if wsConn content && !mentionsToken content then
    [⟨.high, "ws-auth", file, some (((lines content).findIdx? wsConn).elim 0 (· + 1)),
      "WebSocket connection handler lacks token verification"⟩]
  else []

def fileIssues (file : String) (content : List Char) : List Finding :=
  markerIssues file content ++
    (routeIssues file content).map (fun i => ⟨i.severity, i.kind, i.file, some i.line, i.message⟩) ++ wsIssues file content

/-! ## The checks of a service -/

/-- `f.split('/')[1]`. -/
def serviceOf (file : String) : String := ((split file '/')[1]?).getD ""

def Checkout.serviceDirs (c : Checkout) : List String :=
  ((c.gitFiles.filter (startsWith · "services/")).map serviceOf).eraseDups

def Checkout.svcContent (c : Checkout) (svc : String) : List Char :=
  List.intercalate ['\n'] ((c.gitFiles.filter (startsWith · ("services/" ++ svc ++ "/"))).map c.content)

/-- `new RegExp(w, 'i').test(text)` of a word of small letters. -/
def mentions (w : String) (text : List Char) : Bool := decide (w.toList <:+: text.map Char.toLower)

def Checkout.serviceIssues (c : Checkout) (svc : String) : List Finding :=
  let svcContent := c.svcContent svc
  let file := "services/" ++ svc
  (if "/health".toList <:+: svcContent then [] else [⟨.high, "health", file, none, "Missing /health endpoint"⟩]) ++
    (if "openapi.json".toList <:+: svcContent then []
      else [⟨.high, "openapi", file, none, "Missing /openapi.json exporter"⟩]) ++
    if mentions "port" svcContent && mentions "mode" svcContent then []
    else [⟨.info, "startup-log", file, none, "Service may not log startup summary (port/mode)"⟩]

/-! ## The check of the variables -/

def envVars (content : List Char) : List String :=
  (((lines content).map fun l => trim (String.ofList l)).filter fun l => l ≠ "" && !startsWith l "#" && '=' ∈ l.toList).map
    fun l => String.ofList (l.toList.takeWhile (· ≠ '='))

-- `new RegExp` with a variable in it, and its `test`.
variable (test : String → List Char → Bool)

def Checkout.envIssues (c : Checkout) : List Finding :=
  let allText := List.intercalate ['\n'] ((c.gitFiles.filter isText).eraseDups.map c.content)
  (c.gitFiles.filter fun f => ".env.example".toList.isSuffixOf f.toList).flatMap fun envFile =>
    ((envVars (c.content envFile)).filter fun v => !test v allText).map fun v =>
      ⟨.info, "env-unused", envFile, none, "Variable not referenced: " ++ v⟩

/-! ## The report -/

def Checkout.issues (c : Checkout) : List Finding :=
  (c.gitFiles.filter isText).flatMap (fun f => fileIssues f (c.read f)) ++ c.serviceDirs.flatMap c.serviceIssues ++ c.envIssues test

def Finding.isHigh (i : Finding) : Bool :=
  match i.severity with
  | .high => true
  | .info => false

/-- `process.exitCode`. -/
def Checkout.exitCode (ci : Bool) (c : Checkout) : Nat := if ci && (c.issues test).any Finding.isHigh then 1 else 0

/-! ## What decides it -/

/-- A file without a marker, without a route that `requireAuth` is missing from, and with a token where there are connections. -/
structure Clean (content : List Char) : Prop where
  markers : ∀ w ∈ markers, ¬ w <:+: content
  routes : Quiet content
  ws : (∃ w ∈ connections, w <:+: content) → "token".toList <:+: content ∨ "Sec-WebSocket-Protocol".toList <:+: content

/-- A text file of the service holds the word. -/
def Checkout.Has (c : Checkout) (svc : String) (w : List Char) : Prop :=
  ∃ f ∈ c.gitFiles, startsWith f ("services/" ++ svc ++ "/") = true ∧ isText f = true ∧ w <:+: c.read f

section
variable {c : Checkout} {file svc : String} {content : List Char}

/-! ## A file -/

theorem isMarked_iff {text : List Char} : isMarked text = true ↔ ∃ w ∈ markers, w <:+: text := by
  simp [isMarked, List.any_eq_true]

theorem wsConn_iff {text : List Char} : wsConn text = true ↔ ∃ w ∈ connections, w <:+: text := by
  simp [wsConn, List.any_eq_true]

/-- The words stand within a line. -/
theorem words_plain : ∀ w ∈ markers ++ connections ++ ["/health".toList, "openapi.json".toList],
    w ≠ [] ∧ '\n' ∉ w ∧ '\r' ∉ w := by decide

/-- A line has a marker just when the text has one. -/
theorem markerIssues_iff : (∃ i ∈ markerIssues file content, i.isHigh = true) ↔ ∃ w ∈ markers, w <:+: content := by
  have hlines : (∃ i ∈ markerIssues file content, i.isHigh = true) ↔ ∃ l ∈ lines content, isMarked l = true := by
    unfold markerIssues
    constructor
    · rintro ⟨i, hi, -⟩
      obtain ⟨⟨l, idx⟩, hl, heq⟩ := List.mem_filterMap.1 hi
      dsimp only at heq
      split at heq
      · exact ⟨l, List.fst_mem_of_mem_zipIdx hl, ‹_›⟩
      · cases heq
    · rintro ⟨l, hl, hmarked⟩
      obtain ⟨idx, hidx, rfl⟩ := List.mem_iff_getElem.1 hl
      refine ⟨_, List.mem_filterMap.2 ⟨((lines content)[idx], idx), ?_, if_pos hmarked⟩, rfl⟩
      exact List.mem_zipIdx_iff_getElem?.2 (List.getElem?_eq_getElem hidx)
  rw [hlines]
  simp only [isMarked_iff]
  constructor
  · rintro ⟨l, hl, w, hw, hin⟩
    obtain ⟨hne, hn, hr⟩ := words_plain w (by simp [hw])
    exact ⟨w, hw, (infix_lines_iff hne hn hr).2 ⟨l, hl, hin⟩⟩
  · rintro ⟨w, hw, hin⟩
    obtain ⟨hne, hn, hr⟩ := words_plain w (by simp [hw])
    obtain ⟨l, hl, hin⟩ := (infix_lines_iff hne hn hr).1 hin
    exact ⟨l, hl, w, hw, hin⟩

theorem routeIssues_iff : routeIssues file content ≠ [] ↔ ¬ Quiet content := by
  rw [quiet_iff, routeIssues, foundAt, ne_eq, List.map_eq_nil_iff, List.map_eq_nil_iff]

theorem fileIssues_high : (∃ i ∈ fileIssues file content, i.isHigh = true) ↔ ¬ Clean content := by
  have hclean : Clean content ↔ (∀ w ∈ markers, ¬ w <:+: content) ∧ Quiet content ∧
      ((∃ w ∈ connections, w <:+: content) → "token".toList <:+: content ∨ "Sec-WebSocket-Protocol".toList <:+: content) :=
    ⟨fun h => ⟨h.markers, h.routes, h.ws⟩, fun h => ⟨h.1, h.2.1, h.2.2⟩⟩
  have hroutes : (∃ i ∈ (routeIssues file content).map (fun i => (⟨i.severity, i.kind, i.file, some i.line, i.message⟩ : Finding)),
      i.isHigh = true) ↔ routeIssues file content ≠ [] := by
    constructor
    · rintro ⟨i, hi, -⟩ hnil
      rw [hnil] at hi
      cases hi
    · intro hne
      obtain ⟨i, hi⟩ := List.exists_mem_of_ne_nil _ hne
      refine ⟨_, List.mem_map_of_mem hi, ?_⟩
      obtain ⟨m, -, rfl⟩ := List.mem_map.1 hi
      rfl
  have hws : (∃ i ∈ wsIssues file content, i.isHigh = true) ↔ wsConn content = true ∧ mentionsToken content = false := by
    unfold wsIssues
    split
    · rename_i h
      rw [Bool.and_eq_true, Bool.not_eq_true'] at h
      exact ⟨fun _ => h, fun _ => ⟨_, List.mem_singleton_self _, rfl⟩⟩
    · rename_i h
      rw [Bool.and_eq_true, Bool.not_eq_true'] at h
      exact ⟨fun ⟨i, hi, _⟩ => absurd hi List.not_mem_nil, fun h' => absurd h' h⟩
  unfold fileIssues
  simp only [List.mem_append, or_and_right, exists_or]
  rw [markerIssues_iff, hroutes, hws, routeIssues_iff, wsConn_iff, hclean]
  simp only [mentionsToken, Bool.or_eq_false_iff, decide_eq_false_iff_not]
  rw [not_and_or, not_and_or, Classical.not_imp, not_or]
  simp only [not_forall, not_not, exists_prop, or_assoc]

theorem fileIssues_kind {i : Finding} (hi : i ∈ fileIssues file content) : i.kind ≠ "env-unused" := by
  rcases List.mem_append.1 hi with hi | hws
  · rcases List.mem_append.1 hi with hmarker | hroute
    · obtain ⟨⟨l, idx⟩, -, heq⟩ := List.mem_filterMap.1 hmarker
      dsimp only at heq
      split at heq
      · cases heq
        simp
      · cases heq
    · obtain ⟨r, hr, rfl⟩ := List.mem_map.1 hroute
      obtain ⟨m, -, rfl⟩ := List.mem_map.1 hr
      simp
  · unfold wsIssues at hws
    split at hws
    · obtain rfl := List.mem_singleton.1 hws
      simp
    · cases hws

/-! ## A service -/

theorem content_iff {w : List Char} (hne : w ≠ []) {f : String} (hf : f ∈ c.gitFiles) :
    w <:+: c.content f ↔ isText f = true ∧ w <:+: c.read f := by
  have hnil : ¬ w <:+: [] := fun h => hne (List.infix_nil.1 h)
  unfold Checkout.content
  cases isText f <;> simp [hf, hnil]

theorem svcContent_iff {w : List Char} (hne : w ≠ []) (hn : '\n' ∉ w) : w <:+: c.svcContent svc ↔ c.Has svc w := by
  unfold Checkout.svcContent Checkout.Has
  rw [infix_intercalate_iff hne hn]
  constructor
  · rintro ⟨l, hl, hin⟩
    obtain ⟨f, hf, rfl⟩ := List.mem_map.1 hl
    obtain ⟨hgit, hstarts⟩ := List.mem_filter.1 hf
    exact ⟨f, hgit, hstarts, (content_iff hne hgit).1 hin⟩
  · rintro ⟨f, hgit, hstarts, hin⟩
    exact ⟨_, List.mem_map_of_mem (List.mem_filter.2 ⟨hgit, hstarts⟩), (content_iff hne hgit).2 hin⟩

theorem serviceIssues_high : (∃ i ∈ c.serviceIssues svc, i.isHigh = true) ↔
    ¬ (c.Has svc "/health".toList ∧ c.Has svc "openapi.json".toList) := by
  obtain ⟨hhealth, hn, -⟩ := words_plain "/health".toList (by simp)
  obtain ⟨hopenapi, hn', -⟩ := words_plain "openapi.json".toList (by simp)
  rw [← svcContent_iff hhealth hn, ← svcContent_iff hopenapi hn', not_and_or]
  unfold Checkout.serviceIssues
  simp only [List.mem_append, or_and_right, exists_or]
  have hone : ∀ {p : Prop} [Decidable p] (i : Finding), (∃ j ∈ if p then [] else [i], j.isHigh = true) ↔ ¬ p ∧ i.isHigh = true := by
    intro p _ i
    by_cases h : p <;> simp [h]
  rw [hone, hone, hone]
  simp [Finding.isHigh]

theorem serviceIssues_kind {i : Finding} (hi : i ∈ c.serviceIssues svc) : i.kind ≠ "env-unused" := by
  unfold Checkout.serviceIssues at hi
  have hone : ∀ {p : Prop} [Decidable p] {j : Finding}, i ∈ (if p then [] else [j]) → i = j := by
    intro p _ j h
    split at h
    · cases h
    · exact List.mem_singleton.1 h
  rcases List.mem_append.1 hi with hi | hlog
  · rcases List.mem_append.1 hi with hhealth | hopenapi
    · simp [hone hhealth]
    · simp [hone hopenapi]
  · simp [hone hlog]

theorem mem_serviceDirs : svc ∈ c.serviceDirs ↔ ∃ f ∈ c.gitFiles, startsWith f "services/" = true ∧ serviceOf f = svc := by
  unfold Checkout.serviceDirs
  rw [List.mem_eraseDups, List.mem_map]
  simp only [List.mem_filter, and_assoc]

/-! ## The exit code -/

theorem envIssues_info (test : String → List Char → Bool) : ¬ ∃ i ∈ c.envIssues test, i.isHigh = true := by
  rintro ⟨i, hi, hhigh⟩
  obtain ⟨f, -, hi⟩ := List.mem_flatMap.1 hi
  obtain ⟨v, -, rfl⟩ := List.mem_map.1 hi
  cases hhigh

theorem exists_high_flatMap {α : Type} (l : List α) (g : α → List Finding) :
    (∃ i ∈ l.flatMap g, i.isHigh = true) ↔ ∃ x ∈ l, ∃ i ∈ g x, i.isHigh = true := by
  constructor
  · rintro ⟨i, hi, hhigh⟩
    obtain ⟨x, hx, hi⟩ := List.mem_flatMap.1 hi
    exact ⟨x, hx, i, hi, hhigh⟩
  · rintro ⟨x, hx, i, hi, hhigh⟩
    exact ⟨i, List.mem_flatMap.2 ⟨x, hx, hi⟩, hhigh⟩

/-- A file that is not clean, or a service that lacks one of the two words. -/
theorem issues_high (test : String → List Char → Bool) : (∃ i ∈ c.issues test, i.isHigh = true) ↔
    (∃ f ∈ c.gitFiles, isText f = true ∧ ¬ Clean (c.read f)) ∨
      ∃ f ∈ c.gitFiles, startsWith f "services/" = true ∧
        ¬ (c.Has (serviceOf f) "/health".toList ∧ c.Has (serviceOf f) "openapi.json".toList) := by
  unfold Checkout.issues
  simp only [List.mem_append, or_and_right, exists_or]
  rw [exists_high_flatMap, exists_high_flatMap, or_iff_left (envIssues_info test)]
  refine or_congr ?_ ?_
  · simp only [fileIssues_high, List.mem_filter, and_assoc]
  · simp only [serviceIssues_high, mem_serviceDirs]
    constructor
    · rintro ⟨svc, ⟨f, hf, hstarts, rfl⟩, hlacks⟩
      exact ⟨f, hf, hstarts, hlacks⟩
    · rintro ⟨f, hf, hstarts, hlacks⟩
      exact ⟨_, ⟨f, hf, hstarts, rfl⟩, hlacks⟩

/-- With `--ci` the tool ends with 0 just when every text file is clean, and for every tracked file under `services/`
a text file of its service holds `/health` and one `openapi.json`. -/
theorem ci_passes_iff (test : String → List Char → Bool) (c : Checkout) : c.exitCode test true = 0 ↔
    (∀ f ∈ c.gitFiles, isText f = true → Clean (c.read f)) ∧
      ∀ f ∈ c.gitFiles, startsWith f "services/" = true →
        c.Has (serviceOf f) "/health".toList ∧ c.Has (serviceOf f) "openapi.json".toList := by
  have hzero : c.exitCode test true = 0 ↔ ¬ ∃ i ∈ c.issues test, i.isHigh = true := by
    unfold Checkout.exitCode
    rw [← List.any_eq_true]
    cases (c.issues test).any Finding.isHigh <;> simp
  rw [hzero, issues_high, not_or]
  refine and_congr ?_ ?_
  · push Not
    exact Iff.rfl
  · constructor
    · intro h f hf hstarts
      by_contra hlacks
      exact h ⟨f, hf, hstarts, hlacks⟩
    · rintro h ⟨f, hf, hstarts, hlacks⟩
      exact hlacks (h f hf hstarts)

/-- The pattern of the markers has them itself. -/
theorem own_text_fails (test : String → List Char → Bool) (hgit : "tools/zt-audit.ts" ∈ c.gitFiles)
    (htext : "/(TODO|FIXME|HACK|XXX|STUB|TBD|PENDING)/".toList <:+: c.read "tools/zt-audit.ts") : c.exitCode test true = 1 := by
  have hhigh : ∃ i ∈ c.issues test, i.isHigh = true := by
    refine (issues_high test).2 (.inl ⟨_, hgit, by decide, fun hclean => ?_⟩)
    have hword : "TODO".toList <:+: "/(TODO|FIXME|HACK|XXX|STUB|TBD|PENDING)/".toList := by decide
    exact hclean.markers "TODO".toList (by simp [markers]) (hword.trans htext)
  unfold Checkout.exitCode
  rw [if_pos (by simpa [List.any_eq_true] using hhigh)]

/-! ## The variables of `.env.example` -/

theorem extname_envExample {f : String} (h : ".env.example".toList.isSuffixOf f.toList = true) : extname f = ".example" := by
  obtain ⟨t, ht⟩ := List.isSuffixOf_iff_suffix.1 h
  have hbase : baseReversed f = "elpmaxe".toList ++ '.' :: ("vne.".toList ++ t.reverse.takeWhile (· ≠ '/')) := by
    unfold baseReversed
    rw [← ht, List.reverse_append]
    rfl
  have hdot : '.' ∉ "elpmaxe".toList := by decide
  unfold extname
  dsimp only
  rw [hbase, takeWhile_cut hdot, dropWhile_cut hdot]
  rfl

theorem envIssues_nil (test : String → List Char → Bool) (c : Checkout) : c.envIssues test = [] := by
  refine List.flatMap_eq_nil_iff.2 fun f hf => ?_
  have hunread : c.content f = [] := by
    unfold Checkout.content isText
    rw [extname_envExample (List.mem_filter.1 hf).2]
    simp [textExtensions]
  rw [hunread]
  rfl

/-- No variable is ever reported: `.env.example` is not read, as its extension is `.example`. -/
theorem env_unused_never (test : String → List Char → Bool) (c : Checkout) :
    (c.issues test).filter (·.kind = "env-unused") = [] := by
  refine List.filter_eq_nil_iff.2 fun i hi => ?_
  rw [decide_eq_true_eq]
  unfold Checkout.issues at hi
  rw [envIssues_nil, List.append_nil] at hi
  rcases List.mem_append.1 hi with hfile | hsvc
  · obtain ⟨f, -, hfile⟩ := List.mem_flatMap.1 hfile
    exact fileIssues_kind hfile
  · obtain ⟨svc, -, hsvc⟩ := List.mem_flatMap.1 hsvc
    exact serviceIssues_kind hsvc

end

end Tactix.ZtAudit
