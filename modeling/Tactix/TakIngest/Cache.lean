import Tactix.Lib.Runs
import Tactix.TakIngest
/-!
# The cache of `tak-ingest-svc`

`GET /messages` loads the messages while its cache is empty, and nobody handles what it throws.
`served_iff`: once there are messages and no load is under way, they stay what they are, and
requests with a text are all answered just when every message has a text.
-/
open Tactix.Js ServiceLib

namespace Tactix.TakIngest

/-- What the service uses of the language besides. -/
structure Language where
  rt : Runtime
  /-- `s.toLowerCase()`. -/
  toLowerCase : String → String
  lower_a : toLowerCase "a" = "a"

/-! ## A request -/

section
variable (lang : Language)

/-- `m.message ? m.message : JSON.stringify(m)`. -/
def target (m : Message) : Option Json :=
  let message := (Json.obj m).get? "message"
  if truthy message then message else some (.str (String.ofList (stringify lang.rt.texts.nums 0 (.obj m))))

/-- `target.toLowerCase().includes(q)`; `none` when it throws. -/
def found (q : String) (m : Message) : Option Bool :=
  match target lang m with
  | some (.str s) => some (decide (q.toList <:+: (lang.toLowerCase s).toList))
  | _ => none

/-- `cache.filter(...)`, whose callback may throw. -/
def filterFound (q : String) : List Message → Option (List Message)
  | [] => some []
  | m :: ms => do
    let keep ← found lang q m
    let rest ← filterFound q ms
    return if keep then m :: rest else rest

/-- The answer to `GET /messages`, given `req.query.q`; `none` when it throws. -/
def getMessages (cache : List Message) (q : Option Json) : Option (List Message) :=
  match orJson q (some (.str "")) with
  | some (.str q) =>
    let q := lang.toLowerCase q
    if q = "" then some cache else filterFound lang q cache
  | _ => none

end

/-! ## The service -/

/-- A request that waits for `ensureCache`, and whether it has loaded what it loads. -/
structure Waiting where
  q : Option Json
  ready : Bool

structure Server where
  cache : List Message
  waiting : Nat → Option Waiting
  /-- A rejection that nobody handled has ended the process. -/
  ended : Bool

def Server.init : Server := ⟨[], fun _ => none, false⟩

inductive ServerAction where
  | request (i : Nat) (q : Option Json)
  | load (i : Nat)
  | reject (i : Nat)
  | resume (i : Nat)

/-- `loadMessages` gives messages of files, whatever these are at the time. -/
inductive ServerStep (lang : Language) (s : Server) : ServerAction → Server → Prop
  | request {i : Nat} {q : Option Json} : s.ended = false → s.waiting i = none → ServerStep lang s (.request i q)
      { s with waiting := Function.update s.waiting i (some ⟨q, decide (s.cache ≠ [])⟩) }
  | load {i : Nat} {q : Option Json} {cache : List Message} : s.ended = false → s.waiting i = some ⟨q, false⟩ →
      (∀ m ∈ cache, ∃ folder bytes, loadOne lang.rt folder bytes = some m) → ServerStep lang s (.load i)
      { s with cache, waiting := Function.update s.waiting i (some ⟨q, true⟩) }
  | reject {i : Nat} {q : Option Json} : s.ended = false → s.waiting i = some ⟨q, false⟩ →
      ServerStep lang s (.reject i) { s with ended := true }
  | resume {i : Nat} {q : Option Json} : s.ended = false → s.waiting i = some ⟨q, true⟩ → ServerStep lang s (.resume i)
      { s with waiting := Function.update s.waiting i none, ended := decide (getMessages lang s.cache q = none) }

/-- The query has at most one `q`, which is a text. -/
def Textual (q : Option Json) : Prop := q = none ∨ ∃ text, q = some (.str text)

def AsksTexts (_ : Server) : ServerAction → Prop
  | .request _ q => Textual q
  | _ => True

/-- The message has a text. -/
def HasText (m : Message) : Prop := ∃ text, (Json.obj m).get? "message" = some (.str text)

/-! ## What is loaded -/

theorem lookup_setEntry (m : Message) (key : String) (v : Json) : (setEntry m key v).lookup key = some v := by
  cases h : (setEntry m key v).lookup key with
  | none =>
    have hmem : (key, v) ∈ setEntry m key v := mem_setEntry.2 (.inl rfl)
    have hne := List.lookup_eq_none_iff.1 h (key, v) hmem
    simp at hne
  | some v' =>
    rcases mem_setEntry.1 (mem_of_lookup h) with he | ⟨-, hne⟩
    · rw [(Prod.mk.inj he).2]
    · exact absurd rfl hne

/-- What is not truthy has been replaced. -/
theorem messageOf_truthy (json : Json) : truthy (some (messageOf json)) = true ∨ messageOf json = .str "" := by
  unfold messageOf
  dsimp only
  generalize orJson (json.get? "message") _ = v
  unfold orJson
  by_cases h : truthy v = true
  · rw [if_pos h]
    cases v with
    | none => cases h
    | some v => exact .inl h
  · rw [if_neg h]
    exact .inr rfl

theorem loadOne_message {rt : Runtime} {folder : String} {bytes : List UInt8} {m : Message} (h : loadOne rt folder bytes = some m) :
    ∃ v, (Json.obj m).get? "message" = some v ∧ (truthy (some v) = true ∨ v = .str "") := by
  unfold loadOne at h
  split at h
  · cases h
  · cases h
  · rename_i json _ _
    cases h
    exact ⟨messageOf json, lookup_setEntry .., messageOf_truthy json⟩

/-- The file of an object. -/
theorem loadOne_object (rt : Runtime) (folder : String) {fields : Message} (h : (Json.obj fields).Distinct) :
    loadOne rt folder (rt.texts.bytes (.obj fields)) =
      some (setEntry (setEntry fields "folder" (.str folder)) "message" (messageOf (.obj fields))) := by
  unfold loadOne
  rw [json_bytes rt.texts h]
  rfl

/-! ## What throws -/

section
variable {lang : Language} {cache : List Message} {q : Option Json}

theorem filterFound_isSome {q : String} : (filterFound lang q cache).isSome ↔ ∀ m ∈ cache, (found lang q m).isSome := by
  induction cache with
  | nil => simp [filterFound]
  | cons m ms ih =>
    rw [filterFound, List.forall_mem_cons, ← ih]
    cases found lang q m with
    | none => simp
    | some keep => cases filterFound lang q ms <;> simp

theorem found_text {q : String} {m : Message} (h : HasText m) : (found lang q m).isSome := by
  obtain ⟨text, htext⟩ := h
  unfold found target
  rw [htext]
  dsimp only
  by_cases ht : truthy (some (.str text)) = true
  · rw [if_pos ht]
    rfl
  · rw [if_neg ht]
    rfl

theorem found_no_text {q : String} {m : Message} {v : Json} (hv : (Json.obj m).get? "message" = some v)
    (htruthy : truthy (some v) = true) (h : ¬ HasText m) : found lang q m = none := by
  unfold found target
  rw [hv]
  dsimp only
  rw [if_pos htruthy]
  cases v with
  | str text => exact absurd ⟨text, hv⟩ h
  | _ => rfl

/-- With texts only, a request for a text is answered. -/
theorem getMessages_answers (hq : Textual q) (h : ∀ m ∈ cache, HasText m) : getMessages lang cache q ≠ none := by
  have htext : ∃ text, orJson q (some (.str "")) = some (.str text) := by
    rcases hq with rfl | ⟨text, rfl⟩
    · exact ⟨"", rfl⟩
    · unfold orJson
      split
      · exact ⟨text, rfl⟩
      · exact ⟨"", rfl⟩
  obtain ⟨text, htext⟩ := htext
  unfold getMessages
  rw [htext]
  dsimp only
  split
  · simp
  · exact Option.isSome_iff_ne_none.1 (filterFound_isSome.2 fun m hm => found_text (h m hm))

/-- A search comes upon the message that has no text. -/
theorem getMessages_throws {m : Message} (hm : m ∈ cache) (hno : ¬ HasText m)
    (hload : ∃ folder bytes, loadOne lang.rt folder bytes = some m) : getMessages lang cache (some (.str "a")) = none := by
  obtain ⟨folder, bytes, hload⟩ := hload
  obtain ⟨v, hv, htruthy | rfl⟩ := loadOne_message hload
  · have hnone : ¬ (filterFound lang "a" cache).isSome := by
      rw [filterFound_isSome]
      intro hall
      have hsome := hall m hm
      rw [found_no_text hv htruthy hno] at hsome
      cases hsome
    unfold getMessages
    have hq : orJson (some (.str "a")) (some (.str "")) = some (.str "a") := rfl
    rw [hq]
    dsimp only
    rw [lang.lower_a, if_neg (by decide)]
    exact Option.not_isSome_iff_eq_none.1 hnone
  · exact absurd ⟨"", hv⟩ hno

end

/-! ## What a step keeps -/

/-- The messages are of files, and most indices are free. -/
structure Loaded (lang : Language) (s : Server) : Prop where
  files : ∀ m ∈ s.cache, ∃ folder bytes, loadOne lang.rt folder bytes = some m
  free : ∃ n, ∀ i, n ≤ i → s.waiting i = none

/-- There are messages, and nobody is loading others. -/
structure Settled (s : Server) : Prop where
  cache : s.cache ≠ []
  ready : ∀ i w, s.waiting i = some w → w.ready = true

/-- Everyone who waits has asked for a text. -/
def Textuals (s : Server) : Prop := ∀ i w, s.waiting i = some w → Textual w.q

section
variable {lang : Language} {s s' : Server} {a : ServerAction}

/-- Who waits afterwards is the new one or has waited before. -/
theorem waiting_update {waiting : Nat → Option Waiting} {i j : Nat} {v : Option Waiting} {w : Waiting}
    (h : Function.update waiting i v j = some w) : v = some w ∨ waiting j = some w := by
  by_cases hij : j = i
  · subst hij
    rw [Function.update_self] at h
    exact .inl h
  · rw [Function.update_of_ne hij] at h
    exact .inr h

theorem free_update {waiting : Nat → Option Waiting} (h : ∃ n, ∀ i, n ≤ i → waiting i = none) (i : Nat) (w : Option Waiting) :
    ∃ n, ∀ j, n ≤ j → Function.update waiting i w j = none := by
  obtain ⟨n, hn⟩ := h
  refine ⟨max n (i + 1), fun j hj => ?_⟩
  rw [Function.update_of_ne (by omega)]
  exact hn j (by omega)

theorem Loaded.next (h : Loaded lang s) (hstep : ServerStep lang s a s') : Loaded lang s' := by
  cases hstep with
  | request => exact ⟨h.files, free_update h.free ..⟩
  | load _ _ hfiles => exact ⟨hfiles, free_update h.free ..⟩
  | reject => exact ⟨h.files, h.free⟩
  | resume => exact ⟨h.files, free_update h.free ..⟩

theorem reachable_loaded (h : Reachable (ServerStep lang) .init s) : Loaded lang s :=
  h.inv ⟨fun _ hm => absurd hm List.not_mem_nil, 0, fun _ _ => rfl⟩ fun _ _ _ hs hstep => hs.next hstep

theorem Settled.next (h : Settled s) (hstep : ServerStep lang s a s') : Settled s' ∧ s'.cache = s.cache := by
  cases hstep with
  | request =>
    refine ⟨⟨h.cache, fun i w hw => ?_⟩, rfl⟩
    rcases waiting_update hw with hw | hw
    · cases hw
      exact decide_eq_true h.cache
    · exact h.ready i w hw
  | load _ hw _ => cases h.ready _ _ hw
  | reject _ hw => cases h.ready _ _ hw
  | resume =>
    refine ⟨⟨h.cache, fun i w hw => ?_⟩, rfl⟩
    rcases waiting_update hw with hw | hw
    · cases hw
    · exact h.ready i w hw

theorem Settled.run (h : Settled s) (hrun : Reachable (ServerStep lang) s s') : Settled s' ∧ s'.cache = s.cache := by
  induction hrun with
  | refl => exact ⟨h, rfl⟩
  | step _ hstep ih =>
    obtain ⟨hs, hcache⟩ := ih
    obtain ⟨hs', hcache'⟩ := hs.next hstep
    exact ⟨hs', hcache'.trans hcache⟩

/-- A step of a service whose messages all have texts. -/
theorem next_goes_on (h : Settled s) (htexts : Textuals s) (hgoes : s.ended = false) (hall : ∀ m ∈ s.cache, HasText m)
    (hasks : AsksTexts s a) (hstep : ServerStep lang s a s') : Textuals s' ∧ s'.ended = false := by
  cases hstep with
  | request =>
    refine ⟨fun i w hw => ?_, hgoes⟩
    rcases waiting_update hw with hw | hw
    · cases hw
      exact hasks
    · exact htexts i w hw
  | load _ hw _ => cases h.ready _ _ hw
  | reject _ hw => cases h.ready _ _ hw
  | resume _ hw =>
    refine ⟨fun i w hw' => ?_, decide_eq_false (getMessages_answers (htexts _ _ hw) hall)⟩
    rcases waiting_update hw' with hw' | hw'
    · cases hw'
    · exact htexts i w hw'

theorem run_goes_on (h : Settled s) (htexts : Textuals s) (hgoes : s.ended = false) (hall : ∀ m ∈ s.cache, HasText m)
    (hrun : Reachable (Guarded AsksTexts (ServerStep lang)) s s') : Textuals s' ∧ s'.ended = false := by
  induction hrun with
  | refl => exact ⟨htexts, hgoes⟩
  | step hrun hstep ih =>
    obtain ⟨hs, hcache⟩ := h.run hrun.forget
    exact next_goes_on hs ih.1 ih.2 (hcache ▸ hall) hstep.1 hstep.2

end

/-- Once there are messages and nobody is loading others, they stay the messages in every run; and no request for a
text, and none without one, ever ends the process just when every message has a text. -/
theorem served_iff (lang : Language) {s : Server} (h : Reachable (ServerStep lang) .init s) (hsettled : Settled s)
    (htexts : Textuals s) (hgoes : s.ended = false) :
    (∀ s', Reachable (ServerStep lang) s s' → s'.cache = s.cache) ∧
      ((∀ s', Reachable (Guarded AsksTexts (ServerStep lang)) s s' → s'.ended = false) ↔ ∀ m ∈ s.cache, HasText m) := by
  refine ⟨fun s' hrun => (hsettled.run hrun).2, fun hall => ?_, fun hall s' hrun => ?_⟩
  · intro m hm
    by_contra hno
    have hloaded := reachable_loaded h
    obtain ⟨i, hi⟩ := hloaded.free
    let asked : Server := { s with waiting := Function.update s.waiting i (some ⟨some (.str "a"), true⟩) }
    have hready : decide (s.cache ≠ []) = true := decide_eq_true hsettled.cache
    have hasked : ServerStep lang s (.request i (some (.str "a"))) asked := by
      have hstep := @ServerStep.request lang s i (some (.str "a")) hgoes (hi i (Nat.le_refl i))
      rwa [hready] at hstep
    have hrun := (Reachable.refl.nextGuarded (C := AsksTexts) (.request i (some (.str "a"))) (.inr ⟨"a", rfl⟩) hasked)
    have hends := hall _ (hrun.nextGuarded (.resume i) trivial (.resume hgoes (Function.update_self ..)))
    rw [getMessages_throws hm hno (hloaded.files m hm)] at hends
    cases hends
  · exact (run_goes_on hsettled htexts hgoes hall hrun).2

/-! ## A message that is a number -/

namespace Sample

def lang : Language := ⟨plainRuntime, id, rfl⟩

def file : Json := .obj [("message", .num 7)]

def message : Message := [("message", .num 7), ("folder", .str "NATO")]

theorem file_loads : loadOne lang.rt "NATO" (lang.rt.texts.bytes file) = some message := by
  have hdistinct : file.Distinct := distinct_obj.2 ⟨by simp, by simp [Json.Distinct]⟩
  have hmessage : messageOf file = .num 7 := rfl
  refine (loadOne_object lang.rt "NATO" hdistinct).trans ?_
  rw [file] at hmessage
  rw [hmessage]
  simp [setEntry, message]

end Sample

/-- With one such file some search ends the process. -/
theorem served_iff_sample : ∃ s, Reachable (ServerStep Sample.lang) .init s ∧ s.ended = false ∧ s.cache = [Sample.message] ∧
    ∃ s', Reachable (Guarded AsksTexts (ServerStep Sample.lang)) s s' ∧ s'.ended = true := by
  let loading : Server := ⟨[], Function.update (fun _ => none) 0 (some ⟨none, false⟩), false⟩
  let loaded : Server := ⟨[Sample.message], Function.update loading.waiting 0 (some ⟨none, true⟩), false⟩
  let served : Server := ⟨[Sample.message], Function.update loaded.waiting 0 none, false⟩
  have hrequest : ServerStep Sample.lang .init (.request 0 none) loading := .request rfl rfl
  have hload : ServerStep Sample.lang loading (.load 0) loaded := .load rfl rfl fun m hm => by
    rw [List.mem_singleton.1 hm]
    exact ⟨_, _, Sample.file_loads⟩
  have hanswers : getMessages Sample.lang loaded.cache none = some [Sample.message] := rfl
  have hresume : ServerStep Sample.lang loaded (.resume 0) served := by
    have hstep := @ServerStep.resume Sample.lang loaded 0 none rfl rfl
    rwa [hanswers] at hstep
  have hrun : Reachable (ServerStep Sample.lang) .init served := .step (.step (.step .refl hrequest) hload) hresume
  have hnobody : served.waiting = fun _ => none := by
    funext i
    by_cases hi : i = 0 <;> simp [served, loaded, loading, hi]
  have hnone : ∀ i w, served.waiting i ≠ some w := by simp [hnobody]
  have hiff := (served_iff Sample.lang hrun ⟨List.cons_ne_nil _ _, fun i w hw => absurd hw (hnone i w)⟩
    (fun i w hw => absurd hw (hnone i w)) rfl).2
  refine ⟨served, hrun, rfl, rfl, ?_⟩
  by_contra hnot
  have hall : ∀ s', Reachable (Guarded AsksTexts (ServerStep Sample.lang)) served s' → s'.ended = false :=
    fun s' hs' => Bool.eq_false_iff.2 fun hended => hnot ⟨s', hs', hended⟩
  obtain ⟨text, htext⟩ := hiff.1 hall Sample.message (List.mem_singleton_self _)
  cases htext

end Tactix.TakIngest
