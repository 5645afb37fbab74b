import Mathlib.Data.Set.Card
import Tactix.Js
import Tactix.Lib.EventLoop
/-!
# Incident messages

`saveDraft`, `submitMessage` and `logWarlog`, on one event loop over the table
`messages`. The `UPDATE` of a submission does not say whether the message was a
draft: `logged_once` says which runs log each message at most once.
-/
open Tactix.Js ServiceLib

namespace Tactix.IncidentSvc.Messages

structure Env where
  WARLOG_URL : Option String
  /-- The UUID a text stands for, as Postgres prints it, `none` when it refuses the text. -/
  uuid : String → Option String

inductive MessageStatus where
  | draft
  | submitted
  deriving DecidableEq

structure Message where
  id : String
  incident_id : Int
  author : String
  content : String
  status : MessageStatus
  created_at : Int

/-- `messages` with its primary key. -/
structure Table where
  rows : List Message
  primary : (rows.map (·.id)).Nodup

inductive Query where
  | insert (id : String) (incidentId : Int) (author content : String) (status : MessageStatus)
  | update (status : MessageStatus) (messageId : String) (incidentId : Int)
  | fetch (url : String) (body : Json)

/-- What is read of a reply; `none` when a statement is rejected. -/
def Query.Reply : Query → Type
  | insert .. => Option Message
  | update .. => Option (Option Message)
  -- Whether the war log has written the entry, which nobody asks.
  | fetch .. => Bool

inductive Error where
  | rejected

abbrev Svc := Prog Unit Query Query.Reply Error

/-- `logWarlog`. Its `catch` has nothing left to do. -/
def logWarlog (env : Env) (author content : String) : Svc Unit :=
  match orString env.WARLOG_URL none with
  | none => return ()
  | some url => do
    let _ ← Prog.ask (.fetch url (.obj [("author", .str author), ("content", .str content)]))
    return ()

/-- `id` is what `randomUUID()` comes to. -/
def saveDraft (id : String) (incidentId : Int) (content author : String) : Svc Message :=
  .await (.insert id incidentId author content .draft) fun
    | some row => .ret row
    | none => .raise .rejected

def submitMessage (env : Env) (incidentId : Int) (messageId : String) : Svc (Option Message) :=
  .await (.update .submitted messageId incidentId) fun
    | none => .raise .rejected
    | some none => .ret none
    | some (some msg) => do
      logWarlog env msg.author msg.content
      return some msg

inductive Call where
  | saveDraft (id : String) (incidentId : Int) (content author : String)
  | submitMessage (incidentId : Int) (messageId : String)

def Call.run (env : Env) : Call → Svc (Option Message)
  | .saveDraft id incidentId content author => do return some (← Messages.saveDraft id incidentId content author)
  | .submitMessage incidentId messageId => Messages.submitMessage env incidentId messageId

/-! ## The table -/

/-- The rows an `UPDATE` finds. -/
def Message.Matches (env : Env) (m : Message) (messageId : String) (incidentId : Int) : Prop :=
  env.uuid messageId = some m.id ∧ m.incident_id = incidentId

/-- The replies of the database and the war log, and the table afterwards. A
statement may be rejected for whatever reason, then without effect. -/
def answers (env : Env) (d : Table) (d' : Table) : (q : Query) → q.Reply → Prop
  | .insert id incidentId author content status, (reply : Option Message) =>
    match reply with
    | none => d' = d
    | some row => env.uuid id = some row.id ∧ row.incident_id = incidentId ∧ row.author = author ∧ row.content = content ∧
        row.status = status ∧ row.id ∉ d.rows.map (·.id) ∧ d'.rows = d.rows ++ [row]
  | .update status messageId incidentId, (reply : Option (Option Message)) =>
    match reply with
    | none => d' = d
    | some none => d' = d ∧ ∀ m ∈ d.rows, ¬ m.Matches env messageId incidentId
    | some (some row) => ∃ m ∈ d.rows, m.Matches env messageId incidentId ∧ row = { m with status } ∧
        d'.rows = d.rows.map fun x => if x.id = m.id then { x with status } else x
  | .fetch .., (_ : Bool) => d' = d

abbrev Entries := Asked Query Query.Reply

abbrev State := Sys Call Unit Table Query Query.Reply Error (Option Message)

abbrev Act := ServiceLib.Action Call Empty Query Query.Reply

/-- Nothing else touches the table. -/
def quiet (_ : Empty) (_ : Unit) (_ : Table) (_ : Unit) (_ : Table) : Prop := False

abbrev MessageStep (env : Env) : State → Act → State → Prop :=
  Step (Call.run env) (fun d q a d' => answers env d d' q a) quiet

/-! ## What is to hold -/

/-- Every message is still there, and its status is what it was or has gone from draft
to submitted. -/
def Forward (d d' : Table) : Prop :=
  ∀ m ∈ d.rows, ∃ m' ∈ d'.rows, m'.id = m.id ∧ (m'.status = m.status ∨ m.status = .draft ∧ m'.status = .submitted)

/-- The call was told that it has submitted this message. -/
def Submits (h : Entries) (id : String) : Prop :=
  ∃ messageId incidentId msg, ⟨.update .submitted messageId incidentId, some (some msg)⟩ ∈ h ∧ msg.id = id

/-- The entries of a message in the war log: which call wrote them, with which of its queries. -/
def entries (s : State) (id : String) : Set (Nat × Nat) :=
  { p | ∃ h url body, s.asked p.1 = some h ∧ Submits h id ∧ h[p.2]? = some ⟨.fetch url body, true⟩ }

/-- With a war log to write to, an `UPDATE` finds a message only while it is a draft. -/
def First (env : Env) (s : State) : Act → Prop
  | .answer _ (.update _ messageId incidentId) _ => orString env.WARLOG_URL none ≠ none →
    ∀ m ∈ s.data.rows, m.Matches env messageId incidentId → m.status = .draft
  | _ => True

/-! ## What a call asks -/

inductive Issues (env : Env) : Call → Entries → Query → Prop
  | insert {id content author : String} {incidentId : Int} :
      Issues env (.saveDraft id incidentId content author) [] (.insert id incidentId author content .draft)
  | update {incidentId : Int} {messageId : String} :
      Issues env (.submitMessage incidentId messageId) [] (.update .submitted messageId incidentId)
  | fetch {incidentId : Int} {messageId url : String} {msg : Message} {body : Json} :
      orString env.WARLOG_URL none = some url → Issues env (.submitMessage incidentId messageId)
        [⟨.update .submitted messageId incidentId, some (some msg)⟩] (.fetch url body)

def messageSpec (env : Env) : Spec Call Unit Query Query.Reply where
  reply _ _ := True
  inv _ := True
  rely _ _ := True
  issue l h _ _ q := Issues env l h q
  rely_refl _ := trivial
  rely_trans _ _ := trivial

/-- Nothing is asked of how a call ends. -/
def Any (_ : Call) (_ : Entries) (_ _ : Unit) (_ : Except Error (Option Message)) : Prop := True

/-- A submission asks for one update, and for one entry when the update has found its message. -/
theorem run_meets (env : Env) : (messageSpec env).Implements Any (Call.run env) := by
  intro l m _
  cases l with
  | saveDraft id incidentId content author =>
    refine ⟨⟨trivial, trivial, .insert⟩, fun a m₁ _ _ _ => ?_⟩
    cases a with
    | none => exact ⟨trivial, trivial, trivial⟩
    | some row => exact ⟨trivial, trivial, trivial⟩
  | submitMessage incidentId messageId =>
    refine ⟨⟨trivial, trivial, .update⟩, fun a m₁ _ _ _ => ?_⟩
    cases a with
    | none => exact ⟨trivial, trivial, trivial⟩
    | some found =>
      cases found with
      | none => exact ⟨trivial, trivial, trivial⟩
      | some msg =>
        refine wp_bind.2 ?_
        unfold logWarlog
        cases hurl : orString env.WARLOG_URL none with
        | none => exact ⟨trivial, trivial, trivial⟩
        | some url => exact ⟨⟨trivial, trivial, .fetch hurl⟩, fun a m₂ _ _ _ => ⟨trivial, trivial, trivial⟩⟩

/-! ## The status -/

theorem Forward.refl (d : Table) : Forward d d := fun m hm => ⟨m, hm, rfl, .inl rfl⟩

theorem Forward.trans {d d' d'' : Table} (h : Forward d d') (h' : Forward d' d'') : Forward d d'' := by
  intro m hm
  obtain ⟨m', hm', hid, hs⟩ := h m hm
  obtain ⟨m'', hm'', hid', hs'⟩ := h' m' hm'
  refine ⟨m'', hm'', hid'.trans hid, ?_⟩
  rcases hs' with hs' | ⟨hd, hs'⟩
  · rw [hs']
    exact hs
  · rcases hs with hs | ⟨-, hs⟩
    · exact .inr ⟨hs ▸ hd, hs'⟩
    · rw [hs] at hd
      cases hd

theorem Forward.submitted {d d' : Table} (h : Forward d d') {id : String}
    (hm : ∃ m ∈ d.rows, m.id = id ∧ m.status = .submitted) : ∃ m ∈ d'.rows, m.id = id ∧ m.status = .submitted := by
  obtain ⟨m, hm, rfl, hs⟩ := hm
  obtain ⟨m', hm', hid, hs' | ⟨hd, -⟩⟩ := h m hm
  · exact ⟨m', hm', hid, hs'.trans hs⟩
  · rw [hs] at hd
    cases hd

section
variable {env : Env} {d d' : Table} {l : Call} {h : Entries}

theorem forward_answer {q : Query} {a : q.Reply} (hq : Issues env l h q) (ha : answers env d d' q a) : Forward d d' := by
  cases hq with
  | insert =>
    cases a with
    | none => exact (show d' = d from ha) ▸ .refl d
    | some row =>
      obtain ⟨-, -, -, -, -, -, hrows⟩ := ha
      exact fun m hm => ⟨m, by rw [hrows]; exact List.mem_append_left _ hm, rfl, .inl rfl⟩
  | update =>
    cases a with
    | none => exact (show d' = d from ha) ▸ .refl d
    | some found =>
      cases found with
      | none => exact ha.1 ▸ .refl d
      | some row =>
        obtain ⟨m, -, -, -, hrows⟩ := ha
        intro x hx
        refine ⟨_, by rw [hrows]; exact List.mem_map_of_mem hx, ?_⟩
        split
        · refine ⟨rfl, ?_⟩
          cases hs : x.status with
          | draft => exact .inr ⟨rfl, rfl⟩
          | submitted => exact .inl rfl
        · exact ⟨rfl, .inl rfl⟩
  | fetch => exact (show d' = d from ha) ▸ .refl d

end

/-! ## The war log -/

/-- The replies a call may have had. -/
inductive History (env : Env) : Entries → Prop
  | start : History env []
  | one {x : (q : Query) × q.Reply} : (∀ url body, x.1 ≠ .fetch url body) → History env [x]
  | logged {messageId url : String} {incidentId : Int} {reply : Option (Option Message)} {body : Json} {written : Bool} :
      orString env.WARLOG_URL none = some url →
      History env [⟨.fetch url body, written⟩, ⟨.update .submitted messageId incidentId, reply⟩]

/-- What a call was told it has submitted is submitted, and with a war log no two calls
were told so of one message. -/
structure Logged (env : Env) (d : Table) (asked : Nat → Option Entries) : Prop where
  history : ∀ i h, asked i = some h → History env h
  submitted : ∀ i h id, asked i = some h → Submits h id → ∃ m ∈ d.rows, m.id = id ∧ m.status = .submitted
  alone : orString env.WARLOG_URL none ≠ none → ∀ i j h h' id, asked i = some h → asked j = some h' → Submits h id →
    Submits h' id → i = j

section
variable {env : Env} {d d' : Table} {asked : Nat → Option Entries} {i : Nat} {h h' : Entries}

/-- A reply that tells its call of no message it had not been told of. -/
theorem Logged.keep (hl : Logged env d asked) (hd : Forward d d') (hhist : History env h')
    (hold : ∀ id, Submits h' id → ∃ h, asked i = some h ∧ Submits h id) :
    Logged env d' (Function.update asked i (some h')) := by
  have hsub : ∀ j h'' id, Function.update asked i (some h') j = some h'' → Submits h'' id →
      ∃ h₀, asked j = some h₀ ∧ Submits h₀ id := by
    intro j h'' id hj hs
    rcases update_cases hj with ⟨rfl, rfl⟩ | ⟨-, hj⟩
    · exact hold id hs
    · exact ⟨h'', hj, hs⟩
  refine ⟨update_forall hhist fun j t _ hj => hl.history j t hj, fun j h'' id hj hs => ?_, fun hurl j k h₁ h₂ id hj hk h1 h2 => ?_⟩
  · obtain ⟨h₀, hj, hs⟩ := hsub j h'' id hj hs
    exact hd.submitted (hl.submitted j h₀ id hj hs)
  · obtain ⟨h₃, hj, h1⟩ := hsub j h₁ id hj h1
    obtain ⟨h₄, hk, h2⟩ := hsub k h₂ id hk h2
    exact hl.alone hurl j k h₃ h₄ id hj hk h1 h2

/-- A call is told that it has submitted a message that was a draft. -/
theorem Logged.submit (hl : Logged env d asked) (hd : Forward d d') {messageId : String} {incidentId : Int} {msg : Message}
    (hnew : msg ∈ d'.rows ∧ msg.status = .submitted)
    (hdraft : orString env.WARLOG_URL none ≠ none → ¬ ∃ m ∈ d.rows, m.id = msg.id ∧ m.status = .submitted) :
    Logged env d' (Function.update asked i (some [⟨.update .submitted messageId incidentId, some (some msg)⟩])) := by
  have hid : ∀ id, Submits [⟨.update .submitted messageId incidentId, some (some msg)⟩] id → id = msg.id := by
    rintro id ⟨m', inc', msg', hm, rfl⟩
    cases List.mem_singleton.1 hm
    rfl
  refine ⟨update_forall (.one fun _ _ => by simp) fun j t _ hj => hl.history j t hj, ?_, ?_⟩
  · intro j h'' id hj hs
    rcases update_cases hj with ⟨rfl, rfl⟩ | ⟨-, hj⟩
    · exact ⟨msg, hnew.1, (hid id hs).symm, hnew.2⟩
    · exact hd.submitted (hl.submitted j h'' id hj hs)
  · intro hurl j k h₁ h₂ id hj hk h1 h2
    rcases update_cases hj with ⟨rfl, rfl⟩ | ⟨-, hold⟩ <;> rcases update_cases hk with ⟨rfl, rfl⟩ | ⟨-, hold'⟩
    · rfl
    · exact absurd (hl.submitted k h₂ _ hold' (hid id h1 ▸ h2)) (hdraft hurl)
    · exact absurd (hl.submitted j h₁ _ hold (hid id h2 ▸ h1)) (hdraft hurl)
    · exact hl.alone hurl j k h₁ h₂ id hold hold' h1 h2

end

theorem logged_answer {env : Env} {s : State} {l : Call} {h : Entries} {i : Nat} {q : Query} {a : q.Reply} {d : Table}
    (hl : Logged env s.data s.asked) (hi : s.asked i = some h) (hq : Issues env l h q) (ha : answers env s.data d q a)
    (hf : First env s (.answer i q a)) : Logged env d (Function.update s.asked i (some (⟨q, a⟩ :: h))) := by
  have hd := forward_answer hq ha
  have hno : ∀ {x : (q : Query) × q.Reply} {id : String},
      (∀ messageId incidentId msg, x ≠ ⟨.update .submitted messageId incidentId, some (some msg)⟩) → ¬ Submits [x] id := by
    rintro x id hx ⟨messageId, incidentId, msg, hm, -⟩
    exact hx _ _ _ (List.mem_singleton.1 hm).symm
  cases hq with
  | insert => exact hl.keep hd (.one fun _ _ => by simp) fun id hs => absurd hs (hno fun _ _ _ he => by cases he)
  | update =>
    cases a with
    | none => exact hl.keep hd (.one fun _ _ => by simp) fun id hs => absurd hs (hno fun _ _ _ he => by cases he)
    | some found =>
      cases found with
      | none => exact hl.keep hd (.one fun _ _ => by simp) fun id hs => absurd hs (hno fun _ _ _ he => by cases he)
      | some row =>
        obtain ⟨m, hm, hmatch, rfl, hrows⟩ := ha
        refine hl.submit hd ⟨?_, rfl⟩ fun hurl ⟨m', hm', hid, hs⟩ => ?_
        · rw [hrows]
          exact List.mem_map.2 ⟨m, hm, by simp⟩
        · -- The row that was found is the one under this id.
          obtain rfl := List.inj_on_of_nodup_map s.data.primary hm' hm hid
          rw [hf hurl m' hm hmatch] at hs
          cases hs
  | fetch hurl =>
    refine hl.keep hd (.logged hurl) fun id hs => ⟨_, hi, ?_⟩
    obtain ⟨messageId, incidentId, msg, hmem, rfl⟩ := hs
    exact ⟨messageId, incidentId, msg, (List.mem_cons.1 hmem).resolve_left (fun he => by cases he), rfl⟩

/-- Under the invariant a message has one entry at most. -/
theorem Logged.entries_le (env : Env) {s : State} (hl : Logged env s.data s.asked) (id : String) :
    (entries s id).encard ≤ 1 := by
  rw [Set.encard_le_one_iff]
  have hfirst : ∀ p ∈ entries s id, p.2 = 0 ∧ orString env.WARLOG_URL none ≠ none := by
    rintro ⟨i, n⟩ ⟨h, url, body, hi, -, hn⟩
    cases hl.history i h hi with
    | start => cases hn
    | one hx =>
      cases n with
      | zero => exact absurd (congrArg Sigma.fst (Option.some.inj hn)) (hx url body)
      | succ n => cases hn
    | logged hurl =>
      rcases n with _ | _ | n
      · exact ⟨rfl, by simp [hurl]⟩
      · cases hn
      · cases hn
  rintro ⟨i, n⟩ ⟨j, m⟩ hp hp'
  obtain ⟨hn, hurl⟩ := hfirst _ hp
  obtain ⟨hm, -⟩ := hfirst _ hp'
  obtain ⟨h, -, -, hi, hs, -⟩ := hp
  obtain ⟨h', -, -, hj, hs', -⟩ := hp'
  exact Prod.ext (hl.alone hurl i j h h' id hi hj hs hs') (hn.trans hm.symm)

/-! ## Runs -/

theorem forward_run {env : Env} {s s' : State} (hm : s.Meets (messageSpec env) Any) (h : Reachable (MessageStep env) s s') :
    s'.Meets (messageSpec env) Any ∧ Forward s.data s'.data := by
  refine run_inv (C := fun _ _ => True) (I := fun s' => Forward s.data s'.data) (run_meets env)
    (fun _ _ _ _ _ => trivial) (fun o => o.elim) hm (.refl _) ?_ (h.guarded fun _ _ => trivial)
  intro t a t' hm hf _ hc
  refine hc.asked_inv (P := fun d _ => Forward s.data d) hm hf (fun _ _ => hf) ?_ (fun o => o.elim)
  rintro i th q r d m₀ m₁ rfl hi hq ha
  exact hf.trans (forward_answer hq ha)

/-- A status only goes from draft to submitted, in every run; and a message has one war
log entry at most in every run in which, with a war log, no update finds a message
that was submitted before. -/
theorem logged_once (env : Env) (d : Table) :
    (∀ s s', Reachable (MessageStep env) (.init () d) s → Reachable (MessageStep env) s s' → Forward s.data s'.data) ∧
    ∀ s, Reachable (Guarded (First env) (MessageStep env)) (.init () d) s → ∀ id, (entries s id).encard ≤ 1 := by
  constructor
  · intro s s' h h'
    exact (forward_run (forward_run (Sys.init_meets trivial) h).1 h').2
  · intro s h
    have hinit : Logged env d (Sys.asked (.init () d : State)) :=
      ⟨fun _ _ hi => (by cases hi), fun _ _ _ hi => (by cases hi), fun _ _ _ _ _ _ hi => (by cases hi)⟩
    refine fun id => Logged.entries_le env (run_inv (C := First env) (I := fun s => Logged env s.data s.asked)
      (run_meets env) (fun _ _ _ _ _ => trivial) (fun o => o.elim) (Sys.init_meets trivial) hinit ?_ h).2 id
    intro t a t' hm hl hf hc
    refine hc.asked_inv (P := fun d asked => Logged env d asked) hm hl ?_ ?_ (fun o => o.elim)
    · exact fun i _ => hl.keep (.refl _) .start fun id ⟨_, _, _, hm, _⟩ => by cases hm
    · rintro i th q r d m₀ m₁ rfl hi hq ha
      exact logged_answer hl (by simp [Sys.asked, hi]) hq ha hf

/-! ## A message that is submitted once, and one that is submitted twice -/

namespace Sample

def env : Env := ⟨some "http://warlog-svc:3002/warlog", some⟩

def draft : Message := ⟨"m1", 7, "ana", "Bridge closed", .draft, 0⟩

def sent : Message := { draft with status := .submitted }

/-- The table before and after the submission. -/
def before : Table := ⟨[draft], by decide⟩

def after : Table := ⟨[sent], by decide⟩

def submission : Query := .update .submitted "m1" 7

/-- The history of a submission that the war log has written. -/
def logged : Entries :=
  [⟨.fetch "http://warlog-svc:3002/warlog" (.obj [("author", .str "ana"), ("content", .str "Bridge closed")]), true⟩,
    ⟨submission, some (some sent)⟩]

theorem first : answers env before after submission (some (some sent)) :=
  ⟨draft, by simp [before], ⟨rfl, rfl⟩, rfl, rfl⟩

theorem again : answers env after after submission (some (some sent)) :=
  ⟨sent, by simp [after], ⟨rfl, rfl⟩, rfl, rfl⟩

theorem logged_submits : Submits logged "m1" := ⟨"m1", 7, sent, by simp [logged, submission], rfl⟩

end Sample

/-- Ana submits her draft: it goes forward, and the war log has one entry of it. -/
theorem logged_once_sample : ∃ s : State, s.data = Sample.after ∧ Forward Sample.before s.data ∧
    (0, 0) ∈ entries s "m1" ∧ (entries s "m1").encard ≤ 1 := by
  have h0 : Reachable (Guarded (First Sample.env) (MessageStep Sample.env)) (.init () Sample.before : State)
      (.init () Sample.before) := .refl
  have h1 := reach_start h0 trivial (i := 0) (l := .submitMessage 7 "m1") rfl rfl
  have hdraft : ∀ m ∈ Sample.before.rows, m.status = .draft := by simp [Sample.before, Sample.draft]
  have h2 := reach_answer h1 (i := 0) (q := Sample.submission) (by exact fun _ m hm _ => hdraft m hm) rfl Sample.first
  have h3 := reach_resume h2 (i := 0) (by trivial) rfl rfl
  have h4 := reach_answer h3 (i := 0) (a := true) (by trivial) rfl rfl
  exact ⟨_, rfl, (logged_once Sample.env Sample.before).1 _ _ .refl h4.forget,
    ⟨Sample.logged, _, _, rfl, Sample.logged_submits, rfl⟩, (logged_once Sample.env Sample.before).2 _ h4 "m1"⟩

/-- The second submission logs the message again. -/
theorem logged_twice : ¬ ∀ (env : Env) (d : Table) (s : State), Reachable (MessageStep env) (.init () d) s →
    ∀ id, (entries s id).encard ≤ 1 := by
  intro hall
  have h0 : Reachable (Guarded (fun _ _ => True) (MessageStep Sample.env)) (.init () Sample.before : State)
      (.init () Sample.before) := .refl
  -- Ana submits it, and the war log has its entry;
  have h1 := reach_start h0 trivial (i := 0) (l := .submitMessage 7 "m1") rfl rfl
  have h2 := reach_resume (reach_answer h1 trivial (i := 0) rfl Sample.first) trivial (i := 0) rfl rfl
  have h3 := reach_answer h2 trivial (i := 0) (a := true) rfl rfl
  -- and she does so again.
  have h4 := reach_start h3 trivial (i := 1) (l := .submitMessage 7 "m1") rfl rfl
  have h5 := reach_resume (reach_answer h4 trivial (i := 1) rfl Sample.again) trivial (i := 1) rfl rfl
  have h6 := reach_answer h5 trivial (i := 1) (a := true) rfl rfl
  have hone := Set.encard_le_one_iff.1 (hall _ _ _ h6.forget "m1") (0, 0) (1, 0)
    ⟨Sample.logged, _, _, rfl, Sample.logged_submits, rfl⟩ ⟨Sample.logged, _, _, rfl, Sample.logged_submits, rfl⟩
  cases hone

end Tactix.IncidentSvc.Messages
