import Mathlib.Logic.Function.Basic
import Tactix.IncidentSvc.Chat
import Tactix.Lib.EventLoop
/-!
# The chat of `IncidentPage`

Three things change the list `chat`: the response of the load replaces it, an
event and the response to a post of the page add to it. The route parameter is a
string and the event has a number, so no event adds anything: `chat_iff` says
after which schedules the list is right all the same.
-/
open Tactix.Js Tactix.IncidentSvc.Chat ServiceLib

namespace Tactix.Ui

/-- The page of an incident: its route parameter, and the number the services make
of it. `isoTime` is `toISOString`. -/
structure Page where
  incidentId : String
  number : Nat
  isoTime : Int → String

/-- `msg.key`, for an object the page builds of it. -/
def copied (key : String) (msg : Json) (source : String) : List (String × Json) :=
  ((msg.get? source).map fun v => (key, v)).toList

/-- What `ws.onmessage` makes of `chat`, for data that parses. -/
def onmessage (page : Page) (msg : Json) (chat : List Json) : List Json :=
  if str? (msg.get? "type") = some "INCIDENT_CHAT" ∧ str? (msg.get? "incidentId") = some page.incidentId then
    chat ++ [.obj (copied "msg_id" msg "msgId" ++ copied "author_upn" msg "authorUpn" ++ copied "text" msg "text"
      ++ copied "created_at" msg "createdAt")]
  else chat

/-- A post of the page: on its way, answered with a row or with an error's body, or over. -/
inductive Post where
  | sent (text : String)
  | answered (reply : Except Json Row)
  | handled

/-- What `res.json()` comes to. -/
def replyJson (page : Page) : Except Json Row → Json
  | .ok row => row.json page.isoTime
  | .error body => body

structure State where
  table : Table
  chat : List Json
  /-- What the load has found, once the service has read it. -/
  found : Option (List Row)
  /-- The page has the load's response. -/
  loaded : Bool
  /-- The messages of the incident posted after the load was read. -/
  since : List Row
  /-- The events on the page's WebSocket. -/
  events : List Json
  posts : Nat → Option Post
  /-- The messages whose posts' responses came to the page after the load's. -/
  late : List Row

def State.init (table : Table) : State := ⟨table, [], none, false, [], [], fun _ => none, []⟩

/-- A message is in the table. Its event may reach the page or not. -/
def State.posted (page : Page) (s : State) (table : Table) (row : Row) (event : Bool) : State :=
  { s with table := table, events := if event then s.events ++ [chatEvent page.isoTime row] else s.events,
           since := if s.found.isSome && row.incident_id = page.number then s.since ++ [row] else s.since }

inductive Action where
  | read
  | load
  | others
  | send (i : Nat) (text : String)
  | serve (i : Nat)
  | lose (i : Nat)
  | response (i : Nat)
  | event

inductive Step (page : Page) : State → Action → State → Prop
  /-- `GET /incidents/:id/chat?limit=50` is served. -/
  | read {s : State} {found : List Row} : s.found = none → Finds s.table.rows page.number none 50 found →
      Step page s .read { s with found := some found }
  | load {s : State} {found : List Row} : s.found = some found → s.loaded = false →
      Step page s .load { s with chat := found.map (·.json page.isoTime), loaded := true }
  /-- Somebody else posts to this incident or another. -/
  | others {s : State} {table : Table} {incidentId : Nat} {sub : Option String} {body : Option Json} {msgId : String}
      {createdAt : Int} {row : Row} {event : Bool} : postChat incidentId sub body msgId createdAt = .ok row →
      table.rows = s.table.rows ++ [row] → Step page s .others (s.posted page table row event)
  | send {s : State} {i : Nat} {text : String} : s.posts i = none →
      Step page s (.send i text) { s with posts := Function.update s.posts i (some (.sent text)) }
  | serve {s : State} {i : Nat} {text : String} {table : Table} {sub : Option String} {msgId : String} {createdAt : Int}
      {row : Row} {event : Bool} : s.posts i = some (.sent text) →
      postChat page.number sub (some (.obj [("text", .str text)])) msgId createdAt = .ok row →
      table.rows = s.table.rows ++ [row] → Step page s (.serve i)
        { s.posted page table row event with posts := Function.update s.posts i (some (.answered (.ok row))) }
  | refuse {s : State} {i : Nat} {text : String} {sub : Option String} {msgId : String} {createdAt : Int} {body : Json} :
      s.posts i = some (.sent text) →
      postChat page.number sub (some (.obj [("text", .str text)])) msgId createdAt = .error body →
      Step page s (.serve i) { s with posts := Function.update s.posts i (some (.answered (.error body))) }
  /-- A request or a response is lost, or is none that `res.json()` reads. -/
  | lose {s : State} {i : Nat} {p : Post} : s.posts i = some p →
      Step page s (.lose i) { s with posts := Function.update s.posts i (some .handled) }
  | response {s : State} {i : Nat} {reply : Except Json Row} : s.posts i = some (.answered reply) →
      Step page s (.response i)
        { s with chat := s.chat ++ [replyJson page reply], posts := Function.update s.posts i (some .handled),
                 late := if s.loaded then s.late ++ reply.toOption.toList else s.late }
  | event {s : State} {msg : Json} {rest : List Json} : s.events = msg :: rest →
      Step page s .event { s with chat := onmessage page msg s.chat, events := rest }

/-- The load, the events and the responses have all been handled. -/
structure Quiet (s : State) : Prop where
  loaded : s.loaded = true
  events : s.events = []
  posts : ∀ i p, s.posts i = some p → p = .handled

def msgId (item : Json) : Option String := str? (item.get? "msg_id")

/-- Every message the load found or that was posted since is in the list once. -/
def ChatLaw (s : State) : Prop :=
  ∀ row, row ∈ s.found.getD [] ∨ row ∈ s.since → (s.chat.filterMap msgId).count row.msg_id = 1

/-- The messages since the load are the page's own and their responses came after the
load's; no response after the load's was about a message the load had found. -/
structure Timely (s : State) : Prop where
  since : ∀ row ∈ s.since, row ∈ s.late
  found : ∀ row ∈ s.found.getD [], row ∉ s.late

/-! ## Items -/

@[simp] theorem msgId_json (isoTime : Int → String) (row : Row) : msgId (row.json isoTime) = some row.msg_id := rfl

/-- An event has a number where the page has a string. -/
theorem onmessage_chatEvent (page : Page) (row : Row) (chat : List Json) :
    onmessage page (chatEvent page.isoTime row) chat = chat := by
  rw [onmessage, if_neg]
  rintro ⟨-, h⟩
  have hnum : str? ((chatEvent page.isoTime row).get? "incidentId") = none := rfl
  rw [hnum] at h
  cases h

theorem postChat_error {incidentId : Nat} {sub : Option String} {body : Option Json} {id : String} {createdAt : Int}
    {reply : Json} (h : postChat incidentId sub body id createdAt = .error reply) : msgId reply = none := by
  unfold postChat at h
  split at h
  · obtain rfl := Except.error.inj h
    rfl
  · cases h

/-! ## What a step keeps -/

/-- What is known of the posts that have been answered. -/
structure Answered (table : Table) (late : List Row) (posts : Nat → Option Post) : Prop where
  row : ∀ i row, posts i = some (.answered (.ok row)) → row ∈ table.rows ∧ row ∉ late
  once : ∀ i j row, posts i = some (.answered (.ok row)) → posts j = some (.answered (.ok row)) → i = j
  error : ∀ i body, posts i = some (.answered (.error body)) → msgId body = none

/-- The list is the load's rows and then those of the late responses. -/
structure Tracked (page : Page) (s : State) : Prop where
  list : s.loaded = true → s.chat.filterMap msgId = (s.found.getD [] ++ s.late).map (·.msg_id)
  read : s.loaded = true → s.found ≠ none
  waiting : s.loaded = false → s.late = []
  unread : s.found = none → s.since = []
  found : (s.found.getD []).Nodup ∧ ∀ row ∈ s.found.getD [], row ∈ s.table.rows
  late : s.late.Nodup ∧ ∀ row ∈ s.late, row ∈ s.table.rows
  since : ∀ row ∈ s.since, row ∈ s.table.rows ∧ row ∉ s.found.getD []
  answered : Answered s.table s.late s.posts
  events : ∀ msg ∈ s.events, ∃ row, msg = chatEvent page.isoTime row

section
variable {page : Page} {s : State} {table : Table} {late : List Row} {posts : Nat → Option Post} {i : Nat}

theorem Answered.sub (h : Answered table late posts) {table' : Table} (ht : ∀ row ∈ table.rows, row ∈ table'.rows) :
    Answered table' late posts :=
  ⟨fun i row hi => ⟨ht row (h.row i row hi).1, (h.row i row hi).2⟩, h.once, h.error⟩

/-- A post that is not answered with a row. -/
theorem Answered.update (h : Answered table late posts) {p : Post} (hrow : ∀ row, p ≠ .answered (.ok row))
    (herror : ∀ body, p = .answered (.error body) → msgId body = none) :
    Answered table late (Function.update posts i (some p)) := by
  refine ⟨fun j row hj => ?_, fun j k row hj hk => ?_, fun j body hj => ?_⟩
  · rcases update_cases hj with ⟨-, he⟩ | ⟨-, hj⟩
    · exact absurd he.symm (hrow row)
    · exact h.row j row hj
  · rcases update_cases hj with ⟨-, he⟩ | ⟨-, hold⟩
    · exact absurd he.symm (hrow row)
    · rcases update_cases hk with ⟨-, he⟩ | ⟨-, hold'⟩
      · exact absurd he.symm (hrow row)
      · exact h.once j k row hold hold'
  · rcases update_cases hj with ⟨-, he⟩ | ⟨-, hj⟩
    · exact herror body he.symm
    · exact h.error j body hj

/-- A post that is answered with a new row. -/
theorem Answered.create (h : Answered table late posts) (hlate : ∀ row ∈ late, row ∈ table.rows) {table' : Table} {row : Row}
    (ht : table'.rows = table.rows ++ [row]) :
    Answered table' late (Function.update posts i (some (.answered (.ok row)))) := by
  have hfresh := insert_fresh ht
  refine ⟨fun j r hj => ?_, fun j k r hj hk => ?_, fun j body hj => ?_⟩
  · rcases update_cases hj with ⟨-, he⟩ | ⟨-, hj⟩
    · cases he
      exact ⟨by simp [ht], fun hm => hfresh (hlate _ hm)⟩
    · exact ⟨by rw [ht]; exact List.mem_append_left _ (h.row j r hj).1, (h.row j r hj).2⟩
  · rcases update_cases hj with ⟨rfl, he⟩ | ⟨-, hold⟩ <;> rcases update_cases hk with ⟨rfl, he'⟩ | ⟨-, hold'⟩
    · rfl
    · cases he
      exact absurd (h.row k _ hold').1 hfresh
    · cases he'
      exact absurd (h.row j _ hold).1 hfresh
    · exact h.once j k r hold hold'
  · rcases update_cases hj with ⟨-, he⟩ | ⟨-, hj⟩
    · cases he
    · exact h.error j body hj

/-- The response of a post is handled. -/
theorem Answered.handle (h : Answered table late posts) {row : Row} (hi : posts i = some (.answered (.ok row))) :
    Answered table (late ++ [row]) (Function.update posts i (some .handled)) := by
  refine ⟨fun j r hj => ?_, ?_, ?_⟩
  · rcases update_cases hj with ⟨-, he⟩ | ⟨hij, hj⟩
    · cases he
    · refine ⟨(h.row j r hj).1, fun hm => ?_⟩
      rcases List.mem_append.1 hm with hm | hm
      · exact (h.row j r hj).2 hm
      · rw [List.mem_singleton.1 hm] at hj
        exact hij (h.once j i row hj hi)
  · exact (h.update (p := .handled) (by simp) (by simp)).once
  · exact (h.update (p := .handled) (by simp) (by simp)).error

theorem tracked_posted (ht : Tracked page s) {row : Row} {event : Bool} (htable : table.rows = s.table.rows ++ [row]) :
    Tracked page (s.posted page table row event) := by
  have hsub : ∀ r ∈ s.table.rows, r ∈ table.rows := fun r hr => by rw [htable]; exact List.mem_append_left _ hr
  have hnew : row ∈ table.rows := by simp [htable]
  refine ⟨ht.list, ht.read, ht.waiting, fun hf => ?_, ⟨ht.found.1, fun r hr => hsub r (ht.found.2 r hr)⟩,
    ⟨ht.late.1, fun r hr => hsub r (ht.late.2 r hr)⟩, fun r hr => ?_, ht.answered.sub hsub, fun msg hm => ?_⟩
  · change s.found = none at hf
    simp [State.posted, hf, ht.unread hf]
  · have hold : r ∈ s.since → r ∈ table.rows ∧ r ∉ s.found.getD [] := fun hr =>
      ⟨hsub r (ht.since r hr).1, (ht.since r hr).2⟩
    have hr : r ∈ if s.found.isSome && row.incident_id = page.number then s.since ++ [row] else s.since := hr
    split at hr
    · rcases List.mem_append.1 hr with hr | hr
      · exact hold hr
      · rw [List.mem_singleton.1 hr]
        exact ⟨hnew, fun hm => insert_fresh htable (ht.found.2 row hm)⟩
    · exact hold hr
  · have hm : msg ∈ if event then s.events ++ [chatEvent page.isoTime row] else s.events := hm
    split at hm
    · rcases List.mem_append.1 hm with hm | hm
      · exact ht.events msg hm
      · exact ⟨row, List.mem_singleton.1 hm⟩
    · exact ht.events msg hm

/-- A response that comes after the load's: its row is a new one. -/
theorem tracked_response (ht : Tracked page s) (hl : s.loaded = true) {reply : Except Json Row}
    (hi : s.posts i = some (.answered reply)) : Tracked page
      { s with chat := s.chat ++ [replyJson page reply], posts := Function.update s.posts i (some .handled),
               late := s.late ++ reply.toOption.toList } := by
  cases reply with
  | error body =>
    have hlate : s.late ++ (Except.error body : Except Json Row).toOption.toList = s.late := List.append_nil _
    rw [hlate]
    refine ⟨fun _ => ?_, ht.read, ht.waiting, ht.unread, ht.found, ht.late, ht.since,
      ht.answered.update (by simp) (by simp), ht.events⟩
    simp [replyJson, ht.answered.error i body hi, ht.list hl]
  | ok row =>
    obtain ⟨hrow, hlate⟩ := ht.answered.row i row hi
    refine ⟨fun _ => ?_, ht.read, fun h => (by cases hl.symm.trans h), ht.unread, ht.found, ⟨?_, fun r hr => ?_⟩, ht.since,
      ht.answered.handle hi, ht.events⟩
    · simp [replyJson, ht.list hl, Except.toOption]
    · refine List.nodup_append.2 ⟨ht.late.1, List.nodup_singleton _, fun a ha b hb he => ?_⟩
      rw [he, List.mem_singleton.1 hb] at ha
      exact hlate ha
    · rcases List.mem_append.1 hr with hr | hr
      · exact ht.late.2 r hr
      · rw [List.mem_singleton.1 hr]
        exact hrow

theorem tracked_step {s' : State} {a : Action} (ht : Tracked page s) (hs : Step page s a s') : Tracked page s' := by
  cases hs with
  | read hnone hfound =>
    refine ⟨fun hl => absurd hnone (ht.read hl), fun _ => Option.some_ne_none _, ht.waiting, fun h => (by cases h),
      ⟨finds_nodup hfound, finds_sub hfound⟩, ht.late, fun row hr => ?_, ht.answered, ht.events⟩
    rw [ht.unread hnone] at hr
    cases hr
  | load hfound hl =>
    refine ⟨fun _ => ?_, fun _ => by simp [hfound], fun h => (by cases h), ht.unread, ht.found, ht.late, ht.since,
      ht.answered, ht.events⟩
    simp [hfound, ht.waiting hl, List.filterMap_map, Function.comp_def]
  | others _ htable => exact tracked_posted ht htable
  | send hi =>
    exact ⟨ht.list, ht.read, ht.waiting, ht.unread, ht.found, ht.late, ht.since,
      ht.answered.update (by simp) (by simp), ht.events⟩
  | @serve i text table sub id createdAt row event hi _ htable =>
    have h := @tracked_posted page s table ht row event htable
    exact ⟨h.list, h.read, h.waiting, h.unread, h.found, h.late, h.since, ht.answered.create ht.late.2 htable, h.events⟩
  | refuse hi hpost =>
    refine ⟨ht.list, ht.read, ht.waiting, ht.unread, ht.found, ht.late, ht.since,
      ht.answered.update (by simp) fun b hb => ?_, ht.events⟩
    cases hb
    exact postChat_error hpost
  | lose hi =>
    exact ⟨ht.list, ht.read, ht.waiting, ht.unread, ht.found, ht.late, ht.since,
      ht.answered.update (by simp) (by simp), ht.events⟩
  | response hi =>
    by_cases hl : s.loaded = true
    · rw [if_pos hl]
      exact tracked_response ht hl hi
    · -- The load's response will replace the list.
      rw [if_neg hl]
      exact ⟨fun h => absurd h hl, ht.read, ht.waiting, ht.unread, ht.found, ht.late, ht.since,
        ht.answered.update (by simp) (by simp), ht.events⟩
  | event hev =>
    obtain ⟨row, rfl⟩ := ht.events _ (by rw [hev]; exact List.mem_cons_self)
    rw [onmessage_chatEvent]
    exact ⟨ht.list, ht.read, ht.waiting, ht.unread, ht.found, ht.late, ht.since, ht.answered,
      fun msg hm => ht.events msg (by rw [hev]; exact List.mem_cons_of_mem _ hm)⟩

/-- How often a message is in the list: once for the load, and once for a late response. -/
theorem count_list (ht : Tracked page s) (hl : s.loaded = true) {row : Row} (hrow : row ∈ s.table.rows) :
    (s.chat.filterMap msgId).count row.msg_id =
      (if row ∈ s.found.getD [] then 1 else 0) + (if row ∈ s.late then 1 else 0) := by
  rw [ht.list hl, List.map_append, List.count_append, (s.table.nodup_ids ht.found.1 ht.found.2).count,
    (s.table.nodup_ids ht.late.1 ht.late.2).count]
  simp only [s.table.mem_ids ht.found.2 hrow, s.table.mem_ids ht.late.2 hrow]

end

/-- When all has been handled, the list is right exactly when the schedule was timely. -/
theorem chat_iff (page : Page) {table : Table} {s : State} (h : Reachable (Step page) (.init table) s) (hq : Quiet s) :
    ChatLaw s ↔ Timely s := by
  have hinit : Tracked page (.init table) := by
    refine ⟨fun hl => ?_, fun hl => ?_, fun _ => rfl, fun _ => rfl, ?_, ?_, ?_, ⟨?_, ?_, ?_⟩, ?_⟩ <;> simp_all [State.init]
  have ht : Tracked page s := h.inv hinit fun _ _ _ => tracked_step
  have hcount := fun row => @count_list page s ht hq.loaded row
  constructor
  · intro hlaw
    refine ⟨fun row hr => ?_, fun row hr hlate => ?_⟩
    · have hone := hlaw row (.inr hr)
      obtain ⟨hrow, hfound⟩ := ht.since row hr
      rw [hcount row hrow, if_neg hfound] at hone
      by_contra hlate
      rw [if_neg hlate] at hone
      omega
    · have hone := hlaw row (.inl hr)
      rw [hcount row (ht.found.2 row hr), if_pos hr, if_pos hlate] at hone
      omega
  · rintro htimely row (hr | hr)
    · rw [hcount row (ht.found.2 row hr), if_pos hr, if_neg (htimely.found row hr)]
    · obtain ⟨hrow, hfound⟩ := ht.since row hr
      rw [hcount row hrow, if_neg hfound, if_pos (htimely.since row hr)]

/-! ## Two pages -/

namespace Sample

def page : Page := ⟨"7", 7, fun _ => "2025-08-17T10:00:00.000Z"⟩

def table : Table := ⟨[], List.nodup_nil⟩

def row : Row := ⟨"m1", 7, "ana", "Bridge closed", 0⟩

def table₁ : Table := ⟨[row], by decide⟩

/-- The page has loaded an empty chat. -/
def loaded : State := { State.init table with found := some [], loaded := true }

theorem reach_loaded : Reachable (Step page) (.init table) loaded := by
  have hread : Step page (.init table) .read { State.init table with found := some [] } :=
    .read rfl ⟨[], .refl _, .nil, rfl⟩
  exact (Reachable.refl.step hread).step (@Step.load page _ [] rfl rfl)

def text : String := "Bridge closed"

/-- Ana has posted, and her page has the response. -/
def posted : State :=
  { loaded with table := table₁, chat := [row.json page.isoTime], since := [row],
                posts := Function.update (Function.update (Function.update (fun _ => none) 0 (some (.sent text))) 0
                  (some (.answered (.ok row)))) 0 (some .handled),
                late := [row] }

theorem reach_posted : Reachable (Step page) (.init table) posted := by
  have hsend : Step page loaded (.send 0 text) _ := .send rfl
  have hserve : Step page _ (.serve 0) _ := @Step.serve page
    { loaded with posts := Function.update (fun _ => none) 0 (some (.sent text)) } 0 text table₁ (some "ana") "m1" 0 row false
    rfl rfl rfl
  exact ((reach_loaded.step hsend).step hserve).step (@Step.response page _ 0 (.ok row) rfl)

/-- Ben has posted, and the page has his event. -/
def missed : State := { loaded with table := table₁, since := [row] }

theorem reach_missed : Reachable (Step page) (.init table) missed := by
  have hpost : Step page loaded .others (loaded.posted page table₁ row true) :=
    .others (show postChat 7 (some "ana") (some (.obj [("text", .str text)])) "m1" 0 = .ok row from rfl) rfl
  exact (reach_loaded.step hpost).step (@Step.event page _ (chatEvent page.isoTime row) [] rfl)

end Sample

theorem chat_iff_sample : ChatLaw Sample.posted := by
  have hq : Quiet Sample.posted := by
    refine ⟨rfl, rfl, fun i p hi => ?_⟩
    rcases update_cases hi with ⟨-, rfl⟩ | ⟨hne, hi⟩
    · rfl
    · simp [Function.update_of_ne hne] at hi
  exact (chat_iff Sample.page Sample.reach_posted hq).2 ⟨fun row hr => hr, fun row hr => by cases hr⟩

/-- A message of somebody else never appears. -/
theorem message_missed : ¬ ∀ (page : Page) (table : Table) (s : State), Reachable (Step page) (.init table) s → Quiet s →
    ChatLaw s := by
  intro hall
  have hlaw := hall _ _ _ Sample.reach_missed ⟨rfl, rfl, fun _ _ h => by cases h⟩ Sample.row (.inr (List.mem_singleton_self _))
  cases hlaw

end Tactix.Ui
