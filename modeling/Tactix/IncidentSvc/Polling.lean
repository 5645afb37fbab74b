import Tactix.IncidentSvc.Chat
import Tactix.Lib.Paging
import Tactix.Lib.Runs
/-!
# Polling the chat

A client polls `GET /incidents/:id/chat` and passes the newest `created_at` it has. A poll
answers with the newest messages, so those it leaves out are behind the next position.
`polling_complete` says in which runs a poll with room to spare means that the client has all.
-/
open ServiceLib Tactix.IncidentSvc.Chat

namespace Tactix.IncidentSvc

/-- `created_at` as a response shows it: the column has microseconds, a `Date` milliseconds. -/
def shown (row : Row) : Int := row.created_at / 1000 * 1000

/-- The newest `created_at` among what the client has, for the query's `since`. -/
def newest (received : List Row) : Option Int := (received.map shown).max?

/-- The messages stored at a poll, and its answer. -/
structure Poll where
  stored : List Row
  found : List Row

structure Polling where
  table : Table
  received : List Row
  last : Option Poll

def Polling.init (table : Table) : Polling := ⟨table, [], none⟩

inductive Polling.Action where
  | post (row : Row)
  | poll (found : List Row)

/-- Posts to any incident, and polls of this one with this limit. -/
inductive Polling.Step (incidentId limit : Nat) : Polling → Polling.Action → Polling → Prop
  | post {s : Polling} {id : Nat} {sub : Option String} {body : Option Js.Json} {msgId : String} {createdAt : Int}
      {row : Row} {table : Table} : postChat id sub body msgId createdAt = .ok row → table.rows = s.table.rows ++ [row] →
      Polling.Step incidentId limit s (.post row) { s with table := table }
  | poll {s : Polling} {found : List Row} : Finds s.table.rows incidentId (newest s.received) limit found →
      Polling.Step incidentId limit s (.poll found)
        { s with received := s.received ++ found, last := some ⟨s.table.rows, found⟩ }

/-- When the last poll has answered with fewer rows than the limit, the client has every message of the
incident stored before it. -/
def Complete (incidentId limit : Nat) (s : Polling) : Prop :=
  ∀ p ∈ s.last, p.found.length < limit → ∀ row ∈ p.stored, row.incident_id = incidentId → row ∈ s.received

/-- The rows the query of the next poll is about. -/
def Polling.waiting (incidentId : Nat) (s : Polling) : List Row :=
  s.table.rows.filter fun r => r.incident_id = incidentId ∧ ∀ t ∈ newest s.received, t < r.created_at

/-- A message is stored with a later time than the client's position; and a poll has room for all that wait, or
they are all of one millisecond, after its beginning, and the limit is not clamped. -/
def Polling.Meets (incidentId limit : Nat) (s : Polling) : Polling.Action → Prop
  | .post row => row.incident_id = incidentId → ∀ t ∈ newest s.received, t < row.created_at
  | .poll _ => (s.waiting incidentId).length ≤ chatLimit limit ∨
      limit ≤ 200 ∧ ∀ r ∈ s.waiting incidentId, ∀ r' ∈ s.waiting incidentId, shown r' < r.created_at

/-! ## The position -/

theorem newest_lt {received : List Row} {c : Int} : (∀ t ∈ newest received, t < c) ↔ ∀ r ∈ received, shown r < c := by
  cases h : newest received with
  | none =>
    have hnil : received = [] := List.map_eq_nil_iff.1 (List.max?_eq_none_iff.1 h)
    simp [hnil]
  | some m =>
    obtain ⟨hmem, hmax⟩ := List.max?_eq_some_iff.1 h
    constructor
    · exact fun hc r hr => Int.lt_of_le_of_lt (hmax (shown r) (List.mem_map_of_mem hr)) (hc m rfl)
    · intro hr t ht
      obtain ⟨r, hmr, rfl⟩ := List.mem_map.1 hmem
      exact Option.some.inj ht ▸ hr r hmr

/-- Each message of the incident is received, or the next poll asks for it. -/
def Reaches (incidentId : Nat) (s : Polling) : Prop :=
  ∀ row ∈ s.table.rows, row.incident_id = incidentId → row ∈ s.received ∨ ∀ r ∈ s.received, shown r < row.created_at

variable {incidentId limit : Nat} {s s' : Polling} {a : Polling.Action}

theorem mem_waiting {row : Row} : row ∈ s.waiting incidentId ↔
    row ∈ s.table.rows ∧ row.incident_id = incidentId ∧ ∀ r ∈ s.received, shown r < row.created_at := by
  rw [Polling.waiting, List.mem_filter, decide_eq_true_iff, newest_lt]

theorem finds_page {found : List Row} (h : Finds s.table.rows incidentId (newest s.received) limit found) :
    Page (·.created_at) (chatLimit limit) (s.waiting incidentId) found := h

/-! ## Steps -/

theorem reaches_post {row : Row} {table : Table} (hs : Reaches incidentId s) (hm : s.Meets incidentId limit (.post row))
    (htable : table.rows = s.table.rows ++ [row]) : Reaches incidentId { s with table := table } := by
  intro r hr hid
  rw [htable, List.mem_append, List.mem_singleton] at hr
  rcases hr with hr | rfl
  · exact hs r hr hid
  · exact .inr (newest_lt.1 (hm hid))

/-- A poll with room for all that wait leaves the client with everything. -/
theorem received_of_room {found : List Row} (hs : Reaches incidentId s)
    (hpage : Page (·.created_at) (chatLimit limit) (s.waiting incidentId) found)
    (hroom : (s.waiting incidentId).length ≤ chatLimit limit) {row : Row} (hrow : row ∈ s.table.rows)
    (hid : row.incident_id = incidentId) : row ∈ s.received ++ found := by
  rcases hs row hrow hid with hr | hlate
  · exact List.mem_append_left _ hr
  · exact List.mem_append_right _ ((hpage.perm hroom).mem_iff.2 (mem_waiting.2 ⟨hrow, hid, hlate⟩))

/-- A poll among messages of one millisecond leaves those it does not show for the next. -/
theorem reaches_of_same {found : List Row} (hs : Reaches incidentId s)
    (hpage : Page (·.created_at) (chatLimit limit) (s.waiting incidentId) found)
    (hsame : ∀ r ∈ s.waiting incidentId, ∀ r' ∈ s.waiting incidentId, shown r' < r.created_at) {row : Row}
    (hrow : row ∈ s.table.rows) (hid : row.incident_id = incidentId) :
    row ∈ s.received ++ found ∨ ∀ r ∈ s.received ++ found, shown r < row.created_at := by
  rcases hs row hrow hid with hr | hlate
  · exact .inl (List.mem_append_left _ hr)
  · refine .inr fun r hr => ?_
    rcases List.mem_append.1 hr with hr | hr
    · exact hlate r hr
    · exact hsame row (mem_waiting.2 ⟨hrow, hid, hlate⟩) r (hpage.mem hr)

/-- A page that is full is as long as a limit that is not clamped. -/
theorem full_of_long {found : List Row} (hpage : Page (·.created_at) (chatLimit limit) (s.waiting incidentId) found)
    (hlong : ¬ (s.waiting incidentId).length ≤ chatLimit limit) (hlimit : limit ≤ 200) : limit ≤ found.length := by
  have hlen := hpage.length
  simp only [chatLimit] at hlen hlong
  by_cases hzero : limit = 0
  · omega
  · rw [if_neg hzero] at hlen hlong
    omega

structure Kept (incidentId limit : Nat) (s : Polling) : Prop where
  reaches : Reaches incidentId s
  complete : Complete incidentId limit s

theorem Kept.step (hs : Kept incidentId limit s) (hm : s.Meets incidentId limit a)
    (ht : Polling.Step incidentId limit s a s') : Kept incidentId limit s' := by
  cases ht with
  | post _ htable => exact ⟨reaches_post hs.reaches hm htable, hs.complete⟩
  | @poll found hfinds =>
    have hpage := finds_page hfinds
    by_cases hroom : (s.waiting incidentId).length ≤ chatLimit limit
    · refine ⟨fun row hrow hid => .inl (received_of_room hs.reaches hpage hroom hrow hid), ?_⟩
      intro p hp _ row hrow hid
      obtain rfl := Option.some.inj hp
      exact received_of_room hs.reaches hpage hroom hrow hid
    · obtain ⟨hlimit, hsame⟩ := hm.resolve_left hroom
      refine ⟨fun row hrow hid => reaches_of_same hs.reaches hpage hsame hrow hid, ?_⟩
      intro p hp hfew
      obtain rfl := Option.some.inj hp
      exact absurd (full_of_long hpage hroom hlimit) (Nat.not_le_of_lt hfew)

theorem Kept.init (table : Table) : Kept incidentId limit (Polling.init table) :=
  ⟨fun _ _ _ => .inr fun _ hr => absurd hr List.not_mem_nil, fun _ hp => absurd hp (Option.not_mem_none _)⟩

/-! ## Runs -/

/-- When every message is stored with a later time than the client's position, and every poll has room for all
that wait (or they are of one millisecond), a poll that answers with fewer rows than the limit leaves the client
with every message stored before it. -/
theorem polling_complete {incidentId limit : Nat} {table : Table} {s : Polling}
    (h : Reachable (Guarded (Polling.Meets incidentId limit) (Polling.Step incidentId limit)) (Polling.init table) s) :
    Complete incidentId limit s := by
  have hkept : Kept incidentId limit s := h.inv (.init table) fun _ _ _ hs ht => hs.step ht.1 ht.2
  exact hkept.complete

def messageBody (text : String) : Option Js.Json := some (.obj [("text", .str text)])

def firstMessage : Row := ⟨"m1", 7, "ana", "Fire", 1755424800000000⟩

def secondMessage : Row := ⟨"m2", 7, "ana", "Contained", 1755424801000000⟩

def oneMessage : Table := ⟨[firstMessage], List.nodup_singleton _⟩

def twoMessages : Table := ⟨[firstMessage, secondMessage], by decide⟩

/-- Each message is polled before the next. -/
theorem polling_two : ∃ s : Polling, s.received = [firstMessage, secondMessage] ∧ Complete 7 1 s := by
  have hfirst : postChat 7 (some "ana") (messageBody "Fire") "m1" 1755424800000000 = .ok firstMessage := rfl
  have hsecond : postChat 7 (some "ana") (messageBody "Contained") "m2" 1755424801000000 = .ok secondMessage := rfl
  have h0 : Reachable (Guarded (Polling.Meets 7 1) (Polling.Step 7 1)) (Polling.init ⟨[], List.nodup_nil⟩)
    (Polling.init ⟨[], List.nodup_nil⟩) := .refl
  have h1 := h0.nextGuarded (.post firstMessage) (fun _ t ht => absurd ht (Option.not_mem_none t))
    (.post hfirst (rfl : oneMessage.rows = _))
  have h2 := h1.nextGuarded (.poll [firstMessage]) (.inl (by decide)) (.poll ⟨[firstMessage], by decide, by decide, rfl⟩)
  have h3 := h2.nextGuarded (.post secondMessage) (fun _ => by decide)
    (.post hsecond (rfl : twoMessages.rows = _))
  have h4 := h3.nextGuarded (.poll [secondMessage]) (.inl (by decide)) (.poll ⟨[secondMessage], by decide, by decide, rfl⟩)
  exact ⟨_, rfl, polling_complete h4⟩

/-- Two messages come before a poll of one. -/
theorem polling_misses : ¬ ∀ (incidentId limit : Nat) (table : Table) (s : Polling), 0 < limit →
    Reachable (Polling.Step incidentId limit) (Polling.init table) s → Complete incidentId limit s := by
  intro h
  have hfirst : postChat 7 (some "ana") (messageBody "Fire") "m1" 1755424800000000 = .ok firstMessage := rfl
  have hsecond : postChat 7 (some "ana") (messageBody "Contained") "m2" 1755424801000000 = .ok secondMessage := rfl
  have h0 : Reachable (Polling.Step 7 1) (Polling.init ⟨[], List.nodup_nil⟩) (Polling.init ⟨[], List.nodup_nil⟩) := .refl
  have h1 := h0.next (.post firstMessage) (.post hfirst (rfl : oneMessage.rows = _))
  have h2 := h1.next (.post secondMessage)
    (.post hsecond (rfl : twoMessages.rows = _))
  have h3 := h2.next (.poll [secondMessage]) (.poll ⟨[secondMessage, firstMessage], by decide, by decide, rfl⟩)
  have h4 := h3.next (.poll []) (.poll ⟨[], by decide, .nil, rfl⟩)
  have hgot := h 7 1 ⟨[], List.nodup_nil⟩ _ Nat.one_pos h4 _ rfl Nat.one_pos firstMessage List.mem_cons_self rfl
  exact absurd hgot (by decide)

end Tactix.IncidentSvc
