import Mathlib.Data.List.Nodup
import Tactix.Js
/-!
# The chat of an incident

`GET` and `POST /incidents/:id/chat`, and the event that goes out for a message.
-/
open Tactix.Js

namespace Tactix.IncidentSvc.Chat

/-- A row of `incident_chat_messages`. -/
structure Row where
  msg_id : String
  incident_id : Nat
  author_upn : String
  text : String
  created_at : Int
  deriving DecidableEq

/-- `incident_chat_messages` with its primary key. -/
structure Table where
  rows : List Row
  primary : (rows.map (·.msg_id)).Nodup

/-- A row as a response has it. `isoTime` is `toISOString`. -/
def Row.json (isoTime : Int → String) (row : Row) : Json :=
  .obj [("msg_id", .str row.msg_id), ("incident_id", .num row.incident_id), ("author_upn", .str row.author_upn),
    ("text", .str row.text), ("created_at", .str (isoTime row.created_at))]

/-- The `length` of a string. -/
def utf16Length (s : String) : Nat := s.toList.foldl (fun n c => if 0x10000 ≤ c.val then n + 2 else n + 1) 0

structure ChatBody where
  text : String
  authorUpn : Option String

/-- `schema.safeParse(body)`. -/
def parseBody (body : Option Json) : Option ChatBody :=
  match body with
  | some (.obj fields) =>
    match fields.lookup "text", fields.lookup "authorUpn" with
    | some (.str text), none =>
      if 1 ≤ utf16Length text ∧ utf16Length text ≤ 2000 then some ⟨text, none⟩ else none
    | some (.str text), some (.str authorUpn) =>
      if 1 ≤ utf16Length text ∧ utf16Length text ≤ 2000 then some ⟨text, some authorUpn⟩ else none
    | _, _ => none
  | _ => none

/-- `postChatHandler`: the row it inserts, with the id `randomUUID()` and the time of the
`INSERT`, or the body it answers with. `sub` is the one of the user. -/
def postChat (incidentId : Nat) (sub : Option String) (body : Option Json) (msgId : String) (createdAt : Int) :
    Except Json Row :=
  match parseBody body with
  | none => .error (.obj [("error", .str "invalid body")])
  | some parsed =>
    let author := (orString (orString parsed.authorUpn sub) (some "unknown")).getD ""
    .ok ⟨msgId, incidentId, author, parsed.text, createdAt⟩

/-- The payload of the `NOTIFY`. -/
def chatEvent (isoTime : Int → String) (row : Row) : Json :=
  .obj [("type", .str "INCIDENT_CHAT"), ("incidentId", .num row.incident_id), ("msgId", .str row.msg_id),
    ("authorUpn", .str row.author_upn), ("text", .str row.text), ("createdAt", .str (isoTime row.created_at))]

/-- `Math.min(Number(limit) || 50, 200)`. A limit that is no number is 0 here. -/
def chatLimit (limit : Nat) : Nat := min (if limit = 0 then 50 else limit) 200

/-- `getChatHandler`: the rows it may answer with. -/
def Finds (rows : List Row) (incidentId : Nat) (since : Option Int) (limit : Nat) (found : List Row) : Prop :=
  ∃ order, List.Perm order (rows.filter fun r => r.incident_id = incidentId ∧ ∀ t ∈ since, t < r.created_at) ∧
    order.Pairwise (fun a b => b.created_at ≤ a.created_at) ∧ found = order.take (chatLimit limit)

/-! ## Rows -/

theorem Table.nodup (t : Table) : t.rows.Nodup := t.primary.of_map _

/-- The ids of some rows of a table, each once. -/
theorem Table.nodup_ids (t : Table) {rows : List Row} (hn : rows.Nodup) (h : ∀ r ∈ rows, r ∈ t.rows) :
    (rows.map (·.msg_id)).Nodup :=
  hn.map_on fun _ ha _ hb he => List.inj_on_of_nodup_map t.primary (h _ ha) (h _ hb) he

theorem Table.mem_ids (t : Table) {rows : List Row} (h : ∀ r ∈ rows, r ∈ t.rows) {row : Row} (hrow : row ∈ t.rows) :
    row.msg_id ∈ rows.map (·.msg_id) ↔ row ∈ rows := by
  constructor
  · intro hm
    obtain ⟨r, hr, he⟩ := List.mem_map.1 hm
    rwa [← List.inj_on_of_nodup_map t.primary (h r hr) hrow he]
  · exact fun hm => List.mem_map_of_mem hm

/-- A row that is inserted is new. -/
theorem insert_fresh {t t' : Table} {row : Row} (h : t'.rows = t.rows ++ [row]) : row ∉ t.rows := by
  intro hm
  have hn := t'.nodup
  rw [h, List.nodup_append] at hn
  exact hn.2.2 row hm row (List.mem_singleton_self row) rfl

theorem finds_sub {rows found : List Row} {incidentId limit : Nat} {since : Option Int}
    (h : Finds rows incidentId since limit found) : ∀ r ∈ found, r ∈ rows := by
  obtain ⟨order, hp, -, rfl⟩ := h
  intro r hr
  exact (List.mem_filter.1 (hp.mem_iff.1 (List.mem_of_mem_take hr))).1

theorem finds_nodup {t : Table} {found : List Row} {incidentId limit : Nat} {since : Option Int}
    (h : Finds t.rows incidentId since limit found) : found.Nodup := by
  obtain ⟨order, hp, -, rfl⟩ := h
  exact ((hp.nodup_iff).2 (t.nodup.filter _)).sublist (List.take_sublist _ _)

end Tactix.IncidentSvc.Chat
