import Tactix.IncidentSvc.TaskList
import Tactix.Lib.Entries
import Tactix.Lib.Mirror
import Tactix.Ui.IncidentPage
/-!
# The tasks of `IncidentPage`

The list `tasks`, the requests that change it, and the table of the service. No event adds
anything, as in the chat. `tasks_agree` says when the list shows the rows all the same.
-/
open Tactix.Js Tactix.IncidentSvc ServiceLib

namespace Tactix.Ui.Tasks

def rowJson (isoTime : Int → String) (row : TaskRow) : Json :=
  .obj [("task_id", .str row.task_id), ("incident_id", .num row.incident_id), ("role", .str row.role),
    ("assignee_upn", (row.assignee_upn.map Json.str).getD .null), ("title", .str row.title), ("description", .str row.description),
    ("status", .str row.status), ("created_by", .str row.created_by), ("created_at", .str (isoTime row.created_at)),
    ("updated_at", .str (isoTime row.updated_at))]

/-- What `res.json()` comes to; the page does not look at the status. -/
def bodyJson (isoTime : Int → String) : TaskBody → Json
  | .empty => .obj []
  | .error error => .obj [("error", .str error)]
  | .task row => rowJson isoTime row

/-- `t.task_id`. -/
def itemId (t : Json) : Option String := str? (t.get? "task_id")

/-! ## The page -/

/-- The fields of the form. -/
structure NewTask where
  role : String
  assigneeUpn : String
  title : String
  description : String

def NewTask.json (t : NewTask) : Json :=
  .obj [("role", .str t.role), ("assigneeUpn", .str t.assigneeUpn), ("title", .str t.title), ("description", .str t.description)]

inductive TaskReq where
  | createTask (t : NewTask)
  | changeStatus (id status : String)

/-- The `then` of a request. -/
def TaskReq.handle (task : Json) (ts : List Json) : TaskReq → List Json
  | .createTask _ => task :: ts
  | .changeStatus id _ => ts.map fun t => if itemId t = some id then task else t

/-- `{ ...t, status }`. -/
def withStatus (t : Json) (status : Option Json) : Json :=
  match t, status with
  | .obj fields, some status => .obj (setEntry fields "status" status)
  | .obj fields, none => .obj (fields.filter (·.1 ≠ "status"))
  | t, _ => t

/-- What `ws.onmessage` makes of `tasks`, for data that parses. -/
def onmessage (page : Page) (msg : Json) (ts : List Json) : List Json :=
  let created := if str? (msg.get? "type") = some "INCIDENT_TASK_CREATED" ∧ str? (msg.get? "incidentId") = some page.incidentId then
      .obj (copied "task_id" msg "taskId" ++ copied "title" msg "title" ++ copied "status" msg "status") :: ts
    else ts
  if str? (msg.get? "type") = some "INCIDENT_TASK_UPDATED" ∧ str? (msg.get? "incidentId") = some page.incidentId then
    created.map fun t => if itemId t = str? (msg.get? "taskId") then withStatus t (msg.get? "status") else t
  else created

/-- The `NOTIFY` of `postTaskHandler`. -/
def createdEvent (incidentId : Nat) (task : TaskRow) : Json :=
  .obj [("type", .str "INCIDENT_TASK_CREATED"), ("incidentId", .num incidentId), ("taskId", .str task.task_id),
    ("title", .str task.title), ("status", .str task.status)]

/-- The `NOTIFY` of `patchTaskHandler`. -/
def updatedEvent (incidentId : Nat) (task : TaskRow) : Json :=
  .obj [("type", .str "INCIDENT_TASK_UPDATED"), ("incidentId", .num incidentId), ("taskId", .str task.task_id),
    ("status", .str task.status)]

/-! ## Runs -/

/-- The table, the list, and the requests that have not been served or whose replies have not been handled. -/
structure State where
  rows : List TaskRow
  tasks : List Json
  asked : List TaskReq
  replies : List (TaskReq × TaskBody)

/-- After the load, which has found these rows. -/
def State.loaded (page : Page) (rows found : List TaskRow) : State := ⟨rows, found.map (rowJson page.isoTime), [], []⟩

inductive Action where
  | createTask (t : NewTask)
  | changeStatus (id status : String)
  | serve
  | handle
  | loseRequest
  | loseReply
  | others (rows : List TaskRow)
  | event (msg : Json)

/-- Requests are served and replies come in any order. A status is changed where the task is shown, to one
of the options. -/
inductive Step (page : Page) (s : State) : Action → State → Prop
  | createTask {t : NewTask} : Step page s (.createTask t) { s with asked := s.asked ++ [.createTask t] }
  | changeStatus {id status : String} : id ∈ s.tasks.filterMap itemId → status ∈ taskStatuses →
      Step page s (.changeStatus id status) { s with asked := s.asked ++ [.changeStatus id status] }
  | serveCreate {p q : List TaskReq} {t : NewTask} {incidents : List Nat} {now : Nat} {sub : Option String} {taskId : String}
      {rows : List TaskRow} {reply : TaskReply} : s.asked = p ++ .createTask t :: q →
      postTaskHandler s.rows incidents now page.number sub taskId t.json = some (rows, reply) →
      Step page s .serve { s with rows, asked := p ++ q, replies := s.replies ++ [(.createTask t, reply.body)] }
  | serveChange {p q : List TaskReq} {id status : String} {now : Nat} {rows : List TaskRow} {reply : TaskReply} :
      s.asked = p ++ .changeStatus id status :: q →
      patchTaskHandler s.rows now page.number id (.obj [("status", .str status)]) = some (rows, reply) →
      Step page s .serve { s with rows, asked := p ++ q, replies := s.replies ++ [(.changeStatus id status, reply.body)] }
  | handle {p q : List (TaskReq × TaskBody)} {r : TaskReq} {body : TaskBody} : s.replies = p ++ (r, body) :: q →
      Step page s .handle { s with tasks := r.handle (bodyJson page.isoTime body) s.tasks, replies := p ++ q }
  | loseRequest {p q : List TaskReq} {r : TaskReq} : s.asked = p ++ r :: q → Step page s .loseRequest { s with asked := p ++ q }
  | loseReply {p q : List (TaskReq × TaskBody)} {e : TaskReq × TaskBody} : s.replies = p ++ e :: q →
      Step page s .loseReply { s with replies := p ++ q }
  /-- What else happens to the table; a key stays one. -/
  | others {rows : List TaskRow} : (rows.map (·.task_id)).Nodup → Step page s (.others rows) { s with rows }
  | event {msg : Json} {incidentId : Nat} {task : TaskRow} : msg = createdEvent incidentId task ∨ msg = updatedEvent incidentId task →
      Step page s (.event msg) { s with tasks := onmessage page msg s.tasks }

def changeId : TaskReq → Option String
  | .changeStatus id _ => some id
  | .createTask _ => none

/-- The rows of the incident. -/
def State.of (s : State) (page : Page) : List TaskRow := s.rows.filter fun row => row.incident_id = page.number

/-- The status of a task is not changed again before the reply, nobody else touches the tasks of the
incident, and no reply is lost. A request may be. -/
def Alone (page : Page) (s : State) : Action → Prop
  | .changeStatus id _ => id ∉ s.asked.filterMap changeId ∧ id ∉ s.replies.filterMap fun e => changeId e.1
  | .others rows => (rows.filter fun row => row.incident_id = page.number) = s.of page
  | .loseReply => False
  | _ => True

/-! ## Replies -/

section
variable {page : Page} {s s' : State} {shown : List TaskRow}

end

end Tactix.Ui.Tasks
