import Tactix.IncidentSvc.Bodies
import Tactix.IncidentSvc.Routes
import Tactix.Lib.EventLoop
/-!
# The listener of incident-svc

The request listener of `index.ts` and the arrays it works on. An incident is an
object the array holds and handlers keep across a wait: they name it here by its
id, and read it again when they answer.
-/
open Tactix.Js Tactix.Authz ServiceLib

namespace Tactix.IncidentSvc.Listener

/-- What a body holds is stored as it is: the types `index.ts` declares are not checked. -/
structure Incident where
  id : Nat
  title : Json
  description : Json
  severity : Json
  status : Json
  comments : List Json

/-- The `payload` of an event, by its `type`. -/
inductive EventPayload where
  | CREATED (title severity : Json) (description : Option Json)
  | COMMENT_ADDED (comment : Json)
  | STATUS_CHANGED (status : Json)
  | ATTACHMENT_ADDED (attachmentId : Nat) (objectName filename : String)

structure IncidentEvent where
  id : Nat
  incidentId : Nat
  payload : EventPayload

structure Attachment where
  id : Nat
  incidentId : Nat
  objectName : String
  filename : String

/-- The variables of the module. -/
structure Memory where
  incidents : List Incident
  events : List IncidentEvent
  nextIncidentId : Nat
  nextEventId : Nat
  attachments : List Attachment
  nextAttachmentId : Nat
  objectStore : String → Option Buffer
  /-- `dbClient` is set. -/
  dbClient : Bool

def Memory.init (dbClient : Bool) : Memory := ⟨[], [], 1, 1, [], 1, fun _ => none, dbClient⟩

/-- A row of the table `incidents`. -/
structure IncidentRow where
  id : Nat
  title : String
  description : Option String
  severity : String
  status : String
  comments : Json

structure OrgUnitRow where
  org_unit_id : String
  scope : Option String
  unit_name : String
  xmpp_jid : Option String

/-- What the listener has from the platform. -/
structure Env where
  /-- `new URL(target, 'http://localhost')`: the `pathname` and `searchParams.get`, or
  `none` when the constructor throws. -/
  parseUrl : String → Option (String × (String → Option String))
  toLowerCase : String → String
  /-- `chunk.toString()`. -/
  text : Buffer → String
  /-- `JSON.parse`, `none` when it throws. -/
  parse : String → Option Json

/-- What the listener waits for. -/
inductive Query where
  /-- The chunks of the request's body, up to its `end`. -/
  | body
  | notify (incidentId seq : Nat) (payload : EventPayload)
  | orgUnits (opId : String)
  | listIncidents (status q : Option String)
  /-- `await` of a promise that is already settled. -/
  | turn

/-- `none` is a rejection, or the `error` of a body. -/
abbrev Query.Reply : Query → Type
  | .body => Option (List Buffer)
  | .notify .. => Option Unit
  | .orgUnits _ => Option (List OrgUnitRow)
  | .listIncidents .. => Option (List IncidentRow)
  | .turn => Unit

inductive Error where
  /-- `new URL` throws. -/
  | invalidUrl
  | typeError
  /-- The rejection of a query. -/
  | rejected

inductive Body where
  | empty
  | ok
  | error (text : String)
  /-- An incident the array holds, as it is when the answer is written. -/
  | incident (incident : Option Incident)
  | incidents (list : List Incident)
  | rows (rows : List IncidentRow)
  | orgUnits (rows : List OrgUnitRow)
  | attachment (attachment : Attachment)

structure Response where
  code : Nat
  body : Body

abbrev Svc := Prog Memory Query Query.Reply Error

/-- `await` of a promise that is settled. -/
def turn : Svc Unit := Prog.ask Query.turn

/-- `await readBody(req).catch(() => null)`. -/
def readBody (env : Env) : Svc (Option Json) := do
  let chunks ← Prog.ask Query.body
  return chunks.bind fun chunks =>
    let data := String.join (chunks.map env.text)
    if data = "" then some (.obj []) else env.parse data

/-- `await readMultipart(req).catch(() => null)`. -/
def readMultipart (contentType : Option String) : Svc (Option File) :=
  match boundary contentType with
  | none => do
    turn
    return none
  | some boundary => do
    let chunks ← Prog.ask Query.body
    return chunks.bind fun chunks => multipart boundary chunks.flatten

/-- `json(res, code, body)`. -/
def json (code : Nat) (body : Body) : Svc (Option Response) := .ret (some ⟨code, body⟩)

/-- `return requireAuth(req, res, handler)`: nothing runs and nothing is answered. -/
def requireAuth : Svc (Option Response) := .ret none

def Memory.incident (m : Memory) (id : Nat) : Option Incident := m.incidents.find? (·.id = id)

/-- Answers with the incident as it is now. -/
def jsonIncident (code id : Nat) : Svc (Option Response) := do
  let m ← Prog.read
  json code (.incident (m.incident id))

/-- `{ id: nextEventId++, incidentId, type, payload }`. -/
def newEvent (incidentId : Nat) (payload : EventPayload) : Svc IncidentEvent := do
  let m ← Prog.read
  Prog.write { m with nextEventId := m.nextEventId + 1 }
  return ⟨m.nextEventId, incidentId, payload⟩

/-- `await commitEvent(event)`. A failed NOTIFY is ignored. -/
def commitEvent (event : IncidentEvent) : Svc Unit := do
  let m ← Prog.read
  Prog.write { m with events := m.events ++ [event] }
  if m.dbClient then
    let _ ← Prog.ask (Query.notify event.incidentId event.id event.payload)
    turn
  else turn

/-- `body.key` when it is truthy. -/
def required (body : Option Json) (key : String) : Option Json :=
  (body.bind (·.get? key)).filter fun v => truthy (some v)

/-- `Number(text)` of digits. -/
def number (text : String) : Nat := text.toList.foldl (fun n c => 10 * n + (c.toNat - '0'.toNat)) 0

/-! ## Handlers -/

def createIncident (env : Env) : Svc (Option Response) := do
  let body ← readBody env
  match required body "title", required body "severity" with
  | some title, some severity =>
    let m ← Prog.read
    let description := body.bind (·.get? "description")
    let incident : Incident := ⟨m.nextIncidentId, title, description.getD .null, severity, .str "open", []⟩
    Prog.write { m with nextIncidentId := m.nextIncidentId + 1 }
    let event ← newEvent incident.id (.CREATED title severity description)
    let m ← Prog.read
    Prog.write { m with incidents := m.incidents ++ [incident] }
    commitEvent event
    -- `await indexIncident(incident)`, a stub.
    turn
    jsonIncident 201 incident.id
  | _, _ => json 400 (.error "title and severity required")

/-- Changes the incident object with this id. -/
def amend (id : Nat) (f : Incident → Incident) : Svc Unit := do
  let m ← Prog.read
  Prog.write { m with incidents := m.incidents.map fun i => if i.id = id then f i else i }

def addComment (env : Env) (incidentId : String) : Svc (Option Response) := do
  let id := number incidentId
  let body ← readBody env
  match required body "comment" with
  | none => json 400 (.error "comment required")
  | some comment =>
    let m ← Prog.read
    match m.incident id with
    | none => json 404 .empty
    | some _ =>
      let event ← newEvent id (.COMMENT_ADDED comment)
      amend id fun i => { i with comments := i.comments ++ [comment] }
      commitEvent event
      jsonIncident 200 id

def setStatus (env : Env) (incidentId : String) : Svc (Option Response) := do
  let id := number incidentId
  let body ← readBody env
  match required body "status" with
  | none => json 400 (.error "status required")
  | some status =>
    let m ← Prog.read
    match m.incident id with
    | none => json 404 .empty
    | some _ =>
      let event ← newEvent id (.STATUS_CHANGED status)
      amend id fun i => { i with status }
      commitEvent event
      jsonIncident 200 id

/-- `uuid` is what `randomUUID()` returns. -/
def addAttachment (contentType : Option String) (incidentId uuid : String) : Svc (Option Response) := do
  let id := number incidentId
  let m ← Prog.read
  match m.incident id with
  | none => json 404 .empty
  | some _ =>
    let file ← readMultipart contentType
    match file with
    | none => json 400 (.error "file required")
    | some file =>
      let objectName := "attachments/" ++ toString id ++ "/" ++ uuid
      let m ← Prog.read
      let attachment : Attachment := ⟨m.nextAttachmentId, id, objectName, file.filename⟩
      Prog.write { m with objectStore := Function.update m.objectStore objectName (some file.data),
                          nextAttachmentId := m.nextAttachmentId + 1, attachments := m.attachments ++ [attachment] }
      let event ← newEvent id (.ATTACHMENT_ADDED attachment.id objectName file.filename)
      commitEvent event
      json 201 (.attachment attachment)

/-- `v.toLowerCase()`, which only a string has. -/
def lower (env : Env) : Json → Except Error String
  | .str s => .ok (env.toLowerCase s)
  | _ => .error .typeError

/-- `s.includes(t)`. -/
def includes (s t : String) : Bool := t.toList <:+: s.toList

/-- `v === s`. -/
def isText (v : Json) (s : String) : Bool :=
  match v with
  | .str t => t = s
  | _ => false

/-- The callback of the `q` filter. -/
def matchesQ (env : Env) (needle : String) (i : Incident) : Except Error Bool := do
  if includes (← lower env i.title) needle then return true
  else
    match i.description with
    | .null => return includes (env.toLowerCase "") needle
    | description => return includes (← lower env description) needle

def listIncidents (env : Env) (searchParams : String → Option String) : Svc (Option Response) := do
  let status := orString (searchParams "status") none
  let q := orString (searchParams "q") none
  let m ← Prog.read
  if m.dbClient then
    .await (.listIncidents status q) fun
      | some rows => json 200 (.rows rows)
      | none => .raise .rejected
  else
    let list := m.incidents.filter fun i => status.all (isText i.status)
    match q with
    | none => json 200 (.incidents list)
    | some q =>
      let list ← Prog.ofExcept (list.filterM (matchesQ env (env.toLowerCase q)))
      json 200 (.incidents list)

def getIncident (incidentId : String) : Svc (Option Response) := do
  let m ← Prog.read
  match m.incident (number incidentId) with
  | none => json 404 .empty
  | some incident => json 200 (.incident (some incident))

def getOrgUnits (opId : String) : Svc (Option Response) :=
  .await (.orgUnits opId) fun
    | some rows => json 200 (.orgUnits rows)
    | none => .raise .rejected

/-! ## The listener -/

/-- A request; its body comes later. `user` is what is attached to it before. -/
structure Incoming where
  method : String
  url : Option String
  contentType : Option String
  user : Option TactixUser
  uuid : String

def Incoming.request (req : Incoming) (target : String) : Request := ⟨req.method, target, fun _ => none, req.user⟩

/-- The branch of the listener a route names. -/
def handle (env : Env) (req : Incoming) (target : String) (searchParams : String → Option String) :
    Route → Svc (Option Response)
  | .health => json 200 .ok
  | .mePermissions | .permissions _ | .postAssignment _ | .deleteAssignment _ _ | .postRole _ | .draftMessage _
  | .submitMessage _ | .getChat _ | .postChat _ | .getTasks _ | .postTask _ | .patchTask _ _ | .activity _ => requireAuth
  | .orgUnits opId => getOrgUnits opId
  | .createIncident => createIncident env
  | .listIncidents => listIncidents env searchParams
  | .getIncident id => getIncident id
  | .comment id => addComment env id
  | .status id =>
    match requireRole ["dispatcher"] (req.request target) with
    -- `res.status` is no method of the plain `ServerResponse`.
    | .error _ => .raise .typeError
    | .ok _ => setStatus env id
  | .attachments id => addAttachment req.contentType id req.uuid
  | .notFound => json 404 .empty

def listener (env : Env) (req : Incoming) : Svc (Option Response) :=
  match orString req.url none with
  | none => json 404 .empty
  | some target =>
    match env.parseUrl target with
    | none => .raise .invalidUrl
    | some (pathname, searchParams) => do
      let m ← Prog.read
      handle env req target searchParams (routeOf m.dbClient req.method pathname)

/-! ## The listener on its event loop -/

/-- Between the turns `setClient` may run, and a client that cannot connect is given up. -/
def clients {D : Type} (set : Bool) (m : Memory) (d : D) (m' : Memory) (d' : D) : Prop :=
  m' = { m with dbClient := set } ∧ d' = d

abbrev State (D : Type) := Sys Incoming Memory D Query Query.Reply Error (Option Response)

abbrev Act := ServiceLib.Action Incoming Bool Query Query.Reply

abbrev Entries := Asked Query Query.Reply

/-- The replies are up to the world outside, bodies included. -/
abbrev ListenerStep (env : Env) {D : Type} (ans : D → (q : Query) → q.Reply → D → Prop) : State D → Act → State D → Prop :=
  Step (listener env) ans clients

namespace Sample

/-- The body of a request that creates an incident, and what `JSON.parse` makes of it. -/
def text : String := "\x7b\"title\":\"Outage\",\"severity\":\"low\"\x7d"

def body : Json := .obj [("title", .str "Outage"), ("severity", .str "low")]

def chunk : Buffer := ofBinary text.toList

/-- The body of a request that comments one. -/
def commentText : String := "\x7b\"comment\":\"Pump sent\"\x7d"

def commentChunk : Buffer := ofBinary commentText.toList

end Sample

/-- A platform that knows a few request targets and two bodies. -/
def Env.sample : Env where
  parseUrl target := [("/incidents", "/incidents", fun _ => none), ("/incidents/1", "/incidents/1", fun _ => none),
    ("/incidents/1/comment", "/incidents/1/comment", fun _ => none), ("/incidents/1/status", "/incidents/1/status", fun _ => none),
    ("/incidents?q=fire", "/incidents", fun name => if name = "q" then some "fire" else none)].lookup target
  toLowerCase s := s
  text chunk := if chunk = Sample.chunk then Sample.text else if chunk = Sample.commentChunk then Sample.commentText else ""
  parse text :=
    if text = Sample.text then some Sample.body
    else if text = Sample.commentText then some (.obj [("comment", .str "Pump sent")]) else none

/-- A request as it arrives. -/
def Incoming.sample (method url : String) : Incoming := ⟨method, some url, none, none, "0b2c"⟩

/-- A world that may reply anything. -/
def anyReply (_ : Unit) (q : Query) (_ : q.Reply) (_ : Unit) : Prop := True

end Tactix.IncidentSvc.Listener
