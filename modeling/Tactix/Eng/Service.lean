import Mathlib.Logic.Function.Basic
import Tactix.Authz
import Tactix.Lib.Runs
/-!
# The engineering chat

`eng-svc`: its middleware, `POST /eng/messages`, the upgrade handler, and the
steps of the whole service. A chat message leaves by NATS and comes back to every
WebSocket in `wsClients`.
-/
open Tactix.Js Tactix.Authz

namespace Tactix.Eng

/-- The environment of a start. `verify now token key` is the payload
`jwt.verify(token, key)` returns, `none` when it throws; `isoTime` is
`toISOString`. -/
structure Env where
  ORG_CODE : Option String
  ENG_ALLOWED_ROLES : Option String
  instanceId : String
  JWT_PUBLIC_KEY : Option String
  verify : Nat → String → String → Option Json
  isoTime : Nat → String

def Env.orgCode (env : Env) : String := env.ORG_CODE.getD ""

def Env.allowedRoles (env : Env) : List String := split (env.ENG_ALLOWED_ROLES.getD "") ','

/-- `s.replace(pattern, '')`: the first occurrence goes. -/
def removeFirst (pattern : List Char) : List Char → List Char
  | [] => []
  | c :: cs => if pattern.isPrefixOf (c :: cs) then (c :: cs).drop pattern.length else c :: removeFirst pattern cs

/-- `payload.roles || []` when it has a method `some`; `none` when the test throws. -/
def rolesOf (payload : Json) : Option (List Json) :=
  match payload with
  | .null => none
  | payload =>
    let roles := payload.get? "roles"
    if truthy roles then
      match roles with
      | some (.arr rs) => some rs
      | _ => none
    else some []

/-- `allowedRoles.includes(r)`. -/
def allows (allowedRoles : List String) : Json → Bool
  | .str r => r ∈ allowedRoles
  | _ => false

/-- The middleware of the REST routes: the payload it attaches, or its status. -/
def authenticate (env : Env) (now : Nat) (headers : String → Option String) : Except Nat Json :=
  match orString (headers "authorization") none with
  | none => .error 401
  | some auth =>
    let token := String.ofList (removeFirst "Bearer ".toList auth.toList)
    match env.verify now token (env.JWT_PUBLIC_KEY.getD "") with
    | none => .error 401
    | some payload =>
      match rolesOf payload with
      | none => .error 401
      | some roles => if roles.any (allows env.allowedRoles) then .ok payload else .error 403

/-- A REST request, its body as `express.json()` leaves it. -/
structure Request where
  headers : String → Option String
  body : Json

/-- `v || ''`. -/
def orEmpty (v : Option Json) : Json := if truthy v then v.getD .null else .str ""

/-- `POST /eng/messages`: the subject and the envelope it publishes, or its status. -/
def postMessage (env : Env) (now : Nat) (req : Request) : Except Nat (String × Json) :=
  match authenticate env now req.headers with
  | .error status => .error status
  | .ok user =>
    match str? (req.body.get? "operationCode"), str? (req.body.get? "text") with
    | some operationCode, some text =>
      let fromUser := .obj [("upn", orEmpty (user.get? "upn")), ("display", orEmpty (user.get? "display"))]
      .ok ("eng." ++ env.orgCode ++ "." ++ operationCode ++ ".chat",
        .obj [("orgCode", .str env.orgCode), ("operationCode", .str operationCode), ("fromInstanceId", .str env.instanceId),
          ("fromUser", fromUser), ("text", .str text), ("sentAt", .str (env.isoTime now)), ("schema", .str "engchat.v1")])
    | _, _ => .error 400

/-- The path of the upgrade handler. -/
def servedPath (req : IncomingMessage) : Bool := req.url = "/eng/ws"

/-! ## The service -/

/-- A WebSocket with the request and the time of its upgrade. -/
structure Client where
  request : IncomingMessage
  openedAt : Nat

structure State where
  now : Nat
  /-- `nc` is set and subscribed. -/
  subscribed : Bool
  wsClients : List Nat
  /-- Every WebSocket there ever was. -/
  clients : Nat → Option Client
  published : List (String × Json)
  /-- The messages sent on a WebSocket. -/
  forwarded : List (Nat × String)

def State.init (now : Nat) : State := ⟨now, false, [], fun _ => none, [], []⟩

inductive Action where
  | tick (n : Nat)
  | connectNats
  | upgrade (ws : Nat) (req : IncomingMessage) (handshake : Bool)
  | post (req : Request)
  | nats (msg : String) (sends : Nat → Bool)
  | close (ws : Nat)

/-- One step; `none` when it cannot happen. `handshake` is whether `handleUpgrade`
completes, and `sends` which of the calls of `ws.send` do not throw. -/
def State.next (env : Env) (s : State) : Action → Option State
  | .tick n => some { s with now := s.now + n }
  | .connectNats => some { s with subscribed := true }
  | .upgrade ws req handshake =>
    if (s.clients ws).isSome then none
    else if servedPath req && handshake then
      some { s with wsClients := s.wsClients ++ [ws], clients := Function.update s.clients ws (some ⟨req, s.now⟩) }
    else some s
  | .post req =>
    match postMessage env s.now req with
    | .ok message => some (if s.subscribed then { s with published := s.published ++ [message] } else s)
    | .error _ => some s
  | .nats msg sends =>
    if s.subscribed then
      some { s with forwarded := s.forwarded ++ (s.wsClients.filter sends).map fun ws => (ws, msg) }
    else none
  | .close ws => some { s with wsClients := s.wsClients.filter (· ≠ ws) }

def Step (env : Env) (s : State) (a : Action) (s' : State) : Prop := s.next env a = some s'

/-! ## The middleware -/

/-- The part of `authenticate` that looks at the token. -/
theorem authenticate_bearer (env : Env) (now : Nat) {headers : String → Option String} {token : String}
    (h : headers "authorization" = some ("Bearer " ++ token)) : authenticate env now headers =
      match env.verify now token (env.JWT_PUBLIC_KEY.getD "") with
      | none => .error 401
      | some payload =>
        match rolesOf payload with
        | none => .error 401
        | some roles => if roles.any (allows env.allowedRoles) then .ok payload else .error 403 := by
  have hauth : orString (headers "authorization") none = some ("Bearer " ++ token) := by
    rw [h]
    exact orString_ne (by simp [String.append_eq_empty_iff]) none
  have htoken : String.ofList (removeFirst "Bearer ".toList ("Bearer " ++ token).toList) = token := by
    rw [String.toList_append]
    change String.ofList (if "Bearer ".toList.isPrefixOf ("Bearer ".toList ++ token.toList) then
      ("Bearer ".toList ++ token.toList).drop "Bearer ".toList.length else _) = token
    rw [if_pos (List.isPrefixOf_iff_prefix.2 (List.prefix_append _ _)), List.drop_left, String.ofList_toList]
  rw [authenticate, hauth]
  dsimp only
  rw [htoken]

end Tactix.Eng
