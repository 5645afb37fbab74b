import Tactix.Authz
/-!
# Routes and guards of incident-svc

The listener tries its routes in order and wraps most handlers in
`requireAuth(req, res, handler)` or `requireRole([...])(req, res, handler)`.
`requireAuth` of `@tactix/authz` takes options and returns a middleware, so
the first form checks nothing and answers nothing. `requireRole` expects a
user nobody attached, and answers by a method that only Express has:
`lawful_iff` says that no guarded request is handled as it should be.
-/
open Tactix.Js Tactix.Authz

namespace Tactix.IncidentSvc

/-- The branches of the listener; a parameter is the text its pattern matched. -/
inductive Route where
  | health
  | mePermissions
  | permissions (opId : String)
  | postAssignment (opId : String)
  | deleteAssignment (opId assignmentId : String)
  | postRole (opId : String)
  | orgUnits (opId : String)
  | draftMessage (incidentId : String)
  | submitMessage (incidentId : String)
  | getChat (incidentId : String)
  | postChat (incidentId : String)
  | getTasks (incidentId : String)
  | postTask (incidentId : String)
  | patchTask (incidentId taskId : String)
  | activity (incidentId : String)
  | createIncident
  | listIncidents
  | getIncident (incidentId : String)
  | comment (incidentId : String)
  | status (incidentId : String)
  | attachments (incidentId : String)
  | notFound
  deriving DecidableEq

/-- `/^\/operations\/([^/]+)\/...$/`: the id, and the segments after it. -/
def operationPath (pathname : String) : Option (String × List String) :=
  match split pathname '/' with
  | "" :: "operations" :: op :: rest => if op ≠ "" then some (op, rest) else none
  | _ => none

/-- `/^\/incidents\/(\d+)...$/`: the id, and the segments after it. -/
def incidentPath (pathname : String) : Option (String × List String) :=
  match split pathname '/' with
  | "" :: "incidents" :: id :: rest => if id ≠ "" ∧ id.toList.all Char.isDigit then some (id, rest) else none
  | _ => none

def routeOf (hasDb : Bool) (method pathname : String) : Route :=
  if method = "GET" ∧ pathname = "/health" then .health
  else if method = "GET" ∧ pathname = "/me/effective-permissions" then .mePermissions
  else
    match operationPath pathname, hasDb, method with
    | some (op, ["permissions"]), true, "GET" => .permissions op
    | some (op, ["assignments"]), true, "POST" => .postAssignment op
    | some (op, ["assignments", id]), true, "DELETE" => if id ≠ "" then .deleteAssignment op id else .notFound
    | some (op, ["roles"]), true, "POST" => .postRole op
    | some (op, ["org-units"]), true, "GET" => .orgUnits op
    | _, _, _ =>
      match incidentPath pathname, hasDb, method with
      | some (id, ["messages", "draft"]), true, "POST" => .draftMessage id
      | some (id, ["messages", "submit"]), true, "POST" => .submitMessage id
      | some (id, ["chat"]), true, "GET" => .getChat id
      | some (id, ["chat"]), true, "POST" => .postChat id
      | some (id, ["tasks"]), true, "GET" => .getTasks id
      | some (id, ["tasks"]), true, "POST" => .postTask id
      | some (id, ["tasks", task]), true, "PATCH" => if task ≠ "" then .patchTask id task else .notFound
      | some (id, ["activity"]), true, "GET" => .activity id
      | some (id, []), _, "GET" => .getIncident id
      | some (id, ["comment"]), _, "POST" => .comment id
      | some (id, ["status"]), _, "POST" => .status id
      | some (id, ["attachments"]), _, "POST" => .attachments id
      | _, _, _ =>
        if method = "POST" ∧ pathname = "/incidents" then .createIncident
        else if method = "GET" ∧ pathname = "/incidents" then .listIncidents
        else .notFound

/-- The routes that work on a body and change the incidents or their files. -/
def Route.takesBody : Route → Bool
  | .createIncident | .comment _ | .status _ | .attachments _ => true
  | _ => false

/-- These routes are the same with a database and without. -/
theorem routeOf_takesBody {hasDb : Bool} {method pathname : String} {route : Route}
    (h : routeOf hasDb method pathname = route) (hr : route.takesBody = true) : routeOf false method pathname = route := by
  cases hasDb with
  | false => exact h
  | true =>
    subst h
    revert hr
    unfold routeOf
    split
    · simp
    split
    · simp
    intro hr
    grind [Route.takesBody]

inductive Guard where
  | none
  | requireAuth
  | requireRole (roles : List String)
  deriving DecidableEq

/-- How the listener wraps a route's handler. -/
def Route.guard : Route → Guard
  | .mePermissions | .permissions _ | .postAssignment _ | .deleteAssignment .. | .postRole _ | .draftMessage _
  | .submitMessage _ | .getChat _ | .postChat _ | .getTasks _ | .postTask _ | .patchTask .. | .activity _ => .requireAuth
  | .status _ => .requireRole ["dispatcher"]
  | .health | .orgUnits _ | .createIncident | .listIncidents | .getIncident _ | .comment _ | .attachments _
  | .notFound => .none

/-- What a request led to: the `req.user.sub` each run of the wrapped handler
reads, the status that was answered without one, and whether the listener threw. -/
structure Outcome where
  handled : List (Option String)
  status : Option Nat
  threw : Bool

/-- `req.user!.sub`. The user `@tactix/authz` attaches has no such property. -/
def userSub (_req : Request) : Option String := none

/-- The options `requireAuth` reads when it is given a request: neither of the
two properties is there. -/
def optsOfRequest (_req : Request) : RequireAuthOpts := ⟨none, none⟩

/-- `return requireAuth(req, res, handler)`: the listener returns the middleware
it gets, and `http.createServer` ignores what a listener returns. -/
def returned (_middleware : Middleware) : Outcome := ⟨[], none, false⟩

/-- `res.status(n)` of a middleware. The listener's `res` is a plain
`http.ServerResponse`, which has no method `status`: the call throws. -/
def resStatus (_n : Nat) : Outcome := ⟨[], none, true⟩

/-- `middleware(req, res, handler)`. -/
def applied (middleware : Middleware) (req : Request) : Outcome :=
  match middleware req with
  | .ok req' => ⟨[userSub req'], none, false⟩
  | .error n => resStatus n

/-- The guarded branches of the listener, and the 404 at its end. -/
def serve (jwt : JsonWebToken) (env : Env) (now : Nat) (hasDb : Bool) (req : Request) : Outcome :=
  match (routeOf hasDb req.method req.path).guard with
  | .none => if routeOf hasDb req.method req.path = .notFound then ⟨[], some 404, false⟩ else ⟨[userSub req], none, false⟩
  -- The request lands in `opts`; `res` and the handler are dropped.
  | .requireAuth => returned (Authz.requireAuth jwt env now (optsOfRequest req))
  | .requireRole roles => applied (Authz.requireRole roles) req

/-! ## What the guards should do -/

/-- The guarded handler runs once, as the token's subject, when the request
presents a token that verifies and has one of the roles asked for; otherwise
it does not run, and the answer is 401, or 403 when a role is missing.
`rolesOf` reads the roles of a token. -/
def GuardLaw (verify : String → Option Payload) (rolesOf : Payload → List String) (req : Request) (o : Outcome) :
    Guard → Prop
  | .none => True
  | .requireAuth =>
    (∀ p, Presents verify req p → o = ⟨[p.sub], none, false⟩) ∧
    ((¬ ∃ p, Presents verify req p) → o = ⟨[], some 401, false⟩)
  | .requireRole roles =>
    (∀ p, Presents verify req p → (∃ r ∈ roles, r ∈ rolesOf p) → o = ⟨[p.sub], none, false⟩) ∧
    (∀ p, Presents verify req p → (¬ ∃ r ∈ roles, r ∈ rolesOf p) → o = ⟨[], some 403, false⟩) ∧
    ((¬ ∃ p, Presents verify req p) → o = ⟨[], some 401, false⟩)

/-- `GuardLaw` for a request as it arrives, with no user attached yet. -/
def Lawful (jwt : JsonWebToken) (env : Env) (now : Nat) (rolesOf : Payload → List String) (hasDb : Bool)
    (method path : String) (headers : String → Option String) : Prop :=
  GuardLaw (verifyJwtRS256 jwt (unescapeNewlines env.PUBLIC_JWT_KEY) now) rolesOf ⟨method, path, headers, none⟩
    (serve jwt env now hasDb ⟨method, path, headers, none⟩) (routeOf hasDb method path).guard

/-- Under any guard, either the handler runs or the request is answered. -/
theorem silent_unlawful {verify : String → Option Payload} {rolesOf : Payload → List String} {req : Request}
    {o : Outcome} {g : Guard} (hg : g ≠ .none) (hh : o.handled = []) (hs : o.status = none) :
    ¬ GuardLaw verify rolesOf req o g := by
  intro hl
  by_cases hp : ∃ p, Presents verify req p
  · obtain ⟨p, hp⟩ := hp
    cases g with
    | none => exact hg rfl
    | requireAuth => simp [hl.1 p hp] at hh
    | requireRole roles =>
      by_cases hr : ∃ r ∈ roles, r ∈ rolesOf p
      · simp [hl.1 p hp hr] at hh
      · simp [hl.2.1 p hp hr] at hs
  · cases g with
    | none => exact hg rfl
    | requireAuth => simp [hl.2 hp] at hs
    | requireRole roles => simp [hl.2.2 hp] at hs

/-- A guarded request runs no handler and gets no answer: `requireAuth` is not
applied to it, and `requireRole` finds no user and throws. -/
theorem serve_silent (jwt : JsonWebToken) (env : Env) (now : Nat) (hasDb : Bool) (req : Request)
    (hu : req.user = none) (hg : (routeOf hasDb req.method req.path).guard ≠ .none) :
    (serve jwt env now hasDb req).handled = [] ∧ (serve jwt env now hasDb req).status = none := by
  unfold serve
  cases h : (routeOf hasDb req.method req.path).guard with
  | none => exact absurd h hg
  | requireAuth => exact ⟨rfl, rfl⟩
  | requireRole roles => simp [applied, Authz.requireRole, hu, resStatus]

/-- The law holds of no guarded request, whatever its headers. -/
theorem lawful_iff (jwt : JsonWebToken) (env : Env) (now : Nat) (rolesOf : Payload → List String) (hasDb : Bool)
    (method path : String) (headers : String → Option String) :
    Lawful jwt env now rolesOf hasDb method path headers ↔ (routeOf hasDb method path).guard = .none := by
  constructor
  · intro hl
    by_contra hg
    obtain ⟨hh, hs⟩ := serve_silent jwt env now hasDb ⟨method, path, headers, none⟩ rfl hg
    exact silent_unlawful hg hh hs hl
  · intro hg
    rw [Lawful, hg]
    trivial

/-- A valid token gets no answer from `GET /incidents/1/chat`, and neither does
a request without one from `POST /incidents/1/status`. -/
theorem guards_unlawful :
    ¬ Lawful (.accepting [("t", ⟨some "ana", none, none, none, none⟩)]) ⟨"key", []⟩ 0 (fun p => p.roles.getD []) true
      "GET" "/incidents/1/chat" (fun h => if h = "authorization" then some "Bearer t" else none) ∧
    ¬ Lawful (.accepting []) ⟨"key", []⟩ 0 (fun p => p.roles.getD []) true "POST" "/incidents/1/status"
      (fun _ => none) := by
  have hchat : routeOf true "GET" "/incidents/1/chat" = .getChat "1" := by decide
  have hstatus : routeOf true "POST" "/incidents/1/status" = .status "1" := by decide
  constructor
  · simp only [Lawful, serve, hchat]
    exact silent_unlawful (by decide) rfl rfl
  · simp only [Lawful, serve, hstatus]
    exact silent_unlawful (by decide) rfl rfl

end Tactix.IncidentSvc
