import Tactix.IncidentSvc.Routes
import Tactix.Lib.Locations
/-!
# The proxy of the deployment

`ops/nginx.conf` in front of the services of `docker-compose.yml`, each with the port it
listens on and the routes it has. `compose_handled_iff` says which requests a service gets
to see and answers.
-/
open Tactix.Js ServiceLib

namespace Tactix.Edge

inductive Service where
  | ui
  | bootstrap
  | auth
  | warlog
  | tak
  | incident
  | playbook
  | orders
  | realtime
  | eng
  deriving DecidableEq

/-- The path is the one nginx has normalized; `authorization` is `$http_authorization`. A body is one that parses. -/
structure Request where
  method : String
  path : String
  query : String
  authorization : String
  /-- The request asks for a WebSocket. -/
  upgrade : Bool
  deriving DecidableEq

/-! ## nginx.conf -/

/-- A `location` with a `proxy_pass`: `guarded` when it has the `if` on the header, `upgrades` when it
passes the headers of an upgrade on. -/
structure Location where
  guarded : Bool
  service : Service
  port : Nat
  uri : String
  upgrades : Bool
  deriving DecidableEq

/-- The prefix locations; `none` is the `return 200` of `/health`. -/
def locations : List (List Char × Option Location) :=
  [("/health".toList, none),
    ("/".toList, some ⟨false, .ui, 3000, "/", false⟩),
    ("/bootstrap/".toList, some ⟨false, .bootstrap, 3007, "/", false⟩),
    ("/api/auth/".toList, some ⟨false, .auth, 3001, "/", false⟩),
    ("/api/warlog/".toList, some ⟨true, .warlog, 3000, "/", false⟩),
    ("/api/tak/".toList, some ⟨true, .tak, 3000, "/", false⟩),
    ("/api/".toList, some ⟨true, .incident, 3000, "/", false⟩),
    ("/api/playbooks/".toList, some ⟨true, .playbook, 3005, "/", false⟩),
    ("/api/orders/".toList, some ⟨true, .orders, 3006, "/", false⟩),
    ("/rt/".toList, some ⟨false, .realtime, 3000, "/", true⟩),
    ("/eng/ws".toList, some ⟨true, .eng, 3000, "/eng/ws", true⟩),
    ("/eng/".toList, some ⟨true, .eng, 3000, "/", false⟩)]

/-- `~ ^/orders/.+/sections/.+/ws$`. -/
def ordersSocket (path : String) : Bool :=
  let rest := path.toList.drop "/orders/".length
  startsWith path "/orders/" && (List.range rest.length).any fun i =>
    let last := (rest.drop i).drop "/sections/".length
    i ≠ 0 && "/sections/".toList.isPrefixOf (rest.drop i) && "/ws".toList.isSuffixOf last && "/ws".length < last.length

/-- A prefix with a slash at its end but for that slash: nginx answers with a redirect to the prefix. -/
def redirects (path : String) : Bool := locations.any fun l => l.2.isSome && l.1 = path.toList ++ ['/']

inductive Passed where
  | answers (status : Nat)
  | passes (service : Service) (port : Nat) (req : Request)
  deriving DecidableEq

def Location.pass (l : Location) (key : List Char) (req : Request) : Passed :=
  if l.guarded && req.authorization = "" then .answers 401
  else .passes l.service l.port
    { req with path := l.uri ++ String.ofList (req.path.toList.drop key.length), upgrade := req.upgrade && l.upgrades }

def nginx (req : Request) : Passed :=
  if redirects req.path then .answers 301
  -- `$request_uri`, as it came.
  else if ordersSocket req.path then if req.authorization = "" then .answers 401 else .passes .orders 3006 req
  else
    match longestPrefix locations req.path.toList with
    | some (key, some l) => l.pass key req
    | some (_, none) => .answers 200
    | none => .answers 400

/-! ## The services -/

/-- A route of an Express app. -/
structure Route where
  method : String
  pattern : String

def segments (path : String) : List String :=
  let parts := split path '/'
  if 2 < parts.length ∧ parts.getLast? = some "" then parts.dropLast else parts

/-- Letter case does not matter, nor does a slash at the end. -/
def takesPath (pattern path : String) : Bool :=
  let ps := segments pattern
  let ss := segments path
  ps.length = ss.length && (ps.zip ss).all fun (p, s) =>
    if startsWith p ":" then s ≠ "" else s.toList.map Char.toLower = p.toList.map Char.toLower

def Route.takes (r : Route) (req : Request) : Bool :=
  (req.method = r.method || req.method = "HEAD" && r.method = "GET") && takesPath r.pattern req.path

/-- `handled` when a handler of the service runs or a file is sent. `silent` is a request that
`requireAuth` takes as its options: what it returns is dropped, and nothing is answered. -/
inductive Outcome where
  | status (code : Nat)
  | handled (service : Service)
  | silent
  deriving DecidableEq

def Service.routes : Service → List Route
  | .ui => [⟨"GET", "/health"⟩, ⟨"GET", "/config.js"⟩]
  | .bootstrap =>
    [⟨"GET", "/bootstrap/health"⟩, ⟨"GET", "/bootstrap/config"⟩, ⟨"POST", "/bootstrap/config"⟩,
      ⟨"GET", "/bootstrap/probe"⟩]
  | .auth => [⟨"GET", "/health"⟩, ⟨"GET", "/openapi.json"⟩, ⟨"POST", "/login"⟩, ⟨"POST", "/refresh"⟩]
  | .warlog => [⟨"GET", "/health"⟩, ⟨"GET", "/entries"⟩, ⟨"POST", "/entries"⟩]
  | .tak => [⟨"GET", "/health"⟩, ⟨"GET", "/messages"⟩]
  | .orders => [⟨"GET", "/health"⟩]
  | .realtime => [⟨"GET", "/health"⟩, ⟨"GET", "/openapi.json"⟩]
  | .eng => [⟨"GET", "/health"⟩, ⟨"POST", "/eng/messages"⟩, ⟨"GET", "/eng/messages"⟩]
  -- The listener of `incident-svc` is no Express app, and `playbook-svc` imports what is not there.
  | .incident | .playbook => []

/-- What `express.static(__dirname)` may send lies in these. -/
def uiEntries : List String :=
  ["app.tsx", "index.html", "package.json", "server.js", "Dockerfile", "src", "tests", "node_modules"]

structure Deployment where
  /-- Where a service listens, if its process starts. -/
  port : Service → Option Nat
  /-- `incident-svc` has its database. -/
  hasDb : Bool
  file : String → Bool
  file_entry : ∀ path, file path = true → path = "/" ∨ ∃ name ∈ uiEntries, startsWith path ("/" ++ name) = true

/-- The routes of a service in order; after them `orders-svc` has `app.use(requireAuth)`. -/
def Service.express (svc : Service) (req : Request) : Outcome :=
  match svc.routes.find? (·.takes req) with
  | some _ => .handled svc
  | none =>
    if svc = .orders then .silent
    -- Express answers it with the methods of the path.
    else if req.method = "OPTIONS" && svc.routes.any (takesPath ·.pattern req.path) then .status 200
    else .status 404

def Deployment.serve (d : Deployment) (req : Request) : Service → Outcome
  | .ui => if (req.method = "GET" || req.method = "HEAD") && d.file req.path then .handled .ui else Service.ui.express req
  | .incident => if IncidentSvc.routeOf d.hasDb req.method req.path = .notFound then .status 404 else .handled .incident
  | .realtime => if req.upgrade then .handled .realtime else Service.realtime.express req
  | .eng =>
    if req.upgrade then if req.path = "/eng/ws" && req.query = "" then .handled .eng else .status 502 else Service.eng.express req
  | svc => svc.express req

/-- What becomes of a request to the proxy. Nothing may listen where nginx connects. -/
def Deployment.outcome (d : Deployment) (req : Request) : Outcome :=
  match nginx req with
  | .answers code => .status code
  | .passes svc port req' => if d.port svc = some port then d.serve req' svc else .status 502

/-- The ports in `ops/env` and, where there is none, the defaults. `playbook-svc` never gets to
its `listen`: it imports `hasRole` from `@tactix/authz`, which has no such export. -/
def composePort : Service → Option Nat
  | .ui => some 3000
  | .bootstrap => some 3007
  | .auth => some 3001
  | .warlog => some 3000
  | .tak => some 3004
  | .incident => some 3002
  | .playbook => none
  | .orders => some 3006
  | .realtime => some 3003
  | .eng => some 3000

/-! ## What nginx passes on -/

section
variable {req req' : Request} {svc : Service} {port : Nat}

/-- A request that is passed on belongs to a location, and had the header where that asks for it. -/
theorem nginx_passes (h : nginx req = .passes svc port req') :
    (∃ key l, (key, some l) ∈ locations ∧ key <+: req.path.toList ∧ (l.guarded = true → req.authorization ≠ "") ∧
      svc = l.service ∧ port = l.port ∧ req' = { req with
        path := l.uri ++ String.ofList (req.path.toList.drop key.length), upgrade := req.upgrade && l.upgrades }) ∨
    (ordersSocket req.path = true ∧ req.authorization ≠ "" ∧ svc = .orders ∧ port = 3006 ∧ req' = req) := by
  unfold nginx at h
  split at h
  · cases h
  split at h
  · rename_i hsocket
    split at h
    · cases h
    · rename_i hauth
      cases h
      exact .inr ⟨hsocket, hauth, rfl, rfl, rfl⟩
  · split at h
    · rename_i key l hfound
      obtain ⟨hmem, hp, -⟩ := longestPrefix_some hfound
      unfold Location.pass at h
      split at h
      · cases h
      · rename_i hguard
        cases h
        refine .inl ⟨key, l, hmem, hp, fun hg ha => hguard ?_, rfl, rfl, rfl⟩
        rw [hg, ha]
        rfl
    · cases h
    · cases h

/-- The location of all paths that begin with a stem. -/
structure Stem (stem key : List Char) (l : Location) : Prop where
  mem : (key, some l) ∈ locations
  begins : key <+: stem
  longest : ∀ e ∈ locations, e.1 <+: stem ∨ stem <+: e.1 → e = (key, some l) ∨ e.1.length < key.length
  ends : ∀ e ∈ locations, stem <+: e.1 → e.1.length ≤ stem.length
  orders : ¬ ("/orders/".toList <+: stem ∨ stem <+: "/orders/".toList)

theorem Stem.nginx {stem key rest : List Char} {l : Location} (h : Stem stem key l) (hpath : req.path.toList = stem ++ rest) :
    nginx req = l.pass key req := by
  have hredirect : redirects req.path = false := by
    rw [redirects, List.any_eq_false]
    intro e hmem heq
    simp only [Bool.and_eq_true, decide_eq_true_eq, hpath, List.append_assoc] at heq
    have hle := h.ends e hmem (heq.2 ▸ List.prefix_append stem _)
    rw [heq.2, List.length_append, List.length_append, List.length_singleton] at hle
    omega
  have hsocket : ordersSocket req.path = false := by
    have hnot : startsWith req.path "/orders/" = false := by
      rw [startsWith, hpath, Bool.eq_false_iff, ne_eq, List.isPrefixOf_iff_prefix]
      exact fun hp => h.orders (List.prefix_or_prefix_of_prefix hp (List.prefix_append stem rest))
    rw [ordersSocket, hnot]
    rfl
  rw [Edge.nginx, hredirect, hsocket, hpath, longestPrefix_stem h.mem h.begins h.longest]
  rfl

theorem Stem.refuses {stem key rest : List Char} {l : Location} (h : Stem stem key l) (hpath : req.path.toList = stem ++ rest)
    (hguard : l.guarded = true) (hauth : req.authorization = "") : Edge.nginx req = .answers 401 := by
  rw [h.nginx hpath, Location.pass, hguard, hauth]
  rfl

/-- The `uri` takes the place of the prefix. -/
theorem Stem.passes {stem key rest below : List Char} {l : Location} (h : Stem stem key l) (hpath : req.path.toList = stem ++ rest)
    (hbelow : req.path.toList = key ++ below) (hauth : l.guarded = true → req.authorization ≠ "") : Edge.nginx req =
      .passes l.service l.port { req with path := l.uri ++ String.ofList below, upgrade := req.upgrade && l.upgrades } := by
  rw [h.nginx hpath, Location.pass, if_neg, hbelow, List.drop_left]
  intro hrefuse
  rw [Bool.and_eq_true, decide_eq_true_eq] at hrefuse
  exact hauth hrefuse.1 hrefuse.2

end

/-! ## What the services answer -/

/-- The segments of a path with at least two of them. -/
theorem segments_cons (name : String) (hname : '/' ∉ name.toList) (rest : String) :
    ∃ more, segments ("/" ++ name ++ "/" ++ rest) = "" :: name :: more := by
  have hsplit : split ("/" ++ name ++ "/" ++ rest) '/' = "" :: name :: split rest '/' := by
    have hchars : ("/" ++ name ++ "/" ++ rest).toList = [] ++ '/' :: (name.toList ++ '/' :: rest.toList) := by
      simp
    rw [split, hchars, List.splitOn_append_cons_self, List.splitOn_append_cons_self, List.splitOn_eq_singleton hname]
    simp [split]
  unfold segments
  rw [hsplit]
  dsimp only
  split
  · rename_i h
    cases htail : split rest '/' with
    | nil => exact absurd htail (by simp [split])
    | cons part parts => exact ⟨_, by rw [List.dropLast_cons_of_ne_nil (by simp), List.dropLast_cons_of_ne_nil (by simp)]⟩
  · exact ⟨_, rfl⟩

/-- Where a pattern has no parameter the path has the same name, but for letter case. -/
theorem takesPath_second {pattern path p s : String} {ps ss : List String} (h : takesPath pattern path = true)
    (hp : segments pattern = "" :: p :: ps) (hs : segments path = "" :: s :: ss) (hplain : startsWith p ":" = false) :
    s.toList.map Char.toLower = p.toList.map Char.toLower := by
  simp only [takesPath, hp, hs, List.zip_cons_cons, List.all_cons, Bool.and_eq_true] at h
  have hsecond := h.2.2.1
  simpa [hplain] using hsecond

theorem express_handled {req : Request} {svc svc' : Service} (h : svc.express req = .handled svc') : svc' = svc := by
  unfold Service.express at h
  split at h
  · exact (Outcome.handled.inj h).symm
  · split at h
    · cases h
    · split at h <;> cases h

theorem serve_handled {d : Deployment} {req : Request} {svc svc' : Service} (h : d.serve req svc = .handled svc') : svc' = svc := by
  cases svc <;> simp only [Deployment.serve] at h
  case ui =>
    split at h
    · exact (Outcome.handled.inj h).symm
    · exact express_handled h
  case incident =>
    split at h
    · cases h
    · exact (Outcome.handled.inj h).symm
  case realtime =>
    split at h
    · exact (Outcome.handled.inj h).symm
    · exact express_handled h
  case eng =>
    split at h
    · split at h
      · exact (Outcome.handled.inj h).symm
      · cases h
    · exact express_handled h
  all_goals exact express_handled h

/-- A path of the regular location is none of `orders-svc`. -/
theorem ordersSocket_unhandled {req : Request} (h : ordersSocket req.path = true) : Service.orders.express req = .silent := by
  have hstart : startsWith req.path "/orders/" = true := by
    simp only [ordersSocket, Bool.and_eq_true] at h
    exact h.1
  obtain ⟨rest, hrest⟩ := (startsWith_iff _ _).1 hstart
  obtain ⟨more, hmore⟩ := segments_cons "orders" (by decide) rest
  have hnone : takesPath "/health" req.path = false := by
    rw [Bool.eq_false_iff]
    intro htakes
    have hsegments : segments req.path = "" :: "orders" :: more := hrest ▸ hmore
    exact absurd (takesPath_second htakes (by decide : segments "/health" = ["", "health"]) hsegments (by decide)) (by decide)
  have hfind : Service.orders.routes.find? (·.takes req) = none := by
    simp [Service.routes, Route.takes, hnone]
  rw [Service.express, hfind]
  rfl

/-- Nothing listens where nginx connects for four of the services. The four others behind a prefix answer what
their own routes take of the path after it, and only with the header where nginx asks for it. -/
theorem compose_handled_iff {d : Deployment} (hport : d.port = composePort) {svc : Service} (hui : svc ≠ .ui) (heng : svc ≠ .eng)
    (req : Request) : d.outcome req = .handled svc ↔ svc ∈ [.bootstrap, .auth, .warlog, .orders] ∧
      ∃ key l rest, (key, some l) ∈ locations ∧ l.service = svc ∧ (l.guarded = true → req.authorization ≠ "") ∧
        req.path.toList = key ++ rest ∧ svc.express { req with path := "/" ++ String.ofList rest, upgrade := false } = .handled svc := by
  have hconnect : ∀ e ∈ locations, ∀ l ∈ e.2, l.service ≠ .ui ∧ l.service ≠ .eng ∧ composePort l.service = some l.port →
      l.service ∈ [.bootstrap, .auth, .warlog, .orders] ∧ l.uri = "/" ∧ l.upgrades = false := by decide
  have hbelow : ∀ e ∈ locations, ∀ l ∈ e.2, l.service ∈ [.bootstrap, .auth, .warlog, .orders] →
      ((∀ e' ∈ locations, e'.1 <+: e.1 ∨ e.1 <+: e'.1 → e' = (e.1, some l) ∨ e'.1.length < e.1.length) ∧
        (∀ e' ∈ locations, e.1 <+: e'.1 → e'.1.length ≤ e.1.length) ∧
        ¬ ("/orders/".toList <+: e.1 ∨ e.1 <+: "/orders/".toList)) ∧
      composePort l.service = some l.port ∧ l.uri = "/" ∧ l.upgrades = false := by decide
  have hserve : ∀ req', svc ∈ [.bootstrap, .auth, .warlog, .orders] → d.serve req' svc = svc.express req' := by
    intro req' hmem
    simp only [List.mem_cons, List.not_mem_nil, or_false] at hmem
    rcases hmem with rfl | rfl | rfl | rfl <;> rfl
  constructor
  · intro h
    unfold Deployment.outcome at h
    split at h
    · cases h
    · rename_i svc' port req' hpass
      split at h
      · rename_i hlistens
        obtain rfl := serve_handled h
        rcases nginx_passes hpass with ⟨key, l, hmem, hkey, hguard, rfl, rfl, rfl⟩ | ⟨hsocket, -, rfl, -, rfl⟩
        · obtain ⟨hfour, huri, hupgrades⟩ := hconnect _ hmem l rfl ⟨hui, heng, hport ▸ hlistens⟩
          obtain ⟨rest, hrest⟩ := hkey
          refine ⟨hfour, key, l, rest, hmem, rfl, hguard, hrest.symm, ?_⟩
          rw [hserve _ hfour, huri, hupgrades, ← hrest, List.drop_left, Bool.and_false] at h
          exact h
        · rw [hserve _ (by decide), ordersSocket_unhandled hsocket] at h
          cases h
      · cases h
  · rintro ⟨hfour, key, l, rest, hmem, rfl, hguard, hpath, hexpress⟩
    obtain ⟨⟨hlongest, hends, horders⟩, hlistens, huri, hupgrades⟩ := hbelow _ hmem l rfl hfour
    have hstem : Stem key key l := ⟨hmem, List.prefix_refl key, hlongest, hends, horders⟩
    have hpass := hstem.passes hpath hpath hguard
    rw [huri, hupgrades, Bool.and_false] at hpass
    rw [Deployment.outcome, hpass]
    dsimp only
    rw [hport, if_pos hlistens, hserve _ hfour, hexpress]

/-- The deployment with the files of `ui` left out. -/
def compose : Deployment := ⟨composePort, true, fun _ => false, by simp⟩

/-- A login that is sent to the path below `/api`. -/
theorem compose_login : compose.outcome ⟨"POST", "/api/auth/login", "", "", false⟩ = .handled .auth := by
  refine (compose_handled_iff rfl (by decide) (by decide) _).2 ⟨by decide, "/api/auth/".toList, ⟨false, .auth, 3001, "/", false⟩,
    "login".toList, by decide, rfl, by decide, by decide, by decide⟩

end Tactix.Edge
