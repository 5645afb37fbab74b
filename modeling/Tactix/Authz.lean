import Tactix.Js
/-!
# `@tactix/authz`

The token check every service shares. `jsonwebtoken` is third-party code, so
its `verify` is a parameter with the behaviour the services rely on.
-/
open Tactix.Js

namespace Tactix.Authz

/-- The claims of a token payload the services read. A list claim is `none`
when it is absent or not an array. -/
structure Payload where
  sub : Option String
  upn : Option String
  name : Option String
  ad_groups : Option (List String)
  roles : Option (List String)

/-- `jsonwebtoken`: `verify now token key algorithms` is the payload, or `none`
when the call throws. -/
structure JsonWebToken where
  verify : Nat → String → String → List String → Option Payload
  /-- The token's RS256 signature checks under the key. -/
  SignedRS256 : String → String → Prop
  Expired : Nat → String → Prop
  verify_rs256 : ∀ now token key p, verify now token key ["RS256"] = some p →
    SignedRS256 key token ∧ ¬ Expired now token

/-- The library as a table of the tokens it accepts, for concrete runs. -/
def JsonWebToken.accepting (tokens : List (String × Payload)) : JsonWebToken where
  verify _ token _ _ := tokens.lookup token
  SignedRS256 _ token := (tokens.lookup token).isSome
  Expired _ _ := False
  verify_rs256 _ _ _ _ h := ⟨by simp [h], not_false⟩

structure TactixUser where
  upn : Option String
  name : Option String
  ad_groups : List String
  roles : List String

/-- One rule of the role mapping: its regular expression, as the test it makes. -/
structure RoleRule where
  regex : String → Bool
  roles : List String

abbrev RoleMapper := List RoleRule

/-- `verifyJwtRS256(publicKey).verify`. -/
def verifyJwtRS256 (jwt : JsonWebToken) (publicKey : String) (now : Nat) (token : String) : Option Payload :=
  jwt.verify now token (unescapeNewlines publicKey) ["RS256"]

/-- `acc.add(r)` on a set kept in insertion order. -/
def setAdd (acc : List String) (r : String) : List String := if r ∈ acc then acc else acc ++ [r]

def resolveRoles (ad_groups : List String) (mapper : RoleMapper) : List String :=
  ad_groups.foldl (fun acc g =>
    mapper.foldl (fun acc rule => if rule.regex g then rule.roles.foldl setAdd acc else acc) acc) []

/-- The `user` object built from a verified payload. -/
def userOf (payload : Payload) (mapper : RoleMapper) : TactixUser :=
  let ad_groups := payload.ad_groups.getD []
  { upn := orString payload.upn payload.sub, name := payload.name, ad_groups,
    roles := resolveRoles ad_groups mapper }

/-- An HTTP request: header names are lower case, `path` is the path as sent,
`user` is what a middleware attached. -/
structure Request where
  method : String
  path : String
  headers : String → Option String
  user : Option TactixUser

/-- What a middleware does with a request: call `res.status` to answer it, or
call `next` with the request it may have changed. -/
abbrev Middleware := Request → Except Nat Request

/-- The environment variables read at start-up. -/
structure Env where
  PUBLIC_JWT_KEY : String
  /-- What `roleMapperFromEnv()` returns. -/
  roleMapper : RoleMapper

structure RequireAuthOpts where
  publicKey : Option String
  roleMapper : Option RoleMapper

/-- The check `requireAuth` and the gateway's `authMiddleware` make. -/
def bearer (verify : String → Option Payload) (mapper : RoleMapper) : Middleware := fun req =>
  match req.headers "authorization" with
  | none => .error 401
  | some header =>
    if startsWith header "Bearer " then
      match verify (slice header 7) with
      | none => .error 401
      | some payload => .ok { req with user := some (userOf payload mapper) }
    else .error 401

def requireAuth (jwt : JsonWebToken) (env : Env) (now : Nat) (opts : RequireAuthOpts) : Middleware :=
  let pub := unescapeNewlines ((orString opts.publicKey (some env.PUBLIC_JWT_KEY)).getD "")
  bearer (verifyJwtRS256 jwt pub now) (opts.roleMapper.getD env.roleMapper)

def requireRole (roles : List String) : Middleware := fun req =>
  match req.user with
  | none => .error 403
  | some user => if roles.any (· ∈ user.roles) then .ok req else .error 403

/-- The request of a WebSocket connection. -/
structure IncomingMessage where
  url : String
  headers : String → Option String

/-- The token of a WebSocket. `searchToken` is the `token` parameter of a URL, `none`
when there is none or `new URL` throws. -/
def extractToken (searchToken : String → Option String) (req : IncomingMessage) : Option String :=
  let t := orString (searchToken req.url) none
  match req.headers "sec-websocket-protocol" with
  | none => t
  | some proto =>
    match (split proto ',').map trim with
    | "bearer" :: token :: _ => orString (some token) t
    | _ => t

/-- The `connection` handler of `wsAuth`: the user it attaches, or the code it closes
the socket with. -/
def wsAuth (jwt : JsonWebToken) (env : Env) (searchToken : String → Option String) (now : Nat) (opts : RequireAuthOpts)
    (req : IncomingMessage) : Except Nat TactixUser :=
  let pub := unescapeNewlines ((orString opts.publicKey (some env.PUBLIC_JWT_KEY)).getD "")
  match extractToken searchToken req with
  | none => .error 1008
  | some token =>
    match verifyJwtRS256 jwt pub now token with
    | none => .error 1008
    | some payload => .ok (userOf payload (opts.roleMapper.getD env.roleMapper))

/-- The request carries `Authorization: Bearer t` for a token that verifies
with payload `p`. -/
def Presents (verify : String → Option Payload) (req : Request) (p : Payload) : Prop :=
  ∃ t, req.headers "authorization" = some ("Bearer " ++ t) ∧ verify t = some p

/-- `bearer` lets a request through exactly when it presents a token that
verifies, and then attaches that token's user. -/
theorem bearer_ok_iff (verify : String → Option Payload) (mapper : RoleMapper) (req req' : Request) :
    bearer verify mapper req = .ok req' ↔
      ∃ p, Presents verify req p ∧ req' = { req with user := some (userOf p mapper) } := by
  unfold bearer Presents
  constructor
  · intro h
    split at h
    · cases h
    · rename_i header hh
      split at h
      · rename_i hb
        obtain ⟨t, rfl⟩ := (startsWith_iff _ _).1 hb
        rw [show slice ("Bearer " ++ t) 7 = t from slice_append "Bearer " t] at h
        split at h
        · cases h
        · rename_i p hp
          cases h
          exact ⟨p, ⟨t, hh, hp⟩, rfl⟩
      · cases h
  · rintro ⟨p, ⟨t, hh, hp⟩, rfl⟩
    rw [hh]
    simp only [(startsWith_iff ("Bearer " ++ t) "Bearer ").2 ⟨t, rfl⟩, if_true,
      show slice ("Bearer " ++ t) 7 = t from slice_append "Bearer " t, hp]

/-- What `bearer` does with a request that presents a token depends on the token alone. -/
theorem bearer_admits {verify : String → Option Payload} {mapper : RoleMapper} {req : Request} {t : String}
    (h : req.headers "authorization" = some ("Bearer " ++ t)) :
    (∃ req', bearer verify mapper req = .ok req') ↔ (verify t).isSome := by
  simp only [bearer_ok_iff, Presents, Option.isSome_iff_exists]
  constructor
  · rintro ⟨req', p, ⟨t', ht', hp⟩, -⟩
    have heq : slice ("Bearer " ++ t) 7 = slice ("Bearer " ++ t') 7 := by rw [Option.some.inj (h.symm.trans ht')]
    rw [show slice ("Bearer " ++ t) 7 = t from slice_append "Bearer " t,
      show slice ("Bearer " ++ t') 7 = t' from slice_append "Bearer " t'] at heq
    exact ⟨p, heq ▸ hp⟩
  · rintro ⟨p, hp⟩
    exact ⟨_, p, ⟨t, h, hp⟩, rfl⟩

end Tactix.Authz
