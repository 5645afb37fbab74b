import Mathlib.Logic.Equiv.List
import Tactix.AuthService.Tokens
import Tactix.Gateway
import Tactix.Realtime.Upgrade
/-!
# Two kinds of tokens

Five places check a token of `auth-service`. Only `POST /refresh` looks at the
audience: `kinds_iff` says that an issued token is taken for what it is exactly
when it is not a refresh token that is still valid.
-/
open Tactix.Js Tactix.Authz ServiceLib

namespace Tactix.AuthService

/-- The services of an installation, which share the key pair of `auth-service`. -/
structure Deployment where
  jwt : Jwt
  auth : Env
  authz : Authz.Env
  opts : RequireAuthOpts
  searchToken : String → Option String
  realtime : Realtime.Env
  pair : jwt.KeyPair auth.PRIVATE_KEY auth.PUBLIC_KEY
  gatewayKey : unescapeNewlines authz.PUBLIC_JWT_KEY = auth.PUBLIC_KEY
  optsKey : unescapeNewlines ((orString opts.publicKey (some authz.PUBLIC_JWT_KEY)).getD "") = auth.PUBLIC_KEY
  realtimeKey : realtime.PUBLIC_KEY = auth.PUBLIC_KEY
  realtimeJwt : realtime.jwt = jwt.toJsonWebToken
  authzLoads : realtime.authzLoads = true

/-- An access token that has not expired. -/
def Claims.Access (c : Claims) (now : Nat) : Prop := c.aud = some "tactix" ∧ now < c.exp

/-- A refresh token that has not expired. -/
def Claims.Refresh (c : Claims) (now : Nat) : Prop := c.aud = some "refresh" ∧ now < c.exp

/-- Every check takes the token for what it is: `requireAuth`, the gateway's guard,
`wsAuth`, the upgrade of the realtime service, and `POST /refresh`. -/
structure KindsApart (dep : Deployment) (now : Nat) (i : Issued) : Prop where
  requireAuth : ∀ req : Request, req.headers "authorization" = some ("Bearer " ++ i.token) →
    ((∃ req', requireAuth dep.jwt.toJsonWebToken dep.authz now dep.opts req = .ok req') ↔ i.claims.Access now)
  gateway : ∀ req : Request, req.headers "authorization" = some ("Bearer " ++ i.token) →
    ((∃ req', Gateway.authMiddleware dep.jwt.toJsonWebToken dep.authz now req = .ok req') ↔ i.claims.Access now)
  wsAuth : ∀ req, extractToken dep.searchToken req = some i.token →
    ((∃ user, wsAuth dep.jwt.toJsonWebToken dep.authz dep.searchToken now dep.opts req = .ok user) ↔ i.claims.Access now)
  realtime : ∀ req, Realtime.servedPath req = true → Realtime.extractToken dep.realtime req = some i.token →
    ((∃ user, Realtime.upgrade dep.realtime now req = some user) ↔ i.claims.Access now)
  refresh : (∃ access, refresh dep.jwt dep.auth now (some i.token) = .ok access) ↔ i.claims.Refresh now

section
variable {dep : Deployment} {i : Issued}

/-- The check of `@tactix/authz` looks at the expiry alone. -/
theorem verify_genuine (hg : Genuine dep.jwt dep.auth i) (now : Nat) {key : String}
    (hkey : unescapeNewlines key = dep.auth.PUBLIC_KEY) :
    (verifyJwtRS256 dep.jwt.toJsonWebToken key now i.token).isSome ↔ now < i.claims.exp := by
  rw [verifyJwtRS256, hkey, hg.signed, dep.jwt.verify_signed dep.pair]
  split <;> simp [*]

theorem requireAuth_genuine (hg : Genuine dep.jwt dep.auth i) (now : Nat) {req : Request}
    (h : req.headers "authorization" = some ("Bearer " ++ i.token)) :
    (∃ req', requireAuth dep.jwt.toJsonWebToken dep.authz now dep.opts req = .ok req') ↔ now < i.claims.exp := by
  rw [requireAuth, bearer_admits h]
  exact verify_genuine hg now (by rw [unescapeNewlines_idem, dep.optsKey])

theorem gateway_genuine (hg : Genuine dep.jwt dep.auth i) (now : Nat) {req : Request}
    (h : req.headers "authorization" = some ("Bearer " ++ i.token)) :
    (∃ req', Gateway.authMiddleware dep.jwt.toJsonWebToken dep.authz now req = .ok req') ↔ now < i.claims.exp := by
  rw [Gateway.authMiddleware, bearer_admits h]
  exact verify_genuine hg now (by rw [unescapeNewlines_idem, dep.gatewayKey])

theorem wsAuth_genuine (hg : Genuine dep.jwt dep.auth i) (now : Nat) {req : IncomingMessage}
    (h : extractToken dep.searchToken req = some i.token) :
    (∃ user, wsAuth dep.jwt.toJsonWebToken dep.authz dep.searchToken now dep.opts req = .ok user) ↔
      now < i.claims.exp := by
  have hkey : unescapeNewlines (unescapeNewlines ((orString dep.opts.publicKey (some dep.authz.PUBLIC_JWT_KEY)).getD ""))
      = dep.auth.PUBLIC_KEY := by
    rw [unescapeNewlines_idem, dep.optsKey]
  rw [← verify_genuine hg now hkey, wsAuth, h]
  dsimp only
  split <;> simp [*]

theorem realtime_genuine (hg : Genuine dep.jwt dep.auth i) (now : Nat) {req : Realtime.UpgradeRequest}
    (hpath : Realtime.servedPath req = true) (h : Realtime.extractToken dep.realtime req = some i.token) :
    (∃ user, Realtime.upgrade dep.realtime now req = some user) ↔ now < i.claims.exp := by
  have hkey : unescapeNewlines dep.realtime.PUBLIC_KEY = dep.auth.PUBLIC_KEY := by
    rw [Realtime.Env.PUBLIC_KEY, unescapeNewlines_idem, ← Realtime.Env.PUBLIC_KEY, dep.realtimeKey]
  have hverify := verify_genuine hg now hkey
  simp only [Realtime.upgrade_some, hpath, h, Realtime.Env.verify, dep.authzLoads, dep.realtimeJwt, if_true]
  rw [← hverify, Option.isSome_iff_exists]
  constructor
  · rintro ⟨user, -, token, p, ht, hp, -⟩
    cases ht
    exact ⟨p, hp⟩
  · rintro ⟨p, hp⟩
    exact ⟨_, trivial, _, p, rfl, hp, rfl⟩

/-- `POST /refresh` looks at the audience too. -/
theorem refresh_genuine (hg : Genuine dep.jwt dep.auth i) (now : Nat) :
    (∃ access, refresh dep.jwt dep.auth now (some i.token) = .ok access) ↔ i.claims.Refresh now := by
  have hne : orString (some i.token) none = some i.token := by
    have hnonempty := dep.jwt.sign_nonempty i.claims dep.auth.PRIVATE_KEY
    rw [← hg.signed] at hnonempty
    exact orString_ne hnonempty none
  obtain ⟨ttl, httl⟩ := Option.ne_none_iff_exists'.1 hg.ttl
  simp only [refresh, hne, sign, httl, Option.map_some]
  rw [hg.signed, dep.jwt.verifyFor_signed dep.pair]
  by_cases hr : i.claims.Refresh now
  · rw [if_pos ⟨hr.2, hr.1, hg.iss⟩]
    exact ⟨fun _ => hr, fun _ => ⟨_, rfl⟩⟩
  · rw [if_neg fun h => hr ⟨h.2.1, h.1⟩]
    simp [hr]

/-- A request that presents a token. -/
def presenting (t : String) : Request :=
  ⟨"GET", "/api/incidents", fun name => if name = "authorization" then some ("Bearer " ++ t) else none, none⟩

end

/-- A token the service has issued is taken for what it is by every check, at any
time, exactly when it is not a refresh token that is still valid. -/
theorem kinds_iff (dep : Deployment) {start : Nat} {s : State}
    (h : Reachable (Step dep.jwt dep.auth) ⟨start, []⟩ s) {i : Issued} (hi : i ∈ s.issued) (now : Nat) :
    KindsApart dep now i ↔ ¬ i.claims.Refresh now := by
  have hg := issued_genuine h i hi
  constructor
  · intro hk hr
    -- `requireAuth` admits it as an access token.
    have ha := (hk.requireAuth (presenting i.token) rfl).1 ((requireAuth_genuine hg now rfl).2 hr.2)
    exact absurd (hr.1.symm.trans ha.1) (by decide)
  · intro hr
    have haccess : now < i.claims.exp ↔ i.claims.Access now := by
      constructor
      · intro hexp
        exact ⟨hg.aud.resolve_right fun haud => hr ⟨haud, hexp⟩, hexp⟩
      · exact fun ha => ha.2
    exact ⟨fun req hreq => (requireAuth_genuine hg now hreq).trans haccess,
      fun req hreq => (gateway_genuine hg now hreq).trans haccess,
      fun req hreq => (wsAuth_genuine hg now hreq).trans haccess,
      fun req hpath hreq => (realtime_genuine hg now hpath hreq).trans haccess, refresh_genuine hg now⟩

/-! ## An installation -/

namespace Sample

def codes (s : String) : List Nat := s.toList.map Char.toNat

def text (l : List Nat) : String := String.ofList (l.map Char.ofNat)

@[simp] theorem text_codes (s : String) : text (codes s) = s := by
  simp [text, codes, Function.comp_def]

/-- Claims as a number. -/
def encode (c : Claims) : Nat :=
  Encodable.encode (c.sub.map codes, c.name.map codes, c.ad_groups.map (·.map codes), c.iss.map codes, c.aud.map codes,
    c.exp.toNat, (-c.exp).toNat)

abbrev Code :=
  Option (List Nat) × Option (List Nat) × Option (List (List Nat)) × Option (List Nat) × Option (List Nat) × Nat × Nat

def decode (n : Nat) : Option Claims :=
  (Encodable.decode (α := Code) n).map fun (sub, name, ad_groups, iss, aud, exp, neg) =>
    ⟨sub.map text, name.map text, ad_groups.map (·.map text), iss.map text, aud.map text, exp - neg⟩

theorem decode_encode (c : Claims) : decode (encode c) = some c := by
  have hexp : max c.exp 0 - max (-c.exp) 0 = c.exp := by omega
  simp [decode, encode, Function.comp_def, hexp]

/-- A library whose tokens are their claims, in unary. It does not need a key. -/
def token (c : Claims) : String := String.ofList (List.replicate (encode c + 1) 'x')

def claims (token : String) : Option Claims := decode (token.toList.length - 1)

theorem claims_token (c : Claims) : claims (token c) = some c := by
  simp [claims, token, decode_encode]

def jwt : Jwt where
  verify now t _ _ := (claims t).bind fun c => if now < c.exp then some c.payload else none
  SignedRS256 _ t := (claims t).isSome
  Expired now t := ∃ c, claims t = some c ∧ c.exp ≤ now
  verify_rs256 := by
    intro now t key p h
    obtain ⟨c, hc, hp⟩ := Option.bind_eq_some_iff.1 h
    refine ⟨by simp [hc], ?_⟩
    rintro ⟨c', hc', hle⟩
    obtain rfl := Option.some.inj (hc.symm.trans hc')
    rw [if_neg (by omega)] at hp
    cases hp
  sign c _ := token c
  verifyFor now t _ _ audience issuer := (claims t).bind fun c =>
    if now < c.exp ∧ c.aud = some audience ∧ c.iss = some issuer then some c else none
  KeyPair _ _ := True
  sign_nonempty c _ := by simp [token]
  verify_signed _ now c := by simp [claims_token]
  verifyFor_signed _ now c audience issuer := by simp [claims_token]

/-- Access tokens live for 15 minutes and refresh tokens for 7 days. -/
def deployment : Deployment where
  jwt := jwt
  auth := ⟨none, none, none, some 900, some 604800⟩
  authz := ⟨"", []⟩
  opts := ⟨none, none⟩
  searchToken _ := none
  realtime := ⟨jwt.toJsonWebToken, true, none, [], fun _ => none⟩
  pair := trivial
  gatewayKey := rfl
  optsKey := rfl
  realtimeKey := rfl
  realtimeJwt := rfl
  authzLoads := rfl

/-- Ana logs in. -/
def login : Action := .login (some "ana") (some "secret") (some (["IMO"], "Ana"))

def access : Issued :=
  let claims : Claims := ⟨some "ana", some "Ana", some ["IMO"], some "tactix-auth", some "tactix", 900⟩
  ⟨token claims, claims⟩

def refresh : Issued :=
  let claims : Claims := ⟨some "ana", some "Ana", some ["IMO"], some "tactix-auth", some "refresh", 604800⟩
  ⟨token claims, claims⟩

theorem issued : Reachable (Step deployment.jwt deployment.auth) ⟨0, []⟩ ⟨0, [access, refresh]⟩ :=
  Reachable.refl.next login rfl

end Sample

/-- Her access token is taken for one. -/
theorem kinds_iff_sample : KindsApart Sample.deployment 0 Sample.access :=
  (kinds_iff Sample.deployment Sample.issued (by simp) 0).2 fun h => absurd h.1 (by decide)

/-- Her refresh token passes `requireAuth`. -/
theorem refresh_token_admitted : ¬ ∀ (dep : Deployment) start s, Reachable (Step dep.jwt dep.auth) ⟨start, []⟩ s →
    ∀ i ∈ s.issued, ∀ now, KindsApart dep now i := by
  intro hall
  have hk := hall Sample.deployment 0 _ Sample.issued Sample.refresh (by simp) 0
  have hg := issued_genuine Sample.issued Sample.refresh (by simp)
  have ha := (hk.requireAuth (presenting Sample.refresh.token) rfl).1 ((requireAuth_genuine hg 0 rfl).2 (by decide))
  exact absurd ha.1 (by decide)

end Tactix.AuthService
