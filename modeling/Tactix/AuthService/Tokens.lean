import Tactix.Authz
import Tactix.Lib.Runs
/-!
# Tokens of `auth-service`

`POST /login` and `POST /refresh`, and the runs of the service: what it has
issued so far. `jsonwebtoken` signs and verifies here, so `Jwt` says how the two
go together.
-/
open Tactix.Js Tactix.Authz ServiceLib

namespace Tactix.AuthService

/-- The claims of a token the service signs. `exp` is in seconds. -/
structure Claims where
  sub : Option String
  name : Option String
  ad_groups : Option (List String)
  iss : Option String
  aud : Option String
  exp : Int

/-- What the other services read of them. -/
def Claims.payload (c : Claims) : Payload := ⟨c.sub, none, c.name, c.ad_groups, none⟩

/-- `jsonwebtoken` with `sign` and with `verifyFor`, which is `verify` with the options
`audience` and `issuer`. Signature and expiry are always checked, the audience and
the issuer only when they are given. -/
structure Jwt extends JsonWebToken where
  sign : Claims → String → String
  verifyFor : Nat → String → String → List String → String → String → Option Claims
  KeyPair : String → String → Prop
  sign_nonempty : ∀ c key, sign c key ≠ ""
  verify_signed : ∀ {priv pub : String}, KeyPair priv pub → ∀ now c,
    verify now (sign c priv) pub ["RS256"] = if now < c.exp then some c.payload else none
  verifyFor_signed : ∀ {priv pub : String}, KeyPair priv pub → ∀ now c audience issuer,
    verifyFor now (sign c priv) pub ["RS256"] audience issuer =
      if now < c.exp ∧ c.aud = some audience ∧ c.iss = some issuer then some c else none

structure Env where
  JWT_PRIVATE_KEY : Option String
  JWT_PUBLIC_KEY : Option String
  JWT_ISS : Option String
  /-- What `expiresIn` makes of `ACCESS_TTL_MIN`, in seconds; `none` when `sign` throws. -/
  accessTtl : Option Int
  refreshTtl : Option Int

def Env.PRIVATE_KEY (env : Env) : String := unescapeNewlines (env.JWT_PRIVATE_KEY.getD "")

def Env.PUBLIC_KEY (env : Env) : String := unescapeNewlines (env.JWT_PUBLIC_KEY.getD "")

def Env.issuer (env : Env) : String := (orString env.JWT_ISS none).getD "tactix-auth"

/-- A token with the claims it was signed for. -/
structure Issued where
  token : String
  claims : Claims

section
variable (jwt : Jwt) (env : Env)

/-- `jwt.sign(claims, PRIVATE_KEY, { algorithm: 'RS256', expiresIn })`. -/
def sign (now : Nat) (sub name : Option String) (ad_groups : Option (List String)) (aud : String)
    (expiresIn : Option Int) : Option Issued :=
  expiresIn.map fun ttl =>
    let claims : Claims := ⟨sub, name, ad_groups, some env.issuer, some aud, now + ttl⟩
    ⟨jwt.sign claims env.PRIVATE_KEY, claims⟩

/-- The body of a successful login. -/
structure LoginReply where
  access : Issued
  refresh : Issued
  upn : String
  name : String
  ad_groups : List String

/-- `POST /login`. `ldap` is what `ldapAuthenticate` comes to: the groups and the name. -/
def login (now : Nat) (upn password : Option String) (ldap : Option (List String × String)) : Except Nat LoginReply :=
  match orString upn none, orString password none with
  | some upn, some _ =>
    match ldap with
    | none => .error 401
    | some (ad_groups, name) =>
      let access := sign jwt env now (some upn) (some name) (some ad_groups) "tactix" env.accessTtl
      let refresh := sign jwt env now (some upn) (some name) (some ad_groups) "refresh" env.refreshTtl
      match access, refresh with
      | some access, some refresh => .ok ⟨access, refresh, upn, name, ad_groups⟩
      | _, _ => .error 401
  | _, _ => .error 400

/-- `POST /refresh`. -/
def refresh (now : Nat) (token : Option String) : Except Nat Issued :=
  match orString token none with
  | none => .error 400
  | some token =>
    match jwt.verifyFor now token env.PUBLIC_KEY ["RS256"] "refresh" env.issuer with
    | none => .error 401
    | some payload =>
      match sign jwt env now payload.sub payload.name payload.ad_groups "tactix" env.accessTtl with
      | none => .error 401
      | some access => .ok access

/-! ## Runs -/

structure State where
  now : Nat
  issued : List Issued

inductive Action where
  | tick (n : Nat)
  | login (upn password : Option String) (ldap : Option (List String × String))
  | refresh (token : Option String)

def State.next (s : State) : Action → State
  | .tick n => { s with now := s.now + n }
  | .login upn password ldap =>
    match login jwt env s.now upn password ldap with
    | .ok reply => { s with issued := reply.access :: reply.refresh :: s.issued }
    | .error _ => s
  | .refresh token =>
    match refresh jwt env s.now token with
    | .ok access => { s with issued := access :: s.issued }
    | .error _ => s

def Step (s : State) (a : Action) (s' : State) : Prop := s' = s.next jwt env a

/-- An issued token: signed with the key of the service, by its name, for one of the
two audiences. -/
structure Genuine (i : Issued) : Prop where
  signed : i.token = jwt.sign i.claims env.PRIVATE_KEY
  iss : i.claims.iss = some env.issuer
  aud : i.claims.aud = some "tactix" ∨ i.claims.aud = some "refresh"
  ttl : env.accessTtl ≠ none

end

section
variable {jwt : Jwt} {env : Env}

theorem genuine_of_sign {now : Nat} {sub name : Option String} {ad_groups : Option (List String)} {aud : String}
    {expiresIn : Option Int} {i : Issued} (h : sign jwt env now sub name ad_groups aud expiresIn = some i)
    (haud : aud = "tactix" ∨ aud = "refresh") (httl : env.accessTtl ≠ none) : Genuine jwt env i := by
  obtain ⟨ttl, -, rfl⟩ := Option.map_eq_some_iff.1 h
  exact ⟨rfl, rfl, by simpa using haud, httl⟩

theorem ttl_of_sign {now : Nat} {sub name : Option String} {ad_groups : Option (List String)} {aud : String}
    {expiresIn : Option Int} {i : Issued} (h : sign jwt env now sub name ad_groups aud expiresIn = some i) :
    expiresIn ≠ none := by
  rintro rfl
  cases h

theorem genuine_of_login {now : Nat} {upn password : Option String} {ldap : Option (List String × String)}
    {reply : LoginReply}
    (h : login jwt env now upn password ldap = .ok reply) :
    Genuine jwt env reply.access ∧ Genuine jwt env reply.refresh := by
  unfold login at h
  split at h
  · split at h
    · cases h
    · dsimp only at h
      split at h
      · rename_i access refresh ha hr
        cases h
        have httl := ttl_of_sign ha
        exact ⟨genuine_of_sign ha (.inl rfl) httl, genuine_of_sign hr (.inr rfl) httl⟩
      · cases h
  · cases h

theorem genuine_of_refresh {now : Nat} {token : Option String} {i : Issued} (h : refresh jwt env now token = .ok i) :
    Genuine jwt env i := by
  unfold refresh at h
  split at h
  · cases h
  · split at h
    · cases h
    · split at h
      · cases h
      · rename_i access ha
        cases h
        exact genuine_of_sign ha (.inl rfl) (ttl_of_sign ha)

/-- Everything the service has issued is genuine. -/
theorem issued_genuine {now : Nat} {s : State} (h : Reachable (Step jwt env) ⟨now, []⟩ s) :
    ∀ i ∈ s.issued, Genuine jwt env i := by
  refine h.inv (I := fun s => ∀ i ∈ s.issued, Genuine jwt env i) (by simp) ?_
  rintro s a s' hi rfl
  cases a with
  | tick n => exact hi
  | login upn password ldap =>
    unfold State.next
    dsimp only
    split
    · rename_i reply hr
      obtain ⟨ha, hr⟩ := genuine_of_login hr
      simp only [List.mem_cons]
      rintro i (rfl | rfl | hm)
      · exact ha
      · exact hr
      · exact hi i hm
    · exact hi
  | refresh token =>
    unfold State.next
    dsimp only
    split
    · rename_i access hr
      simp only [List.mem_cons]
      rintro i (rfl | hm)
      · exact genuine_of_refresh hr
      · exact hi i hm
    · exact hi

end

end Tactix.AuthService
