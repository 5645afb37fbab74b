import Tactix.AuthService.Kinds
import Tactix.Eng.Service
/-!
# The roles of an access token

`auth-service` signs the AD groups of a user and leaves the roles to whoever
reads the token; `authenticate` reads a claim `roles`. `admitted_iff` says whom
the two agree about.
-/
open Tactix.Js Tactix.Authz ServiceLib

namespace Tactix.Eng

/-- The payload of a token signed for these claims. `jsonwebtoken` adds the time. -/
def claimsJson (c : AuthService.Claims) (iat : Rat) : Json :=
  .obj (optField "sub" c.sub ++ optField "name" c.name
    ++ (c.ad_groups.map fun groups => ("ad_groups", Json.arr (groups.map .str))).toList
    ++ optField "iss" c.iss ++ optField "aud" c.aud ++ [("iat", .num iat), ("exp", .num c.exp)])

/-- `auth-service` and `eng-svc` in one installation. Whatever the keys are, `verify`
returns the payload that was signed. -/
structure Deployment where
  jwt : AuthService.Jwt
  auth : AuthService.Env
  eng : Env
  verify_signed : ∀ {now : Nat} {c : AuthService.Claims} {key : String} {payload : Json},
    eng.verify now (jwt.sign c auth.PRIVATE_KEY) key = some payload → ∃ iat, payload = claimsJson c iat

/-- An access token for a user with these AD groups, by login or by refresh. -/
inductive Obtained (jwt : AuthService.Jwt) (env : AuthService.Env) (ad_groups : List String) : AuthService.Issued → Prop where
  | login {now upn password name reply} (h : AuthService.login jwt env now upn password (some (ad_groups, name)) = .ok reply) :
    Obtained jwt env ad_groups reply.access
  | refresh {now upn password name reply later i}
    (h : AuthService.login jwt env now upn password (some (ad_groups, name)) = .ok reply)
    (hr : AuthService.refresh jwt env later (some reply.refresh.token) = .ok i) : Obtained jwt env ad_groups i

/-- The groups of the user come with an allowed role. -/
def Entitled (env : Env) (mapper : RoleMapper) (ad_groups : List String) : Prop :=
  ∃ r ∈ resolveRoles ad_groups mapper, r ∈ env.allowedRoles

/-- `authenticate` lets the bearer in. -/
def Admitted (env : Env) (now : Nat) (headers : String → Option String) : Prop :=
  ∃ payload, authenticate env now headers = .ok payload

theorem rolesOf_obj {fields : List (String × Json)} (h : fields.lookup "roles" = none) :
    rolesOf (.obj fields) = some [] := by
  simp [rolesOf, Json.get?, h, truthy]

/-- A payload the service has signed carries no roles. -/
theorem rolesOf_claimsJson (c : AuthService.Claims) (iat : Rat) : rolesOf (claimsJson c iat) = some [] := by
  obtain ⟨sub, name, ad_groups, iss, aud, exp⟩ := c
  apply rolesOf_obj
  cases sub <;> cases name <;> cases ad_groups <;> cases iss <;> cases aud <;> rfl

section
variable {dep : Deployment} {ad_groups : List String} {i : AuthService.Issued}

theorem obtained_signed (h : Obtained dep.jwt dep.auth ad_groups i) :
    i.token = dep.jwt.sign i.claims dep.auth.PRIVATE_KEY := by
  cases h with
  | login h => exact (AuthService.genuine_of_login h).1.signed
  | refresh _ hr => exact (AuthService.genuine_of_refresh hr).signed

/-- A token of the service is turned away, whoever it was made out to. -/
theorem obtained_refused (h : Obtained dep.jwt dep.auth ad_groups i) {now : Nat} {headers : String → Option String}
    (hheader : headers "authorization" = some ("Bearer " ++ i.token)) : ¬ Admitted dep.eng now headers := by
  rintro ⟨payload, hp⟩
  rw [authenticate_bearer dep.eng now hheader, obtained_signed h] at hp
  split at hp
  · cases hp
  · rename_i p hverify
    obtain ⟨iat, rfl⟩ := dep.verify_signed hverify
    rw [rolesOf_claimsJson] at hp
    simp at hp

end

/-- For a user without an allowed role, and for no other, an access token passes
`authenticate` exactly when the user has an allowed role; expired or not. -/
theorem admitted_iff (dep : Deployment) (mapper : RoleMapper) {ad_groups : List String} {i : AuthService.Issued}
    (h : Obtained dep.jwt dep.auth ad_groups i) (now : Nat) {headers : String → Option String}
    (hheader : headers "authorization" = some ("Bearer " ++ i.token)) :
    (Admitted dep.eng now headers ↔ Entitled dep.eng mapper ad_groups) ↔ ¬ Entitled dep.eng mapper ad_groups :=
  iff_false_left (obtained_refused h hheader)

/-! ## An engineer -/

namespace Sample

def verify (now : Nat) (token _key : String) : Option Json :=
  (AuthService.Sample.claims token).bind fun c => if now < c.exp then some (claimsJson c 0) else none

theorem verify_token {now : Nat} {c : AuthService.Claims} {key : String} {payload : Json}
    (h : verify now (AuthService.Sample.token c) key = some payload) : ∃ iat, payload = claimsJson c iat := by
  rw [verify, AuthService.Sample.claims_token, Option.bind_some] at h
  split at h
  · exact ⟨0, (Option.some.inj h).symm⟩
  · cases h

/-- The library of the sample of `auth-service`; `ENG` may read the chat. -/
def deployment : Deployment where
  jwt := AuthService.Sample.jwt
  auth := AuthService.Sample.deployment.auth
  eng := ⟨some "org", some "ENG", "i1", none, verify, fun _ => "2025-08-17T10:00:00.000Z"⟩
  verify_signed := by
    intro now c key payload h
    dsimp only [AuthService.Sample.jwt] at h
    exact verify_token h

/-- The group `IMO` has the role `ENG`. -/
def mapper : RoleMapper := [⟨(· = "IMO"), ["ENG"]⟩]

/-- And here another one. -/
def planner : RoleMapper := [⟨(· = "IMO"), ["PLANNER"]⟩]

theorem logged_in : AuthService.login deployment.jwt deployment.auth 0 (some "ana") (some "secret") (some (["IMO"], "Ana"))
    = .ok ⟨AuthService.Sample.access, AuthService.Sample.refresh, "ana", "Ana", ["IMO"]⟩ := rfl

theorem obtained : Obtained deployment.jwt deployment.auth ["IMO"] AuthService.Sample.access := by
  have h := Obtained.login logged_in
  dsimp only at h
  exact h

def headers (token : String) : String → Option String :=
  fun name => if name = "authorization" then some ("Bearer " ++ token) else none

end Sample

/-- Ana's group has a role, but not one that may read the chat. -/
theorem admitted_iff_sample : resolveRoles ["IMO"] Sample.planner = ["PLANNER"] ∧
    (Admitted Sample.deployment.eng 0 (Sample.headers AuthService.Sample.access.token) ↔
      Entitled Sample.deployment.eng Sample.planner ["IMO"]) := by
  have hroles : resolveRoles ["IMO"] Sample.planner = ["PLANNER"] := by decide
  have hallowed : Sample.deployment.eng.allowedRoles = ["ENG"] := by decide
  exact ⟨hroles, (admitted_iff Sample.deployment Sample.planner Sample.obtained 0 rfl).2 (by simp [Entitled, hroles, hallowed])⟩

/-- An engineer with a fresh token is turned away. -/
theorem engineer_refused : ¬ ∀ (dep : Deployment) (mapper : RoleMapper) ad_groups i,
    Obtained dep.jwt dep.auth ad_groups i → (∀ r ∈ dep.eng.allowedRoles, r ≠ "") → ∀ (now : Nat), now < i.claims.exp →
      ∀ headers : String → Option String, headers "authorization" = some ("Bearer " ++ i.token) →
        (Admitted dep.eng now headers ↔ Entitled dep.eng mapper ad_groups) := by
  intro hall
  have hroles : Sample.deployment.eng.allowedRoles = ["ENG"] := by decide
  have hiff := hall Sample.deployment Sample.mapper _ _ Sample.obtained (by simp [hroles]) 0 (by decide)
    (Sample.headers AuthService.Sample.access.token) rfl
  exact obtained_refused Sample.obtained rfl (hiff.2 ⟨"ENG", by decide, by simp [hroles]⟩)

end Tactix.Eng
