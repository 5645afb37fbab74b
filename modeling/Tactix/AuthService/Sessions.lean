import Tactix.AuthService.Kinds
/-!
# How long a session lasts

A site is the service with the directory it asks, which may change at any time.
An access token can be renewed until the refresh token expires, and the directory
is not asked again: `sessions_bounded` says how old the sign-in behind a user can be.
-/
open Tactix.Js Tactix.Authz ServiceLib

namespace Tactix.AuthService

/-- A sign-in: when it was, and what the directory said of the user. -/
structure SignIn where
  time : Nat
  upn : String
  name : String
  ad_groups : List String

/-- What `ldapAuthenticate` comes to with a name and a password. -/
abbrev Answers := String → String → Option (List String × String)

structure Site where
  service : State
  directory : Answers
  signIns : List SignIn

def Site.init (start : Nat) (directory : Answers) : Site := ⟨⟨start, []⟩, directory, []⟩

inductive SiteAction where
  | tick (n : Nat)
  | directory (answers : Answers)
  | login (upn password : Option String)
  | refresh (token : Option String)

/-- What the directory says when somebody signs in. -/
def Site.ask (s : Site) (upn password : Option String) : Option (List String × String) :=
  match orString upn none, orString password none with
  | some upn, some password => s.directory upn password
  | _, _ => none

section
variable (jwt : Jwt) (env : Env)

def Site.next (s : Site) : SiteAction → Site
  | .tick n => { s with service := s.service.next jwt env (.tick n) }
  | .directory answers => { s with directory := answers }
  | .login upn password =>
    { s with
      service := s.service.next jwt env (.login upn password (s.ask upn password))
      signIns := match AuthService.login jwt env s.service.now upn password (s.ask upn password) with
        | .ok reply => ⟨s.service.now, reply.upn, reply.name, reply.ad_groups⟩ :: s.signIns
        | .error _ => s.signIns }
  | .refresh token => { s with service := s.service.next jwt env (.refresh token) }

def SiteStep (s : Site) (a : SiteAction) (s' : Site) : Prop := s' = s.next jwt env a

/-- A token of somebody without the private key: the service has issued it, or no
check accepts it. -/
def Unforged (issued : List Issued) (token : String) : Prop :=
  (∃ i ∈ issued, i.token = token) ∨
    (∀ now, jwt.verify now token env.PUBLIC_KEY ["RS256"] = none) ∧
      ∀ now audience issuer, jwt.verifyFor now token env.PUBLIC_KEY ["RS256"] audience issuer = none

/-- Nobody else can sign: tokens sent to `POST /refresh` are unforged. -/
def Honest (s : Site) : SiteAction → Prop
  | .refresh (some token) => Unforged jwt env s.service.issued token
  | _ => True

end

/-- The lifetimes of a refresh token and of an access token, one after the other. -/
def Env.sessionTtl (env : Env) : Int := max (env.refreshTtl.getD 0) 0 + max (env.accessTtl.getD 0) 0

/-- The sign-in behind a token. -/
structure SignIn.Backs (env : Env) (l : SignIn) (c : Claims) : Prop where
  sub : c.sub = some l.upn
  name : c.name = some l.name
  ad_groups : c.ad_groups = some l.ad_groups
  refresh : c.aud = some "refresh" → c.exp ≤ l.time + max (env.refreshTtl.getD 0) 0
  exp : c.exp ≤ l.time + env.sessionTtl

/-- A user of a sign-in that is not too old, with the groups the directory gave then. -/
structure SignIn.Vouches (env : Env) (mapper : RoleMapper) (now : Nat) (l : SignIn) (user : TactixUser) : Prop where
  recent : (now : Int) < l.time + env.sessionTtl
  upn : user.upn = some l.upn
  name : user.name = some l.name
  ad_groups : user.ad_groups = l.ad_groups
  roles : user.roles = resolveRoles l.ad_groups mapper

/-- Whoever a check admits by the token has signed in: `requireAuth`, the gateway's guard,
`wsAuth` and the upgrade of the realtime service. -/
structure Bounded (dep : Deployment) (s : Site) (now : Nat) (token : String) : Prop where
  requireAuth : ∀ req req', req.headers "authorization" = some ("Bearer " ++ token) →
    requireAuth dep.jwt.toJsonWebToken dep.authz now dep.opts req = .ok req' → ∃ user, req'.user = some user ∧
      ∃ l ∈ s.signIns, l.Vouches dep.auth (dep.opts.roleMapper.getD dep.authz.roleMapper) now user
  gateway : ∀ req req', req.headers "authorization" = some ("Bearer " ++ token) →
    Gateway.authMiddleware dep.jwt.toJsonWebToken dep.authz now req = .ok req' → ∃ user, req'.user = some user ∧
      ∃ l ∈ s.signIns, l.Vouches dep.auth dep.authz.roleMapper now user
  wsAuth : ∀ req user, extractToken dep.searchToken req = some token →
    wsAuth dep.jwt.toJsonWebToken dep.authz dep.searchToken now dep.opts req = .ok user →
      ∃ l ∈ s.signIns, l.Vouches dep.auth (dep.opts.roleMapper.getD dep.authz.roleMapper) now user
  realtime : ∀ req user, Realtime.extractToken dep.realtime req = some token →
    Realtime.upgrade dep.realtime now req = some user →
      ∃ l ∈ s.signIns, l.Vouches dep.auth dep.realtime.roleMapper now user

/-! ## Every token has a sign-in behind it -/

section
variable {jwt : Jwt} {env : Env}

theorem exp_of_sign {now : Nat} {sub name : Option String} {ad_groups : Option (List String)} {aud : String}
    {expiresIn : Option Int} {i : Issued} (h : sign jwt env now sub name ad_groups aud expiresIn = some i) :
    i.claims = ⟨sub, name, ad_groups, some env.issuer, some aud, now + expiresIn.getD 0⟩ := by
  obtain ⟨ttl, rfl, rfl⟩ := Option.map_eq_some_iff.1 h
  rfl

/-- Both tokens of a login are backed by it. -/
theorem backs_of_login {now : Nat} {upn password : Option String} {ldap : Option (List String × String)}
    {reply : LoginReply} (h : login jwt env now upn password ldap = .ok reply) :
    (⟨now, reply.upn, reply.name, reply.ad_groups⟩ : SignIn).Backs env reply.access.claims ∧
      (⟨now, reply.upn, reply.name, reply.ad_groups⟩ : SignIn).Backs env reply.refresh.claims := by
  unfold login at h
  split at h
  · split at h
    · cases h
    · dsimp only at h
      split at h
      · rename_i access refresh ha hr
        cases h
        rw [exp_of_sign ha, exp_of_sign hr]
        constructor
        · refine ⟨rfl, rfl, rfl, fun haud => absurd haud (by simp), ?_⟩
          simp only [Env.sessionTtl]
          omega
        · refine ⟨rfl, rfl, rfl, fun _ => ?_, ?_⟩
          · dsimp only
            omega
          · simp only [Env.sessionTtl]
            omega
      · cases h
  · cases h

/-- The access token of a refresh token has the same sign-in behind it. -/
theorem backs_of_refresh (hpair : jwt.KeyPair env.PRIVATE_KEY env.PUBLIC_KEY) {now : Nat} {i access : Issued}
    (hg : Genuine jwt env i) {l : SignIn} (hl : l.Backs env i.claims)
    (h : refresh jwt env now (some i.token) = .ok access) : l.Backs env access.claims := by
  unfold refresh at h
  split at h
  · cases h
  · rename_i token htoken
    obtain rfl : i.token = token := Option.some.inj (orString_eq_some.1 htoken).1
    rw [hg.signed, jwt.verifyFor_signed hpair] at h
    split at h
    · cases h
    · rename_i payload hp
      split at hp
      · rename_i hvalid
        cases hp
        split at h
        · cases h
        · rename_i access' ha
          cases h
          -- The refresh token has not expired, so the new token starts within its lifetime.
          have hexp : (now : Int) < l.time + max (env.refreshTtl.getD 0) 0 := hvalid.1.trans_le (hl.refresh hvalid.2.1)
          rw [exp_of_sign ha]
          refine ⟨hl.sub, hl.name, hl.ad_groups, fun haud => absurd haud (by simp), ?_⟩
          simp only [Env.sessionTtl]
          omega
      · cases hp

/-- What the service has issued is genuine and has a sign-in behind it. -/
def Site.Backed (jwt : Jwt) (env : Env) (s : Site) : Prop :=
  ∀ i ∈ s.service.issued, Genuine jwt env i ∧ ∃ l ∈ s.signIns, l.Backs env i.claims

theorem Site.Backed.login {s : Site} (hi : s.Backed jwt env) (upn password : Option String) :
    (s.next jwt env (.login upn password)).Backed jwt env := by
  simp only [Site.Backed, Site.next, State.next]
  cases hr : AuthService.login jwt env s.service.now upn password (s.ask upn password) with
  | error e => exact hi
  | ok reply =>
    obtain ⟨hga, hgr⟩ := genuine_of_login hr
    obtain ⟨hba, hbr⟩ := backs_of_login hr
    simp only [List.mem_cons]
    rintro i (rfl | rfl | hm)
    · exact ⟨hga, _, .inl rfl, hba⟩
    · exact ⟨hgr, _, .inl rfl, hbr⟩
    · obtain ⟨hg, l, hl, hb⟩ := hi i hm
      exact ⟨hg, l, .inr hl, hb⟩

theorem Site.Backed.refresh (hpair : jwt.KeyPair env.PRIVATE_KEY env.PUBLIC_KEY) {s : Site} (hi : s.Backed jwt env)
    {token : Option String} (ht : Honest jwt env s (.refresh token)) :
    (s.next jwt env (.refresh token)).Backed jwt env := by
  simp only [Site.Backed, Site.next, State.next]
  cases hr : AuthService.refresh jwt env s.service.now token with
  | error e => exact hi
  | ok access =>
    simp only [List.mem_cons]
    rintro i (rfl | hm)
    · refine ⟨genuine_of_refresh hr, ?_⟩
      cases token with
      | none => simp [AuthService.refresh, orString] at hr
      | some token =>
        rcases ht with ⟨i, hm, rfl⟩ | ⟨-, hforged⟩
        · obtain ⟨hg, l, hl, hb⟩ := hi i hm
          exact ⟨l, hl, backs_of_refresh hpair hg hb hr⟩
        · exfalso
          unfold AuthService.refresh at hr
          split at hr
          · cases hr
          · rename_i token' htoken
            rw [← Option.some.inj (orString_eq_some.1 htoken).1, hforged] at hr
            cases hr
    · exact hi i hm

theorem site_backed (hpair : jwt.KeyPair env.PRIVATE_KEY env.PUBLIC_KEY) {start : Nat} {directory : Answers} {s : Site}
    (h : Reachable (Guarded (Honest jwt env) (SiteStep jwt env)) (.init start directory) s) : s.Backed jwt env := by
  refine h.inv (I := Site.Backed jwt env) (by simp [Site.Backed, Site.init]) ?_
  rintro s a s' hi ⟨ht, rfl⟩
  cases a with
  | tick n => exact hi
  | directory answers => exact hi
  | login upn password => exact hi.login upn password
  | refresh token => exact hi.refresh hpair ht

end

/-! ## Who is admitted -/

section
variable {dep : Deployment} {s : Site} {now : Nat} {token : String}

/-- A token the check of `@tactix/authz` accepts has a sign-in behind it. -/
theorem verify_backed (hi : s.Backed dep.jwt dep.auth) (ht : Unforged dep.jwt dep.auth s.service.issued token)
    {key : String} (hkey : unescapeNewlines key = dep.auth.PUBLIC_KEY) {p : Payload}
    (h : verifyJwtRS256 dep.jwt.toJsonWebToken key now token = some p) :
    ∃ l ∈ s.signIns, ∃ c : Claims, l.Backs dep.auth c ∧ p = c.payload ∧ now < c.exp := by
  rw [verifyJwtRS256, hkey] at h
  rcases ht with ⟨i, hm, rfl⟩ | ⟨hforged, -⟩
  · obtain ⟨hg, l, hl, hb⟩ := hi i hm
    rw [hg.signed, dep.jwt.verify_signed dep.pair] at h
    split at h
    · rename_i hexp
      exact ⟨l, hl, i.claims, hb, (Option.some.inj h).symm, hexp⟩
    · cases h
  · rw [hforged] at h
    cases h

theorem SignIn.Backs.vouches {l : SignIn} {c : Claims} (hb : l.Backs dep.auth c) (hexp : now < c.exp)
    (mapper : RoleMapper) : l.Vouches dep.auth mapper now (userOf c.payload mapper) := by
  refine ⟨hexp.trans_le hb.exp, ?_, ?_, ?_, ?_⟩
  · simp [userOf, Claims.payload, orString, hb.sub]
  · simp [userOf, Claims.payload, hb.name]
  · simp [userOf, Claims.payload, hb.ad_groups]
  · simp [userOf, Claims.payload, hb.ad_groups]

/-- The check of `requireAuth` and of the gateway. -/
theorem bearer_vouched (hi : s.Backed dep.jwt dep.auth) (ht : Unforged dep.jwt dep.auth s.service.issued token)
    {key : String} (hkey : unescapeNewlines key = dep.auth.PUBLIC_KEY) {mapper : RoleMapper} {req req' : Request}
    (hreq : req.headers "authorization" = some ("Bearer " ++ token))
    (h : bearer (verifyJwtRS256 dep.jwt.toJsonWebToken key now) mapper req = .ok req') :
    ∃ user, req'.user = some user ∧ ∃ l ∈ s.signIns, l.Vouches dep.auth mapper now user := by
  obtain ⟨p, ⟨token', htoken', hp⟩, rfl⟩ := (bearer_ok_iff _ _ _ _).1 h
  have heq : "Bearer " ++ token = "Bearer " ++ token' := Option.some.inj (hreq.symm.trans htoken')
  obtain rfl : token = token' := by
    rw [← show slice ("Bearer " ++ token) 7 = token from slice_append "Bearer " token, heq]
    exact slice_append "Bearer " token'
  obtain ⟨l, hl, c, hb, rfl, hexp⟩ := verify_backed hi ht hkey hp
  exact ⟨_, rfl, l, hl, hb.vouches hexp mapper⟩

end

/-- In every run, whoever a check admits by an unforged token has signed in with the
directory less than a refresh and an access lifetime ago, and has the name, the groups
and the roles the directory gave then. -/
theorem sessions_bounded (dep : Deployment) {start : Nat} {directory : Answers} {s : Site}
    (h : Reachable (Guarded (Honest dep.jwt dep.auth) (SiteStep dep.jwt dep.auth)) (.init start directory) s)
    {token : String} (ht : Unforged dep.jwt dep.auth s.service.issued token) (now : Nat) : Bounded dep s now token := by
  have hi := site_backed dep.pair h
  refine ⟨fun req req' hreq hok => ?_, fun req req' hreq hok => ?_, fun req user hreq hok => ?_, fun req user hreq hok => ?_⟩
  · exact bearer_vouched hi ht (by rw [unescapeNewlines_idem, dep.optsKey]) hreq hok
  · exact bearer_vouched hi ht (by rw [unescapeNewlines_idem, dep.gatewayKey]) hreq hok
  · unfold wsAuth at hok
    rw [hreq] at hok
    dsimp only at hok
    split at hok
    · cases hok
    · rename_i p hp
      cases hok
      obtain ⟨l, hl, c, hb, rfl, hexp⟩ := verify_backed hi ht (by rw [unescapeNewlines_idem, dep.optsKey]) hp
      exact ⟨l, hl, hb.vouches hexp _⟩
  · obtain ⟨-, token', p, htoken', hp, rfl⟩ := Realtime.upgrade_some.1 hok
    obtain rfl : token = token' := Option.some.inj (hreq.symm.trans htoken')
    rw [Realtime.Env.verify, dep.authzLoads, if_pos rfl, dep.realtimeJwt] at hp
    have hkey : unescapeNewlines dep.realtime.PUBLIC_KEY = dep.auth.PUBLIC_KEY := by
      rw [Realtime.Env.PUBLIC_KEY, unescapeNewlines_idem, ← Realtime.Env.PUBLIC_KEY, dep.realtimeKey]
    obtain ⟨l, hl, c, hb, rfl, hexp⟩ := verify_backed hi ht hkey hp
    have huser : dep.realtime.userOf c.payload = userOf c.payload dep.realtime.roleMapper := by
      simp [Realtime.Env.userOf, userOf, dep.authzLoads]
    exact ⟨l, hl, huser ▸ hb.vouches hexp _⟩

section
variable {jwt : Jwt} {env : Env} {now refreshTtl accessTtl : Nat} {upn password name : String} {groups : List String}

theorem login_ok (hrefresh : env.refreshTtl = some ↑refreshTtl) (haccess : env.accessTtl = some ↑accessTtl) (hupn : upn ≠ "")
    (hpassword : password ≠ "") : ∃ reply, login jwt env now (some upn) (some password) (some (groups, name)) = .ok reply ∧
      (reply.upn = upn ∧ reply.name = name ∧ reply.ad_groups = groups) ∧
      reply.refresh.claims = ⟨some upn, some name, some groups, some env.issuer, some "refresh", now + refreshTtl⟩ := by
  simp only [login, orString_ne hupn, orString_ne hpassword, sign, hrefresh, haccess, Option.map_some]
  exact ⟨_, rfl, ⟨rfl, rfl, rfl⟩, rfl⟩

theorem refresh_ok (hpair : jwt.KeyPair env.PRIVATE_KEY env.PUBLIC_KEY) (haccess : env.accessTtl = some ↑accessTtl) {i : Issued}
    (hg : Genuine jwt env i) (hi : i.claims.Refresh now) :
    ∃ access, refresh jwt env now (some i.token) = .ok access ∧ access.claims.exp = now + accessTtl := by
  have hne := jwt.sign_nonempty i.claims env.PRIVATE_KEY
  simp only [refresh, hg.signed, orString_ne hne, jwt.verifyFor_signed hpair]
  rw [if_pos ⟨hi.2, hi.1, hg.iss⟩]
  simp only [sign, haccess, Option.map_some]
  exact ⟨_, rfl, rfl⟩

end

/-- A refresh that succeeds adds its token. -/
theorem next_refresh {jwt : Jwt} {env : Env} {s : Site} {token : String} {i : Issued}
    (h : AuthService.refresh jwt env s.service.now (some token) = .ok i) :
    s.next jwt env (.refresh (some token)) = { s with service := ⟨s.service.now, i :: s.service.issued⟩ } := by
  simp only [Site.next, State.next, h]

namespace Sample

/-- The directory knows Ana. -/
def directory : Answers := fun upn password => if upn = "ana" ∧ password = "secret" then some (["IMO"], "Ana") else none

/-- After Ana has signed in. -/
def site : Site := ⟨⟨0, [access, refresh]⟩, directory, [⟨0, "ana", "Ana", ["IMO"]⟩]⟩

theorem signedIn : Reachable (Guarded (Honest deployment.jwt deployment.auth) (SiteStep deployment.jwt deployment.auth))
    (.init 0 directory) site :=
  Reachable.refl.nextGuarded (.login (some "ana") (some "secret")) trivial rfl

end Sample

/-- The token of a refresh, when that of the login has expired, vouches for Ana's sign-in. -/
theorem sessions_bounded_sample : ∃ (s : Site) (i : Issued), s.signIns = [⟨0, "ana", "Ana", ["IMO"]⟩] ∧
    i ∈ s.service.issued ∧ Sample.access.claims.exp < 1000 ∧ 1000 < i.claims.exp ∧ Bounded Sample.deployment s 1000 i.token := by
  obtain ⟨i, hrenew, hexp⟩ : ∃ i, AuthService.refresh Sample.deployment.jwt Sample.deployment.auth 600
      (some Sample.refresh.token) = .ok i ∧ i.claims.exp = ↑600 + ↑900 :=
    refresh_ok trivial rfl (issued_genuine Sample.issued Sample.refresh (by simp)) ⟨rfl, by decide⟩
  have hticked := Sample.signedIn.nextGuarded (.tick 600) trivial rfl
  have hunforged : Unforged Sample.deployment.jwt Sample.deployment.auth [Sample.access, Sample.refresh] Sample.refresh.token :=
    .inl ⟨Sample.refresh, by simp, rfl⟩
  have hrefreshed := hticked.nextGuarded (.refresh (some Sample.refresh.token)) (by exact hunforged) rfl
  rw [next_refresh (s := Sample.site.next Sample.deployment.jwt Sample.deployment.auth (.tick 600)) hrenew] at hrefreshed
  refine ⟨_, i, ?_, ?_, by decide, by omega, sessions_bounded Sample.deployment hrefreshed (.inl ⟨i, List.mem_cons_self, rfl⟩) 1000⟩
  · rfl
  · exact List.mem_cons_self

/-! ## The bound is reached -/

/-- A session that is renewed in the last second of its refresh token outlives the token
by an access lifetime, whatever the directory says by then. -/
theorem session_reaches (dep : Deployment) {refreshTtl accessTtl : Nat}
    (hrefresh : dep.auth.refreshTtl = some ↑(refreshTtl + 1)) (haccess : dep.auth.accessTtl = some ↑(accessTtl + 1))
    (start : Nat) {directory : Answers} {upn password name : String} {groups : List String} (hupn : upn ≠ "")
    (hpassword : password ≠ "") (hd : directory upn password = some (groups, name)) (later : Answers) : ∃ s : Site,
      Reachable (Guarded (Honest dep.jwt dep.auth) (SiteStep dep.jwt dep.auth)) (.init start directory) s ∧
        s.directory = later ∧ s.signIns = [⟨start, upn, name, groups⟩] ∧ ∃ i ∈ s.service.issued, ∃ req',
          requireAuth dep.jwt.toJsonWebToken dep.authz (start + refreshTtl + accessTtl) dep.opts (presenting i.token)
            = .ok req' := by
  obtain ⟨reply, hlogin, ⟨rfl, rfl, rfl⟩, hclaims⟩ : ∃ reply, login dep.jwt dep.auth start (some upn) (some password)
      (some (groups, name)) = .ok reply ∧ _ := login_ok hrefresh haccess hupn hpassword
  obtain ⟨-, hg⟩ := genuine_of_login hlogin
  have hvalid : reply.refresh.claims.Refresh (start + refreshTtl) := by
    rw [hclaims]
    refine ⟨rfl, ?_⟩
    dsimp only
    omega
  obtain ⟨access, hrenew, hexp⟩ := refresh_ok dep.pair haccess hg hvalid
  have hask : (Site.init start directory).ask (some reply.upn) (some password) = some (reply.ad_groups, reply.name) := by
    simp only [Site.ask, orString_ne hupn, orString_ne hpassword]
    exact hd
  have hstart : (Site.init start directory).service = ⟨start, []⟩ := rfl
  have hsite : (Site.init start directory).next dep.jwt dep.auth (.login (some reply.upn) (some password)) =
      ⟨⟨start, [reply.access, reply.refresh]⟩, directory, [⟨start, reply.upn, reply.name, reply.ad_groups⟩]⟩ := by
    simp only [Site.next, State.next, hask, hstart, hlogin]
    rfl
  have h1 := (Reachable.refl.nextGuarded (.login (some reply.upn) (some password)) trivial hsite.symm :
    Reachable (Guarded (Honest dep.jwt dep.auth) (SiteStep dep.jwt dep.auth)) (.init start directory) _)
  have h2 := h1.nextGuarded (.directory later) trivial rfl
  have h3 := h2.nextGuarded (.tick refreshTtl) trivial rfl
  have h4 := h3.nextGuarded (.refresh (some reply.refresh.token)) (.inl ⟨reply.refresh, by simp [Site.next, State.next], rfl⟩) rfl
  simp only [Site.next, State.next, hrenew] at h4
  refine ⟨_, h4, rfl, rfl, access, List.mem_cons_self, (requireAuth_genuine (genuine_of_refresh hrenew) _ rfl).2 ?_⟩
  rw [hexp]
  omega

end Tactix.AuthService
