import Tactix.Authz
import Tactix.Lib.Occurs
/-!
# The Node gateway

Every request passes the middlewares of `gateway/src/index.ts` in order:
`cors`, `GET /health`, the guard, and the proxy mounted at `/api`. The guard
compares paths case-sensitively and Express mounts case-insensitively, so
some paths reach the proxy unchecked: `proxied_guarded_iff` says which.
-/
open Tactix.Js Tactix.Authz ServiceLib

namespace Tactix.Gateway

/-- What becomes of a request. `proxied user` is the call of `proxy.web` for
`API_TARGET`, with the `req.user` at that point. -/
inductive Reply where
  | preflight
  | health
  | unauthorized
  | proxied (user : Option TactixUser)
  | notFound

/-- The segment of a path between its leading slash and the next one. -/
def firstSegment (path : String) : Option (List Char) :=
  match path.toList with
  | '/' :: rest => some (rest.takeWhile (· ≠ '/'))
  | _ => none

/-- Whether `app.use('/<mount>', ...)` runs for a path. -/
def mounted (mount : String) (path : String) : Bool :=
  (firstSegment path).map (·.map Char.toLower) = some mount.toList

/-- `app.get('/health', ...)`: any letter case, and a trailing slash is allowed. -/
def healthRoute (req : Request) : Bool :=
  (req.method = "GET" ∨ req.method = "HEAD") ∧
    req.path.toList.map Char.toLower ∈ ["/health".toList, "/health/".toList]

/-- The `allow` list of the guard. -/
def allow (path : String) : Bool :=
  startsWith path "/auth/" || path = "/health" || startsWith path "/api-docs/"

def authMiddleware (jwt : JsonWebToken) (env : Env) (now : Nat) : Middleware :=
  bearer (verifyJwtRS256 jwt (unescapeNewlines env.PUBLIC_JWT_KEY) now) env.roleMapper

/-- The guard mounted in front of the proxy. -/
def guard (jwt : JsonWebToken) (env : Env) (now : Nat) : Middleware := fun req =>
  if allow req.path then .ok req
  else if startsWith req.path "/api/" then authMiddleware jwt env now req
  -- `next()` for all the rest, other spellings of `/api` among them.
  else .ok req

/-- The whole pipeline. `cors` answers every `OPTIONS` request itself. -/
def app (jwt : JsonWebToken) (env : Env) (now : Nat) (req : Request) : Reply :=
  if req.method = "OPTIONS" then .preflight
  else if healthRoute req then .health
  else
    match guard jwt env now req with
    | .error _ => .unauthorized
    | .ok req' => if mounted "api" req.path then .proxied req'.user else .notFound

/-! ## Paths -/

theorem firstSegment_of_prefix (seg t : List Char) (path : String) (hs : '/' ∉ seg)
    (h : path.toList = '/' :: (seg ++ '/' :: t)) : firstSegment path = some seg := by
  rw [firstSegment, h]
  simp only
  rw [takeWhile_cut hs]

/-- No allow-listed path is served by the proxy. -/
theorem not_allow_of_mounted {path : String} (h : mounted "api" path = true) : allow path = false := by
  by_contra ha
  simp only [allow, Bool.not_eq_false, Bool.or_eq_true, decide_eq_true_eq] at ha
  rcases ha with (ha | rfl) | ha
  · obtain ⟨t, rfl⟩ := (startsWith_iff _ _).1 ha
    have : firstSegment ("/auth/" ++ t) = some "auth".toList :=
      firstSegment_of_prefix "auth".toList t.toList _ (by decide) (by simp)
    rw [mounted, this] at h
    exact absurd h (by decide)
  · exact absurd h (by decide)
  · obtain ⟨t, rfl⟩ := (startsWith_iff _ _).1 ha
    have : firstSegment ("/api-docs/" ++ t) = some "api-docs".toList :=
      firstSegment_of_prefix "api-docs".toList t.toList _ (by decide) (by simp)
    rw [mounted, this] at h
    exact absurd h (by decide)

/-- A path the proxy is mounted on starts with a slash and an `a` or `A`. -/
theorem mounted_head {path : String} (h : mounted "api" path = true) :
    ∃ c rest, path.toList = '/' :: c :: rest ∧ c.toLower = 'a' := by
  unfold mounted firstSegment at h
  split at h
  · rename_i rest hp
    rcases rest with _ | ⟨c, rest⟩
    · simp at h
    · refine ⟨c, rest, hp, ?_⟩
      by_cases hc : c = '/'
      · simp [hc] at h
      · have hl : "api".toList = ['a', 'p', 'i'] := rfl
        simp only [List.takeWhile_cons, hc, ne_eq, not_false_eq_true, decide_true, if_true, Option.map_some, List.map_cons,
          hl, Option.some.injEq, List.cons.injEq, decide_eq_true_eq] at h
        exact h.1
  · simp at h

theorem not_health_of_mounted {req : Request} (h : mounted "api" req.path = true) : healthRoute req = false := by
  obtain ⟨c, rest, hp, hc⟩ := mounted_head h
  have h1 : "/health".toList = ['/', 'h', 'e', 'a', 'l', 't', 'h'] := rfl
  have h2 : "/health/".toList = ['/', 'h', 'e', 'a', 'l', 't', 'h', '/'] := rfl
  simp [healthRoute, hp, hc, h1, h2]

/-! ## What reaches the proxy -/

/-- The guard lets a request through with `req'`, in three cases. -/
theorem guard_ok {jwt : JsonWebToken} {env : Env} {now : Nat} {req req' : Request} (h : guard jwt env now req = .ok req') :
    (allow req.path = true ∧ req' = req) ∨
    (startsWith req.path "/api/" = true ∧ authMiddleware jwt env now req = .ok req') ∨
    (startsWith req.path "/api/" = false ∧ req' = req) := by
  unfold guard at h
  split at h
  · cases h; exact .inl ⟨‹_›, rfl⟩
  · split at h
    · exact .inr (.inl ⟨‹_›, h⟩)
    · cases h; exact .inr (.inr ⟨Bool.eq_false_iff.2 ‹_›, rfl⟩)

/-- A request is handed to the proxy only with the user of a token it presents. -/
def ProxiedGuarded (jwt : JsonWebToken) (env : Env) (now : Nat) (req : Request) : Prop :=
  ∀ user, app jwt env now req = .proxied user →
    ∃ p, Presents (verifyJwtRS256 jwt (unescapeNewlines env.PUBLIC_JWT_KEY) now) req p ∧
      user = some (userOf p env.roleMapper)

/-- A mounted path the guard does not recognise reaches the proxy as it came. -/
theorem app_unchecked (jwt : JsonWebToken) (env : Env) (now : Nat) (req : Request) (hm : req.method ≠ "OPTIONS")
    (hp : mounted "api" req.path = true) (hs : startsWith req.path "/api/" = false) :
    app jwt env now req = .proxied req.user := by
  have hg : guard jwt env now req = .ok req := by simp [guard, not_allow_of_mounted hp, hs]
  simp [app, hm, not_health_of_mounted hp, hg, hp]

theorem app_proxied {jwt : JsonWebToken} {env : Env} {now : Nat} {req : Request} {user : Option TactixUser}
    (h : app jwt env now req = .proxied user) :
    req.method ≠ "OPTIONS" ∧ mounted "api" req.path = true ∧ ∃ req', guard jwt env now req = .ok req' ∧ req'.user = user := by
  unfold app at h
  split at h
  · cases h
  · split at h
    · cases h
    · split at h
      · cases h
      · rename_i hm _ _ req' hg
        split at h
        · cases h; exact ⟨hm, ‹_›, req', hg, rfl⟩
        · cases h

/-- A new request (`user` is not set yet) is proxied only when it was checked,
exactly unless it is mounted on the proxy by a spelling the guard misses. -/
theorem proxied_guarded_iff (jwt : JsonWebToken) (env : Env) (now : Nat) (method path : String)
    (headers : String → Option String) :
    ProxiedGuarded jwt env now ⟨method, path, headers, none⟩ ↔
      method = "OPTIONS" ∨ mounted "api" path = false ∨ startsWith path "/api/" = true := by
  constructor
  · intro h
    by_contra hc
    simp only [not_or, Bool.not_eq_false, Bool.not_eq_true] at hc
    obtain ⟨hm, hp, hs⟩ := hc
    obtain ⟨p, -, hu⟩ := h none (app_unchecked jwt env now ⟨method, path, headers, none⟩ hm hp hs)
    cases hu
  · intro hc user happ
    obtain ⟨hm, hp, req', hg, rfl⟩ := app_proxied happ
    -- A mounted path is not on the allow list, so only the checked branch and the last one are left.
    rcases guard_ok hg with ⟨ha, -⟩ | ⟨-, hok⟩ | ⟨hs, -⟩
    · simp [not_allow_of_mounted hp] at ha
    · obtain ⟨p, hp, rfl⟩ := (bearer_ok_iff _ _ _ _).1 hok
      exact ⟨p, hp, rfl⟩
    · simp_all

/-- With no `Authorization` header at all, `GET /API/incidents` and `GET /api`
are handed to the incident service. -/
theorem api_spellings_unguarded :
    ¬ ProxiedGuarded (.accepting []) ⟨"key", []⟩ 0 ⟨"GET", "/API/incidents", fun _ => none, none⟩ ∧
    ¬ ProxiedGuarded (.accepting []) ⟨"key", []⟩ 0 ⟨"GET", "/api", fun _ => none, none⟩ := by
  constructor <;>
  · intro h
    obtain ⟨p, -, hu⟩ := h none (app_unchecked _ _ _ _ (by decide) (by decide) (by decide))
    cases hu

end Tactix.Gateway
