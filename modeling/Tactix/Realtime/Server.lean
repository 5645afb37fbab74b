import Mathlib.Logic.Function.Basic
import Tactix.Realtime.Client
import Tactix.Lib.Runs
/-!
# The realtime service

The upgrade handler of `index.js`, and the steps of the whole service: between
two calls into it anything may happen, a notification, a message, the end of a
send or of a fetch, a socket that closes.
-/
open Tactix.Js Tactix.Authz ServiceLib

namespace Tactix.Realtime

/-! ## Upgrades -/

/-- The environment of a start. `authzLoads` is whether `require` of
`@tactix/authz` succeeds; `searchToken` is the URL's `token` parameter, `none`
when there is none or `new URL` throws. -/
structure Env where
  jwt : JsonWebToken
  authzLoads : Bool
  JWT_PUBLIC_KEY : Option String
  roleMapper : RoleMapper
  searchToken : String → Option String

/-- An environment in which every upgrade has the token `t`, which verifies, for
concrete runs. -/
def Env.accepting : Env :=
  ⟨.accepting [("t", ⟨none, none, none, none, none⟩)], true, some "key", [], fun _ => some "t"⟩

def Env.PUBLIC_KEY (env : Env) : String := unescapeNewlines (env.JWT_PUBLIC_KEY.getD "")

/-- `verify`, or its fallback when `@tactix/authz` does not load. -/
def Env.verify (env : Env) (now : Nat) (token : String) : Option Payload :=
  if env.authzLoads then verifyJwtRS256 env.jwt env.PUBLIC_KEY now token else some ⟨none, none, none, none, none⟩

def Env.userOf (env : Env) (payload : Payload) : TactixUser :=
  let ad_groups := payload.ad_groups.getD []
  { upn := orString payload.upn payload.sub, name := payload.name, ad_groups,
    roles := if env.authzLoads then resolveRoles ad_groups env.roleMapper else [] }

/-- `v` unless it is empty. -/
def nonempty (v : String) : Option String := if v = "" then none else some v

def extractToken (env : Env) (req : UpgradeRequest) : Option String :=
  let query := (env.searchToken req.url).bind nonempty
  match req.headers "sec-websocket-protocol" with
  | none => query
  | some proto =>
    match (split proto ',').map trim with
    | "bearer" :: token :: _ => (nonempty token).or query
    | _ => query

/-- `req.url.split('?')[0]` is served. -/
def servedPath (req : UpgradeRequest) : Bool := (split req.url '?').head? ∈ [some "/rt", some "/"]

/-- The `upgrade` handler: the user it attaches, or `none` when it destroys the
socket. -/
def upgrade (env : Env) (now : Nat) (req : UpgradeRequest) : Option TactixUser :=
  if servedPath req then do
    let token ← extractToken env req
    let payload ← env.verify now token
    return env.userOf payload
  else none

/-! ## The service -/

structure World (Ws : Type) where
  conns : Ws → Option Conn
  broadcasts : List Event
  now : Nat
  crashed : Bool

variable {Ws : Type} [DecidableEq Ws]

def World.init : World Ws := ⟨fun _ => none, [], 0, false⟩

def World.put (w : World Ws) (ws : Ws) (c : Conn) : World Ws := { w with conns := Function.update w.conns ws (some c) }

/-- The object `JSON.parse` returns for the next notification. -/
def World.event (w : World Ws) (body : Json) : Event := ⟨w.broadcasts.length, body⟩

inductive Action (Ws : Type) where
  | tick (n : Nat)
  | upgrade (ws : Ws) (req : UpgradeRequest) (handshake : Bool)
  | notification (payload : Option Json)
  | on (ws : Ws) (input : Input)

/-- One step; `none` when it cannot happen. `handshake` is whether
`handleUpgrade` completes. -/
def step (env : Env) (w : World Ws) (a : Action Ws) : Option (World Ws) :=
  if w.crashed then none
  else
    match a with
    | .tick n => some { w with now := w.now + n }
    | .upgrade ws req handshake =>
      if (w.conns ws).isSome then none
      else
        match upgrade env w.now req with
        | some user => if handshake then some (w.put ws (.opened user req w.now)) else some w
        | none => some w
    -- A payload that does not parse is only logged.
    | .notification none => some w
    | .notification (some body) =>
      let e := w.event body
      some { w with broadcasts := w.broadcasts ++ [e],
                    conns := fun ws => (w.conns ws).map fun c => if c.registered then c.broadcast e else c }
    | .on ws input => do
      let c ← w.conns ws
      if c.enabled input then some { w.put ws (c.handle input) with crashed := input.crashes } else none

def Step (env : Env) (w : World Ws) (a : Action Ws) (w' : World Ws) : Prop := step env w a = some w'

/-! ## What a step changes -/

/-- The four things a step can do to the clients. -/
inductive Change (env : Env) (w : World Ws) : Action Ws → World Ws → Prop
  | quiet {a : Action Ws} {w' : World Ws} : w'.conns = w.conns → w'.broadcasts = w.broadcasts → Change env w a w'
  | opened {ws : Ws} {req : UpgradeRequest} {user : TactixUser} : w.conns ws = none →
    upgrade env w.now req = some user → Change env w (.upgrade ws req true) (w.put ws (.opened user req w.now))
  | broadcast {body : Json} {w' : World Ws} : w'.broadcasts = w.broadcasts ++ [w.event body] →
    (w'.conns = fun ws => (w.conns ws).map fun c => if c.registered then c.handle (.broadcast (w.event body)) else c) →
    Change env w (.notification (some body)) w'
  | on {ws : Ws} {c : Conn} {input : Input} {w' : World Ws} : w.conns ws = some c → c.enabled input = true →
    w'.conns = Function.update w.conns ws (some (c.handle input)) → w'.broadcasts = w.broadcasts →
    Change env w (.on ws input) w'

theorem step_change {env : Env} {w w' : World Ws} {a : Action Ws} (h : Step env w a w') : Change env w a w' := by
  unfold Step step at h
  split at h
  · cases h
  · cases a with
    | tick n => cases h; exact .quiet rfl rfl
    | upgrade ws req handshake =>
      simp only at h
      split at h
      · cases h
      · rename_i hws
        split at h
        · rename_i user hu
          cases handshake with
          | true =>
            obtain rfl : w.put ws (.opened user req w.now) = w' := by simpa using h
            exact .opened (by simpa using hws) hu
          | false => cases h; exact .quiet rfl rfl
        · cases h; exact .quiet rfl rfl
    | notification payload =>
      cases payload with
      | none => cases h; exact .quiet rfl rfl
      | some body => cases h; exact .broadcast rfl rfl
    | on ws input =>
      simp only [Option.bind_eq_bind, Option.bind_eq_some_iff] at h
      obtain ⟨c, hc, h⟩ := h
      split at h
      · rename_i he
        cases h
        exact .on hc he rfl rfl
      · cases h

/-- The steps in which client `ws` gets no input that `G` refuses. -/
def Allowed (G : Conn → Input → Prop) (ws : Ws) (w : World Ws) (a : Action Ws) : Prop :=
  ∀ c, w.conns ws = some c →
    match a with
    | .notification (some body) => c.registered = true → G c (.broadcast (w.event body))
    | .on ws' input => ws' = ws → G c input
    | _ => True

/-- An invariant of one client in every run whose steps allow its inputs. It
may mention the events broadcast so far. -/
theorem conn_inv {env : Env} {G : Conn → Input → Prop} {ws : Ws} {I : List Event → Conn → Prop}
    (hopened : ∀ es user req now, I es (.opened user req now))
    (hgone : ∀ es e c, I es c → c.registered = false → I (es ++ [e]) c)
    (hbroadcast : ∀ es e c, I es c → e.oid = es.length → c.registered = true → G c (.broadcast e) →
      I (es ++ [e]) (c.broadcast e))
    (hon : ∀ es c input, I es c → c.enabled input = true → G c input → I es (c.handle input)) {w : World Ws}
    (hr : Reachable (Guarded (Allowed G ws) (Step env)) .init w) {c : Conn} (hc : w.conns ws = some c) :
    I w.broadcasts c := by
  induction hr generalizing c with
  | refl => simp [World.init] at hc
  | @step w w' a _ hs ih =>
    obtain ⟨hG, hs⟩ := hs
    cases step_change hs with
    | quiet h1 h2 => rw [h2]; exact ih (h1 ▸ hc)
    | @opened ws' req user hnew hu =>
      by_cases hws : ws = ws'
      · subst hws
        obtain rfl : Conn.opened user req w.now = c := by simpa [World.put] using hc
        exact hopened ..
      · exact ih (by simpa [World.put, hws] using hc)
    | @broadcast body _ h1 h2 =>
      rw [h2] at hc
      obtain ⟨c₀, h0, rfl⟩ := Option.map_eq_some_iff.1 hc
      rw [h1]
      split
      · rename_i hreg
        exact hbroadcast _ _ _ (ih h0) rfl hreg (hG c₀ h0 hreg)
      · rename_i hreg
        exact hgone _ _ _ (ih h0) (by simpa using hreg)
    | @on ws' c₀ input _ h0 he h1 h2 =>
      rw [h2]
      rw [h1] at hc
      by_cases hws : ws = ws'
      · subst hws
        obtain rfl : c₀.handle input = c := by simpa using hc
        exact hon _ _ _ (ih h0) he (hG c₀ h0 rfl)
      · exact ih (by simpa [hws] using hc)

/-- The events broadcast are told apart by their place. -/
theorem broadcasts_oid {env : Env} {w : World Ws} (hr : Reachable (Step env) .init w) :
    w.broadcasts.map (·.oid) = List.range w.broadcasts.length := by
  refine hr.inv (I := fun w => w.broadcasts.map (·.oid) = List.range w.broadcasts.length) rfl fun w a w' hi hs => ?_
  cases step_change hs with
  | quiet _ h => rw [h, hi]
  | opened => exact hi
  | broadcast h => rw [h, List.map_append, hi, List.length_append, List.length_singleton, List.range_succ]; rfl
  | on _ _ _ h => rw [h, hi]

end Tactix.Realtime
