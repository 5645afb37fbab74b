import Tactix.Js
import Tactix.Lib.EventLoop
/-!
# The Zero-Trust flag

`zeroTrustFlag.ts` of `@tactix/feature-flags`, the repository of
`@tactix/settings` under it and the handler of `PUT /zero-trust` over it. The
shared memory is the clock and the module's `cache`.
-/
open Tactix.Js ServiceLib

namespace Tactix.ZeroTrust

inductive Source where
  | LOCKED
  | DB
  | DEFAULT
  deriving DecidableEq

structure Cache where
  val : Bool
  ts : Int
  source : Source
  deriving DecidableEq

structure Env where
  TACTIX_ZT_LOCKED : Option String
  TACTIX_ZT_DEFAULT : Option String

structure Memory where
  /-- `Date.now()`. -/
  now : Int
  cache : Option Cache

/-- The row of `security_settings` with id 1: its `zero_trust_enabled`, which is not null. -/
abbrev Settings := Option Bool

/-- What is asked of a database client. -/
inductive Query where
  | connect
  | getSecuritySettings
  | updateZeroTrustEnabled (enabled : Bool) (actor : String)
  | close
  deriving DecidableEq

abbrev Query.Rows : Query → Type
  | .getSecuritySettings => Settings
  | _ => Unit

/-- `none` is a rejection. -/
abbrev Query.Reply (q : Query) : Type := Option q.Rows

inductive Error where
  | rejected

abbrev Svc := Prog Memory Query Query.Reply Error

def query (q : Query) : Svc q.Rows :=
  .await q fun
    | some rows => .ret rows
    | none => .raise .rejected

/-! ## `securitySettingsRepo.ts` -/

def getSecuritySettings : Svc Settings := do
  query .connect
  Prog.andFinally (query .getSecuritySettings) (query .close)

def updateZeroTrustEnabled (enabled : Bool) (actor : String) : Svc Unit := do
  query .connect
  Prog.andFinally (query (.updateZeroTrustEnabled enabled actor)) (query .close)

/-! ## `zeroTrustFlag.ts` -/

def TTL_MS : Int := 5000

/-- `cache = c; return cache`. -/
def fill (c : Cache) : Svc Cache := do
  let m ← Prog.read
  Prog.write { m with cache := some c }
  return c

/-- What a lookup of the settings leaves in the cache. A failed one counts as no row. -/
def entry (env : Env) (row : Settings) (now : Int) : Cache :=
  match row with
  | some enabled => ⟨enabled, now, .DB⟩
  | none => ⟨env.TACTIX_ZT_DEFAULT = some "true", now, .DEFAULT⟩

def resolveZeroTrust (env : Env) : Svc Cache := do
  let m ← Prog.read
  match m.cache.filter fun c => m.now - c.ts < TTL_MS with
  | some c => return c
  | none =>
    if env.TACTIX_ZT_LOCKED = some "true" then fill ⟨true, m.now, .LOCKED⟩
    else
      let row ← Prog.orElse getSecuritySettings fun _ => .ret none
      fill (entry env row m.now)

def getZeroTrustEnabled (env : Env) : Svc Bool := do
  let res ← resolveZeroTrust env
  return res.val

def bustZeroTrustCache : Svc Unit := do
  let m ← Prog.read
  Prog.write { m with cache := none }

/-! ## `routes/admin/security.ts` -/

structure PutRequest where
  body : Option Json
  /-- `req.user?.username`. -/
  username : Option String

inductive Answer where
  /-- What a call of `resolveZeroTrust` returns. -/
  | resolved (c : Cache)
  /-- Status 423. -/
  | locked
  /-- The body of a successful `PUT /zero-trust`. -/
  | saved (enabled : Bool) (source : Source) (updatedBy : String) (updatedAt : Int)

/-- `req.body?.enabled`, which must be there to be true. -/
def PutRequest.enabled (req : PutRequest) : Bool := truthy (req.body.bind (·.get? "enabled"))

def PutRequest.actor (req : PutRequest) : String := (orString req.username none).getD "system"

/-- The handler of `PUT /zero-trust`, behind `requireRole`. -/
def putZeroTrust (env : Env) (req : PutRequest) : Svc Answer :=
  if env.TACTIX_ZT_LOCKED = some "true" then .ret .locked
  else do
    updateZeroTrustEnabled req.enabled req.actor
    bustZeroTrustCache
    let res ← resolveZeroTrust env
    let m ← Prog.read
    return .saved res.val res.source req.actor m.now

inductive Call where
  | resolveZeroTrust
  | putZeroTrust (req : PutRequest)

def Call.run (env : Env) : Call → Svc Answer
  | .resolveZeroTrust => do return .resolved (← ZeroTrust.resolveZeroTrust env)
  | .putZeroTrust req => ZeroTrust.putZeroTrust env req

/-! ## The calls on one event loop -/

/-- Every database call succeeds. -/
inductive served : Settings → (q : Query) → q.Reply → Settings → Prop
  | connect {d : Settings} : served d .connect (some ()) d
  | getSecuritySettings {d : Settings} : served d .getSecuritySettings (some d) d
  | updateZeroTrustEnabled {d : Settings} {enabled : Bool} {actor : String} :
      served d (.updateZeroTrustEnabled enabled actor) (some ()) (some enabled)
  | close {d : Settings} : served d .close (some ()) d

/-- Between the turns only the clock moves, to any time. -/
def clock (now : Int) (m : Memory) (d : Settings) (m' : Memory) (d' : Settings) : Prop :=
  m' = { m with now } ∧ d' = d

abbrev State := Sys Call Memory Settings Query Query.Reply Error Answer

abbrev Act := Action Call Int Query Query.Reply

abbrev FlagStep (env : Env) : State → Act → State → Prop := Step (Call.run env) served clock

/-- Neither variable is set. -/
def Env.sample : Env := ⟨none, none⟩

end Tactix.ZeroTrust
