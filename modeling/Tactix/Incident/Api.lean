import Mathlib.Logic.Function.Basic
import Tactix.Js
import Tactix.Incident.EventStore
import Tactix.Lib.Runs
/-!
# The incident service

The handlers of `api.ts` over any event store, cut at their `await`s: between
two steps of one request any other request may run. `Step` allows every
order; a rejected promise ends the request in `next(err)`.
-/
open Tactix.Js ServiceLib

namespace Tactix.Incident

/-- A request to one of the four routes. The id of `get`, `addMessage` and
`submit` is `req.params.id`. -/
inductive Request (Id : Type) where
  | create (body : Json)
  | get (id : Id)
  | addMessage (id : Id) (body : Json)
  | submit (id : Id)

/-- What a request asks for, once its body passed the schema. -/
inductive Command where
  | create (title description org : String)
  | get
  | addMessage (message : String)
  | submit
  deriving DecidableEq

variable {Id State Handle Pending : Type}

/-- `schema.parse(req.body)` and the incident id; `none` when `parse` throws. A
created incident gets `uuid`. -/
def Request.parse (uuid : Id) : Request Id → Option (Id × Command)
  | .create body => do
    let title ← str? (body.get? "title")
    let description ← str? (body.get? "description")
    let org ← str? (body.get? "org")
    return (uuid, .create title description org)
  | .get id => some (id, .get)
  | .addMessage id body => do
    let message ← str? (body.get? "message")
    return (id, .addMessage message)
  | .submit id => some (id, .submit)

/-- The answer to a request; `error` is what reaches `next(err)`. -/
inductive Reply (Id : Type) where
  | created (incident : IncidentState Id)
  | ok (incident : IncidentState Id)
  | notFound
  | error (message : String)

/-- Where a handler stands: awaiting `load`, resumed with what it resolved to,
awaiting `append` with the incident to answer with, or answered. -/
inductive Phase (Id Handle Pending : Type) where
  | loading
  | loaded (h : Handle)
  | appending (p : Pending) (incident : IncidentState Id)
  | appended (incident : IncidentState Id)
  | done (reply : Reply Id)

/-- A request being handled. `events` is the handler's local variable. -/
structure Thread (Id Handle Pending : Type) where
  id : Id
  command : Command
  events : List IncidentEvent
  phase : Phase Id Handle Pending

/-- The service. `issued` are the UUIDs drawn; `calls` and `settled` record the
requests whose `append` was called and was carried out, in order. -/
structure Sys (Id State Handle Pending : Type) where
  store : State
  threads : Nat → Option (Thread Id Handle Pending)
  issued : List Id
  calls : List Nat
  settled : List Nat

def Sys.init (S : EventStore Id State Handle Pending) : Sys Id State Handle Pending :=
  ⟨S.empty, fun _ => none, [], [], []⟩

def Sys.put (s : Sys Id State Handle Pending) (r : Nat) (t : Thread Id Handle Pending) : Sys Id State Handle Pending :=
  { s with threads := Function.update s.threads r (some t) }

/-- `await store.append(id, event)`, up to the `await`. -/
def Sys.append (S : EventStore Id State Handle Pending) (s : Sys Id State Handle Pending) (r : Nat)
    (t : Thread Id Handle Pending) (next : IncidentState Id × IncidentEvent) (now : Nat) : Sys Id State Handle Pending :=
  let (store, p) := S.append s.store t.id next.2 now
  { s with store, calls := s.calls ++ [r] }.put r { t with phase := .appending p next.1 }

/-- A handler up to its first `await`. -/
def Sys.arrive (S : EventStore Id State Handle Pending) (s : Sys Id State Handle Pending) (r : Nat) (id : Id)
    (command : Command) (now : Nat) : Sys Id State Handle Pending :=
  let t : Thread Id Handle Pending := ⟨id, command, [], .loading⟩
  match command with
  | .create title description org =>
    { s with issued := id :: s.issued }.append S r t (create id title description org) now
  | _ => s.put r t

/-- A handler after `await store.load(id)`, with the events it reads now. -/
def Sys.resume (S : EventStore Id State Handle Pending) (s : Sys Id State Handle Pending) (r : Nat)
    (t : Thread Id Handle Pending) (events : List IncidentEvent) (now : Nat) : Sys Id State Handle Pending :=
  let t := { t with events }
  if events = [] then s.put r { t with phase := .done .notFound }
  else
    let incident := fromEvents t.id events
    match t.command with
    -- No creation gets here: it appends without loading.
    | .create .. => s
    | .get => s.put r { t with phase := .done (.ok incident) }
    | .addMessage message => s.append S r t (addMessage incident message) now
    | .submit =>
      match submit incident with
      | .error e => s.put r { t with phase := .done (.error e) }
      | .ok next => s.append S r t next now

/-- The answer once `append` has resolved. -/
def Command.reply (c : Command) (incident : IncidentState Id) : Reply Id :=
  match c with
  | .create .. => .created incident
  | _ => .ok incident

/-- What `append` did when its promise resolves or is rejected. -/
def Sys.settle (S : EventStore Id State Handle Pending) (s : Sys Id State Handle Pending) (r : Nat) (p : Pending) :
    Sys Id State Handle Pending :=
  { s with store := S.settle s.store p, settled := s.settled ++ [r] }

inductive Action (Id Handle : Type) where
  | arrive (r : Nat) (req : Request Id) (uuid : Id) (now : Nat)
  | load (r : Nat) (h : Handle)
  | resume (r : Nat) (now : Nat)
  | settle (r : Nat)
  | respond (r : Nat)
  | loadFails (r : Nat)
  | appendFails (r : Nat) (stored : Bool)

/-- One step of one request. `randomUUID` never repeats. A rejected `append`
may have stored the event or not. -/
inductive Step (S : EventStore Id State Handle Pending) :
    Sys Id State Handle Pending → Action Id Handle → Sys Id State Handle Pending → Prop
  | refuse {s : Sys Id State Handle Pending} {r : Nat} {req : Request Id} {uuid : Id} {now : Nat} :
    req.parse uuid = none → Step S s (.arrive r req uuid now) s
  | arrive {s : Sys Id State Handle Pending} {r : Nat} {req : Request Id} {uuid id : Id} {now : Nat} {c : Command} :
    s.threads r = none → uuid ∉ s.issued → req.parse uuid = some (id, c) →
    Step S s (.arrive r req uuid now) (s.arrive S r id c now)
  | load {s : Sys Id State Handle Pending} {r : Nat} {t : Thread Id Handle Pending} {h : Handle} :
    s.threads r = some t → t.phase = .loading → S.load s.store t.id h →
    Step S s (.load r h) (s.put r { t with phase := .loaded h })
  -- The events are read when the handler goes on: in memory the array may have grown since `load`.
  | resume {s : Sys Id State Handle Pending} {r : Nat} {t : Thread Id Handle Pending} {h : Handle} {now : Nat} :
    s.threads r = some t → t.phase = .loaded h →
    Step S s (.resume r now) (s.resume S r t (S.events s.store h) now)
  | settle {s : Sys Id State Handle Pending} {r : Nat} {t : Thread Id Handle Pending} {p : Pending}
    {incident : IncidentState Id} :
    s.threads r = some t → t.phase = .appending p incident →
    Step S s (.settle r) ((s.settle S r p).put r { t with phase := .appended incident })
  | respond {s : Sys Id State Handle Pending} {r : Nat} {t : Thread Id Handle Pending} {incident : IncidentState Id} :
    s.threads r = some t → t.phase = .appended incident →
    Step S s (.respond r) (s.put r { t with phase := .done (t.command.reply incident) })
  | loadFails {s : Sys Id State Handle Pending} {r : Nat} {t : Thread Id Handle Pending} :
    S.fails = true → s.threads r = some t → t.phase = .loading →
    Step S s (.loadFails r) (s.put r { t with phase := .done (.error "store") })
  | appendFails {s : Sys Id State Handle Pending} {r : Nat} {t : Thread Id Handle Pending} {p : Pending}
    {incident : IncidentState Id} {stored : Bool} :
    S.fails = true → s.threads r = some t → t.phase = .appending p incident →
    Step S s (.appendFails r stored)
      ((if stored then s.settle S r p else s).put r { t with phase := .done (.error "store") })

end Tactix.Incident
