import Tactix.Authz
/-!
# A client of the realtime service

`index.js` keeps a bounded queue for each WebSocket client, and sends it the
events it is subscribed to one at a time. `Conn` is what the closures of one
client hold, with a history of what the service did for it.
-/
open Tactix.Js Tactix.Authz

namespace Tactix.Realtime

def MAX_QUEUE : Nat := 100

/-! ## Events -/

/-- A notification's parsed payload. `oid` tells apart the objects that
`JSON.parse` returns. -/
structure Event where
  oid : Nat
  body : Json

def Event.type (e : Event) : Option Json := e.body.get? "type"
def Event.incidentId (e : Event) : Option Json := e.body.get? "incidentId"
def Event.seq (e : Event) : Option Json := e.body.get? "seq"

/-- `event.type === 'PLAYBOOK_NOTIFY'`. -/
def Event.isNotify (e : Event) : Bool := str? e.type = some "PLAYBOOK_NOTIFY"

/-- `state.incidentId === event.incidentId`; the state holds a number or `null`. -/
def sameIncident : Option Rat → Option Json → Bool
  | none, some .null => true
  | some j, some (.num n) => j = n
  | _, _ => false

/-- The condition under which `broadcast` hands an event to a client. -/
def Event.matches (e : Event) (incidentId : Option Rat) : Bool := e.isNotify || sameIncident incidentId e.incidentId

/-! ## One client -/

/-- An upgrade request. Header names are lower case. -/
structure UpgradeRequest where
  url : String
  headers : String → Option String

/-- What happened to a client, in order. `handed` and `snapshot` are calls of
`ws.send`; a snapshot is labelled with the incident that was fetched. -/
inductive Obs where
  | broadcast (e : Event)
  | subscribed (incidentId : Rat)
  | handed (e : Event)
  | overflow (queue : List Event) (event : Event)
  | snapshot (incidentId : Option Rat) (incident : Json) (seq : Option Json)

/-- A snapshot fetch that has not answered: the URL's incident, the `seq` its
frame will carry, and whether `enqueue` or a subscription started it. -/
structure Fetch where
  incidentId : Option Rat
  seq : Option Json
  overflow : Bool

/-- A client: the `state` object, its socket, its closures still to be called,
and its history. -/
structure Conn where
  incidentId : Option Rat
  queue : List Event
  sending : Bool
  user : TactixUser
  /-- Whether `clients` has it. -/
  registered : Bool
  /-- `ws.readyState === WebSocket.OPEN`. -/
  isOpen : Bool
  /-- The callbacks of `ws.send` to come. -/
  callbacks : Nat
  fetches : List Fetch
  request : UpgradeRequest
  openedAt : Nat
  history : List Obs

/-- The `connection` handler. -/
def Conn.opened (user : TactixUser) (request : UpgradeRequest) (now : Nat) : Conn :=
  { incidentId := none, queue := [], sending := false, user, registered := true, isOpen := true, callbacks := 0,
    fetches := [], request, openedAt := now, history := [] }

def Conn.observe (c : Conn) (o : Obs) : Conn := { c with history := c.history ++ [o] }

/-- What `flush` would send next. A queued event is an object, so it is never
falsy. -/
def Conn.ready (c : Conn) : Option Event := if c.sending || !c.isOpen then none else c.queue.head?

def flush (c : Conn) : Conn :=
  if c.sending || !c.isOpen then c
  else
    match c.queue with
    | [] => c
    | msg :: queue => { c with queue, sending := true, callbacks := c.callbacks + 1 }.observe (.handed msg)

def enqueue (c : Conn) (event : Event) : Conn :=
  if MAX_QUEUE ≤ c.queue.length then
    -- The event goes with the queue; its `seq` labels the snapshot to come.
    let fetch : Fetch := ⟨c.incidentId, event.seq, true⟩
    { c with fetches := c.fetches ++ [fetch], queue := [] }.observe (.overflow c.queue event)
  else flush { c with queue := c.queue ++ [event] }

/-- One turn of the loop of `broadcast`. -/
def Conn.broadcast (c : Conn) (event : Event) : Conn :=
  let c := c.observe (.broadcast event)
  if event.matches c.incidentId then enqueue c event else c

/-- The `message` handler, on data that parsed. -/
def Conn.message (c : Conn) (msg : Json) : Conn :=
  if str? (msg.get? "type") = some "subscribe" then
    match num? (msg.get? "incidentId") with
    | none => c
    | some incidentId =>
      let c := { c with incidentId := some incidentId }.observe (.subscribed incidentId)
      match num? (msg.get? "seq") with
      | none => c
      | some seq =>
        let fetch : Fetch := ⟨c.incidentId, some (.num seq), false⟩
        { c with fetches := c.fetches ++ [fetch] }
  else c

/-- The callback of `ws.send`. -/
def Conn.sent (c : Conn) (err : Bool) : Conn :=
  let c := { c with sending := false, callbacks := c.callbacks - 1 }
  if err then { c with isOpen := false } else flush c

/-- Fetch `i` answers with an incident, or fails. -/
def Conn.fetched (c : Conn) (i : Nat) (answer : Option Json) : Conn :=
  match c.fetches[i]? with
  | none => c
  | some f =>
    let c := { c with fetches := c.fetches.eraseIdx i }
    match answer with
    | none => c
    -- Sent past the queue, whatever `sending` says.
    | some incident => c.observe (.snapshot f.incidentId incident f.seq)

/-- What can happen to a client. A `broadcast` comes from a notification. -/
inductive Input where
  | broadcast (e : Event)
  | message (data : Option Json)
  | sent (err : Bool)
  | fetched (i : Nat) (answer : Option Json)
  | leave
  | close

def Conn.handle (c : Conn) : Input → Conn
  | .broadcast e => c.broadcast e
  | .message none => c
  | .message (some msg) => c.message msg
  | .sent err => c.sent err
  | .fetched i answer => c.fetched i answer
  | .leave => { c with isOpen := false }
  | .close => { c with isOpen := false, registered := false }

/-- Whether the socket or a closure of the client may do this now. -/
def Conn.enabled (c : Conn) : Input → Bool
  | .broadcast _ => false
  | .message _ | .close => c.registered
  | .sent _ => 0 < c.callbacks
  | .fetched i _ => i < c.fetches.length
  | .leave => true

/-- `msg.type` throws on `null`, outside of any `try`. -/
def Input.crashes : Input → Bool
  | .message (some .null) => true
  | _ => false

/-- The incident a message subscribes to. -/
def subscribes (msg : Json) : Option Rat :=
  if str? (msg.get? "type") = some "subscribe" then num? (msg.get? "incidentId") else none

/-! ## What the handlers do -/

theorem flush_cases (c : Conn) :
    (c.ready = none ∧ flush c = c) ∨
    ∃ msg queue, c.ready = some msg ∧ c.queue = msg :: queue ∧ c.sending = false ∧
      flush c = { c with queue, sending := true, callbacks := c.callbacks + 1 }.observe (.handed msg) := by
  unfold flush Conn.ready
  split
  · exact .inl ⟨rfl, rfl⟩
  · rename_i h
    have hs : c.sending = false := by simp at h; exact h.1
    cases hq : c.queue with
    | nil => exact .inl ⟨rfl, rfl⟩
    | cons msg queue => exact .inr ⟨msg, queue, rfl, rfl, hs, rfl⟩

/-- The queue at the `flush` in `enqueue`. -/
def Conn.push (c : Conn) (e : Event) : Conn := { c.observe (.broadcast e) with queue := c.queue ++ [e] }

/-- An event does not match, is thrown away with the queue, or is queued. -/
theorem broadcast_cases (c : Conn) (e : Event) :
    (e.matches c.incidentId = false ∧ c.broadcast e = c.observe (.broadcast e)) ∨
    (e.matches c.incidentId = true ∧ MAX_QUEUE ≤ c.queue.length ∧
      c.broadcast e = { (c.push e).observe (.overflow c.queue e) with
        queue := [], fetches := c.fetches ++ [⟨c.incidentId, e.seq, true⟩] }) ∨
    (e.matches c.incidentId = true ∧ c.queue.length < MAX_QUEUE ∧ c.broadcast e = flush (c.push e)) := by
  unfold Conn.broadcast
  cases hm : e.matches c.incidentId with
  | false => exact .inl ⟨rfl, by simp [Conn.observe, hm]⟩
  | true =>
    have hcond : e.matches (c.observe (.broadcast e)).incidentId = true := hm
    by_cases hfull : MAX_QUEUE ≤ c.queue.length
    · have hfull' : MAX_QUEUE ≤ (c.observe (.broadcast e)).queue.length := hfull
      exact .inr (.inl ⟨rfl, hfull, by simp only [hcond, if_true, enqueue, hfull']; rfl⟩)
    · have hfull' : ¬ MAX_QUEUE ≤ (c.observe (.broadcast e)).queue.length := hfull
      exact .inr (.inr ⟨rfl, Nat.lt_of_not_le hfull, by simp only [hcond, if_true, enqueue, hfull']; rfl⟩)

theorem message_cases (c : Conn) (msg : Json) :
    (subscribes msg = none ∧ c.message msg = c) ∨
    ∃ j, subscribes msg = some j ∧ c.message msg =
      { c.observe (.subscribed j) with
        incidentId := some j
        fetches := c.fetches ++ match num? (msg.get? "seq") with
          | none => []
          | some seq => [⟨some j, some (.num seq), false⟩] } := by
  unfold Conn.message subscribes
  split
  · cases num? (msg.get? "incidentId") with
    | none => exact .inl ⟨rfl, rfl⟩
    | some j => cases hs : num? (msg.get? "seq") <;> exact .inr ⟨j, rfl, by simp [Conn.observe]⟩
  · exact .inl ⟨rfl, rfl⟩

theorem fetched_cases (c : Conn) (i : Nat) (answer : Option Json) :
    c.fetched i answer = c ∨
    ∃ f, c.fetches[i]? = some f ∧
      ((answer = none ∧ c.fetched i answer = { c with fetches := c.fetches.eraseIdx i }) ∨
        ∃ incident, answer = some incident ∧ c.fetched i answer =
          { c with fetches := c.fetches.eraseIdx i }.observe (.snapshot f.incidentId incident f.seq)) := by
  unfold Conn.fetched
  cases hf : c.fetches[i]? with
  | none => exact .inl rfl
  | some f =>
    cases answer with
    | none => exact .inr ⟨f, rfl, .inl ⟨rfl, rfl⟩⟩
    | some incident => exact .inr ⟨f, rfl, .inr ⟨incident, rfl, rfl⟩⟩

end Tactix.Realtime
