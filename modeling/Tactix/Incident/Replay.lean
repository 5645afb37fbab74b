import Mathlib.Data.List.Induction
import Tactix.Incident.Domain
import Tactix.JsonRoundTrip
/-!
# The live aggregate and its replay

An `Incident` is built by `create` and changed by its commands. `live_eq_replay`
says that after each of them it is what `Incident.from` makes of the events so
far, as they were or as JSON gives them back.
-/
open Tactix.Js

namespace Tactix.Incident

variable {Id : Type}

/-! ## Commands -/

inductive Call where
  | addMessage (message : String)
  | submit
  | update (title description : Option String)

/-- What a command leaves of the aggregate, and its event. A command that throws
has changed nothing. -/
def Call.run (state : IncidentState Id) : Call → IncidentState Id × Option IncidentEvent
  | .addMessage message => let (state, event) := Incident.addMessage state message; (state, some event)
  | .submit =>
    match Incident.submit state with
    | .ok (state, event) => (state, some event)
    | .error _ => (state, none)
  | .update title description => let (state, event) := Incident.update state title description; (state, some event)

/-- The aggregate, and the events returned so far. -/
structure Live (Id : Type) where
  state : IncidentState Id
  events : List IncidentEvent

def Live.run (live : Live Id) (call : Call) : Live Id :=
  ⟨(call.run live.state).1, live.events ++ (call.run live.state).2.toList⟩

/-- `Incident.create` and then the commands. -/
def live (id : Id) (title description org : String) (calls : List Call) : Live Id :=
  calls.foldl Live.run ⟨(create id title description org).1, [(create id title description org).2]⟩

/-- A command applies its event, if it has one. -/
theorem run_state (state : IncidentState Id) (call : Call) :
    (call.run state).1 = (call.run state).2.toList.foldl apply state := by
  cases call with
  | addMessage message => rfl
  | update title description => rfl
  | submit =>
    unfold Call.run submit
    by_cases h : state.status = .Draft <;> simp [h]

theorem live_snoc (id : Id) (title description org : String) (calls : List Call) (call : Call) :
    live id title description org (calls ++ [call]) = (live id title description org calls).run call := by
  unfold live
  rw [List.foldl_append]
  rfl

theorem live_replays (id : Id) (title description org : String) (calls : List Call) :
    (live id title description org calls).state = fromEvents id (live id title description org calls).events := by
  induction calls using List.reverseRecOn with
  | nil => rfl
  | append_singleton calls call ih =>
    rw [live_snoc, Live.run]
    unfold fromEvents at ih ⊢
    rw [List.foldl_append, ← ih, run_state]

/-! ## Events as JSON -/

def IncidentEvent.type : IncidentEvent → String
  | .IncidentCreated .. => "IncidentCreated"
  | .IncidentUpdated .. => "IncidentUpdated"
  | .IncidentSubmitted => "IncidentSubmitted"
  | .MessageAdded .. => "MessageAdded"

/-- The `data` of an event. -/
def IncidentEvent.data : IncidentEvent → Json
  | .IncidentCreated title description org =>
    .obj [("title", .str title), ("description", .str description), ("org", .str org)]
  | .IncidentUpdated title description => .obj (optField "title" title ++ optField "description" description)
  | .IncidentSubmitted => .obj []
  | .MessageAdded message => .obj [("message", .str message)]

/-- The event of a type with some data. -/
def eventOf (type : String) (data : Json) : Option IncidentEvent :=
  if type = "IncidentCreated" then
    match str? (data.get? "title"), str? (data.get? "description"), str? (data.get? "org") with
    | some title, some description, some org => some (.IncidentCreated title description org)
    | _, _, _ => none
  else if type = "IncidentUpdated" then
    some (.IncidentUpdated (str? (data.get? "title")) (str? (data.get? "description")))
  else if type = "IncidentSubmitted" then some .IncidentSubmitted
  else if type = "MessageAdded" then (str? (data.get? "message")).map .MessageAdded
  else none

/-- An event whose data went through `JSON.stringify` and `JSON.parse`. -/
def IncidentEvent.sent (nums : NumberText) (e : IncidentEvent) : Option IncidentEvent :=
  (parse nums (stringify nums 0 e.data)).bind (eventOf e.type)

theorem data_distinct (e : IncidentEvent) : e.data.Distinct := by
  cases e with
  | IncidentCreated title description org => simp [IncidentEvent.data, distinct_obj, Json.Distinct]
  | IncidentUpdated title description =>
    cases title <;> cases description <;> simp [IncidentEvent.data, optField, distinct_obj, Json.Distinct]
  | IncidentSubmitted => simp [IncidentEvent.data, distinct_obj]
  | MessageAdded message => simp [IncidentEvent.data, distinct_obj, Json.Distinct]

theorem eventOf_data (e : IncidentEvent) : eventOf e.type e.data = some e := by
  cases e with
  | IncidentCreated title description org => rfl
  | IncidentUpdated title description => cases title <;> cases description <;> rfl
  | IncidentSubmitted => rfl
  | MessageAdded message => rfl

theorem sent_eq (nums : NumberText) (e : IncidentEvent) : e.sent nums = some e := by
  rw [IncidentEvent.sent, parse_stringify (data_distinct e), Option.bind_some, eventOf_data]

theorem mapM_sent (nums : NumberText) (events : List IncidentEvent) : events.mapM (·.sent nums) = some events := by
  induction events with
  | nil => rfl
  | cons e events ih =>
    rw [List.mapM_cons, ih, sent_eq]
    rfl

/-- After every sequence of commands the aggregate is the replay of its events, sent
through JSON or not, and a `submit` it refuses changes nothing and has no event. -/
theorem live_eq_replay (nums : NumberText) (id : Id) (title description org : String) (calls : List Call) :
    (live id title description org calls).state = fromEvents id (live id title description org calls).events ∧
      (∃ events, (live id title description org calls).events.mapM (·.sent nums) = some events ∧
        (live id title description org calls).state = fromEvents id events) ∧
      ((∃ e, submit (live id title description org calls).state = .error e) →
        live id title description org (calls ++ [.submit]) = live id title description org calls) := by
  have hreplay := live_replays id title description org calls
  refine ⟨hreplay, ⟨_, mapM_sent nums _, hreplay⟩, ?_⟩
  rintro ⟨e, he⟩
  rw [live_snoc, Live.run, Call.run, he]
  simp

/-- A title is changed, and the second `submit` refused. -/
example : (live 7 "Flood" "" "fire" [.update (some "Fire") none, .submit, .submit]).events =
    [.IncidentCreated "Flood" "" "fire", .IncidentUpdated (some "Fire") none, .IncidentSubmitted] := by decide

end Tactix.Incident
