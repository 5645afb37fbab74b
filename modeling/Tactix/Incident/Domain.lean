import Mathlib.Data.List.Basic
/-!
# The incident aggregate

`domain/Incident.ts`: events, and the state they fold to. `fromEvents_log`
reads a whole log that begins with its `IncidentCreated`.
-/

namespace Tactix.Incident

inductive IncidentStatus where
  | Draft
  | Submitted
  | Closed
  deriving DecidableEq, Repr

inductive IncidentEvent where
  | IncidentCreated (title description org : String)
  | IncidentUpdated (title description : Option String)
  | IncidentSubmitted
  | MessageAdded (message : String)
  deriving DecidableEq, Repr

structure IncidentState (Id : Type) where
  id : Id
  title : String
  description : String
  status : IncidentStatus
  org : String
  messages : List String
  deriving DecidableEq, Repr

variable {Id : Type}

open IncidentEvent

def apply (state : IncidentState Id) : IncidentEvent → IncidentState Id
  | IncidentCreated title description org => { state with title, description, org, status := .Draft }
  | IncidentUpdated title description =>
    { state with title := title.getD state.title, description := description.getD state.description }
  | IncidentSubmitted => { state with status := .Submitted }
  | MessageAdded message => { state with messages := state.messages ++ [message] }

/-- `Incident.from(id, events)`. -/
def fromEvents (id : Id) (events : List IncidentEvent) : IncidentState Id :=
  events.foldl apply ⟨id, "", "", .Draft, "", []⟩

/-- `Incident.create`. -/
def create (id : Id) (title description org : String) : IncidentState Id × IncidentEvent :=
  let event := IncidentCreated title description org
  (apply ⟨id, "", "", .Draft, org, []⟩ event, event)

def addMessage (state : IncidentState Id) (message : String) : IncidentState Id × IncidentEvent :=
  let event := MessageAdded message
  (apply state event, event)

/-- `submit` throws `Only draft incidents can be submitted`. -/
def submit (state : IncidentState Id) : Except String (IncidentState Id × IncidentEvent) :=
  if state.status ≠ .Draft then .error "Only draft incidents can be submitted"
  else .ok (apply state IncidentSubmitted, IncidentSubmitted)

def update (state : IncidentState Id) (title description : Option String) : IncidentState Id × IncidentEvent :=
  let event := IncidentUpdated title description
  (apply state event, event)

/-! ## Replaying a log -/

/-- The events that may follow `IncidentCreated` in the service's logs. -/
def IncidentEvent.isCommand : IncidentEvent → Bool
  | IncidentSubmitted | MessageAdded _ => true
  | _ => false

def IncidentEvent.message? : IncidentEvent → Option String
  | MessageAdded m => some m
  | _ => none

/-- One `IncidentCreated`, then only messages and submissions; or nothing yet. -/
def WellFormed : List IncidentEvent → Prop
  | [] => True
  | e :: rest => (∃ title description org, e = IncidentCreated title description org) ∧ ∀ e ∈ rest, e.isCommand = true

theorem foldl_apply_commands (es : List IncidentEvent) (s : IncidentState Id) (h : ∀ e ∈ es, e.isCommand = true) :
    es.foldl apply s =
      { s with status := if IncidentSubmitted ∈ es then .Submitted else s.status,
               messages := s.messages ++ es.filterMap (·.message?) } := by
  induction es generalizing s with
  | nil => simp
  | cons e es ih =>
    rw [List.foldl_cons, ih _ fun e' he' => h e' (List.mem_cons_of_mem _ he')]
    cases e with
    | IncidentCreated => simp [IncidentEvent.isCommand] at h
    | IncidentUpdated => simp [IncidentEvent.isCommand] at h
    | IncidentSubmitted => simp [apply, IncidentEvent.message?]
    | MessageAdded m => simp [apply, IncidentEvent.message?]

/-- What a well-formed log replays to. -/
theorem fromEvents_log (id : Id) (title description org : String) (es : List IncidentEvent)
    (h : ∀ e ∈ es, e.isCommand = true) :
    fromEvents id (IncidentCreated title description org :: es) =
      ⟨id, title, description, if IncidentSubmitted ∈ es then .Submitted else .Draft, org, es.filterMap (·.message?)⟩ := by
  simp [fromEvents, apply, foldl_apply_commands es _ h]

theorem wellFormed_append {log : List IncidentEvent} {e : IncidentEvent} (h : WellFormed log) (hne : log ≠ [])
    (he : e.isCommand = true) : WellFormed (log ++ [e]) := by
  cases log with
  | nil => exact absurd rfl hne
  | cons c rest =>
    refine ⟨h.1, fun e' he' => ?_⟩
    rcases List.mem_append.1 he' with he' | he'
    · exact h.2 e' he'
    · rw [List.mem_singleton.1 he']; exact he

/-- A well-formed log is submitted exactly when it holds an `IncidentSubmitted`. -/
theorem status_wellFormed (id : Id) {log : List IncidentEvent} (h : WellFormed log) :
    (fromEvents id log).status = if IncidentSubmitted ∈ log then .Submitted else .Draft := by
  cases log with
  | nil => rfl
  | cons c rest =>
    obtain ⟨⟨title, description, org, rfl⟩, hr⟩ := h
    rw [fromEvents_log id _ _ _ _ hr]
    simp

end Tactix.Incident
