import Tactix.Incident.Domain
import Tactix.Lib.Lists
/-!
# Event stores

`EventStore` is the interface the handlers are written against, with the
moments at which an `await` lets other requests run. `inMemory` hands out the
live array and appends as soon as it is called; `postgres` reads and inserts
rows when its queries run, and orders them by a millisecond timestamp only.
`interchangeable_iff` says when the two load the same.
-/
open ServiceLib

namespace Tactix.Incident

/-- An implementation of `append` and `load`, with the type of the stored data,
of what the promise of `load` resolves to, and of an `append` that was called
and has not resolved. -/
structure EventStore (Id State Handle Pending : Type) where
  empty : State
  /-- `load id`, running in a state, may resolve to the handle. -/
  load : State → Id → Handle → Prop
  /-- The events a handler reads through the handle when it goes on. -/
  events : State → Handle → List IncidentEvent
  /-- The part of `append(id, event)` that runs when it is called, at the given
  reading of the clock. -/
  append : State → Id → IncidentEvent → Nat → State × Pending
  /-- The part that runs before its promise resolves. -/
  settle : State → Pending → State
  /-- Whether its promises may be rejected. -/
  fails : Bool
  /-- The events of an incident in the order they were stored. -/
  log : State → Id → List IncidentEvent

variable {Id State Handle Pending : Type} [DecidableEq Id]

/-- `InMemoryEventStore`: a `Map` from ids to arrays. `load` resolves to the
array itself, or to a new empty one. -/
def inMemory : EventStore Id (Id → Option (List IncidentEvent)) (Option Id) Unit where
  empty := fun _ => none
  load events id h := h = if (events id).isSome then some id else none
  events events h := h.elim [] fun id => (events id).getD []
  append events id event _ := (Function.update events id (some ((events id).getD [] ++ [event])), ())
  settle events _ := events
  fails := false
  log events id := (events id).getD []

/-- A row of `incidents_events`. Its `type` and `payload` columns hold the event. -/
structure Row (Id : Type) where
  incident_id : Id
  event : IncidentEvent
  timestamp : Nat

/-- The rows of an incident. -/
def rowsOf (rows : List (Row Id)) (id : Id) : List (Row Id) := rows.filter (·.incident_id = id)

/-- `PgEventStore`: the rows in the order they were inserted. `ORDER BY
timestamp` leaves the order of equal timestamps open. -/
def postgres : EventStore Id (List (Row Id)) (List IncidentEvent) (Row Id) where
  empty := []
  load rows id h := ∃ sel : List (Row Id), sel.Perm (rowsOf rows id) ∧ sel.Pairwise (·.timestamp ≤ ·.timestamp) ∧
    h = sel.map (·.event)
  events _ h := h
  append rows id event now := (rows, ⟨id, event, now⟩)
  settle rows row := rows ++ [row]
  fails := true
  log rows id := (rowsOf rows id).map (·.event)

/-! ## Appends one after another -/

/-- A call of `append` and the time it is made. -/
structure AppendCall (Id : Type) where
  id : Id
  event : IncidentEvent
  now : Nat

/-- One call of `append`, awaited. -/
def appendOne (S : EventStore Id State Handle Pending) (st : State) (c : AppendCall Id) : State :=
  let (st', pending) := S.append st c.id c.event c.now
  S.settle st' pending

/-- The store after the calls, each awaited before the next. -/
def appendAll (S : EventStore Id State Handle Pending) (calls : List (AppendCall Id)) : State :=
  calls.foldl (appendOne S) S.empty

/-- `S` may load these events for `id` after the calls. -/
def Loads (S : EventStore Id State Handle Pending) (calls : List (AppendCall Id)) (id : Id) (es : List IncidentEvent) :
    Prop :=
  ∃ h, S.load (appendAll S calls) id h ∧ es = S.events (appendAll S calls) h

/-- Whatever `postgres` loads is what `inMemory` loads, in append order, and
replays to the same incident. -/
def Interchangeable (calls : List (AppendCall Id)) : Prop :=
  ∀ id es es', Loads postgres calls id es → Loads inMemory calls id es' →
    es' = (calls.filter (·.id = id)).map (·.event) ∧ es = es' ∧ fromEvents id es = fromEvents id es'

def rowOf (c : AppendCall Id) : Row Id := ⟨c.id, c.event, c.now⟩

omit [DecidableEq Id] in
theorem foldl_rows (calls : List (AppendCall Id)) (rows : List (Row Id)) :
    calls.foldl (fun rows c => rows ++ [rowOf c]) rows = rows ++ calls.map rowOf := by
  induction calls generalizing rows with
  | nil => simp
  | cons c calls ih => rw [List.foldl_cons, ih, List.map_cons, List.append_assoc]; rfl

theorem appendAll_postgres (calls : List (AppendCall Id)) : appendAll postgres calls = calls.map rowOf :=
  foldl_rows calls []

theorem rowsOf_map (calls : List (AppendCall Id)) (id : Id) :
    rowsOf (calls.map rowOf) id = (calls.filter (·.id = id)).map rowOf := by
  rw [rowsOf, List.filter_map]; rfl

theorem loads_postgres (calls : List (AppendCall Id)) (id : Id) (es : List IncidentEvent) :
    Loads postgres calls id es ↔ ∃ sel : List (Row Id), sel.Perm ((calls.filter (·.id = id)).map rowOf) ∧
      sel.Pairwise (·.timestamp ≤ ·.timestamp) ∧ es = sel.map (·.event) := by
  rw [← rowsOf_map, ← appendAll_postgres]
  constructor
  · rintro ⟨_, ⟨sel, hp, hs, rfl⟩, rfl⟩
    exact ⟨sel, hp, hs, rfl⟩
  · rintro ⟨sel, hp, hs, rfl⟩
    exact ⟨_, ⟨sel, hp, hs, rfl⟩, rfl⟩

theorem log_foldl_inMemory (calls : List (AppendCall Id)) (st : Id → Option (List IncidentEvent)) (id : Id) :
    inMemory.log (calls.foldl (appendOne inMemory) st) id =
      inMemory.log st id ++ (calls.filter (·.id = id)).map (·.event) := by
  induction calls generalizing st with
  | nil => simp
  | cons c calls ih =>
    rw [List.foldl_cons, ih, List.filter_cons]
    by_cases hc : c.id = id
    · subst hc
      simp [inMemory, appendOne]
    · simp [inMemory, appendOne, Function.update_of_ne (Ne.symm hc), hc]

/-- What a load of an incident shows, in memory, is its log at that moment. -/
theorem events_inMemory {st : Id → Option (List IncidentEvent)} {id : Id} {h : Option Id} (hl : inMemory.load st id h) :
    inMemory.events st h = inMemory.log st id := by
  simp only [inMemory] at hl ⊢
  subst hl
  cases hs : st id <;> simp [hs]

/-- `inMemory` loads an incident's events in append order. -/
theorem loads_inMemory (calls : List (AppendCall Id)) (id : Id) (es : List IncidentEvent) :
    Loads inMemory calls id es ↔ es = (calls.filter (·.id = id)).map (·.event) := by
  have hlog : inMemory.log (appendAll inMemory calls) id = (calls.filter (·.id = id)).map (·.event) :=
    log_foldl_inMemory calls _ id
  constructor
  · rintro ⟨h, hl, rfl⟩
    rw [events_inMemory hl, hlog]
  · rintro rfl
    exact ⟨_, rfl, by rw [events_inMemory rfl, hlog]⟩

/-- Pairs of one incident, over all incidents. -/
theorem pairwise_by_id (calls : List (AppendCall Id)) (R : AppendCall Id → AppendCall Id → Prop) :
    (∀ id, (calls.filter (·.id = id)).Pairwise R) ↔ calls.Pairwise fun a b => a.id = b.id → R a b := by
  constructor
  · intro h
    rw [List.pairwise_iff_forall_sublist]
    intro a b hab he
    have := (h b.id).sublist (hab.filter (·.id = b.id))
    simpa [he] using this
  · intro h id
    refine (h.filter (·.id = id)).imp_of_mem fun ha hb hR => hR ?_
    simp only [List.mem_filter, decide_eq_true_eq] at ha hb
    rw [ha.2, hb.2]

/-- With a clock that never goes back, the two stores load the same exactly
when different events of one incident never share a millisecond. -/
theorem interchangeable_iff (calls : List (AppendCall Id)) (hclock : calls.Pairwise (·.now ≤ ·.now)) :
    Interchangeable calls ↔ calls.Pairwise fun a b => a.id = b.id → a.now = b.now → a.event = b.event := by
  -- Per incident, the rows are sorted as inserted, and `postgres` may load any sorted order of them.
  have hsorted : ∀ id, ((calls.filter (·.id = id)).map rowOf).Pairwise (·.timestamp ≤ ·.timestamp) :=
    fun id => List.pairwise_map.2 (hclock.filter _)
  have hevents : ∀ id, ((calls.filter (·.id = id)).map rowOf).map (·.event) = (calls.filter (·.id = id)).map (·.event) :=
    fun id => by rw [List.map_map]; rfl
  have hload : Interchangeable calls ↔ ∀ id, ∀ sel : List (Row Id), sel.Perm ((calls.filter (·.id = id)).map rowOf) →
      sel.Pairwise (·.timestamp ≤ ·.timestamp) →
      sel.map (·.event) = ((calls.filter (·.id = id)).map rowOf).map (·.event) := by
    simp only [Interchangeable, loads_postgres, loads_inMemory, hevents]
    constructor
    · intro h id sel hp hs
      exact (h id _ _ ⟨sel, hp, hs, rfl⟩ rfl).2.1
    · rintro h id es es' ⟨sel, hp, hs, rfl⟩ rfl
      have e := h id sel hp hs
      exact ⟨rfl, e, by rw [e]⟩
  rw [hload, ← pairwise_by_id]
  refine forall_congr' fun id => ?_
  exact (sorted_perm_iff Row.timestamp Row.event (hsorted id)).trans List.pairwise_map

/-- Two messages a millisecond apart, and a third one on another incident at
the same time as the second. -/
theorem interchangeable_apart :
    Interchangeable [⟨1, .MessageAdded "a", 5⟩, ⟨1, .MessageAdded "b", 6⟩, ⟨2, .MessageAdded "c", 6⟩] :=
  (interchangeable_iff [⟨1, .MessageAdded "a", 5⟩, ⟨1, .MessageAdded "b", 6⟩, ⟨2, .MessageAdded "c", 6⟩] (by decide)).2
    (by decide)

/-- An incident created and submitted within one millisecond may load from
`postgres` with the submission first, and is then a draft again. -/
theorem not_interchangeable_same_ms :
    ¬ Interchangeable [⟨1, .IncidentCreated "T" "D" "unit", 5⟩, ⟨1, .IncidentSubmitted, 5⟩] := by
  intro h
  have hl : Loads postgres [⟨1, .IncidentCreated "T" "D" "unit", 5⟩, ⟨1, .IncidentSubmitted, 5⟩] 1
      [.IncidentSubmitted, .IncidentCreated "T" "D" "unit"] :=
    (loads_postgres _ _ _).2 ⟨[⟨1, .IncidentSubmitted, 5⟩, ⟨1, .IncidentCreated "T" "D" "unit", 5⟩], .swap _ _ _,
      by decide, rfl⟩
  have := (h 1 _ _ hl ((loads_inMemory _ _ _).2 rfl)).2.1
  exact absurd this (by decide)

end Tactix.Incident
