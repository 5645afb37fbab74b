import Tactix.Incident.Api
/-!
# What the handlers do

Over any event store: the fields each write touches, the event a request
appends, what a handler does with the events it read (`resume_cases`), and
which requests asked for an incident that was there (`Found`).
-/
open Tactix.Js ServiceLib

namespace Tactix.Incident

variable {Id State Handle Pending : Type}

/-! ## Fields after a write -/

section Fields
variable (S : EventStore Id State Handle Pending) (s : Sys Id State Handle Pending) (r : Nat)
  (t : Thread Id Handle Pending) (next : IncidentState Id × IncidentEvent) (now : Nat) (p : Pending)

@[simp] theorem put_store : (s.put r t).store = s.store := rfl
@[simp] theorem put_issued : (s.put r t).issued = s.issued := rfl
@[simp] theorem put_calls : (s.put r t).calls = s.calls := rfl
@[simp] theorem put_settled : (s.put r t).settled = s.settled := rfl
@[simp] theorem put_threads : (s.put r t).threads = Function.update s.threads r (some t) := rfl

@[simp] theorem append_store : (s.append S r t next now).store = (S.append s.store t.id next.2 now).1 := rfl
@[simp] theorem append_issued : (s.append S r t next now).issued = s.issued := rfl
@[simp] theorem append_calls : (s.append S r t next now).calls = s.calls ++ [r] := rfl
@[simp] theorem append_settled : (s.append S r t next now).settled = s.settled := rfl
@[simp] theorem append_threads : (s.append S r t next now).threads = Function.update s.threads r
    (some { t with phase := .appending (S.append s.store t.id next.2 now).2 next.1 }) := rfl

@[simp] theorem settle_store : (s.settle S r p).store = S.settle s.store p := rfl
@[simp] theorem settle_issued : (s.settle S r p).issued = s.issued := rfl
@[simp] theorem settle_calls : (s.settle S r p).calls = s.calls := rfl
@[simp] theorem settle_settled : (s.settle S r p).settled = s.settled ++ [r] := rfl
@[simp] theorem settle_threads : (s.settle S r p).threads = s.threads := rfl

end Fields

/-- A thread after a write to thread `r`. -/
theorem update_some {f : Nat → Option (Thread Id Handle Pending)} {r r' : Nat} {t t' : Thread Id Handle Pending}
    (h : Function.update f r (some t) r' = some t') : (r' = r ∧ t' = t) ∨ (r' ≠ r ∧ f r' = some t') := by
  by_cases hr : r' = r
  · subst hr
    rw [Function.update_self, Option.some.injEq] at h
    exact .inl ⟨rfl, h.symm⟩
  · rw [Function.update_of_ne hr] at h
    exact .inr ⟨hr, h⟩

/-! ## The event of a request -/

/-- The event a command appends. -/
def Command.event : Command → Option IncidentEvent
  | .create title description org => some (.IncidentCreated title description org)
  | .get => none
  | .addMessage message => some (.MessageAdded message)
  | .submit => some .IncidentSubmitted

def Command.isCreate : Command → Bool
  | .create .. => true
  | _ => false

def Sys.commandOf (s : Sys Id State Handle Pending) (r : Nat) : Option (Id × Command) :=
  (s.threads r).map fun t => (t.id, t.command)

/-- What request `r` appends to incident `id`. -/
def Sys.eventOf [DecidableEq Id] (s : Sys Id State Handle Pending) (id : Id) (r : Nat) : Option IncidentEvent :=
  (s.commandOf r).bind fun (id', c) => if id' = id then c.event else none

/-- What the requests `rs` append to incident `id`, in their order. -/
def Sys.eventsOf [DecidableEq Id] (s : Sys Id State Handle Pending) (rs : List Nat) (id : Id) : List IncidentEvent :=
  rs.filterMap (s.eventOf id)

theorem commandOf_some {s : Sys Id State Handle Pending} {r : Nat} {t : Thread Id Handle Pending}
    (h : s.threads r = some t) : s.commandOf r = some (t.id, t.command) := by
  rw [Sys.commandOf, h]; rfl

theorem commandOf_eq {s s' : Sys Id State Handle Pending} {r r' : Nat} {t : Thread Id Handle Pending}
    (h : s'.threads = Function.update s.threads r (some t)) :
    s'.commandOf r' = if r' = r then some (t.id, t.command) else s.commandOf r' := by
  by_cases hr : r' = r
  · simp [Sys.commandOf, h, hr]
  · simp [Sys.commandOf, h, hr]

/-- A handler that goes on keeps its incident and its command. -/
theorem commandOf_kept {s s' : Sys Id State Handle Pending} {r : Nat} {t t' : Thread Id Handle Pending}
    (ht : s.threads r = some t) (hid : t'.id = t.id) (hc : t'.command = t.command)
    (h : s'.threads = Function.update s.threads r (some t')) : s'.commandOf = s.commandOf := by
  funext r'
  rw [commandOf_eq h, hid, hc]
  split
  · rename_i hr; rw [hr, commandOf_some ht]
  · rfl

section Events
variable [DecidableEq Id]

theorem eventOf_some {s : Sys Id State Handle Pending} {id : Id} {r : Nat} {e : IncidentEvent} :
    s.eventOf id r = some e ↔ ∃ t, s.threads r = some t ∧ t.id = id ∧ t.command.event = some e := by
  simp only [Sys.eventOf, Sys.commandOf]
  cases s.threads r with
  | none => simp
  | some t => by_cases hid : t.id = id <;> simp [hid]

theorem eventsOf_congr {s s' : Sys Id State Handle Pending} {rs : List Nat} {id : Id}
    (h : ∀ r ∈ rs, s'.commandOf r = s.commandOf r) : s'.eventsOf rs id = s.eventsOf rs id :=
  List.filterMap_congr fun r hr => by rw [Sys.eventOf, Sys.eventOf, h r hr]

/-- One more request extends the log of its own incident. -/
theorem eventsOf_snoc {s : Sys Id State Handle Pending} {rs : List Nat} {r : Nat} {id id' : Id} {c : Command}
    {e : IncidentEvent} (hr : s.commandOf r = some (id', c)) (he : c.event = some e) :
    s.eventsOf (rs ++ [r]) id = s.eventsOf rs id ++ if id' = id then [e] else [] := by
  have hone : s.eventOf id r = if id' = id then some e else none := by simp [Sys.eventOf, hr, he]
  rw [Sys.eventsOf, List.filterMap_append, List.filterMap_cons, hone]
  split <;> simp_all [Sys.eventsOf]

end Events

/-! ## What a handler does with the events it read -/

/-- The answers given without an `append`. -/
inductive Answers (id : Id) : Command → List IncidentEvent → Reply Id → Prop
  | notFound {c : Command} : Answers id c [] .notFound
  | get {events : List IncidentEvent} : events ≠ [] → Answers id .get events (.ok (fromEvents id events))
  | refused {events : List IncidentEvent} : events ≠ [] → (fromEvents id events).status ≠ .Draft →
    Answers id .submit events (.error "Only draft incidents can be submitted")

theorem Answers.of_get {id : Id} {events : List IncidentEvent} {reply : Reply Id} (h : Answers id .get events reply) :
    (events = [] ∧ reply = .notFound) ∨ (events ≠ [] ∧ reply = .ok (fromEvents id events)) := by
  cases h with
  | notFound => exact .inl ⟨rfl, rfl⟩
  | get hne => exact .inr ⟨hne, rfl⟩

/-- The appends a command decides on. -/
inductive Decides (id : Id) : Command → List IncidentEvent → IncidentState Id × IncidentEvent → Prop
  | addMessage {events : List IncidentEvent} {message : String} : events ≠ [] →
    Decides id (.addMessage message) events (addMessage (fromEvents id events) message)
  | submit {events : List IncidentEvent} : events ≠ [] → (fromEvents id events).status = .Draft →
    Decides id .submit events (apply (fromEvents id events) .IncidentSubmitted, .IncidentSubmitted)

theorem Decides.event {id : Id} {c : Command} {events : List IncidentEvent} {next : IncidentState Id × IncidentEvent}
    (h : Decides id c events next) :
    events ≠ [] ∧ c.event = some next.2 ∧ next.2.isCommand = true ∧ c.isCreate = false ∧ c ≠ .get := by
  cases h with
  | addMessage h => exact ⟨h, rfl, rfl, rfl, by simp⟩
  | submit h => exact ⟨h, rfl, rfl, rfl, by simp⟩

/-- A submission is decided on a draft. -/
theorem Decides.draft {id : Id} {c : Command} {events : List IncidentEvent} {next : IncidentState Id × IncidentEvent}
    (h : Decides id c events next) : next.2 = .IncidentSubmitted → (fromEvents id events).status = .Draft := by
  cases h with
  | addMessage => exact fun h => nomatch h
  | submit _ hs => exact fun _ => hs

/-- A resumed handler answers, or calls `append`. Creation never loads. -/
theorem resume_cases (S : EventStore Id State Handle Pending) (s : Sys Id State Handle Pending) (r : Nat)
    (t : Thread Id Handle Pending) (events : List IncidentEvent) (now : Nat) :
    (t.command.isCreate = true ∧ events ≠ [] ∧ s.resume S r t events now = s) ∨
    (∃ reply, Answers t.id t.command events reply ∧
      s.resume S r t events now = s.put r { t with events, phase := .done reply }) ∨
    ∃ next, Decides t.id t.command events next ∧
      s.resume S r t events now = s.append S r { t with events } next now := by
  by_cases he : events = []
  · subst he
    exact .inr (.inl ⟨_, .notFound, by simp [Sys.resume]⟩)
  obtain ⟨id, command, _, phase⟩ := t
  cases command with
  | create => exact .inl ⟨rfl, he, by simp [Sys.resume, he]⟩
  | get => exact .inr (.inl ⟨_, .get he, by simp [Sys.resume, he]⟩)
  | addMessage message => exact .inr (.inr ⟨_, .addMessage he, by simp [Sys.resume, he]⟩)
  | submit =>
    by_cases hs : (fromEvents id events).status = .Draft
    · exact .inr (.inr ⟨_, .submit he hs, by simp [Sys.resume, he, submit, hs]⟩)
    · exact .inr (.inl ⟨_, .refused he hs, by simp [Sys.resume, he, submit, hs]⟩)

/-- A handler runs up to `load`, or, for a new incident, up to `append`. -/
theorem arrive_cases (S : EventStore Id State Handle Pending) (s : Sys Id State Handle Pending) (r : Nat) (id : Id)
    (c : Command) (now : Nat) :
    (c.isCreate = false ∧ s.arrive S r id c now = s.put r ⟨id, c, [], .loading⟩) ∨
    ∃ title description org, c = .create title description org ∧
      s.arrive S r id c now = { s with issued := id :: s.issued }.append S r ⟨id, c, [], .loading⟩
        (create id title description org) now := by
  cases c with
  | create title description org => exact .inr ⟨title, description, org, rfl, rfl⟩
  | get => exact .inl ⟨rfl, rfl⟩
  | addMessage message => exact .inl ⟨rfl, rfl⟩
  | submit => exact .inl ⟨rfl, rfl⟩

/-- Only creation gets its id from `randomUUID`. -/
theorem parse_create {uuid id : Id} {req : Request Id} {title description org : String}
    (h : req.parse uuid = some (id, .create title description org)) : id = uuid := by
  cases req with
  | create body =>
    simp only [Request.parse, Option.bind_eq_bind, Option.bind_eq_some_iff, Option.pure_def, Option.some.injEq,
      Prod.mk.injEq] at h
    obtain ⟨_, -, _, -, _, -, rfl, -⟩ := h
    rfl
  | get => simp [Request.parse] at h
  | addMessage id body => cases hm : str? (body.get? "message") <;> simp [Request.parse, hm] at h
  | submit => simp [Request.parse] at h

/-! ## What a request found -/

/-- An observer notes the requests whose `load` ran when the store had events of the incident. -/
def Sys.found (S : EventStore Id State Handle Pending) (s : Sys Id State Handle Pending) (a : Action Id Handle)
    (found : List Nat) : List Nat :=
  match a with
  | .load r _ => if (s.threads r).any fun t => !(S.log s.store t.id).isEmpty then r :: found else found
  | _ => found

/-- A request that has loaded holds an empty handle unless its incident was found. -/
structure Found (E : Handle → Prop) (s : Sys Id State Handle Pending) (found : List Nat) : Prop where
  gone : ∀ r ∈ found, ∃ t, s.threads r = some t ∧ t.phase ≠ .loading
  loaded : ∀ r t h, s.threads r = some t → t.phase = .loaded h → (r ∈ found ↔ ¬ E h)

section Found
variable {S : EventStore Id State Handle Pending} {E : Handle → Prop} {s s' : Sys Id State Handle Pending} {found : List Nat}

theorem found_init : Found E (Sys.init S) [] := ⟨by simp, fun r t h ht => by simp [Sys.init] at ht⟩

theorem found_put (hi : Found E s found) {r : Nat} {t : Thread Id Handle Pending}
    (hthreads : s'.threads = Function.update s.threads r (some t)) (hnew : t.phase ≠ .loading ∨ s.threads r = none)
    (hl : ∀ h, t.phase ≠ .loaded h) : Found E s' found := by
  refine ⟨fun r' hr' => ?_, fun r' t' h ht' hp => ?_⟩
  · obtain ⟨t', ht', hp⟩ := hi.gone r' hr'
    rw [hthreads]
    by_cases hr : r' = r
    · subst hr
      rw [Function.update_self]
      exact ⟨t, rfl, hnew.resolve_right (by simp [ht'])⟩
    · rw [Function.update_of_ne hr]
      exact ⟨t', ht', hp⟩
  · rw [hthreads] at ht'
    rcases update_some ht' with ⟨rfl, rfl⟩ | ⟨-, ht'⟩
    · exact absurd hp (hl h)
    · exact hi.loaded r' t' h ht' hp

/-- Only its own `load` changes what is noted of a request. -/
theorem mem_found_of_ne {a : Action Id Handle} {r : Nat} (ha : ∀ h, a ≠ .load r h) : r ∈ s.found S a found ↔ r ∈ found := by
  cases a with
  | load r' h' =>
    have hne : r ≠ r' := fun he => ha h' (he ▸ rfl)
    unfold Sys.found
    simp only
    split <;> simp [hne]
  | _ => exact Iff.rfl

/-- When what `load` resolves to is empty just when the incident has no events, the observer is right. -/
theorem found_step (hi : Found E s found) {a : Action Id Handle} (hs : Step S s a s')
    (hload : ∀ id h, S.load s.store id h → (S.log s.store id = [] ↔ E h)) : Found E s' (s.found S a found) := by
  cases hs with
  | refuse => exact hi
  | @arrive r req uuid id now c hr =>
    rcases arrive_cases S s r id c now with ⟨-, e⟩ | ⟨title, description, org, rfl, e⟩ <;> rw [e]
    · exact found_put hi (put_threads ..) (.inr hr) (by simp)
    · exact found_put hi (append_threads ..) (.inr hr) (by simp)
  | @load r t h ht hp hl =>
    have hnew : r ∉ found := by
      intro hr
      obtain ⟨t', ht', hp'⟩ := hi.gone r hr
      rw [ht] at ht'
      cases ht'
      exact hp' hp
    have hlaw := hload _ _ hl
    have hsee : r ∈ s.found S (.load r h) found ↔ ¬ E h := by
      rw [← hlaw]
      by_cases hlog : S.log s.store t.id = [] <;> simp [Sys.found, ht, hlog, hnew]
    have hother : ∀ r', r' ≠ r → (r' ∈ s.found S (.load r h) found ↔ r' ∈ found) := by
      intro r' hr'
      refine mem_found_of_ne fun h' he => hr' ?_
      exact (Action.load.inj he).1.symm
    refine ⟨fun r' hr' => ?_, fun r' t' h' ht' hp' => ?_⟩
    · by_cases hr : r' = r
      · subst hr
        exact ⟨_, Function.update_self .., by simp⟩
      · rw [put_threads, Function.update_of_ne hr]
        exact hi.gone r' ((hother r' hr).1 hr')
    · rcases update_some ht' with ⟨rfl, rfl⟩ | ⟨hr, ht'⟩
      · simp only [Phase.loaded.injEq] at hp'
        subst hp'
        exact hsee
      · rw [hother r' hr]
        exact hi.loaded r' t' h' ht' hp'
  | @resume r t h now =>
    rcases resume_cases S s r t (S.events s.store h) now with ⟨-, -, e⟩ | ⟨reply, -, e⟩ | ⟨next, -, e⟩ <;> rw [e]
    · exact hi
    · exact found_put hi (put_threads ..) (.inl (by simp)) (by simp)
    · exact found_put hi (append_threads ..) (.inl (by simp)) (by simp)
  | settle => exact found_put hi (put_threads ..) (.inl (by simp)) (by simp)
  | respond => exact found_put hi (put_threads ..) (.inl (by simp)) (by simp)
  | loadFails => exact found_put hi (put_threads ..) (.inl (by simp)) (by simp)
  | @appendFails r t p incident stored =>
    refine found_put hi (r := r) (t := { t with phase := .done (.error "store") }) ?_ (.inl (by simp)) (by simp)
    cases stored <;> rfl

end Found

end Tactix.Incident
