import Tactix.Incident.Invariants
/-!
# What a GET returns

Over `InMemoryEventStore`, a GET answers with the incident as created, with
the messages of the appends that have run, and with a status that stays
submitted once it is.
-/
open ServiceLib

namespace Tactix.Incident

variable {Id : Type} [DecidableEq Id]

/-- The message that request `r` adds to incident `id`. -/
def Sys.messageOf (s : MemSys Id) (id : Id) (r : Nat) : Option String :=
  match s.commandOf r with
  | some (id', .addMessage message) => if id' = id then some message else none
  | _ => none

/-- The incident was created once, with this title, description and org, and
has the messages of the calls of `append`, in their order. -/
structure Shows (s : MemSys Id) (id : Id) (incident : IncidentState Id) : Prop where
  id_eq : incident.id = id
  created : ∃ r t, s.threads r = some t ∧ t.id = id ∧
    t.command = .create incident.title incident.description incident.org ∧
    ∀ r' t', s.threads r' = some t' → t'.id = id → t'.command.isCreate = true → r' = r
  messages : incident.messages = s.calls.filterMap (s.messageOf id)

/-- Request `r`, a GET of incident `id`, is answered in this step. -/
def GetAnswered (s s' : MemSys Id) (r : Nat) (id : Id) (reply : Reply Id) : Prop :=
  ∃ t t' now, s.threads r = some t ∧ t.id = id ∧ t.command = .get ∧ Step inMemory s (.resume r now) s' ∧
    s'.threads r = some t' ∧ t'.phase = .done reply

theorem messageOf_eq (s : MemSys Id) (id : Id) (r : Nat) : s.messageOf id r = (s.eventOf id r).bind (·.message?) := by
  simp only [Sys.messageOf, Sys.eventOf]
  cases s.commandOf r with
  | none => rfl
  | some p =>
    obtain ⟨id', c⟩ := p
    by_cases h : id' = id <;> cases c <;> simp [h, Command.event, IncidentEvent.message?]

/-- The replay of a log that is not empty. -/
theorem shows_log {s : MemSys Id} (hi : Inv s) {id : Id} (hne : s.log id ≠ []) :
    Shows s id (fromEvents id (s.log id)) := by
  have hwf := hi.wellFormed id
  cases hlog : s.log id with
  | nil => exact absurd hlog hne
  | cons e es =>
    rw [hlog] at hwf
    obtain ⟨⟨title, description, org, rfl⟩, hes⟩ := hwf
    rw [fromEvents_log id title description org es hes]
    refine ⟨rfl, ?_, ?_⟩
    · have hmem : IncidentEvent.IncidentCreated title description org ∈ s.eventsOf s.calls id := by
        rw [← hi.log_eq, hlog]; exact List.mem_cons_self
      obtain ⟨r, -, hr⟩ := List.mem_filterMap.1 hmem
      obtain ⟨t, ht, hid, hc⟩ := eventOf_some.1 hr
      have hcreate : t.command = .create title description org := by
        cases hcmd : t.command <;> simp_all [Command.event]
      refine ⟨r, t, ht, hid, hcreate, fun r' t' ht' hid' hc' => ?_⟩
      exact hi.creator r' t' r t ht' ht hc' (by rw [hcreate]; rfl) (hid'.trans hid.symm)
    · -- The creation adds no message to those of the calls.
      have hmsg : (s.log id).filterMap (·.message?) = es.filterMap (·.message?) := by
        rw [hlog]; rfl
      show es.filterMap (·.message?) = _
      rw [← hmsg, hi.log_eq, Sys.eventsOf, List.filterMap_filterMap]
      exact List.filterMap_congr fun r _ => (messageOf_eq s id r).symm

/-- A GET answers with the replay of the log, or with 404 when it did not find the incident. -/
theorem get_answered {s s' : MemSys Id} (hi : Inv s) {found : List Nat} (hf : Found (· = none) s found) {r : Nat} {id : Id}
    {reply : Reply Id} (ha : GetAnswered s s' r id reply) :
    (r ∉ found ∧ reply = .notFound) ∨ (r ∈ found ∧ s.log id ≠ [] ∧ reply = .ok (fromEvents id (s.log id))) := by
  obtain ⟨t, t', now, ht, rfl, hc, hs, ht', hd⟩ := ha
  cases hs with
  | @resume _ u h _ hu hp =>
    obtain rfl : t = u := by simpa [ht] using hu
    have hev := events_loaded hi ht hp
    have hfound := hf.loaded r t h ht hp
    rcases resume_cases inMemory s r t (inMemory.events s.store h) now with ⟨hcr, -⟩ | ⟨reply', ha, e⟩ | ⟨next, hdec, -⟩
    · simp [hc, Command.isCreate] at hcr
    · rw [e, put_threads, Function.update_self, Option.some.injEq] at ht'
      obtain rfl : reply' = reply := by rw [← ht'] at hd; simpa using hd
      rw [hc] at ha
      rcases ha.of_get with ⟨h0, rfl⟩ | ⟨h0, rfl⟩
      · rcases hev with ⟨hn, -⟩ | ⟨-, h1, hne⟩
        · exact .inl ⟨fun hr => hfound.1 hr hn, rfl⟩
        · exact absurd (h1 ▸ h0) hne
      · rcases hev with ⟨-, h1⟩ | ⟨hn, h1, hne⟩
        · exact absurd h1 h0
        · exact .inr ⟨hfound.2 (by simp [hn]), hne, by rw [h1]⟩
    · exact absurd hc hdec.event.2.2.2.2

/-- A submitted incident stays submitted as its log grows. -/
theorem status_log {s s' : MemSys Id} (hi : Inv s) (hi' : Inv s') {id : Id} (hpre : s.log id <+: s'.log id)
    (h : (fromEvents id (s.log id)).status = .Submitted) : (fromEvents id (s'.log id)).status = .Submitted := by
  rw [status_wellFormed id (hi.wellFormed id)] at h
  rw [status_wellFormed id (hi'.wellFormed id), if_pos]
  by_cases hm : IncidentEvent.IncidentSubmitted ∈ s.log id
  · exact hpre.subset hm
  · simp [hm] at h

/-- In every reachable state: exactly the known incidents have a log, which is
well formed, and every step only extends it; a GET that found its incident
answers as `Shows` says, and one that did not with 404; and two GETs of one
incident, however far apart, never see it go back to draft. -/
theorem gets_follow_log {s : MemSys Id} {found : List Nat}
    (hr : Reachable (Watching (Sys.found inMemory) (Step inMemory)) (Sys.init inMemory, []) (s, found)) :
    (∀ id, (id ∈ s.issued ↔ s.log id ≠ []) ∧ WellFormed (s.log id)) ∧
    (∀ a s', Step inMemory s a s' → ∀ id, s.log id <+: s'.log id) ∧
    (s.calls.Nodup ∧ ∀ r, r ∈ s.calls ↔ ∃ t, s.threads r = some t ∧ t.appendRan = true) ∧
    (∀ s' r id reply, GetAnswered s s' r id reply →
      (r ∉ found ∧ reply = .notFound) ∨ (r ∈ found ∧ ∃ incident, reply = .ok incident ∧ Shows s id incident)) ∧
    (∀ s₁ s₂ s₃ r r' id incident incident', GetAnswered s s₁ r id (.ok incident) →
      Reachable (Step inMemory) s₁ s₂ → GetAnswered s₂ s₃ r' id (.ok incident') →
      incident.status = .Submitted → incident'.status = .Submitted) := by
  have hi := reachable_inv hr.unwatched
  have hf := reachable_found hr
  refine ⟨fun id => ⟨(hi.known id).symm, hi.wellFormed id⟩, fun _ _ hs => log_step hs, ⟨hi.calls_nodup, hi.called⟩,
    fun s' r id reply ha => ?_, fun s₁ s₂ s₃ r r' id incident incident' ha hrun ha' hsub => ?_⟩
  · rcases get_answered hi hf ha with hn | ⟨hr, hne, rfl⟩
    · exact .inl hn
    · exact .inr ⟨hr, _, rfl, shows_log hi hne⟩
  · have ⟨_, _, _, _, _, _, hs, _⟩ := ha
    have hr₂ := (hr.unwatched.step hs).trans hrun
    have hi₂ := reachable_inv hr₂
    obtain ⟨found₂, hwatched⟩ := hr₂.watched (Sys.found inMemory) []
    obtain ⟨-, -, rfl⟩ : r ∈ found ∧ s.log id ≠ [] ∧ incident = fromEvents id (s.log id) := by
      simpa using get_answered hi hf ha
    obtain ⟨-, -, rfl⟩ : r' ∈ found₂ ∧ s₂.log id ≠ [] ∧ incident' = fromEvents id (s₂.log id) := by
      simpa using get_answered hi₂ (reachable_found hwatched) ha'
    exact status_log hi hi₂ ((log_step hs id).trans (log_run hrun id)) hsub

/-- Incident 7 is created, gets a message and is submitted; the message's
answer is still on its way. Then a GET finds it. -/
theorem gets_follow_log_submitted : ∃ s s' : MemSys Nat,
    GetAnswered s s' 3 7 (.ok ⟨7, "T", "D", .Submitted, "unit", ["hello"]⟩) ∧
      Shows s 7 ⟨7, "T", "D", .Submitted, "unit", ["hello"]⟩ := by
  have answer {s s' : MemSys Nat} {found : List Nat}
      (hr : Reachable (Watching (Sys.found inMemory) (Step inMemory)) (Sys.init inMemory, []) (s, found))
      (hfound : 3 ∈ found) (ha : GetAnswered s s' 3 7 (.ok ⟨7, "T", "D", .Submitted, "unit", ["hello"]⟩)) :
      ∃ s s' : MemSys Nat, GetAnswered s s' 3 7 (.ok ⟨7, "T", "D", .Submitted, "unit", ["hello"]⟩) ∧
        Shows s 7 ⟨7, "T", "D", .Submitted, "unit", ["hello"]⟩ := by
    rcases (gets_follow_log hr).2.2.2.1 _ _ _ _ ha with ⟨hn, -⟩ | ⟨-, incident, he, hs⟩
    · exact absurd hfound hn
    · obtain rfl := Reply.ok.inj he
      exact ⟨_, _, ha, hs⟩
  have h0 : Reachable (Watching (Sys.found inMemory) (Step inMemory)) ((Sys.init inMemory : MemSys Nat), []) _ := .refl
  have h1 := h0.nextWatched
    (.arrive 0 (.create (.obj [("title", .str "T"), ("description", .str "D"), ("org", .str "unit")])) 7 0)
    (.arrive rfl (by decide) rfl)
  have h2 := h1.nextWatched (.arrive 1 (.addMessage 7 (.obj [("message", .str "hello")])) 8 1) (.arrive rfl (by decide) rfl)
  have h3 := h2.nextWatched (.load 1 (some 7)) (.load rfl rfl rfl)
  have h4 := h3.nextWatched (.resume 1 2) (.resume rfl rfl)
  have h5 := h4.nextWatched (.arrive 2 (.submit 7) 8 3) (.arrive rfl (by decide) rfl)
  have h6 := h5.nextWatched (.load 2 (some 7)) (.load rfl rfl rfl)
  have h7 := h6.nextWatched (.resume 2 4) (.resume rfl rfl)
  have h8 := h7.nextWatched (.arrive 3 (.get 7) 8 5) (.arrive rfl (by decide) rfl)
  have h9 := h8.nextWatched (.load 3 (some 7)) (.load rfl rfl rfl)
  exact answer h9 (by decide) ⟨_, _, 6, rfl, rfl, rfl, .resume rfl rfl, rfl, rfl⟩

end Tactix.Incident
