import Tactix.Incident.Handlers
/-!
# Invariants of the in-memory service

The logs hold the events of the requests whose `append` was called, in the
order of the calls, and are well formed (`Inv`, `reachable_inv`). They only
grow (`log_run`).
-/
open ServiceLib

namespace Tactix.Incident

variable {Id Handle Pending : Type}

/-! ## The in-memory service -/

/-- The service over `InMemoryEventStore`. -/
abbrev MemSys (Id : Type) := Sys Id (Id → Option (List IncidentEvent)) (Option Id) Unit

/-- Whether `append` has been called, or a handler that did not read answered well. -/
def Phase.called : Phase Id Handle Pending → Bool
  | .appending .. | .appended _ | .done (.created _) | .done (.ok _) => true
  | _ => false

/-- Whether the handler's `append` has run. In memory it runs when called. -/
def Thread.appendRan (t : Thread Id Handle Pending) : Bool := t.command ≠ .get && t.phase.called

theorem Answers.appendRan {id : Id} {c : Command} {events : List IncidentEvent} {reply : Reply Id}
    (h : Answers id c events reply) (es : List IncidentEvent) :
    (⟨id, c, es, .done reply⟩ : Thread Id Handle Pending).appendRan = false := by
  cases h <;> simp [Thread.appendRan, Phase.called]

variable [DecidableEq Id]

/-- The in-memory log of an incident. -/
def Sys.log (s : MemSys Id) (id : Id) : List IncidentEvent := inMemory.log s.store id

@[simp] theorem log_put (s : MemSys Id) (r : Nat) (t : Thread Id (Option Id) Unit) (id : Id) :
    (s.put r t).log id = s.log id := rfl

@[simp] theorem log_settle (s : MemSys Id) (r : Nat) (p : Unit) (id : Id) : (s.settle inMemory r p).log id = s.log id :=
  rfl

theorem log_append (s : MemSys Id) (r : Nat) (t : Thread Id (Option Id) Unit) (next : IncidentState Id × IncidentEvent)
    (now : Nat) (id : Id) :
    (s.append inMemory r t next now).log id = s.log id ++ if t.id = id then [next.2] else [] := by
  by_cases h : t.id = id
  · subst h; simp [Sys.log, inMemory]
  · simp [Sys.log, inMemory, h, Function.update_of_ne (Ne.symm h)]

structure Inv (s : MemSys Id) : Prop where
  log_eq : ∀ id, s.log id = s.eventsOf s.calls id
  calls_nodup : s.calls.Nodup
  called : ∀ r, r ∈ s.calls ↔ ∃ t, s.threads r = some t ∧ t.appendRan = true
  wellFormed : ∀ id, WellFormed (s.log id)
  once : ∀ id, (s.log id).count .IncidentSubmitted ≤ 1
  known : ∀ id, s.log id ≠ [] ↔ id ∈ s.issued
  stored : ∀ id, s.store id ≠ some []
  handle : ∀ r t id, s.threads r = some t → t.phase = .loaded (some id) → id = t.id ∧ s.log id ≠ []
  issued : ∀ r t, s.threads r = some t → t.command.isCreate = true → t.id ∈ s.issued
  creator : ∀ r t r' t', s.threads r = some t → s.threads r' = some t' → t.command.isCreate = true →
    t'.command.isCreate = true → t.id = t'.id → r = r'

theorem inv_init : Inv (Sys.init inMemory : MemSys Id) where
  log_eq _ := rfl
  calls_nodup := .nil
  called r := by simp [Sys.init]
  wellFormed _ := trivial
  once _ := Nat.zero_le 1
  known id := by simp [Sys.init, Sys.log, inMemory]
  stored id := by simp [Sys.init, inMemory]
  handle r t id h := by simp [Sys.init] at h
  issued r t h := by simp [Sys.init] at h
  creator r t r' t' h := by simp [Sys.init] at h

/-- A thread moves on, and its `append` has run now if it had before. -/
theorem inv_put {s : MemSys Id} (hi : Inv s) {r : Nat} {t t' : Thread Id (Option Id) Unit} (ht : s.threads r = some t)
    (hid : t'.id = t.id) (hc : t'.command = t.command) (hran : t'.appendRan = t.appendRan)
    (hh : ∀ id, t'.phase = .loaded (some id) → id = t.id ∧ s.log id ≠ []) : Inv (s.put r t') := by
  refine { hi with log_eq := ?_, called := ?_, handle := ?_, issued := ?_, creator := ?_ }
  · intro id
    rw [log_put, hi.log_eq, put_calls]
    exact (eventsOf_congr fun r' _ => by rw [commandOf_kept ht hid hc (put_threads ..)]).symm
  · intro r'
    rw [put_calls, hi.called r', put_threads]
    by_cases hr : r' = r
    · subst hr; simp [ht, hran]
    · simp [Function.update_of_ne hr]
  · intro r' u id hu hp
    rcases update_some hu with ⟨rfl, rfl⟩ | ⟨-, hu⟩
    · rw [hid]; exact hh id hp
    · exact hi.handle r' u id hu hp
  · intro r' u hu hcr
    rcases update_some hu with ⟨rfl, rfl⟩ | ⟨-, hu⟩
    · rw [hid]; exact hi.issued r' t ht (hc ▸ hcr)
    · exact hi.issued r' u hu hcr
  · intro r1 t1 r2 t2 h1 h2 c1 c2 e
    rcases update_some h1 with ⟨rfl, rfl⟩ | ⟨-, g1⟩ <;> rcases update_some h2 with ⟨rfl, rfl⟩ | ⟨-, g2⟩
    · rfl
    · exact hi.creator _ _ _ _ ht g2 (hc ▸ c1) c2 (hid ▸ e)
    · exact hi.creator _ _ _ _ g1 ht c1 (hc ▸ c2) (e.trans hid)
    · exact hi.creator _ _ _ _ g1 g2 c1 c2 e

/-- A request that is not a creation arrives. -/
theorem inv_arrive {s : MemSys Id} (hi : Inv s) {r : Nat} (hr : s.threads r = none) (id : Id) {c : Command}
    (hc : c.isCreate = false) : Inv (s.put r ⟨id, c, [], .loading⟩) := by
  have hnew : r ∉ s.calls := by
    intro hm; obtain ⟨t, ht, -⟩ := (hi.called r).1 hm; simp [hr] at ht
  refine { hi with log_eq := ?_, called := ?_, handle := ?_, issued := ?_, creator := ?_ }
  · intro id'
    rw [log_put, hi.log_eq, put_calls]
    refine (eventsOf_congr fun r' hr' => ?_).symm
    rw [commandOf_eq (put_threads ..), if_neg (by rintro rfl; exact hnew hr')]
  · intro r'
    rw [put_calls, hi.called r', put_threads]
    by_cases h : r' = r
    · subst h; simp [hr, Thread.appendRan, Phase.called]
    · simp [Function.update_of_ne h]
  · intro r' u id' hu hp
    rcases update_some hu with ⟨rfl, rfl⟩ | ⟨-, hu⟩
    · simp at hp
    · exact hi.handle r' u id' hu hp
  · intro r' u hu hcr
    rcases update_some hu with ⟨rfl, rfl⟩ | ⟨-, hu⟩
    · simp [hc] at hcr
    · exact hi.issued r' u hu hcr
  · intro r1 t1 r2 t2 h1 h2 c1 c2 e
    rcases update_some h1 with ⟨rfl, rfl⟩ | ⟨-, g1⟩ <;> rcases update_some h2 with ⟨rfl, rfl⟩ | ⟨-, g2⟩
    · rfl
    · simp [hc] at c1
    · simp [hc] at c2
    · exact hi.creator _ _ _ _ g1 g2 c1 c2 e

/-- An `append` whose event fits the log. A creation has drawn its id just now. -/
theorem inv_append {s : MemSys Id} (hi : Inv s) {issued : List Id} {r : Nat} {t : Thread Id (Option Id) Unit}
    {next : IncidentState Id × IncidentEvent} {now : Nat} (hissued : ∀ id, id ∈ issued ↔ t.id = id ∨ id ∈ s.issued)
    (hr : r ∉ s.calls) (he : t.command.event = some next.2) (hwf : WellFormed (s.log t.id ++ [next.2]))
    (hsub : next.2 = .IncidentSubmitted → .IncidentSubmitted ∉ s.log t.id)
    (hfresh : t.command.isCreate = true → t.id ∉ s.issued) :
    Inv ({ s with issued }.append inMemory r t next now) := by
  have hlog : ∀ id, ({ s with issued }.append inMemory r t next now).log id =
      s.log id ++ if t.id = id then [next.2] else [] := log_append _ r t next now
  have hget : t.command ≠ .get := by rintro h; simp [h, Command.event] at he
  constructor
  · intro id
    -- `r` is last in `calls`, and no earlier call was its own.
    have hself : ({ s with issued }.append inMemory r t next now).commandOf r = some (t.id, t.command) := by
      rw [commandOf_eq (append_threads ..)]; simp
    rw [hlog, hi.log_eq, append_calls, eventsOf_snoc hself he]
    congr 1
    refine (eventsOf_congr fun r' hr' => ?_).symm
    rw [commandOf_eq (append_threads ..), if_neg (by rintro rfl; exact hr hr')]
    rfl
  · rw [append_calls]
    exact hi.calls_nodup.append (List.nodup_singleton r) (by simpa using hr)
  · intro r'
    rw [append_calls, List.mem_append, List.mem_singleton, hi.called r', append_threads]
    by_cases h : r' = r
    · subst h; simp [Thread.appendRan, Phase.called, hget]
    · simp [h]
  · intro id
    rw [hlog]
    split
    · rename_i h; rw [← h]; exact hwf
    · rw [List.append_nil]; exact hi.wellFormed id
  · intro id
    rw [hlog]
    split
    · rename_i h; rw [← h]; exact count_snoc (hi.once _) hsub
    · rw [List.append_nil]; exact hi.once id
  · intro id
    rw [append_issued, hissued, ← hi.known, hlog]
    by_cases h : t.id = id <;> simp [h]
  · intro id
    rw [append_store]
    by_cases h : id = t.id
    · subst h; simp [inMemory]
    · simpa [inMemory, Function.update_of_ne h] using hi.stored id
  · intro r' u id hu hp
    rcases update_some hu with ⟨rfl, rfl⟩ | ⟨-, hu⟩
    · simp at hp
    · obtain ⟨h1, h2⟩ := hi.handle r' u id hu hp
      exact ⟨h1, by rw [hlog]; exact List.append_ne_nil_of_left_ne_nil h2 _⟩
  · intro r' u hu hcr
    rcases update_some hu with ⟨rfl, rfl⟩ | ⟨-, hu⟩
    · exact (hissued _).2 (.inl rfl)
    · exact (hissued _).2 (.inr (hi.issued r' u hu hcr))
  · intro r1 t1 r2 t2 h1 h2 c1 c2 e
    rcases update_some h1 with ⟨rfl, rfl⟩ | ⟨-, g1⟩ <;> rcases update_some h2 with ⟨rfl, rfl⟩ | ⟨-, g2⟩
    · rfl
    · exact absurd (e ▸ hi.issued _ _ g2 c2) (hfresh c1)
    · exact absurd (e ▸ hi.issued _ _ g1 c1) (hfresh c2)
    · exact hi.creator _ _ _ _ g1 g2 c1 c2 e

theorem inv_settle {s : MemSys Id} (hi : Inv s) (r : Nat) (p : Unit) : Inv (s.settle inMemory r p) :=
  { hi with }

/-- What a loaded handler reads: nothing, or its incident's whole log. -/
theorem events_loaded {s : MemSys Id} (hi : Inv s) {r : Nat} {t : Thread Id (Option Id) Unit} {h : Option Id}
    (ht : s.threads r = some t) (hp : t.phase = .loaded h) :
    (h = none ∧ inMemory.events s.store h = []) ∨
      (h = some t.id ∧ inMemory.events s.store h = s.log t.id ∧ s.log t.id ≠ []) := by
  cases h with
  | none => exact .inl ⟨rfl, rfl⟩
  | some id =>
    obtain ⟨rfl, hne⟩ := hi.handle r t id ht hp
    exact .inr ⟨rfl, rfl, hne⟩

theorem not_called {s : MemSys Id} (hi : Inv s) {r : Nat} {t : Thread Id (Option Id) Unit} (ht : s.threads r = some t)
    (h : t.appendRan = false) : r ∉ s.calls := by
  intro hm
  obtain ⟨u, hu, hran⟩ := (hi.called r).1 hm
  obtain rfl : t = u := by simpa [ht] using hu
  simp [h] at hran

theorem inv_step {s s' : MemSys Id} {a : Action Id (Option Id)} (hi : Inv s) (hs : Step inMemory s a s') : Inv s' := by
  cases hs with
  | refuse => exact hi
  | @arrive r req uuid id now c hr hu hq =>
    rcases arrive_cases inMemory s r id c now with ⟨hc, e⟩ | ⟨title, description, org, rfl, e⟩
    · rw [e]; exact inv_arrive hi hr id hc
    · obtain rfl := parse_create hq
      have hempty : s.log id = [] := by
        by_contra h; exact hu ((hi.known id).1 h)
      have hnew : r ∉ s.calls := by
        intro hm; obtain ⟨t, ht, -⟩ := (hi.called r).1 hm; simp [hr] at ht
      rw [e]
      refine inv_append hi (fun id' => by simp [eq_comm]) hnew rfl ?_ (by simp [create]) fun _ => hu
      rw [hempty]
      exact ⟨⟨title, description, org, rfl⟩, by simp⟩
  | @load r t h ht hp hl =>
    refine inv_put hi ht rfl rfl (by simp [Thread.appendRan, Phase.called, hp]) fun id hid => ?_
    simp only [inMemory, Phase.loaded.injEq] at hl hid
    rw [hid] at hl
    split at hl
    · rename_i hsome
      obtain ⟨es, hes⟩ := Option.isSome_iff_exists.1 hsome
      obtain rfl := Option.some.inj hl
      refine ⟨rfl, fun h0 => hi.stored t.id ?_⟩
      simpa [Sys.log, inMemory, hes] using h0
    · simp at hl
  | @resume r t h now ht hp =>
    have hran : t.appendRan = false := by simp [Thread.appendRan, Phase.called, hp]
    rcases resume_cases inMemory s r t (inMemory.events s.store h) now with ⟨-, -, e⟩ | ⟨reply, ha, e⟩ | ⟨next, hd, e⟩
    · rw [e]; exact hi
    · rw [e]
      exact inv_put hi ht rfl rfl ((ha.appendRan _).trans hran.symm) (by simp)
    · obtain ⟨hne, he, hcmd, hcr, -⟩ := hd.event
      rcases events_loaded hi ht hp with ⟨-, h0⟩ | ⟨-, h1, hlog⟩
      · exact absurd h0 hne
      · -- The handler decided on the whole log, so a submission is the first.
        have hsub := hd.draft
        rw [h1, status_wellFormed _ (hi.wellFormed _)] at hsub
        rw [e]
        refine inv_append hi (t := { t with events := inMemory.events s.store h }) (fun id => ?_)
          (not_called hi ht hran) he (wellFormed_append (hi.wellFormed _) hlog hcmd) (fun h => by simpa using hsub h)
          (by simp [hcr])
        exact ⟨.inr, fun h => h.elim (fun h => h ▸ (hi.known _).1 hlog) fun h => h⟩
  | @settle r t p incident ht hp =>
    exact inv_put (inv_settle hi r p) ht rfl rfl (by simp [Thread.appendRan, Phase.called, hp]) (by simp)
  | @respond r t incident ht hp =>
    refine inv_put hi ht rfl rfl ?_ (by simp)
    cases hc : t.command <;> simp [Thread.appendRan, Phase.called, hp, hc, Command.reply]
  | loadFails hf => exact absurd hf (by simp [inMemory])
  | appendFails hf => exact absurd hf (by simp [inMemory])

theorem reachable_inv {s : MemSys Id} (h : Reachable (Step inMemory) (Sys.init inMemory) s) : Inv s :=
  h.inv inv_init fun _ _ _ => inv_step

/-- The requests that found their incident hold its array. -/
theorem reachable_found {s : MemSys Id} {found : List Nat}
    (h : Reachable (Watching (Sys.found inMemory) (Step inMemory)) (Sys.init inMemory, []) (s, found)) :
    Found (· = none) s found := by
  suffices hs : Inv s ∧ Found (· = none) s found from hs.2
  refine h.inv (I := fun p => Inv p.1 ∧ Found (· = none) p.1 p.2) ⟨inv_init, found_init⟩ fun p a p' hi hs => ?_
  rw [hs.2]
  refine ⟨inv_step hi.1 hs.1, found_step hi.2 hs.1 fun id h hl => ?_⟩
  have hstored := hi.1.stored id
  simp only [inMemory] at hl ⊢
  subst hl
  cases hid : p.1.store id with
  | none => simp
  | some events =>
    have hne : events ≠ [] := fun h => hstored (h ▸ hid)
    simp [hne]

/-! ## Logs only grow -/

theorem log_step {s s' : MemSys Id} {a : Action Id (Option Id)} (hs : Step inMemory s a s') (id : Id) :
    s.log id <+: s'.log id := by
  have happ : ∀ (s : MemSys Id) r t next now, s.log id <+: (s.append inMemory r t next now).log id :=
    fun s r t next now => by rw [log_append]; exact List.prefix_append _ _
  cases hs with
  | refuse => exact List.prefix_rfl
  | @arrive r req uuid id' now c =>
    rcases arrive_cases inMemory s r id' c now with ⟨-, e⟩ | ⟨title, description, org, rfl, e⟩
    · rw [e]; exact List.prefix_rfl
    · rw [e]; exact happ { s with issued := id' :: s.issued } _ _ _ _
  | load => exact List.prefix_rfl
  | @resume r t h now =>
    rcases resume_cases inMemory s r t (inMemory.events s.store h) now with ⟨-, -, e⟩ | ⟨reply, -, e⟩ | ⟨next, -, e⟩
    · exact e.symm ▸ List.prefix_rfl
    · rw [e]; exact List.prefix_rfl
    · rw [e]; exact happ _ _ _ _ _
  | settle => exact List.prefix_rfl
  | respond => exact List.prefix_rfl
  | loadFails hf => exact absurd hf (by simp [inMemory])
  | appendFails hf => exact absurd hf (by simp [inMemory])

theorem log_run {s s' : MemSys Id} (h : Reachable (Step inMemory) s s') (id : Id) : s.log id <+: s'.log id := by
  induction h with
  | refl => exact List.prefix_rfl
  | step _ hs ih => exact ih.trans (log_step hs id)

end Tactix.Incident
