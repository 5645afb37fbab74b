import Tactix.ZeroTrust.Flag
/-!
# A flag that was set is seen

A lookup reads the settings, waits, and only then fills the cache. `put_seen`
says when the lookups after a `PUT` return what it wrote: when none that read
before fills the cache after the bust. `stale_fill` is the other case.
-/
open Tactix.Js ServiceLib

namespace Tactix.ZeroTrust

abbrev Entries := Asked Query Query.Reply

/-! ## What a turn does to the cache -/

/-- The cache before and after a turn of a call, by the last two replies it had. -/
inductive Turned (env : Env) : Entries → Option Cache → Option Cache → Prop
  | fills {row : Settings} {now : Int} {u : Option Unit} {h : Entries} {c : Option Cache} :
      Turned env (⟨.close, u⟩ :: ⟨.getSecuritySettings, some row⟩ :: h) c (some (entry env row now))
  | busts {enabled : Bool} {actor : String} {u u' : Option Unit} {h : Entries} {c : Option Cache} :
      Turned env (⟨.close, u⟩ :: ⟨.updateZeroTrustEnabled enabled actor, u'⟩ :: h) c none
  | keeps {h : Entries} {c : Option Cache} : (∀ u h', h ≠ ⟨.close, u⟩ :: h') → Turned env h c c

/-- A call has not read the settings. -/
def Unread (h : Entries) : Prop := ∀ row, ⟨.getSecuritySettings, row⟩ ∉ h

def flagSpec (env : Env) : Spec Call Memory Query Query.Reply where
  reply _ a := a ≠ none
  inv _ := True
  rely _ _ := True
  issue _ h m₀ m q := Turned env h m₀.cache m.cache ∧ (q = .getSecuritySettings → Unread h)
  rely_refl _ := trivial
  rely_trans _ _ := trivial

/-- A lookup ends at once with the cached value, or with the value of the row it
read; a `PUT` ends with the value of a row it read after its write. -/
def Ended (env : Env) (l : Call) (h : Entries) (m₀ m : Memory) (r : Except Error Answer) : Prop :=
  Turned env h m₀.cache m.cache ∧ match l with
    | .resolveZeroTrust => (h = [] ∧ ∃ c, m₀.cache = some c ∧ r = .ok (.resolved c)) ∨
        ∃ row now, ⟨.getSecuritySettings, some row⟩ ∈ h ∧ r = .ok (.resolved (entry env row now))
    | .putZeroTrust req => ∃ row now now', ⟨.getSecuritySettings, some row⟩ ∈ h ∧
        r = .ok (.saved (entry env row now).val (entry env row now).source req.actor now')

section
variable {env : Env} {l : Call} {h : Entries} {m₀ m : Memory} {β : Type}
  {post : Entries → Memory → Memory → Except Error β → Prop}

theorem keeps_of_ne {q : Query} {a : q.Reply} (hq : q ≠ .close) {c : Option Cache} : Turned env (⟨q, a⟩ :: h) c c :=
  .keeps fun _ _ he => hq (congrArg (·.head?.map (·.1)) he |> Option.some.inj)

theorem Unread.cons {q : Query} {a : q.Reply} (hu : Unread h) (hq : q ≠ .getSecuritySettings) : Unread (⟨q, a⟩ :: h) := by
  intro row hm
  rcases List.mem_cons.1 hm with he | hm
  · exact hq (congrArg (·.1) he).symm
  · exact hu row hm

/-- A query, and what follows on its reply. -/
theorem ask_wp {q : Query} {k : q.Reply → Svc β} (ht : Turned env h m₀.cache m.cache)
    (hq : q = .getSecuritySettings → Unread h)
    (hk : ∀ rows m₁, (k (some rows)).wp (flagSpec env) l post (⟨q, some rows⟩ :: h) m₁ m₁) :
    (Prog.await q k).wp (flagSpec env) l post h m₀ m := by
  refine ⟨⟨trivial, trivial, ht, hq⟩, fun a m₁ ha _ _ => ?_⟩
  cases a with
  | none => exact absurd rfl ha
  | some rows => exact hk rows m₁

theorem getSecuritySettings_wp {f : Settings → Svc β} (ht : Turned env h m₀.cache m.cache) (hu : Unread h)
    (hk : ∀ row m₁, (f row).wp (flagSpec env) l post
      (⟨.close, some ()⟩ :: ⟨.getSecuritySettings, some row⟩ :: ⟨.connect, some ()⟩ :: h) m₁ m₁) :
    (Prog.orElse getSecuritySettings (fun _ => .ret none) >>= f).wp (flagSpec env) l post h m₀ m := by
  refine ask_wp ht (by simp) fun _ m₁ => ?_
  refine ask_wp (keeps_of_ne (by simp)) (fun _ => hu.cons (by simp)) fun row m₂ => ?_
  exact ask_wp (keeps_of_ne (by simp)) (by simp) fun _ m₃ => hk row m₃

theorem updateZeroTrustEnabled_wp {enabled : Bool} {actor : String} {f : Unit → Svc β}
    (ht : Turned env h m₀.cache m.cache)
    (hk : ∀ m₁, (f ()).wp (flagSpec env) l post
      (⟨.close, some ()⟩ :: ⟨.updateZeroTrustEnabled enabled actor, some ()⟩ :: ⟨.connect, some ()⟩ :: h) m₁ m₁) :
    (updateZeroTrustEnabled enabled actor >>= f).wp (flagSpec env) l post h m₀ m := by
  refine ask_wp ht (by simp) fun _ m₁ => ?_
  refine ask_wp (keeps_of_ne (by simp)) (by simp) fun _ m₂ => ?_
  exact ask_wp (keeps_of_ne (by simp)) (by simp) fun _ m₃ => hk m₃

/-- A lookup that finds nothing fresh in the cache reads the settings and fills it. -/
theorem resolve_wp (hlock : env.TACTIX_ZT_LOCKED ≠ some "true") {f : Cache → Svc β}
    (ht : Turned env h m₀.cache m.cache) (hu : Unread h)
    (hcached : ∀ c, m.cache = some c → (f c).wp (flagSpec env) l post h m₀ m)
    (hk : ∀ row now m₁, (f (entry env row now)).wp (flagSpec env) l post
      (⟨.close, some ()⟩ :: ⟨.getSecuritySettings, some row⟩ :: ⟨.connect, some ()⟩ :: h) m₁
      { m₁ with cache := some (entry env row now) }) :
    (resolveZeroTrust env >>= f).wp (flagSpec env) l post h m₀ m := by
  refine wp_bind.2 (wp_read.2 ?_)
  split
  · rename_i c hc
    exact hcached c (Option.filter_eq_some_iff.1 hc).1
  · rw [if_neg hlock]
    exact getSecuritySettings_wp ht hu fun row m₁ => hk row m.now m₁

/-- Every call moves the cache as `Turned` says. -/
theorem run_meets (hlock : env.TACTIX_ZT_LOCKED ≠ some "true") : (flagSpec env).Implements (Ended env) (Call.run env) := by
  intro l m _
  have hstart : Turned env [] m.cache m.cache := .keeps (by simp)
  cases l with
  | resolveZeroTrust =>
    refine resolve_wp hlock hstart (by simp [Unread]) (fun c hc => ?_) fun row now m₁ => ?_
    · exact ⟨trivial, trivial, hstart, .inl ⟨rfl, c, hc, rfl⟩⟩
    · exact ⟨trivial, trivial, .fills, .inr ⟨row, now, by simp, rfl⟩⟩
  | putZeroTrust req =>
    change Prog.wp _ _ (ite _ _ _) _ _ _ _
    rw [if_neg hlock]
    refine updateZeroTrustEnabled_wp hstart fun m₁ => ?_
    -- The bust and the first step of the lookup are one turn.
    refine resolve_wp hlock .busts (by simp [Unread]) (by simp) fun row now m₂ => ?_
    exact ⟨trivial, trivial, .fills, row, now, m₂.now, by simp, rfl⟩

end

/-! ## Parts of a run -/

/-- A `PUT` writes. -/
def Writes : Act → Prop
  | .answer _ (.updateZeroTrustEnabled _ _) _ => True
  | _ => False

def Quiet (_ : State) (a : Act) : Prop := ¬ Writes a

/-- No `PUT` writes, and no call goes on to fill the cache with another value than
the stored one. -/
def Fresh (s : State) (a : Act) : Prop :=
  ¬ Writes a ∧ ∀ i u row h, a = .resume i →
    s.asked i = some (⟨.close, u⟩ :: ⟨.getSecuritySettings, some row⟩ :: h) → row = s.data

/-- No `PUT` writes before call `c` has read the settings. -/
def Until (c : Nat) (s : State) (a : Act) : Prop := Writes a → ∀ h, s.asked c = some h → ¬ Unread h

/-- `PUT` handler `i` has written `v`, no other has written since, and it has just
run the bust. -/
inductive Put (env : Env) (now : Int) (d : Settings) (i : Nat) (v : Bool) : State → Prop
  | mk {s s₁ s₂ s₃ : State} {req : PutRequest} {actor : String} {a : Query.Reply (.updateZeroTrustEnabled v actor)}
      {u u' u'' : Option Unit} {st : Status Memory Query Query.Reply Error Answer} :
      Reachable (FlagStep env) (Sys.init ⟨now, none⟩ d) s →
      FlagStep env s (.answer i (.updateZeroTrustEnabled v actor) a) s₁ →
      Reachable (Guarded Quiet (FlagStep env)) s₁ s₂ →
      s₂.threads i = some ⟨.putZeroTrust req,
        [⟨.close, u⟩, ⟨.updateZeroTrustEnabled v actor, u'⟩, ⟨.connect, u''⟩], st⟩ →
      FlagStep env s₂ (.resume i) s₃ → Put env now d i v s₃

/-- From state `s` on `v` is seen: by every lookup that starts after steps that `C`
allows, and by the lookup of handler `i` itself. -/
def Seen (env : Env) (C : State → Act → Prop) (i : Nat) (v : Bool) (s : State) : Prop :=
  (∀ s₁ s₂ s₃ c h r, Reachable (Guarded C (FlagStep env)) s s₁ → FlagStep env s₁ (.start c .resolveZeroTrust) s₂ →
    Reachable (Guarded (Until c) (FlagStep env)) s₂ s₃ → s₃.threads c = some ⟨.resolveZeroTrust, h, .done r⟩ →
    ∃ ts, r = .ok (.resolved ⟨v, ts, .DB⟩)) ∧
  ∀ s₁ req h r, Reachable (Guarded (Until i) (FlagStep env)) s s₁ → s₁.threads i = some ⟨.putZeroTrust req, h, .done r⟩ →
    ∃ now, r = .ok (.saved v .DB req.actor now)

/-! ## Invariants -/

abbrev Changes (env : Env) (s : State) (a : Act) (s' : State) : Prop :=
  Change (flagSpec env) (Ended env) served clock s a s'

section
variable {env : Env} {s s' : State} {a : Act} {v : Bool}

theorem served_reply (d : Settings) (q : Query) (r : q.Reply) (d' : Settings) (h : served d q r d') : r ≠ none := by
  cases h <;> exact Option.some_ne_none _

/-- What the steps of a part of a run keep. -/
theorem part_inv (hlock : env.TACTIX_ZT_LOCKED ≠ some "true") {C : State → Act → Prop} {I : State → Prop}
    (hm : s.Meets (flagSpec env) (Ended env)) (h0 : I s)
    (hI : ∀ s a s', s.Meets (flagSpec env) (Ended env) → I s → C s a → Changes env s a s' → I s')
    (h : Reachable (Guarded C (FlagStep env)) s s') : s'.Meets (flagSpec env) (Ended env) ∧ I s' :=
  run_inv (run_meets hlock) served_reply (fun _ _ _ _ _ _ _ => ⟨trivial, trivial⟩) hm h0 hI h

theorem step_meets (hlock : env.TACTIX_ZT_LOCKED ≠ some "true") (hm : s.Meets (flagSpec env) (Ended env))
    (hs : FlagStep env s a s') : Changes env s a s' ∧ s'.Meets (flagSpec env) (Ended env) := by
  have hc := change_of_step (run_meets hlock) hm hs
  exact ⟨hc, hc.meets served_reply (fun _ _ _ _ _ _ _ => ⟨trivial, trivial⟩) hm⟩

theorem turned_of_turn {i : Nat} {l : Call} {h : Entries} (ht : Turn (flagSpec env) (Ended env) s i l h s') :
    Turned env h s.mem.cache s'.mem.cache := by
  cases ht with
  | asks _ _ hq _ => exact hq.1
  | ends _ _ hp => exact hp.1

theorem served_data {d d' : Settings} {q : Query} {r : q.Reply} (h : served d q r d') :
    d' = d ∨ ∃ enabled actor, q = .updateZeroTrustEnabled enabled actor := by
  cases h with
  | updateZeroTrustEnabled => exact .inr ⟨_, _, rfl⟩
  | connect => exact .inl rfl
  | getSecuritySettings => exact .inl rfl
  | close => exact .inl rfl

theorem data_of_quiet (hc : Changes env s a s') (hw : ¬ Writes a) : s'.data = s.data := by
  cases hc with
  | start _ ht => exact ht.data
  | answer _ ha =>
    rcases served_data ha with rfl | ⟨enabled, actor, rfl⟩
    · rfl
    · exact absurd trivial hw
  | resume _ _ ht => exact ht.data
  | outside ho => exact ho.2

theorem data_of_write {i : Nat} {actor : String} {r : Query.Reply (.updateZeroTrustEnabled v actor)}
    (hc : Changes env s (.answer i (.updateZeroTrustEnabled v actor) r) s') : s'.data = some v := by
  cases hc with
  | answer _ ha =>
    cases ha
    rfl

/-- The cache has nothing but `v`. -/
def Caches (v : Bool) (cache : Option Cache) : Prop := ∀ c, cache = some c → c.val = v ∧ c.source = .DB

theorem Turned.caches {h : Entries} {c c' : Option Cache} (ht : Turned env h c c')
    (hf : ∀ u row h', h = ⟨.close, u⟩ :: ⟨.getSecuritySettings, some row⟩ :: h' → row = some v) (hc : Caches v c) :
    Caches v c' := by
  cases ht with
  | fills =>
    rw [hf _ _ _ rfl]
    rintro e ⟨⟩
    exact ⟨rfl, rfl⟩
  | busts => simp [Caches]
  | keeps => exact hc

theorem Turned.busted {enabled : Bool} {actor : String} {u u' : Option Unit} {h : Entries} {c c' : Option Cache}
    (ht : Turned env (⟨.close, u⟩ :: ⟨.updateZeroTrustEnabled enabled actor, u'⟩ :: h) c c') : c' = none := by
  cases ht with
  | busts => rfl
  | keeps hne => exact absurd rfl (hne _ _)

/-- The settings have `v`, and so has the cache if anything. -/
def Holds (v : Bool) (s : State) : Prop := s.data = some v ∧ Caches v s.mem.cache

theorem holds_step (hi : Holds v s) (hf : Fresh s a) (hc : Changes env s a s') : Holds v s' := by
  refine ⟨by rw [data_of_quiet hc hf.1, hi.1], ?_⟩
  cases hc with
  | start _ ht => exact (turned_of_turn ht).caches (by simp) hi.2
  | answer => exact hi.2
  | @resume i l h p s' hp hh ht =>
    have hasked : s.asked i = some h := by simp [Sys.asked, hp]
    exact (turned_of_turn ht).caches (fun u row h' he => hi.1 ▸ hf.2 i u row h' rfl (he ▸ hasked)) hi.2
  | outside ho =>
    rw [ho.1]
    exact hi.2

/-- What call `c` has read is `v`; as long as it has not read, `v` is what it would
read; and if it ended at once, it was with `v`. -/
structure Sees (c : Nat) (v : Bool) (s : State) : Prop where
  there : s.threads c ≠ none
  read : ∀ h row, s.asked c = some h → ⟨.getSecuritySettings, some row⟩ ∈ h → row = some v
  unread : ∀ h, s.asked c = some h → Unread h → s.data = some v
  first : ∀ l st, s.threads c = some ⟨l, [], st⟩ →
    (∃ q k, st = .waiting q k) ∨ ∃ ts, st = .done (.ok (.resolved ⟨v, ts, .DB⟩))

theorem asked_step {c : Nat} (hm : s.Meets (flagSpec env) (Ended env)) (hi : Sees c v s) (hu : Until c s a)
    (hc : Changes env s a s') :
    ∀ h, s'.asked c = some h → (∀ row, ⟨.getSecuritySettings, some row⟩ ∈ h → row = some v) ∧
      (Unread h → s'.data = some v) := by
  refine hc.asked_inv (P := fun d asked => ∀ h, asked c = some h →
    (∀ row, ⟨.getSecuritySettings, some row⟩ ∈ h → row = some v) ∧ (Unread h → d = some v)) hm
    (fun h hh => ⟨fun row => hi.read h row hh, hi.unread h hh⟩) ?_ ?_ ?_
  · intro i hnone h hh
    rcases update_cases hh with ⟨rfl, -⟩ | ⟨-, hh⟩
    · exact absurd hnone hi.there
    · exact ⟨fun row => hi.read h row hh, hi.unread h hh⟩
  · rintro i t q r d m₀ m₁ rfl ht hq ha
    have hasked : s.asked i = some t.asked := by simp [Sys.asked, ht]
    have hstored : ∀ h, s.asked c = some h → Unread h → d = some v := by
      intro h hh hun
      rcases served_data ha with rfl | ⟨enabled, actor, rfl⟩
      · exact hi.unread h hh hun
      · exact absurd hun (hu trivial h hh)
    intro h hh
    rcases update_cases hh with ⟨rfl, rfl⟩ | ⟨-, hh⟩
    · refine ⟨fun row hmem => ?_, fun hun => hstored _ hasked fun row hr => hun row (List.mem_cons_of_mem _ hr)⟩
      rcases List.mem_cons.1 hmem with he | hmem
      · -- The call reads now, and had not read before.
        cases he
        obtain ⟨-, hone⟩ := hq
        cases ha
        exact hi.unread _ hasked (hone rfl)
      · exact hi.read _ row hasked hmem
    · exact ⟨fun row => hi.read h row hh, hstored h hh⟩
  · rintro o m d ⟨-, rfl⟩ h hh
    exact ⟨fun row => hi.read h row hh, hi.unread h hh⟩

theorem sees_step {c : Nat} (hm : s.Meets (flagSpec env) (Ended env)) (hi : Sees c v s) (hu : Until c s a)
    (hc : Changes env s a s') : Sees c v s' := by
  have hasked := asked_step hm hi hu hc
  refine ⟨?_, fun h row hh => (hasked h hh).1 row, fun h hh => (hasked h hh).2, ?_⟩
  · intro hnone
    obtain ⟨t, ht⟩ := Option.ne_none_iff_exists'.1 hi.there
    obtain ⟨t', ht', -⟩ := hc.call ht
    rw [hnone] at ht'
    cases ht'
  · intro l st hst
    rcases hc.unanswered hst rfl with hnone | hst
    · exact absurd hnone hi.there
    · exact hi.first l st hst

/-- A lookup that starts while the settings and the cache have `v`. -/
theorem sees_of_start {c : Nat} (hi : Holds v s) (hc : Changes env s (.start c .resolveZeroTrust) s') : Sees c v s' := by
  cases hc with
  | start hnone ht =>
    have hasked := ht.asked
    have hself : s'.asked c = some [] := by rw [hasked, Function.update_self]
    have hread : ∀ h row, s'.asked c = some h → ⟨.getSecuritySettings, some row⟩ ∈ h → row = some v := by
      intro h row hh hrow
      obtain rfl := Option.some.inj (hself.symm.trans hh)
      simp at hrow
    cases ht with
    | asks => exact ⟨by simp, hread, fun _ _ _ => hi.1, fun l st hst => .inl ⟨_, _, by simp at hst; exact hst.2.symm⟩⟩
    | ends _ _ hp =>
      refine ⟨by simp, hread, fun _ _ _ => hi.1, fun l st hst => .inr ?_⟩
      simp only [Function.update_self, Option.some.injEq, Thread.mk.injEq] at hst
      obtain ⟨-, ⟨-, e, he, hr⟩ | ⟨row, now, hrow, -⟩⟩ := hp
      · obtain ⟨hval, hsource⟩ := hi.2 e he
        exact ⟨e.ts, by rw [← hst.2.2, hr, ← hval, ← hsource]⟩
      · simp at hrow

theorem resolved_of_sees {c : Nat} {h : Entries} {r : Except Error Answer} (hm : s.Meets (flagSpec env) (Ended env))
    (hi : Sees c v s) (hc : s.threads c = some ⟨.resolveZeroTrust, h, .done r⟩) :
    ∃ ts, r = .ok (.resolved ⟨v, ts, .DB⟩) := by
  obtain ⟨_, _, ⟨-, ⟨rfl, -⟩ | ⟨row, now, hrow, hr⟩⟩, -⟩ := hm.2 _ _ hc
  · rcases hi.first _ _ hc with ⟨q, k, hq⟩ | ⟨ts, hts⟩
    · cases hq
    · exact ⟨ts, by cases hts; rfl⟩
  · rw [hi.read h row (by simp [Sys.asked, hc]) hrow] at hr
    exact ⟨now, hr⟩

theorem saved_of_sees {i : Nat} {req : PutRequest} {h : Entries} {r : Except Error Answer}
    (hm : s.Meets (flagSpec env) (Ended env)) (hi : Sees i v s)
    (hd : s.threads i = some ⟨.putZeroTrust req, h, .done r⟩) : ∃ now, r = .ok (.saved v .DB req.actor now) := by
  obtain ⟨_, _, ⟨-, row, ts, now, hrow, hr⟩, -⟩ := hm.2 _ _ hd
  rw [hi.read h row (by simp [Sys.asked, hd]) hrow] at hr
  exact ⟨now, hr⟩

/-- The bust leaves nothing but `v`, and nothing else for the handler to read. -/
theorem holds_of_put (hlock : env.TACTIX_ZT_LOCKED ≠ some "true") {now : Int} {d : Settings} {i : Nat}
    (h : Put env now d i v s) : s.Meets (flagSpec env) (Ended env) ∧ Holds v s ∧ Sees i v s := by
  obtain ⟨hr, hw, hq, hi, hb⟩ := h
  have hm := (part_inv hlock (Sys.init_meets trivial) (I := fun _ => True) trivial (fun _ _ _ _ _ _ _ => trivial)
    (hr.guarded (C := fun _ _ => True) fun _ _ => trivial)).1
  obtain ⟨hc₁, hm₁⟩ := step_meets hlock hm hw
  obtain ⟨hm₂, hd₂⟩ := part_inv hlock hm₁ (I := fun s => s.data = some v) (data_of_write hc₁)
    (fun _ _ _ _ hd hq hc => (data_of_quiet hc hq).trans hd) hq
  obtain ⟨hc₃, hm₃⟩ := step_meets hlock hm₂ hb
  refine ⟨hm₃, ?_⟩
  cases hc₃ with
  | resume hp _ ht =>
    rw [hi, Option.some.injEq, Thread.mk.injEq] at hp
    obtain ⟨-, rfl, -⟩ := hp
    have hasked := congrFun ht.asked i
    rw [Function.update_self] at hasked
    obtain ⟨st, hst⟩ := ht.threads
    refine ⟨⟨ht.data.trans hd₂, ?_⟩, by simp [hst], ?_, fun _ _ _ => ht.data.trans hd₂, ?_⟩
    · rw [(turned_of_turn ht).busted]
      simp [Caches]
    · intro h row hh hrow
      obtain rfl := Option.some.inj (hasked.symm.trans hh)
      simp at hrow
    · intro l st' hl
      rw [hst, Function.update_self] at hl
      simp at hl

end

/-- A flag that a `PUT` has set is seen, when no lookup that read another value
fills the cache after the bust. -/
theorem put_seen (env : Env) (hlock : env.TACTIX_ZT_LOCKED ≠ some "true") {now : Int} {d : Settings} {i : Nat} {v : Bool}
    {s : State} (h : Put env now d i v s) : Seen env Fresh i v s := by
  obtain ⟨hm, hholds, hsees⟩ := holds_of_put hlock h
  constructor
  · intro s₁ s₂ s₃ c h r h₁ hstart h₂ hdone
    obtain ⟨hm₁, hholds₁⟩ := part_inv hlock hm hholds (fun _ _ _ _ hi hf hc => holds_step hi hf hc) h₁
    obtain ⟨hc₂, hm₂⟩ := step_meets hlock hm₁ hstart
    obtain ⟨hm₃, hsees₃⟩ :=
      part_inv hlock hm₂ (sees_of_start hholds₁ hc₂) (fun _ _ _ hm hi hu hc => sees_step hm hi hu hc) h₂
    exact resolved_of_sees hm₃ hsees₃ hdone
  · intro s₁ req h r h₁ hdone
    obtain ⟨hm₁, hsees₁⟩ := part_inv hlock hm hsees (fun _ _ _ hm hi hu hc => sees_step hm hi hu hc) h₁
    exact saved_of_sees hm₁ hsees₁ hdone

/-! ## The bad schedule -/

/-- A lookup reads that the flag is off and does not go on yet; a `PUT` sets the flag
and busts the cache. -/
theorem late_lookup : ∃ s p, Put .sample 0 (some false) 1 true s ∧
    s.threads 0 = some ⟨.resolveZeroTrust,
      [⟨.close, some ()⟩, ⟨.getSecuritySettings, some (some false)⟩, ⟨.connect, some ()⟩], .ready p⟩ ∧ s.threads 2 = none ∧
    p.advance s.mem = (⟨0, some ⟨false, 0, .DB⟩⟩, .done (.ok (.resolved ⟨false, 0, .DB⟩))) := by
  have h0 : Reachable (Guarded (fun _ _ => True) (FlagStep .sample)) (Sys.init ⟨0, none⟩ (some false)) _ := .refl
  have h1 := reach_start h0 trivial (i := 0) (l := .resolveZeroTrust) rfl rfl
  have h2 := reach_resume (reach_answer h1 trivial (i := 0) rfl .connect) trivial (i := 0) rfl rfl
  have h3 := reach_resume (reach_answer h2 trivial (i := 0) rfl .getSecuritySettings) trivial (i := 0) rfl rfl
  have h4 := reach_answer h3 trivial (i := 0) rfl .close
  have h5 := reach_start h4 trivial (i := 1) (l := .putZeroTrust ⟨some (.obj [("enabled", .bool true)]), none⟩) rfl rfl
  have h6 := reach_resume (reach_answer h5 trivial (i := 1) rfl .connect) trivial (i := 1) rfl rfl
  have h7 := reach_answer h6 trivial (i := 1) rfl .updateZeroTrustEnabled
  have hquiet {s₀ s : State} (_ : Reachable (Guarded (fun _ _ => True) (FlagStep .sample)) s₀ s) :
      Reachable (Guarded Quiet (FlagStep .sample)) s s := .refl
  have h8 := reach_answer (reach_resume (hquiet h7) (by exact not_false) (i := 1) rfl rfl)
    (by exact not_false) (i := 1) rfl .close
  exact ⟨_, _, .mk h6.forget (.answer rfl .updateZeroTrustEnabled) h8 rfl (.resume rfl), rfl, rfl, rfl⟩

/-- After such an update the flag is seen as long as the lookup does not go on. -/
theorem put_seen_sample : ∃ s, Put .sample 0 (some false) 1 true s ∧ Seen .sample Fresh 1 true s := by
  obtain ⟨s, _, hput, -⟩ := late_lookup
  exact ⟨s, hput, put_seen .sample (by decide) hput⟩

/-- When it goes on it fills the cache, and the next lookup returns that the flag is off. -/
theorem stale_fill : ¬ ∀ s, Put .sample 0 (some false) 1 true s → Seen .sample Quiet 1 true s := by
  intro hall
  obtain ⟨s, p, hput, hp, hnone, hfill⟩ := late_lookup
  have hs : Reachable (Guarded Quiet (FlagStep .sample)) s s := .refl
  have h := reach_resume hs (by exact not_false) hp hfill
  obtain ⟨ts, hr⟩ := (hall s hput).1 _ _ _ 2 [] _ h (.start hnone) .refl rfl
  cases hr

end Tactix.ZeroTrust
