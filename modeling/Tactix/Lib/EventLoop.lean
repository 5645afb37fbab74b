import Mathlib.Logic.Function.Basic
import Tactix.Lib.Async
import Tactix.Lib.Runs
/-!
# Calls on one event loop

Any number of calls of asynchronous functions, one running at a time: a call
keeps the loop until it waits for a reply, and goes on some time after the
reply came. `Spec` says what the calls may rely on and must guarantee between
two waits; `change_of_step` is what every step of a run does when each call
meets its specification by itself.
-/

namespace ServiceLib

variable {L M D O Q : Type} {R : Q → Type} {E α β : Type}

/-- The queries a call has had replies to, the last one first. -/
abbrev Asked (Q : Type) (R : Q → Type) := List ((q : Q) × R q)

inductive Status (M Q : Type) (R : Q → Type) (E α : Type) where
  | waiting (q : Q) (k : R q → Prog M Q R E α)
  /-- The reply has come; the call goes on in a later turn. -/
  | ready (p : Prog M Q R E α)
  | done (r : Except E α)

structure Thread (L M Q : Type) (R : Q → Type) (E α : Type) where
  call : L
  asked : Asked Q R
  status : Status M Q R E α

/-- One turn: the program runs up to its next wait or its end. -/
def Prog.advance : M → Prog M Q R E α → M × Status M Q R E α
  | m, .ret a => (m, .done (.ok a))
  | m, .raise e => (m, .done (.error e))
  | m, .get k => (k m).advance m
  | _, .set m k => k.advance m
  | m, .await q k => (m, .waiting q k)

/-- The memory the calls share, the data behind their queries, the calls, and
the queries they have issued, in order. -/
structure Sys (L M D Q : Type) (R : Q → Type) (E α : Type) where
  mem : M
  data : D
  threads : Nat → Option (Thread L M Q R E α)
  issued : List Q

def Sys.init (m : M) (d : D) : Sys L M D Q R E α := ⟨m, d, fun _ => none, []⟩

def Status.query : Status M Q R E α → List Q
  | .waiting q _ => [q]
  | _ => []

/-- One turn of thread `i`, which has `p` left to do. -/
def Sys.run (s : Sys L M D Q R E α) (i : Nat) (l : L) (h : Asked Q R) (p : Prog M Q R E α) : Sys L M D Q R E α :=
  { s with mem := (p.advance s.mem).1,
           threads := Function.update s.threads i (some ⟨l, h, (p.advance s.mem).2⟩),
           issued := s.issued ++ (p.advance s.mem).2.query }

inductive Action (L O Q : Type) (R : Q → Type) where
  | start (i : Nat) (l : L)
  | answer (i : Nat) (q : Q) (a : R q)
  | resume (i : Nat)
  | outside (o : O)

section
variable (prog : L → Prog M Q R E α) (ans : D → (q : Q) → R q → D → Prop) (env : O → M → D → M → D → Prop)

inductive Step : Sys L M D Q R E α → Action L O Q R → Sys L M D Q R E α → Prop
  | start {s : Sys L M D Q R E α} {i : Nat} {l : L} : s.threads i = none → Step s (.start i l) (s.run i l [] (prog l))
  | answer {s : Sys L M D Q R E α} {i : Nat} {l : L} {h : Asked Q R} {q : Q} {k : R q → Prog M Q R E α} {a : R q} {d : D} :
      s.threads i = some ⟨l, h, .waiting q k⟩ → ans s.data q a d →
      Step s (.answer i q a)
        { s with data := d, threads := Function.update s.threads i (some ⟨l, ⟨q, a⟩ :: h, .ready (k a)⟩) }
  | resume {s : Sys L M D Q R E α} {i : Nat} {l : L} {h : Asked Q R} {p : Prog M Q R E α} :
      s.threads i = some ⟨l, h, .ready p⟩ → Step s (.resume i) (s.run i l h p)
  | outside {s : Sys L M D Q R E α} {o : O} {m : M} {d : D} : env o s.mem s.data m d →
      Step s (.outside o) { s with mem := m, data := d }

end

/-! ## What a call relies on and guarantees -/

/-- The replies the world may give, an invariant of the memory, how the memory may
change, and what a call may ask at the end of a turn that began in the first memory. -/
structure Spec (L M Q : Type) (R : Q → Type) where
  reply : (q : Q) → R q → Prop
  inv : M → Prop
  rely : M → M → Prop
  issue : L → Asked Q R → M → M → Q → Prop
  rely_refl : ∀ m, rely m m
  rely_trans : ∀ {m m' m''}, rely m m' → rely m' m'' → rely m m''

/-- What is left of call `l` keeps the specification and ends with `post`, from
memory `m` in a turn that began in `m₀`, whatever the replies and the others do. -/
def Prog.wp (S : Spec L M Q R) (l : L) :
    Prog M Q R E α → (Asked Q R → M → M → Except E α → Prop) → Asked Q R → M → M → Prop
  | .ret a, post, h, m₀, m => post h m₀ m (.ok a)
  | .raise e, post, h, m₀, m => post h m₀ m (.error e)
  | .get k, post, h, m₀, m => (k m).wp S l post h m₀ m
  | .set m k, post, h, m₀, _ => k.wp S l post h m₀ m
  | .await q k, post, h, m₀, m => (S.inv m ∧ S.rely m₀ m ∧ S.issue l h m₀ m q) ∧
      ∀ a m₁, S.reply q a → S.inv m₁ → S.rely m m₁ → (k a).wp S l post (⟨q, a⟩ :: h) m₁ m₁

variable {S : Spec L M Q R} {post : L → Asked Q R → M → M → Except E α → Prop}

theorem wp_bind {l : L} {p : Prog M Q R E α} {f : α → Prog M Q R E β} {post : Asked Q R → M → M → Except E β → Prop}
    {h : Asked Q R} {m₀ m : M} :
    (p >>= f).wp S l post h m₀ m ↔ p.wp S l (fun h m₀ m r => match r with
      | .ok a => (f a).wp S l post h m₀ m
      | .error e => post h m₀ m (.error e)) h m₀ m := by
  induction p generalizing h m₀ m with
  | ret a => rfl
  | raise e => rfl
  | get k ih => exact ih m
  | set m₁ k ih => exact ih
  | await q k ih =>
    refine and_congr_right fun _ => forall_congr' fun a => forall_congr' fun m₁ => ?_
    exact imp_congr_right fun _ => imp_congr_right fun _ => imp_congr_right fun _ => ih a

theorem wp_read {l : L} {f : M → Prog M Q R E β} {post : Asked Q R → M → M → Except E β → Prop} {h : Asked Q R} {m₀ m : M} :
    (Prog.read >>= f).wp S l post h m₀ m ↔ (f m).wp S l post h m₀ m := Iff.rfl

/-- What a call ends with, the guarantee of its last turn included. -/
def Spec.Ends (S : Spec L M Q R) (post : L → Asked Q R → M → M → Except E α → Prop) (l : L) (h : Asked Q R) (m₀ m : M)
    (r : Except E α) : Prop :=
  S.inv m ∧ S.rely m₀ m ∧ post l h m₀ m r

/-- Every call meets the specification by itself. -/
def Spec.Implements (S : Spec L M Q R) (post : L → Asked Q R → M → M → Except E α → Prop)
    (prog : L → Prog M Q R E α) : Prop :=
  ∀ l m, S.inv m → (prog l).wp S l (S.Ends post l) [] m m

/-- What is left of a call meets the specification from memory `m` on. -/
def Thread.Meets (S : Spec L M Q R) (post : L → Asked Q R → M → M → Except E α → Prop) (m : M)
    (t : Thread L M Q R E α) : Prop :=
  match t.status with
  | .waiting q k => (∃ m₀ m₁, S.issue t.call t.asked m₀ m₁ q ∧ S.rely m₁ m) ∧
      ∀ a m₁, S.reply q a → S.inv m₁ → S.rely m m₁ → (k a).wp S t.call (S.Ends post t.call) (⟨q, a⟩ :: t.asked) m₁ m₁
  | .ready p => t.asked ≠ [] ∧ ∀ m₁, S.inv m₁ → S.rely m m₁ → p.wp S t.call (S.Ends post t.call) t.asked m₁ m₁
  | .done r => ∃ m₀ m₁, post t.call t.asked m₀ m₁ r ∧ S.rely m₁ m

def Sys.Meets (S : Spec L M Q R) (post : L → Asked Q R → M → M → Except E α → Prop) (s : Sys L M D Q R E α) : Prop :=
  S.inv s.mem ∧ ∀ i t, s.threads i = some t → t.Meets S post s.mem

theorem Thread.Meets.mono {m m' : M} {t : Thread L M Q R E α} (h : t.Meets S post m) (hm : S.rely m m') :
    t.Meets S post m' := by
  unfold Thread.Meets at h ⊢
  split at h
  · obtain ⟨⟨m₀, m₁, hq, hr⟩, hk⟩ := h
    exact ⟨⟨m₀, m₁, hq, S.rely_trans hr hm⟩, fun a m₁ ha hi hr => hk a m₁ ha hi (S.rely_trans hm hr)⟩
  · exact ⟨h.1, fun m₁ hi hr => h.2 m₁ hi (S.rely_trans hm hr)⟩
  · obtain ⟨m₀, m₁, hp, hr⟩ := h
    exact ⟨m₀, m₁, hp, S.rely_trans hr hm⟩

/-- The entries after one is written: the new one, and the others as they were. -/
theorem update_cases {τ : Type} {f : Nat → Option τ} {i j : Nat} {t₀ t : τ}
    (hj : Function.update f i (some t₀) j = some t) : (j = i ∧ t = t₀) ∨ (j ≠ i ∧ f j = some t) := by
  by_cases hij : j = i
  · subst hij
    rw [Function.update_self, Option.some.injEq] at hj
    exact .inl ⟨rfl, hj.symm⟩
  · rw [Function.update_of_ne hij] at hj
    exact .inr ⟨hij, hj⟩

theorem update_forall {τ : Type} {f : Nat → Option τ} {i : Nat} {t₀ : τ} {P : Nat → τ → Prop} (hi : P i t₀)
    (h : ∀ j t, j ≠ i → f j = some t → P j t) (j : Nat) (t : τ) (hj : Function.update f i (some t₀) j = some t) :
    P j t := by
  rcases update_cases hj with ⟨rfl, rfl⟩ | ⟨hij, hj⟩
  · exact hi
  · exact h j t hij hj

/-- A turn of thread `i`: it asks its next query, or it ends. -/
inductive Turn (S : Spec L M Q R) (post : L → Asked Q R → M → M → Except E α → Prop) (s : Sys L M D Q R E α) (i : Nat)
    (l : L) (h : Asked Q R) : Sys L M D Q R E α → Prop
  | asks {m : M} {q : Q} {k : R q → Prog M Q R E α} : S.inv m → S.rely s.mem m → S.issue l h s.mem m q →
      (∀ a m₁, S.reply q a → S.inv m₁ → S.rely m m₁ → (k a).wp S l (S.Ends post l) (⟨q, a⟩ :: h) m₁ m₁) →
      Turn S post s i l h { s with mem := m, threads := Function.update s.threads i (some ⟨l, h, .waiting q k⟩),
                                   issued := s.issued ++ [q] }
  | ends {m : M} {r : Except E α} : S.inv m → S.rely s.mem m → post l h s.mem m r →
      Turn S post s i l h { s with mem := m, threads := Function.update s.threads i (some ⟨l, h, .done r⟩) }

theorem turn_of_wp {p : Prog M Q R E α} {s : Sys L M D Q R E α} {i : Nat} {l : L} {h : Asked Q R}
    (hp : p.wp S l (S.Ends post l) h s.mem s.mem) : Turn S post s i l h (s.run i l h p) := by
  -- By induction on the program, from any memory the turn has come to.
  suffices hs : ∀ m, p.wp S l (S.Ends post l) h s.mem m → Turn S post s i l h
      { s with mem := (p.advance m).1, threads := Function.update s.threads i (some ⟨l, h, (p.advance m).2⟩),
               issued := s.issued ++ (p.advance m).2.query } from hs _ hp
  clear hp
  induction p with
  | ret a =>
    intro m hp
    simp only [Prog.advance, Status.query, List.append_nil]
    exact .ends hp.1 hp.2.1 hp.2.2
  | raise e =>
    intro m hp
    simp only [Prog.advance, Status.query, List.append_nil]
    exact .ends hp.1 hp.2.1 hp.2.2
  | get k ih => exact fun m hp => ih m m hp
  | set m₁ k ih => exact fun m hp => ih m₁ hp
  | await q k ih => exact fun m hp => .asks hp.1.1 hp.1.2.1 hp.1.2.2 hp.2

theorem Turn.data {s s' : Sys L M D Q R E α} {i : Nat} {l : L} {h : Asked Q R} (ht : Turn S post s i l h s') :
    s'.data = s.data := by
  cases ht <;> rfl

/-- The replies each call has had. -/
def Sys.asked (s : Sys L M D Q R E α) (i : Nat) : Option (Asked Q R) := (s.threads i).map (·.asked)

theorem asked_update {s s' : Sys L M D Q R E α} {i : Nat} {t : Thread L M Q R E α}
    (h : s'.threads = Function.update s.threads i (some t)) : s'.asked = Function.update s.asked i (some t.asked) := by
  funext j
  by_cases hj : j = i
  · subst hj
    simp [Sys.asked, h]
  · simp [Sys.asked, h, Function.update_of_ne hj]

theorem Turn.threads {s s' : Sys L M D Q R E α} {i : Nat} {l : L} {h : Asked Q R} (ht : Turn S post s i l h s') :
    ∃ st, s'.threads = Function.update s.threads i (some ⟨l, h, st⟩) := by
  cases ht with
  | asks => exact ⟨_, rfl⟩
  | ends => exact ⟨_, rfl⟩

/-- A turn brings no reply. -/
theorem Turn.asked {s s' : Sys L M D Q R E α} {i : Nat} {l : L} {h : Asked Q R} (ht : Turn S post s i l h s') :
    s'.asked = Function.update s.asked i (some h) := by
  obtain ⟨st, hst⟩ := ht.threads
  exact asked_update hst

/-- After a turn all calls meet the specification, when the others did before. -/
theorem Turn.meets {s s' : Sys L M D Q R E α} {i : Nat} {l : L} {h : Asked Q R} (ht : Turn S post s i l h s')
    (hm : s.Meets S post) : s'.Meets S post := by
  cases ht with
  | asks hi hr hq hk => exact ⟨hi, update_forall ⟨⟨_, _, hq, S.rely_refl _⟩, hk⟩ fun j t _ hj => (hm.2 j t hj).mono hr⟩
  | ends hi hr hp => exact ⟨hi, update_forall ⟨_, _, hp, S.rely_refl _⟩ fun j t _ hj => (hm.2 j t hj).mono hr⟩

/-! ## Runs -/

variable {prog : L → Prog M Q R E α} {ans : D → (q : Q) → R q → D → Prop} {env : O → M → D → M → D → Prop}

/-- What a step does when the calls meet the specification. -/
inductive Change (S : Spec L M Q R) (post : L → Asked Q R → M → M → Except E α → Prop)
    (ans : D → (q : Q) → R q → D → Prop) (env : O → M → D → M → D → Prop) (s : Sys L M D Q R E α) :
    Action L O Q R → Sys L M D Q R E α → Prop
  | start {i : Nat} {l : L} {s' : Sys L M D Q R E α} : s.threads i = none → Turn S post s i l [] s' →
      Change S post ans env s (.start i l) s'
  | answer {i : Nat} {l : L} {h : Asked Q R} {q : Q} {k : R q → Prog M Q R E α} {a : R q} {d : D} :
      s.threads i = some ⟨l, h, .waiting q k⟩ → ans s.data q a d → Change S post ans env s (.answer i q a)
        { s with data := d, threads := Function.update s.threads i (some ⟨l, ⟨q, a⟩ :: h, .ready (k a)⟩) }
  | resume {i : Nat} {l : L} {h : Asked Q R} {p : Prog M Q R E α} {s' : Sys L M D Q R E α} :
      s.threads i = some ⟨l, h, .ready p⟩ → h ≠ [] → Turn S post s i l h s' → Change S post ans env s (.resume i) s'
  | outside {o : O} {m : M} {d : D} : env o s.mem s.data m d →
      Change S post ans env s (.outside o) { s with mem := m, data := d }

theorem change_of_step (hprog : S.Implements post prog) {s s' : Sys L M D Q R E α} {a : Action L O Q R}
    (hm : s.Meets S post) (hs : Step prog ans env s a s') : Change S post ans env s a s' := by
  cases hs with
  | start hi => exact .start hi (turn_of_wp (hprog _ _ hm.1))
  | answer hi ha => exact .answer hi ha
  | resume hi =>
    obtain ⟨hh, hp⟩ := hm.2 _ _ hi
    exact .resume hi hh (turn_of_wp (hp s.mem hm.1 (S.rely_refl _)))
  | outside ho => exact .outside ho

/-- A call that was started stays the same call. -/
theorem Change.call {s s' : Sys L M D Q R E α} {a : Action L O Q R} (hc : Change S post ans env s a s') {j : Nat}
    {t : Thread L M Q R E α} (hj : s.threads j = some t) : ∃ t', s'.threads j = some t' ∧ t'.call = t.call := by
  have hupd : ∀ {i : Nat} {t₁ t₂ : Thread L M Q R E α}, s.threads i = some t₁ →
      s'.threads = Function.update s.threads i (some t₂) → t₂.call = t₁.call →
      ∃ t', s'.threads j = some t' ∧ t'.call = t.call := by
    intro i t₁ t₂ hi hs he
    by_cases hij : j = i
    · subst hij
      rw [hi, Option.some.injEq] at hj
      exact ⟨t₂, by simp [hs], by rw [he, hj]⟩
    · exact ⟨t, by simp [hs, Function.update_of_ne hij, hj], rfl⟩
  cases hc with
  | @start i l s' hi ht =>
    obtain ⟨st, hst⟩ := ht.threads
    have hij : j ≠ i := fun he => by rw [he, hi] at hj; cases hj
    exact ⟨t, by rw [hst, Function.update_of_ne hij, hj], rfl⟩
  | answer hi ha => exact hupd hi rfl rfl
  | resume hi _ ht =>
    obtain ⟨st, hst⟩ := ht.threads
    exact hupd hi hst rfl
  | outside ho => exact ⟨t, hj, rfl⟩

/-- A call that has had no reply has just started, or is where it was. -/
theorem Change.unanswered {s s' : Sys L M D Q R E α} {a : Action L O Q R} (hc : Change S post ans env s a s') {j : Nat}
    {t : Thread L M Q R E α} (hj : s'.threads j = some t) (ht : t.asked = []) :
    s.threads j = none ∨ s.threads j = some t := by
  cases hc with
  | start hi hturn =>
    obtain ⟨st, hst⟩ := hturn.threads
    rw [hst] at hj
    rcases update_cases hj with ⟨rfl, -⟩ | ⟨-, hj⟩
    · exact .inl hi
    · exact .inr hj
  | answer hi ha =>
    rcases update_cases hj with ⟨-, rfl⟩ | ⟨-, hj⟩
    · cases ht
    · exact .inr hj
  | resume hi hne hturn =>
    obtain ⟨st, hst⟩ := hturn.threads
    rw [hst] at hj
    rcases update_cases hj with ⟨-, rfl⟩ | ⟨-, hj⟩
    · exact absurd ht hne
    · exact .inr hj
  | outside ho => exact .inr hj

theorem Change.meets (hans : ∀ d q a d', ans d q a d' → S.reply q a)
    (henv : ∀ o m d m' d', S.inv m → env o m d m' d' → S.inv m' ∧ S.rely m m')
    {s s' : Sys L M D Q R E α} {a : Action L O Q R} (hm : s.Meets S post) (hc : Change S post ans env s a s') :
    s'.Meets S post := by
  cases hc with
  | start _ ht => exact ht.meets hm
  | answer hi ha =>
    have ht := (hm.2 _ _ hi).2
    exact ⟨hm.1, update_forall ⟨List.cons_ne_nil _ _, fun m₁ hi₁ hr => ht _ m₁ (hans _ _ _ _ ha) hi₁ hr⟩
      fun j t _ hj => hm.2 j t hj⟩
  | resume _ _ ht => exact ht.meets hm
  | outside ho =>
    obtain ⟨hi, hr⟩ := henv _ _ _ _ _ hm.1 ho
    exact ⟨hi, fun j t hj => (hm.2 j t hj).mono hr⟩

/-- What holds of the data and of the replies the calls have had, a step keeps when a
start, a reply and the outside do. -/
theorem Change.asked_inv {P : D → (Nat → Option (Asked Q R)) → Prop} {s s' : Sys L M D Q R E α} {a : Action L O Q R}
    (hc : Change S post ans env s a s') (hm : s.Meets S post) (h : P s.data s.asked)
    (hstart : ∀ i, s.threads i = none → P s.data (Function.update s.asked i (some [])))
    (hanswer : ∀ i t q r d m₀ m₁, a = .answer i q r → s.threads i = some t → S.issue t.call t.asked m₀ m₁ q →
      ans s.data q r d → P d (Function.update s.asked i (some (⟨q, r⟩ :: t.asked))))
    (houtside : ∀ o m d, env o s.mem s.data m d → P d s.asked) : P s'.data s'.asked := by
  cases hc with
  | start hi ht =>
    rw [ht.data, ht.asked]
    exact hstart _ hi
  | @answer i l h q k r d hi ha =>
    obtain ⟨⟨m₀, m₁, hq, -⟩, -⟩ := hm.2 _ _ hi
    rw [asked_update (t := ⟨l, ⟨q, r⟩ :: h, .ready (k r)⟩) rfl]
    exact hanswer i _ q r d m₀ m₁ rfl hi hq ha
  | resume hi _ ht =>
    rw [ht.data, ht.asked, Function.update_eq_self_iff.2 (by simp [Sys.asked, hi])]
    exact h
  | outside ho => exact houtside _ _ _ ho

/-- In every reachable state all calls meet the specification, and what holds at
first and is kept by every change holds. -/
theorem run_inv {C : Sys L M D Q R E α → Action L O Q R → Prop} {I : Sys L M D Q R E α → Prop}
    {init : Sys L M D Q R E α} (hprog : S.Implements post prog) (hans : ∀ d q a d', ans d q a d' → S.reply q a)
    (henv : ∀ o m d m' d', S.inv m → env o m d m' d' → S.inv m' ∧ S.rely m m')
    (hm : init.Meets S post) (h0 : I init)
    (hI : ∀ s a s', s.Meets S post → I s → C s a → Change S post ans env s a s' → I s') {s : Sys L M D Q R E α}
    (h : Reachable (Guarded C (Step prog ans env)) init s) : s.Meets S post ∧ I s := by
  refine h.inv (I := fun s => s.Meets S post ∧ I s) ⟨hm, h0⟩ ?_
  rintro s a s' ⟨hm, hi⟩ ⟨hc, hs⟩
  have hch := change_of_step hprog hm hs
  exact ⟨hch.meets hans henv hm, hI _ _ _ hm hi hc hch⟩

theorem Sys.init_meets {m : M} {d : D} (hi : S.inv m) : (Sys.init m d : Sys L M D Q R E α).Meets S post :=
  ⟨hi, fun _ _ h => by simp [Sys.init] at h⟩

/-! ## Runs step by step -/

section
variable {C : Sys L M D Q R E α → Action L O Q R → Prop} {init s : Sys L M D Q R E α} {i : Nat} {l : L} {m : M}
  {st : Status M Q R E α}

/-- A call starts, and takes its first turn. -/
theorem reach_start (hs : Reachable (Guarded C (Step prog ans env)) init s) (hC : C s (.start i l))
    (hi : s.threads i = none) (he : (prog l).advance s.mem = (m, st)) : Reachable (Guarded C (Step prog ans env)) init
      { mem := m, data := s.data, threads := Function.update s.threads i (some ⟨l, [], st⟩),
        issued := s.issued ++ st.query } := by
  have h := hs.nextGuarded (.start i l) hC (.start hi)
  rwa [Sys.run, he] at h

/-- A call gets its reply. -/
theorem reach_answer {h : Asked Q R} {q : Q} {k : R q → Prog M Q R E α} {a : R q} {d : D}
    (hs : Reachable (Guarded C (Step prog ans env)) init s) (hC : C s (.answer i q a))
    (hi : s.threads i = some ⟨l, h, .waiting q k⟩) (ha : ans s.data q a d) :
    Reachable (Guarded C (Step prog ans env)) init
      { s with data := d, threads := Function.update s.threads i (some ⟨l, ⟨q, a⟩ :: h, .ready (k a)⟩) } :=
  hs.nextGuarded (.answer i q a) hC (.answer hi ha)

/-- A call goes on after its reply. -/
theorem reach_resume {h : Asked Q R} {p : Prog M Q R E α} (hs : Reachable (Guarded C (Step prog ans env)) init s)
    (hC : C s (.resume i)) (hi : s.threads i = some ⟨l, h, .ready p⟩) (he : p.advance s.mem = (m, st)) :
    Reachable (Guarded C (Step prog ans env)) init
      { mem := m, data := s.data, threads := Function.update s.threads i (some ⟨l, h, st⟩),
        issued := s.issued ++ st.query } := by
  have h := hs.nextGuarded (.resume i) hC (.resume hi)
  rwa [Sys.run, he] at h

end

end ServiceLib
