import Tactix.Lib.Publish
/-!
# The notification store

`notifyStore` keeps the last fifty notifications and tells its subscribers, which may call
it back. `notify_told` says in which runs everybody has the current list whenever no call is
under way.
-/
open ServiceLib

namespace Tactix.Ui

inductive Severity where
  | info
  | warning
  | critical
  deriving DecidableEq

structure Notify where
  id : String
  severity : Severity
  title : String
  text : String
  «at» : String
  deriving DecidableEq

/-- `items = [n, ...items].slice(0, 50)`. -/
def push (items : List Notify) (n : Notify) : List Notify := (n :: items).take 50

/-- `items = items.filter((x) => x.id !== id)`. -/
def dismiss (items : List Notify) (id : String) : List Notify := items.filter (·.id ≠ id)

inductive Write where
  | push (n : Notify)
  | dismiss (id : String)

def Write.apply (items : List Notify) : Write → List Notify
  | .push n => Ui.push items n
  | .dismiss id => Ui.dismiss items id

/-- `subs` and `items`, for functions that are compared as `F` is. -/
abbrev NotifyStore (F : Type) := Channel F (List Notify)

def NotifyStore.init (F : Type) : NotifyStore F := Channel.init []

/-- A call of the store, of a subscriber or back from one. -/
abbrev NotifyStore.Step {F : Type} [DecidableEq F] : NotifyStore F → Channel.Action F Write → NotifyStore F → Prop :=
  Channel.Step Write.apply

/-- With no call under way every subscriber has got the current list last, and the list is what the run's pushes and
dismissals make of the empty one, in every run in which each function behind one that is unsubscribed has the
list already, or is yet to be called at the place before its own. -/
theorem notify_told {F : Type} [DecidableEq F] {s : NotifyStore F} {writes : List Write}
    (h : Reachable (Watching Channel.written (Guarded Channel.Meets NotifyStore.Step)) (NotifyStore.init F, []) (s, writes)) :
    Channel.Told Write.apply [] writes s :=
  Channel.told_of_reachable [] h

def Notify.sample : Notify := ⟨"n1", .info, "Fire", "Sector 4", "2025-08-17T10:00:00.000Z"⟩

/-- The second of two subscribers leaves when it is told, and the first one stays. -/
theorem notify_once : ∃ s : NotifyStore Nat, s.stack = [] ∧ s.subs = [0] ∧ s.latest 0 = some [Notify.sample] ∧
    Channel.Told Write.apply [] [.push Notify.sample] s := by
  have h0 : Reachable (Watching Channel.written (Guarded Channel.Meets NotifyStore.Step)) (NotifyStore.init Nat, [])
    (NotifyStore.init Nat, []) := .refl
  have h1 := h0.nextWatched (.call (.subscribe 0)) ⟨trivial, .outside rfl⟩
  have h2 := h1.nextWatched .ret ⟨trivial, .ret rfl⟩
  have h3 := h2.nextWatched (.call (.subscribe 1)) ⟨trivial, .outside rfl⟩
  have h4 := h3.nextWatched .ret ⟨trivial, .ret rfl⟩
  have h5 := h4.nextWatched (.call (.write (.push Notify.sample))) ⟨trivial, .outside rfl⟩
  have h6 := h5.nextWatched .visit ⟨trivial, .visit rfl⟩
  have h7 := h6.nextWatched .ret ⟨trivial, .ret rfl⟩
  have h8 := h7.nextWatched .visit ⟨trivial, .visit rfl⟩
  have h9 := h8.nextWatched (.call (.unsubscribe 1)) ⟨fun j g hj hg => ?_, .inside rfl⟩
  have h10 := h9.nextWatched .ret ⟨trivial, .ret rfl⟩
  have h11 := h10.nextWatched .visit ⟨trivial, .visit rfl⟩
  · exact ⟨_, rfl, rfl, rfl, notify_told h11⟩
  · -- Nobody stands behind it.
    have hlen : j < 2 := (List.getElem?_eq_some_iff.1 hg).1
    change 1 < j at hj
    omega

/-- The first of two subscribers leaves when it is told, and the second is passed over. -/
theorem notify_skipped : ¬ ∀ (s : NotifyStore Nat) (writes : List Write),
    Reachable (Watching Channel.written NotifyStore.Step) (NotifyStore.init Nat, []) (s, writes) →
      Channel.Told Write.apply [] writes s := by
  intro h
  have h0 : Reachable (Watching Channel.written NotifyStore.Step) (NotifyStore.init Nat, []) (NotifyStore.init Nat, []) := .refl
  have h1 := h0.nextWatched (.call (.subscribe 0)) (.outside rfl)
  have h2 := h1.nextWatched .ret (.ret rfl)
  have h3 := h2.nextWatched (.call (.subscribe 1)) (.outside rfl)
  have h4 := h3.nextWatched .ret (.ret rfl)
  have h5 := h4.nextWatched (.call (.write (.push Notify.sample))) (.outside rfl)
  have h6 := h5.nextWatched .visit (.visit rfl)
  have h7 := h6.nextWatched (.call (.unsubscribe 0)) (.inside rfl)
  have h8 := h7.nextWatched .ret (.ret rfl)
  have h9 := h8.nextWatched .visit (.visit rfl)
  have h10 := h9.nextWatched .visit (.visit rfl)
  have hold := (h _ _ h10).latest rfl 1 (List.mem_singleton_self 1)
  cases hold

end Tactix.Ui
