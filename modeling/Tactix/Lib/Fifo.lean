import Mathlib.Data.List.Nodup
import Tactix.Lib.Lists
/-!
# Queues that may drop what they hold

A history of marks moves a queue: an item arrives at the back, the front one
is delivered, or everything in the queue is dropped at once. Whatever the
history, what was delivered and what is still queued is what arrived, in
order, without what was dropped (`Fifo.delivered_queued`).
-/

namespace ServiceLib

variable {α κ : Type}

inductive Mark (α : Type) where
  | arrived (a : α)
  | delivered (a : α)
  | dropped (items : List α)

def arrivals (h : List (Mark α)) : List α := h.filterMap fun | .arrived a => some a | _ => none

def deliveries (h : List (Mark α)) : List α := h.filterMap fun | .delivered a => some a | _ => none

def drops (h : List (Mark α)) : List α := h.flatMap fun | .dropped items => items | _ => []

theorem arrivals_append (h h' : List (Mark α)) : arrivals (h ++ h') = arrivals h ++ arrivals h' :=
  List.filterMap_append

section Marks
variable (h : List (Mark α)) (a : α) (items : List α)

@[simp] theorem arrivals_arrived : arrivals (h ++ [.arrived a]) = arrivals h ++ [a] := by simp [arrivals]
@[simp] theorem arrivals_delivered : arrivals (h ++ [.delivered a]) = arrivals h := by simp [arrivals]
@[simp] theorem arrivals_dropped : arrivals (h ++ [.dropped items]) = arrivals h := by simp [arrivals]

@[simp] theorem deliveries_arrived : deliveries (h ++ [.arrived a]) = deliveries h := by simp [deliveries]
@[simp] theorem deliveries_delivered : deliveries (h ++ [.delivered a]) = deliveries h ++ [a] := by simp [deliveries]
@[simp] theorem deliveries_dropped : deliveries (h ++ [.dropped items]) = deliveries h := by simp [deliveries]

@[simp] theorem drops_arrived : drops (h ++ [.arrived a]) = drops h := by simp [drops]
@[simp] theorem drops_delivered : drops (h ++ [.delivered a]) = drops h := by simp [drops]
@[simp] theorem drops_dropped : drops (h ++ [.dropped items]) = drops h ++ items := by simp [drops]

end Marks

/-- What a mark does to the queue. -/
inductive Moves : List α → Mark α → List α → Prop
  | arrive {q : List α} {a : α} : Moves q (.arrived a) (q ++ [a])
  | deliver {q : List α} {a : α} : Moves (a :: q) (.delivered a) q
  | drop {q : List α} : Moves q (.dropped q) []

/-- The history leaves this queue. -/
inductive Fifo : List (Mark α) → List α → Prop
  | nil : Fifo [] []
  | snoc {h : List (Mark α)} {q q' : List α} {m : Mark α} : Fifo h q → Moves q m q' → Fifo (h ++ [m]) q'

namespace Fifo

/-- The queue at an earlier mark. -/
theorem split {h₁ h₂ : List (Mark α)} {m : Mark α} {q : List α} (hf : Fifo (h₁ ++ m :: h₂) q) :
    ∃ q₁ q₂, Fifo h₁ q₁ ∧ Moves q₁ m q₂ := by
  generalize hh : h₁ ++ m :: h₂ = h at hf
  induction hf generalizing h₂ with
  | nil => simp at hh
  | @snoc h q q' m' hf hm ih =>
    rcases snoc_eq_append_cons hh.symm with ⟨-, rfl, rfl⟩ | ⟨t, -, ht⟩
    · exact ⟨q, q', hf, hm⟩
    · exact ih ht.symm

/-- A drop takes the whole queue of that moment. -/
theorem of_dropped {h₁ h₂ : List (Mark α)} {items q : List α} (hf : Fifo (h₁ ++ .dropped items :: h₂) q) :
    Fifo h₁ items := by
  obtain ⟨q₁, _, h₁, hm⟩ := hf.split
  cases hm
  exact h₁

/-- Nothing comes out that has not arrived. -/
theorem subset_arrivals {h : List (Mark α)} {q : List α} (hf : Fifo h q) :
    deliveries h ⊆ arrivals h ∧ drops h ⊆ arrivals h ∧ q ⊆ arrivals h := by
  induction hf with
  | nil => simp [deliveries, drops]
  | @snoc h q q' m _ hm ih =>
    obtain ⟨hd, hx, hq⟩ := ih
    cases hm with
    | arrive =>
      simp only [deliveries_arrived, drops_arrived, arrivals_arrived]
      exact ⟨List.subset_append_of_subset_left _ hd, List.subset_append_of_subset_left _ hx,
        List.append_subset.2 ⟨List.subset_append_of_subset_left _ hq, List.subset_append_right _ _⟩⟩
    | deliver =>
      simp only [deliveries_delivered, drops_delivered, arrivals_delivered]
      rw [List.cons_subset] at hq
      exact ⟨List.append_subset.2 ⟨hd, by simpa using hq.1⟩, hx, hq.2⟩
    | drop =>
      simp only [deliveries_dropped, drops_dropped, arrivals_dropped]
      exact ⟨hd, List.append_subset.2 ⟨hx, hq⟩, List.nil_subset _⟩

/-- What was delivered, then what is queued, is what arrived and was not
dropped, in the order of arrival. `key` tells the items apart. -/
theorem delivered_queued [DecidableEq κ] (key : α → κ) {h : List (Mark α)} {q : List α} (hf : Fifo h q)
    (hn : ((arrivals h).map key).Nodup) :
    deliveries h ++ q = (arrivals h).filter fun a => key a ∉ (drops h).map key := by
  induction hf with
  | nil => rfl
  | @snoc h q q' m hf hm ih =>
    cases hm with
    | @arrive _ a =>
      rw [arrivals_arrived, List.map_append, List.nodup_append] at hn
      obtain ⟨hn, -, hdis⟩ := hn
      have hnew : key a ∉ (drops h).map key := fun hm =>
        hdis _ (List.map_subset key hf.subset_arrivals.2.1 hm) _ (by simp) rfl
      have hkeep : [a].filter (fun a => key a ∉ (drops h).map key) = [a] := List.filter_eq_self.2 (by simpa using hnew)
      rw [deliveries_arrived, drops_arrived, arrivals_arrived, List.filter_append, ← ih hn, hkeep, List.append_assoc]
    | deliver =>
      rw [arrivals_delivered] at hn
      rw [deliveries_delivered, drops_delivered, arrivals_delivered, ← ih hn, List.append_assoc]
      rfl
    | drop =>
      -- The keys still queued are not among those delivered, so the new drops take exactly the queue.
      rw [arrivals_dropped] at hn
      have hall := ih hn
      have hkeys : ((deliveries h ++ q).map key).Nodup := by
        rw [hall]; exact hn.sublist (List.filter_sublist.map key)
      rw [List.map_append, List.nodup_append] at hkeys
      have hsplit : (arrivals h).filter (fun a => key a ∉ (drops h ++ q).map key) =
          (deliveries h ++ q).filter fun a => key a ∉ q.map key := by
        rw [hall, List.filter_filter]
        refine List.filter_congr fun a _ => ?_
        simp only [List.map_append, List.mem_append, not_or, Bool.decide_and, Bool.and_comm]
      rw [deliveries_dropped, drops_dropped, arrivals_dropped, hsplit, List.append_nil, List.filter_append]
      have hd : (deliveries h).filter (fun a => key a ∉ q.map key) = deliveries h :=
        List.filter_eq_self.2 fun a ha => by
          have := hkeys.2.2 _ (List.mem_map_of_mem ha)
          simpa using fun x hx e => this _ (List.mem_map_of_mem hx) e.symm
      have hq : q.filter (fun a => key a ∉ q.map key) = [] :=
        List.filter_eq_nil_iff.2 fun a ha => by simpa using ⟨a, ha, rfl⟩
      rw [hd, hq, List.append_nil]

end Fifo

end ServiceLib
