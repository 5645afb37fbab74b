import Mathlib.Data.Rat.Floor
import Tactix.Js
import Tactix.Lib.Lists
import Tactix.Lib.Paging
/-!
# The activity of an incident

`GET /incidents/:id/activity` puts the rows of three tables into one list, sorts it and cuts
it at a limit out of the query. `activity_feed_iff` says for which limits the answer is the
beginning of the list, neither empty nor over the bound.
-/
open Tactix.Js ServiceLib

namespace Tactix.IncidentSvc.Activity

/-! ## The limit -/

/-- `ToIntegerOrInfinity` of a finite number. -/
def trunc (q : Rat) : Int := if 0 ≤ q then ⌊q⌋ else ⌈q⌉

/-- `n || d`. -/
def numberOr (n d : Number) : Number :=
  match n with
  | .nan => d
  | .fin q => if q = 0 then d else n
  | _ => n

/-- `Math.min(n, m)`. -/
def mathMin (n : Number) (m : Rat) : Number :=
  match n with
  | .inf => .fin m
  | .fin q => .fin (min q m)
  | n => n

/-- How many items `slice(0, end)` takes of a list of this length. -/
def sliceLength (length : Nat) : Number → Nat
  | .nan | .negInf => 0
  | .inf => length
  | .fin q => if 0 ≤ trunc q then (trunc q).toNat else (length + trunc q).toNat

/-- `items.slice(0, end)`. -/
def sliceTo {E : Type} (items : List E) («end» : Number) : List E := items.take (sliceLength items.length «end»)

/-- `Math.min(Number(limit) || 100, 500)`; `Number(null)` is 0. -/
def activityLimit (toNumber : String → Number) (limit : Option String) : Number :=
  mathMin (numberOr ((limit.map toNumber).getD (.fin 0)) (.fin 100)) 500

/-! ## The items -/

/-- A row of the first `SELECT`. Dates are in milliseconds, as `pg` gives them. -/
structure ChatRow where
  msg_id : String
  author_upn : String
  text : String
  created_at : Int

structure WarlogRow where
  message_id : String
  author_upn : String
  content : String
  created_at : Int

structure TaskRow where
  task_id : String
  title : String
  status : String
  updated_at : Int

/-- The rows of an incident, in the orders the database gives them. -/
structure Rows where
  chat : List ChatRow
  warlog : List WarlogRow
  tasks : List TaskRow

inductive Item where
  | chat (id authorUpn text : String) (createdAt : Int)
  | warlog (id authorUpn text : String) (createdAt : Int)
  | task (id title status : String) (createdAt : Int)

def Item.createdAt : Item → Int
  | .chat _ _ _ t | .warlog _ _ _ t | .task _ _ _ t => t

def Rows.items (rows : Rows) : List Item :=
  rows.chat.map (fun r => .chat r.msg_id r.author_upn r.text r.created_at) ++
    rows.warlog.map (fun r => .warlog r.message_id r.author_upn r.content r.created_at) ++
    rows.tasks.map fun r => .task r.task_id r.title r.status r.updated_at

/-- `items.sort((a, b) => new Date(b.createdAt).getTime() - new Date(a.createdAt).getTime())`. -/
def sortItems (items : List Item) : List Item := items.mergeSort fun a b => decide (b.createdAt ≤ a.createdAt)

/-- `getActivityHandler`. -/
def getActivity (toNumber : String → Number) (limit : Option String) (rows : Rows) : List Item :=
  sliceTo (sortItems rows.items) (activityLimit toNumber limit)

/-! ## The feed -/

/-- The first items of all, newest first, between one and five hundred; and nothing left out is newer. -/
structure Feed (items answer : List Item) : Prop where
  page : ∃ k, 1 ≤ k ∧ k ≤ 500 ∧ Page Item.createdAt k items answer
  newest : ∃ left, (answer ++ left).Perm items ∧ ∀ a ∈ answer, ∀ b ∈ left, b.createdAt ≤ a.createdAt

/-- There is nothing to show; or the limit is missing, is no number, is 0 or is at least 1; or it is at most -1
and takes so many from the end that between one and five hundred stay. -/
def Cuts (toNumber : String → Number) (limit : Option String) (rows : Nat) : Prop :=
  rows = 0 ∨ ∀ text ∈ limit,
    match toNumber text with
    | .nan | .inf => True
    | .negInf => False
    | .fin q => q = 0 ∨ 1 ≤ q ∨ q ≤ -1 ∧ 1 ≤ rows + trunc q ∧ rows + trunc q ≤ 500

theorem sortItems_perm (items : List Item) : (sortItems items).Perm items := List.mergeSort_perm ..

theorem sortItems_sorted (items : List Item) : (sortItems items).Pairwise fun a b => b.createdAt ≤ a.createdAt :=
  pairwise_mergeSort_key (OrderDual.toDual ·.createdAt) items

theorem getActivity_page (toNumber : String → Number) (limit : Option String) (rows : Rows) :
    Page Item.createdAt (sliceLength rows.items.length (activityLimit toNumber limit)) rows.items
      (getActivity toNumber limit rows) := by
  refine ⟨sortItems rows.items, sortItems_perm _, sortItems_sorted _, ?_⟩
  rw [getActivity, sliceTo, (sortItems_perm _).length_eq]

/-- A page is a feed just when its length is within the bounds. -/
theorem feed_iff_length {m : Nat} {items answer : List Item} (h : Page Item.createdAt m items answer) :
    Feed items answer ↔ items.length = 0 ∨ 1 ≤ min m items.length ∧ min m items.length ≤ 500 := by
  constructor
  · rintro ⟨⟨k, hk1, hk500, hpage⟩, -⟩
    have hlen := h.length.symm.trans hpage.length
    omega
  · intro hbounds
    refine ⟨?_, h.rest⟩
    rcases hbounds with hnone | ⟨hpos, hle⟩
    · exact ⟨1, Nat.le_refl 1, by decide, h.of_min_eq (by omega)⟩
    · exact ⟨min m items.length, hpos, hle, h.of_min_eq (by omega)⟩

/-! ## Which limits cut well -/

theorem one_le_trunc {q : Rat} : 1 ≤ trunc q ↔ 1 ≤ q := by
  rw [trunc]
  split
  · rw [Int.le_floor, Int.cast_one]
  · have hceil : ⌈q⌉ ≤ 0 := Int.ceil_le.2 (by push_cast; linarith)
    exact ⟨fun h => by omega, fun h => by linarith⟩

theorem trunc_le_neg_one {q : Rat} : trunc q ≤ -1 ↔ q ≤ -1 := by
  rw [trunc]
  split
  · have hfloor : 0 ≤ ⌊q⌋ := Int.floor_nonneg.2 ‹_›
    exact ⟨fun h => by omega, fun h => by linarith⟩
  · rw [Int.ceil_le]
    push_cast
    rfl

theorem trunc_le {q : Rat} {n : Int} (h : q ≤ n) : trunc q ≤ n := by
  rw [trunc]
  split
  · exact_mod_cast (Int.floor_le q).trans h
  · exact Int.ceil_le.2 h

/-- The cut at a number that is not over the bound. -/
theorem sliceLength_iff {q : Rat} (hq : q ≤ 500) (n : Nat) :
    (n = 0 ∨ 1 ≤ min (sliceLength n (.fin q)) n ∧ min (sliceLength n (.fin q)) n ≤ 500) ↔
      n = 0 ∨ 1 ≤ q ∨ q ≤ -1 ∧ 1 ≤ n + trunc q ∧ n + trunc q ≤ 500 := by
  have hle : trunc q ≤ 500 := trunc_le (by exact_mod_cast hq)
  rw [← one_le_trunc, ← trunc_le_neg_one, sliceLength]
  split <;> omega

/-- The default and the bound are fine for any number of rows. -/
theorem sliceLength_full {q : Rat} (h1 : 1 ≤ q) (hq : q ≤ 500) (n : Nat) :
    n = 0 ∨ 1 ≤ min (sliceLength n (.fin q)) n ∧ min (sliceLength n (.fin q)) n ≤ 500 :=
  (sliceLength_iff hq n).2 (.inr (.inl h1))

theorem activityLimit_iff (toNumber : String → Number) (limit : Option String) (n : Nat) :
    (n = 0 ∨ 1 ≤ min (sliceLength n (activityLimit toNumber limit)) n ∧
      min (sliceLength n (activityLimit toNumber limit)) n ≤ 500) ↔ Cuts toNumber limit n := by
  have hdefault : mathMin (.fin 100) 500 = .fin 100 := by norm_num [mathMin]
  cases limit with
  | none =>
    have hlimit : activityLimit toNumber none = .fin 100 := by simpa [activityLimit, numberOr] using hdefault
    rw [hlimit]
    exact iff_of_true (sliceLength_full (by norm_num) (by norm_num) n) (.inr fun _ ht => absurd ht (Option.not_mem_none _))
  | some text =>
    rw [activityLimit, Cuts, Option.map_some, Option.getD_some]
    simp only [Option.mem_some_iff, forall_eq']
    cases toNumber text with
    | nan =>
      rw [numberOr, hdefault]
      exact iff_of_true (sliceLength_full (by norm_num) (by norm_num) n) (.inr trivial)
    | inf => exact iff_of_true (sliceLength_full (by norm_num) (by norm_num) n) (.inr trivial)
    | negInf =>
      simp [numberOr, mathMin, sliceLength]
    | fin q =>
      by_cases hzero : q = 0
      · rw [numberOr, if_pos hzero, hdefault]
        exact iff_of_true (sliceLength_full (by norm_num) (by norm_num) n) (.inr (.inl hzero))
      · rw [numberOr, if_neg hzero, mathMin, sliceLength_iff (min_le_right q 500)]
        rcases le_total q 500 with hle | hge
        · simp only [min_eq_left hle, hzero, false_or]
        · have h1 : 1 ≤ q := by linarith
          rw [min_eq_right hge]
          exact iff_of_true (.inr (.inl (by norm_num))) (.inr (.inr (.inl h1)))

/-- The answer is a feed just when there is nothing to show or the limit cuts well. -/
theorem activity_feed_iff (toNumber : String → Number) (limit : Option String) (rows : Rows) :
    Feed rows.items (getActivity toNumber limit rows) ↔ Cuts toNumber limit rows.items.length := by
  rw [feed_iff_length (getActivity_page toNumber limit rows), activityLimit_iff]

/-- One message, and a limit that takes one from the end. -/
theorem activity_empty : ¬ ∀ (toNumber : String → Number), toNumber "-1" = .fin (-1) → ∀ (limit : Option String) (rows : Rows),
    Feed rows.items (getActivity toNumber limit rows) := by
  intro h
  obtain ⟨k, hk1, -, hpage⟩ := (h (fun _ => .fin (-1)) rfl (some "-1")
    ⟨[⟨"m1", "ana", "Fire", 1755424800000⟩], [], []⟩).page
  have hlen := hpage.length
  rw [(getActivity_page _ _ _).length] at hlen
  norm_num [Rows.items, sliceLength, activityLimit, numberOr, mathMin, trunc] at hlen
  omega

end Tactix.IncidentSvc.Activity
