import Tactix.Lib.EventLoop
/-!
# Reading that a place is free, and taking it later

A caller is told that a place is free and takes it in a step of its own. `Reserved.take` says
that what the others were told still holds then, as long as no two were told so of rival places.
-/

namespace ServiceLib

variable {K H D : Type}

/-- What the callers were told holds, and no two of them were told so of rivals. -/
structure Reserved (IsFree : K → D → Prop) (Told : K → H → Prop) (Rival : K → K → Prop) (d : D) (asked : Nat → Option H) :
    Prop where
  free : ∀ i h k, asked i = some h → Told k h → IsFree k d
  alone : ∀ i j h h' k k', i ≠ j → asked i = some h → asked j = some h' → Told k h → Told k' h' → ¬ Rival k k'

namespace Reserved

variable {IsFree : K → D → Prop} {Told : K → H → Prop} {Rival : K → K → Prop} {d d' : D} {asked : Nat → Option H} {i : Nat}
  {h h' : H}

/-- Someone is told of places without a rival. -/
theorem told (hr : Reserved IsFree Told Rival d asked) (hsymm : ∀ k k', Rival k k' → Rival k' k)
    (hfree : ∀ k, Told k h → IsFree k d)
    (hno : ∀ k, Told k h → ∀ j h' k', j ≠ i → asked j = some h' → Told k' h' → ¬ Rival k k') :
    Reserved IsFree Told Rival d (Function.update asked i (some h)) := by
  refine ⟨fun j h' k hj hk => ?_, fun j l h' h'' k k' hne hj hl hk hk' => ?_⟩
  · rcases update_cases hj with ⟨rfl, rfl⟩ | ⟨-, hj⟩
    · exact hfree k hk
    · exact hr.free j h' k hj hk
  · rcases update_cases hj with ⟨rfl, rfl⟩ | ⟨hji, hold⟩ <;> rcases update_cases hl with ⟨rfl, rfl⟩ | ⟨hli, hold'⟩
    · exact absurd rfl hne
    · exact hno k hk l h'' k' hli hold' hk'
    · exact fun hrival => hno k' hk' j h' k hji hold hk (hsymm k k' hrival)
    · exact hr.alone j l h' h'' k k' hne hold hold' hk hk'

/-- Someone has no place to take, and the others' are still free. -/
theorem keep (hr : Reserved IsFree Told Rival d asked) (hnone : ∀ k, ¬ Told k h)
    (hothers : ∀ j h' k, j ≠ i → asked j = some h' → Told k h' → IsFree k d') :
    Reserved IsFree Told Rival d' (Function.update asked i (some h)) := by
  have hold : ∀ j h' k, Function.update asked i (some h) j = some h' → Told k h' → j ≠ i ∧ asked j = some h' := by
    intro j h' k hj hk
    rcases update_cases hj with ⟨rfl, rfl⟩ | hj
    · exact absurd hk (hnone k)
    · exact hj
  refine ⟨fun j h' k hj hk => ?_, fun j l h' h'' k k' hne hj hl hk hk' => ?_⟩
  · obtain ⟨hji, hj⟩ := hold j h' k hj hk
    exact hothers j h' k hji hj hk
  · exact hr.alone j l h' h'' k k' hne (hold j h' k hj hk).2 (hold l h'' k' hl hk').2 hk hk'

theorem forget (hr : Reserved IsFree Told Rival d asked) (hnone : ∀ k, ¬ Told k h) :
    Reserved IsFree Told Rival d (Function.update asked i (some h)) :=
  hr.keep hnone fun j h' k _ hj hk => hr.free j h' k hj hk

/-- Someone takes the place; the others were told of no rival of it. -/
theorem take {k : K} (hr : Reserved IsFree Told Rival d asked) (hi : asked i = some h) (hk : Told k h)
    (htake : ∀ k', IsFree k' d → ¬ Rival k k' → IsFree k' d') (hnone : ∀ k, ¬ Told k h') :
    Reserved IsFree Told Rival d' (Function.update asked i (some h')) := by
  refine hr.keep hnone fun j h'' k' hji hj hk' => htake k' (hr.free j h'' k' hj hk') ?_
  exact hr.alone i j h h'' k k' hji.symm hi hj hk hk'

/-- Nothing that was free is taken. -/
theorem sub (hr : Reserved IsFree Told Rival d asked) (hsub : ∀ k, IsFree k d → IsFree k d') :
    Reserved IsFree Told Rival d' asked :=
  ⟨fun i h k hi hk => hsub k (hr.free i h k hi hk), hr.alone⟩

end Reserved

end ServiceLib
