import Tactix.Files
import Tactix.IncidentSvc.Bodies
import Tactix.Lib.Occurs
/-!
# Cutting a body

The pieces a text is cut into at its separators, what the patterns of `readMultipart`
find in a text, and which characters arrive where a text is sent in UTF-8 and read
byte by byte.
-/
open Tactix.Js ServiceLib

namespace Tactix.IncidentSvc.Listener

/-! ## Cutting at a separator -/

theorem splitText_skip (sep u rest : List Char) : splitText sep u.length [] (u ++ rest) = splitText sep 0 [] rest := by
  induction u with
  | nil => rfl
  | cons c u ih => exact ih

theorem splitText_cons (sep acc : List Char) (c : Char) (cs : List Char) : splitText sep 0 acc (c :: cs) =
    if sep.isPrefixOf (c :: cs) then acc.reverse :: splitText sep (sep.length - 1) [] cs
    else splitText sep 0 (c :: acc) cs := rfl

/-- The text up to the first separator is a piece, and the rest is cut by itself. -/
theorem splitText_clear {sep p : List Char} (hsep : sep ≠ []) (hp : Clear sep p) (acc rest : List Char) :
    splitText sep 0 acc (p ++ sep ++ rest) = (acc.reverse ++ p) :: splitText sep 0 [] rest := by
  induction p generalizing acc with
  | nil =>
    obtain ⟨c, u, rfl⟩ := List.exists_cons_of_ne_nil hsep
    have hpre : (c :: u).isPrefixOf (c :: (u ++ rest)) = true :=
      List.isPrefixOf_iff_prefix.2 ⟨rest, by rw [List.cons_append]⟩
    simp only [List.nil_append, List.cons_append, List.append_nil]
    rw [splitText_cons, if_pos hpre, List.length_cons, Nat.add_sub_cancel, splitText_skip]
  | cons c p ih =>
    have hpre : ¬ sep.isPrefixOf (c :: (p ++ sep ++ rest)) = true :=
      fun h => hp.not_prefix rest (List.isPrefixOf_iff_prefix.1 h)
    simp only [List.cons_append]
    rw [splitText_cons, if_neg hpre, ih hp.tail, List.reverse_cons, List.append_assoc, List.singleton_append]

/-- A text without the separator is one piece. -/
theorem splitText_whole {sep s : List Char} (h : ¬ sep <:+: s) (acc : List Char) :
    splitText sep 0 acc s = [acc.reverse ++ s] := by
  induction s generalizing acc with
  | nil => rw [List.append_nil]; rfl
  | cons c s ih =>
    rw [List.infix_cons_iff, not_or] at h
    have hpre : ¬ sep.isPrefixOf (c :: s) = true := fun hp => h.1 (List.isPrefixOf_iff_prefix.1 hp)
    rw [splitText_cons, if_neg hpre, ih h.2, List.reverse_cons, List.append_assoc, List.singleton_append]

theorem exists_splitText (sep s : List Char) : ∃ tail more, splitText sep 0 [] s = tail :: more := by
  suffices haux : ∀ skip acc, splitText sep skip acc s ≠ [] from List.exists_cons_of_ne_nil (haux 0 [])
  induction s with
  | nil =>
    intro skip acc
    unfold splitText
    exact List.cons_ne_nil _ _
  | cons c s ih =>
    intro skip acc
    cases skip with
    | zero =>
      rw [splitText_cons]
      split
      · exact List.cons_ne_nil _ _
      · exact ih _ _
    | succ skip => exact ih _ _

/-- Texts joined by separators are the pieces again. -/
theorem splitText_joined {sep last : List Char} (hsep : sep ≠ []) (hlast : ¬ sep <:+: last) {p : List Char} {ps : List (List Char)}
    (h : ∀ q ∈ p :: ps, Clear sep q) :
    splitText sep 0 [] (p ++ (ps.flatMap (sep ++ ·) ++ (sep ++ last))) = p :: (ps ++ [last]) := by
  induction ps generalizing p with
  | nil =>
    rw [List.flatMap_nil, List.nil_append, ← List.append_assoc, splitText_clear hsep (h p (List.mem_cons_self ..)),
      splitText_whole hlast]
    rfl
  | cons q ps ih =>
    rw [List.forall_mem_cons] at h
    have happ : p ++ ((q :: ps).flatMap (sep ++ ·) ++ (sep ++ last)) =
        p ++ sep ++ (q ++ (ps.flatMap (sep ++ ·) ++ (sep ++ last))) := by
      simp only [List.flatMap_cons, List.append_assoc]
    rw [happ, splitText_clear hsep h.1, ih h.2]
    rfl

/-- A separator in the text is in no piece. -/
theorem not_infix_of_mem_splitText {sep s piece : List Char} (hsep : sep ≠ []) (h : piece ∈ splitText sep 0 [] s) :
    ¬ sep <:+: piece := by
  induction hn : s.length using Nat.strong_induction_on generalizing s with
  | _ n ih =>
    by_cases hin : sep <:+: s
    · obtain ⟨p, rest, rfl, hp⟩ := exists_clear hsep hin
      rw [splitText_clear hsep hp] at h
      rcases List.mem_cons.1 h with rfl | h
      · exact hp.not_infix
      · refine ih rest.length ?_ h rfl
        have := List.length_pos_of_ne_nil hsep
        simp only [List.length_append] at hn
        omega
    · rw [splitText_whole hin, List.mem_singleton] at h
      exact h ▸ hin

/-! ## What a pattern finds -/

theorem search_none {β : Type} {pattern : List Char → Option β} {s : List Char}
    (h : ∀ t, t <:+ s → pattern t = none) : search pattern s = none := by
  induction s with
  | nil => exact h [] (List.suffix_refl [])
  | cons c s ih =>
    rw [search, h _ (List.suffix_refl _), Option.none_or]
    exact ih fun t ht => h t (ht.trans (List.suffix_cons c s))

theorem search_some {β : Type} {pattern : List Char → Option β} {s : List Char} {b : β} (h : search pattern s = some b) :
    ∃ t, t <:+ s ∧ pattern t = some b := by
  induction s with
  | nil => exact ⟨[], List.suffix_refl [], h⟩
  | cons c s ih =>
    unfold search at h
    rcases Option.or_eq_some_iff.1 h with h | ⟨-, h⟩
    · exact ⟨_, List.suffix_refl _, h⟩
    · obtain ⟨t, ht, hb⟩ := ih h
      exact ⟨t, ht.trans (List.suffix_cons c s), hb⟩

/-- What a group captured: it is not empty, does not hold `stop`, and stands behind `start`. -/
theorem capture_some {start : String} {stop : Char} {closed : Bool} {s group : List Char}
    (h : capture start stop closed s = some group) :
    group ≠ [] ∧ stop ∉ group ∧ ∃ rest, s = start.toList ++ group ++ rest ∧ (closed = true → ∃ more, rest = stop :: more) := by
  unfold capture at h
  split at h
  · rename_i hpre
    obtain ⟨rest, rfl⟩ := List.isPrefixOf_iff_prefix.1 hpre
    rw [List.drop_left] at h
    dsimp only at h
    split at h
    · cases h
    · rename_i hne
      simp only [Bool.or_eq_true, decide_eq_true_eq, Bool.and_eq_true, not_or, not_and] at hne
      cases h
      refine ⟨hne.1, fun hm => by simpa using List.all_eq_true.1 List.all_takeWhile _ hm, rest.dropWhile (· ≠ stop), ?_, fun hc => ?_⟩
      · rw [List.append_assoc, List.takeWhile_append_dropWhile]
      · have hrest : rest.dropWhile (· ≠ stop) ≠ [] := by
          intro he
          have := congrArg List.length (List.takeWhile_append_dropWhile (p := (· ≠ stop)) (l := rest))
          rw [he, List.append_nil] at this
          exact hne.2 hc this
        obtain ⟨c, more, hmore⟩ := List.exists_cons_of_ne_nil hrest
        have hhead : (rest.dropWhile (· ≠ stop)).head hrest = stop := by
          simpa using List.head_dropWhile_not (· ≠ stop) hrest
        simp only [hmore, List.head_cons] at hhead
        exact ⟨more, by rw [hmore, hhead]⟩
  · cases h

theorem search_capture_some {start : String} {stop : Char} {closed : Bool} {s group : List Char}
    (h : search (capture start stop closed) s = some group) : group ≠ [] ∧ group <:+: s := by
  obtain ⟨t, ht, hgroup⟩ := search_some h
  obtain ⟨hne, -, rest, rfl, -⟩ := capture_some hgroup
  exact ⟨hne, List.IsInfix.trans ⟨_, _, rfl⟩ ht.isInfix⟩

/-- The pattern finds nothing before the first `start`. -/
theorem search_clear {start : String} {pre rest : List Char} (hpre : Clear start.toList pre) (stop : Char) (closed : Bool) :
    search (capture start stop closed) (pre ++ start.toList ++ rest) =
      search (capture start stop closed) (start.toList ++ rest) := by
  induction pre with
  | nil => rfl
  | cons c pre ih =>
    have hnot : ¬ start.toList.isPrefixOf (c :: pre ++ start.toList ++ rest) = true :=
      fun h => hpre.not_prefix rest (List.isPrefixOf_iff_prefix.1 h)
    simp only [List.cons_append] at hnot ⊢
    rw [search, capture, if_neg hnot, Option.none_or]
    exact ih hpre.tail

theorem search_of_capture {start : String} {stop : Char} {closed : Bool} {s group : List Char}
    (h : capture start stop closed s = some group) : search (capture start stop closed) s = some group := by
  cases s with
  | nil => exact h
  | cons c s => rw [search, h, Option.some_or]

/-- A group is captured up to the next `stop`. -/
theorem capture_group {start : String} {stop : Char} {group : List Char} (hne : group ≠ []) (hstop : stop ∉ group)
    (more : List Char) : capture start stop true (start.toList ++ (group ++ stop :: more)) = some group := by
  have hgroup := takeWhile_cut hstop more
  unfold capture
  rw [if_pos (List.isPrefixOf_iff_prefix.2 (List.prefix_append _ _)), List.drop_left]
  dsimp only
  rw [hgroup]
  simp [hne]

/-- Without a `stop`, up to the end. -/
theorem capture_end (start : String) {stop : Char} {group : List Char} (hne : group ≠ []) (hstop : stop ∉ group) :
    capture start stop false (start.toList ++ group) = some group := by
  have hgroup := takeWhile_of_notMem hstop
  unfold capture
  rw [if_pos (List.isPrefixOf_iff_prefix.2 (List.prefix_append _ _)), List.drop_left]
  dsimp only
  rw [hgroup]
  simp [hne]

/-! ## A text as it arrives -/

/-- A text sent in UTF-8 and read byte by byte. -/
def sent (s : String) : List Char := binary (utf8 s)

theorem binary_append (a b : Buffer) : binary (a ++ b) = binary a ++ binary b := List.map_append

theorem ofUInt8_toUInt8 {c : Char} (h : c.toNat < 256) : Char.ofUInt8 c.toUInt8 = c := by
  apply Char.ext
  apply UInt32.toNat_inj.1
  show (c.val.toUInt8.toUInt32).toNat = c.val.toNat
  unfold Char.toNat at h
  rw [UInt8.toNat_toUInt32, UInt32.toNat_toUInt8]
  omega

theorem binary_ofBinary {s : List Char} (h : ∀ c ∈ s, c.toNat < 256) : binary (ofBinary s) = s := by
  unfold binary ofBinary
  rw [List.map_map]
  calc s.map (Char.ofUInt8 ∘ Char.toUInt8) = s.map id := List.map_congr_left fun c hc => ofUInt8_toUInt8 (h c hc)
    _ = s := List.map_id s

theorem sent_append (s t : String) : sent (s ++ t) = sent s ++ sent t := by
  rw [sent, utf8_append, binary_append]
  rfl

theorem sent_flatMap (s : String) : sent s = s.toList.flatMap fun c => binary (String.utf8EncodeChar c) := by
  rw [sent, utf8_toList, binary, List.map_flatMap]
  rfl

theorem sent_char_ascii {c : Char} (h : c.toNat < 128) : binary (String.utf8EncodeChar c) = [c] := by
  rw [utf8EncodeChar_ascii h]
  exact congrArg (· :: []) (ofUInt8_toUInt8 (by omega))

/-- No ASCII character arrives where another one was sent. -/
theorem sent_char_not_ascii {c : Char} (h : ¬ c.toNat < 128) :
    2 ≤ (binary (String.utf8EncodeChar c)).length ∧ ∀ x ∈ binary (String.utf8EncodeChar c), ¬ x.toNat < 128 := by
  obtain ⟨hlen, hbytes⟩ := utf8EncodeChar_not_ascii h
  refine ⟨by rw [binary, List.length_map]; exact hlen, fun x hx => ?_⟩
  obtain ⟨b, hb, rfl⟩ := List.mem_map.1 hx
  have := hbytes b hb
  show ¬ b.toUInt32.toNat < 128
  rw [UInt8.toNat_toUInt32]
  omega

theorem sent_ascii {s : String} (h : Ascii s) : sent s = s.toList := by
  rw [sent_flatMap]
  calc s.toList.flatMap (fun c => binary (String.utf8EncodeChar c)) = s.toList.flatMap fun c => [c] :=
        List.flatMap_congr fun c hc => sent_char_ascii (h c hc)
    _ = s.toList := by simp

/-- As many characters arrive as are sent or more, and not more only when all are in ASCII. -/
theorem length_sent (l : List Char) : l.length ≤ (l.flatMap fun c => binary (String.utf8EncodeChar c)).length ∧
    ((l.flatMap fun c => binary (String.utf8EncodeChar c)).length = l.length → ∀ c ∈ l, c.toNat < 128) := by
  induction l with
  | nil => simp
  | cons c l ih =>
    obtain ⟨hle, hall⟩ := ih
    rw [List.flatMap_cons, List.length_append, List.length_cons]
    by_cases hc : c.toNat < 128
    · rw [sent_char_ascii hc, List.length_singleton]
      refine ⟨by omega, fun he => ?_⟩
      rw [List.forall_mem_cons]
      exact ⟨hc, hall (by omega)⟩
    · have := (sent_char_not_ascii hc).1
      exact ⟨by omega, fun he => by omega⟩

theorem sent_eq_iff (s : String) : sent s = s.toList ↔ Ascii s := by
  refine ⟨fun h => ?_, sent_ascii⟩
  rw [sent_flatMap] at h
  exact (length_sent s.toList).2 (congrArg List.length h)

theorem sent_ne_nil {s : String} (h : s ≠ "") : sent s ≠ [] := by
  intro he
  have hlen := (length_sent s.toList).1
  rw [← sent_flatMap, he, List.length_nil, Nat.le_zero, List.length_eq_zero_iff] at hlen
  exact h (String.toList_inj.1 hlen)

/-- An ASCII character arrives where it was sent. -/
theorem mem_sent {x : Char} (hx : x.toNat < 128) {s : String} (h : x ∈ sent s) : x ∈ s.toList := by
  rw [sent_flatMap] at h
  obtain ⟨c, hc, hxc⟩ := List.mem_flatMap.1 h
  by_cases hascii : c.toNat < 128
  · rw [sent_char_ascii hascii, List.mem_singleton] at hxc
    exact hxc ▸ hc
  · exact absurd hx ((sent_char_not_ascii hascii).2 x hxc)

theorem prefix_sent {t l : List Char} (ht : ∀ x ∈ t, x.toNat < 128)
    (h : t <+: l.flatMap fun c => binary (String.utf8EncodeChar c)) : t <+: l := by
  induction l generalizing t with
  | nil => exact h
  | cons c l ih =>
    cases t with
    | nil => exact List.nil_prefix
    | cons x t =>
      rw [List.forall_mem_cons] at ht
      rw [List.flatMap_cons] at h
      by_cases hc : c.toNat < 128
      · rw [sent_char_ascii hc, List.singleton_append, List.cons_prefix_cons] at h
        exact List.cons_prefix_cons.2 ⟨h.1, ih ht.2 h.2⟩
      · obtain ⟨hlen, hall⟩ := sent_char_not_ascii hc
        cases hb : binary (String.utf8EncodeChar c) with
        | nil =>
          rw [hb] at hlen
          simp at hlen
        | cons y rest =>
          rw [hb, List.cons_append, List.cons_prefix_cons] at h
          exact absurd ht.1 (hall x (by rw [hb, h.1]; exact List.mem_cons_self ..))

/-- An ASCII text arrives where it was sent. -/
theorem infix_of_infix_sent {t : List Char} (ht : ∀ x ∈ t, x.toNat < 128) (hne : t ≠ []) {s : String}
    (h : t <:+: sent s) : t <:+: s.toList := by
  rw [sent_flatMap] at h
  generalize s.toList = l at h ⊢
  induction l with
  | nil => exact h
  | cons c l ih =>
    rw [List.flatMap_cons] at h
    by_cases hc : c.toNat < 128
    · rw [sent_char_ascii hc, List.singleton_append] at h
      rcases List.infix_cons_iff.1 h with h | h
      · refine (prefix_sent (l := c :: l) ht ?_).isInfix
        rw [List.flatMap_cons, sent_char_ascii hc]
        exact h
      · exact List.infix_cons_iff.2 (.inr (ih h))
    · obtain ⟨x, t, rfl⟩ := List.exists_cons_of_ne_nil hne
      rw [List.forall_mem_cons] at ht
      have hx : x ∉ binary (String.utf8EncodeChar c) := fun hm => (sent_char_not_ascii hc).2 x hm ht.1
      exact List.infix_cons_iff.2 (.inr (ih (infix_append_of_notMem hx h)))

end Tactix.IncidentSvc.Listener
