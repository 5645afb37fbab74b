import Mathlib.Data.List.Basic
/-!
# Base64

Three bytes are written as four digits of six bits, and what is left at the end is
filled up with `=`. A reader takes both alphabets, passes over any other character and
stops at the first `=`. `unbase64_base64` is the round trip.
-/

namespace ServiceLib

def base64Alphabet : List Char := "ABCDEFGHIJKLMNOPQRSTUVWXYZabcdefghijklmnopqrstuvwxyz0123456789+/".toList

def base64Digit (n : Nat) : Char := base64Alphabet.getD n 'A'

/-- The value of a digit; `-` and `_` are those of the other alphabet. -/
def base64Value (c : Char) : Option Nat :=
  if c = '-' then some 62 else if c = '_' then some 63 else base64Alphabet.idxOf? c

/-- The digits of some bytes. -/
def sextets : List UInt8 → List Nat
  | a :: b :: c :: rest => a.toNat / 4 :: (a.toNat % 4 * 16 + b.toNat / 16) :: (b.toNat % 16 * 4 + c.toNat / 64) ::
      c.toNat % 64 :: sextets rest
  | [a, b] => [a.toNat / 4, a.toNat % 4 * 16 + b.toNat / 16, b.toNat % 16 * 4]
  | [a] => [a.toNat / 4, a.toNat % 4 * 16]
  | [] => []

/-- The bytes of some digits; bits that fill no byte are dropped. -/
def octets : List Nat → List UInt8
  | p :: q :: r :: s :: rest =>
      .ofNat (p * 4 + q / 16) :: .ofNat (q % 16 * 16 + r / 4) :: .ofNat (r % 4 * 64 + s) :: octets rest
  | [p, q, r] => [.ofNat (p * 4 + q / 16), .ofNat (q % 16 * 16 + r / 4)]
  | [p, q] => [.ofNat (p * 4 + q / 16)]
  | _ => []

/-- How many `=` follow the digits of that many bytes. -/
def padding (n : Nat) : List Char := List.replicate ((3 - n % 3) % 3) '='

def base64 (bytes : List UInt8) : List Char := (sextets bytes).map base64Digit ++ padding bytes.length

def unbase64 (s : List Char) : List UInt8 := octets ((s.takeWhile (· ≠ '=')).filterMap base64Value)

/-! ## The round trip -/

theorem base64Value_digit : ∀ n, n < 64 → base64Value (base64Digit n) = some n := by decide +kernel

theorem base64Digit_ne : ∀ n, n < 64 → base64Digit n ≠ '=' := by decide +kernel

theorem sextets_lt (bytes : List UInt8) : ∀ n ∈ sextets bytes, n < 64 := by
  fun_induction sextets bytes with
  | case1 a b c rest ih =>
    have ha := a.toNat_lt
    have hb := b.toNat_lt
    have hc := c.toNat_lt
    simp only [List.forall_mem_cons]
    refine ⟨?_, ?_, ?_, ?_, ih⟩ <;> omega
  | case2 a b =>
    have ha := a.toNat_lt
    have hb := b.toNat_lt
    simp only [List.forall_mem_cons]
    refine ⟨?_, ?_, ?_, by simp⟩ <;> omega
  | case3 a =>
    have ha := a.toNat_lt
    simp only [List.forall_mem_cons]
    refine ⟨?_, ?_, by simp⟩ <;> omega
  | case4 => simp

/-- A byte out of the two digits it was cut into. -/
theorem ofNat_eq {a : UInt8} {n : Nat} (h : n = a.toNat) : UInt8.ofNat n = a := by
  rw [h, UInt8.ofNat_toNat]

theorem octets_sextets (bytes : List UInt8) : octets (sextets bytes) = bytes := by
  fun_induction sextets bytes with
  | case1 a b c rest ih =>
    have ha := a.toNat_lt
    have hb := b.toNat_lt
    have hc := c.toNat_lt
    rw [octets, ih, ofNat_eq (a := a) (by omega), ofNat_eq (a := b) (by omega), ofNat_eq (a := c) (by omega)]
  | case2 a b =>
    have ha := a.toNat_lt
    have hb := b.toNat_lt
    rw [octets, ofNat_eq (a := a) (by omega), ofNat_eq (a := b) (by omega)]
  | case3 a =>
    have ha := a.toNat_lt
    rw [octets, ofNat_eq (a := a) (by omega)]
  | case4 => rfl

/-- Digits are read back, and the padding ends them. -/
theorem unbase64_digits {ns : List Nat} (h : ∀ n ∈ ns, n < 64) (k : Nat) :
    unbase64 (ns.map base64Digit ++ List.replicate k '=') = octets ns := by
  have hne : ∀ c ∈ ns.map base64Digit, decide (c ≠ '=') = true := by
    rw [List.forall_mem_map]
    exact fun n hn => decide_eq_true (base64Digit_ne n (h n hn))
  have hpad : (List.replicate k '=').takeWhile (· ≠ '=') = [] := by
    cases k <;> rfl
  have hvalues : (ns.map base64Digit).filterMap base64Value = ns := by
    rw [List.filterMap_map]
    conv_rhs => rw [← List.filterMap_some (l := ns)]
    exact List.filterMap_congr fun n hn => base64Value_digit n (h n hn)
  rw [unbase64, List.takeWhile_append_of_pos hne, hpad, List.append_nil, hvalues]

theorem unbase64_base64 (bytes : List UInt8) : unbase64 (base64 bytes) = bytes :=
  (unbase64_digits (sextets_lt bytes) _).trans (octets_sextets bytes)

theorem base64_ne_nil {bytes : List UInt8} (h : bytes ≠ []) : base64 bytes ≠ [] := by
  intro hnil
  have hround := unbase64_base64 bytes
  rw [hnil] at hround
  exact h hround.symm

/-- The three ends there are. -/
example : base64 [77, 97, 110] = "TWFu".toList ∧ base64 [77, 97] = "TWE=".toList ∧ base64 [77] = "TQ==".toList := by decide

end ServiceLib
