import Tactix.JsonRoundTrip
/-!
# Texts in files

Bytes of a text and the text of some bytes. `JSON.stringify` into a file and
`JSON.parse` out of it give the value back.
-/

namespace Tactix.Js

/-- How numbers are written, and what the decoder makes of bytes that are no UTF-8. -/
structure Texts where
  nums : NumberText
  lossy : List UInt8 → String

/-- The bytes `fs.writeFile` writes for a text. -/
def utf8 (s : String) : List UInt8 := s.toByteArray.data.toList

/-- `fs.readFile(path, 'utf8')`, by the bytes of the file. -/
def Texts.decode (texts : Texts) (bytes : List UInt8) : String :=
  (String.fromUTF8? ⟨bytes.toArray⟩).getD (texts.lossy bytes)

/-- `JSON.parse` of what is decoded. -/
def Texts.json (texts : Texts) (bytes : List UInt8) : Option Json := parse texts.nums (texts.decode bytes).toList

/-- `JSON.stringify(v, null, 2)`, as bytes. -/
def Texts.bytes (texts : Texts) (v : Json) : List UInt8 := utf8 (String.ofList (stringify texts.nums 2 v))

theorem decode_utf8 (texts : Texts) (s : String) : texts.decode (utf8 s) = s := by
  have harr : (⟨(utf8 s).toArray⟩ : ByteArray) = s.toByteArray := by simp [utf8]
  unfold Texts.decode String.fromUTF8?
  rw [harr, dif_pos s.isValidUTF8]
  rfl

theorem json_bytes (texts : Texts) {v : Json} (hv : v.Distinct) : texts.json (texts.bytes v) = some v := by
  rw [Texts.json, Texts.bytes, decode_utf8, String.toList_ofList]
  exact parse_stringify hv 2

theorem json_distinct {texts : Texts} {bytes : List UInt8} {v : Json} (h : texts.json bytes = some v) : v.Distinct :=
  parse_distinct h

/-- `Buffer.from(JSON.stringify(v))`. -/
def Texts.buffer (texts : Texts) (v : Json) : List UInt8 := utf8 (String.ofList (stringify texts.nums 0 v))

theorem json_buffer (texts : Texts) {v : Json} (hv : v.Distinct) : texts.json (texts.buffer v) = some v := by
  rw [Texts.json, Texts.buffer, decode_utf8, String.toList_ofList]
  exact parse_stringify hv 0

theorem buffer_ne_nil (texts : Texts) (v : Json) : texts.buffer v ≠ [] := by
  intro hnil
  have hempty := (decode_utf8 texts _).symm.trans ((congrArg texts.decode hnil).trans (decode_utf8 texts ""))
  obtain ⟨c, s, htext, -⟩ := text_head texts.nums 0 0 v
  have hlist := congrArg String.toList hempty
  rw [String.toList_ofList, stringify, htext] at hlist
  cases hlist

/-- Different values have different texts. -/
theorem buffer_inj {texts : Texts} {v w : Json} (hv : v.Distinct) (hw : w.Distinct) (h : texts.buffer v = texts.buffer w) :
    v = w := by
  have hjson := congrArg texts.json h
  rw [json_buffer texts hv, json_buffer texts hw] at hjson
  exact Option.some.inj hjson

/-! ## ASCII -/

def Ascii (s : String) : Prop := ∀ c ∈ s.toList, c.toNat < 128

instance (s : String) : Decidable (Ascii s) := List.decidableBAll _ _

theorem utf8_toList (s : String) : utf8 s = s.toList.flatMap String.utf8EncodeChar := by
  unfold utf8
  rw [← String.utf8Encode_toList, List.utf8Encode, List.data_toByteArray]

theorem utf8_append (s t : String) : utf8 (s ++ t) = utf8 s ++ utf8 t := by
  simp [utf8_toList]

/-- The byte of an ASCII character. -/
theorem utf8EncodeChar_ascii {c : Char} (h : c.toNat < 128) : String.utf8EncodeChar c = [c.toUInt8] := by
  unfold String.utf8EncodeChar
  rw [if_pos (by unfold Char.toNat at h; omega)]
  rfl

theorem utf8_ascii {s : String} (h : Ascii s) : utf8 s = s.toList.map Char.toUInt8 := by
  rw [utf8_toList, List.map_eq_flatMap]
  exact List.flatMap_congr fun c hc => utf8EncodeChar_ascii (h c hc)

/-- The first bytes of an ASCII text. -/
theorem utf8_take {s : String} (h : Ascii s) (n : Nat) : (utf8 s).take n = utf8 (String.ofList (s.toList.take n)) := by
  have htake : Ascii (String.ofList (s.toList.take n)) := by
    intro c hc
    rw [String.toList_ofList] at hc
    exact h c (List.mem_of_mem_take hc)
  rw [utf8_ascii h, utf8_ascii htake, String.toList_ofList, List.map_take]

/-- Another character has two bytes or more, none of them that of an ASCII character. -/
theorem utf8EncodeChar_not_ascii {c : Char} (h : ¬ c.toNat < 128) :
    2 ≤ (String.utf8EncodeChar c).length ∧ ∀ b ∈ String.utf8EncodeChar c, 128 ≤ b.toNat := by
  have hc : ¬ c.val.toNat ≤ 127 := by
    unfold Char.toNat at h
    omega
  unfold String.utf8EncodeChar
  simp only [hc, if_false]
  split
  · simp
    omega
  · split
    · simp
      omega
    · simp
      omega

end Tactix.Js
