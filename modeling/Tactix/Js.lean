import Mathlib.Data.List.Basic
/-!
# JavaScript values

The JSON values the services exchange and the string functions they call.
`undefined` is `none`.
-/

namespace Tactix.Js

/-- A value `JSON.parse` returns. A JSON number within the range of doubles is a
rational, and never `NaN`. -/
inductive Json where
  | null
  | bool (b : Bool)
  | num (n : Rat)
  | str (s : String)
  | arr (items : List Json)
  | obj (fields : List (String × Json))

/-- `v.key`. Only an object has the properties the services read. -/
def Json.get? : Json → String → Option Json
  | .obj fields, key => fields.lookup key
  | _, _ => none

/-- A property that is `undefined` is not written. -/
def optField (key : String) (value : Option String) : List (String × Json) := (value.map fun s => (key, .str s)).toList

/-- `v` when `typeof v === 'string'`. -/
def str? : Option Json → Option String
  | some (.str s) => some s
  | _ => none

/-- `v` when `typeof v === 'number'`. -/
def num? : Option Json → Option Rat
  | some (.num n) => some n
  | _ => none

/-- `!!v`. -/
def truthy : Option Json → Bool
  | none | some .null => false
  | some (.bool b) => b
  | some (.num n) => n ≠ 0
  | some (.str s) => s ≠ ""
  | some (.arr _) | some (.obj _) => true

/-- The names every plain object inherits from `Object.prototype`. -/
def objectPrototype : List String :=
  ["constructor", "__defineGetter__", "__defineSetter__", "hasOwnProperty", "__lookupGetter__", "__lookupSetter__",
    "isPrototypeOf", "propertyIsEnumerable", "toString", "valueOf", "__proto__", "toLocaleString"]

/-! ## Numbers from texts -/

/-- What `Number(text)` may return. -/
inductive Number where
  | nan
  | negInf
  | fin (q : Rat)
  | inf

/-- `n < x`. -/
def Number.lt (n : Number) (x : Rat) : Bool :=
  match n with
  | .negInf => true
  | .fin q => q < x
  | _ => false

/-- `x <= n`. -/
def Number.ge (n : Number) (x : Rat) : Bool :=
  match n with
  | .inf => true
  | .fin q => x ≤ q
  | _ => false

/-- `n * q` for a positive `q`. -/
def Number.scale (n : Number) (q : Rat) : Number :=
  match n with
  | .fin p => .fin (p * q)
  | n => n

/-! ## Strings -/

/-- `s || t` on strings: the empty string is falsy. -/
def orString (s t : Option String) : Option String :=
  match s with
  | some "" | none => t
  | some s => some s

def startsWith (s p : String) : Bool := p.toList.isPrefixOf s.toList

/-- `s.slice(n)`. -/
def slice (s : String) (n : Nat) : String := String.ofList (s.toList.drop n)

/-- `s.split(c)`. -/
def split (s : String) (c : Char) : List String := (s.toList.splitOn c).map String.ofList

/-- The characters `trim` removes. -/
def isSpace (c : Char) : Bool :=
  c ∈ ['\t', '\n', '\x0b', '\x0c', '\r', ' ', '\u00a0', '\u1680', '\u2028', '\u2029', '\u202f', '\u205f', '\u3000',
    '\ufeff'] || ('\u2000' ≤ c && c ≤ '\u200a')

def trim (s : String) : String :=
  String.ofList ((s.toList.dropWhile isSpace).reverse.dropWhile isSpace).reverse

/-- `s.replace(/\\n/g, '\n')`: a backslash followed by an `n` becomes a newline. -/
def unescapeNewlines (s : String) : String := String.ofList (go s.toList)
where
  go : List Char → List Char
    | '\\' :: 'n' :: cs => '\n' :: go cs
    | c :: cs => c :: go cs
    | [] => []

theorem go_head {cs t : List Char} (h : unescapeNewlines.go cs = 'n' :: t) : ∃ t', cs = 'n' :: t' := by
  unfold unescapeNewlines.go at h
  split at h
  · simp at h
  · simp only [List.cons.injEq] at h
    exact ⟨_, by rw [h.1]⟩
  · simp at h

/-- One pass leaves no backslash before an `n`. -/
theorem unescapeNewlines_idem (s : String) : unescapeNewlines (unescapeNewlines s) = unescapeNewlines s := by
  suffices hgo : ∀ cs, unescapeNewlines.go (unescapeNewlines.go cs) = unescapeNewlines.go cs by
    simp [unescapeNewlines, hgo]
  intro cs
  fun_induction unescapeNewlines.go cs with
  | case1 cs ih => simp [unescapeNewlines.go, ih]
  | case2 c cs hne ih =>
    rw [unescapeNewlines.go, ih]
    rintro cs' rfl h
    obtain ⟨t, rfl⟩ := go_head h
    exact hne t rfl rfl
  | case3 => rfl

/-- A string that is not empty is truthy. -/
theorem orString_ne {s : String} (h : s ≠ "") (t : Option String) : orString (some s) t = some s := by
  unfold orString
  split
  · rename_i he
    exact absurd (Option.some.inj he) h
  · cases ‹_ = none›
  · rename_i he
    exact he.symm

theorem orString_eq_some {s : Option String} {t : String} : orString s none = some t ↔ s = some t ∧ t ≠ "" := by
  constructor
  · intro h
    unfold orString at h
    split at h
    · cases h
    · cases h
    · rename_i u hne
      cases h
      exact ⟨rfl, fun he => hne (by rw [he])⟩
  · rintro ⟨rfl, hne⟩
    exact orString_ne hne none

/-- What a field comes to whose empty text does not count. -/
theorem getD_orString {text : Option String} {old : String} :
    (orString text none).getD old = text.getD old ↔ (text = some "" → old = "") := by
  cases text with
  | none => simp [orString]
  | some text =>
    by_cases h : text = ""
    · simp [orString, h]
    · simp [orString_ne h, h]

theorem startsWith_iff (s p : String) : startsWith s p = true ↔ ∃ t, s = p ++ t := by
  simp only [startsWith, List.isPrefixOf_iff_prefix]
  constructor
  · rintro ⟨l, hl⟩
    exact ⟨String.ofList l, String.toList_inj.1 (by simp [hl])⟩
  · rintro ⟨t, rfl⟩
    simp

/-- Slicing off a prefix. -/
theorem slice_append (p t : String) : slice (p ++ t) p.toList.length = t := by
  simp [slice]

end Tactix.Js
