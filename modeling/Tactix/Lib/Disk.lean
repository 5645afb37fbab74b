import Mathlib.Data.List.Basic
import Mathlib.Logic.Function.Basic
/-!
# Files

A file system with open files: paths name files, and an open file stays the
file it was when its name goes to another. `openTrunc`, `writeAt` and `rename`
are the system calls of a program that writes; `read` is the content under a
path. No two paths name one file.
-/

namespace ServiceLib

/-- `named` and `single` hold of every disk: names stand for files that exist, and there
are no hard links. -/
structure Disk (Path Byte : Type) where
  entry : Path → Option Nat
  data : Nat → List Byte
  next : Nat
  named : ∀ p f, entry p = some f → f < next
  single : ∀ p q f, entry p = some f → entry q = some f → p = q

/-- What a file holds after `bytes` are written at a position; a gap is filled. -/
def splice {Byte : Type} [Inhabited Byte] (old : List Byte) (pos : Nat) (bytes : List Byte) : List Byte :=
  old.take pos ++ List.replicate (pos - old.length) default ++ bytes ++ old.drop (pos + bytes.length)

/-- Writing at the end. -/
theorem splice_end {Byte : Type} [Inhabited Byte] {old : List Byte} {pos : Nat} (h : pos = old.length) (bytes : List Byte) :
    splice old pos bytes = old ++ bytes := by
  simp [splice, h]

namespace Disk
variable {Path Byte : Type} [DecidableEq Path]

def empty : Disk Path Byte := ⟨fun _ => none, fun _ => [], 0, by simp, by simp⟩

/-- The content under a path. -/
def read (d : Disk Path Byte) (p : Path) : Option (List Byte) := (d.entry p).map d.data

/-- The file under the path with nothing in it, new when the path has none. -/
def openTrunc (d : Disk Path Byte) (p : Path) : Nat × Disk Path Byte :=
  match h : d.entry p with
  | some f => (f, { d with data := Function.update d.data f [] })
  | none => (d.next,
    { entry := Function.update d.entry p (some d.next)
      data := Function.update d.data d.next []
      next := d.next + 1
      named := by
        intro q f hq
        by_cases hqp : q = p
        · subst hqp
          rw [Function.update_self, Option.some.injEq] at hq
          omega
        · rw [Function.update_of_ne hqp] at hq
          exact Nat.lt_succ_of_lt (d.named q f hq)
      single := by
        intro q r f hq hr
        by_cases hqp : q = p <;> by_cases hrp : r = p
        · rw [hqp, hrp]
        · subst hqp
          rw [Function.update_self, Option.some.injEq] at hq
          rw [Function.update_of_ne hrp] at hr
          exact absurd (d.named r f hr) (by omega)
        · subst hrp
          rw [Function.update_self, Option.some.injEq] at hr
          rw [Function.update_of_ne hqp] at hq
          exact absurd (d.named q f hq) (by omega)
        · rw [Function.update_of_ne hqp] at hq
          rw [Function.update_of_ne hrp] at hr
          exact d.single q r f hq hr })

def writeAt [Inhabited Byte] (d : Disk Path Byte) (f pos : Nat) (bytes : List Byte) : Disk Path Byte :=
  { d with data := Function.update d.data f (splice (d.data f) pos bytes) }

/-- The entries after a name goes from `p` to `q`. -/
def moved (d : Disk Path Byte) (p q : Path) : Path → Option Nat := Function.update (Function.update d.entry p none) q (d.entry p)

theorem moved_cases {d : Disk Path Byte} {p q r : Path} {f : Nat} (h : d.moved p q r = some f) :
    (r = q ∧ d.entry p = some f) ∨ (r ≠ q ∧ r ≠ p ∧ d.entry r = some f) := by
  unfold moved at h
  by_cases hrq : r = q
  · subst hrq
    exact .inl ⟨rfl, by rwa [Function.update_self] at h⟩
  · rw [Function.update_of_ne hrq] at h
    by_cases hrp : r = p
    · subst hrp
      rw [Function.update_self] at h
      cases h
    · exact .inr ⟨hrq, hrp, by rwa [Function.update_of_ne hrp] at h⟩

/-- `none` when there is no file under the old path. What was under the new one is
no longer there. -/
def rename (d : Disk Path Byte) (p q : Path) : Option (Disk Path Byte) :=
  if d.entry p = none then none
  else some
    { d with
      entry := d.moved p q
      named := by
        intro r f hr
        rcases moved_cases hr with ⟨-, hr⟩ | ⟨-, -, hr⟩
        · exact d.named p f hr
        · exact d.named r f hr
      single := by
        intro r r' f hr hr'
        rcases moved_cases hr with ⟨rfl, hold⟩ | ⟨-, hrp, hold⟩ <;> rcases moved_cases hr' with ⟨rfl, hold'⟩ | ⟨-, hrp', hold'⟩
        · rfl
        · exact absurd (d.single p r' f hold hold').symm hrp'
        · exact absurd (d.single p r f hold' hold).symm hrp
        · exact d.single r r' f hold hold' }

/-- A whole file is written by one call. -/
def writeFile [Inhabited Byte] (d : Disk Path Byte) (p : Path) (bytes : List Byte) : Disk Path Byte :=
  (d.openTrunc p).2.writeAt (d.openTrunc p).1 0 bytes

/-! ## What the calls do -/

/-- What opening a file to write does. -/
structure Opened (d : Disk Path Byte) (p : Path) (f : Nat) (d' : Disk Path Byte) : Prop where
  entry : d'.entry = Function.update d.entry p (some f)
  data : d'.data = Function.update d.data f []
  file : d.entry p = some f ∨ (d.entry p = none ∧ f = d.next)
  next : d.next ≤ d'.next

theorem opened (d : Disk Path Byte) (p : Path) : Opened d p (d.openTrunc p).1 (d.openTrunc p).2 := by
  unfold openTrunc
  split
  · rename_i f h
    exact ⟨(Function.update_eq_self_iff.2 h.symm).symm, rfl, .inl h, Nat.le_refl _⟩
  · rename_i h
    exact ⟨rfl, rfl, .inr ⟨h, rfl⟩, Nat.le_succ _⟩

/-- What `rename` does. -/
structure Renamed (d : Disk Path Byte) (p q : Path) (d' : Disk Path Byte) : Prop where
  source : d.entry p ≠ none
  entry : d'.entry = d.moved p q
  data : d'.data = d.data
  next : d'.next = d.next

theorem rename_some {d d' : Disk Path Byte} {p q : Path} (h : d.rename p q = some d') : Renamed d p q d' := by
  unfold rename at h
  split at h
  · cases h
  · rename_i hp
    cases h
    exact ⟨hp, rfl, rfl, rfl⟩

theorem rename_none {d : Disk Path Byte} {p q : Path} : d.rename p q = none ↔ d.entry p = none := by
  unfold rename
  split <;> simp [*]

section
variable {d d' : Disk Path Byte} {p q r : Path} {f : Nat}

theorem Opened.other (h : Opened d p f d') {g : Nat} (hq : q ≠ p) (hg : d.entry q = some g) : g ≠ f := by
  rintro rfl
  rcases h.file with hp | ⟨-, rfl⟩
  · exact hq (d.single q p g hg hp)
  · exact absurd (d.named q _ hg) (Nat.lt_irrefl _)

@[simp] theorem entry_openTrunc : (d.openTrunc p).2.entry p = some (d.openTrunc p).1 := by
  rw [(opened d p).entry, Function.update_self]

@[simp] theorem data_openTrunc : (d.openTrunc p).2.data (d.openTrunc p).1 = [] := by
  rw [(opened d p).data, Function.update_self]

theorem read_openTrunc : (d.openTrunc p).2.read q = if q = p then some [] else d.read q := by
  have h := opened d p
  unfold read
  rw [h.entry, h.data]
  split
  · rename_i hq
    subst hq
    simp
  · rename_i hq
    rw [Function.update_of_ne hq]
    cases hg : d.entry q with
    | none => rfl
    | some g => simp [Function.update_of_ne (h.other hq hg)]

omit [DecidableEq Path] in
/-- A text written piece by piece. -/
theorem data_writeAt [Inhabited Byte] {text : List Byte} {n : Nat} (h : d.data f = text.take n) (hn : n ≤ text.length) (k : Nat) :
    (d.writeAt f n ((text.drop n).take k)).data f = text.take (n + k) := by
  have hlen : n = (d.data f).length := by rw [h, List.length_take, Nat.min_eq_left hn]
  change Function.update d.data f (splice (d.data f) n _) f = _
  rw [Function.update_self, splice_end hlen, h, List.take_add]

/-- A write changes what is read under the one path of the file. -/
theorem read_writeAt [Inhabited Byte] (h : d.entry p = some f) (pos : Nat) (bytes : List Byte) :
    (d.writeAt f pos bytes).read q = if q = p then some ((d.writeAt f pos bytes).data f) else d.read q := by
  unfold read writeAt
  split
  · rename_i hq
    subst hq
    simp [h]
  · rename_i hq
    cases hg : d.entry q with
    | none => simp
    | some g =>
      have hne : g ≠ f := by
        rintro rfl
        exact hq (d.single q p _ hg h)
      simp [Function.update_of_ne hne]

theorem read_writeFile [Inhabited Byte] (bytes : List Byte) :
    (d.writeFile p bytes).read q = if q = p then some bytes else d.read q := by
  have hdata : (d.writeFile p bytes).data (d.openTrunc p).1 = bytes := by simp [writeFile, writeAt, splice]
  rw [writeFile, read_writeAt entry_openTrunc, read_openTrunc]
  split
  · exact congrArg some hdata
  · rfl

theorem read_rename (h : d.rename p q = some d') :
    d'.read r = if r = q then d.read p else if r = p then none else d.read r := by
  obtain ⟨-, hentry, hdata, -⟩ := rename_some h
  unfold read
  rw [hentry, hdata, moved]
  by_cases hq : r = q
  · subst hq
    simp
  · rw [Function.update_of_ne hq, if_neg hq]
    by_cases hp : r = p
    · subst hp
      simp
    · rw [Function.update_of_ne hp, if_neg hp]

end

end Disk

end ServiceLib
