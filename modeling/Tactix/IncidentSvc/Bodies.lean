import Mathlib.Data.List.Infix
import Tactix.Js
/-!
# The bodies of requests

What `readBody` and `readMultipart` of `index.ts` make of the bytes of a body.
`readMultipart` looks for the form's delimiter and cuts the body there; `multipart_data`
says that what it takes for the file was sent.
-/
open Tactix.Js

namespace Tactix.IncidentSvc.Listener

abbrev Buffer := List UInt8

structure File where
  filename : String
  data : Buffer

/-- `buffer.toString('binary')`: a character for each byte. -/
def binary (b : Buffer) : List Char := b.map Char.ofUInt8

/-- `Buffer.from(s, 'binary')`. -/
def ofBinary (s : List Char) : Buffer := s.map Char.toUInt8

/-- `s.split(sep)` on texts, for a `sep` that is not empty: `skip` characters of a
separator are left, and `acc` is the piece so far, backwards. -/
def splitText (sep : List Char) : (skip : Nat) → (acc s : List Char) → List (List Char)
  | _, acc, [] => [acc.reverse]
  | skip + 1, acc, _ :: cs => splitText sep skip acc cs
  | 0, acc, c :: cs =>
    if sep.isPrefixOf (c :: cs) then acc.reverse :: splitText sep (sep.length - 1) [] cs
    else splitText sep 0 (c :: acc) cs

/-- The first match of a pattern, from left to right. -/
def search {α : Type} (pattern : List Char → Option α) : List Char → Option α
  | [] => pattern []
  | c :: cs => (pattern (c :: cs)).or (search pattern cs)

/-- The group of `/start([^stop]+)/`, which `stop` has to follow when `closed`. -/
def capture (start : String) (stop : Char) (closed : Bool) (s : List Char) : Option (List Char) :=
  if start.toList.isPrefixOf s then
    let rest := s.drop start.toList.length
    let group := rest.takeWhile (· ≠ stop)
    if group = [] || (closed && group.length = rest.length) then none else some group
  else none

/-- `contentType.match(/boundary=([^;]+)/)`, and `--` before the group. -/
def boundary (contentType : Option String) : Option (List Char) :=
  (orString contentType none).bind fun text =>
    (search (capture "boundary=" ';' false) text.toList).map ("--".toList ++ ·)

/-- The file in one part of a form, when it is the part named `file`. -/
def filePart (part : List Char) : Option File :=
  if part = [] || part = "--\r\n".toList then none
  else match splitText "\r\n\r\n".toList 0 [] part with
    | head :: tail :: _ =>
      if head = [] || tail = [] then none
      else match search (capture "name=\"" '"' true) head, search (capture "filename=\"" '"' true) head with
        | some name, some filename =>
          if name = "file".toList then some ⟨String.ofList filename, ofBinary (tail.take (tail.length - 2))⟩ else none
        | _, _ => none
    | _ => none

/-- What the `end` handler of `readMultipart` resolves to. -/
def multipart (boundary : List Char) (body : Buffer) : Option File :=
  (splitText boundary 0 [] (binary body)).findSome? filePart

/-! ## What is taken for the file -/

theorem mem_splitText {sep : List Char} {skip : Nat} {acc s piece : List Char} (hskip : skip ≠ 0 → acc = [])
    (h : piece ∈ splitText sep skip acc s) : piece <:+: acc.reverse ++ s := by
  induction s generalizing skip acc with
  | nil =>
    unfold splitText at h
    rw [List.mem_singleton.1 h, List.append_nil]
  | cons c cs ih =>
    cases skip with
    | succ skip =>
      unfold splitText at h
      have hacc := hskip (Nat.succ_ne_zero skip)
      subst hacc
      exact (ih (fun _ => rfl) h).trans (List.suffix_cons c cs).isInfix
    | zero =>
      unfold splitText at h
      split at h
      · rcases List.mem_cons.1 h with rfl | h
        · exact (List.prefix_append _ _).isInfix
        · exact ((ih (fun _ => rfl) h).trans (List.suffix_cons c cs).isInfix).trans (List.suffix_append _ _).isInfix
      · simpa using ih (fun hne => absurd rfl hne) h

theorem ofBinary_binary (b : Buffer) : ofBinary (binary b) = b := by
  unfold ofBinary binary
  rw [List.map_map]
  calc b.map (Char.toUInt8 ∘ Char.ofUInt8) = b.map id := List.map_congr_left fun x _ => UInt8.toUInt8_toUInt32 x
    _ = b := List.map_id b

/-- Where the name and the content of a file come from. -/
theorem filePart_some {part : List Char} {file : File} (h : filePart part = some file) :
    ∃ head tail more filename, splitText "\r\n\r\n".toList 0 [] part = head :: tail :: more ∧
      search (capture "filename=\"" '"' true) head = some filename ∧
      file = ⟨String.ofList filename, ofBinary (tail.take (tail.length - 2))⟩ := by
  unfold filePart at h
  split at h
  · cases h
  · split at h
    · rename_i head tail rest hsplit
      split at h
      · cases h
      · split at h
        · rename_i name filename _ hname
          split at h
          · exact ⟨head, tail, rest, filename, hsplit, hname, (Option.some.inj h).symm⟩
          · cases h
        · cases h
    · cases h

theorem filePart_data {part : List Char} {file : File} (h : filePart part = some file) :
    ∃ tail, tail <:+: part ∧ file.data = ofBinary tail := by
  obtain ⟨head, tail, rest, filename, hsplit, -, rfl⟩ := filePart_some h
  have htail : tail <:+: part :=
    mem_splitText (fun hne => absurd rfl hne) (hsplit ▸ List.mem_cons_of_mem _ (List.mem_cons_self ..))
  exact ⟨_, (List.take_prefix _ tail).isInfix.trans htail, rfl⟩

/-- The bytes of the file are in the body, one after the other. -/
theorem multipart_data {boundary : List Char} {body : Buffer} {file : File} (h : multipart boundary body = some file) :
    file.data <:+: body := by
  obtain ⟨part, hpart, hfile⟩ := List.exists_of_findSome?_eq_some h
  obtain ⟨tail, htail, hdata⟩ := filePart_data hfile
  have hbody : tail <:+: binary body := htail.trans (mem_splitText (fun hne => absurd rfl hne) hpart)
  rw [hdata, ← ofBinary_binary body]
  exact hbody.map Char.toUInt8

end Tactix.IncidentSvc.Listener
