import Tactix.Js
/-!
# JSON texts

`JSON.stringify` and `JSON.parse`, which reads a text character by character.
How a number is written is not fixed here, only that it is read back.
-/

namespace Tactix.Js

/-! ## Writing -/

/-- The characters of JSON numbers. -/
def isNumChar (c : Char) : Bool := c.isDigit || c ∈ ['-', '+', '.', 'e', 'E']

/-- How numbers are written, and which tokens are numbers. -/
structure NumberText where
  print : Rat → List Char
  read : List Char → Option Rat
  read_print : ∀ q, read (print q) = some q
  print_ne : ∀ q, print q ≠ []
  print_chars : ∀ q, ∀ c ∈ print q, isNumChar c = true

def hexDigit (n : Nat) : Char := Char.ofNat (if n < 10 then 48 + n else 87 + n)

/-- How a character is written in a string. -/
def escape (c : Char) : List Char :=
  if c = '"' then ['\\', '"']
  else if c = '\\' then ['\\', '\\']
  else if c = '\x08' then ['\\', 'b']
  else if c = '\x0c' then ['\\', 'f']
  else if c = '\n' then ['\\', 'n']
  else if c = '\r' then ['\\', 'r']
  else if c = '\t' then ['\\', 't']
  else if c.toNat < 32 then ['\\', 'u', '0', '0', hexDigit (c.toNat / 16), hexDigit (c.toNat % 16)]
  else [c]

def quote (s : String) : List Char := '"' :: (s.toList.flatMap escape ++ ['"'])

/-- A new line at a depth, for a gap of some spaces; nothing without a gap. -/
def newLine (gap depth : Nat) : List Char := if gap = 0 then [] else '\n' :: List.replicate (gap * depth) ' '

def colon (gap : Nat) : List Char := if gap = 0 then [':'] else [':', ' ']

section
variable (nums : NumberText) (gap : Nat)

mutual

/-- `JSON.stringify(v, null, gap)`, for a value at a depth. -/
def text (depth : Nat) : Json → List Char
  | .null => "null".toList
  | .bool true => "true".toList
  | .bool false => "false".toList
  | .num q => nums.print q
  | .str s => quote s
  | .arr [] => ['[', ']']
  | .arr (v :: vs) =>
    '[' :: (newLine gap (depth + 1) ++ text (depth + 1) v ++ textItems (depth + 1) vs ++ newLine gap depth ++ [']'])
  | .obj [] => ['\x7b', '\x7d']
  | .obj ((k, v) :: fs) =>
    '\x7b' :: (newLine gap (depth + 1) ++ quote k ++ colon gap ++ text (depth + 1) v ++ textFields (depth + 1) fs ++
      newLine gap depth ++ ['\x7d'])

def textItems (depth : Nat) : List Json → List Char
  | [] => []
  | v :: vs => ',' :: (newLine gap depth ++ text depth v ++ textItems depth vs)

def textFields (depth : Nat) : List (String × Json) → List Char
  | [] => []
  | (k, v) :: fs => ',' :: (newLine gap depth ++ quote k ++ colon gap ++ text depth v ++ textFields depth fs)

end

def stringify (v : Json) : List Char := text nums gap 0 v

end

/-! ## Reading -/

/-- Where a string literal stands: outside of an escape, after a backslash, or in `\u`
with some digits read. -/
inductive Esc where
  | none
  | slash
  | hex (digits : Nat) (value : Nat)

/-- A string read so far, and a high surrogate that waits for its other half. -/
structure Literal where
  chars : List Char
  high : Option Nat
  esc : Esc

/-- What encloses the value being read. -/
inductive Frame where
  | arr (done : List Json)
  | obj (done : List (String × Json))
  | field (done : List (String × Json)) (key : String)

inductive Mode where
  | value
  /-- After an opening bracket. -/
  | first
  | firstKey
  | key
  | colon (key : String)
  | str (isKey : Bool) (lit : Literal)
  | num (token : List Char)
  | word (rest : List Char) (v : Json)
  /-- After a value. -/
  | after (v : Json)
  | failed

structure Parser where
  mode : Mode
  stack : List Frame

def isWs (c : Char) : Bool := c ∈ [' ', '\t', '\n', '\r']

def fail : Parser := ⟨.failed, []⟩

/-- Setting a property: it keeps its place if it was there. -/
def setField (fs : List (String × Json)) (key : String) (v : Json) : List (String × Json) :=
  if fs.any (·.1 = key) then fs.map fun f => if f.1 = key then (key, v) else f else fs ++ [(key, v)]

def hexValue (c : Char) : Option Nat :=
  if '0' ≤ c && c ≤ '9' then some (c.toNat - 48)
  else if 'a' ≤ c && c ≤ 'f' then some (c.toNat - 87)
  else if 'A' ≤ c && c ≤ 'F' then some (c.toNat - 55)
  else none

/-- What one character after a backslash stands for. -/
def unescape (c : Char) : Option Char :=
  [('"', '"'), ('\\', '\\'), ('/', '/'), ('b', '\x08'), ('f', '\x0c'), ('n', '\n'), ('r', '\r'), ('t', '\t')].lookup c

/-- A half of a surrogate pair that stands alone is no character here. -/
def Literal.flush (l : Literal) : List Char := if l.high.isSome then l.chars ++ ['\ufffd'] else l.chars

def Literal.push (l : Literal) (c : Char) : Literal := ⟨l.flush ++ [c], none, .none⟩

/-- The code unit of an escape `\u`. -/
def Literal.unit (l : Literal) (u : Nat) : Literal :=
  match l.high with
  | some h =>
    if 0xdc00 ≤ u ∧ u < 0xe000 then ⟨l.chars ++ [Char.ofNat (0x10000 + (h - 0xd800) * 1024 + (u - 0xdc00))], none, .none⟩
    else if 0xd800 ≤ u ∧ u < 0xdc00 then ⟨l.flush, some u, .none⟩
    else l.push (Char.ofNat u)
  | none =>
    if 0xd800 ≤ u ∧ u < 0xdc00 then ⟨l.chars, some u, .none⟩
    else if 0xdc00 ≤ u ∧ u < 0xe000 then l.push '\ufffd'
    else l.push (Char.ofNat u)

/-- One character of a string literal, not its closing quote. -/
def Literal.step (l : Literal) (c : Char) : Option Literal :=
  match l.esc with
  | .none => if c = '\\' then some { l with esc := .slash } else if c.toNat < 32 then none else some (l.push c)
  | .slash => if c = 'u' then some { l with esc := .hex 0 0 } else (unescape c).map l.push
  | .hex digits value =>
    (hexValue c).map fun d =>
      if digits = 3 then l.unit (value * 16 + d) else { l with esc := .hex (digits + 1) (value * 16 + d) }

/-- The first character of a value. -/
def begin (stack : List Frame) (c : Char) : Parser :=
  if c = '"' then ⟨.str false ⟨[], none, .none⟩, stack⟩
  else if c = '[' then ⟨.first, .arr [] :: stack⟩
  else if c = '\x7b' then ⟨.firstKey, .obj [] :: stack⟩
  else if c = 'n' then ⟨.word "ull".toList .null, stack⟩
  else if c = 't' then ⟨.word "rue".toList (.bool true), stack⟩
  else if c = 'f' then ⟨.word "alse".toList (.bool false), stack⟩
  else if isNumChar c then ⟨.num [c], stack⟩
  else fail

/-- A character after the value `v`. -/
def afterValue (v : Json) (stack : List Frame) (c : Char) : Parser :=
  if isWs c then ⟨.after v, stack⟩
  else match stack with
    | .arr done :: stack =>
      if c = ',' then ⟨.value, .arr (done ++ [v]) :: stack⟩
      else if c = ']' then ⟨.after (.arr (done ++ [v])), stack⟩
      else fail
    | .field done key :: stack =>
      if c = ',' then ⟨.key, .obj (setField done key v) :: stack⟩
      else if c = '\x7d' then ⟨.after (.obj (setField done key v)), stack⟩
      else fail
    | _ => fail

def closeKey (stack : List Frame) (key : String) : Parser :=
  match stack with
  | .obj done :: stack => ⟨.colon key, .obj done :: stack⟩
  | _ => fail

def Parser.step (nums : NumberText) (p : Parser) (c : Char) : Parser :=
  match p.mode with
  | .value => if isWs c then p else begin p.stack c
  | .first =>
    if isWs c then p
    else if c = ']' then
      match p.stack with
      | .arr done :: stack => ⟨.after (.arr done), stack⟩
      | _ => fail
    else begin p.stack c
  | .firstKey =>
    if isWs c then p
    else if c = '"' then ⟨.str true ⟨[], none, .none⟩, p.stack⟩
    else if c = '\x7d' then
      match p.stack with
      | .obj done :: stack => ⟨.after (.obj done), stack⟩
      | _ => fail
    else fail
  | .key => if isWs c then p else if c = '"' then ⟨.str true ⟨[], none, .none⟩, p.stack⟩ else fail
  | .colon key =>
    if isWs c then p
    else if c = ':' then
      match p.stack with
      | .obj done :: stack => ⟨.value, .field done key :: stack⟩
      | _ => fail
    else fail
  | .str isKey lit =>
    match lit.esc with
    | .none =>
      if c = '"' then
        if isKey then closeKey p.stack (String.ofList lit.flush) else ⟨.after (.str (String.ofList lit.flush)), p.stack⟩
      else match lit.step c with
        | some lit => ⟨.str isKey lit, p.stack⟩
        | none => fail
    | _ =>
      match lit.step c with
      | some lit => ⟨.str isKey lit, p.stack⟩
      | none => fail
  | .num token =>
    if isNumChar c then ⟨.num (token ++ [c]), p.stack⟩
    else match nums.read token with
      | some q => afterValue (.num q) p.stack c
      | none => fail
  | .word rest v =>
    match rest with
    | [] => fail
    | [x] => if c = x then ⟨.after v, p.stack⟩ else fail
    | x :: rest => if c = x then ⟨.word rest v, p.stack⟩ else fail
  | .after v => afterValue v p.stack c
  | .failed => fail

/-- The value at the end of the text. -/
def Parser.result (nums : NumberText) (p : Parser) : Option Json :=
  match p.mode, p.stack with
  | .after v, [] => some v
  | .num token, [] => (nums.read token).map .num
  | _, _ => none

/-- `JSON.parse`; `none` when it throws. -/
def parse (nums : NumberText) (s : List Char) : Option Json :=
  (s.foldl (Parser.step nums) ⟨.value, []⟩).result nums

end Tactix.Js
