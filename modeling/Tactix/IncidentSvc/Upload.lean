import Tactix.IncidentSvc.Listener
import Tactix.IncidentSvc.Pieces
/-!
# Uploads

The multipart form of a client, and what `readMultipart` and the attachments route make of it.
The file comes back when its name is in ASCII and its content has no empty line.
-/
open Tactix.Js ServiceLib

namespace Tactix.IncidentSvc.Listener

/-! ## The form of a client -/

/-- The characters of a token in a header. -/
def isTokenChar (c : Char) : Bool := '!' ≤ c && c ≤ '~' && c ∉ "()<>@,;:\\\"/[]?=".toList

structure Boundary where
  token : String
  ne : token ≠ ""
  chars : ∀ c ∈ token.toList, isTokenChar c = true

def Boundary.contentType (b : Boundary) : String := "multipart/form-data; boundary=" ++ b.token

/-- What the parts are separated by, as `readMultipart` reads it. -/
def Boundary.mark (b : Boundary) : List Char := "--".toList ++ b.token.toList

def Boundary.delimiter (b : Boundary) : Buffer := ofBinary b.mark

/-- No quotes and no line breaks. -/
def Plain (s : String) : Prop := ∀ c ∈ s.toList, c ≠ '"' ∧ c ≠ '\r' ∧ c ≠ '\n'

instance (s : String) : Decidable (Plain s) := List.decidableBAll _ _

structure TextField (b : Boundary) where
  name : String
  value : Buffer
  plain : Plain name
  name_apart : ¬ b.delimiter <:+: utf8 name
  value_apart : ¬ b.delimiter <:+: value

/-- A line of the header of a part. -/
structure Header (b : Boundary) where
  line : String
  ne : line ≠ ""
  one_line : ∀ c ∈ line.toList, c ≠ '\r' ∧ c ≠ '\n'
  apart : ¬ b.delimiter <:+: utf8 line

/-- A form with a part named `file`, sent with the boundary `b`. -/
structure Form (b : Boundary) where
  before : List (TextField b)
  filename : String
  headers : List (Header b)
  content : Buffer
  after : List (TextField b)
  plain : Plain filename
  apart : ¬ b.delimiter <:+: content

def crlf : Buffer := [13, 10]

/-- A part, from the delimiter before it to the one behind it. -/
def encodePart (head : List String) (content : Buffer) : Buffer :=
  head.flatMap (fun line => crlf ++ utf8 line) ++ crlf ++ crlf ++ content ++ crlf

def TextField.head {b : Boundary} (field : TextField b) : List String :=
  ["Content-Disposition: form-data; name=\"" ++ field.name ++ "\""]

def Form.head {b : Boundary} (form : Form b) : List String :=
  ("Content-Disposition: form-data; name=\"file\"; filename=\"" ++ form.filename ++ "\"") :: form.headers.map (·.line)

def TextField.part {b : Boundary} (field : TextField b) : Buffer := encodePart field.head field.value

def Form.part {b : Boundary} (form : Form b) : Buffer := encodePart form.head form.content

/-- The `multipart/form-data` body. -/
def Form.encode {b : Boundary} (form : Form b) : Buffer :=
  (form.before.map (·.part) ++ form.part :: form.after.map (·.part)).flatMap (b.delimiter ++ ·) ++
    b.delimiter ++ utf8 "--" ++ crlf

/-! ## The parts -/

def lineBreak : List Char := ['\r', '\n']

/-- What `readMultipart` splits a part at. -/
def emptyLine : List Char := "\r\n\r\n".toList

/-- The head of a part, as it arrives. -/
def headText (head : List String) : List Char := head.flatMap fun line => lineBreak ++ sent line

theorem binary_encodePart (head : List String) (content : Buffer) :
    binary (encodePart head content) = headText head ++ emptyLine ++ (binary content ++ lineBreak) := by
  have hhead : binary (head.flatMap fun line => crlf ++ utf8 line) = headText head := by
    rw [headText, binary, List.map_flatMap]
    rfl
  simp only [encodePart, binary_append, hhead, List.append_assoc]
  rfl

theorem infix_binary {a b : Buffer} : binary a <:+: binary b ↔ a <:+: b := by
  refine ⟨fun h => ?_, fun h => h.map _⟩
  have := h.map Char.toUInt8
  rwa [show (binary a).map Char.toUInt8 = a from ofBinary_binary a,
    show (binary b).map Char.toUInt8 = b from ofBinary_binary b] at this

theorem Boundary.mark_chars (b : Boundary) {c : Char} (hc : c ∈ b.mark) : isTokenChar c = true := by
  rcases List.mem_append.1 hc with hc | hc
  · obtain rfl : c = '-' := by simpa using hc
    decide
  · exact b.chars c hc

theorem Boundary.mark_ascii (b : Boundary) {c : Char} (hc : c ∈ b.mark) : c.toNat < 128 := by
  have h := b.mark_chars hc
  simp only [isTokenChar, Bool.and_eq_true, decide_eq_true_eq] at h
  have hhigh : c.toNat ≤ 126 := h.1.2
  omega

theorem Boundary.notMem_mark (b : Boundary) {c : Char} (h : isTokenChar c = false) : c ∉ b.mark := by
  intro hc
  rw [b.mark_chars hc] at h
  cases h

theorem Boundary.mark_ne (b : Boundary) : b.mark ≠ [] := List.cons_ne_nil _ _

theorem Boundary.not_infix_nil (b : Boundary) : ¬ b.mark <:+: [] := fun hi => b.mark_ne (List.infix_nil.1 hi)

theorem Boundary.binary_delimiter (b : Boundary) : binary b.delimiter = b.mark :=
  binary_ofBinary fun c hc => by
    have := b.mark_ascii hc
    omega

/-- A delimiter that arrives was sent. -/
theorem Boundary.not_infix_binary {b : Boundary} {bytes : Buffer} (h : ¬ b.delimiter <:+: bytes) :
    ¬ b.mark <:+: binary bytes := by
  rwa [← b.binary_delimiter, infix_binary]

/-- A text that does not begin with two hyphens somewhere holds no delimiter. -/
theorem Boundary.not_infix_of_hyphens (b : Boundary) {s : List Char} (h : ¬ "--".toList <:+: s) : ¬ b.mark <:+: s :=
  fun hi => h ((List.prefix_append _ _).isInfix.trans hi)

theorem clear_headText {head : List String} (h : ∀ line ∈ head, line ≠ "" ∧ '\r' ∉ line.toList) :
    Clear emptyLine (headText head) := by
  induction head with
  | nil => exact clear_nil (by decide)
  | cons line head ih =>
    rw [List.forall_mem_cons] at h
    have hcr : '\r' ∉ sent line := fun hm => h.1.2 (mem_sent (by decide) hm)
    intro hi
    simp only [headText, List.flatMap_cons, List.append_assoc] at hi
    rcases List.infix_cons_iff.1 hi with hi | hi
    · obtain ⟨c, rest, hrest⟩ := List.exists_cons_of_ne_nil (sent_ne_nil h.1.1)
      rw [hrest] at hi hcr
      have hi := (List.cons_prefix_cons.1 (List.cons_prefix_cons.1 hi).2).2
      obtain ⟨rfl, -⟩ := List.cons_prefix_cons.1 hi
      exact hcr (List.mem_cons_self ..)
    · rcases List.infix_cons_iff.1 hi with hi | hi
      · exact absurd (List.cons_prefix_cons.1 hi).1 (by decide)
      · exact ih h.2 (infix_append_of_notMem hcr hi)

/-- A delimiter in the head of a part or behind it is in a line or behind the head. -/
theorem not_infix_headText {mark a rest : List Char} {head : List String} (hne : mark ≠ []) (hr : '\r' ∉ mark)
    (hn : '\n' ∉ mark) (ha : ¬ mark <:+: a) (hhead : ∀ line ∈ head, ¬ mark <:+: sent line) (hrest : ¬ mark <:+: rest) :
    ¬ mark <:+: a ++ (headText head ++ '\r' :: rest) := by
  induction head generalizing a with
  | nil =>
    intro hi
    rcases infix_append_cons hr hi with hi | hi
    · exact ha hi
    · exact hrest hi
  | cons line head ih =>
    rw [List.forall_mem_cons] at hhead
    intro hi
    simp only [headText, lineBreak, List.flatMap_cons, List.append_assoc, List.cons_append, List.nil_append] at hi
    rcases infix_append_cons hr hi with hi | hi
    · exact ha hi
    · rcases infix_append_cons (a := []) hn hi with hi | hi
      · exact hne (List.infix_nil.1 hi)
      · exact ih hhead.1 hhead.2 hi

theorem clear_part {b : Boundary} {head : List String} {content : Buffer} (hhead : ∀ line ∈ head, ¬ b.mark <:+: sent line)
    (hcontent : ¬ b.delimiter <:+: content) : Clear b.mark (binary (encodePart head content)) := by
  have hr : '\r' ∉ b.mark := b.notMem_mark (by decide)
  have hn : '\n' ∉ b.mark := b.notMem_mark (by decide)
  have hbody : ¬ b.mark <:+: '\n' :: '\r' :: '\n' :: (binary content ++ ['\r']) := by
    intro hi
    rcases infix_append_cons (a := ['\n', '\r']) hn hi with hi | hi
    · exact b.not_infix_of_hyphens (by decide) hi
    · rcases infix_append_cons hr hi with hi | hi
      · exact b.not_infix_binary hcontent hi
      · exact b.not_infix_nil hi
  have hpart : binary (encodePart head content) =
      [] ++ (headText head ++ '\r' :: '\n' :: '\r' :: '\n' :: (binary content ++ ['\r'])) ++ ['\n'] := by
    rw [binary_encodePart]
    simp [emptyLine, lineBreak]
  rw [hpart]
  exact clear_concat hn (not_infix_headText b.mark_ne hr hn b.not_infix_nil hhead hbody)

/-- What `filePart` makes of a part whose content begins with the piece `tail`. -/
theorem filePart_encodePart {head : List String} {content : Buffer} {tail : List Char} {more : List (List Char)}
    (hne : head ≠ []) (hhead : ∀ line ∈ head, line ≠ "" ∧ '\r' ∉ line.toList)
    (htail : splitText emptyLine 0 [] (binary content ++ lineBreak) = tail :: more) :
    filePart (binary (encodePart head content)) =
      if tail = [] then none
      else match search (capture "name=\"" '"' true) (headText head), search (capture "filename=\"" '"' true) (headText head) with
        | some name, some filename =>
          if name = "file".toList then some ⟨String.ofList filename, ofBinary (tail.take (tail.length - 2))⟩ else none
        | _, _ => none := by
  obtain ⟨line, lines, rfl⟩ := List.exists_cons_of_ne_nil hne
  have hstart : ∃ rest, headText (line :: lines) = '\r' :: rest := ⟨_, rfl⟩
  obtain ⟨rest, hrest⟩ := hstart
  have hsplit := splitText_clear (by decide) (clear_headText hhead) [] (binary content ++ lineBreak)
  rw [htail, List.reverse_nil, List.nil_append] at hsplit
  unfold filePart
  rw [binary_encodePart, if_neg (by simp [hrest])]
  unfold emptyLine at hsplit ⊢
  rw [hsplit]
  by_cases hempty : tail = []
  · simp [hempty]
  · refine (if_neg ?_).trans (if_neg hempty).symm
    simp [hrest, hempty]

/-! ## The whole form -/

theorem Plain.notMem {s : String} (h : Plain s) : '"' ∉ sent s ∧ '\r' ∉ s.toList :=
  ⟨fun hm => (h _ (mem_sent (by decide) hm)).1 rfl, fun hm => (h _ hm).2.1 rfl⟩

/-- A quoted value is sent between quotes, behind what is before it. -/
theorem sent_quoted {pre : String} {s : List Char} (hpre : sent pre = s ++ ['"']) (value : String) :
    sent (pre ++ value ++ "\"") = s ++ '"' :: (sent value ++ '"' :: []) := by
  rw [sent_append, sent_append, hpre, show sent "\"" = ['"'] by decide]
  simp only [List.append_assoc, List.cons_append, List.nil_append]

theorem sent_textLine (name : String) : sent ("Content-Disposition: form-data; name=\"" ++ name ++ "\"") =
    "Content-Disposition: form-data; name=".toList ++ '"' :: (sent name ++ '"' :: []) :=
  sent_quoted (by decide) name

theorem sent_fileLine (filename : String) :
    sent ("Content-Disposition: form-data; name=\"file\"; filename=\"" ++ filename ++ "\"") =
      "Content-Disposition: form-data; name=".toList ++
        '"' :: ("file".toList ++ '"' :: ("; filename=".toList ++ '"' :: (sent filename ++ '"' :: []))) := by
  have hpre : sent "Content-Disposition: form-data; name=\"file\"; filename=\"" =
      "Content-Disposition: form-data; name=".toList ++ '"' :: ("file".toList ++ '"' :: "; filename=".toList) ++ ['"'] := by
    decide
  rw [sent_quoted hpre filename]
  simp only [List.append_assoc, List.cons_append]

/-- A delimiter in a line with a quoted value is in what stands before the value, in it or behind it. -/
theorem Boundary.not_infix_quoted {b : Boundary} {pre value rest : List Char} (hpre : ¬ "--".toList <:+: pre)
    (hvalue : ¬ b.mark <:+: value) (hrest : ¬ b.mark <:+: rest) :
    ¬ b.mark <:+: pre ++ '"' :: (value ++ '"' :: rest) := by
  have hq : '"' ∉ b.mark := b.notMem_mark (by decide)
  intro hi
  rcases infix_append_cons hq hi with hi | hi
  · exact b.not_infix_of_hyphens hpre hi
  · rcases infix_append_cons hq hi with hi | hi
    · exact hvalue hi
    · exact hrest hi

theorem TextField.clear_part {b : Boundary} (field : TextField b) : Clear b.mark (binary field.part) := by
  refine Listener.clear_part (fun line hline => ?_) field.value_apart
  rw [List.mem_singleton.1 hline, sent_textLine]
  exact Boundary.not_infix_quoted (by decide) (b.not_infix_binary field.name_apart) b.not_infix_nil

theorem Form.clear_part {b : Boundary} (form : Form b) (h : ¬ b.mark <:+: sent form.filename) :
    Clear b.mark (binary form.part) := by
  refine Listener.clear_part (fun line hline => ?_) form.apart
  rcases List.mem_cons.1 hline with rfl | hline
  · rw [sent_fileLine]
    refine Boundary.not_infix_quoted (by decide) (b.not_infix_of_hyphens (by decide)) ?_
    exact Boundary.not_infix_quoted (by decide) h b.not_infix_nil
  · obtain ⟨header, -, rfl⟩ := List.mem_map.1 hline
    exact b.not_infix_binary header.apart

theorem TextField.head_lines {b : Boundary} (field : TextField b) : ∀ line ∈ field.head, line ≠ "" ∧ '\r' ∉ line.toList := by
  intro line hline
  rw [List.mem_singleton.1 hline]
  exact ⟨fun he => by simpa using congrArg String.toList he, by simpa using field.plain.notMem.2⟩

theorem Form.head_lines {b : Boundary} (form : Form b) : ∀ line ∈ form.head, line ≠ "" ∧ '\r' ∉ line.toList := by
  intro line hline
  rcases List.mem_cons.1 hline with rfl | hline
  · exact ⟨fun he => by simpa using congrArg String.toList he, by simpa using form.plain.notMem.2⟩
  · obtain ⟨header, -, rfl⟩ := List.mem_map.1 hline
    exact ⟨header.ne, fun hm => (header.one_line _ hm).1 rfl⟩

/-- The head of a text field holds two quotes, and no file name before the first. -/
theorem TextField.no_filename {b : Boundary} (field : TextField b) :
    search (capture "filename=\"" '"' true) (headText field.head) = none := by
  refine search_none fun t ht => ?_
  by_contra hne
  obtain ⟨group, hgroup⟩ := Option.ne_none_iff_exists'.1 hne
  obtain ⟨-, hquote, rest, rfl, hrest⟩ := capture_some hgroup
  obtain ⟨more, rfl⟩ := hrest rfl
  obtain ⟨pre, hpre⟩ := ht
  have hhead : headText field.head =
      "\r\nContent-Disposition: form-data; name=".toList ++ '"' :: (sent field.name ++ '"' :: []) := by
    show lineBreak ++ sent _ ++ [] = _
    rw [sent_textLine, List.append_nil, ← List.append_assoc]
    rfl
  have hstart : "filename=\"".toList = "filename=".toList ++ ['"'] := by decide
  rw [hhead, hstart] at hpre
  have hname := field.plain.notMem.1
  have hpre' : '"' ∉ pre := by
    have hcount := congrArg (List.count '"') hpre
    simp only [List.count_append, List.count_cons_self, List.count_eq_zero.2 hname, List.count_eq_zero.2 hquote,
      List.count_nil] at hcount
    rw [← List.count_eq_zero]
    have : List.count '"' "\r\nContent-Disposition: form-data; name=".toList = 0 := by decide
    omega
  have hbefore : '"' ∉ pre ++ "filename=".toList := by
    rw [List.mem_append, not_or]
    exact ⟨hpre', by decide⟩
  rw [show pre ++ ("filename=".toList ++ ['"'] ++ group ++ '"' :: more) = pre ++ "filename=".toList ++ '"' :: (group ++ '"' :: more) by
    simp only [List.append_assoc, List.cons_append, List.nil_append]] at hpre
  have htake := congrArg (List.takeWhile (· ≠ '"')) hpre
  rw [takeWhile_cut hbefore, takeWhile_cut (by decide)] at htake
  have hsuffix : "filename=".toList <:+ "\r\nContent-Disposition: form-data; name=".toList := ⟨pre, htake⟩
  exact absurd hsuffix (by decide)

/-- A part of a text field has a name and no file name. -/
theorem TextField.filePart {b : Boundary} (field : TextField b) : Listener.filePart (binary field.part) = none := by
  obtain ⟨tail, more, htail⟩ := exists_splitText emptyLine (binary field.value ++ lineBreak)
  have hne : field.head ≠ [] := List.cons_ne_nil _ _
  rw [TextField.part, filePart_encodePart hne field.head_lines htail, field.no_filename]
  split
  · rfl
  · split
    · rename_i h
      cases h
    · rfl

theorem Form.headText_eq {b : Boundary} (form : Form b) : ∃ more, headText form.head =
    "\r\nContent-Disposition: form-data; name=".toList ++
      '"' :: ("file".toList ++ '"' :: ("; filename=".toList ++ '"' :: (sent form.filename ++ '"' :: more))) := by
  refine ⟨headText (form.headers.map (·.line)), ?_⟩
  show lineBreak ++ sent _ ++ headText _ = _
  rw [sent_fileLine]
  have hbreak : "\r\nContent-Disposition: form-data; name=".toList = lineBreak ++ "Content-Disposition: form-data; name=".toList := by
    decide
  simp only [hbreak, List.append_assoc, List.cons_append, List.nil_append]

theorem Form.name_found {b : Boundary} (form : Form b) :
    search (capture "name=\"" '"' true) (headText form.head) = some "file".toList := by
  obtain ⟨more, hmore⟩ := form.headText_eq
  have hpre : "\r\nContent-Disposition: form-data; name=".toList = "\r\nContent-Disposition: form-data; ".toList ++ "name=".toList := by
    decide
  have hstart : "name=\"".toList = "name=".toList ++ ['"'] := by decide
  have hhead : headText form.head = "\r\nContent-Disposition: form-data; ".toList ++ "name=\"".toList ++
      ("file".toList ++ '"' :: ("; filename=".toList ++ '"' :: (sent form.filename ++ '"' :: more))) := by
    simp only [hmore, hpre, hstart, List.append_assoc, List.cons_append, List.nil_append]
  rw [hhead, search_clear (by decide)]
  exact search_of_capture (capture_group (by decide) (by decide) _)

theorem Form.filename_found {b : Boundary} (form : Form b) (hne : form.filename ≠ "") :
    search (capture "filename=\"" '"' true) (headText form.head) = some (sent form.filename) := by
  obtain ⟨more, hmore⟩ := form.headText_eq
  have hpre : "; filename=".toList = "; ".toList ++ "filename=".toList := by decide
  have hstart : "filename=\"".toList = "filename=".toList ++ ['"'] := by decide
  have hhead : headText form.head = ("\r\nContent-Disposition: form-data; name=".toList ++ '"' :: ("file".toList ++ '"' :: "; ".toList)) ++
      "filename=\"".toList ++ (sent form.filename ++ '"' :: more) := by
    simp only [hmore, hpre, hstart, List.append_assoc, List.cons_append, List.nil_append]
  rw [hhead, search_clear (by decide)]
  exact search_of_capture (capture_group (sent_ne_nil hne) form.plain.notMem.1 _)

theorem Boundary.not_infix_close (b : Boundary) : ¬ b.mark <:+: "--\r\n".toList := by
  have hr : '\r' ∉ b.mark := b.notMem_mark (by decide)
  have htoken : 0 < b.token.toList.length := List.length_pos_of_ne_nil fun he => b.ne (String.toList_inj.1 he)
  have hmark : b.mark.length = 2 + b.token.toList.length := List.length_append
  intro hi
  rcases infix_append_cons (a := ['-', '-']) hr hi with hi | hi
  · have hlen : b.mark.length ≤ 2 := hi.length_le
    omega
  · have hlen : b.mark.length ≤ 1 := hi.length_le
    omega

/-- `readMultipart` makes of a form what `filePart` makes of its part with the file. -/
theorem multipart_encode {b : Boundary} (form : Form b) (h : ¬ b.mark <:+: sent form.filename) :
    multipart b.mark form.encode = filePart (binary form.part) := by
  have hfields : ∀ fields : List (TextField b), (fields.map fun f => binary f.part).findSome? filePart = none := by
    intro fields
    rw [List.findSome?_eq_none_iff]
    intro part hpart
    obtain ⟨field, -, rfl⟩ := List.mem_map.1 hpart
    exact field.filePart
  have hbody : binary form.encode = [] ++
      (((form.before.map fun f => binary f.part) ++ binary form.part :: form.after.map fun f => binary f.part).flatMap
        (b.mark ++ ·) ++ (b.mark ++ "--\r\n".toList)) := by
    have hclose : binary (utf8 "--" ++ crlf) = "--\r\n".toList := by decide
    rw [Form.encode, List.append_assoc, List.append_assoc, binary_append, binary_append, hclose, b.binary_delimiter]
    refine congrArg (· ++ _) ?_
    simp only [binary, List.map_flatMap, List.map_append, List.flatMap_append, List.flatMap_cons, List.flatMap_map]
    rw [show List.map Char.ofUInt8 b.delimiter = b.mark from b.binary_delimiter]
  have hclear : ∀ q ∈ [] :: ((form.before.map fun f => binary f.part) ++ binary form.part ::
      form.after.map fun f => binary f.part), Clear b.mark q := by
    intro q hq
    simp only [List.mem_cons, List.mem_append, List.mem_map] at hq
    rcases hq with rfl | ⟨field, -, rfl⟩ | rfl | ⟨field, -, rfl⟩
    · exact clear_nil b.mark_ne
    · exact field.clear_part
    · exact form.clear_part h
    · exact field.clear_part
  rw [multipart, hbody, splitText_joined b.mark_ne b.not_infix_close hclear]
  have hnil : filePart [] = none := rfl
  have hclose : filePart "--\r\n".toList = none := by decide
  rw [List.findSome?_cons, hnil]
  dsimp only
  rw [List.findSome?_append, List.findSome?_append, hfields, List.findSome?_cons, List.findSome?_cons, hclose, hfields]
  cases filePart (binary form.part) with
  | none => rfl
  | some file => rfl

/-! ## What comes back -/

/-- A content without an empty line. -/
def OneBlock (content : Buffer) : Prop := ¬ crlf ++ crlf <:+: content ∧ ¬ crlf <:+ content

/-- The line break behind the content makes an empty line of the one at its end. -/
theorem infix_append_crlf (content : Buffer) : crlf ++ crlf <:+: content ++ crlf ↔ ¬ OneBlock content := by
  have hsnoc : content ++ crlf = content ++ [13] ++ [10] := by rw [List.append_assoc]; rfl
  unfold OneBlock
  rw [hsnoc, List.infix_concat_iff, List.infix_concat_iff, not_and_or, not_not, not_not]
  constructor
  · rintro (h | h | h)
    · have hrev := List.reverse_prefix.2 h
      simp only [crlf, List.reverse_append, List.reverse_cons, List.reverse_nil, List.nil_append, List.cons_append,
        List.cons_prefix_cons, true_and] at hrev
      exact .inr (List.reverse_prefix.1 hrev)
    · have hrev := List.reverse_prefix.2 h
      simp [crlf] at hrev
    · exact .inl h
  · rintro (h | ⟨t, rfl⟩)
    · exact .inr (.inr h)
    · exact .inl ⟨t, by simp [crlf]⟩

theorem emptyLine_infix_iff (content : Buffer) : emptyLine <:+: binary content ++ lineBreak ↔ ¬ OneBlock content := by
  have hempty : emptyLine = binary (crlf ++ crlf) := by decide
  have hbreak : lineBreak = binary crlf := by decide
  rw [hempty, hbreak, ← binary_append, infix_binary, infix_append_crlf]

/-- A file with a name and with one block comes back as it arrives. -/
theorem filePart_block {b : Boundary} (form : Form b) (hne : form.filename ≠ "") (hblock : OneBlock form.content) :
    filePart (binary form.part) = some ⟨String.ofList (sent form.filename), form.content⟩ := by
  have hwhole := splitText_whole (fun hi => (emptyLine_infix_iff form.content).1 hi hblock) []
  rw [List.reverse_nil, List.nil_append] at hwhole
  have hhead : form.head ≠ [] := List.cons_ne_nil _ _
  have hdata : (binary form.content ++ lineBreak).take ((binary form.content ++ lineBreak).length - 2) = binary form.content := by
    rw [List.length_append, show lineBreak.length = 2 from rfl, Nat.add_sub_cancel, List.take_left]
  rw [Form.part, filePart_encodePart hhead form.head_lines hwhole, form.name_found, form.filename_found hne]
  have hbody : ¬ binary form.content ++ lineBreak = [] := by simp [lineBreak]
  rw [if_neg hbody]
  dsimp only
  rw [if_pos rfl, hdata, ofBinary_binary]

/-- Of another content less comes back, or nothing. -/
theorem filePart_blocks {b : Boundary} (form : Form b) (hblock : ¬ OneBlock form.content) {file : File}
    (h : filePart (binary form.part) = some file) : file.data.length < form.content.length := by
  obtain ⟨p, rest, hp, hclear⟩ := exists_clear (by decide) ((emptyLine_infix_iff form.content).2 hblock)
  have hlen := congrArg List.length hp
  simp only [List.length_append, binary, List.length_map, show lineBreak.length = 2 from rfl,
    show emptyLine.length = 4 from rfl] at hlen
  obtain ⟨head, tail, more, filename, hsplit, -, rfl⟩ := filePart_some h
  have hpart := splitText_clear (by decide) (clear_headText form.head_lines) [] (binary form.content ++ lineBreak)
  rw [hp, splitText_clear (by decide) hclear, ← hp, ← binary_encodePart] at hpart
  obtain ⟨-, rfl, -⟩ : _ ∧ tail = p ∧ _ := by simpa using hsplit.symm.trans hpart
  simp only [ofBinary, List.length_map, List.length_take]
  omega

/-- The name of a file is not empty, and holds no delimiter. -/
theorem multipart_filename {mark : List Char} (hmark : mark ≠ []) {body : Buffer} {file : File}
    (h : multipart mark body = some file) : file.filename ≠ "" ∧ ¬ mark <:+: file.filename.toList := by
  obtain ⟨part, hpart, hfile⟩ := List.exists_of_findSome?_eq_some h
  have hfree := not_infix_of_mem_splitText hmark hpart
  obtain ⟨head, tail, rest, filename, hsplit, hname, rfl⟩ := filePart_some hfile
  obtain ⟨hne, hin⟩ := search_capture_some hname
  have hhead : head <:+: part := mem_splitText (fun hne => absurd rfl hne) (hsplit ▸ List.mem_cons_self ..)
  rw [String.toList_ofList]
  exact ⟨fun he => hne (by simpa using congrArg String.toList he), fun hi => hfree ((hi.trans hin).trans hhead)⟩

/-! ## The request -/

theorem Boundary.boundary_contentType (b : Boundary) : boundary (some b.contentType) = some b.mark := by
  have hstop : ';' ∉ b.token.toList := fun hm => absurd (b.chars _ hm) (by decide)
  have hne : b.token.toList ≠ [] := fun he => b.ne (String.toList_inj.1 he)
  have hstart : "multipart/form-data; boundary=".toList = "multipart/form-data; ".toList ++ "boundary=".toList := by decide
  have htext : b.contentType.toList = "multipart/form-data; ".toList ++ "boundary=".toList ++ b.token.toList :=
    String.toList_append.trans (congrArg (· ++ b.token.toList) hstart)
  have hct : b.contentType ≠ "" := fun he => by
    rw [he] at htext
    simp at htext
  have hclear : Clear "boundary=".toList "multipart/form-data; ".toList := by decide
  have hgroup := search_of_capture (capture_end "boundary=" hne hstop)
  rw [boundary, orString_ne hct, Option.bind_some, htext, search_clear hclear, hgroup, Option.map_some, Boundary.mark]

/-- The body of the request comes in these chunks. -/
def receives (chunks : List Buffer) : Unit → (q : Query) → q.Reply → Unit → Prop
  | _, .body, reply, _ => reply = some chunks
  | _, _, _, _ => True

/-- Other requests store what they receive under other names: `randomUUID()` is in each. -/
def keeps (m m' : Memory) : Prop := ∀ name data, m.objectStore name = some data → m'.objectStore name = some data

/-- The file of the form comes back from `readMultipart` and, once it is attached to an
incident, from `getObject`. -/
def Form.RoundTrip {b : Boundary} (form : Form b) : Prop :=
  ∀ chunks : List Buffer, chunks.flatten = form.encode →
    (∀ m m' r, Prog.Exec (receives chunks) keeps (readMultipart (some b.contentType)) m () m' () r →
      r = .ok (some ⟨form.filename, form.content⟩)) ∧
    ∀ incidentId uuid m m' r, m.incident (number incidentId) ≠ none →
      Prog.Exec (receives chunks) keeps (addAttachment (some b.contentType) incidentId uuid) m () m' () r →
      ∃ attachment, r = .ok (some ⟨201, .attachment attachment⟩) ∧ attachment.filename = form.filename ∧
        m'.objectStore attachment.objectName = some form.content

/-- Every handler may run when its body comes in these chunks. -/
theorem exists_exec {α : Type} (chunks : List Buffer) (p : Svc α) (m : Memory) :
    ∃ m' r, Prog.Exec (receives chunks) keeps p m () m' () r := by
  induction p generalizing m with
  | ret a => exact ⟨m, .ok a, rfl, rfl, rfl⟩
  | raise e => exact ⟨m, .error e, rfl, rfl, rfl⟩
  | get k ih => exact ih m m
  | set m₁ k ih => exact ih m₁
  | await q k ih =>
    have hreply : ∃ reply, receives chunks () q reply () := by
      cases q with
      | body => exact ⟨some chunks, rfl⟩
      | turn => exact ⟨(), trivial⟩
      | _ => exact ⟨none, trivial⟩
    obtain ⟨reply, hreply⟩ := hreply
    obtain ⟨m', r, h⟩ := ih reply m
    exact ⟨m', r, reply, (), m, hreply, fun _ _ hn => hn, h⟩

theorem exec_readMultipart {b : Boundary} {chunks : List Buffer} {m m' : Memory} {r : Except Error (Option File)} :
    Prog.Exec (receives chunks) keeps (readMultipart (some b.contentType)) m () m' () r ↔
      keeps m m' ∧ r = .ok (multipart b.mark chunks.flatten) := by
  rw [readMultipart, b.boundary_contentType]
  constructor
  · rintro ⟨reply, ⟨⟩, m₁, rfl, hm, rfl, -, rfl⟩
    exact ⟨hm, rfl⟩
  · rintro ⟨hm, rfl⟩
    exact ⟨some chunks, (), m', rfl, hm, rfl, rfl, rfl⟩

theorem exec_commitEvent {chunks : List Buffer} {event : IncidentEvent} {m m' : Memory} {r : Except Error Unit}
    (h : Prog.Exec (receives chunks) keeps (commitEvent event) m () m' () r) : r = .ok () ∧ keeps m m' := by
  have h := Prog.exec_read.1 h
  change Prog.Exec _ _ (ite _ _ _) _ _ _ _ _ at h
  split at h
  · obtain ⟨-, -, m₁, -, hm₁, -, -, m₂, -, hm₂, rfl, -, rfl⟩ := h
    exact ⟨rfl, fun name data hn => hm₂ _ _ (hm₁ _ _ hn)⟩
  · obtain ⟨-, -, m₁, -, hm₁, rfl, -, rfl⟩ := h
    exact ⟨rfl, hm₁⟩

/-- What is attached is what `readMultipart` returns. -/
theorem exec_addAttachment {b : Boundary} {chunks : List Buffer} {file : File} {incidentId uuid : String}
    {m m' : Memory} {r : Except Error (Option Response)} (hfile : multipart b.mark chunks.flatten = some file)
    (hincident : m.incident (number incidentId) ≠ none)
    (h : Prog.Exec (receives chunks) keeps (addAttachment (some b.contentType) incidentId uuid) m () m' () r) :
    ∃ attachment, r = .ok (some ⟨201, .attachment attachment⟩) ∧ attachment.filename = file.filename ∧
      m'.objectStore attachment.objectName = some file.data := by
  have h := Prog.exec_read.1 h
  split at h
  · contradiction
  · rcases Prog.exec_bind.1 h with ⟨found, m₁, ⟨⟩, hread, h⟩ | ⟨e, hread, -⟩
    · obtain ⟨-, hfound⟩ := exec_readMultipart.1 hread
      rw [hfile] at hfound
      cases hfound
      have h : Prog.Exec (receives chunks) keeps (commitEvent _ >>= fun _ => json 201 _) _ () m' () r := h
      rcases Prog.exec_bind.1 h with ⟨⟨⟩, m₂, ⟨⟩, hcommit, hjson⟩ | ⟨e, hcommit, -⟩
      · obtain ⟨rfl, -, rfl⟩ := hjson
        refine ⟨_, rfl, rfl, (exec_commitEvent hcommit).2 _ _ ?_⟩
        exact Function.update_self ..
      · cases (exec_commitEvent hcommit).1
    · cases (exec_readMultipart.1 hread).2

/-! ## When a file comes back -/

theorem Boundary.infix_sent_iff (b : Boundary) (s : String) : b.mark <:+: sent s ↔ b.delimiter <:+: utf8 s := by
  rw [← b.binary_delimiter, sent, infix_binary]

/-- A form that comes back has its file in a part of its own. -/
theorem Form.RoundTrip.part {b : Boundary} {form : Form b} (h : form.RoundTrip) :
    form.filename ≠ "" ∧ ¬ b.mark <:+: sent form.filename ∧
      filePart (binary form.part) = some ⟨form.filename, form.content⟩ := by
  have hflat : [form.encode].flatten = form.encode := by simp
  have hread := (h [form.encode] hflat).1 (Memory.init false) (Memory.init false) _
    (exec_readMultipart.2 ⟨fun _ _ hn => hn, rfl⟩)
  rw [hflat, Except.ok.injEq] at hread
  obtain ⟨hne, hfree⟩ := multipart_filename b.mark_ne hread
  have hsent : ¬ b.mark <:+: sent form.filename :=
    fun hi => hfree (infix_of_infix_sent (fun c hc => b.mark_ascii hc) b.mark_ne hi)
  exact ⟨hne, hsent, multipart_encode form hsent ▸ hread⟩

/-- The file comes back when its name is not empty, in ASCII and without the delimiter, and
its content neither has an empty line nor ends with a line break, and only then. -/
theorem upload_roundTrip_iff {b : Boundary} (form : Form b) : form.RoundTrip ↔
    form.filename ≠ "" ∧ Ascii form.filename ∧ ¬ b.delimiter <:+: utf8 form.filename ∧ OneBlock form.content := by
  constructor
  · intro h
    obtain ⟨hne, hsent, hpart⟩ := h.part
    have hblock : OneBlock form.content := by
      by_contra hblocks
      exact absurd (filePart_blocks form hblocks hpart) (Nat.lt_irrefl _)
    rw [filePart_block form hne hblock, Option.some.injEq, File.mk.injEq] at hpart
    have hname : sent form.filename = form.filename.toList := by
      rw [← String.toList_ofList (l := sent form.filename), hpart.1]
    exact ⟨hne, (sent_eq_iff _).1 hname, fun hi => hsent ((b.infix_sent_iff _).2 hi), hblock⟩
  · rintro ⟨hne, hascii, hfree, hblock⟩ chunks hchunks
    have hfile : multipart b.mark chunks.flatten = some ⟨form.filename, form.content⟩ := by
      rw [hchunks, multipart_encode form fun hi => hfree ((b.infix_sent_iff _).1 hi), filePart_block form hne hblock,
        sent_ascii hascii, String.ofList_toList]
    refine ⟨fun m m' r h => ?_, fun incidentId uuid m m' r hincident h => exec_addAttachment hfile hincident h⟩
    rw [(exec_readMultipart.1 h).2, hfile]

def Boundary.sample : Boundary := ⟨"X7f", by decide, List.all_eq_true.1 (by decide)⟩

/-- A form whose file has this content. -/
def Form.note (content : Buffer) (hcontent : ¬ Boundary.sample.delimiter <:+: content) : Form .sample where
  before := []
  filename := "notes.txt"
  headers := [⟨"Content-Type: text/plain", by decide, by simp, by decide⟩]
  content
  after := []
  plain := by decide
  apart := hcontent

/-- A form whose file has one paragraph. -/
def Form.oneBlock := Form.note (utf8 "one") (by decide)

/-- A form whose file has two. -/
def Form.sample := Form.note (utf8 "one\r\n\r\ntwo") (by decide)

/-- An incident to attach the file to. -/
def Memory.sample : Memory :=
  { Memory.init false with incidents := [⟨1, .str "Flood", .null, .str "HIGH", .str "OPEN", []⟩] }

/-- The one paragraph is attached, and comes back. -/
theorem upload_roundTrip_sample : ∃ m' attachment,
    Prog.Exec (receives [Form.oneBlock.encode]) keeps (addAttachment (some Boundary.sample.contentType) "1" "u") Memory.sample ()
      m' () (.ok (some ⟨201, .attachment attachment⟩)) ∧
    attachment.filename = "notes.txt" ∧ m'.objectStore attachment.objectName = some (utf8 "one") := by
  have hfree : ¬ Boundary.sample.delimiter <:+: utf8 "notes.txt" := by decide
  have hblock : OneBlock (utf8 "one") := ⟨by decide, by decide⟩
  have hround := (upload_roundTrip_iff Form.oneBlock).2 ⟨by decide, by decide, hfree, hblock⟩
  obtain ⟨m', r, hexec⟩ := exists_exec [Form.oneBlock.encode] (addAttachment (some Boundary.sample.contentType) "1" "u")
    Memory.sample
  obtain ⟨attachment, rfl, hname, hstored⟩ := (hround _ (by simp)).2 "1" "u" _ _ _ (by decide) hexec
  exact ⟨m', attachment, hexec, hname, hstored⟩

/-- Of the two paragraphs the second does not come back. -/
theorem upload_paragraphs : ¬ Form.sample.RoundTrip := by
  intro h
  obtain ⟨-, -, hpart⟩ := h.part
  have hblocks : ¬ OneBlock Form.sample.content := (infix_append_crlf _).1 (by decide)
  exact absurd (filePart_blocks Form.sample hblocks hpart) (Nat.lt_irrefl _)

end Tactix.IncidentSvc.Listener
