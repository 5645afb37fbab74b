import Tactix.Js
import Tactix.Lib.Cursor
import Tactix.Lib.Disk
import Tactix.Lib.Occurs
import Tactix.Lib.Runs
import Mathlib.Data.Prod.Lex
import Mathlib.Order.Nat
/-!
# The stream consumer

`stream-consumer.js`, one process for each stream, stopping and starting at any
point. A process goes on from the text in its file, and two streams may have
one file: `never_skipped_iff` says that this is all that can go wrong.
-/
open Tactix.Js ServiceLib

namespace Tactix.Realtime.Consumer

/-! ## Ids and texts -/

/-- Milliseconds and a sequence number. -/
abbrev Id := Nat ×ₗ Nat

def Id.text (id : Id) : List Char := Nat.toDigits 10 (ofLex id).1 ++ '-' :: Nat.toDigits 10 (ofLex id).2

def readNat (cs : List Char) : Option Nat :=
  if cs ≠ [] ∧ cs.all Char.isDigit then some (Nat.ofDigitChars 10 cs 0) else none

/-- What `XREAD` takes a text for: the sequence number may be left out, and
a text that is no id is refused. -/
def readId (cs : List Char) : Option Id :=
  match cs.dropWhile (· ≠ '-') with
  | [] => (readNat cs).map fun ms => toLex (ms, 0)
  | _ :: seq => (readNat (cs.takeWhile (· ≠ '-'))).bind fun ms => (readNat seq).map fun seq => toLex (ms, seq)

theorem readNat_toDigits (n : Nat) : readNat (Nat.toDigits 10 n) = some n := by
  rw [readNat, if_pos ⟨Nat.toDigits_ne_nil, List.all_eq_true.2 fun c hc =>
    Nat.isDigit_of_mem_toDigits (by omega) (by omega) hc⟩, Nat.ofDigitChars_ten_toDigits]

/-- Digits cut off leave a smaller number. -/
theorem readNat_le {cs rest : List Char} {n m : Nat} (h : readNat cs = some n) (hall : readNat (cs ++ rest) = some m) :
    n ≤ m := by
  unfold readNat at h hall
  split at h
  · split at hall
    · cases h
      cases hall
      rw [Nat.ofDigitChars_append, Nat.ofDigitChars_eq_ofDigitChars_zero (l := rest)]
      exact Nat.le_trans (Nat.le_mul_of_pos_left _ (Nat.pow_pos (by omega))) (Nat.le_add_right _ _)
    · cases hall
  · cases h

theorem dash_not_mem (n : Nat) : '-' ∉ Nat.toDigits 10 n :=
  fun h => by cases Nat.isDigit_of_mem_toDigits (by omega) (by omega) h

theorem readId_text (id : Id) : readId id.text = some id := by
  have hdash := dash_not_mem (ofLex id).1
  rw [readId, Id.text, takeWhile_cut hdash, dropWhile_cut hdash]
  simp [readNat_toDigits]

/-- Where a text may be torn: before its dash or after. -/
theorem torn_text {cs : List Char} {id : Id} (h : cs <+: id.text) :
    (∃ rest, Nat.toDigits 10 (ofLex id).1 = cs ++ rest) ∨
      ∃ seq rest, cs = Nat.toDigits 10 (ofLex id).1 ++ '-' :: seq ∧ Nat.toDigits 10 (ofLex id).2 = seq ++ rest := by
  obtain ⟨rest, hrest⟩ := h
  rcases List.append_eq_append_iff.1 hrest with ⟨more, hms, -⟩ | ⟨more, hcs, htail⟩
  · exact .inl ⟨more, hms⟩
  · cases more with
    | nil => exact .inl ⟨[], by simp [hcs]⟩
    | cons c more =>
      rw [List.cons_append, List.cons.injEq] at htail
      exact .inr ⟨more, rest, htail.1 ▸ hcs, htail.2⟩

/-- A torn text is refused, or goes back to an earlier position. -/
theorem readId_le {cs : List Char} {id pos : Id} (h : cs <+: id.text) (hread : readId cs = some pos) : pos ≤ id := by
  have hms := readNat_toDigits (ofLex id).1
  have hseq := readNat_toDigits (ofLex id).2
  rcases torn_text h with ⟨rest, hrest⟩ | ⟨more, rest, rfl, hrest⟩
  · have hdash : '-' ∉ cs := fun hmem => dash_not_mem (ofLex id).1 (hrest ▸ List.mem_append_left _ hmem)
    rw [readId, dropWhile_of_notMem hdash] at hread
    obtain ⟨ms, hms', rfl⟩ := Option.map_eq_some_iff.1 hread
    rw [hrest] at hms
    exact Prod.Lex.toLex_mono (Prod.mk_le_mk.2 ⟨readNat_le hms' hms, Nat.zero_le _⟩)
  · have hdash := dash_not_mem (ofLex id).1
    rw [readId, dropWhile_cut hdash, takeWhile_cut hdash] at hread
    dsimp only at hread
    rw [hms, Option.bind_some] at hread
    obtain ⟨seq, hseq', rfl⟩ := Option.map_eq_some_iff.1 hread
    rw [hrest] at hseq
    exact Prod.Lex.toLex_mono (Prod.mk_le_mk.2 ⟨Nat.le_refl _, readNat_le hseq' hseq⟩)

/-! ## The processes -/

/-- A path below the directory of the script, by its parts. -/
abbrev Path := List String

abbrev Files := Disk Path Char

/-- The script stops at an empty argument. -/
abbrev Stream := { name : String // name ≠ "" }

/-- `stream.replace(/[.:]/g, '_')`. -/
def replaced (stream : Stream) : List Char := stream.val.toList.map fun c => if c = '.' ∨ c = ':' then '_' else c

/-- `lastIdFile`. `path.join` drops empty parts. -/
def lastIdFile (stream : Stream) : Path := (split (String.ofList (replaced stream) ++ ".lastid") '/').filter (· ≠ "")

structure Message where
  id : Id
  /-- The field the script prints. -/
  message : Option String

inductive Process where
  | stopped
  | started
  /-- `existsSync` has found the file. -/
  | found
  /-- At `xRead`. -/
  | reading (lastId : List Char)
  | printing (lastId : List Char) (messages : List Message)
  /-- In `writeFileSync`, with the file open and some of the text written. -/
  | writing (lastId : List Char) (file written : Nat)

/-- A stream, what its consumer has printed, and the process that runs. -/
structure Feed where
  entries : List Message
  printed : List Message
  process : Process

def Feed.init : Feed := ⟨[], [], .stopped⟩

/-- `opens` tells which paths can be opened to write. The directory of the path has
to exist, for one. -/
inductive Move (opens : Path → Prop) (path : Path) : Feed → Files → Feed → Files → Prop
  | arrive {feed : Feed} {disk : Files} {m : Message} : (∀ e ∈ feed.entries, e.id < m.id) → ⊥ < m.id →
      Move opens path feed disk { feed with entries := feed.entries ++ [m] } disk
  | start {feed : Feed} {disk : Files} : feed.process = .stopped →
      Move opens path feed disk { feed with process := .started } disk
  | fresh {feed : Feed} {disk : Files} : feed.process = .started → disk.read path = none →
      Move opens path feed disk { feed with process := .reading "0-0".toList } disk
  | find {feed : Feed} {disk : Files} : feed.process = .started → disk.read path ≠ none →
      Move opens path feed disk { feed with process := .found } disk
  | load {feed : Feed} {disk : Files} {text : List Char} : feed.process = .found → disk.read path = some text →
      Move opens path feed disk { feed with process := .reading text } disk
  /-- `XREAD` answers with the next entries, any number of them. -/
  | xRead {feed : Feed} {disk : Files} {lastId : List Char} {pos : Id} {messages : List Message} :
      feed.process = .reading lastId → readId lastId = some pos → messages ≠ [] →
      messages <+: after Message.id feed.entries pos →
      Move opens path feed disk { feed with process := .printing lastId messages } disk
  | print {feed : Feed} {disk : Files} {lastId : List Char} {m : Message} {messages : List Message} :
      feed.process = .printing lastId (m :: messages) →
      Move opens path feed disk { feed with printed := feed.printed ++ [m], process := .printing m.id.text messages } disk
  | openFile {feed : Feed} {disk : Files} {lastId : List Char} : feed.process = .printing lastId [] → opens path →
      Move opens path feed disk { feed with process := .writing lastId (disk.openTrunc path).1 0 } (disk.openTrunc path).2
  | write {feed : Feed} {disk : Files} {lastId : List Char} {f n k : Nat} : feed.process = .writing lastId f n → 0 < k →
      n + k ≤ lastId.length →
      Move opens path feed disk { feed with process := .writing lastId f (n + k) }
        (disk.writeAt f n ((lastId.drop n).take k))
  | close {feed : Feed} {disk : Files} {lastId : List Char} {f : Nat} : feed.process = .writing lastId f lastId.length →
      Move opens path feed disk { feed with process := .reading lastId } disk
  /-- Also where a call throws: `xRead` on a text that is no id, and `writeFileSync` without a directory. -/
  | crash {feed : Feed} {disk : Files} : Move opens path feed disk { feed with process := .stopped } disk

structure State where
  feeds : Stream → Feed
  disk : Files

def State.init : State := ⟨fun _ => .init, .empty⟩

/-- One of the processes makes a move, or its stream does. -/
inductive Step (names : Set Stream) (opens : Path → Prop) : State → Stream → State → Prop
  | move {s : State} {stream : Stream} {feed : Feed} {disk : Files} : stream ∈ names →
      Move opens (lastIdFile stream) (s.feeds stream) s.disk feed disk →
      Step names opens s stream ⟨Function.update s.feeds stream feed, disk⟩

/-- Where the consumer reads on: from what a restart finds, or from where it is. -/
def Resumes (path : Path) (feed : Feed) (disk : Files) (pos : Id) : Prop :=
  readId ((disk.read path).getD "0-0".toList) = some pos ∨
    ∃ lastId, feed.process = .reading lastId ∧ readId lastId = some pos

/-- Every message has been printed, or is still ahead. -/
def NoneSkipped (s : State) (stream : Stream) : Prop :=
  ∀ m ∈ (s.feeds stream).entries, m ∈ (s.feeds stream).printed ∨
    ∀ pos, Resumes (lastIdFile stream) (s.feeds stream) s.disk pos → pos < m.id

/-- No two of the streams have one file, but for files that are never written. -/
def OwnFiles (names : Set Stream) (opens : Path → Prop) : Prop :=
  ∀ a ∈ names, ∀ b ∈ names, lastIdFile a = lastIdFile b → opens (lastIdFile a) → a = b

/-! ## One process -/

/-- The text of a covered position, or a torn one. -/
def Marks (feed : Feed) (text : List Char) : Prop :=
  ∃ pos, text <+: Id.text pos ∧ Covered Message.id feed.entries feed.printed pos

def Tracks (opens : Path → Prop) (path : Path) (feed : Feed) (disk : Files) : Prop :=
  match feed.process with
  | .stopped | .started | .found => True
  | .reading lastId => Marks feed lastId
  | .printing lastId messages => Marks feed lastId ∧ ∃ pos, Covered Message.id feed.entries feed.printed pos ∧
      messages <+: after Message.id feed.entries pos
  | .writing lastId f n => Marks feed lastId ∧ n ≤ lastId.length ∧ opens path ∧ disk.entry path = some f ∧
      disk.data f = lastId.take n

structure FeedSound (opens : Path → Prop) (path : Path) (feed : Feed) (disk : Files) : Prop where
  ascending : Ascending Message.id feed.entries
  positive : ∀ m ∈ feed.entries, ⊥ < m.id
  tracks : Tracks opens path feed disk
  stored : ∀ text, disk.read path = some text → Marks feed text

section
variable {opens : Path → Prop} {path : Path} {feed feed' : Feed} {disk disk' : Files}

theorem Marks.torn {text text' : List Char} (h : Marks feed text) (ht : text' <+: text) : Marks feed text' := by
  obtain ⟨pos, hpos, hc⟩ := h
  exact ⟨pos, ht.trans hpos, hc⟩

/-- Reading on from a marked text skips nothing. -/
theorem Marks.covered {text : List Char} {pos : Id} (h : Marks feed text) (hread : readId text = some pos) :
    Covered Message.id feed.entries feed.printed pos := by
  obtain ⟨id, hid, hc⟩ := h
  exact hc.mono (readId_le hid hread)

theorem Marks.map {text : List Char} (h : Marks feed text)
    (hc : ∀ pos, Covered Message.id feed.entries feed.printed pos → Covered Message.id feed'.entries feed'.printed pos) :
    Marks feed' text := by
  obtain ⟨pos, hpos, hcovered⟩ := h
  exact ⟨pos, hpos, hc pos hcovered⟩

theorem FeedSound.init : FeedSound opens path .init .empty :=
  ⟨.nil, by simp [Feed.init], trivial, by simp [Disk.read, Disk.empty]⟩

/-- `0-0` is a position before all messages. -/
theorem FeedSound.zero (h : FeedSound opens path feed disk) : Marks feed "0-0".toList :=
  ⟨⊥, List.prefix_refl _, covered_bot h.positive⟩

theorem FeedSound.arrive (h : FeedSound opens path feed disk) {m : Message} (hm : ∀ e ∈ feed.entries, e.id < m.id)
    (hpos : ⊥ < m.id) : FeedSound opens path { feed with entries := feed.entries ++ [m] } disk := by
  have hmarks : ∀ text, Marks feed text → Marks { feed with entries := feed.entries ++ [m] } text :=
    fun text ht => ht.map fun pos hc => hc.append hm hpos
  refine ⟨h.ascending.append hm, fun e he => ?_, ?_, fun text ht => hmarks text (h.stored text ht)⟩
  · rcases List.mem_append.1 he with he | he
    · exact h.positive e he
    · rwa [List.mem_singleton.1 he]
  · have htracks := h.tracks
    unfold Tracks at htracks ⊢
    dsimp only
    cases hc : feed.process with
    | stopped | started | found => trivial
    | reading lastId =>
      rw [hc] at htracks
      exact hmarks lastId htracks
    | printing lastId messages =>
      rw [hc] at htracks
      obtain ⟨hlast, pos, hcovered, hmessages⟩ := htracks
      refine ⟨hmarks lastId hlast, pos, hcovered.append hm hpos, ?_⟩
      rw [after_append]
      exact hmessages.trans (List.prefix_append _ _)
    | writing lastId f n =>
      rw [hc] at htracks
      exact ⟨hmarks lastId htracks.1, htracks.2⟩

theorem FeedSound.print (h : FeedSound opens path feed disk) {lastId : List Char} {m : Message} {messages : List Message}
    (hp : feed.process = .printing lastId (m :: messages)) :
    FeedSound opens path { feed with printed := feed.printed ++ [m], process := .printing m.id.text messages } disk := by
  have htracks := h.tracks
  rw [Tracks, hp] at htracks
  obtain ⟨-, pos, hcovered, hmessages⟩ := htracks
  obtain ⟨rest, hrest⟩ := hmessages
  refine ⟨h.ascending, h.positive, ⟨⟨m.id, List.prefix_refl _, ?_⟩, m.id, ?_, ?_⟩, fun text ht => ?_⟩
  · exact hcovered.next h.ascending hrest.symm
  · exact hcovered.next h.ascending hrest.symm
  · exact ⟨rest, (after_next h.ascending hrest.symm).symm⟩
  · exact (h.stored text ht).map fun pos hc => hc.more m

/-- The file is empty before it holds the text. -/
theorem FeedSound.openFile (h : FeedSound opens path feed disk) {lastId : List Char}
    (hp : feed.process = .printing lastId []) (hopens : opens path) :
    FeedSound opens path { feed with process := .writing lastId (disk.openTrunc path).1 0 } (disk.openTrunc path).2 := by
  have htracks := h.tracks
  rw [Tracks, hp] at htracks
  refine ⟨h.ascending, h.positive, ⟨htracks.1, Nat.zero_le _, hopens, Disk.entry_openTrunc, Disk.data_openTrunc⟩, fun text ht => ?_⟩
  rw [Disk.read_openTrunc, if_pos rfl] at ht
  cases ht
  exact htracks.1.torn (List.nil_prefix)

theorem FeedSound.write (h : FeedSound opens path feed disk) {lastId : List Char} {f n k : Nat}
    (hp : feed.process = .writing lastId f n) (hk : n + k ≤ lastId.length) :
    FeedSound opens path { feed with process := .writing lastId f (n + k) } (disk.writeAt f n ((lastId.drop n).take k)) := by
  have htracks := h.tracks
  rw [Tracks, hp] at htracks
  obtain ⟨hmarks, hn, hopens, hentry, hdata⟩ := htracks
  have hwritten := Disk.data_writeAt hdata hn k
  refine ⟨h.ascending, h.positive, ⟨hmarks, hk, hopens, hentry, hwritten⟩, fun text ht => ?_⟩
  rw [Disk.read_writeAt hentry, if_pos rfl, hwritten] at ht
  cases ht
  exact hmarks.torn (List.take_prefix ..)

theorem move_sound (h : FeedSound opens path feed disk) (hm : Move opens path feed disk feed' disk') :
    FeedSound opens path feed' disk' := by
  have htracks := h.tracks
  cases hm with
  | arrive hm hpos => exact h.arrive hm hpos
  | start | find | crash => exact ⟨h.ascending, h.positive, trivial, h.stored⟩
  | fresh => exact ⟨h.ascending, h.positive, h.zero, h.stored⟩
  | load _ htext => exact ⟨h.ascending, h.positive, h.stored _ htext, h.stored⟩
  | xRead hp hread _ hmessages =>
    rw [Tracks, hp] at htracks
    exact ⟨h.ascending, h.positive, ⟨htracks, _, htracks.covered hread, hmessages⟩, h.stored⟩
  | print hp => exact h.print hp
  | openFile hp hopens => exact h.openFile hp hopens
  | write hp _ hk => exact h.write hp hk
  | close hp =>
    rw [Tracks, hp] at htracks
    exact ⟨h.ascending, h.positive, htracks.1, h.stored⟩

/-- A move writes the file of its stream, and only if that can be opened. -/
theorem move_other (h : FeedSound opens path feed disk) (hm : Move opens path feed disk feed' disk') {path' : Path}
    (hother : path' = path → ¬ opens path) : disk'.entry path' = disk.entry path' ∧ disk'.read path' = disk.read path' := by
  have htracks := h.tracks
  cases hm with
  | openFile hp hopens =>
    have hne : path' ≠ path := fun he => hother he hopens
    exact ⟨by rw [(Disk.opened disk path).entry, Function.update_of_ne hne], by rw [Disk.read_openTrunc, if_neg hne]⟩
  | write hp =>
    rw [Tracks, hp] at htracks
    have hne : path' ≠ path := fun he => hother he htracks.2.2.1
    exact ⟨rfl, by rw [Disk.read_writeAt htracks.2.2.2.1, if_neg hne]⟩
  | _ => exact ⟨rfl, rfl⟩

/-- What one stream knows of the disk is its own file. -/
theorem FeedSound.congr (h : FeedSound opens path feed disk) (hentry : disk'.entry path = disk.entry path)
    (hread : disk'.read path = disk.read path) : FeedSound opens path feed disk' := by
  refine ⟨h.ascending, h.positive, ?_, fun text ht => h.stored text (hread ▸ ht)⟩
  have htracks := h.tracks
  unfold Tracks at htracks ⊢
  cases hp : feed.process with
  | writing lastId f n =>
    rw [hp] at htracks
    obtain ⟨hmarks, hn, hopens, hf, hdata⟩ := htracks
    have hf' : disk'.entry path = some f := hentry.trans hf
    refine ⟨hmarks, hn, hopens, hf', ?_⟩
    rw [Disk.read, Disk.read, hf, hf'] at hread
    exact (Option.some.inj hread).trans hdata
  | _ =>
    rw [hp] at htracks
    exact htracks

end

/-! ## All of them -/

section
variable {names : Set Stream} {opens : Path → Prop}

theorem reachable_sound (hown : OwnFiles names opens) {s : State} (h : Reachable (Step names opens) .init s) :
    ∀ stream ∈ names, FeedSound opens (lastIdFile stream) (s.feeds stream) s.disk := by
  refine h.inv (I := fun s => ∀ stream ∈ names, FeedSound opens (lastIdFile stream) (s.feeds stream) s.disk)
    (fun _ _ => .init) fun s stream s' hs ht b hb => ?_
  cases ht with
  | move hmem hm =>
    by_cases he : b = stream
    · subst he
      simp only [Function.update_self]
      exact move_sound (hs b hb) hm
    · simp only [Function.update_of_ne he]
      have hother : lastIdFile b = lastIdFile stream → ¬ opens (lastIdFile stream) := fun hfile hopens =>
        he (hown stream hmem b hb hfile.symm hopens).symm
      obtain ⟨hentry, hread⟩ := move_other (hs stream hmem) hm hother
      exact (hs b hb).congr hentry hread

theorem FeedSound.noneSkipped {s : State} {stream : Stream}
    (h : FeedSound opens (lastIdFile stream) (s.feeds stream) s.disk) : NoneSkipped s stream := by
  intro m hm
  by_cases hprinted : m ∈ (s.feeds stream).printed
  · exact .inl hprinted
  refine .inr fun pos hresumes => lt_of_not_ge fun hle => ?_
  suffices hmarks : ∃ text, Marks (s.feeds stream) text ∧ readId text = some pos by
    obtain ⟨text, hmarks, hread⟩ := hmarks
    exact hprinted ((hmarks.covered hread).read m hm hle)
  rcases hresumes with hread | ⟨lastId, hp, hread⟩
  · refine ⟨_, ?_, hread⟩
    cases htext : s.disk.read (lastIdFile stream) with
    | none => exact h.zero
    | some text => exact h.stored text htext
  · have htracks := h.tracks
    rw [Tracks, hp] at htracks
    exact ⟨lastId, htracks, hread⟩

/-- Moves of one process, the others waiting. -/
inductive Moves (opens : Path → Prop) (path : Path) (feed : Feed) (disk : Files) : Feed → Files → Prop
  | refl : Moves opens path feed disk feed disk
  | next {feed' feed'' : Feed} {disk' disk'' : Files} : Moves opens path feed disk feed' disk' →
      Move opens path feed' disk' feed'' disk'' → Moves opens path feed disk feed'' disk''

theorem reachable_moves {s : State} {stream : Stream} {feed feed' : Feed} {disk : Files} (hmem : stream ∈ names)
    (hs : Reachable (Step names opens) .init s) (hfeed : s.feeds stream = feed)
    (hm : Moves opens (lastIdFile stream) feed s.disk feed' disk) :
    Reachable (Step names opens) .init ⟨Function.update s.feeds stream feed', disk⟩ := by
  subst hfeed
  induction hm with
  | refl => rwa [Function.update_eq_self]
  | next _ hm ih =>
    have hstep := ih.step (.move hmem (by simpa only [Function.update_self] using hm))
    rwa [Function.update_idem] at hstep

/-- A consumer that starts on a stream with one message prints it and ends with the id in its file. -/
theorem prints_first {path : Path} (hopens : opens path) {m : Message} (hm : ⊥ < m.id) :
    ∃ feed disk, Moves opens path .init .empty feed disk ∧ disk.read path = some m.id.text ∧ feed.printed = [m] := by
  have hfirst : [m] <+: after Message.id [m] ⊥ := by simp [after, hm]
  have harrived : Moves opens path .init .empty ⟨[m], [], .stopped⟩ .empty := .next .refl (.arrive (by simp [Feed.init]) hm)
  have hread : Moves opens path .init .empty ⟨[m], [], .reading "0-0".toList⟩ .empty :=
    (harrived.next (.start rfl)).next (.fresh rfl rfl)
  have hprinted : Moves opens path .init .empty ⟨[m], [m], .printing m.id.text []⟩ .empty :=
    (hread.next (.xRead rfl (readId_text ⊥) (by simp) hfirst)).next (.print rfl)
  have hopened := hprinted.next (.openFile rfl hopens)
  have hlen : 0 < m.id.text.length := List.length_pos_iff.2 (by simp [Id.text])
  have hwritten := hopened.next (.write rfl hlen (Nat.le_of_eq (Nat.zero_add _)))
  rw [List.drop_zero, List.take_length] at hwritten
  -- Opened, and written at once.
  have hfile := Disk.read_writeFile (d := (.empty : Files)) (p := path) (q := path) m.id.text
  rw [if_pos rfl] at hfile
  exact ⟨_, _, hwritten, hfile, rfl⟩

variable (opens) in
/-- With one file for two streams, a message of one is behind the id of the other. -/
theorem shared_skips {a b : Stream} (ha : a ∈ names) (hb : b ∈ names) (hne : a ≠ b) (hfile : lastIdFile a = lastIdFile b)
    (hopens : opens (lastIdFile a)) : ∃ s, Reachable (Step names opens) .init s ∧ ¬ NoneSkipped s b := by
  obtain ⟨feed, disk, hmoves, hread, -⟩ := prints_first hopens (m := ⟨toLex (2, 0), none⟩) (by decide)
  have harrived : Reachable (Step names opens) .init _ :=
    .step .refl (.move hb (.arrive (m := ⟨toLex (1, 0), none⟩) (by simp [State.init, Feed.init]) (by decide)))
  have hs := reachable_moves ha harrived (Function.update_of_ne hne ..) hmoves
  refine ⟨_, hs, fun hnone => ?_⟩
  simp only [NoneSkipped, Function.update_of_ne hne.symm, Function.update_self] at hnone
  rcases hnone ⟨toLex (1, 0), none⟩ (List.mem_append_right _ (List.mem_singleton_self _)) with hprinted | hahead
  · simp [State.init, Feed.init] at hprinted
  · rw [hfile] at hread
    have hpos : readId ((disk.read (lastIdFile b)).getD "0-0".toList) = some (toLex (2, 0)) := by
      rw [hread]
      exact readId_text _
    exact absurd (hahead _ (.inl hpos)) (by decide)

/-- No message is skipped in any run, if and only if no two streams have one file that
can be written. -/
theorem never_skipped_iff (names : Set Stream) (opens : Path → Prop) :
    (∀ s, Reachable (Step names opens) .init s → ∀ stream ∈ names, NoneSkipped s stream) ↔ OwnFiles names opens := by
  constructor
  · intro hall a ha b hb hfile hopens
    by_contra hne
    obtain ⟨s, hs, hskipped⟩ := shared_skips opens ha hb hne hfile hopens
    exact hskipped (hall s hs b hb)
  · intro hown s hs stream hmem
    exact (reachable_sound hown hs stream hmem).noneSkipped

/-! ## Two names of one file, and of two files -/

namespace Sample

def dot : Stream := ⟨"rt.incident.7", by simp⟩

def global : Stream := ⟨"rt.global", by simp⟩

def colon : Stream := ⟨"rt.incident:7", by simp⟩

theorem dot_ne_colon : dot ≠ colon := by simp [dot, colon]

theorem lastIdFile_dot : lastIdFile dot = lastIdFile colon := by
  have hreplaced : replaced dot = replaced colon := by simp [replaced, dot, colon]
  rw [lastIdFile, hreplaced, lastIdFile]

theorem ownFiles (opens : Path → Prop) : OwnFiles {dot, global} opens := by
  have hne : lastIdFile dot ≠ lastIdFile global := by decide
  rintro a (rfl | rfl) b (rfl | rfl) hfile -
  · rfl
  · exact absurd hfile hne
  · exact absurd hfile.symm hne
  · rfl

end Sample

/-- Beside the consumer of `rt.global`, that of `rt.incident.7` prints its first
message and keeps the id; nothing is skipped. -/
theorem never_skipped_sample : ∃ s : State, (s.feeds Sample.dot).printed = [⟨toLex (1, 0), none⟩] ∧
    NoneSkipped s Sample.dot ∧ NoneSkipped s Sample.global := by
  have hdot : Sample.dot ∈ ({Sample.dot, Sample.global} : Set Stream) := .inl rfl
  obtain ⟨feed, disk, hmoves, -, hprinted⟩ :=
    @prints_first (fun _ => True) (lastIdFile Sample.dot) trivial ⟨toLex (1, 0), none⟩ (by decide)
  have hs := reachable_moves (s := .init) hdot .refl rfl hmoves
  have hnone := (never_skipped_iff {Sample.dot, Sample.global} fun _ => True).2 (Sample.ownFiles _) _ hs
  refine ⟨_, ?_, hnone _ (.inl rfl), hnone _ (.inr rfl)⟩
  simpa using hprinted

/-- The consumer of `rt.incident.7` moves that of `rt.incident:7` on. -/
theorem colon_skipped : ¬ ∀ (names : Set Stream) (opens : Path → Prop) s, Reachable (Step names opens) .init s →
    ∀ stream ∈ names, NoneSkipped s stream := by
  intro hall
  have hdot : Sample.dot ∈ ({Sample.dot, Sample.colon} : Set Stream) := .inl rfl
  have hcolon : Sample.colon ∈ ({Sample.dot, Sample.colon} : Set Stream) := .inr rfl
  obtain ⟨s, hs, hskipped⟩ := shared_skips (fun _ => True) hdot hcolon Sample.dot_ne_colon Sample.lastIdFile_dot trivial
  exact hskipped (hall _ _ s hs _ hcolon)

end

end Tactix.Realtime.Consumer
