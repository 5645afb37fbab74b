import Tactix.Bootstrap.Config
import Tactix.Lib.Disk
import Tactix.Lib.EventLoop
/-!
# The configuration file

`GET` and `POST /bootstrap/config`, step by step on the file system. Each `POST`
writes `tactix.config.json.tmp` and renames it, and all of them write the same
one: `config_sound` says what holds as long as none opens it while another is
at it. Numbers are those a text can hold: no `Infinity`, no `-0`, and none of the
limits of the engine.
-/
open Tactix.Js ServiceLib

namespace Tactix.Bootstrap

inductive Path where
  | config
  | tmp
  deriving DecidableEq

/-- A `POST` whose body `ConfigSchema` accepts. -/
inductive Post where
  | parsed (cfg : Config)
  /-- It has opened the file and written some bytes. -/
  | writing (cfg : Config) (file written : Nat)
  | renamed
  | applied
  /-- The rejection of `rename`, which nobody handles. -/
  | failed

/-- A `GET` that has opened the file: what it has read, and whether a post had renamed
its file then. -/
structure Get where
  file : Nat
  got : List UInt8
  renamed : Bool

structure State where
  disk : Disk Path UInt8
  posts : Nat → Option Post
  gets : Nat → Option Get
  /-- The configurations of the posts so far. -/
  posted : List Config
  /-- Some post has renamed its file. -/
  renamed : Bool
  /-- What the `GET`s have answered, and `renamed` when each opened the file. -/
  answers : List (Bool × Config)

def State.init : State := ⟨.empty, fun _ => none, fun _ => none, [], false, []⟩

inductive Action where
  | post (i : Nat)
  | openTmp (i : Nat)
  | write (i : Nat)
  | rename (i : Nat)
  | answer (i : Nat)
  | get (j : Nat)
  | read (j : Nat)
  | crash

inductive Step (texts : Texts) : State → Action → State → Prop
  | post {s : State} {i : Nat} {text : List Char} {body : Json} {cfg : Config} : s.posts i = none →
      parse texts.nums text = some body → Config.parse body = some cfg → Step texts s (.post i)
        { s with posts := Function.update s.posts i (some (.parsed cfg)), posted := s.posted ++ [cfg] }
  | openTmp {s : State} {i : Nat} {cfg : Config} : s.posts i = some (.parsed cfg) → Step texts s (.openTmp i)
      { s with disk := (s.disk.openTrunc .tmp).2,
               posts := Function.update s.posts i (some (.writing cfg (s.disk.openTrunc .tmp).1 0)) }
  | write {s : State} {i : Nat} {cfg : Config} {f n k : Nat} : s.posts i = some (.writing cfg f n) → 0 < k →
      n + k ≤ (cfg.bytes texts).length → Step texts s (.write i)
        { s with disk := s.disk.writeAt f n (((cfg.bytes texts).drop n).take k),
                 posts := Function.update s.posts i (some (.writing cfg f (n + k))) }
  | rename {s : State} {i : Nat} {cfg : Config} {f : Nat} {disk : Disk Path UInt8} :
      s.posts i = some (.writing cfg f (cfg.bytes texts).length) → s.disk.rename .tmp .config = some disk →
      Step texts s (.rename i) { s with disk, posts := Function.update s.posts i (some .renamed), renamed := true }
  | fail {s : State} {i : Nat} {cfg : Config} {f : Nat} :
      s.posts i = some (.writing cfg f (cfg.bytes texts).length) → s.disk.rename .tmp .config = none →
      Step texts s (.rename i) { s with posts := Function.update s.posts i (some .failed) }
  | answer {s : State} {i : Nat} : s.posts i = some .renamed →
      Step texts s (.answer i) { s with posts := Function.update s.posts i (some .applied) }
  /-- Without a file `readFile` throws. -/
  | missing {s : State} {j : Nat} : s.gets j = none → s.disk.entry .config = none →
      Step texts s (.get j) { s with answers := s.answers ++ [(s.renamed, defaultConfig)] }
  | get {s : State} {j f : Nat} : s.gets j = none → s.disk.entry .config = some f →
      Step texts s (.get j) { s with gets := Function.update s.gets j (some ⟨f, [], s.renamed⟩) }
  | read {s : State} {j k : Nat} {g : Get} : s.gets j = some g → 0 < k → g.got.length < (s.disk.data g.file).length →
      Step texts s (.read j)
        { s with gets := Function.update s.gets j
                   (some { g with got := g.got ++ ((s.disk.data g.file).drop g.got.length).take k }) }
  /-- At the end of the file. -/
  | done {s : State} {j : Nat} {g : Get} : s.gets j = some g → (s.disk.data g.file).length ≤ g.got.length →
      Step texts s (.read j) { s with gets := Function.update s.gets j none,
                                      answers := s.answers ++ [(g.renamed, Config.ofBytes texts g.got)] }
  | crash {s : State} : Step texts s .crash { s with posts := fun _ => none, gets := fun _ => none }

/-- A `GET` has answered with a posted configuration, or with the default when no post
had renamed its file; no post has failed; and once a post has renamed its file,
the next `GET` reads a posted configuration. -/
structure ConfigLaw (texts : Texts) (s : State) : Prop where
  answers : ∀ p ∈ s.answers, p.2 ∈ s.posted ∨ (p.2 = defaultConfig ∧ p.1 = false)
  applied : ∀ i, s.posts i ≠ some .failed
  stored : s.renamed = true → ∃ cfg ∈ s.posted, (s.disk.read .config).map (Config.ofBytes texts) = some cfg

/-- The post is between its `open` and its `rename`. -/
def Post.Writing (p : Post) : Prop := ∃ cfg f n, p = .writing cfg f n

/-- No post opens the temporary file while another has it open. -/
def Alone (s : State) : Action → Prop
  | .openTmp _ => ∀ j p, s.posts j = some p → ¬ p.Writing
  | _ => True

/-! ## What a step keeps -/

/-- What a file holds that a `GET` reads. -/
structure Whole (texts : Texts) (disk : Disk Path UInt8) (posted : List Config) (g : Get) : Prop where
  named : g.file < disk.next
  kept : disk.entry .tmp ≠ some g.file
  content : ∃ cfg ∈ posted, disk.data g.file = cfg.bytes texts
  got : g.got <+: disk.data g.file

structure Sound (texts : Texts) (s : State) : Prop where
  parsed : ∀ cfg ∈ s.posted, cfg.Parsed
  waiting : ∀ i cfg, s.posts i = some (.parsed cfg) → cfg ∈ s.posted
  writing : ∀ i cfg f n, s.posts i = some (.writing cfg f n) → cfg ∈ s.posted ∧ s.disk.entry .tmp = some f ∧
    s.disk.data f = (cfg.bytes texts).take n ∧ n ≤ (cfg.bytes texts).length
  alone : ∀ i j p p', s.posts i = some p → s.posts j = some p' → p.Writing → p'.Writing → i = j
  unfailed : ∀ i, s.posts i ≠ some .failed
  unset : s.renamed = false → s.disk.entry .config = none
  set : s.renamed = true → ∃ f, s.disk.entry .config = some f ∧ ∃ cfg ∈ s.posted, s.disk.data f = cfg.bytes texts
  reading : ∀ j g, s.gets j = some g → Whole texts s.disk s.posted g
  answers : ∀ p ∈ s.answers, p.2 ∈ s.posted ∨ (p.2 = defaultConfig ∧ p.1 = false)

section
variable {texts : Texts} {s s' : State}

theorem Whole.mono {disk disk' : Disk Path UInt8} {posted posted' : List Config} {g : Get} (h : Whole texts disk posted g)
    (hn : disk.next ≤ disk'.next) (ht : disk'.entry .tmp ≠ some g.file) (hd : disk'.data g.file = disk.data g.file)
    (hp : ∀ cfg ∈ posted, cfg ∈ posted') : Whole texts disk' posted' g := by
  obtain ⟨cfg, hc, hcontent⟩ := h.content
  exact ⟨Nat.lt_of_lt_of_le h.named hn, ht, ⟨cfg, hp cfg hc, hd.trans hcontent⟩, by rw [hd]; exact h.got⟩

theorem Sound.waiting_update (h : Sound texts s) {i : Nat} {p : Post} (hp : ∀ cfg, p ≠ .parsed cfg) (j : Nat) (cfg : Config)
    (hj : Function.update s.posts i (some p) j = some (.parsed cfg)) : cfg ∈ s.posted := by
  rcases update_cases hj with ⟨-, he⟩ | ⟨-, hj⟩
  · exact absurd he.symm (hp cfg)
  · exact h.waiting j cfg hj

theorem Sound.unfailed_update (h : Sound texts s) {i : Nat} {p : Post} (hp : p ≠ .failed) (j : Nat) :
    Function.update s.posts i (some p) j ≠ some .failed := by
  intro hj
  rcases update_cases hj with ⟨-, he⟩ | ⟨-, hj⟩
  · exact hp he.symm
  · exact h.unfailed j hj

/-- A post moves on, and the files stay. -/
theorem Sound.move (h : Sound texts s) {i : Nat} {p : Post} (hparsed : ∀ cfg, p ≠ .parsed cfg) (hwriting : ¬ p.Writing)
    (hfailed : p ≠ .failed) : Sound texts { s with posts := Function.update s.posts i (some p) } := by
  refine ⟨h.parsed, h.waiting_update hparsed, fun j cfg f n hj => ?_, fun j k q q' hj hk hq hq' => ?_,
    h.unfailed_update hfailed, h.unset, h.set, h.reading, h.answers⟩
  · rcases update_cases hj with ⟨-, rfl⟩ | ⟨-, hj⟩
    · exact absurd ⟨cfg, f, n, rfl⟩ hwriting
    · exact h.writing j cfg f n hj
  · rcases update_cases hj with ⟨-, rfl⟩ | ⟨-, hj⟩
    · exact absurd hq hwriting
    · rcases update_cases hk with ⟨-, rfl⟩ | ⟨-, hk⟩
      · exact absurd hq' hwriting
      · exact h.alone j k q q' hj hk hq hq'

/-- While a post has a file open, the other posts do not write, and nobody reads what it writes. -/
theorem Sound.other (h : Sound texts s) {i f n : Nat} {cfg : Config} (hi : s.posts i = some (.writing cfg f n)) :
    (∀ f', s.disk.entry .config = some f' → f' ≠ f) ∧ ∀ j g, s.gets j = some g → g.file ≠ f := by
  obtain ⟨-, htmp, -⟩ := h.writing i cfg f n hi
  constructor
  · rintro f' hf' rfl
    cases s.disk.single _ _ _ hf' htmp
  · rintro j g hj rfl
    exact (h.reading j g hj).kept htmp

theorem sound_post (h : Sound texts s) {i : Nat} {text : List Char} {body : Json} {cfg : Config}
    (htext : parse texts.nums text = some body) (hbody : Config.parse body = some cfg) :
    Sound texts { s with posts := Function.update s.posts i (some (.parsed cfg)), posted := s.posted ++ [cfg] } := by
  have hold : ∀ c ∈ s.posted, c ∈ s.posted ++ [cfg] := fun c hc => List.mem_append_left _ hc
  refine ⟨fun c hc => ?_, fun j c hj => ?_, fun j c f n hj => ?_, fun j k q q' hj hk hq hq' => ?_,
    h.unfailed_update (by simp), h.unset, fun hr => ?_, fun j g hj => ?_, fun p hp => ?_⟩
  · rcases List.mem_append.1 hc with hc | hc
    · exact h.parsed c hc
    · rw [List.mem_singleton.1 hc]
      exact parse_parsed (parse_distinct htext) hbody
  · rcases update_cases hj with ⟨-, he⟩ | ⟨-, hj⟩
    · cases he
      exact List.mem_append_right _ (List.mem_singleton_self _)
    · exact hold c (h.waiting j c hj)
  · rcases update_cases hj with ⟨-, he⟩ | ⟨-, hj⟩
    · cases he
    · obtain ⟨hc, hw⟩ := h.writing j c f n hj
      exact ⟨hold c hc, hw⟩
  · rcases update_cases hj with ⟨-, rfl⟩ | ⟨-, hj⟩
    · obtain ⟨_, _, _, he⟩ := hq
      cases he
    · rcases update_cases hk with ⟨-, rfl⟩ | ⟨-, hk⟩
      · obtain ⟨_, _, _, he⟩ := hq'
        cases he
      · exact h.alone j k q q' hj hk hq hq'
  · obtain ⟨f, hf, c, hc, hd⟩ := h.set hr
    exact ⟨f, hf, c, hold c hc, hd⟩
  · exact (h.reading j g hj).mono (Nat.le_refl _) (h.reading j g hj).kept rfl hold
  · exact (h.answers p hp).imp_left (hold p.2)

theorem sound_open (h : Sound texts s) {i : Nat} {cfg : Config} (hi : s.posts i = some (.parsed cfg))
    (hfree : ∀ j p, s.posts j = some p → ¬ p.Writing) : Sound texts
      { s with disk := (s.disk.openTrunc .tmp).2,
               posts := Function.update s.posts i (some (.writing cfg (s.disk.openTrunc .tmp).1 0)) } := by
  have ho := s.disk.opened .tmp
  generalize (s.disk.openTrunc .tmp).1 = f, (s.disk.openTrunc .tmp).2 = disk at ho
  have hconfig : disk.entry .config = s.disk.entry .config := by rw [ho.entry, Function.update_of_ne (by simp)]
  have htmp : disk.entry .tmp = some f := by rw [ho.entry, Function.update_self]
  refine ⟨h.parsed, h.waiting_update (by simp), fun j c g n hj => ?_, fun j k q q' hj hk hq hq' => ?_,
    h.unfailed_update (by simp), fun hr => hconfig.trans (h.unset hr), fun hr => ?_, fun j g hj => ?_, h.answers⟩
  · rcases update_cases hj with ⟨-, he⟩ | ⟨-, hj⟩
    · cases he
      exact ⟨h.waiting i cfg hi, htmp, by rw [ho.data]; simp, Nat.zero_le _⟩
    · exact absurd ⟨c, g, n, rfl⟩ (hfree j _ hj)
  · rcases update_cases hj with ⟨rfl, -⟩ | ⟨-, hj⟩
    · rcases update_cases hk with ⟨rfl, -⟩ | ⟨-, hk⟩
      · rfl
      · exact absurd hq' (hfree k q' hk)
    · exact absurd hq (hfree j q hj)
  · obtain ⟨f', hf', c, hc, hd⟩ := h.set hr
    refine ⟨f', hconfig.trans hf', c, hc, ?_⟩
    rw [ho.data, Function.update_of_ne (ho.other (by simp) hf'), hd]
  · have hw := h.reading j g hj
    -- The temporary file is a new one, or the one that was there already, and nobody reads that.
    have hne : g.file ≠ f := by
      rintro rfl
      rcases ho.file with hold | ⟨-, hnew⟩
      · exact hw.kept hold
      · exact absurd hw.named (by rw [hnew]; exact Nat.lt_irrefl _)
    refine hw.mono ho.next ?_ (by rw [ho.data, Function.update_of_ne hne]) fun _ hc => hc
    rw [htmp]
    exact fun he => hne (Option.some.inj he).symm

theorem sound_write (h : Sound texts s) {i f n k : Nat} {cfg : Config} (hi : s.posts i = some (.writing cfg f n))
    (hk : n + k ≤ (cfg.bytes texts).length) : Sound texts
      { s with disk := s.disk.writeAt f n (((cfg.bytes texts).drop n).take k),
               posts := Function.update s.posts i (some (.writing cfg f (n + k))) } := by
  obtain ⟨hcfg, htmp, hdata, hn⟩ := h.writing i cfg f n hi
  obtain ⟨hconfig, hgets⟩ := h.other hi
  have hwrite := Disk.data_writeAt hdata hn k
  have hother : ∀ g, g ≠ f → (s.disk.writeAt f n (((cfg.bytes texts).drop n).take k)).data g = s.disk.data g :=
    fun g hg => Function.update_of_ne hg _ _
  have hwriting : (Post.writing cfg f n).Writing := ⟨cfg, f, n, rfl⟩
  refine ⟨h.parsed, h.waiting_update (by simp), fun j c g m hj => ?_, fun j l q q' hj hl hq hq' => ?_,
    h.unfailed_update (by simp), h.unset, fun hr => ?_, fun j g hj => ?_, h.answers⟩
  · rcases update_cases hj with ⟨-, he⟩ | ⟨hne, hj⟩
    · cases he
      exact ⟨hcfg, htmp, hwrite, hk⟩
    · exact absurd (h.alone j i _ _ hj hi ⟨c, g, m, rfl⟩ hwriting) hne
  · rcases update_cases hj with ⟨rfl, -⟩ | ⟨hne, hj⟩
    · rcases update_cases hl with ⟨rfl, -⟩ | ⟨hne, hl⟩
      · rfl
      · exact absurd (h.alone l j _ _ hl hi hq' hwriting) hne
    · exact absurd (h.alone j i _ _ hj hi hq hwriting) hne
  · obtain ⟨f', hf', c, hc, hd⟩ := h.set hr
    exact ⟨f', hf', c, hc, (hother f' (hconfig f' hf')).trans hd⟩
  · exact (h.reading j g hj).mono (Nat.le_refl _) (h.reading j g hj).kept (hother _ (hgets j g hj)) fun _ hc => hc

theorem sound_rename (h : Sound texts s) {i f : Nat} {cfg : Config} {disk : Disk Path UInt8}
    (hi : s.posts i = some (.writing cfg f (cfg.bytes texts).length)) (hr : s.disk.rename .tmp .config = some disk) :
    Sound texts { s with disk, posts := Function.update s.posts i (some .renamed), renamed := true } := by
  obtain ⟨hcfg, htmp, hdata, -⟩ := h.writing i _ f _ hi
  obtain ⟨-, hentry, hdisk, hnext⟩ := Disk.rename_some hr
  rw [List.take_length] at hdata
  have hnow : disk.entry .tmp = none := by rw [hentry]; rfl
  have hm := h.move (i := i) (p := .renamed) (by simp) (by rintro ⟨_, _, _, he⟩; cases he) (by simp)
  refine ⟨h.parsed, hm.waiting, fun j c g n hj => ?_, hm.alone, hm.unfailed, fun hc => (by cases hc), fun _ => ?_,
    fun j g hj => ?_, h.answers⟩
  · rcases update_cases hj with ⟨-, he⟩ | ⟨hne, hj⟩
    · cases he
    · exact absurd (h.alone j i _ _ hj hi ⟨c, g, n, rfl⟩ ⟨cfg, f, _, rfl⟩) hne
  · exact ⟨f, by rw [hentry]; exact htmp, cfg, hcfg, by rw [hdisk]; exact hdata⟩
  · exact (h.reading j g hj).mono (Nat.le_of_eq hnext.symm) (by rw [hnow]; simp) (by rw [hdisk]) fun _ hc => hc

/-- What is opened under the name of the configuration is a whole posted one. -/
theorem sound_get (h : Sound texts s) {j f : Nat} (hf : s.disk.entry .config = some f) :
    Sound texts { s with gets := Function.update s.gets j (some ⟨f, [], s.renamed⟩) } := by
  refine ⟨h.parsed, h.waiting, h.writing, h.alone, h.unfailed, h.unset, h.set,
    update_forall ?_ fun k g _ hk => h.reading k g hk, h.answers⟩
  have hr : s.renamed = true := by
    by_contra hr
    rw [h.unset (Bool.eq_false_iff.2 hr)] at hf
    cases hf
  obtain ⟨f', hf', hcontent⟩ := h.set hr
  obtain rfl := Option.some.inj (hf.symm.trans hf')
  refine ⟨s.disk.named _ _ hf, fun htmp => ?_, hcontent, List.nil_prefix⟩
  cases s.disk.single _ _ _ hf htmp

theorem sound_read (h : Sound texts s) {j k : Nat} {g : Get} (hj : s.gets j = some g) :
    Sound texts
      { s with gets := Function.update s.gets j
                 (some { g with got := g.got ++ ((s.disk.data g.file).drop g.got.length).take k }) } := by
  refine ⟨h.parsed, h.waiting, h.writing, h.alone, h.unfailed, h.unset, h.set,
    update_forall ?_ fun k g' _ hk => h.reading k g' hk, h.answers⟩
  obtain ⟨hnamed, hkept, hcontent, rest, hgot⟩ := h.reading j g hj
  refine ⟨hnamed, hkept, hcontent, ?_⟩
  dsimp only
  rw [← hgot, List.drop_left]
  exact (List.prefix_append_right_inj _).2 (List.take_prefix _ _)

theorem sound_done (h : Sound texts s) {j : Nat} {g : Get} (hj : s.gets j = some g)
    (hend : (s.disk.data g.file).length ≤ g.got.length) :
    Sound texts { s with gets := Function.update s.gets j none,
                         answers := s.answers ++ [(g.renamed, Config.ofBytes texts g.got)] } := by
  refine ⟨h.parsed, h.waiting, h.writing, h.alone, h.unfailed, h.unset, h.set, fun k g' hk => ?_, fun p hp => ?_⟩
  · by_cases hjk : k = j
    · rw [hjk] at hk
      simp at hk
    · change Function.update s.gets j none k = some g' at hk
      rw [Function.update_of_ne hjk] at hk
      exact h.reading k g' hk
  · rcases List.mem_append.1 hp with hp | hp
    · exact h.answers p hp
    · rw [List.mem_singleton.1 hp]
      obtain ⟨-, -, ⟨cfg, hcfg, hcontent⟩, hgot⟩ := h.reading j g hj
      rw [hgot.eq_of_length_le hend, hcontent, ofBytes_bytes texts (h.parsed cfg hcfg)]
      exact .inl hcfg

theorem sound_step (h : Sound texts s) {a : Action} (ha : Alone s a) (hs : Step texts s a s') : Sound texts s' := by
  cases hs with
  | post hi htext hbody => exact sound_post h htext hbody
  | openTmp hi => exact sound_open h hi ha
  | write hi _ hk => exact sound_write h hi hk
  | rename hi hr => exact sound_rename h hi hr
  | fail hi hr =>
    -- The file that was opened is still there.
    obtain ⟨-, htmp, -⟩ := h.writing _ _ _ _ hi
    rw [Disk.rename_none.1 hr] at htmp
    cases htmp
  | answer hi => exact h.move (by simp) (by rintro ⟨_, _, _, he⟩; cases he) (by simp)
  | missing hj hf =>
    refine ⟨h.parsed, h.waiting, h.writing, h.alone, h.unfailed, h.unset, h.set, h.reading, fun p hp => ?_⟩
    rcases List.mem_append.1 hp with hp | hp
    · exact h.answers p hp
    · rw [List.mem_singleton.1 hp]
      refine .inr ⟨rfl, Bool.eq_false_iff.2 fun hr => ?_⟩
      obtain ⟨f, hf', -⟩ := h.set hr
      rw [hf] at hf'
      cases hf'
  | get _ hf => exact sound_get h hf
  | read hj => exact sound_read h hj
  | done hj hend => exact sound_done h hj hend
  | crash =>
    exact ⟨h.parsed, fun _ _ hj => (by cases hj), fun _ _ _ _ hj => (by cases hj), fun _ _ _ _ hj => (by cases hj),
      fun _ hj => (by cases hj), h.unset, h.set, fun _ _ hj => (by cases hj), h.answers⟩

theorem Sound.law (h : Sound texts s) : ConfigLaw texts s := by
  refine ⟨h.answers, h.unfailed, fun hr => ?_⟩
  obtain ⟨f, hf, cfg, hcfg, hd⟩ := h.set hr
  exact ⟨cfg, hcfg, by simp [Disk.read, hf, hd, ofBytes_bytes texts (h.parsed cfg hcfg)]⟩

theorem sound_init : Sound texts .init := by
  refine ⟨?_, ?_, ?_, ?_, ?_, ?_, ?_, ?_, ?_⟩ <;> simp [State.init, Disk.empty]

end

/-- A post that has written everything renames its file and is answered. -/
theorem finish_written {texts : Texts} {s : State} (h : Sound texts s) {i f : Nat} {cfg : Config}
    (hi : s.posts i = some (.writing cfg f (cfg.bytes texts).length)) :
    ∃ s', Reachable (Guarded Alone (Step texts)) s s' ∧ s'.posts i = some .applied := by
  obtain ⟨-, htmp, -⟩ := h.writing i _ f _ hi
  obtain ⟨disk, hr⟩ : ∃ disk, s.disk.rename .tmp .config = some disk := by
    refine Option.ne_none_iff_exists'.1 fun hnone => ?_
    rw [Disk.rename_none.1 hnone] at htmp
    cases htmp
  have hrename : Reachable (Guarded Alone (Step texts)) s _ := .step (a := .rename i) .refl ⟨trivial, .rename hi hr⟩
  exact ⟨_, hrename.nextGuarded (.answer i) trivial (.answer (Function.update_self ..)), Function.update_self ..⟩

theorem finish_writing {texts : Texts} {s : State} (h : Sound texts s) {i f n : Nat} {cfg : Config}
    (hi : s.posts i = some (.writing cfg f n)) :
    ∃ s', Reachable (Guarded Alone (Step texts)) s s' ∧ s'.posts i = some .applied := by
  obtain ⟨-, -, -, hn⟩ := h.writing i cfg f n hi
  by_cases hall : n = (cfg.bytes texts).length
  · rw [hall] at hi
    exact finish_written h hi
  · have hlt := Nat.lt_of_le_of_ne hn hall
    -- All the rest in one write.
    have hk : n + ((cfg.bytes texts).length - n) ≤ (cfg.bytes texts).length := by omega
    have hs := sound_write h hi hk
    have hwrite : Reachable (Guarded Alone (Step texts)) s _ :=
      .step (a := .write i) .refl ⟨trivial, .write hi (Nat.sub_pos_of_lt hlt) hk⟩
    rw [Nat.add_sub_cancel' hn] at hs hwrite
    obtain ⟨s', hs', hi'⟩ := finish_written hs (Function.update_self ..)
    exact ⟨s', hwrite.trans hs', hi'⟩

/-- In every run in which no post opens the temporary file while another has it open,
the law holds in every state; and a post that has it open can finish. -/
theorem config_sound (texts : Texts) {s : State} (h : Reachable (Guarded Alone (Step texts)) .init s) :
    ConfigLaw texts s ∧ ∀ i p, s.posts i = some p → p.Writing →
      ∃ s', Reachable (Guarded Alone (Step texts)) s s' ∧ s'.posts i = some .applied := by
  have hs : Sound texts s := h.inv sound_init fun _ _ _ hi hs => sound_step hi hs.1 hs.2
  refine ⟨hs.law, ?_⟩
  rintro i p hi ⟨cfg, f, n, rfl⟩
  exact finish_writing hs hi

/-! ## Two posts -/

namespace Sample

def texts : Texts := ⟨.unary, fun _ => ""⟩

def cfg : Config := ⟨.server, [("url", .str "ldap://dc")], ⟨true, true⟩, ⟨false⟩, []⟩

def text : List Char := stringify texts.nums 0 cfg.json

theorem parsed : cfg.Parsed :=
  ⟨distinct_obj.2 ⟨by simp [cfg], by simp [cfg, Json.Distinct]⟩, by simp [cfg]⟩

theorem text_parses : parse texts.nums text = some cfg.json := parse_stringify (config_distinct parsed) 0

theorem bytes_pos : 0 < (cfg.bytes texts).length := List.length_pos_iff.2 (bytes_ne_nil texts _)

end Sample

/-- A `GET` without a file, a `POST`, and a `GET` that reads what it has written. -/
theorem config_sound_sample : ∃ s, s.posts 0 = some .applied ∧ s.answers = [(false, defaultConfig), (true, Sample.cfg)] ∧
    ConfigLaw Sample.texts s := by
  have hfree : ∀ j p, Function.update (fun _ => none) 0 (some (Post.parsed Sample.cfg)) j = some p → ¬ p.Writing := by
    intro j p hj
    rcases update_cases hj with ⟨-, rfl⟩ | ⟨-, hj⟩
    · rintro ⟨_, _, _, he⟩
      cases he
    · cases hj
  have hdata : splice [] 0 (((Sample.cfg.bytes Sample.texts).drop 0).take (Sample.cfg.bytes Sample.texts).length) =
      Sample.cfg.bytes Sample.texts := by simp [splice]
  have h0 : Reachable (Guarded Alone (Step Sample.texts)) .init .init := .refl
  have hmissing := h0.nextGuarded (.get 0) trivial (.missing rfl rfl)
  have hpost := hmissing.nextGuarded (.post 0) trivial (.post rfl Sample.text_parses (parse_json Sample.parsed))
  have hopen := hpost.nextGuarded (.openTmp 0) hfree (.openTmp rfl)
  have hwrite := hopen.nextGuarded (.write 0) trivial
    (.write (k := (Sample.cfg.bytes Sample.texts).length) rfl Sample.bytes_pos (Nat.le_of_eq (Nat.zero_add _)))
  rw [Nat.zero_add] at hwrite
  have hrename := hwrite.nextGuarded (.rename 0) trivial (.rename rfl rfl)
  have hanswer := hrename.nextGuarded (.answer 0) trivial (.answer rfl)
  have hget := hanswer.nextGuarded (.get 1) trivial (.get rfl rfl)
  have hread := hget.nextGuarded (.read 1) trivial
    (.read (k := (Sample.cfg.bytes Sample.texts).length) rfl Sample.bytes_pos (by
      change 0 < (splice [] 0 _).length
      rw [hdata]
      exact Sample.bytes_pos))
  have hdone := hread.nextGuarded (.read 1) trivial (.done rfl (by
    change (splice [] 0 _).length ≤ ([] ++ ((splice [] 0 _).drop 0).take _).length
    rw [hdata]
    simp))
  have hlaw := (config_sound Sample.texts hdone).1
  -- What the second `GET` answers has been posted.
  have hread_posted : ∀ {s : State}, ConfigLaw Sample.texts s → s.posted = [Sample.cfg] → ∀ {c},
      s.answers = [(false, defaultConfig), (true, c)] → s.answers = [(false, defaultConfig), (true, Sample.cfg)] := by
    intro s hs hposted c hanswers
    have hc := hs.answers (true, c) (by simp [hanswers])
    simp only [hposted, List.mem_singleton, Bool.true_eq_false, and_false, or_false] at hc
    rw [hanswers, hc]
  exact ⟨_, rfl, hread_posted hlaw rfl rfl, hlaw⟩

/-- The second of two posts finds its file renamed by the first. -/
theorem second_post_fails : ¬ ∀ (texts : Texts) s, Reachable (Step texts) .init s → ConfigLaw texts s := by
  intro hall
  have hpost : ∀ {s : State} (i : Nat), Reachable (Step Sample.texts) .init s → s.posts i = none →
      Reachable (Step Sample.texts) .init _ := fun i h hi =>
    h.step (.post (i := i) hi Sample.text_parses (parse_json Sample.parsed))
  have hboth := hpost 1 (hpost 0 .refl rfl) rfl
  have hopen := (hboth.step (.openTmp (i := 0) rfl)).step (.openTmp (i := 1) rfl)
  have hfirst := hopen.step (.write (i := 0) (k := (Sample.cfg.bytes Sample.texts).length) rfl Sample.bytes_pos
    (Nat.le_of_eq (Nat.zero_add _)))
  rw [Nat.zero_add] at hfirst
  have hrenamed := hfirst.step (.rename (i := 0) rfl rfl)
  have hsecond := hrenamed.step (.write (i := 1) (k := (Sample.cfg.bytes Sample.texts).length) rfl
    Sample.bytes_pos (Nat.le_of_eq (Nat.zero_add _)))
  rw [Nat.zero_add] at hsecond
  have hfailed := hsecond.step (.fail (i := 1) rfl rfl)
  exact (hall _ _ hfailed).applied 1 rfl

end Tactix.Bootstrap
