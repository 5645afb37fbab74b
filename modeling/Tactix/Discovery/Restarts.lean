import Tactix.Discovery.Invites
import Tactix.Lib.Disk
import Tactix.Lib.Runs
/-!
# The keys of a server

`discovery-svc` reads its keys from two files, and writes them there when it cannot; it may be
stopped while it does. `keys_kept_iff`: the keys that an instance has are those of every later
one, and they are a pair just when none was stopped while it wrote the public key. Then an
invite is worth the same at every instance: `invites_outlive`.
-/
open Tactix.Js ServiceLib

namespace Tactix.Discovery

/-- `privPath` and `pubPath`. -/
inductive KeyFile where
  | priv
  | pub
  deriving DecidableEq

structure KeyPair where
  publicKey : String
  privateKey : String

/-- The environment of all instances, and `crypto`. What `generateKeyPairSync` makes is in PEM. -/
structure Host where
  rt : Runtime
  SERVER_NAME : String
  SERVER_URL : String
  INVITE_TTL_HOURS : Rat
  /-- `createHash('sha256')`, in hex. -/
  sha256 : String → String
  Generated : KeyPair → Prop
  sign : String → List UInt8 → List UInt8
  verify : String → List UInt8 → List UInt8 → Bool
  pem : ∀ keys, Generated keys → Ascii keys.publicKey

/-- `initKeys`, with the file it writes and how much of it; or what it has come to. -/
inductive Process where
  | off
  | writing (keys : KeyPair) (path : KeyFile) (file written : Nat)
  | up (keys : KeyPair)

/-- An invite, and the keys of the instance that made it. -/
structure Issued where
  keys : KeyPair
  exp : Rat
  invite : String

structure Site where
  now : Int
  disk : Disk KeyFile UInt8
  process : Process
  issued : List Issued
  /-- An instance was stopped before all of the public key was written. -/
  cut : Bool

def Site.init (now : Int) : Site := ⟨now, .empty, .off, [], false⟩

def KeyPair.bytes (keys : KeyPair) : KeyFile → List UInt8
  | .priv => utf8 keys.privateKey
  | .pub => utf8 keys.publicKey

/-- The server with this public key. -/
def Host.server (host : Host) (publicKey : String) : Server where
  serverId := String.ofList ((host.sha256 publicKey).toList.take 16)
  SERVER_NAME := host.SERVER_NAME
  SERVER_URL := host.SERVER_URL
  fingerprint := host.sha256 publicKey
  INVITE_TTL_HOURS := host.INVITE_TTL_HOURS

/-- The invite with an expiry, by the function that signs. -/
def signedInvite (rt : Runtime) (server : Server) (sign : List UInt8 → List UInt8) (exp : Rat) : String :=
  let payload := server.payload exp
  let sig := String.ofList (base64 (sign (rt.texts.buffer (.obj payload))))
  String.ofList (base64 (rt.texts.buffer (.obj (payload ++ [("sig", .str sig)]))))

theorem createInvite_eq {rt : Runtime} {server : Server} {created : List Rat} (keys : Keys rt server created) (now : Int)
    (customExp : Option Rat) : createInvite keys now customExp = signedInvite rt server keys.sign (server.expiry now customExp) :=
  rfl

/-- What `readFile` gives of both, when there are both. -/
def Host.readKeys (host : Host) (disk : Disk KeyFile UInt8) : Option KeyPair := do
  let priv ← disk.read .priv
  let pub ← disk.read .pub
  return { privateKey := host.rt.texts.decode priv, publicKey := host.rt.texts.decode pub }

/-- What is signed for an expiry. -/
def Host.message (host : Host) (keys : KeyPair) (exp : Rat) : List UInt8 :=
  host.rt.texts.buffer (.obj ((host.server keys.publicKey).payload exp))

/-- An invite that an instance makes. -/
def Host.issue (host : Host) (keys : KeyPair) (exp : Rat) : Issued :=
  ⟨keys, exp, signedInvite host.rt (host.server keys.publicKey) (host.sign keys.privateKey) exp⟩

/-- It has begun with the public key and has not come to its end. -/
def Process.cuts : Process → Bool
  | .writing keys .pub _ written => written < (keys.bytes .pub).length
  | _ => false

inductive SiteAction where
  | tick (n : Nat)
  | start
  | write
  | next
  | invite (customExp : Option Rat)
  | stop

inductive SiteStep (host : Host) : Site → SiteAction → Site → Prop
  | tick (s : Site) (n : Nat) : SiteStep host s (.tick n) { s with now := s.now + n }
  | read {s : Site} {keys : KeyPair} : s.process = .off → host.readKeys s.disk = some keys →
      SiteStep host s .start { s with process := .up keys }
  | generate {s : Site} {keys : KeyPair} : s.process = .off → host.readKeys s.disk = none → host.Generated keys →
      SiteStep host s .start
        { s with disk := (s.disk.openTrunc .priv).2, process := .writing keys .priv (s.disk.openTrunc .priv).1 0 }
  | write {s : Site} {keys : KeyPair} {path : KeyFile} {f n k : Nat} : s.process = .writing keys path f n →
      n + k ≤ (keys.bytes path).length → SiteStep host s .write
        { s with disk := s.disk.writeAt f n (((keys.bytes path).drop n).take k), process := .writing keys path f (n + k) }
  | publicKey {s : Site} {keys : KeyPair} {f : Nat} : s.process = .writing keys .priv f (keys.bytes .priv).length →
      SiteStep host s .next
        { s with disk := (s.disk.openTrunc .pub).2, process := .writing keys .pub (s.disk.openTrunc .pub).1 0 }
  | listen {s : Site} {keys : KeyPair} {f : Nat} : s.process = .writing keys .pub f (keys.bytes .pub).length →
      SiteStep host s .next { s with process := .up keys }
  | invite {s : Site} {keys : KeyPair} (customExp : Option Rat) : s.process = .up keys →
      SiteStep host s (.invite customExp)
        { s with issued := s.issued ++ [host.issue keys ((host.server keys.publicKey).expiry s.now customExp)] }
  | stop (s : Site) : SiteStep host s .stop { s with process := .off, cut := s.cut || s.process.cuts }

/-! ## What the files hold -/

/-- The private key of a pair, and so many bytes of the public one. -/
structure Stored (host : Host) (disk : Disk KeyFile UInt8) (pair : KeyPair) (n : Nat) : Prop where
  generated : host.Generated pair
  priv : disk.read .priv = some (pair.bytes .priv)
  pub : disk.read .pub = some ((pair.bytes .pub).take n)

/-- The keys that are read of them. -/
def KeyPair.first (pair : KeyPair) (n : Nat) : KeyPair :=
  { pair with publicKey := String.ofList (pair.publicKey.toList.take n) }

/-- The keys are what they will be. -/
structure Settled (host : Host) (s : Site) (pair : KeyPair) (n : Nat) : Prop where
  stored : Stored host s.disk pair n
  process : s.process = .off ∨ s.process = .up (pair.first n)
  issued : ∀ i ∈ s.issued, ∃ exp, i = host.issue (pair.first n) exp
  cut : s.cut = true ↔ n < (pair.bytes .pub).length

/-- Nobody has had keys yet. -/
structure Unused (s : Site) : Prop where
  issued : s.issued = []
  cut : s.cut = false

/-- The states of a run. -/
inductive Phase (host : Host) (s : Site) : Prop
  | bare (unused : Unused s) (hoff : s.process = .off) (hpub : s.disk.read .pub = none)
  | priv {pair : KeyPair} {f n : Nat} (unused : Unused s) (hwriting : s.process = .writing pair .priv f n)
      (generated : host.Generated pair) (hpub : s.disk.read .pub = none) (hentry : s.disk.entry .priv = some f)
      (hdata : s.disk.data f = (pair.bytes .priv).take n) (hn : n ≤ (pair.bytes .priv).length)
  | pub {pair : KeyPair} {f n : Nat} (unused : Unused s) (hwriting : s.process = .writing pair .pub f n)
      (stored : Stored host s.disk pair n) (hentry : s.disk.entry .pub = some f) (hn : n ≤ (pair.bytes .pub).length)
  | settled {pair : KeyPair} {n : Nat} (settled : Settled host s pair n)

section
variable {host : Host} {s s' : Site} {disk : Disk KeyFile UInt8} {pair keys : KeyPair} {n : Nat} {a : SiteAction}

theorem readKeys_none (h : disk.read .pub = none) : host.readKeys disk = none := by
  unfold Host.readKeys
  rw [h]
  cases disk.read .priv <;> rfl

theorem Stored.readKeys (h : Stored host disk pair n) : host.readKeys disk = some (pair.first n) := by
  have hpriv : host.rt.texts.decode (pair.bytes .priv) = pair.privateKey := decode_utf8 ..
  have hpub : host.rt.texts.decode ((pair.bytes .pub).take n) = (pair.first n).publicKey := by
    rw [KeyPair.bytes, utf8_take (host.pem pair h.generated), decode_utf8]
    rfl
  unfold Host.readKeys
  rw [h.priv, h.pub]
  simp only [Option.bind_eq_bind, Option.bind_some, hpriv, hpub]
  rfl

theorem bytes_length (h : host.Generated pair) : (pair.bytes .pub).length = pair.publicKey.toList.length := by
  rw [KeyPair.bytes, utf8_ascii (host.pem pair h), List.length_map]

/-- The keys are the pair when all of the public key is there. -/
theorem Stored.first_eq_iff (h : Stored host disk pair n) : pair.first n = pair ↔ (pair.bytes .pub).length ≤ n := by
  rw [bytes_length h.generated]
  constructor
  · intro heq
    have htake := congrArg (fun keys => keys.publicKey.toList) heq
    simp only [KeyPair.first, String.toList_ofList] at htake
    exact (List.take_eq_self_iff _).1 htake
  · intro hle
    rw [KeyPair.first, List.take_of_length_le hle, String.ofList_toList]

/-! ## What a step keeps -/

theorem Settled.next (h : Settled host s pair n) (hstep : SiteStep host s a s') : Settled host s' pair n := by
  have hquiet : ∀ keys path f m, s.process ≠ .writing keys path f m := by
    intro keys path f m hwriting
    rcases h.process with hoff | hup
    · rw [hoff] at hwriting
      cases hwriting
    · rw [hup] at hwriting
      cases hwriting
  cases hstep with
  | tick => exact ⟨h.stored, h.process, h.issued, h.cut⟩
  | read hoff hread =>
    rw [h.stored.readKeys] at hread
    cases hread
    exact ⟨h.stored, .inr rfl, h.issued, h.cut⟩
  | generate hoff hread =>
    rw [h.stored.readKeys] at hread
    cases hread
  | write hwriting => exact (hquiet _ _ _ _ hwriting).elim
  | publicKey hwriting => exact (hquiet _ _ _ _ hwriting).elim
  | listen hwriting => exact (hquiet _ _ _ _ hwriting).elim
  | invite customExp hup =>
    refine ⟨h.stored, h.process, fun i hi => ?_, h.cut⟩
    rcases List.mem_append.1 hi with hi | hi
    · exact h.issued i hi
    · rcases h.process with hoff | hup'
      · rw [hoff] at hup
        cases hup
      · rw [hup'] at hup
        cases hup
        exact ⟨_, List.mem_singleton.1 hi⟩
  | stop =>
    refine ⟨h.stored, .inl rfl, h.issued, ?_⟩
    have hcuts : s.process.cuts = false := by
      rcases h.process with hoff | hup
      · rw [hoff]
        rfl
      · rw [hup]
        rfl
    rw [← h.cut, hcuts, Bool.or_false]

theorem Stored.stop {f : Nat} (h : Stored host s.disk pair n) (unused : Unused s) (hwriting : s.process = .writing pair .pub f n) :
    Settled host { s with process := .off, cut := s.cut || s.process.cuts } pair n := by
  refine ⟨h, .inl rfl, ?_, ?_⟩
  · rw [unused.issued]
    exact fun i hi => absurd hi List.not_mem_nil
  · dsimp only
    rw [unused.cut, hwriting, Bool.false_or, Process.cuts, decide_eq_true_eq]

theorem Phase.next (h : Phase host s) (hstep : SiteStep host s a s') : Phase host s' := by
  cases h with
  | bare unused hoff hpub =>
    cases hstep with
    | tick => exact .bare ⟨unused.issued, unused.cut⟩ hoff hpub
    | read _ hread =>
      rw [readKeys_none hpub] at hread
      cases hread
    | generate _ _ hgenerated =>
      refine .priv ⟨unused.issued, unused.cut⟩ rfl hgenerated ?_ Disk.entry_openTrunc Disk.data_openTrunc (Nat.zero_le _)
      rw [Disk.read_openTrunc, if_neg (by decide)]
      exact hpub
    | write hwriting | publicKey hwriting | listen hwriting =>
      rw [hoff] at hwriting
      cases hwriting
    | invite _ hup =>
      rw [hoff] at hup
      cases hup
    | stop =>
      have hcut : (s.cut || s.process.cuts) = false := by
        rw [unused.cut, hoff]
        rfl
      exact .bare ⟨unused.issued, hcut⟩ rfl hpub
  | priv unused hwriting generated hpub hentry hdata hn =>
    cases hstep with
    | tick => exact .priv ⟨unused.issued, unused.cut⟩ hwriting generated hpub hentry hdata hn
    | read hprocess | generate hprocess | invite _ hprocess | listen hprocess =>
      rw [hwriting] at hprocess
      cases hprocess
    | write hprocess hk =>
      rw [hwriting] at hprocess
      cases hprocess
      refine .priv ⟨unused.issued, unused.cut⟩ rfl generated ?_ hentry (Disk.data_writeAt hdata hn _) hk
      rw [Disk.read_writeAt hentry, if_neg (by decide)]
      exact hpub
    | publicKey hprocess =>
      rw [hwriting] at hprocess
      cases hprocess
      refine .pub ⟨unused.issued, unused.cut⟩ rfl ⟨generated, ?_, ?_⟩ Disk.entry_openTrunc (Nat.zero_le _)
      · rw [Disk.read_openTrunc, if_neg (by decide), Disk.read, hentry, Option.map_some, hdata, List.take_length]
      · rw [Disk.read_openTrunc, if_pos rfl, List.take_zero]
    | stop =>
      refine .bare ⟨unused.issued, ?_⟩ rfl hpub
      dsimp only
      rw [unused.cut, hwriting]
      rfl
  | pub unused hwriting stored hentry hn =>
    cases hstep with
    | tick => exact .pub ⟨unused.issued, unused.cut⟩ hwriting stored hentry hn
    | read hprocess | generate hprocess | invite _ hprocess | publicKey hprocess =>
      rw [hwriting] at hprocess
      cases hprocess
    | write hprocess hk =>
      rw [hwriting] at hprocess
      cases hprocess
      have hdata := stored.pub
      rw [Disk.read, hentry, Option.map_some, Option.some.injEq] at hdata
      refine .pub ⟨unused.issued, unused.cut⟩ rfl ⟨stored.generated, ?_, ?_⟩ hentry hk
      · rw [Disk.read_writeAt hentry, if_neg (by decide)]
        exact stored.priv
      · rw [Disk.read_writeAt hentry, if_pos rfl, Disk.data_writeAt hdata hn]
    | listen hprocess =>
      rw [hwriting] at hprocess
      cases hprocess
      refine .settled ⟨stored, .inr ?_, ?_, ?_⟩
      · rw [stored.first_eq_iff.2 (Nat.le_refl _)]
      · rw [unused.issued]
        exact fun i hi => absurd hi List.not_mem_nil
      · rw [unused.cut]
        simp
    | stop => exact .settled (stored.stop unused hwriting)
  | settled settled => exact .settled (settled.next hstep)

theorem phase_init (now : Int) : Phase host (.init now) := .bare ⟨rfl, rfl⟩ rfl rfl

theorem reachable_phase {start : Int} (h : Reachable (SiteStep host) (.init start) s) : Phase host s :=
  h.inv (phase_init start) fun _ _ _ hs hstep => hs.next hstep

theorem Settled.run (h : Settled host s pair n) (hrun : Reachable (SiteStep host) s s') : Settled host s' pair n := by
  induction hrun with
  | refl => exact h
  | step _ hstep ih => exact ih.next hstep

theorem Settled.up (h : Settled host s pair n) (hup : s.process = .up keys) : keys = pair.first n := by
  rcases h.process with hoff | hup'
  · rw [hoff] at hup
    cases hup
  · rw [hup'] at hup
    cases hup
    rfl

/-- Who serves has keys that are settled. -/
theorem Phase.up (h : Phase host s) (hup : s.process = .up keys) : ∃ pair n, Settled host s pair n ∧ keys = pair.first n := by
  cases h with
  | bare _ hoff =>
    rw [hoff] at hup
    cases hup
  | priv _ hwriting | pub _ hwriting =>
    rw [hwriting] at hup
    cases hup
  | settled settled => exact ⟨_, _, settled, settled.up hup⟩

/-- Who writes the public key has written the private one. -/
theorem Phase.stored {f : Nat} (h : Phase host s) (hwriting : s.process = .writing pair .pub f n) :
    Unused s ∧ Stored host s.disk pair n := by
  cases h with
  | bare _ hoff =>
    rw [hoff] at hwriting
    cases hwriting
  | priv _ hwriting' =>
    rw [hwriting'] at hwriting
    cases hwriting
  | pub unused hwriting' stored =>
    rw [hwriting'] at hwriting
    cases hwriting
    exact ⟨unused, stored⟩
  | settled settled =>
    rcases settled.process with hoff | hup
    · rw [hoff] at hwriting
      cases hwriting
    · rw [hup] at hwriting
      cases hwriting

/-- A first instance that has written so much of its public key. -/
theorem first_run (hpair : host.Generated pair) (start : Int) (hn : n ≤ (pair.bytes .pub).length) : ∃ s f,
    Reachable (SiteStep host) (.init start) s ∧ s.process = .writing pair .pub f n ∧ s.now = start := by
  have hgenerate : Reachable (SiteStep host) (.init start) _ := .step .refl (.generate rfl (readKeys_none rfl) hpair)
  have hwrite := hgenerate.step (.write rfl (Nat.le_of_eq (Nat.zero_add (pair.bytes .priv).length)))
  rw [Nat.zero_add] at hwrite
  have hpub := (hwrite.step (.publicKey rfl)).step (.write (k := n) rfl ((Nat.zero_add n).symm ▸ hn))
  rw [Nat.zero_add] at hpub
  exact ⟨_, _, hpub, rfl, rfl⟩

/-- Another instance, started now. -/
theorem Settled.restart (h : Settled host s pair n) : ∃ s', Reachable (SiteStep host) s s' ∧ s'.process = .up (pair.first n) ∧
    s'.issued = s.issued :=
  ⟨_, .step (.step .refl (.stop s)) (.read rfl h.stored.readKeys), rfl, rfl⟩

end

/-! ## Every instance -/

/-- Of two instances the later one has the keys of the earlier: the private one of a pair, and the public one of this pair
just when none was stopped while it wrote the public key. -/
theorem keys_kept_iff (host : Host) (start : Int) {s s' : Site} {keys keys' : KeyPair}
    (h : Reachable (SiteStep host) (.init start) s) (hup : s.process = .up keys) (hlater : Reachable (SiteStep host) s s')
    (hup' : s'.process = .up keys') : keys' = keys ∧
      ∃ pair, host.Generated pair ∧ keys.privateKey = pair.privateKey ∧ (keys = pair ↔ s'.cut = false) := by
  obtain ⟨pair, n, hs, rfl⟩ := (reachable_phase h).up hup
  have hs' := hs.run hlater
  refine ⟨hs'.up hup', pair, hs.stored.generated, rfl, ?_⟩
  rw [hs'.stored.first_eq_iff, ← Nat.not_lt, ← hs'.cut, Bool.not_eq_true]

/-! ## Two keys -/

namespace Sample

def pair : KeyPair := ⟨"public", "private"⟩

def server : Server := ⟨"public", "srv", "http://srv", "public", 24⟩

def texts : Texts := ⟨.unary, fun _ => ""⟩

/-- The one invite that is made. -/
def message : List UInt8 := texts.buffer (.obj (server.payload (24 * 3600000)))

/-- A signature is the message itself. -/
def host : Host where
  rt := ⟨texts, fun _ => none, fun _ => .nan⟩
  SERVER_NAME := "srv"
  SERVER_URL := "http://srv"
  INVITE_TTL_HOURS := 24
  sha256 := id
  Generated keys := keys = pair
  sign _ m := m
  verify _ m sig := m = sig && m = message
  pem := by
    rintro keys rfl
    decide

theorem generated : host.Generated pair := rfl

end Sample

/-- An instance that was stopped in the public key, and the two after it. -/
theorem keys_kept_iff_sample : ∃ (s s' : Site) (keys : KeyPair), s.process = .up keys ∧ s'.process = .up keys ∧
    s'.cut = true ∧ ∃ pair, Sample.host.Generated pair ∧ keys.privateKey = pair.privateKey ∧ (keys = pair ↔ s'.cut = false) := by
  obtain ⟨s₀, f, h₀, hwriting, -⟩ := first_run (n := 1) Sample.generated 0 (by decide)
  obtain ⟨unused, stored⟩ := (reachable_phase h₀).stored hwriting
  have hstopped := stored.stop unused hwriting
  obtain ⟨s, hs, hup, -⟩ := hstopped.restart
  have hsettled := hstopped.run hs
  obtain ⟨s', hs', hup', -⟩ := hsettled.restart
  have hkept := keys_kept_iff Sample.host 0 ((h₀.step (.stop s₀)).trans hs) hup hs' hup'
  exact ⟨s, s', _, hup, hup', (hsettled.run hs').cut.2 (by decide), hkept.2⟩

/-- What `crypto` promises of a pair: its signatures verify, and nothing else does. -/
structure Host.Signs (host : Host) (pair : KeyPair) (issued : List Issued) : Prop where
  verify_sign : ∀ i ∈ issued, host.verify pair.publicKey (host.message pair i.exp)
    (host.sign pair.privateKey (host.message pair i.exp)) = true
  of_verify : ∀ m sig, host.verify pair.publicKey m sig = true → ∃ i ∈ issued, m = host.message pair i.exp

/-- When none was stopped while it wrote the public key, an instance answers the invites of all instances with their
fields up to the expiry and with `expired` afterwards, and accepts no others. -/
theorem invites_outlive (host : Host) (start : Int) {s : Site} {keys : KeyPair}
    (h : Reachable (SiteStep host) (.init start) s) (hup : s.process = .up keys) (hcut : s.cut = false)
    (hcrypto : ∀ pair, host.Generated pair → host.Signs pair s.issued) :
    ∃ signing : Keys host.rt (host.server keys.publicKey) (s.issued.map (·.exp)),
      signing.sign = host.sign keys.privateKey ∧ signing.verify = host.verify keys.publicKey ∧
      (∀ i ∈ s.issued, ∀ now : Int, verifyInvite signing now (.obj [("invite", .str i.invite)]) =
        if (now : Rat) ≤ i.exp then ⟨200, .obj (("ok", .bool true) :: (host.server keys.publicKey).payload i.exp)⟩
        else refuse 200 "expired") ∧
      ∀ (now : Int) body, (verifyInvite signing now body).Ok → ∃ i ∈ s.issued,
        verifyInvite signing now body = ⟨200, .obj (("ok", .bool true) :: (host.server keys.publicKey).payload i.exp)⟩ ∧
          (now : Rat) ≤ i.exp := by
  obtain ⟨pair, n, hs, rfl⟩ := (reachable_phase h).up hup
  have hwhole : pair.first n = pair := by
    rw [hs.stored.first_eq_iff, ← Nat.not_lt, ← hs.cut, hcut]
    exact Bool.false_ne_true
  have hsigns := hcrypto pair hs.stored.generated
  rw [hwhole]
  let signing : Keys host.rt (host.server pair.publicKey) (s.issued.map (·.exp)) :=
    { sign := host.sign pair.privateKey
      verify := host.verify pair.publicKey
      verify_sign := fun exp hexp => by
        obtain ⟨i, hi, rfl⟩ := List.mem_map.1 hexp
        exact hsigns.verify_sign i hi
      of_verify := fun m sig hverify => by
        obtain ⟨i, hi, hm⟩ := hsigns.of_verify m sig hverify
        exact ⟨i.exp, List.mem_map_of_mem hi, hm⟩ }
  refine ⟨signing, rfl, rfl, fun i hi now => ?_, fun now body hok => ?_⟩
  · obtain ⟨exp, hissue⟩ := hs.issued i hi
    have hexp : exp ∈ s.issued.map (·.exp) := List.mem_map.2 ⟨i, hi, by rw [hissue]; rfl⟩
    rw [hissue, hwhole]
    exact verifyInvite_created signing hexp 0 now
  · obtain ⟨exp, hexp, hreply, hle⟩ := verifyInvite_ok signing hok
    obtain ⟨i, hi, rfl⟩ := List.mem_map.1 hexp
    exact ⟨i, hi, hreply, hle⟩

/-- An invite of the first instance at the second. -/
theorem invites_outlive_sample : ∃ (s : Site)
    (signing : Keys Sample.host.rt (Sample.host.server Sample.pair.publicKey) (s.issued.map (·.exp))),
    ∃ i ∈ s.issued, i.exp = 24 * 3600000 ∧ (verifyInvite signing 1 (.obj [("invite", .str i.invite)])).Ok := by
  obtain ⟨s₀, f, h₀, hwriting, hnow⟩ := first_run Sample.generated 0 (Nat.le_refl (Sample.pair.bytes .pub).length)
  obtain ⟨⟨hissued, hcut⟩, -⟩ := (reachable_phase h₀).stored hwriting
  have h₁ := (h₀.step (.listen hwriting)).step (.invite none rfl)
  rw [hissued, hnow] at h₁
  have hexp : (Sample.host.server Sample.pair.publicKey).expiry 0 none = 24 * 3600000 := Rat.zero_add _
  rw [hexp] at h₁
  obtain ⟨pair, n, hsettled, hpair⟩ := (reachable_phase h₁).up rfl
  obtain ⟨s, hs, hup, hsame⟩ := hsettled.restart
  have hwhole : s.cut = false := by
    rw [← Bool.not_eq_true, (hsettled.run hs).cut, ← hsettled.cut, hcut]
    exact Bool.false_ne_true
  rw [← hpair] at hup
  have hsigns : ∀ pair, Sample.host.Generated pair → Sample.host.Signs pair s.issued := by
    rintro pair rfl
    rw [hsame]
    refine ⟨fun i hi => ?_, fun m sig hverify => ⟨_, List.mem_singleton_self _, ?_⟩⟩
    · obtain rfl := List.mem_singleton.1 hi
      exact (Bool.and_eq_true ..).mpr ⟨decide_eq_true rfl, decide_eq_true rfl⟩
    · exact of_decide_eq_true (Bool.and_eq_true .. |>.mp hverify).2
  obtain ⟨signing, -, -, hanswers, -⟩ := invites_outlive Sample.host 0 (h₁.trans hs) hup hwhole hsigns
  have hmem : Sample.host.issue Sample.pair (24 * 3600000) ∈ s.issued := by
    rw [hsame]
    exact List.mem_singleton_self _
  refine ⟨s, signing, _, hmem, rfl, ?_⟩
  rw [hanswers _ hmem 1, if_pos (by change ((1 : Int) : Rat) ≤ 24 * 3600000; decide +kernel)]
  rfl

end Tactix.Discovery
