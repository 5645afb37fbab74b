import Tactix.Bootstrap.Config
import Tactix.Lib.Runs
/-!
# The first-run wizard

`FirstRun.tsx` and the shell of `app.tsx` that mounts it, against `bootstrap-svc`. The
requests of the wizard are answered in any order, and some after its step is left.
`firstRun_sound` says what stands behind every configuration it posts, and that
`ConfigSchema` refuses each of them.
-/
open Tactix.Js ServiceLib
open Tactix.Bootstrap (Config)

namespace Tactix.Ui.FirstRun

structure Ldap where
  url : String
  bindDn : String
  bindPassword : String
  baseDn : String
  deriving DecidableEq

structure Admin where
  upn : String
  password : String

def Ldap.json (l : Ldap) : Json :=
  .obj [("url", .str l.url), ("bindDn", .str l.bindDn), ("bindPassword", .str l.bindPassword), ("baseDn", .str l.baseDn)]

/-- A request of the wizard. -/
inductive Req where
  | runProbe
  | testLdap (ldap : Ldap)
  | createAdmin (admin : Admin)
  | applyConfig (mode : String) (ldap : Option Ldap)

/-- The body of `applyConfig`. -/
def configBody (mode : String) (ldap : Option Ldap) : Json :=
  .obj ([("mode", .str mode)] ++ (ldap.map fun l => ("ldap", l.json)).toList)

/-- A request comes to a 2xx with this text, or to anything else. -/
abbrev Answer := Option String

/-- The states of `FirstRun`, its requests under way, and those that were answered with a 2xx. -/
structure Wizard where
  step : Nat
  probe : String
  mode : String
  ldap : Ldap
  ldapOk : Bool
  admin : Admin
  pending : List Req
  sent : List Req
  succeeded : List Req

def Wizard.init : Wizard := ⟨0, "", "", ⟨"", "", "", ""⟩, false, ⟨"", ""⟩, [], [], []⟩

def Wizard.fetch (w : Wizard) (r : Req) : Wizard := { w with pending := w.pending ++ [r], sent := w.sent ++ [r] }

/-- What the user does. -/
inductive Input where
  | next
  | runProbe
  | choose (mode : Bootstrap.Mode)
  | editLdap (ldap : Ldap)
  | testLdap
  | skip
  | editAdmin (admin : Admin)
  | createAdmin
  | apply

/-- An input where its control is shown and enabled. -/
def Wizard.on (w : Wizard) : Input → Option Wizard
  | .next =>
    match w.step with
    | 0 => some { w with step := 1 }
    | 1 => if w.probe = "" ∨ w.probe = "fail" then none else some { w with step := 2 }
    | 2 => if w.mode = "" then none else some { w with step := 3 }
    | 3 => some { w with step := if w.ldapOk then 5 else 4 }
    | _ => none
  | .runProbe => if w.step = 1 then some (w.fetch .runProbe) else none
  | .choose mode => if w.step = 2 then some { w with mode := mode.name } else none
  | .editLdap ldap => if w.step = 3 then some { w with ldap } else none
  | .testLdap => if w.step = 3 then some (w.fetch (.testLdap w.ldap)) else none
  | .skip => if w.step = 3 then some { w with step := 4 } else none
  | .editAdmin admin => if w.step = 4 then some { w with admin } else none
  | .createAdmin => if w.step = 4 then some (w.fetch (.createAdmin w.admin)) else none
  | .apply => if w.step = 5 then some (w.fetch (.applyConfig w.mode (if w.ldapOk then some w.ldap else none))) else none

/-- The `then` of a request. -/
def Wizard.handle (w : Wizard) : Req → Answer → Wizard
  | .runProbe, some text => { w with probe := text }
  | .runProbe, none => { w with probe := "fail" }
  | .testLdap _, some _ => { w with ldapOk := true }
  | .testLdap _, none => { w with ldapOk := false }
  | .createAdmin _, some _ => { w with step := 5 }
  | .createAdmin _, none => w
  -- `onComplete`, and the page is loaded again.
  | .applyConfig .., some _ => .init
  | .applyConfig .., none => w

/-- `App` with the wizard it may mount. `mode` is `none` before the configuration is there, and
`some none` when it could not be had; `got` is the mode that `GET /bootstrap/config` has answered. -/
structure Shell where
  mode : Option (Option String)
  got : Option Bootstrap.Mode
  wizard : Wizard

def Shell.init : Shell := ⟨none, none, .init⟩

inductive Action where
  | config (cfg : Option Config)
  | input (i : Input)
  | answer (i : Nat) (a : Answer)

/-- A 2xx for a posted configuration means that `ConfigSchema` has accepted it. -/
def Accepted : Req → Answer → Prop
  | .applyConfig mode ldap, some _ => (Config.parse (configBody mode ldap)).isSome
  | _, _ => True

inductive Step : Shell → Action → Shell → Prop
  | config {s : Shell} {cfg : Option Config} : s.mode = none →
      Step s (.config cfg) { s with mode := some (cfg.map (·.mode.name)), got := cfg.map (·.mode) }
  | input {s : Shell} {i : Input} {w : Wizard} : s.mode = some none → s.wizard.on i = some w →
      Step s (.input i) { s with wizard := w }
  | answer {s : Shell} {i : Nat} {r : Req} {a : Answer} : s.wizard.pending[i]? = some r → Accepted r a →
      Step s (.answer i a)
        { s with mode := match r, a with
                   | .applyConfig mode _, some _ => some (some mode)
                   | _, _ => s.mode
                 wizard := { s.wizard with
                   pending := s.wizard.pending.eraseIdx i
                   succeeded := if a.isSome then r :: s.wizard.succeeded else s.wizard.succeeded }.handle r a }

/-- The fields are edited only while no test is under way, and none has succeeded since the last one failed. -/
def Settled (s : Shell) : Action → Prop
  | .input (.editLdap _) => s.wizard.ldapOk = false ∧ ∀ l, .testLdap l ∉ s.wizard.pending
  | _ => True

namespace Sample

def ldap : Ldap := ⟨"ldap://dc", "cn=svc", "pw", "dc=x"⟩

/-- The wizard after `GET` has failed and all steps are done. -/
def posted : Wizard where
  step := 5
  probe := "\x7b\x7d"
  mode := "server"
  ldap := ldap
  ldapOk := true
  admin := ⟨"", ""⟩
  pending := [.applyConfig "server" (some ldap)]
  sent := [.runProbe, .testLdap ldap, .applyConfig "server" (some ldap)]
  succeeded := [.testLdap ldap, .runProbe]

theorem run : Reachable (Guarded Settled Step) .init ⟨some none, none, posted⟩ := by
  have h0 : Reachable (Guarded Settled Step) .init _ := Reachable.refl.nextGuarded (.config none) trivial (.config rfl)
  have h1 := h0.nextGuarded (.input .next) trivial (.input rfl rfl)
  have h2 := h1.nextGuarded (.input .runProbe) trivial (.input rfl rfl)
  have h3 := h2.nextGuarded (.answer 0 (some "\x7b\x7d")) trivial (.answer rfl trivial)
  have h4 := h3.nextGuarded (.input .next) trivial (.input rfl rfl)
  have h5 := h4.nextGuarded (.input (.choose .server)) trivial (.input rfl rfl)
  have h6 := h5.nextGuarded (.input .next) trivial (.input rfl rfl)
  have h7 := h6.nextGuarded (.input (.editLdap ldap)) ⟨rfl, fun l => List.not_mem_nil⟩ (.input rfl rfl)
  have h8 := h7.nextGuarded (.input .testLdap) trivial (.input rfl rfl)
  have h9 := h8.nextGuarded (.answer 0 (some "")) trivial (.answer rfl trivial)
  have h10 := h9.nextGuarded (.input .next) trivial (.input rfl rfl)
  exact h10.nextGuarded (.input .apply) trivial (.input rfl rfl)

end Sample

/-! ## What stands behind a posted configuration -/

/-- An LDAP test or the creation of an administrator has succeeded. -/
def Signable (done : List Req) : Prop := (∃ l, .testLdap l ∈ done) ∨ ∃ a, .createAdmin a ∈ done

structure Sound (w : Wizard) : Prop where
  steps : w.step ≤ 5
  probe : w.probe ≠ "" → w.probe ≠ "fail" → .runProbe ∈ w.succeeded
  probed : 2 ≤ w.step → .runProbe ∈ w.succeeded
  mode : w.mode = "" ∨ ∃ m : Bootstrap.Mode, w.mode = m.name
  chosen : 3 ≤ w.step → w.mode ≠ ""
  ldapOk : w.ldapOk = true → ∃ l, .testLdap l ∈ w.succeeded
  admin : ∀ a, .createAdmin a ∈ w.pending → 4 ≤ w.step
  signable : 5 ≤ w.step → Signable w.succeeded
  posted : ∀ mode ldap, .applyConfig mode ldap ∈ w.sent →
    (∃ m : Bootstrap.Mode, mode = m.name) ∧ .runProbe ∈ w.succeeded ∧ Signable w.succeeded
  pending : ∀ r ∈ w.pending, r ∈ w.sent

theorem parse_discovery {v : Json} (h : v.get? "discovery" = none) : Config.parse v = none := by
  simp [Config.parse, h]

/-- The wizard sends neither `discovery` nor `server` nor `pinnedServers`. -/
theorem configBody_refused (mode : String) (ldap : Option Ldap) : Config.parse (configBody mode ldap) = none := by
  refine parse_discovery ?_
  cases ldap with
  | none => rfl
  | some l => rfl

theorem mode_ne_empty (m : Bootstrap.Mode) : m.name ≠ "" := by
  cases m <;> decide

section
variable {w w' : Wizard}

theorem sound_init : Sound .init := by
  constructor <;> simp [Wizard.init]

theorem Signable.mono {done done' : List Req} (h : Signable done) (hsub : done ⊆ done') : Signable done' := by
  rcases h with ⟨l, hl⟩ | ⟨a, ha⟩
  · exact .inl ⟨l, hsub hl⟩
  · exact .inr ⟨a, hsub ha⟩

/-- A request that the step it is sent from allows. -/
theorem Sound.fetch (h : Sound w) {r : Req} (hadmin : ∀ a, r = .createAdmin a → 4 ≤ w.step)
    (hposted : ∀ mode ldap, r = .applyConfig mode ldap → 5 ≤ w.step ∧ mode = w.mode) : Sound (w.fetch r) := by
  refine ⟨h.steps, h.probe, h.probed, h.mode, h.chosen, h.ldapOk, fun a ha => ?_, h.signable, fun mode ldap hm => ?_,
    fun r' hr => ?_⟩
  · rcases List.mem_append.1 ha with ha | ha
    · exact h.admin a ha
    · exact hadmin a (List.mem_singleton.1 ha).symm
  · rcases List.mem_append.1 hm with hm | hm
    · exact h.posted mode ldap hm
    · obtain ⟨hstep, rfl⟩ := hposted mode ldap (List.mem_singleton.1 hm).symm
      exact ⟨h.mode.resolve_left (h.chosen (by omega)), h.probed (by omega), h.signable hstep⟩
  · rcases List.mem_append.1 hr with hr | hr
    · exact List.mem_append_left _ (h.pending r' hr)
    · exact List.mem_append_right _ hr

/-- The next step is shown. -/
theorem Sound.go (h : Sound w) {n : Nat} (hle : w.step ≤ n) (hn : n ≤ 5) (hprobed : 2 ≤ n → .runProbe ∈ w.succeeded)
    (hchosen : 3 ≤ n → w.mode ≠ "") (hsignable : 5 ≤ n → Signable w.succeeded) : Sound { w with step := n } :=
  ⟨hn, h.probe, hprobed, h.mode, hchosen, h.ldapOk, fun a ha => (h.admin a ha).trans hle, hsignable, h.posted, h.pending⟩

theorem sound_next (h : Sound w) (hw : w.on .next = some w') : Sound w' := by
  simp only [Wizard.on] at hw
  split at hw
  · rename_i hstep
    cases hw
    exact h.go (by omega) (by omega) (by omega) (by omega) (by omega)
  · rename_i hstep
    split at hw
    · cases hw
    · rename_i hprobe
      cases hw
      simp only [not_or] at hprobe
      exact h.go (by omega) (by omega) (fun _ => h.probe hprobe.1 hprobe.2) (by omega) (by omega)
  · rename_i hstep
    split at hw
    · cases hw
    · rename_i hmode
      cases hw
      exact h.go (by omega) (by omega) (fun _ => h.probed (by omega)) (fun _ => hmode) (by omega)
  · rename_i hstep
    cases hw
    have hle : w.step ≤ if w.ldapOk then 5 else 4 := by split <;> omega
    have hn : (if w.ldapOk then 5 else 4) ≤ 5 := by split <;> omega
    refine h.go hle hn (fun _ => h.probed (by omega)) (fun _ => h.chosen (by omega)) fun hfive => ?_
    cases hok : w.ldapOk with
    | true => exact .inl (h.ldapOk hok)
    | false => simp [hok] at hfive
  · cases hw

theorem sound_input (h : Sound w) {i : Input} (hw : w.on i = some w') : Sound w' := by
  cases i with
  | next => exact sound_next h hw
  | runProbe =>
    obtain ⟨-, ⟨⟩⟩ := Option.ite_none_right_eq_some.1 hw
    exact h.fetch (by simp) (by simp)
  | choose mode =>
    obtain ⟨hstep, ⟨⟩⟩ := Option.ite_none_right_eq_some.1 hw
    exact { h with mode := .inr ⟨mode, rfl⟩, chosen := fun _ => mode_ne_empty mode }
  | editLdap ldap =>
    obtain ⟨-, ⟨⟩⟩ := Option.ite_none_right_eq_some.1 hw
    exact { h with }
  | testLdap =>
    obtain ⟨-, ⟨⟩⟩ := Option.ite_none_right_eq_some.1 hw
    exact h.fetch (by simp) (by simp)
  | skip =>
    obtain ⟨hstep, ⟨⟩⟩ := Option.ite_none_right_eq_some.1 hw
    exact h.go (by omega) (by omega) (fun _ => h.probed (by omega)) (fun _ => h.chosen (by omega)) (by omega)
  | editAdmin admin =>
    obtain ⟨-, ⟨⟩⟩ := Option.ite_none_right_eq_some.1 hw
    exact { h with }
  | createAdmin =>
    obtain ⟨hstep, ⟨⟩⟩ := Option.ite_none_right_eq_some.1 hw
    exact h.fetch (fun _ _ => by omega) (by simp)
  | apply =>
    obtain ⟨hstep, ⟨⟩⟩ := Option.ite_none_right_eq_some.1 hw
    refine h.fetch (by simp) fun mode ldap he => ?_
    cases he
    exact ⟨by omega, rfl⟩

/-- A request is answered, before its `then` runs. -/
theorem Sound.answered (h : Sound w) (i : Nat) (r : Req) (a : Answer) : Sound { w with
    pending := w.pending.eraseIdx i, succeeded := if a.isSome then r :: w.succeeded else w.succeeded } := by
  have hsub : w.succeeded ⊆ if a.isSome then r :: w.succeeded else w.succeeded := by
    split
    · exact List.subset_cons_self ..
    · exact List.Subset.refl _
  refine ⟨h.steps, fun h₁ h₂ => hsub (h.probe h₁ h₂), fun h₁ => hsub (h.probed h₁), h.mode, h.chosen, fun hok => ?_,
    fun a ha => h.admin a (List.mem_of_mem_eraseIdx ha), fun h₁ => (h.signable h₁).mono hsub, fun mode ldap hm => ?_,
    fun r hr => h.pending r (List.mem_of_mem_eraseIdx hr)⟩
  · obtain ⟨l, hl⟩ := h.ldapOk hok
    exact ⟨l, hsub hl⟩
  · obtain ⟨hmode, hprobe, hsign⟩ := h.posted mode ldap hm
    exact ⟨hmode, hsub hprobe, hsign.mono hsub⟩

theorem Sound.handle (h : Sound w) {r : Req} {a : Answer} (hr : a.isSome = true → r ∈ w.succeeded)
    (hadmin : ∀ x, r = .createAdmin x → 4 ≤ w.step) : Sound (w.handle r a) := by
  cases r with
  | runProbe =>
    cases a with
    | none => exact { h with probe := fun _ hfail => absurd rfl hfail }
    | some text => exact { h with probe := fun _ _ => hr rfl }
  | testLdap l =>
    cases a with
    | none => exact { h with ldapOk := fun hok => (by cases hok) }
    | some text => exact { h with ldapOk := fun _ => ⟨l, hr rfl⟩ }
  | createAdmin x =>
    cases a with
    | none => exact h
    | some text =>
      have hfour := hadmin x rfl
      exact h.go h.steps (Nat.le_refl 5) (fun _ => h.probed (by omega)) (fun _ => h.chosen (by omega)) fun _ => .inr ⟨x, hr rfl⟩
  | applyConfig mode ldap =>
    cases a with
    | none => exact h
    | some text => exact sound_init

/-- A wizard after one of its requests is answered. -/
theorem sound_answer (h : Sound w) {i : Nat} {r : Req} (hr : w.pending[i]? = some r) (a : Answer) : Sound (Wizard.handle
    { w with pending := w.pending.eraseIdx i, succeeded := if a.isSome then r :: w.succeeded else w.succeeded } r a) := by
  refine (h.answered i r a).handle (fun ha => ?_) fun x hx => h.admin x (hx ▸ List.mem_of_getElem? hr)
  dsimp only
  rw [if_pos ha]
  exact List.mem_cons_self

end

/-- The shell shows the wizard or the application. -/
structure ShellInv (s : Shell) : Prop where
  wizard : Sound s.wizard
  mode : (s.mode = none ∧ s.got = none) ∨ s.mode = some (s.got.map (·.name))

theorem shell_step {s s' : Shell} {a : Action} (h : ShellInv s) (hs : Step s a s') : ShellInv s' := by
  cases hs with
  | @config cfg hnone => exact ⟨h.wizard, .inr (by cases cfg <;> rfl)⟩
  | input _ hw => exact ⟨sound_input h.wizard hw, h.mode⟩
  | @answer i r a hr ha =>
    refine ⟨sound_answer h.wizard hr a, ?_⟩
    cases r with
    | applyConfig mode ldap =>
      cases a with
      | none => exact h.mode
      | some text =>
        -- The service accepts none of these.
        rw [Accepted, configBody_refused] at ha
        cases ha
    | _ => exact h.mode

/-- In every run, each configuration the wizard posts has one of the three modes, and behind it
are a probe that succeeded and an LDAP test or a new administrator; `ConfigSchema` refuses it;
and the application is shown exactly when `GET /bootstrap/config` has answered, whatever
happens in the wizard. -/
theorem firstRun_sound {s : Shell} (h : Reachable Step .init s) :
    (∀ mode ldap, .applyConfig mode ldap ∈ s.wizard.sent → (∃ m : Bootstrap.Mode, mode = m.name) ∧
      .runProbe ∈ s.wizard.succeeded ∧ Signable s.wizard.succeeded ∧ Config.parse (configBody mode ldap) = none) ∧
    ∀ mode, s.mode = some (some mode) ↔ s.got.map (·.name) = some mode := by
  have hi : ShellInv s := h.inv ⟨sound_init, .inl ⟨rfl, rfl⟩⟩ fun _ _ _ hi hs => shell_step hi hs
  refine ⟨fun mode ldap hm => ?_, fun mode => ?_⟩
  · obtain ⟨hmode, hprobe, hsign⟩ := hi.wizard.posted mode ldap hm
    exact ⟨hmode, hprobe, hsign, configBody_refused mode ldap⟩
  · rcases hi.mode with ⟨hmode, hgot⟩ | hmode
    · simp [hmode, hgot]
    · rw [hmode, Option.some.injEq]

/-- The configuration of the run is refused. -/
theorem firstRun_sound_sample : Config.parse (configBody "server" (some Sample.ldap)) = none :=
  ((firstRun_sound Sample.run.forget).1 "server" (some Sample.ldap) (by simp [Sample.posted])).2.2.2

/-! ## Which LDAP settings are posted -/

structure Tested (w : Wizard) : Prop where
  pending : ∀ l, .testLdap l ∈ w.pending → l = w.ldap
  ldapOk : w.ldapOk = true → .testLdap w.ldap ∈ w.succeeded
  posted : ∀ mode l, .applyConfig mode (some l) ∈ w.sent → .testLdap l ∈ w.succeeded

section
variable {w w' : Wizard}

theorem tested_init : Tested .init := by
  constructor <;> simp [Wizard.init]

/-- A step that keeps the fields, the requests and the outcome of the test. -/
theorem Tested.keep (h : Tested w) (hl : w'.ldap = w.ldap) (hok : w'.ldapOk = w.ldapOk) (hp : w'.pending = w.pending)
    (hs : w'.sent = w.sent) (hd : w'.succeeded = w.succeeded) : Tested w' :=
  ⟨by rw [hp, hl]; exact h.pending, by rw [hok, hd, hl]; exact h.ldapOk, by rw [hs, hd]; exact h.posted⟩

theorem Tested.fetch (h : Tested w) {r : Req} (htest : ∀ l, r = .testLdap l → l = w.ldap)
    (hposted : ∀ mode l, r = .applyConfig mode (some l) → w.ldapOk = true ∧ l = w.ldap) : Tested (w.fetch r) := by
  refine ⟨fun l hl => ?_, h.ldapOk, fun mode l hm => ?_⟩
  · rcases List.mem_append.1 hl with hl | hl
    · exact h.pending l hl
    · exact htest l (List.mem_singleton.1 hl).symm
  · rcases List.mem_append.1 hm with hm | hm
    · exact h.posted mode l hm
    · obtain ⟨hok, rfl⟩ := hposted mode l (List.mem_singleton.1 hm).symm
      exact h.ldapOk hok

theorem tested_input (h : Tested w) {i : Input} (hedit : ∀ l, i = .editLdap l → w.ldapOk = false ∧ ∀ l, .testLdap l ∉ w.pending)
    (hw : w.on i = some w') : Tested w' := by
  cases i with
  | next =>
    simp only [Wizard.on] at hw
    split at hw
    · cases hw
      exact h.keep rfl rfl rfl rfl rfl
    · split at hw
      · cases hw
      · cases hw
        exact h.keep rfl rfl rfl rfl rfl
    · split at hw
      · cases hw
      · cases hw
        exact h.keep rfl rfl rfl rfl rfl
    · cases hw
      exact h.keep rfl rfl rfl rfl rfl
    · cases hw
  | editLdap l =>
    obtain ⟨-, ⟨⟩⟩ := Option.ite_none_right_eq_some.1 hw
    obtain ⟨hok, hnone⟩ := hedit l rfl
    exact ⟨fun l hl => absurd hl (hnone l), fun h' => absurd (h'.symm.trans hok) (by decide), h.posted⟩
  | runProbe =>
    obtain ⟨-, ⟨⟩⟩ := Option.ite_none_right_eq_some.1 hw
    exact h.fetch (by simp) (by simp)
  | testLdap =>
    obtain ⟨-, ⟨⟩⟩ := Option.ite_none_right_eq_some.1 hw
    exact h.fetch (fun l he => (Req.testLdap.inj he).symm) (by simp)
  | createAdmin =>
    obtain ⟨-, ⟨⟩⟩ := Option.ite_none_right_eq_some.1 hw
    exact h.fetch (by simp) (by simp)
  | apply =>
    obtain ⟨-, ⟨⟩⟩ := Option.ite_none_right_eq_some.1 hw
    refine h.fetch (by simp) fun mode l he => ?_
    obtain ⟨-, hl⟩ := Req.applyConfig.inj he
    obtain ⟨hok, hl⟩ := Option.ite_none_right_eq_some.1 hl
    exact ⟨hok, (Option.some.inj hl).symm⟩
  | choose | skip | editAdmin =>
    obtain ⟨-, ⟨⟩⟩ := Option.ite_none_right_eq_some.1 hw
    exact h.keep rfl rfl rfl rfl rfl

theorem tested_answer (h : Tested w) {i : Nat} {r : Req} (hr : w.pending[i]? = some r) (a : Answer) : Tested (Wizard.handle
    { w with pending := w.pending.eraseIdx i, succeeded := if a.isSome then r :: w.succeeded else w.succeeded } r a) := by
  have hsub : w.succeeded ⊆ if a.isSome then r :: w.succeeded else w.succeeded := by
    split
    · exact List.subset_cons_self ..
    · exact List.Subset.refl _
  have hanswered : Tested { w with
      pending := w.pending.eraseIdx i, succeeded := if a.isSome then r :: w.succeeded else w.succeeded } :=
    ⟨fun l hl => h.pending l (List.mem_of_mem_eraseIdx hl), fun hok => hsub (h.ldapOk hok),
      fun mode l hm => hsub (h.posted mode l hm)⟩
  cases r with
  | testLdap l =>
    cases a with
    | none => exact { hanswered with ldapOk := fun hok => (by cases hok) }
    | some text =>
      -- The settings that were tested are still the fields.
      obtain rfl := h.pending l (List.mem_of_getElem? hr)
      exact { hanswered with ldapOk := fun _ => List.mem_cons_self }
  | runProbe | createAdmin => cases a <;> exact hanswered.keep rfl rfl rfl rfl rfl
  | applyConfig mode ldap =>
    cases a with
    | none => exact hanswered
    | some text => exact tested_init

end

/-- In every run in which the fields stay as they are while a test is under way and once it has
succeeded, the LDAP settings that are posted have passed a test. -/
theorem posted_tested {s : Shell} (h : Reachable (Guarded Settled Step) .init s) (mode : String) {l : Ldap}
    (hm : .applyConfig mode (some l) ∈ s.wizard.sent) : .testLdap l ∈ s.wizard.succeeded := by
  have hi : Tested s.wizard := by
    refine h.inv (I := fun s => Tested s.wizard) tested_init ?_
    rintro s a s' hi ⟨hguard, hs⟩
    cases hs with
    | config => exact hi
    | @input i w _ hw => exact tested_input hi (fun l he => by subst he; exact hguard) hw
    | answer hr _ => exact tested_answer hi hr _
  exact hi.posted mode l hm

/-- Its LDAP settings have passed the test. -/
theorem posted_tested_sample : .testLdap Sample.ldap ∈ Sample.posted.succeeded :=
  posted_tested Sample.run "server" (by simp [Sample.posted])

end Tactix.Ui.FirstRun
