import Mathlib.Data.List.DropRight
import Tactix.Js
import Tactix.Lib.Occurs
import Tactix.Lib.Scan
/-!
# The route scan of `zt-audit`

A regular expression stands for reading route registrations: from `router.<verb>(` to the next
`)`, wherever that is. `audit_exact_iff` says for which texts it reports the registrations
without `requireAuth` and nothing else.
-/
open Tactix.Js ServiceLib

namespace Tactix.ZtAudit

inductive Verb where
  | get
  | post
  | patch
  | delete
  deriving DecidableEq

def Verb.name : Verb → String
  | .get => "get"
  | .post => "post"
  | .patch => "patch"
  | .delete => "delete"

/-- `router.<verb>(`. -/
def opening (v : Verb) : List Char := ("router." ++ v.name ++ "(").toList

/-! ## The scan -/

/-- `/router\.(get|post|patch|delete)\(([^)]*)\)/` at the beginning of a text. -/
def routeRe (s : List Char) : Option (List Char) :=
  match [Verb.get, .post, .patch, .delete].find? fun v => (opening v).isPrefixOf s with
  | none => none
  | some v =>
    let args := s.drop (opening v).length
    if ')' ∈ args then some (opening v ++ args.takeWhile (· ≠ ')') ++ [')']) else none

/-- `/requireAuth/.test(routeDef)`. -/
def requiresAuth (routeDef : List Char) : Bool := decide ("requireAuth".toList <:+: routeDef)

inductive Severity where
  | high
  | info

structure Issue where
  severity : Severity
  kind : String
  file : String
  line : Nat
  message : String

/-- `s.split(/\r?\n/).length`: a line ends at every `\n`, with a `\r` before it or not. -/
def lineCount (s : List Char) : Nat := s.count '\n' + 1

/-- The matches without `requireAuth`. -/
def unguarded (content : List Char) : List (Match Char) :=
  (scan routeRe 0 [] content).filter fun m => !requiresAuth m.text

/-- Where they begin. -/
def foundAt (content : List Char) : List Nat := (unguarded content).map (·.before.length)

/-- The loop over `routeRe.exec(content)`. It ends with `null`, which puts `lastIndex` back to 0 for the next file. -/
def routeIssues (file : String) (content : List Char) : List Issue :=
  (unguarded content).map fun m =>
    ⟨.high, "route-auth", file, lineCount m.before, "Route missing requireAuth: " ++ trim (String.ofList m.text)⟩

/-! ## Registrations -/

/-- The parentheses of a text balance, with so many open before it. -/
def balanced : Nat → List Char → Bool
  | depth, [] => depth == 0
  | depth, '(' :: s => balanced (depth + 1) s
  | depth, ')' :: s => depth != 0 && balanced (depth - 1) s
  | depth, _ :: s => balanced depth s

/-- What is open at a place in a text. A backslash escapes the next character of a quotation. -/
structure Nesting where
  parens : Nat
  brackets : Nat
  quote : Option Char
  escaped : Bool
  deriving DecidableEq

/-- Nothing is open. -/
def Nesting.outside : Nesting := ⟨0, 0, none, false⟩

def quotes : List Char := "'\"`".toList

def Nesting.next (n : Nesting) (c : Char) : Nesting :=
  let parens := if c = '(' then n.parens + 1 else if c = ')' then n.parens - 1 else n.parens
  match n.quote with
  | some q =>
    if n.escaped then ⟨parens, n.brackets, some q, false⟩
    else if c = q then ⟨parens, n.brackets, none, false⟩
    else ⟨parens, n.brackets, some q, c = '\\'⟩
  | none =>
    if c ∈ quotes then ⟨parens, n.brackets, some c, false⟩
    else if c = '[' ∨ c = '\x7b' then ⟨parens, n.brackets + 1, none, false⟩
    else if c = ']' ∨ c = '\x7d' then ⟨parens, n.brackets - 1, none, false⟩
    else ⟨parens, n.brackets, none, false⟩

/-- Every comma is inside something. -/
def oneArgument : Nesting → List Char → Bool
  | _, [] => true
  | n, c :: s => !(decide (c = ',' ∧ n = .outside)) && oneArgument (n.next c) s

/-- `router.<verb>(a1, ..., an)`. -/
structure Registration where
  verb : Verb
  args : List String
  balanced : ∀ a ∈ args, ZtAudit.balanced 0 a.toList = true
  separate : ∀ a ∈ args, oneArgument .outside a.toList = true

namespace Registration

/-- The arguments with the commas between them. -/
def inner (r : Registration) : List Char := List.intercalate [','] (r.args.map String.toList)

def text (r : Registration) : List Char := opening r.verb ++ r.inner ++ [')']

/-- `requireAuth` is one of the arguments before the handler. -/
def guarded (r : Registration) : Bool := r.args.dropLast.any fun a => decide (trim a = "requireAuth")

/-- The arguments up to the first closing parenthesis: what the scan reads of them. -/
def seen (r : Registration) : List Char := r.inner.takeWhile (· ≠ ')')

/-- Behind the first closing parenthesis. -/
def rest (r : Registration) : List Char := (r.inner ++ [')']).drop (r.seen.length + 1)

end Registration

/-- No registration stands in a text. -/
def NoRoutes (s : List Char) : Prop := ∀ r : Registration, ¬ r.text <:+: s

/-- A source: registrations, with the text before each and the text behind the last. -/
structure Source where
  routes : List (List Char × Registration)
  last : List Char
  before_plain : ∀ p ∈ routes, NoRoutes p.1
  last_plain : NoRoutes last

def routesText (routes : List (List Char × Registration)) : List Char := routes.flatMap fun p => p.1 ++ p.2.text

def Source.text (src : Source) : List Char := routesText src.routes ++ src.last

/-- Where the registrations without `requireAuth` begin. -/
def missing (start : Nat) : List (List Char × Registration) → List Nat
  | [] => []
  | (sep, r) :: rest =>
    (if r.guarded then [] else [start + sep.length]) ++ missing (start + (sep ++ r.text).length) rest

/-- There is one issue for each registration without `requireAuth`, found where it begins and of its line, and no
other. -/
structure Exact (file : String) (src : Source) : Prop where
  found : foundAt src.text = missing 0 src.routes
  lines : (routeIssues file src.text).map (·.line) = (missing 0 src.routes).map fun i => lineCount (src.text.take i)

/-! ## When it is exact -/

/-- Behind the last closing parenthesis. -/
def unclosed (s : List Char) : List Char := s.rtakeWhile (· ≠ ')')

/-- A route is opened in a text. -/
def Opens (s : List Char) : Prop := ∃ v, opening v <:+: s

/-- Where a route is opened, the first since the last closing parenthesis, `requireAuth` comes before the next one. -/
def Quiet (s : List Char) : Prop :=
  ∀ v before args behind, s = before ++ opening v ++ args ++ ')' :: behind → ')' ∉ args → ¬ Opens (unclosed before) →
    requiresAuth args = true

/-- Neither the text before a registration nor what comes behind its first closing parenthesis gives an issue. If the
text before leaves a route open, the registration has `requireAuth`, and so has the text from there; and else
`requireAuth` stands before its first closing parenthesis just when it is an argument before the handler. -/
structure Legible (sep : List Char) (r : Registration) : Prop where
  before : Quiet sep
  rest : Quiet r.rest
  opened : Opens (unclosed sep) → r.guarded = true ∧ Quiet (unclosed sep ++ opening r.verb ++ r.seen ++ [')'])
  alone : ¬ Opens (unclosed sep) → requiresAuth r.seen = r.guarded

/-! ## Telling the arguments apart -/

theorem next_parens (n : Nesting) (c : Char) :
    (n.next c).parens = if c = '(' then n.parens + 1 else if c = ')' then n.parens - 1 else n.parens := by
  unfold Nesting.next
  dsimp only
  split
  · split_ifs <;> rfl
  · split_ifs <;> rfl

theorem balanced_cons {n : Nesting} {c : Char} {s : List Char} :
    balanced n.parens (c :: s) = true ↔ (c = ')' → n.parens ≠ 0) ∧ balanced (n.next c).parens s = true := by
  rw [next_parens]
  by_cases hopen : c = '('
  · subst hopen
    simp [balanced]
  · by_cases hclose : c = ')'
    · subst hclose
      simp [balanced]
    · simp [balanced, hopen, hclose]

theorem balanced_append {k d : Nat} {a s : List Char} (h : balanced k a = true) : balanced (k + d) (a ++ s) = balanced d s := by
  induction a generalizing k with
  | nil =>
    obtain rfl : k = 0 := by simpa [balanced] using h
    rw [Nat.zero_add, List.nil_append]
  | cons c a ih =>
    by_cases hopen : c = '('
    · subst hopen
      rw [List.cons_append, balanced, Nat.add_right_comm]
      exact ih h
    · by_cases hclose : c = ')'
      · subst hclose
        obtain ⟨hk, h⟩ := by simpa [balanced] using h
        rw [List.cons_append, balanced, ← ih h]
        simp [Nat.sub_add_comm (Nat.pos_of_ne_zero hk), hk]
      · have h : balanced k a = true := by simpa [balanced, hopen, hclose] using h
        simpa [balanced, hopen, hclose] using ih h

theorem balanced_intercalate {as : List (List Char)} (h : ∀ a ∈ as, balanced 0 a = true) :
    balanced 0 ([','].intercalate as) = true := by
  induction as with
  | nil => rfl
  | cons a as ih =>
    rw [List.forall_mem_cons] at h
    cases as with
    | nil => rw [List.intercalate_singleton]; exact h.1
    | cons b as =>
      rw [List.intercalate_cons_cons, List.append_assoc, balanced_append (d := 0) h.1]
      exact ih h.2

/-- A text with a comma outside of everything is cut there. -/
theorem exists_cut {n : Nesting} {s : List Char} (h : oneArgument n s = false) : ∃ p q, s = p ++ ',' :: q ∧
    oneArgument n p = true ∧ (balanced n.parens s = true → balanced n.parens p = true ∧ balanced 0 q = true) := by
  induction s generalizing n with
  | nil => cases h
  | cons c s ih =>
    by_cases hcut : c = ',' ∧ n = .outside
    · obtain ⟨rfl, rfl⟩ := hcut
      exact ⟨[], s, rfl, rfl, fun hs => ⟨rfl, hs⟩⟩
    · have hrest : oneArgument (n.next c) s = false := by simpa [oneArgument, hcut] using h
      obtain ⟨p, q, rfl, hp, hpq⟩ := ih hrest
      refine ⟨c :: p, q, rfl, by simp [oneArgument, hcut, hp], fun hs => ?_⟩
      obtain ⟨hc, hs⟩ := balanced_cons.1 hs
      exact ⟨balanced_cons.2 ⟨hc, (hpq hs).1⟩, (hpq hs).2⟩

/-- A text whose parentheses balance is that of some arguments. -/
theorem exists_args (n : Nat) (s : List Char) (hn : s.length ≤ n) (h : balanced 0 s = true) : ∃ as : List (List Char),
    as ≠ [] ∧ (∀ a ∈ as, balanced 0 a = true ∧ oneArgument .outside a = true) ∧ [','].intercalate as = s := by
  induction n generalizing s with
  | zero =>
    obtain rfl := List.length_eq_zero_iff.1 (Nat.le_zero.1 hn)
    exact ⟨[[]], by simp, by simp [balanced, oneArgument], rfl⟩
  | succ n ih =>
    cases hone : oneArgument .outside s with
    | true => exact ⟨[s], by simp, by simp [h, hone], List.intercalate_singleton⟩
    | false =>
      obtain ⟨p, q, rfl, hp, hpq⟩ := exists_cut hone
      obtain ⟨hbp, hbq⟩ := hpq h
      obtain ⟨as, hne, has, rfl⟩ := ih q (by simp at hn; omega) hbq
      obtain ⟨b, as, rfl⟩ := List.exists_cons_of_ne_nil hne
      refine ⟨p :: b :: as, by simp, List.forall_mem_cons.2 ⟨⟨hbp, hp⟩, has⟩, ?_⟩
      rw [List.intercalate_cons_cons, List.append_assoc]
      rfl

/-- Whatever texts with balanced parentheses stand between the commas, a registration has their text. -/
theorem exists_registration (v : Verb) {as : List (List Char)} (h : ∀ a ∈ as, balanced 0 a = true) :
    ∃ r : Registration, r.text = opening v ++ [','].intercalate as ++ [')'] := by
  obtain ⟨bs, -, hbs, heq⟩ := exists_args _ _ le_rfl (balanced_intercalate h)
  refine ⟨⟨v, bs.map String.ofList, ?_, ?_⟩, ?_⟩
  · simpa using fun b hb => (hbs b hb).1
  · simpa using fun b hb => (hbs b hb).2
  · simp [Registration.text, Registration.inner, heq, Function.comp_def]

/-- A text without registrations has none however their arguments are told apart. -/
theorem noRoutes_iff (s : List Char) : NoRoutes s ↔ ∀ (v : Verb) (as : List (List Char)), (∀ a ∈ as, balanced 0 a = true) →
    ¬ opening v ++ [','].intercalate as ++ [')'] <:+: s := by
  constructor
  · intro hno v as has
    obtain ⟨r, hr⟩ := exists_registration v has
    exact hr ▸ hno r
  · intro hno r
    refine hno r.verb (r.args.map String.toList) fun a ha => ?_
    obtain ⟨arg, harg, rfl⟩ := List.mem_map.1 ha
    exact r.balanced arg harg

/-! ## What the expression matches -/

theorem not_mem_opening (v : Verb) : ')' ∉ opening v := by
  cases v <;> decide

theorem opening_ne_nil (v : Verb) : opening v ≠ [] := by
  cases v <;> decide

theorem opening_prefix {v w : Verb} {s : List Char} (hv : opening v <+: s) (hw : opening w <+: s) : v = w := by
  have hpre := List.prefix_or_prefix_of_prefix hv hw
  revert hpre
  cases v <;> cases w <;> decide

theorem routeRe_none {s : List Char} (h : ∀ v, ¬ opening v <+: s) : routeRe s = none := by
  have hfind : ([Verb.get, .post, .patch, .delete].find? fun v => (opening v).isPrefixOf s) = none := by
    rw [List.find?_eq_none]
    exact fun v _ hv => h v (List.isPrefixOf_iff_prefix.1 hv)
  rw [routeRe, hfind]

theorem routeRe_opening (v : Verb) (s : List Char) :
    routeRe (opening v ++ s) = if ')' ∈ s then some (opening v ++ s.takeWhile (· ≠ ')') ++ [')']) else none := by
  cases hfind : [Verb.get, .post, .patch, .delete].find? fun w => (opening w).isPrefixOf (opening v ++ s) with
  | none =>
    rw [List.find?_eq_none] at hfind
    exact absurd (List.isPrefixOf_iff_prefix.2 (List.prefix_append ..)) (hfind v (by cases v <;> decide))
  | some w =>
    have hw := List.find?_some hfind
    obtain rfl := opening_prefix (List.isPrefixOf_iff_prefix.1 hw) (List.prefix_append (opening v) s)
    rw [routeRe, hfind]
    change (if ')' ∈ (opening w ++ s).drop (opening w).length then _ else _) = _
    rw [List.drop_left]

theorem routeRe_some (v : Verb) {args : List Char} (h : ')' ∉ args) (t : List Char) :
    routeRe (opening v ++ args ++ ')' :: t) = some (opening v ++ args ++ [')']) := by
  rw [List.append_assoc (opening v), routeRe_opening, takeWhile_cut h,
    if_pos (List.mem_append_right _ (List.mem_cons_self ..))]

/-- A text that is never closed has no match. -/
theorem routeRe_of_notMem {s : List Char} (h : ')' ∉ s) : routeRe s = none := by
  by_cases hopen : ∃ v, opening v <+: s
  · obtain ⟨v, args, rfl⟩ := hopen
    rw [routeRe_opening, if_neg fun hm => h (List.mem_append_right _ hm)]
  · exact routeRe_none fun v hv => hopen ⟨v, hv⟩

/-- A match is read up to the first closing parenthesis. -/
theorem routeRe_closed {p : List Char} (hp : ')' ∉ p) (t : List Char) :
    routeRe (p ++ ')' :: t) = routeRe (p ++ [')']) ∧ ∀ m, routeRe (p ++ ')' :: t) = some m → m = p ++ [')'] := by
  by_cases hopen : ∃ v, opening v <+: p
  · obtain ⟨v, args, rfl⟩ := hopen
    have hargs : ')' ∉ args := fun hm => hp (List.mem_append_right _ hm)
    rw [routeRe_some v hargs, routeRe_some v hargs]
    exact ⟨rfl, fun m hm => (Option.some.inj hm).symm⟩
  · have hnone : ∀ t, routeRe (p ++ ')' :: t) = none := fun t =>
      routeRe_none fun v hv => hopen ⟨v, prefix_append_cons (not_mem_opening v) hv⟩
    rw [hnone, hnone]
    exact ⟨rfl, fun m hm => absurd hm (Option.some_ne_none m).symm⟩

theorem routeRe_append {u : List Char} (hu : ')' ∈ u) (s : List Char) : routeRe (u ++ s) = routeRe u := by
  obtain ⟨p, t, rfl, hp⟩ := List.eq_append_cons_of_mem hu
  rw [List.append_assoc, List.cons_append, (routeRe_closed hp _).1, (routeRe_closed hp t).1]

theorem routeRe_length {s m : List Char} (h : routeRe s = some m) : m.length ≤ s.length := by
  by_cases hs : ')' ∈ s
  · obtain ⟨p, t, rfl, hp⟩ := List.eq_append_cons_of_mem hs
    rw [(routeRe_closed hp t).2 m h, List.length_append, List.length_append]
    exact Nat.add_le_add_left (Nat.succ_pos _) _
  · rw [routeRe_of_notMem hs] at h
    exact absurd h.symm (Option.some_ne_none m)

/-! ## Behind the last closing parenthesis -/

theorem not_mem_unclosed (s : List Char) : ')' ∉ unclosed s :=
  fun h => absurd (List.mem_rtakeWhile_imp h) (by decide)

theorem unclosed_concat (s : List Char) (c : Char) : unclosed (s ++ [c]) = if c ≠ ')' then unclosed s ++ [c] else [] := by
  rw [unclosed, List.rtakeWhile_concat]
  by_cases hc : c = ')' <;> simp [hc, unclosed]

theorem unclosed_of_notMem {s : List Char} (h : ')' ∉ s) : unclosed s = s :=
  List.rtakeWhile_eq_self_iff.2 fun _ hc => decide_eq_true fun he => h (he ▸ hc)

theorem unclosed_append {u : List Char} (hu : unclosed u = []) (s : List Char) : unclosed (u ++ s) = unclosed s := by
  induction s using List.reverseRecOn with
  | nil => rw [List.append_nil, hu]; rfl
  | append_singleton s c ih => rw [← List.append_assoc, unclosed_concat, unclosed_concat, ih]

/-- A text is cut behind its last closing parenthesis. -/
theorem exists_unclosed (s : List Char) : ∃ u, s = u ++ unclosed s ∧ unclosed u = [] :=
  ⟨s.rdropWhile (· ≠ ')'), List.rdropWhile_append_rtakeWhile.symm,
    List.rtakeWhile_eq_nil_iff.2 fun hne => List.rdropWhile_last_not (· ≠ ')') s hne⟩

theorem mem_of_suffix_closed {u w : List Char} (hu : unclosed u = []) (hw : w ≠ []) (h : w <:+ u) : ')' ∈ w := by
  obtain ⟨t, rfl⟩ := h
  have hlast := List.rtakeWhile_eq_nil_iff.1 hu (List.append_ne_nil_of_right_ne_nil t hw)
  rw [List.getLast_append_of_ne_nil _ hw] at hlast
  have heq : w.getLast hw = ')' := by simpa using hlast
  exact heq ▸ List.getLast_mem hw

/-! ## What the scan finds -/

/-- Behind a closing parenthesis the scan begins anew. -/
theorem scan_closed {u : List Char} (hu : unclosed u = []) (s : List Char) :
    scan routeRe 0 [] (u ++ s) = scan routeRe 0 [] u ++ (scan routeRe 0 [] s).map fun m => ⟨u ++ m.before, m.text⟩ := by
  rw [scan_append (fun v hv hsuffix => routeRe_append (mem_of_suffix_closed hu hv hsuffix) s) fun _ _ => routeRe_length,
    ← scan_shift, List.append_nil, List.nil_append]

theorem scan_of_notMem {s : List Char} (h : ')' ∉ s) : scan routeRe 0 [] s = [] :=
  scan_eq_nil (fun _ _ hsuffix => routeRe_of_notMem fun hm => h (hsuffix.subset hm)) []

/-- An opening does not begin within an opening. -/
theorem opening_drop (v : Verb) (k : Nat) (hlt : k < (opening v).length) (hpos : 0 < k) :
    ¬ ((opening v).drop k).take 2 <+: ['r', 'o'] := by
  revert k
  cases v <;> decide

theorem opening_take (v : Verb) (s : List Char) : (opening v ++ s).take 2 = ['r', 'o'] := by
  cases v <;> rfl

/-- Before the first opening nothing matches. -/
theorem scan_unopened {p : List Char} (hp : ¬ Opens p) (v : Verb) (s : List Char) :
    scan routeRe 0 [] (p ++ (opening v ++ s)) = (scan routeRe 0 [] (opening v ++ s)).map fun m => ⟨p ++ m.before, m.text⟩ := by
  rw [← scan_shift, List.append_nil, scan_skip_none, List.nil_append]
  intro w hw hsuffix
  apply routeRe_none
  intro v' hpre
  have hnot : ¬ opening v' <+: w := fun h => hp ⟨v', h.isInfix.trans hsuffix.isInfix⟩
  obtain ⟨d, hd⟩ := (List.prefix_or_prefix_of_prefix hpre (List.prefix_append w _)).resolve_left hnot
  have hdrop : (opening v').drop w.length = d := by rw [← hd, List.drop_left]
  rw [← hd, List.prefix_append_right_inj] at hpre
  have htake := hpre.take 2
  rw [opening_take, ← hdrop] at htake
  have hlt : w.length < (opening v').length := by
    rw [← hd, List.length_append, Nat.lt_add_right_iff_pos]
    refine List.length_pos_of_ne_nil ?_
    rintro rfl
    exact hnot ⟨[], by rw [← hd, List.append_nil, List.append_nil]⟩
  exact opening_drop v' w.length hlt (List.length_pos_of_ne_nil hw) htake

theorem scan_opening (v : Verb) {args : List Char} (h : ')' ∉ args) (s : List Char) :
    scan routeRe 0 [] (opening v ++ args ++ ')' :: s) = ⟨[], opening v ++ args ++ [')']⟩ ::
      (scan routeRe 0 [] s).map fun m => ⟨opening v ++ args ++ [')'] ++ m.before, m.text⟩ := by
  have hsome := routeRe_some v h s
  rw [List.append_cons] at hsome ⊢
  rw [scan_some (by simp) hsome, List.nil_append, ← scan_shift, List.append_nil]

/-- The first opening gives one match, up to the next closing parenthesis. -/
theorem scan_first {p : List Char} (hp : ¬ Opens p) (v : Verb) {args : List Char} (h : ')' ∉ args) :
    scan routeRe 0 [] (p ++ opening v ++ args ++ [')']) = [⟨p, opening v ++ args ++ [')']⟩] := by
  have hopening := scan_opening v h []
  rw [List.append_assoc] at hopening ⊢
  rw [List.append_assoc, scan_unopened hp, hopening, scan, List.map_nil, List.map_cons, List.map_nil, List.append_nil,
    List.append_assoc]

theorem scan_of_unopened {p : List Char} (hp : ¬ Opens p) : scan routeRe 0 [] (p ++ [')']) = [] := by
  refine scan_eq_nil (fun w _ hsuffix => routeRe_none fun v hpre => ?_) []
  rcases infix_append_cons (not_mem_opening v) (hpre.isInfix.trans hsuffix.isInfix) with h | h
  · exact hp ⟨v, h⟩
  · exact opening_ne_nil v (List.infix_nil.1 h)

theorem exists_first {p : List Char} (h : Opens p) : ∃ a v args, p = a ++ opening v ++ args ∧ ¬ Opens a := by
  induction p with
  | nil =>
    obtain ⟨v, hv⟩ := h
    exact absurd (List.infix_nil.1 hv) (opening_ne_nil v)
  | cons c p ih =>
    by_cases hpre : ∃ v, opening v <+: c :: p
    · obtain ⟨v, args, hargs⟩ := hpre
      refine ⟨[], v, args, hargs.symm, ?_⟩
      rintro ⟨w, hw⟩
      exact opening_ne_nil w (List.infix_nil.1 hw)
    · have htail : Opens p := by
        obtain ⟨v, hv⟩ := h
        exact ⟨v, (List.infix_cons_iff.1 hv).resolve_left fun hv => hpre ⟨v, hv⟩⟩
      obtain ⟨a, v, args, rfl, ha⟩ := ih htail
      refine ⟨c :: a, v, args, rfl, ?_⟩
      rintro ⟨w, hw⟩
      rcases List.infix_cons_iff.1 hw with hw | hw
      · exact hpre ⟨w, hw.trans ⟨opening v ++ args, by rw [List.cons_append, List.append_assoc]⟩⟩
      · exact ha ⟨w, hw⟩

theorem exists_of_mem_scan {m : Match Char} {s : List Char} (hm : m ∈ scan routeRe 0 [] s) :
    ∃ v args behind, s = m.before ++ opening v ++ args ++ ')' :: behind ∧ ')' ∉ args ∧ ¬ Opens (unclosed m.before) ∧
      m.text = opening v ++ args ++ [')'] := by
  induction hn : s.length using Nat.strongRecOn generalizing s m with
  | ind n ih =>
    by_cases hs : ')' ∈ s
    · obtain ⟨p, t, rfl, hp⟩ := List.eq_append_cons_of_mem hs
      have hclosed : unclosed (p ++ [')']) = [] := unclosed_concat p ')'
      rw [List.append_cons, scan_closed hclosed, List.mem_append] at hm
      rcases hm with hm | hm
      · by_cases hopen : Opens p
        · obtain ⟨a, v, args, rfl, ha⟩ := exists_first hopen
          have hargs : ')' ∉ args := fun h => hp (List.mem_append_right _ h)
          have hbefore : ')' ∉ a := fun h => hp (List.mem_append_left _ (List.mem_append_left _ h))
          rw [scan_first ha v hargs, List.mem_singleton] at hm
          subst hm
          exact ⟨v, args, t, rfl, hargs, by rwa [unclosed_of_notMem hbefore], rfl⟩
        · rw [scan_of_unopened hopen] at hm
          exact absurd hm List.not_mem_nil
      · -- Behind the first closing parenthesis.
        obtain ⟨m', hm', rfl⟩ := List.mem_map.1 hm
        obtain ⟨v, args, behind, rfl, hargs, hopens, htext⟩ := ih t.length (by simp [← hn]; omega) hm' rfl
        exact ⟨v, args, behind, by simp, hargs, by rwa [unclosed_append hclosed], htext⟩
    · rw [scan_of_notMem hs] at hm
      exact absurd hm List.not_mem_nil

theorem mem_scan_of_opening {before args : List Char} (hopens : ¬ Opens (unclosed before)) (v : Verb) (hargs : ')' ∉ args)
    (behind : List Char) :
    ⟨before, opening v ++ args ++ [')']⟩ ∈ scan routeRe 0 [] (before ++ opening v ++ args ++ ')' :: behind) := by
  obtain ⟨u, hu, hclosed⟩ := exists_unclosed before
  generalize unclosed before = p at hu hopens
  subst hu
  have hfirst : ⟨p, opening v ++ args ++ [')']⟩ ∈ scan routeRe 0 [] (p ++ opening v ++ args ++ [')'] ++ behind) := by
    rw [scan_closed (unclosed_concat _ ')'), scan_first hopens v hargs]
    exact List.mem_append_left _ (List.mem_singleton_self _)
  have hs : u ++ p ++ opening v ++ args ++ ')' :: behind = u ++ (p ++ opening v ++ args ++ [')'] ++ behind) := by
    simp only [List.append_assoc, List.singleton_append]
  rw [hs, scan_closed hclosed]
  exact List.mem_append_right _ (List.mem_map_of_mem hfirst)

/-- A match is from the first opening since the last closing parenthesis to the next one. -/
theorem mem_scan {m : Match Char} {s : List Char} : m ∈ scan routeRe 0 [] s ↔
    ∃ v args behind, s = m.before ++ opening v ++ args ++ ')' :: behind ∧ ')' ∉ args ∧ ¬ Opens (unclosed m.before) ∧
      m.text = opening v ++ args ++ [')'] := by
  constructor
  · exact exists_of_mem_scan
  · obtain ⟨before, text⟩ := m
    rintro ⟨v, args, behind, rfl, hargs, hopens, rfl⟩
    exact mem_scan_of_opening hopens v hargs behind

/-! ## The issues -/

theorem requiresAuth_match (v : Verb) (args : List Char) : requiresAuth (opening v ++ args ++ [')']) = requiresAuth args := by
  refine decide_eq_decide.2 ⟨fun h => ?_, fun h => ?_⟩
  · have hclose : ')' ∉ "requireAuth".toList := by decide
    have hopen : '(' ∉ "requireAuth".toList := by decide
    have hinside := (infix_append_cons hclose h).resolve_right fun hnil => by cases List.infix_nil.1 hnil
    obtain ⟨name, hname, hfree⟩ : ∃ name, opening v = name ++ ['('] ∧ ¬ "requireAuth".toList <:+: name := by
      cases v
      · exact ⟨"router.get".toList, by decide, by decide⟩
      · exact ⟨"router.post".toList, by decide, by decide⟩
      · exact ⟨"router.patch".toList, by decide, by decide⟩
      · exact ⟨"router.delete".toList, by decide, by decide⟩
    rw [hname, List.append_assoc, List.singleton_append] at hinside
    exact (infix_append_cons hopen hinside).resolve_left hfree
  · exact h.trans ((List.infix_append_right ..).trans (List.prefix_append _ [')']).isInfix)

theorem foundAt_append {u : List Char} (hu : unclosed u = []) (s : List Char) :
    foundAt (u ++ s) = foundAt u ++ (foundAt s).map (u.length + ·) := by
  simp only [foundAt, unguarded, scan_closed hu, List.filter_append, List.map_append, List.filter_map, List.map_map]
  congr 2
  funext m
  exact List.length_append

theorem foundAt_of_notMem {s : List Char} (h : ')' ∉ s) : foundAt s = [] := by
  rw [foundAt, unguarded, scan_of_notMem h]
  rfl

theorem foundAt_first {p : List Char} (hp : ¬ Opens p) (v : Verb) {args : List Char} (h : ')' ∉ args) :
    foundAt (p ++ opening v ++ args ++ [')']) = if requiresAuth args then [] else [p.length] := by
  rw [foundAt, unguarded, scan_first hp v h, List.filter_singleton, requiresAuth_match]
  cases requiresAuth args <;> rfl

theorem mem_foundAt {s : List Char} {i : Nat} (h : i ∈ foundAt s) : ∃ v before args behind,
    s = before ++ opening v ++ args ++ ')' :: behind ∧ ')' ∉ args ∧ ¬ Opens (unclosed before) ∧ before.length = i := by
  obtain ⟨m, hm, rfl⟩ := List.mem_map.1 h
  obtain ⟨v, args, behind, hs, hargs, hopens, -⟩ := mem_scan.1 (List.mem_filter.1 hm).1
  exact ⟨v, m.before, args, behind, hs, hargs, hopens, rfl⟩

theorem foundAt_lt {s : List Char} : ∀ i ∈ foundAt s, i < s.length := by
  intro i hi
  obtain ⟨v, before, args, behind, rfl, -, -, rfl⟩ := mem_foundAt hi
  simp only [List.length_append, List.length_cons]
  omega

/-- Where a route is open, no match begins before the next closing parenthesis. -/
theorem foundAt_opened {p s : List Char} (hp : Opens p) (hs : ')' ∉ p ++ s) : ∀ i ∈ foundAt (p ++ s ++ [')']), i < p.length := by
  intro i hi
  obtain ⟨v, before, args, behind, heq, hargs, hopens, rfl⟩ := mem_foundAt hi
  by_contra hlt
  have hbefore : ')' ∉ before := by
    have hcount := congrArg (List.count ')') heq
    simp only [List.count_append, List.count_cons_self, List.count_eq_zero.2 hs, List.count_nil] at hcount
    rw [← List.count_eq_zero]
    omega
  have hcut : p ++ s = before ++ opening v ++ args := by
    have hopened : ')' ∉ before ++ opening v ++ args := by
      simp only [List.mem_append, not_or]
      exact ⟨⟨hbefore, not_mem_opening v⟩, hargs⟩
    have htake := congrArg (List.takeWhile (· ≠ ')')) heq
    rwa [takeWhile_cut hs, takeWhile_cut hopened] at htake
  rw [unclosed_of_notMem hbefore] at hopens
  have hpre : p <+: before := by
    refine List.prefix_of_prefix_length_le (List.prefix_append p s) ?_ (Nat.le_of_not_lt hlt)
    rw [hcut, List.append_assoc]
    exact List.prefix_append ..
  obtain ⟨w, hw⟩ := hp
  exact hopens ⟨w, hw.trans hpre.isInfix⟩

theorem quiet_iff {s : List Char} : Quiet s ↔ foundAt s = [] := by
  rw [foundAt, List.map_eq_nil_iff, unguarded, List.filter_eq_nil_iff]
  constructor
  · intro h m hm
    obtain ⟨v, args, behind, hs, hargs, hopens, htext⟩ := mem_scan.1 hm
    rw [htext, requiresAuth_match, h v m.before args behind hs hargs hopens]
    decide
  · intro h v before args behind hs hargs hopens
    have hm := h ⟨before, opening v ++ args ++ [')']⟩ (mem_scan.2 ⟨v, args, behind, hs, hargs, hopens, rfl⟩)
    rw [requiresAuth_match] at hm
    simpa using hm

/-! ## One registration -/

theorem Registration.not_mem_seen (r : Registration) : ')' ∉ r.seen :=
  fun h => absurd (List.mem_takeWhile_imp h) (by decide)

theorem Registration.text_eq (r : Registration) : r.text = opening r.verb ++ r.seen ++ [')'] ++ r.rest := by
  by_cases h : ')' ∈ r.inner
  · obtain ⟨p, t, hp, hfree⟩ := List.eq_append_cons_of_mem h
    have hseen : r.seen = p := by rw [seen, hp, takeWhile_cut hfree]
    have hrest : r.rest = t ++ [')'] := by
      rw [rest, hseen, hp, List.append_cons p, List.append_assoc (p ++ [')'])]
      exact List.drop_left' List.length_append
    rw [text, hp, hseen, hrest]
    simp only [List.append_assoc, List.cons_append, List.nil_append]
  · have hseen : r.seen = r.inner := takeWhile_of_notMem h
    have hrest : r.rest = [] := by
      rw [rest, hseen]
      exact List.drop_of_length_le List.length_append.le
    rw [text, hseen, hrest, List.append_nil]

/-- Parts of a list that has one element at the most, where only the middle one can have it. -/
theorem append_append_eq_iff {k : Nat} {a m c l : List Nat} (ha : k ∉ a) (hc : k ∉ c) (hl : ∀ i ∈ l, i = k) :
    a ++ m ++ c = l ↔ a = [] ∧ m = l ∧ c = [] := by
  constructor
  · rintro rfl
    have hnil : a = [] := List.eq_nil_iff_forall_not_mem.2 fun i hi =>
      ha (hl i (List.mem_append_left _ (List.mem_append_left _ hi)) ▸ hi)
    have hnil' : c = [] := List.eq_nil_iff_forall_not_mem.2 fun i hi => hc (hl i (List.mem_append_right _ hi) ▸ hi)
    rw [hnil, hnil']
    exact ⟨rfl, by rw [List.nil_append, List.append_nil], rfl⟩
  · rintro ⟨rfl, rfl, rfl⟩
    rw [List.nil_append, List.append_nil]

/-- What is found from a registration's opening to its first closing parenthesis, or from an opening before it. -/
theorem foundAt_body {p : List Char} (hp : ')' ∉ p) (r : Registration) :
    foundAt (p ++ opening r.verb ++ r.seen ++ [')']) = (if r.guarded then [] else [p.length]) ↔
      (Opens p → r.guarded = true ∧ foundAt (p ++ opening r.verb ++ r.seen ++ [')']) = []) ∧
        (¬ Opens p → requiresAuth r.seen = r.guarded) := by
  by_cases hopens : Opens p
  · have hfree : ')' ∉ p ++ (opening r.verb ++ r.seen) := by
      simp only [List.mem_append, not_or]
      exact ⟨hp, not_mem_opening r.verb, r.not_mem_seen⟩
    have hlt := foundAt_opened hopens hfree
    rw [← List.append_assoc] at hlt
    simp only [hopens, true_imp_iff, not_true, false_imp_iff, and_true]
    cases r.guarded with
    | true => simp
    | false =>
      refine iff_of_false (fun h => ?_) (fun h => Bool.false_ne_true h.1)
      rw [h] at hlt
      exact Nat.lt_irrefl _ (hlt p.length (List.mem_singleton_self _))
  · rw [foundAt_first hopens r.verb r.not_mem_seen]
    simp only [hopens, false_imp_iff, true_and, not_false_eq_true, true_imp_iff]
    cases requiresAuth r.seen <;> cases r.guarded <;> simp

/-- One registration is found exactly, with the text before it. -/
theorem foundAt_registration (sep : List Char) (r : Registration) :
    foundAt (sep ++ r.text) = (if r.guarded then [] else [sep.length]) ↔ Legible sep r := by
  obtain ⟨u, hu, hclosed⟩ := exists_unclosed sep
  have hfree := not_mem_unclosed sep
  have hlegible : Legible sep r ↔ Quiet sep ∧ ((Opens (unclosed sep) → r.guarded = true ∧
      Quiet (unclosed sep ++ opening r.verb ++ r.seen ++ [')'])) ∧ (¬ Opens (unclosed sep) → requiresAuth r.seen = r.guarded)) ∧
      Quiet r.rest :=
    ⟨fun h => ⟨h.before, ⟨h.opened, h.alone⟩, h.rest⟩, fun h => ⟨h.1, h.2.2, h.2.1.1, h.2.1.2⟩⟩
  rw [hlegible]
  generalize unclosed sep = p at hu hfree
  subst hu
  have hbody : unclosed (p ++ opening r.verb ++ r.seen ++ [')']) = [] := unclosed_concat _ ')'
  have htext : u ++ p ++ r.text = u ++ (p ++ opening r.verb ++ r.seen ++ [')'] ++ r.rest) := by
    rw [r.text_eq]
    simp only [List.append_assoc]
  have hlen : (u ++ p).length = u.length + p.length := List.length_append
  rw [htext, foundAt_append hclosed, foundAt_append hbody, List.map_append, ← List.append_assoc, quiet_iff, quiet_iff, quiet_iff,
    foundAt_append hclosed, foundAt_of_notMem hfree, List.map_nil, List.append_nil, hlen]
  have hbefore : u.length + p.length ∉ foundAt u := fun h => by
    have := foundAt_lt _ h
    omega
  have hbehind : u.length + p.length ∉
      ((foundAt r.rest).map ((p ++ opening r.verb ++ r.seen ++ [')']).length + ·)).map (u.length + ·) := fun h => by
    simp only [List.mem_map, List.length_append, List.length_singleton] at h
    obtain ⟨_, ⟨_, -, rfl⟩, h⟩ := h
    omega
  have hshift : (if r.guarded then [] else [p.length]).map (u.length + ·) =
      if r.guarded then [] else [u.length + p.length] := by
    cases r.guarded <;> rfl
  have hone : ∀ i ∈ if r.guarded then [] else [u.length + p.length], i = u.length + p.length := by
    cases r.guarded <;> simp
  rw [append_append_eq_iff hbefore hbehind hone, List.map_eq_nil_iff, List.map_eq_nil_iff]
  rw [← foundAt_body hfree r, ← hshift, List.map_inj_right fun _ _ => Nat.add_left_cancel]

/-! ## A source -/

theorem missing_shift (n k : Nat) (routes : List (List Char × Registration)) :
    missing (n + k) routes = (missing k routes).map (n + ·) := by
  induction routes generalizing k with
  | nil => rfl
  | cons p routes ih =>
    rw [missing, missing, List.map_append, ← ih, ← Nat.add_assoc n]
    cases p.2.guarded with
    | true => rfl
    | false => exact congrArg (fun i => [i] ++ _) (Nat.add_assoc ..)

/-- Where a list is cut at a bound, its parts are told apart. -/
theorem append_map_add_inj {n : Nat} {a a' b b' : List Nat} (ha : ∀ i ∈ a, i < n) (ha' : ∀ i ∈ a', i < n) :
    a ++ b.map (n + ·) = a' ++ b'.map (n + ·) ↔ a = a' ∧ b = b' := by
  constructor
  · intro h
    have hcut : ∀ {a b : List Nat}, (∀ i ∈ a, i < n) → (a ++ b.map (n + ·)).filter (· < n) = a := by
      intro a b ha
      have hself : a.filter (· < n) = a := List.filter_eq_self.2 fun i hi => decide_eq_true (ha i hi)
      have hnil : (b.map (n + ·)).filter (· < n) = [] := by
        rw [List.filter_eq_nil_iff]
        intro i hi
        obtain ⟨j, -, rfl⟩ := List.mem_map.1 hi
        simp
      rw [List.filter_append, hself, hnil, List.append_nil]
    have hfirst : a = a' := (hcut ha).symm.trans ((congrArg (List.filter (· < n)) h).trans (hcut ha'))
    subst hfirst
    exact ⟨rfl, (List.map_inj_right fun _ _ => Nat.add_left_cancel).1 (List.append_cancel_left h)⟩
  · rintro ⟨rfl, rfl⟩
    rfl

theorem foundAt_routes (routes : List (List Char × Registration)) (last : List Char) :
    foundAt (routesText routes ++ last) = missing 0 routes ↔ (∀ p ∈ routes, Legible p.1 p.2) ∧ Quiet last := by
  induction routes with
  | nil =>
    rw [routesText, List.flatMap_nil, List.nil_append, missing, quiet_iff]
    exact (and_iff_right fun p hp => absurd hp List.not_mem_nil).symm
  | cons p routes ih =>
    obtain ⟨sep, r⟩ := p
    have hclosed : unclosed (sep ++ r.text) = [] := by
      rw [Registration.text, ← List.append_assoc]
      exact unclosed_concat _ ')'
    have htext : routesText ((sep, r) :: routes) ++ last = sep ++ r.text ++ (routesText routes ++ last) :=
      List.append_assoc ..
    have hmissing : missing 0 ((sep, r) :: routes) =
        (if r.guarded then [] else [sep.length]) ++ (missing 0 routes).map ((sep ++ r.text).length + ·) := by
      rw [← missing_shift, missing, Nat.zero_add, Nat.zero_add, Nat.add_zero]
    have hlt : ∀ i ∈ if r.guarded then [] else [sep.length], i < (sep ++ r.text).length := by
      have hpos : 0 < r.text.length := by
        rw [Registration.text, List.length_append]
        exact Nat.succ_pos _
      rw [List.length_append]
      cases r.guarded <;> simp [hpos]
    rw [htext, hmissing, foundAt_append hclosed, append_map_add_inj foundAt_lt hlt, foundAt_registration, ih, List.forall_mem_cons,
      and_assoc]

/-- The line of an issue is that of the place where it is found. -/
theorem routeIssues_line (file : String) (content : List Char) :
    (routeIssues file content).map (·.line) = (foundAt content).map fun i => lineCount (content.take i) := by
  rw [routeIssues, foundAt, List.map_map, List.map_map]
  refine List.map_congr_left fun m hm => ?_
  obtain ⟨v, args, behind, hs, -⟩ := mem_scan.1 (List.mem_filter.1 hm).1
  have htake : content.take m.before.length = m.before := by
    rw [hs, List.append_assoc, List.append_assoc, List.take_left]
  exact congrArg lineCount htake.symm

/-- The audit raises one issue, of the right line, for each registration without `requireAuth` and no other, just
when each registration is legible and the text behind the last gives no issue. -/
theorem audit_exact_iff (file : String) (src : Source) :
    Exact file src ↔ (∀ p ∈ src.routes, Legible p.1 p.2) ∧ Quiet src.last := by
  rw [← foundAt_routes]
  constructor
  · intro h
    exact h.found
  · intro h
    exact ⟨h, by rw [routeIssues_line]; exact congrArg _ h⟩

/-- `router.post('/x', requireRole('DO'), requireAuth, create)`. -/
def roleFirst : Source where
  routes := [([], ⟨.post, ["'/x'", " requireRole('DO')", " requireAuth", " create"], by decide, by decide⟩)]
  last := []
  before_plain := by
    intro p hp r hr
    obtain rfl := List.mem_singleton.1 hp
    exact absurd (List.infix_nil.1 hr) (by simp [Registration.text])
  last_plain := fun r hr => absurd (List.infix_nil.1 hr) (by simp [Registration.text])

/-- The parenthesis of another argument before `requireAuth` hides it. -/
theorem guarded_flagged : ¬ Exact "index.ts" roleFirst := by
  intro h
  have hfound : foundAt roleFirst.text = [0] := by decide
  have hmissing : missing 0 roleFirst.routes = [] := by decide
  rw [h.found, hmissing] at hfound
  exact List.cons_ne_nil _ _ hfound.symm

end Tactix.ZtAudit
