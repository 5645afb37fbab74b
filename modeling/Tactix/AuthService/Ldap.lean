import Mathlib.Data.List.Induction
import Mathlib.Data.List.Nodup
import Mathlib.Data.List.Perm.Subperm
import Tactix.AuthService.Tokens
/-!
# Signing in

`ldapAuthenticate`, the directory behind it, and `POST /login` on top. The variables
of the search are written by every entry found: `authenticate_sound_iff` says when
the DN that is bound, the name and the groups are those of the user. What a filter
text finds is up to `ldapjs` and the server.
-/
open Tactix.Js Tactix.Authz ServiceLib

namespace Tactix.AuthService

/-! ## The search filter -/

/-- What `replace` makes of the `$` sequences in a replacement, with the text before
and behind the match. -/
def expand (before after : List Char) : List Char → List Char
  | '$' :: '$' :: cs => '$' :: expand before after cs
  | '$' :: '&' :: cs => "\x7bupn\x7d".toList ++ expand before after cs
  | '$' :: '\x60' :: cs => before ++ expand before after cs
  | '$' :: '\x27' :: cs => after ++ expand before after cs
  | c :: cs => c :: expand before after cs
  | [] => []

/-- `replace(/\{upn\}/g, upn)`: `before` is what has been passed, and `skip` characters
of a match are left. -/
def replaceUpn (upn : List Char) : (skip : Nat) → (before s : List Char) → List Char
  | _, _, [] => []
  | skip + 1, before, c :: cs => replaceUpn upn skip (before ++ [c]) cs
  | 0, before, c :: cs =>
    if "\x7bupn\x7d".toList.isPrefixOf (c :: cs) then
      expand before (cs.drop 4) upn ++ replaceUpn upn 4 (before ++ [c]) cs
    else c :: replaceUpn upn 0 (before ++ [c]) cs

structure LdapEnv where
  LDAP_BIND_DN : Option String
  LDAP_BIND_PW : Option String
  LDAP_USER_FILTER : Option String

def LdapEnv.userFilter (env : LdapEnv) : String := (orString env.LDAP_USER_FILTER none).getD "(uid=\x7bupn\x7d)"

/-- The filter of the search. -/
def LdapEnv.filter (env : LdapEnv) (upn : String) : String :=
  String.ofList (replaceUpn upn.toList 0 [] env.userFilter.toList)

/-! ## `ldapAuthenticate` -/

structure Attribute where
  type : String
  vals : List String

/-- An entry as `searchEntry` gets it. -/
structure SearchEntry where
  objectName : Option String
  dn : String
  attributes : List Attribute

def SearchEntry.attribute (entry : SearchEntry) (type : String) : Option (List String) :=
  (entry.attributes.find? (·.type = type)).map (·.vals)

/-- `entry.object`, which `ldapjs` builds of the attributes. -/
def SearchEntry.object (entry : SearchEntry) (type : String) : Option (List String) := entry.attribute type

/-- The variables of the search. -/
structure Found where
  userDn : Option String
  groups : List String
  name : String

/-- The handler of `searchEntry`. -/
def searchEntry (upn : String) (found : Found) (entry : SearchEntry) : Found where
  userDn := orString entry.objectName (some entry.dn)
  name := (orString ((entry.attribute "cn").bind (·.head?)) none).getD upn
  groups := match entry.attribute "memberOf" with
    | some vals => vals
    | none => (entry.object "memberOf").getD found.groups

/-- What `ldapAuthenticate` resolves to, with the DN it has bound. -/
structure Authenticated where
  userDn : String
  ad_groups : List String
  name : String

/-- What `client.search` comes to: it throws on a text that is no filter. -/
inductive Searched where
  | threw
  | failed
  | entries (list : List SearchEntry)

inductive Outcome where
  | resolved (user : Authenticated)
  | rejected
  /-- An exception in the callback of `bind`, which nothing catches: the process ends. -/
  | crashed

/-- `bind` is whether the server accepts a name and a password, and `search` is what
it does with a filter. -/
def ldapAuthenticate (env : LdapEnv) (bind : Option String → Option String → Bool) (search : String → Searched)
    (upn password : String) : Outcome :=
  if !bind env.LDAP_BIND_DN env.LDAP_BIND_PW then .rejected
  else match search (env.filter upn) with
    | .threw => .crashed
    | .failed => .rejected
    | .entries list =>
      let found := list.foldl (searchEntry upn) ⟨none, [], upn⟩
      match orString found.userDn none with
      | none => .rejected
      | some userDn =>
        if bind (some userDn) (some password) then .resolved ⟨userDn, found.groups, found.name⟩ else .rejected

/-! ## The directory -/

/-- An entry of the directory. An attribute without values is missing. -/
structure Entry where
  dn : String
  values : String → List String

def Entry.uid (e : Entry) : List String := e.values "uid"

def Entry.cn (e : Entry) : List String := e.values "cn"

def Entry.memberOf (e : Entry) : List String := e.values "memberOf"

structure Directory where
  entries : List Entry
  distinct : (entries.map (·.dn)).Nodup

/-- What is sent of an entry for the attributes the search asks for. -/
def Entry.reply (e : Entry) : SearchEntry :=
  ⟨some e.dn, e.dn, [⟨"memberOf", e.memberOf⟩, ⟨"cn", e.cn⟩].filter fun a => a.vals ≠ []⟩

/-- The entries a filter text stands for, `none` when `ldapjs` cannot read it. -/
abbrev Matching := String → Option (Entry → Bool)

def Entry.satisfies (e : Entry) (matching : Matching) (filter : String) : Bool := (matching filter).any (· e)

/-- The entries that satisfy the filter, in some order. -/
def Directory.Answers (dir : Directory) (matching : Matching) (filter : String) (searched : Searched) : Prop :=
  match matching filter with
  | none => searched = .threw
  | some p => ∃ order : List Entry, order.Perm (dir.entries.filter p) ∧ searched = .entries (order.map (·.reply))

/-- The name an entry has for its user. -/
def Entry.displayName (e : Entry) (upn : String) : String := (orString e.cn.head? none).getD upn

/-- The entry stands behind a sign-in, and behind the tokens `POST /login` issues on it. -/
structure Entry.Signs (e : Entry) (upn password : String) (user : Authenticated) : Prop where
  dn : e.dn = user.userDn
  uid : upn ∈ e.uid
  name : user.name = e.displayName upn
  groups : user.ad_groups = e.memberOf
  tokens : ∀ jwt env now reply,
    login jwt env now (some upn) (some password) (some (user.ad_groups, user.name)) = .ok reply →
      ∀ i ∈ [reply.access, reply.refresh], i.claims.sub = some upn ∧ i.claims.name = some (e.displayName upn) ∧
        i.claims.ad_groups = some e.memberOf

/-- Whoever signs in is the user of an entry with that uid, whatever the order of the search. -/
def Sound (env : LdapEnv) (bind : Option String → Option String → Bool) (matching : Matching) (dir : Directory)
    (upn password : String) : Prop :=
  ∀ searched, dir.Answers matching (env.filter upn) searched → ∀ user,
    ldapAuthenticate env bind (fun _ => searched) upn password = .resolved user →
      ∃ e ∈ dir.entries, e.Signs upn password user

/-- The service may search, and the password opens the entry. -/
def Opens (env : LdapEnv) (bind : Option String → Option String → Bool) (e : Entry) (password : String) : Prop :=
  bind env.LDAP_BIND_DN env.LDAP_BIND_PW = true ∧ e.dn ≠ "" ∧ bind (some e.dn) (some password) = true

/-! ## The variables of the search -/

section
variable {env : LdapEnv} {bind : Option String → Option String → Bool} {matching : Matching} {dir : Directory}
  {upn password : String}

/-- The variables after a list of entries. -/
def collected (upn : String) (order : List Entry) : Found :=
  (order.map (·.reply)).foldl (searchEntry upn) ⟨none, [], upn⟩

theorem reply_memberOf (e : Entry) : e.reply.attribute "memberOf" = if e.memberOf = [] then none else some e.memberOf := by
  unfold SearchEntry.attribute Entry.reply
  by_cases h : e.memberOf = [] <;> by_cases hcn : e.cn = [] <;> simp [h, hcn]

theorem reply_cn (e : Entry) : (e.reply.attribute "cn").bind (·.head?) = e.cn.head? := by
  unfold SearchEntry.attribute Entry.reply
  by_cases h : e.memberOf = [] <;> by_cases hcn : e.cn = [] <;> simp [h, hcn]

/-- The last entry sets the DN and the name; it leaves the groups alone when it has none. -/
theorem collected_snoc (upn : String) (order : List Entry) (e : Entry) : collected upn (order ++ [e]) =
    ⟨some e.dn, if e.memberOf = [] then (collected upn order).groups else e.memberOf, e.displayName upn⟩ := by
  have hgroups : (searchEntry upn (collected upn order) e.reply).groups =
      if e.memberOf = [] then (collected upn order).groups else e.memberOf := by
    unfold searchEntry SearchEntry.object
    rw [reply_memberOf]
    by_cases h : e.memberOf = []
    · simp [h]
    · simp [h]
  have hname : (searchEntry upn (collected upn order) e.reply).name = e.displayName upn := by
    unfold searchEntry
    rw [reply_cn, Entry.displayName]
  have hdn : (searchEntry upn (collected upn order) e.reply).userDn = some e.dn := by
    unfold searchEntry Entry.reply orString
    split <;> simp_all
  have hsnoc : collected upn (order ++ [e]) = searchEntry upn (collected upn order) e.reply := by
    unfold collected
    rw [List.map_append, List.foldl_append]
    rfl
  rw [hsnoc, ← hgroups, ← hname, ← hdn]

theorem collected_groups {order : List Entry} (h : ∀ e ∈ order, e.memberOf = []) : (collected upn order).groups = [] := by
  induction order using List.reverseRecOn with
  | nil => rfl
  | append_singleton order e ih =>
    rw [collected_snoc]
    simp only [h e (by simp), if_true]
    exact ih fun e he => h e (by simp [he])

/-- A sign-in after a search that ended with this entry. -/
theorem authenticate_snoc {order : List Entry} {e : Entry} {user : Authenticated} :
    ldapAuthenticate env bind (fun _ => .entries ((order ++ [e]).map (·.reply))) upn password = .resolved user ↔
      Opens env bind e password ∧
        user = ⟨e.dn, if e.memberOf = [] then (collected upn order).groups else e.memberOf, e.displayName upn⟩ := by
  have hcollected := collected_snoc upn order e
  unfold collected at hcollected
  unfold ldapAuthenticate Opens
  simp only [hcollected]
  by_cases hdn : e.dn = ""
  · simp [hdn, orString]
  · rw [orString_ne hdn]
    by_cases hservice : bind env.LDAP_BIND_DN env.LDAP_BIND_PW = true
    · by_cases hbind : bind (some e.dn) (some password) = true
      · simp only [hservice, hbind, Bool.not_true, Bool.false_eq_true, if_false, if_true]
        constructor
        · intro h
          cases h
          exact ⟨⟨trivial, hdn, trivial⟩, rfl⟩
        · rintro ⟨-, rfl⟩
          rfl
      · simp [hservice, hbind]
    · simp [hservice]

/-- Nobody signs in when nothing is found. -/
theorem authenticate_nil : ldapAuthenticate env bind (fun _ => .entries []) upn password = .rejected := by
  unfold ldapAuthenticate
  split
  · rfl
  · rfl

/-- The tokens of a login carry the name and the groups it got. -/
theorem claims_of_login {jwt : Jwt} {authEnv : Env} {now : Nat} {groups : List String} {name : String} {reply : LoginReply}
    (h : login jwt authEnv now (some upn) (some password) (some (groups, name)) = .ok reply) :
    ∀ i ∈ [reply.access, reply.refresh], i.claims.sub = some upn ∧ i.claims.name = some name ∧ i.claims.ad_groups = some groups := by
  unfold login at h
  split at h
  · rename_i u p hu hp
    dsimp only at h
    split at h
    · rename_i access refresh ha hr
      cases h
      have hupn : upn = u := Option.some.inj (orString_eq_some.1 hu).1
      obtain ⟨_, -, rfl⟩ := Option.map_eq_some_iff.1 ha
      obtain ⟨_, -, rfl⟩ := Option.map_eq_some_iff.1 hr
      simp [hupn]
    · cases h
  · cases h

theorem signs_of_eq {e : Entry} (huid : upn ∈ e.uid) {groups : List String} (hgroups : groups = e.memberOf) :
    e.Signs upn password ⟨e.dn, groups, e.displayName upn⟩ := by
  subst hgroups
  exact ⟨rfl, huid, rfl, rfl, fun _ _ _ _ h => claims_of_login h⟩

theorem satisfies_of_some {p : Entry → Bool} {filter : String} (h : matching filter = some p) (e : Entry) :
    e.satisfies matching filter = p e := by
  simp [Entry.satisfies, h]

/-- The search may end with any entries it finds. -/
theorem answers_last {filter : String} {last : List Entry} (hnodup : last.Nodup) (hne : last ≠ [])
    (h : ∀ e ∈ last, e ∈ dir.entries ∧ e.satisfies matching filter = true) :
    ∃ order, dir.Answers matching filter (.entries ((order ++ last).map (·.reply))) := by
  unfold Directory.Answers
  cases hp : matching filter with
  | none =>
    obtain ⟨e, he⟩ := List.exists_mem_of_ne_nil last hne
    simpa [Entry.satisfies, hp] using (h e he).2
  | some p =>
    have hfilter : ∀ e ∈ last, e ∈ dir.entries.filter p := fun e he =>
      List.mem_filter.2 ⟨(h e he).1, (satisfies_of_some hp e).symm.trans (h e he).2⟩
    obtain ⟨last', hperm, hsub⟩ := List.Nodup.subperm hnodup hfilter
    obtain ⟨order, horder⟩ := hsub.exists_perm_append
    refine ⟨order, _, ?_, rfl⟩
    calc order ++ last
      List.Perm _ (last ++ order) := List.perm_append_comm
      List.Perm _ (last' ++ order) := hperm.symm.append_right order
      List.Perm _ (dir.entries.filter p) := horder.symm

/-- A sound sign-in with an entry last in the search is the entry's. -/
theorem Sound.entry (h : Sound env bind matching dir upn password) {order : List Entry} {e : Entry} (he : e ∈ dir.entries)
    (hopen : Opens env bind e password)
    (hfound : dir.Answers matching (env.filter upn) (.entries ((order ++ [e]).map (·.reply)))) :
    upn ∈ e.uid ∧ (e.memberOf = [] → (collected upn order).groups = []) := by
  obtain ⟨e₀, he₀, hsigns⟩ := h _ hfound _ (authenticate_snoc.2 ⟨hopen, rfl⟩)
  obtain rfl : e₀ = e := List.inj_on_of_nodup_map dir.distinct he₀ he hsigns.dn
  refine ⟨hsigns.uid, fun hempty => ?_⟩
  have hgroups := hsigns.groups
  simpa [hempty] using hgroups

/-- An entry that the filter finds and the password opens has the uid, and has groups
unless none of those found has any. -/
def Directory.Unmixed (dir : Directory) (env : LdapEnv) (bind : Option String → Option String → Bool) (matching : Matching)
    (upn password : String) : Prop :=
  ∀ e ∈ dir.entries, e.satisfies matching (env.filter upn) = true → Opens env bind e password →
    upn ∈ e.uid ∧
      (e.memberOf = [] → ∀ e' ∈ dir.entries, e'.satisfies matching (env.filter upn) = true → e'.memberOf = [])

theorem Sound.unmixed (h : Sound env bind matching dir upn password) : dir.Unmixed env bind matching upn password := by
  intro e he hs hopen
  obtain ⟨order, hlast⟩ := answers_last (List.nodup_singleton e) (by simp) (List.forall_mem_singleton.2 ⟨he, hs⟩)
  refine ⟨(h.entry he hopen hlast).1, fun hempty e' he' hs' => ?_⟩
  by_contra hsome
  have hne : e' ≠ e := by
    rintro rfl
    exact hsome hempty
  have htwice : [e', e].Nodup := by simp [hne]
  obtain ⟨order, htwo⟩ := answers_last htwice (by simp)
    (List.forall_mem_cons.2 ⟨⟨he', hs'⟩, List.forall_mem_singleton.2 ⟨he, hs⟩⟩)
  rw [List.append_cons] at htwo
  have hgroups := (h.entry he hopen htwo).2 hempty
  rw [collected_snoc] at hgroups
  simp only [hsome, if_false] at hgroups

/-- Nobody signs in after a search that threw. -/
theorem authenticate_threw {user : Authenticated} :
    ldapAuthenticate env bind (fun _ => .threw) upn password ≠ .resolved user := by
  unfold ldapAuthenticate
  split <;> simp

theorem Directory.Unmixed.sound (h : dir.Unmixed env bind matching upn password) :
    Sound env bind matching dir upn password := by
  intro searched hans user huser
  unfold Directory.Answers at hans
  cases hp : matching (env.filter upn) with
  | none =>
    rw [hp] at hans
    subst hans
    exact absurd huser authenticate_threw
  | some p =>
    rw [hp] at hans
    obtain ⟨order, hperm, rfl⟩ := hans
    rcases List.eq_nil_or_concat order with rfl | ⟨order, e, rfl⟩
    · cases authenticate_nil.symm.trans huser
    · rw [List.concat_eq_append] at hperm huser
      obtain ⟨hopen, rfl⟩ := authenticate_snoc.1 huser
      have hfound : ∀ x ∈ order ++ [e], x ∈ dir.entries ∧ x.satisfies matching (env.filter upn) = true := fun x hx => by
        obtain ⟨hx, hpx⟩ := List.mem_filter.1 (hperm.mem_iff.1 hx)
        exact ⟨hx, (satisfies_of_some hp x).trans hpx⟩
      obtain ⟨he, hs⟩ := hfound e (by simp)
      obtain ⟨huid, hnone⟩ := h e he hs hopen
      refine ⟨e, he, signs_of_eq huid ?_⟩
      split
      · rename_i hempty
        rw [hempty, collected_groups]
        intro x hx
        obtain ⟨hx, hxs⟩ := hfound x (by simp [hx])
        exact hnone hempty x hx hxs
      · rfl

/-- Every sign-in is sound exactly when the entries found cannot be mixed up. -/
theorem authenticate_sound_iff : Sound env bind matching dir upn password ↔
    ∀ e ∈ dir.entries, e.satisfies matching (env.filter upn) = true → Opens env bind e password →
      upn ∈ e.uid ∧
        (e.memberOf = [] → ∀ e' ∈ dir.entries, e'.satisfies matching (env.filter upn) = true → e'.memberOf = []) :=
  ⟨Sound.unmixed, Directory.Unmixed.sound⟩

end

/-! ## The filters in use -/

theorem expand_plain {before after upn : List Char} (h : '$' ∉ upn) : expand before after upn = upn := by
  induction upn with
  | nil => rfl
  | cons c cs ih =>
    rw [List.mem_cons, not_or] at h
    rw [expand, ih h.2]
    all_goals exact fun _ hc _ => h.1 hc.symm

/-- The filter when none is set. -/
theorem filter_default {env : LdapEnv} (henv : env.LDAP_USER_FILTER = none) {upn : String} (h : '$' ∉ upn.toList) :
    env.filter upn = "(uid=" ++ upn ++ ")" := by
  have hreplace : replaceUpn upn.toList 0 [] "(uid=\x7bupn\x7d)".toList =
      "(uid=".toList ++ (expand "(uid=".toList ")".toList upn.toList ++ ")".toList) := rfl
  apply String.toList_inj.1
  rw [LdapEnv.filter, LdapEnv.userFilter, henv, String.toList_ofList]
  change replaceUpn upn.toList 0 [] "(uid=\x7bupn\x7d)".toList = _
  rw [hreplace, expand_plain h, String.toList_append, String.toList_append, List.append_assoc]

/-- The filter `.env.example` sets. -/
theorem filter_example {env : LdapEnv} (henv : env.LDAP_USER_FILTER = some "(|(uid=\x7bupn\x7d)(mail=\x7bupn\x7d))")
    {upn : String} (h : '$' ∉ upn.toList) : env.filter upn = "(|(uid=" ++ upn ++ ")(mail=" ++ upn ++ "))" := by
  have hreplace : replaceUpn upn.toList 0 [] "(|(uid=\x7bupn\x7d)(mail=\x7bupn\x7d))".toList =
      "(|(uid=".toList ++ (expand "(|(uid=".toList ")(mail=\x7bupn\x7d))".toList upn.toList ++
        (")(mail=".toList ++ (expand "(|(uid=\x7bupn\x7d)(mail=".toList "))".toList upn.toList ++ "))".toList))) := rfl
  apply String.toList_inj.1
  rw [LdapEnv.filter, LdapEnv.userFilter, henv, String.toList_ofList]
  change replaceUpn upn.toList 0 [] "(|(uid=\x7bupn\x7d)(mail=\x7bupn\x7d))".toList = _
  rw [hreplace, expand_plain h, expand_plain h]
  simp only [String.toList_append, List.append_assoc]

section
variable {env : LdapEnv} {bind : Option String → Option String → Bool} {matching : Matching} {dir : Directory}
  {upn : String}

/-- A filter that finds no entry but one with the name as its uid. -/
theorem sound_of_named (hfound : ∀ e ∈ dir.entries, e.satisfies matching (env.filter upn) = true → upn ∈ e.uid)
    (hone : ∀ e ∈ dir.entries, ∀ e' ∈ dir.entries, upn ∈ e.uid → upn ∈ e'.uid → e' = e) (password : String) :
    Sound env bind matching dir upn password := by
  refine Directory.Unmixed.sound fun e he hs _ => ⟨hfound e he hs, fun hempty e' he' hs' => ?_⟩
  rwa [hone e he e' he' (hfound e he hs) (hfound e' he' hs')]

/-- With the default filter, where the server takes a name as it stands: whoever has the
name as the only one signs in as that entry. -/
theorem sound_of_default (henv : env.LDAP_USER_FILTER = none) (h : '$' ∉ upn.toList)
    (hitem : ∀ e ∈ dir.entries, e.satisfies matching ("(uid=" ++ upn ++ ")") = true ↔ upn ∈ e.uid)
    (hone : ∀ e ∈ dir.entries, ∀ e' ∈ dir.entries, upn ∈ e.uid → upn ∈ e'.uid → e' = e) (password : String) :
    Sound env bind matching dir upn password := by
  refine sound_of_named (fun e he hs => (hitem e he).1 ?_) hone password
  rwa [filter_default henv h] at hs

/-- With the filter of `.env.example` also no other entry may have the name as its mail. -/
theorem sound_of_example (henv : env.LDAP_USER_FILTER = some "(|(uid=\x7bupn\x7d)(mail=\x7bupn\x7d))") (h : '$' ∉ upn.toList)
    (hitem : ∀ e ∈ dir.entries, e.satisfies matching ("(|(uid=" ++ upn ++ ")(mail=" ++ upn ++ "))") = true ↔
      upn ∈ e.uid ∨ upn ∈ e.values "mail")
    (hone : ∀ e ∈ dir.entries, ∀ e' ∈ dir.entries, upn ∈ e.uid → upn ∈ e'.uid → e' = e)
    (hmail : ∀ e ∈ dir.entries, upn ∈ e.values "mail" → upn ∈ e.uid) (password : String) :
    Sound env bind matching dir upn password := by
  refine sound_of_named (fun e he hs => ?_) hone password
  rw [filter_example henv h] at hs
  exact ((hitem e he).1 hs).elim id (hmail e he)

/-- The name `*` finds every entry that has a uid: whoever knows the password of one
signs in, with `*` as the subject of the tokens. -/
theorem star_unsound (henv : env.LDAP_USER_FILTER = none)
    (hstar : ∀ e ∈ dir.entries, e.satisfies matching "(uid=*)" = true ↔ e.uid ≠ []) {e : Entry} (he : e ∈ dir.entries)
    (huid : e.uid ≠ []) (hno : "*" ∉ e.uid) {password : String} (hopen : Opens env bind e password) :
    ¬ Sound env bind matching dir "*" password := by
  intro h
  have hfilter : env.filter "*" = "(uid=*)" := filter_default henv (by decide)
  exact hno (h.unmixed e he (hfilter ▸ (hstar e he).2 huid) hopen).1

end

/-- An entry of a user. -/
def Entry.sample (dn uid : String) (memberOf : List String) : Entry where
  dn := dn
  values attr := if attr = "uid" then [uid] else if attr = "memberOf" then memberOf else []

/-- Two entries with one uid; the guest has no groups. -/
def Directory.sample : Directory where
  entries := [.sample "uid=ana,ou=staff" "ana" ["OPS_ADMIN"], .sample "uid=ana,ou=guests" "ana" []]
  distinct := by decide

/-- The service may search, and one password opens the guest's entry. -/
def Directory.sampleBind (dn password : Option String) : Bool :=
  dn.isNone || (dn = some "uid=ana,ou=guests" && password = some "pw")

/-- What the filter for `ana` finds. -/
def Matching.sample : Matching := fun filter => if filter = "(uid=ana)" then some fun e => "ana" ∈ e.uid else none

/-- The guest may get the groups of the other entry. -/
theorem authenticate_mixed : ¬ Sound ⟨none, none, none⟩ Directory.sampleBind .sample Directory.sample "ana" "pw" := by
  intro h
  have hfilter := @filter_default ⟨none, none, none⟩ rfl "ana" (by decide)
  have hfinds : ∀ e : Entry, "ana" ∈ e.uid → e.satisfies .sample (LdapEnv.filter ⟨none, none, none⟩ "ana") = true :=
    fun e he => by simpa [hfilter, Entry.satisfies, Matching.sample] using he
  have hunmixed := h.unmixed (.sample "uid=ana,ou=guests" "ana" []) (by simp [Directory.sample])
    (hfinds _ (List.mem_singleton_self _)) ⟨rfl, by decide, rfl⟩
  have hgroups := hunmixed.2 rfl (.sample "uid=ana,ou=staff" "ana" ["OPS_ADMIN"]) (by simp [Directory.sample])
    (hfinds _ (List.mem_singleton_self _))
  cases hgroups

end Tactix.AuthService
