import Mathlib.Data.List.Nodup
import Tactix.IncidentSvc.Operations
import Tactix.Lib.Keyed
import Tactix.Lib.Reserve
/-!
# Upserting assignments

After their permission check, `POST` and `DELETE` of assignments on one event loop. A post
looks for a row and then updates it or inserts one, in two statements. `upserts_sound` says
that a user keeps one row while no post inserts between the two statements of another, and
`sound_of_serial` that nothing goes wrong when posts for one user do not overlap.
-/
open Tactix.Js ServiceLib

namespace Tactix.IncidentSvc.Upsert

/-- `assignments` with its primary key, and the writes on the rows: whether a `POST` made them. -/
structure Table where
  rows : List Assignment
  primary : (rows.map (·.assignment_id)).Nodup
  writes : List (MapOp String Bool)

structure Env where
  /-- The UUID a text stands for, as Postgres prints it, `none` when it refuses the text. -/
  uuid : String → Option String

inductive Query where
  | existing (opId userUpn : String)
  | update (positionId altDisplayName : Option String) (assignmentId : String)
  | fetch (assignmentId : String)
  | insert (id opId userUpn : String) (positionId altDisplayName createdBy : Option String)
  | deactivate (assignmentId opId : String)

/-- What is read of the rows of a result. -/
def Query.Rows : Query → Type
  | existing .. => Option String
  | update .. | deactivate .. => Unit
  | fetch .. => Option Assignment
  | insert .. => Assignment

/-- `none` when the statement is rejected. -/
def Query.Reply (q : Query) : Type := Option q.Rows

inductive Error where
  | rejected

abbrev Svc := Prog Unit Query Query.Reply Error

/-- `await dbClient.query(...)`. -/
def query (q : Query) : Svc q.Rows :=
  .await q fun (reply : Option q.Rows) =>
    match reply with
    | some rows => .ret rows
    | none => .raise .rejected

/-- The rest of `POST /operations/:id/assignments`; `id` is what `randomUUID()` comes to. -/
def postAssignment (opId : String) (sub : Option String) (body : Option AssignmentBody) (id : String) : Svc Reply :=
  match body with
  | none => return .badRequest "userUpn required"
  | some body =>
    if body.userUpn = "" then return .badRequest "userUpn required"
    else do
      let positionId := orString body.positionId none
      let altDisplayName := orString body.altDisplayName none
      let existing : Option String ← query (.existing opId body.userUpn)
      match existing with
      | some assignmentId =>
        query (.update positionId altDisplayName assignmentId)
        let row : Option Assignment ← query (.fetch assignmentId)
        return .assignment row
      | none =>
        let row : Assignment ← query (.insert id opId body.userUpn positionId altDisplayName sub)
        return .assignment (some row)

/-- The rest of `DELETE /operations/:id/assignments/:assignmentId`. -/
def deleteAssignment (opId assignmentId : String) : Svc Reply := do
  query (.deactivate assignmentId opId)
  return .noContent

inductive Call where
  | post (opId : String) (sub : Option String) (body : Option AssignmentBody) (id : String)
  | delete (opId assignmentId : String)

def Call.run : Call → Svc Reply
  | .post opId sub body id => postAssignment opId sub body id
  | .delete opId assignmentId => deleteAssignment opId assignmentId

/-! ## The table -/

/-- The rows a user has on an operation. -/
def Of (env : Env) (opId userUpn : String) (row : Assignment) : Prop :=
  env.uuid opId = some row.operation_id ∧ row.user_upn = userUpn

/-- `UPDATE assignments SET ... WHERE`, with the row's id in the condition: it changes one row, or finds none. -/
def Updates (t t' : Table) (p : Assignment → Prop) (set : Assignment → Assignment) (post : Bool) : Prop :=
  (∃ row ∈ t.rows, p row ∧ t'.writes = t.writes ++ [.put row.assignment_id post] ∧
    t'.rows = t.rows.map fun r => if r.assignment_id = row.assignment_id then set r else r) ∨
  t' = t ∧ ∀ row ∈ t.rows, ¬ p row

def setPosted (positionId altDisplayName : Option String) (row : Assignment) : Assignment :=
  { row with position_id := positionId, alt_display_name := altDisplayName, active := true }

def setInactive (row : Assignment) : Assignment := { row with active := false }

/-- The replies of the database, and the table afterwards. A statement may be rejected for whatever reason,
then without effect. -/
def answers (env : Env) (t : Table) (t' : Table) : (q : Query) → q.Reply → Prop
  | .existing opId userUpn, (reply : Option (Option String)) => t' = t ∧
    match reply with
    | none => True
    | some none => ∀ row ∈ t.rows, ¬ Of env opId userUpn row
    | some (some id) => ∃ row ∈ t.rows, Of env opId userUpn row ∧ row.assignment_id = id
  | .update positionId altDisplayName id, (reply : Option Unit) =>
    match reply with
    | none => t' = t
    | some () => Updates t t' (fun row => env.uuid id = some row.assignment_id)
        (setPosted (positionId.bind env.uuid) altDisplayName) true
  | .fetch id, (reply : Option (Option Assignment)) => t' = t ∧
    match reply with
    | none => True
    | some none => ∀ row ∈ t.rows, env.uuid id ≠ some row.assignment_id
    | some (some row) => row ∈ t.rows ∧ env.uuid id = some row.assignment_id
  | .insert id opId userUpn positionId altDisplayName createdBy, (reply : Option Assignment) =>
    match reply with
    | none => t' = t
    | some row => env.uuid id = some row.assignment_id ∧ Of env opId userUpn row ∧
        row.position_id = positionId.bind env.uuid ∧ row.alt_display_name = altDisplayName ∧ row.active = true ∧
        row.created_by_upn = createdBy ∧ t'.rows = t.rows ++ [row] ∧
        t'.writes = t.writes ++ [.put row.assignment_id true]
  | .deactivate id opId, (reply : Option Unit) =>
    match reply with
    | none => t' = t
    | some () => Updates t t' (fun row => env.uuid id = some row.assignment_id ∧ env.uuid opId = some row.operation_id)
        setInactive false

abbrev Entries := Asked Query Query.Reply

abbrev State := Sys Call Unit Table Query Query.Reply Error Reply

abbrev Act := ServiceLib.Action Call Empty Query Query.Reply

/-- Nothing else touches the table. -/
def quiet (_ : Empty) (_ : Unit) (_ : Table) (_ : Unit) (_ : Table) : Prop := False

abbrev UpsertStep (env : Env) : State → Act → State → Prop := Step Call.run (fun t q a t' => answers env t t' q a) quiet

/-! ## What is to hold -/

/-- What the last write on a row was. -/
def Table.last (t : Table) (assignmentId : String) : Option Bool := store (fun id => id) t.writes assignmentId

/-- The rows are of one user on one operation. -/
def Same (a b : Assignment) : Prop := a.operation_id = b.operation_id ∧ a.user_upn = b.user_upn

/-- No user has two rows on an operation, and a row is active just when the last write on it was a `POST`. -/
structure Sound (t : Table) : Prop where
  unique : t.rows.Pairwise fun a b => ¬ Same a b
  active : ∀ row ∈ t.rows, ∀ post, t.last row.assignment_id = some post → (row.active = true ↔ post = true)

/-- A post, the request `i`, is told that a user has no row on an operation, or one is inserted. -/
inductive Note where
  | vacant (i : Nat) (opId userUpn : String)
  | inserted (opId userUpn : String)

def notes (_ : State) (a : Act) (log : List Note) : List Note :=
  match a with
  | .answer i (.existing opId userUpn) (some none) => log ++ [.vacant i opId userUpn]
  | .answer _ (.insert _ opId userUpn _ _ _) (some _) => log ++ [.inserted opId userUpn]
  | _ => log

/-- No row was inserted for the user meanwhile. -/
def Untouched (env : Env) (opId userUpn : String) (log : List Note) : Prop :=
  ∀ opId', env.uuid opId' = env.uuid opId → .inserted opId' userUpn ∉ log

/-- Since the request was told of no row, none was inserted for the user. Where it was never told so, there is
nothing to keep to. -/
def Undisturbed (env : Env) (log : List Note) (i : Nat) (opId userUpn : String) : Prop :=
  ∀ before later, log = before ++ .vacant i opId userUpn :: later → Untouched env opId userUpn later

/-- An `INSERT` succeeds only when no other for its user has since the post's `SELECT`. -/
def Timely (env : Env) (s : State × List Note) : Act → Prop
  | .answer i (.insert _ opId userUpn _ _ _) (some _) => Undisturbed env s.2 i opId userUpn
  | _ => True

/-- An `INSERT` succeeds only where its user has no row on its operation. -/
def Fresh (env : Env) (s : State) : Act → Prop
  | .answer _ (.insert _ opId userUpn _ _ _) (some _) => ∀ row ∈ s.data.rows, ¬ Of env opId userUpn row
  | _ => True

/-! ## Writes -/

section
variable {env : Env} {t t' : Table} {set : Assignment → Assignment} {post : Bool}

/-- The statements set columns of a row; whose row it is does not change. -/
structure Sets (set : Assignment → Assignment) (post : Bool) : Prop where
  id : ∀ row, (set row).assignment_id = row.assignment_id
  same : ∀ row, Same (set row) row
  active : ∀ row, (set row).active = post

theorem sets_posted (positionId altDisplayName : Option String) : Sets (setPosted positionId altDisplayName) true :=
  ⟨fun _ => rfl, fun _ => ⟨rfl, rfl⟩, fun _ => rfl⟩

theorem sets_inactive : Sets setInactive false := ⟨fun _ => rfl, fun _ => ⟨rfl, rfl⟩, fun _ => rfl⟩

theorem Same.symm {a b : Assignment} (h : Same a b) : Same b a := ⟨h.1.symm, h.2.symm⟩

theorem Same.trans {a b c : Assignment} (h : Same a b) (h' : Same b c) : Same a c := ⟨h.1.trans h'.1, h.2.trans h'.2⟩

theorem last_append {id : String} (hwrites : t'.writes = t.writes ++ [.put id post]) (id' : String) :
    t'.last id' = if id' = id then some post else t.last id' := by
  rw [Table.last, hwrites, store_put]
  rfl

theorem Sound.updates {p : Assignment → Prop} (h : Sound t) (hset : Sets set post) (hu : Updates t t' p set post) :
    Sound t' := by
  rcases hu with ⟨target, -, -, hwrites, hrows⟩ | ⟨rfl, -⟩
  · refine ⟨?_, ?_⟩
    · have hsame : ∀ r, Same (if r.assignment_id = target.assignment_id then set r else r) r := by
        intro r
        split
        · exact hset.same r
        · exact ⟨rfl, rfl⟩
      rw [hrows, List.pairwise_map]
      exact h.unique.imp fun hne hboth => hne (((hsame _).symm.trans hboth).trans (hsame _))
    · intro row hrow w hlast
      rw [hrows] at hrow
      obtain ⟨r, hr, rfl⟩ := List.mem_map.1 hrow
      rw [last_append hwrites] at hlast
      by_cases hid : r.assignment_id = target.assignment_id
      · rw [if_pos hid] at hlast ⊢
        rw [hset.id, if_pos hid] at hlast
        rw [hset.active, Option.some.inj hlast]
      · rw [if_neg hid] at hlast ⊢
        rw [if_neg hid] at hlast
        exact h.active r hr w hlast
  · exact h

/-- A new row leaves the table sound just when its user had none. -/
theorem Sound.insert {row : Assignment} (h : Sound t) (hactive : row.active = true) (hrows : t'.rows = t.rows ++ [row])
    (hwrites : t'.writes = t.writes ++ [.put row.assignment_id true]) :
    Sound t' ↔ ∀ r ∈ t.rows, ¬ Same r row := by
  constructor
  · intro ht' r hr
    have hunique := ht'.unique
    rw [hrows, List.pairwise_append] at hunique
    exact hunique.2.2 r hr row (List.mem_singleton_self row)
  · intro hnew
    refine ⟨?_, ?_⟩
    · rw [hrows, List.pairwise_append]
      refine ⟨h.unique, List.pairwise_singleton _ _, fun r hr r' hr' => ?_⟩
      rw [List.mem_singleton.1 hr']
      exact hnew r hr
    · intro r hr w hlast
      have hprimary := t'.primary
      rw [hrows, List.map_append, List.nodup_append] at hprimary
      rw [hrows, List.mem_append, List.mem_singleton] at hr
      rw [last_append hwrites] at hlast
      rcases hr with hr | rfl
      · have hne : r.assignment_id ≠ row.assignment_id :=
          hprimary.2.2 _ (List.mem_map_of_mem hr) _ (List.mem_singleton_self _)
        rw [if_neg hne] at hlast
        exact h.active r hr w hlast
      · rw [if_pos rfl] at hlast
        rw [hactive, Option.some.inj hlast]

/-- The rows of the new row's user are those the `SELECT` looks for. -/
theorem of_same {opId userUpn : String} {row r : Assignment} (hrow : Of env opId userUpn row) :
    Of env opId userUpn r ↔ Same r row := by
  constructor
  · exact fun hr => ⟨Option.some.inj (hr.1.symm.trans hrow.1), hr.2.trans hrow.2.symm⟩
  · exact fun hs => ⟨hrow.1.trans (congrArg some hs.1.symm), hs.2.trans hrow.2⟩

end

/-! ## Steps -/

section
variable {env : Env} {s s' : State} {a : Act}

/-- A step from a sound table leads to a sound one just when an `INSERT` is fresh. -/
theorem sound_step_iff (h : Sound s.data) (ht : UpsertStep env s a s') : Sound s'.data ↔ Fresh env s a := by
  cases ht with
  | start => exact iff_of_true h trivial
  | resume => exact iff_of_true h trivial
  | outside ho => exact ho.elim
  | @answer i l asked q k reply t hi ha =>
    cases q with
    | existing opId userUpn =>
      obtain rfl : t = s.data := ha.1
      exact iff_of_true h trivial
    | fetch id =>
      obtain rfl : t = s.data := ha.1
      exact iff_of_true h trivial
    | update positionId altDisplayName id =>
      cases reply with
      | none =>
        obtain rfl : t = s.data := ha
        exact iff_of_true h trivial
      | some => exact iff_of_true (h.updates (sets_posted _ _) ha) trivial
    | deactivate id opId =>
      cases reply with
      | none =>
        obtain rfl : t = s.data := ha
        exact iff_of_true h trivial
      | some => exact iff_of_true (h.updates sets_inactive ha) trivial
    | insert id opId userUpn positionId altDisplayName createdBy =>
      cases reply with
      | none =>
        obtain rfl : t = s.data := ha
        exact iff_of_true h trivial
      | some row =>
        obtain ⟨-, hrow, -, -, hactive, -, hrows, hwrites⟩ := ha
        refine (h.insert hactive hrows hwrites).trans (forall₂_congr fun r _ => ?_)
        exact not_congr (of_same hrow).symm

end

/-- Where every `INSERT` that succeeds is fresh the table stays sound. -/
theorem sound_of_fresh (env : Env) {t : Table} (hunique : t.rows.Pairwise fun a b => ¬ Same a b) (hnew : t.writes = [])
    {s : State} (h : Reachable (Guarded (Fresh env) (UpsertStep env)) (.init () t) s) : Sound s.data := by
  have hinit : Sound t := ⟨hunique, fun _ _ _ hlast => by rw [Table.last, hnew] at hlast; cases hlast⟩
  exact h.inv (I := fun s => Sound s.data) hinit fun _ _ _ hs ht => (sound_step_iff hs ht.2).2 ht.1

/-! ## What a post was told -/

/-- A post was told that the user has no row, and has had no reply since. -/
abbrev Missing (opId userUpn : String) : Entries := [⟨.existing opId userUpn, some none⟩]

inductive Issues : Call → Entries → Query → Prop
  | existing {opId id : String} {sub : Option String} {body : AssignmentBody} :
      Issues (.post opId sub (some body) id) [] (.existing opId body.userUpn)
  | update {l : Call} {h : Entries} {positionId altDisplayName : Option String} {id : String} : h ≠ [] →
      Issues l h (.update positionId altDisplayName id)
  | fetch {l : Call} {h : Entries} {id : String} : h ≠ [] → Issues l h (.fetch id)
  | insert {opId id userUpn : String} {sub positionId altDisplayName : Option String} {body : Option AssignmentBody} :
      Issues (.post opId sub body id) (Missing opId userUpn) (.insert id opId userUpn positionId altDisplayName sub)
  | deactivate {opId id : String} : Issues (.delete opId id) [] (.deactivate id opId)

def upsertSpec : Spec Call Unit Query Query.Reply where
  reply _ _ := True
  inv _ := True
  rely _ _ := True
  issue l h _ _ q := Issues l h q
  rely_refl _ := trivial
  rely_trans _ _ := trivial

/-- Nothing is asked of how a call ends. -/
def Any (_ : Call) (_ : Entries) (_ _ : Unit) (_ : Except Error Reply) : Prop := True

theorem query_wp {l : Call} {h : Entries} {m₀ m : Unit} {q : Query} {f : q.Rows → Svc Reply} (hq : Issues l h q)
    (hk : ∀ rows m₁, (f rows).wp upsertSpec l (upsertSpec.Ends Any l) (⟨q, some rows⟩ :: h) m₁ m₁) :
    (query q >>= f).wp upsertSpec l (upsertSpec.Ends Any l) h m₀ m := by
  refine ⟨⟨trivial, trivial, hq⟩, fun a m₁ _ _ _ => ?_⟩
  cases a with
  | none => exact ⟨trivial, trivial, trivial⟩
  | some rows => exact hk rows m₁

/-- A post inserts only right after it was told that there is no row. -/
theorem run_meets : upsertSpec.Implements Any Call.run := by
  intro l m _
  cases l with
  | delete opId id => exact query_wp .deactivate fun _ _ => ⟨trivial, trivial, trivial⟩
  | post opId sub body id =>
    cases body with
    | none => exact ⟨trivial, trivial, trivial⟩
    | some body =>
      simp only [Call.run, postAssignment]
      split
      · exact ⟨trivial, trivial, trivial⟩
      · refine query_wp .existing fun existing m₁ => ?_
        cases existing with
        | none => exact query_wp .insert fun _ _ => ⟨trivial, trivial, trivial⟩
        | some assignmentId =>
          refine query_wp (.update (List.cons_ne_nil _ _)) fun _ m₂ => ?_
          exact query_wp (.fetch (List.cons_ne_nil _ _)) fun _ _ => ⟨trivial, trivial, trivial⟩

/-! ## Rows since the first statement -/

/-- A user of an operation has no row. -/
def Vacant (env : Env) (user : String × String) (t : Table) : Prop := ∀ row ∈ t.rows, ¬ Of env user.1 user.2 row

def SameUser (env : Env) (a b : String × String) : Prop := env.uuid a.1 = env.uuid b.1 ∧ a.2 = b.2

section
variable {env : Env} {s s' : State} {a : Act} {t t' : Table} {log : List Note}

/-- No update gives a user a row. -/
theorem Vacant.updates {user : String × String} {p : Assignment → Prop} {set : Assignment → Assignment} {post : Bool}
    (hnone : Vacant env user t) (hset : Sets set post) (hu : Updates t t' p set post) : Vacant env user t' := by
  rcases hu with ⟨target, -, -, -, hrows⟩ | ⟨rfl, -⟩
  · intro row hrow hof
    rw [hrows] at hrow
    obtain ⟨r, hr, rfl⟩ := List.mem_map.1 hrow
    split at hof
    · exact hnone r hr ((of_same hof).2 (hset.same r).symm)
    · exact hnone r hr hof
  · exact hnone

/-- A row is another user's than those the others were told about. -/
theorem Vacant.insert {user user' : String × String} {row : Assignment} (hnone : Vacant env user t)
    (hrow : Of env user'.1 user'.2 row) (hother : ¬ SameUser env user' user) (hrows : t'.rows = t.rows ++ [row]) :
    Vacant env user t' := by
  intro r hr hof
  rcases List.mem_append.1 (hrows ▸ hr) with hr | hr
  · exact hnone r hr hof
  · obtain rfl := List.mem_singleton.1 hr
    exact hother ⟨hrow.1.trans hof.1.symm, hrow.2.symm.trans hof.2⟩

/-- Where nothing has disturbed a post since, what it was told holds. -/
def Kept (env : Env) (log : List Note) (t : Table) : Prop :=
  ∀ before i opId userUpn later, log = before ++ .vacant i opId userUpn :: later → Untouched env opId userUpn later →
    Vacant env (opId, userUpn) t

theorem kept_nil (env : Env) (t : Table) : Kept env [] t := by
  intro before i opId userUpn later heq
  simp at heq

/-- What is noted last is what the post was told, or has not disturbed it. -/
theorem untouched_snoc {note : Note} {before later : List Note} {i : Nat} {opId userUpn : String}
    (heq : log ++ [note] = before ++ .vacant i opId userUpn :: later) (hno : Untouched env opId userUpn later) :
    note = .vacant i opId userUpn ∨
      (∃ later', log = before ++ .vacant i opId userUpn :: later' ∧ Untouched env opId userUpn later') ∧
        ∀ opId', note = .inserted opId' userUpn → env.uuid opId' ≠ env.uuid opId := by
  rcases List.eq_nil_or_concat later with rfl | ⟨later, last, rfl⟩
  · exact .inl (List.singleton_inj.1 (List.append_inj' heq rfl).2)
  · rw [List.concat_eq_append] at heq hno
    rw [← List.cons_append, ← List.append_assoc] at heq
    obtain ⟨rfl, hlast⟩ := List.append_inj' heq rfl
    obtain rfl := List.singleton_inj.1 hlast
    refine .inr ⟨⟨later, rfl, fun opId' he hm => hno opId' he (List.mem_append_left _ hm)⟩, ?_⟩
    rintro opId' rfl he
    exact hno opId' he (by simp)

theorem Kept.vacant (h : Kept env log t) {i : Nat} {opId userUpn : String} (hnone : Vacant env (opId, userUpn) t) :
    Kept env (log ++ [.vacant i opId userUpn]) t := by
  intro before j opId' userUpn' later heq hno
  rcases untouched_snoc heq hno with he | ⟨⟨later', heq, hno⟩, -⟩
  · cases he
    exact hnone
  · exact h before j opId' userUpn' later' heq hno

theorem Kept.inserted (h : Kept env log t) {opId userUpn : String} {row : Assignment} (hrow : Of env opId userUpn row)
    (hrows : t'.rows = t.rows ++ [row]) : Kept env (log ++ [.inserted opId userUpn]) t' := by
  intro before j opId' userUpn' later heq hno
  rcases untouched_snoc heq hno with he | ⟨⟨later', heq, hno⟩, hother⟩
  · cases he
  · have hnotSame : ¬ SameUser env (opId, userUpn) (opId', userUpn') := by
      intro hsame
      obtain rfl : userUpn = userUpn' := hsame.2
      exact hother opId rfl hsame.1
    exact (h before j opId' userUpn' later' heq hno).insert hrow hnotSame hrows

/-- A step keeps what the posts were told, while nothing disturbs them. -/
theorem Kept.step (h : Kept env log s.data) (hs : UpsertStep env s a s') :
    Kept env (notes s a log) s'.data := by
  cases hs with
  | start => exact h
  | resume => exact h
  | outside ho => exact ho.elim
  | @answer i l asked q k reply t hi ha =>
    cases q with
    | existing opId userUpn =>
      obtain ⟨rfl, hreply⟩ := ha
      cases reply with
      | none => exact h
      | some found =>
        cases found with
        | none => exact h.vacant hreply
        | some id => exact h
    | fetch id =>
      obtain rfl : t = s.data := ha.1
      exact h
    | update positionId altDisplayName id =>
      cases reply with
      | none => exact (show t = s.data from ha) ▸ h
      | some => exact fun _ _ _ _ _ heq hno => (h _ _ _ _ _ heq hno).updates (sets_posted _ _) ha
    | deactivate id opId =>
      cases reply with
      | none => exact (show t = s.data from ha) ▸ h
      | some => exact fun _ _ _ _ _ heq hno => (h _ _ _ _ _ heq hno).updates sets_inactive ha
    | insert id opId userUpn positionId altDisplayName createdBy =>
      cases reply with
      | none => exact (show t = s.data from ha) ▸ h
      | some row =>
        obtain ⟨-, hrow, -, -, -, -, hrows, -⟩ := ha
        exact h.inserted hrow hrows

/-- It is noted what the posts were told that are still to insert. -/
def Noted (asked : Nat → Option Entries) (log : List Note) : Prop :=
  ∀ i opId userUpn, asked i = some (Missing opId userUpn) → .vacant i opId userUpn ∈ log

theorem notes_subset (s : State) (a : Act) (log : List Note) : log ⊆ notes s a log := by
  unfold notes
  split
  · exact List.subset_append_left ..
  · exact List.subset_append_left ..
  · exact List.Subset.refl _

theorem Noted.step (h : Noted s.asked log) (hm : s.Meets upsertSpec Any) (hs : UpsertStep env s a s') :
    Noted s'.asked (notes s a log) := by
  have hold : Noted s.asked (notes s a log) := fun i opId userUpn hi => notes_subset s a log (h i opId userUpn hi)
  refine (change_of_step run_meets hm hs).asked_inv (P := fun _ asked => Noted asked (notes s a log)) hm hold ?_ ?_
    fun o => o.elim
  · intro i _ j opId userUpn hj
    rcases update_cases hj with ⟨-, he⟩ | ⟨-, hj⟩
    · cases he
    · exact hold j opId userUpn hj
  · rintro i th q reply d _ _ rfl hi - - j opId userUpn hj
    rcases update_cases hj with ⟨rfl, he⟩ | ⟨-, hj⟩
    · obtain ⟨hx, -⟩ := List.cons.inj he
      cases hx
      exact List.mem_append_right _ (List.mem_singleton_self _)
    · exact hold j opId userUpn hj

/-- What holds in every run, timely or not. -/
structure Watched (env : Env) (s : State) (log : List Note) : Prop where
  meets : s.Meets upsertSpec Any
  noted : Noted s.asked log
  kept : Kept env log s.data

theorem watched_init (env : Env) (t : Table) : Watched env (.init () t) [] :=
  ⟨Sys.init_meets trivial, fun _ _ _ hi => (by cases hi), kept_nil env t⟩

theorem Watched.step (h : Watched env s log) (hs : UpsertStep env s a s') : Watched env s' (notes s a log) :=
  have hc := change_of_step run_meets h.meets hs
  ⟨hc.meets (fun _ _ _ _ _ => trivial) (fun o => o.elim) h.meets, h.noted.step h.meets hs, h.kept.step hs⟩

/-- A timely `INSERT` is fresh: its post was told that there is no row, and none was inserted since. -/
theorem Watched.fresh (h : Watched env s log) (hs : UpsertStep env s a s') (ht : Timely env (s, log) a) : Fresh env s a := by
  cases hs with
  | start | resume => exact trivial
  | outside ho => exact ho.elim
  | @answer i l asked q k reply t hi ha =>
    obtain ⟨⟨m₀, m₁, hq, -⟩, -⟩ := h.meets.2 _ _ hi
    cases hq with
    | @insert opId id userUpn sub positionId altDisplayName body =>
      cases reply with
      | none => exact trivial
      | some row =>
        obtain ⟨before, later, heq⟩ := List.append_of_mem (h.noted i opId userUpn (by simp [Sys.asked, hi]))
        exact h.kept before i opId userUpn later heq (ht before later heq)
    | _ => exact trivial

end

/-- No user gets a second row on an operation, and every row is active just when the last write on it was a `POST`,
in every run in which no `INSERT` comes between the two statements of a post for the same user that inserts. -/
theorem upserts_sound (env : Env) {t : Table} (hunique : t.rows.Pairwise fun a b => ¬ Same a b) (hnew : t.writes = [])
    {s : State} {log : List Note}
    (h : Reachable (Guarded (Timely env) (Watching notes (UpsertStep env))) (.init () t, []) (s, log)) : Sound s.data := by
  have hinit : Sound t := ⟨hunique, fun _ _ _ hlast => by rw [Table.last, hnew] at hlast; cases hlast⟩
  refine (h.inv (I := fun p => Sound p.1.data ∧ Watched env p.1 p.2) ⟨hinit, watched_init env t⟩ ?_).1
  rintro p a ⟨s', log'⟩ ⟨hsound, hw⟩ ⟨ht, hs, rfl⟩
  exact ⟨(sound_step_iff hsound hs).2 (hw.fresh hs ht), hw.step hs⟩

namespace Sample

def env : Env := ⟨some⟩

/-- What a post for Ana inserts. -/
def row (id : String) : Assignment := ⟨id, "op1", "ana", none, none, true, some "lead"⟩

def post (id : String) : Call := .post "op1" (some "lead") (some ⟨"ana", none, none⟩) id

def empty : Table := ⟨[], List.nodup_nil, []⟩

def one : Table := ⟨[row "a1"], List.nodup_singleton _, [.put "a1" true]⟩

def again : Table := ⟨[row "a1"], List.nodup_singleton _, [.put "a1" true, .put "a1" true]⟩

def removed : Table := ⟨[setInactive (row "a1")], List.nodup_singleton _, [.put "a1" true, .put "a1" true, .put "a1" false]⟩

def two : Table := ⟨[row "a1", row "a2"], by decide, [.put "a1" true, .put "a2" true]⟩

end Sample

/-- A second post for Ana looks when the first has inserted her row, and she is removed again. -/
theorem upserts_removed : ∃ s : State, s.data = Sample.removed ∧ Sound s.data := by
  have hlook : answers Sample.env Sample.empty Sample.empty (.existing "op1" "ana") (some none) :=
    ⟨rfl, fun _ h => absurd h List.not_mem_nil⟩
  have hinsert : answers Sample.env Sample.empty Sample.one (.insert "a1" "op1" "ana" none none (some "lead"))
      (some (Sample.row "a1")) := ⟨rfl, ⟨rfl, rfl⟩, rfl, rfl, rfl, rfl, rfl, rfl⟩
  have hfind : answers Sample.env Sample.one Sample.one (.existing "op1" "ana") (some (some "a1")) :=
    ⟨rfl, Sample.row "a1", List.mem_singleton_self _, ⟨rfl, rfl⟩, rfl⟩
  have hupdate : answers Sample.env Sample.one Sample.again (.update none none "a1") (some ()) :=
    .inl ⟨Sample.row "a1", List.mem_singleton_self _, rfl, rfl, rfl⟩
  have hremove : answers Sample.env Sample.again Sample.removed (.deactivate "a1" "op1") (some ()) :=
    .inl ⟨Sample.row "a1", List.mem_singleton_self _, ⟨rfl, rfl⟩, rfl, rfl⟩
  have h0 : Reachable (Guarded (Timely Sample.env) (Watching notes (UpsertStep Sample.env))) (.init () Sample.empty, [])
    (.init () Sample.empty, []) := .refl
  have h1 := h0.nextNoted (.start 0 (Sample.post "a1")) trivial (.start rfl)
  have h2 := h1.nextNoted (.start 1 (Sample.post "a2")) trivial (.start rfl)
  have h3 := h2.nextNoted (.answer 0 (.existing "op1" "ana") (some none)) (by trivial) (.answer rfl hlook)
  have h4 := h3.nextNoted (.resume 0) trivial (.resume rfl)
  have htimely : Undisturbed Sample.env [.vacant 0 "op1" "ana"] 0 "op1" "ana" := fun before later heq => by
    cases before with
    | nil =>
      obtain ⟨-, rfl⟩ := List.cons.inj heq
      exact fun _ _ => List.not_mem_nil
    | cons _ before => simp at heq
  have h5 := h4.nextNoted (.answer 0 (.insert "a1" "op1" "ana" none none (some "lead")) (some (Sample.row "a1")))
    (by exact htimely) (.answer rfl hinsert)
  have h6 := h5.nextNoted (.answer 1 (.existing "op1" "ana") (some (some "a1"))) (by trivial) (.answer rfl hfind)
  have h7 := h6.nextNoted (.resume 1) trivial (.resume rfl)
  have h8 := h7.nextNoted (.answer 1 (.update none none "a1") (some ())) (by trivial) (.answer rfl hupdate)
  have h9 := h8.nextNoted (.start 2 (.delete "op1" "a1")) trivial (.start rfl)
  have h10 := h9.nextNoted (.answer 2 (.deactivate "a1" "op1") (some ())) (by trivial) (.answer rfl hremove)
  exact ⟨_, rfl, upserts_sound Sample.env .nil rfl h10⟩

/-- Two posts for Ana look before either inserts. -/
theorem upserts_twice : ¬ ∀ (env : Env) (t : Table) (s : State), t.rows.Pairwise (fun a b => ¬ Same a b) → t.writes = [] →
    Reachable (UpsertStep env) (.init () t) s → Sound s.data := by
  intro hall
  have hlook : answers Sample.env Sample.empty Sample.empty (.existing "op1" "ana") (some none) :=
    ⟨rfl, fun _ h => absurd h List.not_mem_nil⟩
  have hfirst : answers Sample.env Sample.empty Sample.one (.insert "a1" "op1" "ana" none none (some "lead"))
      (some (Sample.row "a1")) := ⟨rfl, ⟨rfl, rfl⟩, rfl, rfl, rfl, rfl, rfl, rfl⟩
  have hsecond : answers Sample.env Sample.one Sample.two (.insert "a2" "op1" "ana" none none (some "lead"))
      (some (Sample.row "a2")) := ⟨rfl, ⟨rfl, rfl⟩, rfl, rfl, rfl, rfl, rfl, rfl⟩
  have h0 : Reachable (Guarded (fun _ _ => True) (UpsertStep Sample.env)) (.init () Sample.empty : State)
    (.init () Sample.empty) := .refl
  have h1 := reach_start h0 trivial (i := 0) (l := Sample.post "a1") rfl rfl
  have h2 := reach_start h1 trivial (i := 1) (l := Sample.post "a2") rfl rfl
  have h3 := reach_resume (reach_answer h2 trivial (i := 0) rfl hlook) trivial (i := 0) rfl rfl
  have h4 := reach_resume (reach_answer h3 trivial (i := 1) rfl hlook) trivial (i := 1) rfl rfl
  have h5 := reach_resume (reach_answer h4 trivial (i := 0) rfl hfirst) trivial (i := 0) rfl rfl
  have h6 := reach_resume (reach_answer h5 trivial (i := 1) rfl hsecond) trivial (i := 1) rfl rfl
  have hunique := (hall Sample.env Sample.empty _ .nil rfl h6.forget).unique
  exact (List.pairwise_cons.1 hunique).1 (Sample.row "a2") (List.mem_singleton_self _) ⟨rfl, rfl⟩

/-! ## Every sound run is timely -/

section
variable {env : Env} {s s' : State} {a : Act} {t t' : Table} {log : List Note}

/-- Rows that were inserted are still there. -/
def Filled (env : Env) (log : List Note) (t : Table) : Prop :=
  ∀ opId userUpn, .inserted opId userUpn ∈ log → ¬ Vacant env (opId, userUpn) t

theorem Vacant.before_updates {user : String × String} {p : Assignment → Prop} {set : Assignment → Assignment} {post : Bool}
    (hnone : Vacant env user t') (hset : Sets set post) (hu : Updates t t' p set post) : Vacant env user t := by
  rcases hu with ⟨target, -, -, -, hrows⟩ | ⟨rfl, -⟩
  · intro row hrow hof
    refine hnone _ (hrows ▸ List.mem_map_of_mem hrow) ?_
    split
    · exact (of_same hof).2 (hset.same row)
    · exact hof
  · exact hnone

theorem Filled.step (h : Filled env log s.data) (hs : UpsertStep env s a s') : Filled env (notes s a log) s'.data := by
  cases hs with
  | start | resume => exact h
  | outside ho => exact ho.elim
  | @answer i l asked q k reply t hi ha =>
    cases q with
    | existing opId userUpn =>
      obtain ⟨rfl, -⟩ := ha
      cases reply with
      | none => exact h
      | some found =>
        cases found with
        | none =>
          intro opId' userUpn' hm
          rcases List.mem_append.1 hm with hm | hm
          · exact h opId' userUpn' hm
          · cases List.mem_singleton.1 hm
        | some id => exact h
    | fetch id =>
      obtain rfl : t = s.data := ha.1
      exact h
    | update positionId altDisplayName id =>
      cases reply with
      | none => exact (show t = s.data from ha) ▸ h
      | some => exact fun opId userUpn hm hnone => h opId userUpn hm (hnone.before_updates (sets_posted _ _) ha)
    | deactivate id opId =>
      cases reply with
      | none => exact (show t = s.data from ha) ▸ h
      | some => exact fun opId userUpn hm hnone => h opId userUpn hm (hnone.before_updates sets_inactive ha)
    | insert id opId userUpn positionId altDisplayName createdBy =>
      cases reply with
      | none => exact (show t = s.data from ha) ▸ h
      | some row =>
        obtain ⟨-, hrow, -, -, -, -, hrows, -⟩ := ha
        intro opId' userUpn' hm hnone
        rcases List.mem_append.1 hm with hm | hm
        · exact h opId' userUpn' hm fun r hr => hnone r (hrows ▸ List.mem_append_left _ hr)
        · cases List.mem_singleton.1 hm
          exact hnone row (hrows ▸ List.mem_append_right _ (List.mem_singleton_self row)) hrow

/-- An `INSERT` that is fresh is timely: any row inserted since would still be there. -/
theorem timely_of_fresh (hfilled : Filled env log s.data) (hf : Fresh env s a) : Timely env (s, log) a := by
  unfold Timely
  split
  · rintro before later rfl opId' hsame hin
    refine hfilled opId' _ (List.mem_append_right _ (List.mem_cons_of_mem _ hin)) fun r hr hof => ?_
    exact hf r hr ⟨hsame.symm.trans hof.1, hof.2⟩
  · trivial

/-- The condition is no more than the table needs: from a sound table a step of any run leads to a
sound one just when it meets the condition. -/
theorem timely_iff_sound {t : Table}
    (h : Reachable (Watching notes (UpsertStep env)) (.init () t, []) (s, log)) (hsound : Sound s.data)
    (hs : UpsertStep env s a s') : Sound s'.data ↔ Timely env (s, log) a := by
  have hinv := h.inv (I := fun p => Watched env p.1 p.2 ∧ Filled env p.2 p.1.data)
    ⟨watched_init env t, fun _ _ hin => (by cases hin)⟩ ?_
  · obtain ⟨hw, hfilled⟩ := hinv
    rw [sound_step_iff hsound hs]
    exact ⟨timely_of_fresh hfilled, hw.fresh hs⟩
  · rintro p a ⟨s', log'⟩ ⟨hw, hfilled⟩ ⟨hs, rfl⟩
    exact ⟨hw.step hs, hfilled.step hs⟩

end

/-! ## Posts that do not overlap -/

/-- A post is told that a user has no row only when no other has been told so and is still to insert one. -/
def Serial (env : Env) (s : State) : Act → Prop
  | .answer _ (.existing opId userUpn) (some none) =>
    ∀ j opId', s.asked j = some (Missing opId' userUpn) → env.uuid opId' ≠ env.uuid opId
  | _ => True

def ToldVacant (user : String × String) (h : Entries) : Prop := h = Missing user.1 user.2

/-- What a post was told still holds, and no two posts for one user were told so. -/
abbrev Alone (env : Env) : Table → (Nat → Option Entries) → Prop := Reserved (Vacant env) ToldVacant (SameUser env)

section
variable {env : Env} {t t' : Table} {asked : Nat → Option Entries} {h : Entries}

theorem SameUser.symm {a b : String × String} (hs : SameUser env a b) : SameUser env b a := ⟨hs.1.symm, hs.2.symm⟩

theorem toldVacant_iff {user : String × String} {opId userUpn : String} {reply : Option (Option String)} :
    ToldVacant user [⟨.existing opId userUpn, reply⟩] ↔ user = (opId, userUpn) ∧ reply = some none := by
  obtain ⟨opId', userUpn'⟩ := user
  constructor
  · intro he
    cases he
    exact ⟨rfl, rfl⟩
  · rintro ⟨he, rfl⟩
    cases he
    rfl

/-- Only the reply of a post's first statement tells of no row. -/
theorem not_toldVacant {x : (q : Query) × q.Reply} (hne : h ≠ []) (user : String × String) : ¬ ToldVacant user (x :: h) :=
  fun he => hne (List.cons.inj he).2

theorem alone_answer {s : State} {i : Nat} {l : Call} {q : Query} {reply : q.Reply} (ht : Alone env s.data s.asked)
    (hi : s.asked i = some h) (hq : Issues l h q) (ha : answers env s.data t q reply)
    (hserial : Serial env s (.answer i q reply)) : Alone env t (Function.update s.asked i (some (⟨q, reply⟩ :: h))) := by
  cases hq with
  | @existing opId id sub body =>
    obtain ⟨rfl, hreply⟩ := ha
    by_cases hfound : reply = some none
    · subst hfound
      refine ht.told (fun _ _ => SameUser.symm) (fun user he => ?_) fun user he j _ user' _ hj he' hsame => ?_
      · rw [(toldVacant_iff.1 he).1]
        exact hreply
      · rw [(toldVacant_iff.1 he).1] at hsame
        obtain ⟨opId', userUpn'⟩ := user'
        obtain rfl : body.userUpn = userUpn' := hsame.2
        exact hserial j opId' (he' ▸ hj) hsame.1.symm
    · exact ht.forget fun user he => hfound (toldVacant_iff.1 he).2
  | update hne =>
    cases reply with
    | none => exact (show t = s.data from ha) ▸ ht.forget (not_toldVacant hne)
    | some => exact (ht.sub fun _ hnone => hnone.updates (sets_posted _ _) ha).forget (not_toldVacant hne)
  | fetch hne =>
    obtain rfl : t = s.data := ha.1
    exact ht.forget (not_toldVacant hne)
  | @insert opId id userUpn sub positionId altDisplayName body =>
    have hne : Missing opId userUpn ≠ [] := List.cons_ne_nil _ _
    cases reply with
    | none => exact (show t = s.data from ha) ▸ ht.forget (not_toldVacant hne)
    | some row =>
      obtain ⟨-, hrow, -, -, -, -, hrows, -⟩ := ha
      exact ht.take (k := (opId, userUpn)) hi rfl (fun _ hnone hother => hnone.insert hrow hother hrows) (not_toldVacant hne)
  | deactivate =>
    cases reply with
    | none => exact (show t = s.data from ha) ▸ ht.forget fun _ he => by cases he
    | some => exact (ht.sub fun _ hnone => hnone.updates sets_inactive ha).forget fun _ he => by cases he

end

/-- An `INSERT` follows on the reply that there is no row, which still holds. -/
theorem fresh_of_alone {env : Env} {s s' : State} {a : Act} (hm : s.Meets upsertSpec Any) (ht : Alone env s.data s.asked)
    (hs : UpsertStep env s a s') : Fresh env s a := by
  cases hs with
  | start | resume => exact trivial
  | outside ho => exact ho.elim
  | @answer i l asked q k reply t hi ha =>
    obtain ⟨⟨m₀, m₁, hq, -⟩, -⟩ := hm.2 _ _ hi
    cases hq with
    | @insert opId id userUpn sub positionId altDisplayName body =>
      cases reply with
      | none => exact trivial
      | some row => exact ht.free i _ (opId, userUpn) (by simp [Sys.asked, hi]) rfl
    | _ => exact trivial

/-- Posts for one user that come one after the other insert one row. -/
theorem fresh_of_serial {env : Env} {t : Table} {s : State}
    (h : Reachable (Guarded (Serial env) (UpsertStep env)) (.init () t) s) :
    Reachable (Guarded (Fresh env) (UpsertStep env)) (.init () t) s := by
  have hinit : Alone env t (Sys.asked (.init () t : State)) :=
    ⟨fun _ _ _ hi => (by cases hi), fun _ _ _ _ _ _ _ hi => (by cases hi)⟩
  have hinv : ∀ s, Reachable (Guarded (Serial env) (UpsertStep env)) (.init () t) s →
      s.Meets upsertSpec Any ∧ Alone env s.data s.asked := by
    intro s hs
    refine run_inv (C := Serial env) (I := fun s => Alone env s.data s.asked) run_meets (fun _ _ _ _ _ => trivial)
      (fun o => o.elim) (Sys.init_meets trivial) hinit ?_ hs
    intro s a s' hm ht hserial hc
    refine hc.asked_inv (P := fun t asked => Alone env t asked) hm ht ?_ ?_ (fun o => o.elim)
    · exact fun i _ => ht.forget fun _ he => by cases he
    · rintro i th q r d m₀ m₁ rfl hi hq ha
      exact alone_answer ht (by simp [Sys.asked, hi]) hq ha hserial
  induction h with
  | refl => exact .refl
  | step hs hstep ih =>
    obtain ⟨hm, ht⟩ := hinv _ hs
    exact .step ih ⟨fresh_of_alone hm ht hstep.2, hstep.2⟩

theorem sound_of_serial {env : Env} {t : Table} (hunique : t.rows.Pairwise fun a b => ¬ Same a b) (hnew : t.writes = [])
    {s : State} (h : Reachable (Guarded (Serial env) (UpsertStep env)) (.init () t) s) : Sound s.data :=
  sound_of_fresh env hunique hnew (fresh_of_serial h)

end Tactix.IncidentSvc.Upsert
