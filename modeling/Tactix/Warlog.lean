import Mathlib.Data.List.Infix
import Mathlib.Logic.Function.Basic
import Tactix.Js
/-!
# The war log

`POST /entries` of `warlog-svc` writes to Postgres and then to OpenSearch, with one answer
when either fails. `honest_iff` says in which runs the answers tell what has been stored, so
that a client may try again.
-/
open Tactix.Js

namespace Tactix.Warlog

structure Row where
  id : Nat
  author : String
  content : String
  created_at : Nat

/-- The table, its sequence of ids, and the index `warlog`. -/
structure Stores where
  rows : List Row
  nextId : Nat
  index : String → Option Row

/-- What comes of a call to a store; `lost` is done, but the caller sees it fail. -/
inductive Outcome where
  | done
  | refused
  | lost
  deriving DecidableEq

/-- A request at a time: whether `osClient` is set, and what comes of the two calls. -/
structure Attempt where
  now : Nat
  osClient : Bool
  insert : Outcome
  index : Outcome

section
-- How a value goes into a column of type `TEXT NOT NULL`; `none` when it does not.
variable (column : Json → Option String) (body : Json)

/-- `const { author = 'anonymous', content } = req.body`. -/
def authorOf : Json := (body.get? "author").getD (.str "anonymous")

def contentOf : Option Json := body.get? "content"

/-- The `INSERT`, and the row it returns; `none` when the query fails. -/
def insertEntry (s : Stores) (a : Attempt) (author content : Json) : Stores × Option Row :=
  match column author, column content with
  | some author, some content =>
    let row := ⟨s.nextId, author, content, a.now⟩
    let inserted := { s with rows := s.rows ++ [row], nextId := s.nextId + 1 }
    match a.insert with
    | .done => (inserted, some row)
    | .lost => (inserted, none)
    | .refused => (s, none)
  | _, _ => (s, none)

/-- `osClient.index`, and whether it succeeds. -/
def indexEntry (s : Stores) (a : Attempt) (entry : Row) : Stores × Bool :=
  let indexed := { s with index := Function.update s.index (toString entry.id) (some entry) }
  match a.index with
  | .done => (indexed, true)
  | .lost => (indexed, false)
  | .refused => (s, false)

def failed : Nat × String := (500, "failed to create warlog entry")

/-- `POST /entries`: the entry of a 201, or the status and text of another answer. -/
def postEntries (s : Stores) (a : Attempt) : Stores × Except (Nat × String) Row :=
  if truthy (contentOf body) then
    match insertEntry column s a (authorOf body) ((contentOf body).getD .null) with
    | (s, none) => (s, .error failed)
    | (s, some entry) =>
      if a.osClient then
        match indexEntry s a entry with
        | (s, true) => (s, .ok entry)
        | (s, false) => (s, .error failed)
      else (s, .ok entry)
  else (s, .error (400, "content required"))

/-- The stores after a client has sent the body in these attempts. -/
def after (s : Stores) (attempts : List Attempt) : Stores := attempts.foldl (fun s a => (postEntries column body s a).1) s

/-! ## What the answers should tell -/

/-- A 201 is one row more, and indexed when there is an index; a 500 is none. -/
structure Told (osClient : Bool) (s s' : Stores) (reply : Except (Nat × String) Row) : Prop where
  created : ∀ entry, reply = .ok entry →
    s'.rows = s.rows ++ [entry] ∧ (osClient = true → s'.index (toString entry.id) = some entry)
  failed : ∀ error, reply = .error (500, error) → s'.rows = s.rows

/-- The answers to all attempts are right, and whoever tries until the first 201 has added one entry. -/
structure Honest (s : Stores) (attempts : List Attempt) : Prop where
  each : ∀ done a, done ++ [a] <+: attempts → Told a.osClient (after column body s done)
    (postEntries column body (after column body s done) a).1 (postEntries column body (after column body s done) a).2
  once : ∀ tried a entry, tried ++ [a] <+: attempts →
    (∀ done b e, done ++ [b] <+: tried → (postEntries column body (after column body s done) b).2 ≠ .ok e) →
      (postEntries column body (after column body s tried) a).2 = .ok entry →
        (after column body s (tried ++ [a])).rows = s.rows ++ [entry]

/-- The request comes to the `INSERT`, with values the table takes. -/
def Taken : Prop :=
  truthy (contentOf body) = true ∧ (column (authorOf body)).isSome = true ∧ (column ((contentOf body).getD .null)).isSome = true

/-- Nothing fails behind the row. -/
def Attempt.Clean (a : Attempt) : Prop :=
  a.insert ≠ .lost ∧ (a.insert = .done → a.osClient = true → a.index = .done)

end

/-! ## One attempt -/

section
variable {column : Json → Option String} {body : Json} {s : Stores} {a : Attempt}

/-- The row of the attempt, when the table takes the values. -/
def Stores.row (s : Stores) (a : Attempt) (author content : String) : Row := ⟨s.nextId, author, content, a.now⟩

theorem insertEntry_refused {author content : Json} (h : column author = none ∨ column content = none ∨ a.insert = .refused) :
    insertEntry column s a author content = (s, none) := by
  unfold insertEntry
  rcases h with h | h | h
  · rw [h]
  · rw [h]
    cases column author <;> rfl
  · cases column author <;> cases column content <;> simp [h]

theorem insertEntry_taken {author content : Json} {t u : String} (ht : column author = some t) (hu : column content = some u)
    (h : a.insert ≠ .refused) : insertEntry column s a author content =
      ({ s with rows := s.rows ++ [s.row a t u], nextId := s.nextId + 1 },
        if a.insert = .done then some (s.row a t u) else none) := by
  unfold insertEntry
  rw [ht, hu]
  cases hi : a.insert with
  | done => rfl
  | refused => exact absurd hi h
  | lost => rfl

theorem indexEntry_done {entry : Row} (h : a.index = .done) :
    indexEntry s a entry = ({ s with index := Function.update s.index (toString entry.id) (some entry) }, true) := by
  unfold indexEntry
  rw [h]

theorem indexEntry_fails (s : Stores) (entry : Row) (h : a.index ≠ .done) :
    ∃ index, indexEntry s a entry = ({ s with index := index }, false) := by
  unfold indexEntry
  cases hi : a.index with
  | done => exact absurd hi h
  | refused => exact ⟨_, rfl⟩
  | lost => exact ⟨_, rfl⟩

/-- An attempt adds nothing and says so, adds its entry and says so, or adds a row and says it failed. -/
theorem postEntries_cases (column : Json → Option String) (body : Json) (s : Stores) (a : Attempt) :
    ((Taken column body → a.Clean) ∧ (postEntries column body s a).1.rows = s.rows ∧
      ∃ error, (postEntries column body s a).2 = .error error) ∨
    ((Taken column body → a.Clean) ∧ ∃ entry, (postEntries column body s a).2 = .ok entry ∧
      (postEntries column body s a).1.rows = s.rows ++ [entry] ∧
      (a.osClient = true → (postEntries column body s a).1.index (toString entry.id) = some entry)) ∨
    (¬ (Taken column body → a.Clean) ∧ ∃ row, (postEntries column body s a).2 = .error failed ∧
      (postEntries column body s a).1.rows = s.rows ++ [row]) := by
  unfold postEntries
  by_cases htruthy : truthy (contentOf body) = true
  · rw [if_pos htruthy]
    by_cases hrefused : column (authorOf body) = none ∨ column ((contentOf body).getD .null) = none ∨ a.insert = .refused
    · rw [insertEntry_refused hrefused]
      refine .inl ⟨?_, rfl, failed, rfl⟩
      rintro ⟨-, hauthor, hcontent⟩
      rcases hrefused with h | h | h
      · simp [h] at hauthor
      · simp [h] at hcontent
      · simp [Attempt.Clean, h]
    · rw [not_or, not_or] at hrefused
      obtain ⟨hauthor, hcontent, hinsert⟩ := hrefused
      obtain ⟨author, hauthor⟩ := Option.ne_none_iff_exists'.1 hauthor
      obtain ⟨content, hcontent⟩ := Option.ne_none_iff_exists'.1 hcontent
      have htaken : Taken column body := ⟨htruthy, by rw [hauthor]; rfl, by rw [hcontent]; rfl⟩
      rw [insertEntry_taken hauthor hcontent hinsert]
      by_cases hdone : a.insert = .done
      · rw [if_pos hdone]
        dsimp only
        have hkept : a.insert ≠ .lost := by simp [hdone]
        by_cases hos : a.osClient = true
        · rw [if_pos hos]
          by_cases hindex : a.index = .done
          · rw [indexEntry_done hindex]
            exact .inr (.inl ⟨fun _ => ⟨hkept, fun _ _ => hindex⟩, _, rfl, rfl, fun _ => Function.update_self ..⟩)
          · -- The row is there already.
            obtain ⟨index, hfails⟩ := indexEntry_fails ⟨s.rows ++ [s.row a author content], s.nextId + 1, s.index⟩
              (s.row a author content) hindex
            rw [hfails]
            exact .inr (.inr ⟨fun h => hindex ((h htaken).2 hdone hos), _, rfl, rfl⟩)
        · rw [if_neg hos]
          exact .inr (.inl ⟨fun _ => ⟨hkept, fun _ h => absurd h hos⟩, _, rfl, rfl, fun h => absurd h hos⟩)
      · rw [if_neg hdone]
        have hlost : a.insert = .lost := by
          cases hi : a.insert with
          | done => exact absurd hi hdone
          | refused => exact absurd hi hinsert
          | lost => rfl
        exact .inr (.inr ⟨fun h => (h htaken).1 hlost, _, rfl, rfl⟩)
  · rw [if_neg htruthy]
    exact .inl ⟨fun h => absurd h.1 htruthy, rfl, _, rfl⟩

/-- The answer to an attempt is right just when nothing fails behind the row. -/
theorem told_iff (column : Json → Option String) (body : Json) (s : Stores) (a : Attempt) :
    Told a.osClient s (postEntries column body s a).1 (postEntries column body s a).2 ↔ (Taken column body → a.Clean) := by
  rcases postEntries_cases column body s a with ⟨hclean, hrows, error, hreply⟩ | ⟨hclean, entry, hreply, hrows, hindex⟩ |
    ⟨hclean, row, hreply, hrows⟩
  · refine ⟨fun _ => hclean, fun _ => ⟨fun entry h => ?_, fun _ _ => hrows⟩⟩
    cases hreply.symm.trans h
  · refine ⟨fun _ => hclean, fun _ => ⟨fun entry' h => ?_, fun error h => ?_⟩⟩
    · obtain rfl : entry = entry' := Except.ok.inj (hreply.symm.trans h)
      exact ⟨hrows, hindex⟩
    · cases hreply.symm.trans h
  · refine ⟨fun h => ?_, fun h => absurd h hclean⟩
    have hsame := h.failed _ hreply
    rw [hrows] at hsame
    simp at hsame

/-! ## Attempts until one succeeds -/

theorem after_snoc (s : Stores) (attempts : List Attempt) (a : Attempt) :
    after column body s (attempts ++ [a]) = (postEntries column body (after column body s attempts) a).1 := by
  rw [after, List.foldl_append, List.foldl_cons, List.foldl_nil, after]

/-- Attempts that are refused, and of which none fails behind its row, add nothing. -/
theorem after_refused {tried : List Attempt} (hclean : ∀ b ∈ tried, Taken column body → b.Clean)
    (hrefused : ∀ done b e, done ++ [b] <+: tried → (postEntries column body (after column body s done) b).2 ≠ .ok e) :
    (after column body s tried).rows = s.rows := by
  induction tried using List.reverseRecOn with
  | nil => rfl
  | append_singleton tried b ih =>
    have hbefore := ih (fun b' hb => hclean b' (List.mem_append_left _ hb))
      fun done b' e hpre => hrefused done b' e (hpre.trans (List.prefix_append ..))
    rw [after_snoc]
    rcases postEntries_cases column body (after column body s tried) b with ⟨-, hrows, -⟩ | ⟨-, entry, hreply, -⟩ | ⟨hnot, -⟩
    · exact hrows.trans hbefore
    · exact absurd hreply (hrefused tried b entry (List.prefix_refl _))
    · exact absurd (hclean b (by simp)) hnot

end

/-- The answers tell what has been stored, and trying again until a 201 adds one entry, just when in no attempt
whose values the table takes the `INSERT` is done and its answer lost, or the index fails behind it. -/
theorem honest_iff (column : Json → Option String) (body : Json) (s : Stores) (attempts : List Attempt) :
    Honest column body s attempts ↔ ∀ a ∈ attempts, Taken column body → a.Clean := by
  constructor
  · intro h a ha
    obtain ⟨done, later, rfl⟩ := List.append_of_mem ha
    exact (told_iff ..).1 (h.each done a ⟨later, by simp⟩)
  · intro h
    refine ⟨fun done a hpre => (told_iff ..).2 (h a (hpre.subset (by simp))), ?_⟩
    intro tried a entry hpre hrefused hreply
    have htried : ∀ b ∈ tried, Taken column body → b.Clean := fun b hb => h b (hpre.subset (List.mem_append_left _ hb))
    have htold := (told_iff column body (after column body s tried) a).2 (h a (hpre.subset (by simp)))
    rw [after_snoc, (htold.created entry hreply).1, after_refused htried hrefused]

/-- The row is there, the index refuses it, and the answer is 500. -/
theorem postEntries_index_down : ¬ Honest (str? ∘ some) (.obj [("content", .str "fire out")]) ⟨[], 1, fun _ => none⟩
    [⟨0, true, .done, .refused⟩] := by
  intro h
  have hrows := (h.each [] _ (List.prefix_refl _)).failed "failed to create warlog entry" rfl
  cases hrows

end Tactix.Warlog
