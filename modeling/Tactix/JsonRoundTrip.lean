import Mathlib.Data.Rat.Encodable
import Tactix.JsonText
/-!
# JSON texts are read as they were written

`parse_stringify`: the parser reads the value back from its text, at any
indentation. `parse_distinct`: whatever it reads has each property once.
-/

namespace Tactix.Js

mutual

/-- No object in the value has a property twice. -/
def Json.Distinct : Json → Prop
  | .arr vs => DistinctItems vs
  | .obj fs => (fs.map (·.1)).Nodup ∧ DistinctFields fs
  | _ => True

def DistinctItems : List Json → Prop
  | [] => True
  | v :: vs => v.Distinct ∧ DistinctItems vs

def DistinctFields : List (String × Json) → Prop
  | [] => True
  | (_, v) :: fs => v.Distinct ∧ DistinctFields fs

end

section
variable {nums : NumberText}

def Parser.run (nums : NumberText) (p : Parser) (s : List Char) : Parser := s.foldl (Parser.step nums) p

theorem run_append (p : Parser) (s t : List Char) : p.run nums (s ++ t) = (p.run nums s).run nums t := List.foldl_append

theorem run_cons (p : Parser) (c : Char) (s : List Char) : p.run nums (c :: s) = (p.step nums c).run nums s := rfl

@[simp] theorem run_nil (p : Parser) : p.run nums [] = p := rfl

/-! ## Strings -/

theorem hexValue_hexDigit : ∀ n, n < 16 → hexValue (hexDigit n) = some n := by decide

/-- Inside of a string, outside of an escape. -/
def inString (isKey : Bool) (chars : List Char) (stack : List Frame) : Parser := ⟨.str isKey ⟨chars, none, .none⟩, stack⟩

theorem step_plain {isKey : Bool} {chars : List Char} {stack : List Frame} {c : Char} (hq : c ≠ '"') (hs : c ≠ '\\')
    (hc : 32 ≤ c.toNat) :
    (inString isKey chars stack).step nums c = inString isKey (chars ++ [c]) stack := by
  simp [inString, Parser.step, Literal.step, hq, hs, Nat.not_lt.2 hc, Literal.push, Literal.flush]

theorem run_slash {isKey : Bool} {chars : List Char} {stack : List Frame} {x c : Char} (hx : x ≠ 'u')
    (h : unescape x = some c) :
    (inString isKey chars stack).run nums ['\\', x] = inString isKey (chars ++ [c]) stack := by
  simp [inString, Parser.run, Parser.step, Literal.step, hx, h, Literal.push, Literal.flush]

theorem run_hex {isKey : Bool} {chars : List Char} {stack : List Frame} {c : Char} (hc : c.toNat < 32) :
    (inString isKey chars stack).run nums ['\\', 'u', '0', '0', hexDigit (c.toNat / 16), hexDigit (c.toNat % 16)] =
      inString isKey (chars ++ [c]) stack := by
  have h1 := hexValue_hexDigit (c.toNat / 16) (by omega)
  have h2 := hexValue_hexDigit (c.toNat % 16) (by omega)
  have h0 : hexValue '0' = some 0 := by decide
  have hunit : c.toNat / 16 * 16 + c.toNat % 16 = c.toNat := by omega
  have hlow : ¬ (0xd800 ≤ c.toNat ∧ c.toNat < 0xdc00) := by omega
  have hhigh : ¬ (0xdc00 ≤ c.toNat ∧ c.toNat < 0xe000) := by omega
  simp [inString, Parser.run, Parser.step, Literal.step, h0, h1, h2, hunit, Literal.unit, hlow, hhigh, Literal.push,
    Literal.flush]

theorem run_escape (isKey : Bool) (chars : List Char) (stack : List Frame) (c : Char) :
    (inString isKey chars stack).run nums (escape c) = inString isKey (chars ++ [c]) stack := by
  unfold escape
  split
  · subst_vars; exact run_slash (by decide) (by decide)
  split
  · subst_vars; exact run_slash (by decide) (by decide)
  split
  · subst_vars; exact run_slash (by decide) (by decide)
  split
  · subst_vars; exact run_slash (by decide) (by decide)
  split
  · subst_vars; exact run_slash (by decide) (by decide)
  split
  · subst_vars; exact run_slash (by decide) (by decide)
  split
  · subst_vars; exact run_slash (by decide) (by decide)
  split
  · rename_i hc
    exact run_hex hc
  · rename_i hq hs _ _ _ _ _ hc
    rw [run_cons, run_nil]
    exact step_plain hq hs (Nat.not_lt.1 hc)

theorem run_escapes (isKey : Bool) (chars s : List Char) (stack : List Frame) :
    (inString isKey chars stack).run nums (s.flatMap escape) = inString isKey (chars ++ s) stack := by
  induction s generalizing chars with
  | nil => simp
  | cons c s ih => rw [List.flatMap_cons, run_append, run_escape, ih, List.append_assoc, List.singleton_append]

theorem run_quoteString (s : String) (stack : List Frame) :
    (inString false [] stack).run nums (s.toList.flatMap escape ++ ['"']) = ⟨.after (.str s), stack⟩ := by
  rw [run_append, run_escapes]
  simp [Parser.run, Parser.step, inString, Literal.flush]

theorem run_quoteKey (s : String) (done : List (String × Json)) (stack : List Frame) :
    (inString true [] (.obj done :: stack)).run nums (s.toList.flatMap escape ++ ['"']) = ⟨.colon s, .obj done :: stack⟩ := by
  rw [run_append, run_escapes]
  simp [Parser.run, Parser.step, inString, Literal.flush, closeKey]

/-! ## White space -/

theorem isWs_newLine {gap depth : Nat} {c : Char} (h : c ∈ newLine gap depth) : isWs c = true := by
  unfold newLine at h
  split at h
  · cases h
  · rcases List.mem_cons.1 h with rfl | h
    · decide
    · rw [List.eq_of_mem_replicate h]; decide

theorem run_ws {p : Parser} {s : List Char} (hs : ∀ c ∈ s, isWs c = true)
    (hp : ∀ c, isWs c = true → p.step nums c = p) : p.run nums s = p := by
  induction s with
  | nil => rfl
  | cons c s ih =>
    rw [run_cons, hp c (hs c (List.mem_cons_self ..)), ih fun c hc => hs c (List.mem_cons_of_mem _ hc)]

theorem run_newLine {mode : Mode} (hmode : mode = .value ∨ mode = .first ∨ mode = .firstKey ∨ mode = .key) (gap depth : Nat)
    (stack : List Frame) : (Parser.mk mode stack).run nums (newLine gap depth) = ⟨mode, stack⟩ := by
  refine run_ws (fun c hc => isWs_newLine hc) fun c hc => ?_
  rcases hmode with rfl | rfl | rfl | rfl <;> simp [Parser.step, hc]

theorem run_colon (gap : Nat) (key : String) (done : List (String × Json)) (stack : List Frame) :
    (Parser.mk (.colon key) (.obj done :: stack)).run nums (colon gap) = ⟨.value, .field done key :: stack⟩ := by
  unfold colon
  split <;> simp [Parser.run, Parser.step, isWs]

/-! ## Values -/

theorem isWs_num {c : Char} (hc : isNumChar c = true) : isWs c = false := by
  rw [Bool.eq_false_iff]
  intro hw
  simp only [isWs, List.mem_cons, List.not_mem_nil, or_false, decide_eq_true_eq] at hw
  rcases hw with rfl | rfl | rfl | rfl <;> exact absurd hc (by decide)

/-- The parser has read the value; it may not know yet that a number has ended. -/
inductive Reads (nums : NumberText) (v : Json) (stack : List Frame) : Parser → Prop
  | after : Reads nums v stack ⟨.after v, stack⟩
  | num {token : List Char} {q : Rat} : v = .num q → nums.read token = some q → Reads nums v stack ⟨.num token, stack⟩

theorem Reads.step {v : Json} {stack : List Frame} {p : Parser} {c : Char} (h : Reads nums v stack p)
    (hc : isNumChar c = false) : p.step nums c = afterValue v stack c := by
  cases h with
  | after => rfl
  | num hv hread => simp [Parser.step, hc, hread, hv]

theorem afterValue_ws {v : Json} {stack : List Frame} {c : Char} (hc : isWs c = true) :
    afterValue v stack c = ⟨.after v, stack⟩ := by
  unfold afterValue
  rw [if_pos hc]

theorem Reads.newLine {v : Json} {stack : List Frame} {p : Parser} (h : Reads nums v stack p) (gap depth : Nat) :
    Reads nums v stack (p.run nums (newLine gap depth)) := by
  cases hl : Tactix.Js.newLine gap depth with
  | nil => exact h
  | cons c s =>
    have hws : ∀ x ∈ c :: s, isWs x = true := fun x hx => isWs_newLine (hl ▸ hx)
    have hc : isNumChar c = false := by
      have hnl : c = '\n' := by
        unfold Tactix.Js.newLine at hl
        split at hl
        · cases hl
        · exact (List.cons.inj hl).1.symm
      rw [hnl]
      decide
    rw [run_cons, h.step hc, afterValue_ws (hws c (List.mem_cons_self ..)), run_ws]
    · exact .after
    · exact fun x hx => hws x (List.mem_cons_of_mem _ hx)
    · intro x hx
      simp [Parser.step, afterValue, hx]

/-- A value does not begin with white space or a bracket that closes. -/
theorem text_head (nums : NumberText) (gap depth : Nat) (v : Json) :
    ∃ c s, text nums gap depth v = c :: s ∧ isWs c = false ∧ c ≠ ']' := by
  cases v with
  | null => exact ⟨'n', "ull".toList, by simp [text], by decide, by decide⟩
  | bool b =>
    cases b with
    | true => exact ⟨'t', "rue".toList, by simp [text], by decide, by decide⟩
    | false => exact ⟨'f', "alse".toList, by simp [text], by decide, by decide⟩
  | num q =>
    cases hp : nums.print q with
    | nil => exact absurd hp (nums.print_ne q)
    | cons c s =>
      have hc := nums.print_chars q c (hp ▸ List.mem_cons_self ..)
      refine ⟨c, s, by simp [text, hp], isWs_num hc, ?_⟩
      rintro rfl
      exact absurd hc (by decide)
  | str t => exact ⟨'"', _, by rw [text, quote], by decide, by decide⟩
  | arr vs => cases vs <;> exact ⟨'[', _, by rw [text], by decide, by decide⟩
  | obj fs => cases fs <;> exact ⟨'\x7b', _, by rw [text], by decide, by decide⟩

/-- A bracket that opens is followed by a value as any other place is. -/
theorem run_first (gap depth : Nat) (v : Json) (stack : List Frame) :
    (Parser.mk .first stack).run nums (text nums gap depth v) = (Parser.mk .value stack).run nums (text nums gap depth v) := by
  obtain ⟨c, s, hs, hws, hc⟩ := text_head nums gap depth v
  rw [hs, run_cons, run_cons]
  simp [Parser.step, hws, hc]

theorem run_num (acc s : List Char) (stack : List Frame) (hs : ∀ c ∈ s, isNumChar c = true) :
    (Parser.mk (.num acc) stack).run nums s = ⟨.num (acc ++ s), stack⟩ := by
  induction s generalizing acc with
  | nil => simp
  | cons c s ih =>
    have hc := hs c (List.mem_cons_self ..)
    rw [run_cons, show (Parser.mk (.num acc) stack).step nums c = ⟨.num (acc ++ [c]), stack⟩ by simp [Parser.step, hc],
      ih _ fun c hm => hs c (List.mem_cons_of_mem _ hm), List.append_assoc, List.singleton_append]

theorem begin_num {c : Char} (hc : isNumChar c = true) (stack : List Frame) : begin stack c = ⟨.num [c], stack⟩ := by
  have hne : ∀ x, isNumChar x = false → c ≠ x := by
    rintro x hx rfl
    rw [hc] at hx
    cases hx
  simp [begin, hne '"' (by decide), hne '[' (by decide), hne '\x7b' (by decide), hne 'n' (by decide), hne 't' (by decide),
    hne 'f' (by decide), hc]

theorem setField_new {fs : List (String × Json)} {key : String} {v : Json} (h : key ∉ fs.map (·.1)) :
    setField fs key v = fs ++ [(key, v)] := by
  unfold setField
  rw [if_neg]
  simp only [List.any_eq_true, decide_eq_true_eq, not_exists, not_and]
  exact fun f hf he => h (List.mem_map.2 ⟨f, hf, he⟩)

theorem step_open (stack : List Frame) :
    (Parser.mk .value stack).step nums '[' = ⟨.first, .arr [] :: stack⟩ ∧
      (Parser.mk .value stack).step nums '\x7b' = ⟨.firstKey, .obj [] :: stack⟩ := by
  constructor <;> simp [Parser.step, isWs, begin]

theorem step_quote (stack : List Frame) :
    (Parser.mk .value stack).step nums '"' = inString false [] stack ∧
      (Parser.mk .firstKey stack).step nums '"' = inString true [] stack ∧
      (Parser.mk .key stack).step nums '"' = inString true [] stack := by
  refine ⟨?_, ?_, ?_⟩ <;> simp [Parser.step, isWs, begin, inString]

/-- `"key": `, where a key may stand. -/
theorem run_key {mode : Mode} (hmode : mode = .firstKey ∨ mode = .key) (gap : Nat) (key : String)
    (done : List (String × Json)) (stack : List Frame) :
    (Parser.mk mode (.obj done :: stack)).run nums (quote key ++ colon gap) = ⟨.value, .field done key :: stack⟩ := by
  have hq : (Parser.mk mode (.obj done :: stack)).step nums '"' = inString true [] (.obj done :: stack) := by
    rcases hmode with rfl | rfl
    · exact (step_quote _).2.1
    · exact (step_quote _).2.2
  rw [quote, List.cons_append, run_cons, hq, run_append, run_quoteKey, run_colon]

theorem reads_num (gap depth : Nat) (q : Rat) (stack : List Frame) :
    Reads nums (.num q) stack ((Parser.mk .value stack).run nums (text nums gap depth (.num q))) := by
  have hchars := nums.print_chars q
  have hread := nums.read_print q
  rw [text]
  cases hp : nums.print q with
  | nil => exact absurd hp (nums.print_ne q)
  | cons c s =>
    rw [hp] at hchars hread
    have hc := hchars c (List.mem_cons_self ..)
    have hstep : (Parser.mk .value stack).step nums c = ⟨.num [c], stack⟩ := by
      simp [Parser.step, isWs_num hc, begin_num hc]
    rw [run_cons, hstep, run_num _ _ _ fun x hx => hchars x (List.mem_cons_of_mem _ hx)]
    exact .num rfl hread

/-- Reading the text of a value. -/
def ReadsText (nums : NumberText) (v : Json) : Prop :=
  v.Distinct → ∀ gap depth stack, Reads nums v stack ((Parser.mk .value stack).run nums (text nums gap depth v))

/-- Reading the rest of an array, and its end. -/
def ReadsItems (nums : NumberText) (vs : List Json) : Prop :=
  DistinctItems vs → ∀ gap depth v done stack p, Reads nums v (.arr done :: stack) p →
    p.run nums (textItems nums gap (depth + 1) vs ++ newLine gap depth ++ [']']) =
      ⟨.after (.arr (done ++ v :: vs)), stack⟩

/-- Reading the rest of an object, and its end. -/
def ReadsFields (nums : NumberText) (fs : List (String × Json)) : Prop :=
  DistinctFields fs → ∀ gap depth k v done stack p, ((done ++ (k, v) :: fs).map (·.1)).Nodup →
    Reads nums v (.field done k :: stack) p →
    p.run nums (textFields nums gap (depth + 1) fs ++ newLine gap depth ++ ['\x7d']) =
      ⟨.after (.obj (done ++ (k, v) :: fs)), stack⟩

theorem readsItems_nil : ReadsItems nums [] := by
  intro _ gap depth v done stack p hp
  rw [textItems, List.nil_append, run_append, run_cons, (hp.newLine gap depth).step (by decide)]
  simp [afterValue, isWs]

theorem readsItems_cons {w : Json} {vs : List Json} (hw : ReadsText nums w) (hvs : ReadsItems nums vs) :
    ReadsItems nums (w :: vs) := by
  rintro ⟨hdw, hdvs⟩ gap depth v done stack p hp
  have hcomma : afterValue v (.arr done :: stack) ',' = ⟨.value, .arr (done ++ [v]) :: stack⟩ := by
    simp [afterValue, isWs]
  rw [textItems, List.append_assoc, List.cons_append, run_cons, hp.step (by decide), hcomma, List.append_assoc,
    List.append_assoc, run_append, run_newLine (.inl rfl), run_append, ← List.append_assoc,
    hvs hdvs gap depth w (done ++ [v]) stack _ (hw hdw gap (depth + 1) _), List.append_assoc, List.singleton_append]

theorem readsFields_nil : ReadsFields nums [] := by
  intro _ gap depth k v done stack p hkeys hp
  have hk : k ∉ done.map (·.1) := by
    rw [List.map_append, List.nodup_append] at hkeys
    exact fun hm => hkeys.2.2 k hm k (by simp) rfl
  rw [textFields, List.nil_append, run_append, run_cons, (hp.newLine gap depth).step (by decide)]
  simp [afterValue, isWs, setField_new hk]

theorem readsFields_cons {k' : String} {w : Json} {fs : List (String × Json)} (hw : ReadsText nums w)
    (hfs : ReadsFields nums fs) : ReadsFields nums ((k', w) :: fs) := by
  rintro ⟨hdw, hdfs⟩ gap depth k v done stack p hkeys hp
  have hk : k ∉ done.map (·.1) := by
    rw [List.map_append, List.nodup_append] at hkeys
    exact fun hm => hkeys.2.2 k hm k (by simp) rfl
  have hcomma : afterValue v (.field done k :: stack) ',' = ⟨.key, .obj (done ++ [(k, v)]) :: stack⟩ := by
    simp [afterValue, isWs, setField_new hk]
  rw [textFields, List.append_assoc, List.cons_append, run_cons, hp.step (by decide), hcomma]
  simp only [List.append_assoc]
  rw [run_append, run_newLine (.inr (.inr (.inr rfl))), ← List.append_assoc, run_append, run_key (.inr rfl), run_append,
    ← List.append_assoc, hfs hdfs gap depth k' w (done ++ [(k, v)]) stack _ (by simpa using hkeys) (hw hdw gap (depth + 1) _)]
  simp

theorem readsText_arr {vs : List Json} (h : ∀ v vs', vs = v :: vs' → ReadsText nums v ∧ ReadsItems nums vs') :
    ReadsText nums (.arr vs) := by
  intro hd gap depth stack
  cases vs with
  | nil =>
    rw [text, run_cons, (step_open stack).1]
    exact .after
  | cons v vs =>
    obtain ⟨hv, hvs⟩ := h v vs rfl
    have hfirst := hv hd.1 gap (depth + 1) (.arr [] :: stack)
    rw [text, run_cons, (step_open stack).1]
    simp only [List.append_assoc]
    rw [run_append, run_newLine (.inr (.inl rfl)), run_append, run_first, ← List.append_assoc,
      hvs hd.2 gap depth v [] stack _ hfirst]
    exact .after

theorem readsText_obj {fs : List (String × Json)}
    (h : ∀ k v fs', fs = (k, v) :: fs' → ReadsText nums v ∧ ReadsFields nums fs') : ReadsText nums (.obj fs) := by
  intro hd gap depth stack
  cases fs with
  | nil =>
    rw [text, run_cons, (step_open stack).2]
    exact .after
  | cons f fs =>
    obtain ⟨k, v⟩ := f
    obtain ⟨hv, hfs⟩ := h k v fs rfl
    obtain ⟨hkeys, hdv, hdfs⟩ := hd
    have hfirst := hv hdv gap (depth + 1) (.field [] k :: stack)
    rw [text, run_cons, (step_open stack).2]
    simp only [List.append_assoc]
    rw [run_append, run_newLine (.inr (.inr (.inl rfl))), ← List.append_assoc, run_append, run_key (.inl rfl), run_append,
      ← List.append_assoc, hfs hdfs gap depth k v [] stack _ hkeys hfirst]
    exact .after

theorem reads_text (v : Json) : ReadsText nums v := by
  refine @Json.rec (ReadsText nums)
    (fun vs => ReadsItems nums vs ∧ ∀ v vs', vs = v :: vs' → ReadsText nums v ∧ ReadsItems nums vs')
    (fun fs => ReadsFields nums fs ∧ ∀ k v fs', fs = (k, v) :: fs' → ReadsText nums v ∧ ReadsFields nums fs')
    (fun f => ReadsText nums f.2) ?null ?bool ?num ?str ?arr ?obj ?nil ?cons ?nilFields ?consFields ?field v
  case null => exact fun _ _ _ _ => .after
  case bool =>
    intro b _ gap depth stack
    cases b <;> exact .after
  case num => exact fun q _ gap depth stack => reads_num gap depth q stack
  case str =>
    intro s _ gap depth stack
    rw [text, quote, run_cons, (step_quote stack).1, run_quoteString]
    exact .after
  case arr => exact fun vs ih => readsText_arr ih.2
  case obj => exact fun fs ih => readsText_obj ih.2
  case nil => exact ⟨readsItems_nil, fun _ _ h => by cases h⟩
  case cons =>
    rintro v vs hv ⟨hvs, -⟩
    exact ⟨readsItems_cons hv hvs, by rintro _ _ ⟨⟩; exact ⟨hv, hvs⟩⟩
  case nilFields => exact ⟨readsFields_nil, fun _ _ _ h => by cases h⟩
  case consFields =>
    rintro ⟨k, v⟩ fs hv ⟨hfs, -⟩
    exact ⟨readsFields_cons hv hfs, by rintro _ _ _ ⟨⟩; exact ⟨hv, hfs⟩⟩
  case field => exact fun _ _ h => h

/-- `JSON.parse(JSON.stringify(v, null, gap))`. -/
theorem parse_stringify {v : Json} (hv : v.Distinct) (gap : Nat) : parse nums (stringify nums gap v) = some v := by
  have h : Reads nums v [] ((Parser.mk .value []).run nums (stringify nums gap v)) := reads_text v hv gap 0 []
  change ((Parser.mk .value []).run nums (stringify nums gap v)).result nums = some v
  generalize (Parser.mk .value []).run nums (stringify nums gap v) = p at h
  cases h with
  | after => rfl
  | num hq hread => simp [Parser.result, hread, hq]

/-! ## What is read has each property once -/

theorem distinctItems_iff {vs : List Json} : DistinctItems vs ↔ ∀ v ∈ vs, v.Distinct := by
  induction vs with
  | nil => simp [DistinctItems]
  | cons v vs ih => simp [DistinctItems, ih]

theorem distinctFields_iff {fs : List (String × Json)} : DistinctFields fs ↔ ∀ f ∈ fs, f.2.Distinct := by
  induction fs with
  | nil => simp [DistinctFields]
  | cons f fs ih => simp [DistinctFields, ih]

theorem distinct_arr {vs : List Json} : (Json.arr vs).Distinct ↔ ∀ v ∈ vs, v.Distinct := distinctItems_iff

theorem distinct_obj {fs : List (String × Json)} :
    (Json.obj fs).Distinct ↔ (fs.map (·.1)).Nodup ∧ ∀ f ∈ fs, f.2.Distinct :=
  and_congr_right fun _ => distinctFields_iff

theorem mem_of_lookup {fs : List (String × Json)} {key : String} {v : Json} (h : fs.lookup key = some v) : (key, v) ∈ fs := by
  obtain ⟨l, r, rfl, -⟩ := List.lookup_eq_some_iff.1 h
  simp

/-- A property of such a value is one. -/
theorem get?_distinct {v w : Json} {key : String} (hv : v.Distinct) (h : v.get? key = some w) : w.Distinct := by
  cases v with
  | obj fields => exact (distinct_obj.1 hv).2 _ (mem_of_lookup h)
  | _ => cases h

theorem setField_distinct {fs : List (String × Json)} (key : String) {v : Json} (hfs : (Json.obj fs).Distinct)
    (hv : v.Distinct) : (Json.obj (setField fs key v)).Distinct := by
  rw [distinct_obj] at hfs ⊢
  by_cases h : key ∈ fs.map (·.1)
  · have hmap : setField fs key v = fs.map fun f => if f.1 = key then (key, v) else f := by
      obtain ⟨f, hf, hk⟩ := List.mem_map.1 h
      exact if_pos (List.any_eq_true.2 ⟨f, hf, by simpa using hk⟩)
    have hkeys : (fs.map fun f => if f.1 = key then (key, v) else f).map (·.1) = fs.map (·.1) := by
      rw [List.map_map]
      refine List.map_congr_left fun f _ => ?_
      simp only [Function.comp_apply]
      split <;> simp [*]
    rw [hmap, hkeys]
    refine ⟨hfs.1, fun f hf => ?_⟩
    obtain ⟨f', hf', rfl⟩ := List.mem_map.1 hf
    split
    · exact hv
    · exact hfs.2 f' hf'
  · rw [setField_new h, List.map_append, List.nodup_append]
    refine ⟨⟨hfs.1, by simp, fun a ha b hb he => ?_⟩, fun f hf => ?_⟩
    · rw [List.map_cons, List.map_nil, List.mem_singleton] at hb
      rw [he, hb] at ha
      exact h ha
    · rcases List.mem_append.1 hf with hf | hf
      · exact hfs.2 f hf
      · rw [List.mem_singleton.1 hf]
        exact hv

def Frame.Distinct : Frame → Prop
  | .arr done => (Json.arr done).Distinct
  | .obj done => (Json.obj done).Distinct
  | .field done _ => (Json.obj done).Distinct

def Mode.Distinct : Mode → Prop
  | .word _ v => v.Distinct
  | .after v => v.Distinct
  | _ => True

structure Parser.Distinct (p : Parser) : Prop where
  mode : p.mode.Distinct
  stack : ∀ f ∈ p.stack, f.Distinct

theorem distinct_fail : fail.Distinct := ⟨trivial, by simp [fail]⟩

section
variable {stack : List Frame} {c : Char}

theorem begin_distinct (hs : ∀ f ∈ stack, f.Distinct) (c : Char) : (begin stack c).Distinct := by
  have hopen : ∀ f : Frame, f.Distinct → ∀ g ∈ f :: stack, g.Distinct := by
    intro f hf g hg
    rcases List.mem_cons.1 hg with rfl | hg
    · exact hf
    · exact hs g hg
  unfold begin
  split
  · exact ⟨trivial, hs⟩
  split
  · exact ⟨trivial, hopen _ (distinct_arr.2 (by simp))⟩
  split
  · exact ⟨trivial, hopen _ (distinct_obj.2 (by simp))⟩
  split
  · exact ⟨trivial, hs⟩
  split
  · exact ⟨trivial, hs⟩
  split
  · exact ⟨trivial, hs⟩
  split
  · exact ⟨trivial, hs⟩
  · exact distinct_fail

theorem afterValue_distinct {v : Json} (hv : v.Distinct) (hs : ∀ f ∈ stack, f.Distinct) (c : Char) :
    (afterValue v stack c).Distinct := by
  unfold afterValue
  split
  · exact ⟨hv, hs⟩
  · cases stack with
    | nil => exact distinct_fail
    | cons f stack =>
      have hf := hs f (List.mem_cons_self ..)
      have hrest : ∀ g ∈ stack, g.Distinct := fun g hg => hs g (List.mem_cons_of_mem _ hg)
      have hpush : ∀ f' : Frame, f'.Distinct → ∀ g ∈ f' :: stack, g.Distinct := by
        intro f' hf' g hg
        rcases List.mem_cons.1 hg with rfl | hg
        · exact hf'
        · exact hrest g hg
      cases f with
      | arr done =>
        have hdone : (Json.arr (done ++ [v])).Distinct := by
          refine distinct_arr.2 fun w hw => ?_
          rcases List.mem_append.1 hw with hw | hw
          · exact distinct_arr.1 hf w hw
          · rw [List.mem_singleton.1 hw]
            exact hv
        dsimp only
        split
        · exact ⟨trivial, hpush _ hdone⟩
        split
        · exact ⟨hdone, hrest⟩
        · exact distinct_fail
      | obj done => exact distinct_fail
      | field done key =>
        have hdone := setField_distinct key hf hv
        dsimp only
        split
        · exact ⟨trivial, hpush _ hdone⟩
        split
        · exact ⟨hdone, hrest⟩
        · exact distinct_fail

end

theorem word_distinct {rest : List Char} {v : Json} {stack : List Frame} (hv : v.Distinct)
    (hs : ∀ f ∈ stack, f.Distinct) (c : Char) : ((Parser.mk (.word rest v) stack).step nums c).Distinct := by
  unfold Parser.step
  dsimp only
  split
  · exact distinct_fail
  · split
    · exact ⟨hv, hs⟩
    · exact distinct_fail
  · split
    · exact ⟨hv, hs⟩
    · exact distinct_fail

theorem str_distinct {isKey : Bool} {lit : Literal} {stack : List Frame} (hs : ∀ f ∈ stack, f.Distinct) (c : Char) :
    ((Parser.mk (.str isKey lit) stack).step nums c).Distinct := by
  have hkey : ∀ key, (closeKey stack key).Distinct := by
    intro key
    unfold closeKey
    split
    · exact ⟨trivial, hs⟩
    · exact distinct_fail
  unfold Parser.step
  dsimp only
  split
  · split
    · split
      · exact hkey _
      · exact ⟨trivial, hs⟩
    · split
      · exact ⟨trivial, hs⟩
      · exact distinct_fail
  · split
    · exact ⟨trivial, hs⟩
    · exact distinct_fail

theorem step_distinct {p : Parser} (h : p.Distinct) (c : Char) : (p.step nums c).Distinct := by
  obtain ⟨mode, stack⟩ := p
  obtain ⟨hmode, hs⟩ := h
  cases mode with
  | word rest v => exact word_distinct hmode hs c
  | str isKey lit => exact str_distinct hs c
  | after v => exact afterValue_distinct hmode hs c
  | failed => exact distinct_fail
  | value =>
    unfold Parser.step
    dsimp only
    split
    · exact ⟨trivial, hs⟩
    · exact begin_distinct hs c
  | first =>
    unfold Parser.step
    dsimp only
    split
    · exact ⟨trivial, hs⟩
    split
    · split
      · exact ⟨hs _ (List.mem_cons_self ..), fun f hf => hs f (List.mem_cons_of_mem _ hf)⟩
      · exact distinct_fail
    · exact begin_distinct hs c
  | firstKey =>
    unfold Parser.step
    dsimp only
    split
    · exact ⟨trivial, hs⟩
    split
    · exact ⟨trivial, hs⟩
    split
    · split
      · exact ⟨hs _ (List.mem_cons_self ..), fun f hf => hs f (List.mem_cons_of_mem _ hf)⟩
      · exact distinct_fail
    · exact distinct_fail
  | key =>
    unfold Parser.step
    dsimp only
    split
    · exact ⟨trivial, hs⟩
    split
    · exact ⟨trivial, hs⟩
    · exact distinct_fail
  | colon key =>
    unfold Parser.step
    dsimp only
    split
    · exact ⟨trivial, hs⟩
    split
    · split
      · refine ⟨trivial, fun f hf => ?_⟩
        rcases List.mem_cons.1 hf with rfl | hf
        · exact hs (.obj _) (List.mem_cons_self ..)
        · exact hs f (List.mem_cons_of_mem _ hf)
      · exact distinct_fail
    · exact distinct_fail
  | num token =>
    unfold Parser.step
    dsimp only
    split
    · exact ⟨trivial, hs⟩
    split
    · exact afterValue_distinct (v := .num _) trivial hs c
    · exact distinct_fail

theorem run_distinct {p : Parser} (h : p.Distinct) (s : List Char) : (p.run nums s).Distinct := by
  induction s generalizing p with
  | nil => exact h
  | cons c s ih => exact ih (step_distinct h c)

theorem parse_distinct {s : List Char} {v : Json} (h : parse nums s = some v) : v.Distinct := by
  have hstart : (Parser.mk .value []).Distinct := ⟨trivial, by simp⟩
  have hrun : ((Parser.mk .value []).run nums s).Distinct := run_distinct hstart s
  change ((Parser.mk .value []).run nums s).result nums = some v at h
  unfold Parser.result at h
  split at h
  · rename_i hmode _
    cases h
    have hv := hrun.mode
    rw [hmode] at hv
    exact hv
  · obtain ⟨q, -, rfl⟩ := Option.map_eq_some_iff.1 h
    trivial
  · cases h

end

/-- Numbers in unary, for concrete runs. -/
def NumberText.unary : NumberText where
  print q := List.replicate (Encodable.encode q + 1) '1'
  read token := Encodable.decode (token.length - 1)
  read_print q := by simp
  print_ne q := by simp
  print_chars q c hc := by
    rw [List.eq_of_mem_replicate hc]
    decide

end Tactix.Js
