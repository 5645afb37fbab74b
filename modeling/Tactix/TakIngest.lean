import Mathlib.Data.List.Perm.Basic
import Tactix.Files
import Tactix.Lib.Entries
import Tactix.Lib.Lists
/-!
# The message loaders

`loadFromS3` takes the objects one listing of a bucket gives, `loadFromLocal` the `.json`
files of a directory. `loaders_agree_iff` says for which files they load the same messages.
-/
open Tactix.Js ServiceLib

namespace Tactix.TakIngest

/-- The entries of a message in order. -/
abbrev Message := List (String × Json)

/-! ## One message -/

/-- What both loaders use: texts, and the entries `{...s}` gives for a string. -/
structure Runtime where
  texts : Texts
  characters : String → Message

/-- `a || b`. -/
def orJson (a b : Option Json) : Option Json := if truthy a then a else b

/-- `json.message || (json.ACMREQ && json.ACMREQ.message) || ''`. -/
def messageOf (json : Json) : Json :=
  let acmreq := json.get? "ACMREQ"
  let nested := if truthy acmreq then acmreq.bind (·.get? "message") else acmreq
  ((orJson (orJson (json.get? "message") nested)) (some (.str ""))).getD (.str "")

/-- `{ ...json }`. -/
def spread (rt : Runtime) : Json → Message
  | .obj fields => fields
  | .arr items => items.mapIdx fun i v => (toString i, v)
  | .str s => rt.characters s
  | .null | .bool _ | .num _ => []

/-- The message of a file, unless its text is no JSON or it is `null`, which has no properties. -/
def loadOne (rt : Runtime) (folder : String) (bytes : List UInt8) : Option Message :=
  match rt.texts.json bytes with
  | none | some .null => none
  | some json => some (setEntry (setEntry (spread rt json) "folder" (.str folder)) "message" (messageOf json))

/-! ## The loaders -/

structure S3Object where
  Key : String
  Body : List UInt8

structure Listing where
  Contents : List S3Object
  IsTruncated : Bool

/-- `ListObjectsV2Command`, for a bucket in the order of its keys. -/
def listObjectsV2 (bucket : List S3Object) (start : String) : Listing :=
  let found := bucket.filter fun o => startsWith o.Key start
  ⟨found.take 1000, decide (1000 < found.length)⟩

/-- `GetObjectCommand`. -/
def getObject (bucket : List S3Object) (key : String) : Option (List UInt8) := (bucket.find? (·.Key = key)).map (·.Body)

/-- `prefix.replace(/\/$/, '')`. -/
def dropSlash (start : String) : String :=
  if start.toList.getLast? = some '/' then String.ofList start.toList.dropLast else start

/-- The messages, unless something throws. -/
def loadFromS3 (rt : Runtime) (bucket : List S3Object) (prefixes : List String) : Option (List Message) :=
  (prefixes.mapM fun start =>
    (listObjectsV2 bucket start).Contents.mapM fun obj =>
      (getObject bucket obj.Key).bind (loadOne rt (dropSlash start))).map List.flatten

structure File where
  name : String
  bytes : List UInt8

def endsWith (s p : String) : Bool := p.toList.isSuffixOf s.toList

/-- `readdir` gives the files of a directory in any order. -/
def loadFromLocal (rt : Runtime) (readdir : String → List File) (folders : List String) : Option (List Message) :=
  (folders.mapM fun folder =>
    ((readdir folder).filter fun f => endsWith f.name ".json").mapM fun f => loadOne rt folder f.bytes).map List.flatten

def folders : List String := ["NATO", "Canada"]

/-! ## One collection in both places -/

/-- Files directly under the folders, with JSON objects in the `.json` ones. -/
structure Collection (rt : Runtime) where
  files : String → List File
  distinct : ∀ folder, ((files folder).map (·.name)).Nodup
  direct : ∀ folder, ∀ f ∈ files folder, '/' ∉ f.name.toList
  objects : ∀ folder, ∀ f ∈ files folder, endsWith f.name ".json" = true → ∃ fields, rt.texts.json f.bytes = some (.obj fields)

def File.object (folder : String) (f : File) : S3Object := ⟨folder ++ "/" ++ f.name, f.bytes⟩

def Collection.bucket {rt : Runtime} (c : Collection rt) : List S3Object :=
  (folders.flatMap fun folder => (c.files folder).map (·.object folder)).mergeSort fun a b => decide (a.Key ≤ b.Key)

/-- Both load, and the same messages up to order. -/
def Agree (a b : Option (List Message)) : Prop := ∃ xs ys, a = some xs ∧ b = some ys ∧ xs.Perm ys

section
variable {rt : Runtime} (c : Collection rt)

/-- The objects of a folder in the order of their keys. -/
def Collection.inFolder (folder : String) : List S3Object := c.bucket.filter fun o => startsWith o.Key (folder ++ "/")

/-- What the objects of the folders load. -/
def loaded (rt : Runtime) (objects : String → List S3Object) : List (Option Message) :=
  folders.flatMap fun folder => (objects folder).map fun o => loadOne rt folder o.Body

/-- The first thousand objects of the folders whose names do not end in `.json` load just what the `.json` ones
after the first thousand do. -/
def Balanced : Prop :=
  (loaded rt fun folder => ((c.inFolder folder).take 1000).filter fun o => !endsWith o.Key ".json").Perm
    (loaded rt fun folder => ((c.inFolder folder).drop 1000).filter fun o => endsWith o.Key ".json")

end

/-! ## Names and keys -/

theorem dropSlash_append (folder : String) : dropSlash (folder ++ "/") = folder := by
  have hlist : (folder ++ "/").toList = folder.toList ++ ['/'] := by simp
  rw [dropSlash, hlist, if_pos List.getLast?_concat, List.dropLast_concat, String.ofList_toList]

/-- The end of a key is the end of the name, when it has no slash. -/
theorem endsWith_key {folder name p : String} (hp : '/' ∉ p.toList) :
    endsWith (folder ++ "/" ++ name) p = endsWith name p := by
  have hlist : (folder ++ "/" ++ name).toList = folder.toList ++ '/' :: name.toList := by simp
  rw [endsWith, endsWith, Bool.eq_iff_iff, List.isSuffixOf_iff_suffix, List.isSuffixOf_iff_suffix, hlist]
  constructor
  · intro h
    rcases List.suffix_or_suffix_of_suffix h (List.suffix_append ..) with hshort | hlong
    · rcases List.suffix_cons_iff.1 hshort with heq | hname
      · exact absurd (heq ▸ List.mem_cons_self) hp
      · exact hname
    · exact absurd (hlong.subset List.mem_cons_self) hp
  · intro h
    exact (h.trans (List.suffix_cons ..)).trans (List.suffix_append ..)

theorem startsWith_key {folder folder' : String} (h : folder ∈ folders) (h' : folder' ∈ folders) (name : String) :
    startsWith (folder' ++ "/" ++ name) (folder ++ "/") = decide (folder' = folder) := by
  simp only [folders, List.mem_cons, List.not_mem_nil, or_false] at h h'
  rcases h with rfl | rfl <;> rcases h' with rfl | rfl <;> simp [startsWith, List.isPrefixOf]

theorem object_key_inj {folder : String} {f f' : File} (h : (f.object folder).Key = (f'.object folder).Key) :
    f.name = f'.name := by
  have hlist := congrArg String.toList h
  simp only [File.object, String.toList_append, List.append_assoc, List.append_cancel_left_eq] at hlist
  exact String.toList_injective hlist

/-! ## The bucket -/

section
variable {rt : Runtime} (c : Collection rt)

theorem bucket_perm : c.bucket.Perm (folders.flatMap fun folder => (c.files folder).map (·.object folder)) :=
  List.mergeSort_perm ..

/-- A folder's objects are its files. -/
theorem inFolder_perm {folder : String} (h : folder ∈ folders) :
    (c.inFolder folder).Perm ((c.files folder).map (·.object folder)) := by
  have hothers : ∀ folder' ∈ folders, ((c.files folder').map (·.object folder')).filter
      (fun o => startsWith o.Key (folder ++ "/")) = if folder' = folder then (c.files folder').map (·.object folder') else [] := by
    intro folder' h'
    rw [List.filter_map]
    simp only [Function.comp_def, File.object, startsWith_key h h']
    split <;> simp [*]
  refine ((bucket_perm c).filter _).trans ?_
  rw [List.filter_flatMap, List.flatMap_congr hothers]
  simp only [folders, List.mem_cons, List.not_mem_nil, or_false] at h
  rcases h with rfl | rfl <;> simp [folders]

theorem keys_nodup : (c.bucket.map (·.Key)).Nodup := by
  rw [((bucket_perm c).map _).nodup_iff, List.map_flatMap, List.nodup_flatMap]
  constructor
  · intro folder _
    rw [List.map_map]
    refine List.Nodup.map_on (fun f hf f' hf' hkey => ?_) ((c.distinct folder).of_map _)
    exact List.inj_on_of_nodup_map (c.distinct folder) hf hf' (object_key_inj hkey)
  · have hfolders : folders.Nodup := by decide
    refine List.Pairwise.imp_of_mem (fun {folder folder'} h h' hne => ?_) hfolders
    intro key hkey hkey'
    simp only [List.map_map, List.mem_map, Function.comp_apply] at hkey hkey'
    obtain ⟨f, -, rfl⟩ := hkey
    obtain ⟨f', -, hsame⟩ := hkey'
    have hstart := congrArg (startsWith · (folder ++ "/")) hsame
    simp only [File.object, startsWith_key h h, startsWith_key h h'] at hstart
    exact hne (of_decide_eq_true (hstart.trans (by simp))).symm

/-- What is listed is found under its key. -/
theorem getObject_listed {folder : String} {o : S3Object} (ho : o ∈ c.inFolder folder) :
    getObject c.bucket o.Key = some o.Body := by
  have hmem : o ∈ c.bucket := (List.mem_filter.1 ho).1
  cases hfind : c.bucket.find? (·.Key = o.Key) with
  | none => exact absurd (List.find?_eq_none.1 hfind o hmem) (by simp)
  | some o' =>
    have hkey : o'.Key = o.Key := by simpa using List.find?_some hfind
    rw [getObject, hfind, List.inj_on_of_nodup_map (keys_nodup c) (List.mem_of_find?_eq_some hfind) hmem hkey]
    rfl

/-! ## What is loaded -/

theorem loadFromS3_eq_some {r : List Message} :
    loadFromS3 rt c.bucket (folders.map (· ++ "/")) = some r ↔
      loaded rt (fun folder => (c.inFolder folder).take 1000) = r.map some := by
  have hsame : ∀ folder ∈ folders, (listObjectsV2 c.bucket (folder ++ "/")).Contents.map
      (fun obj => (getObject c.bucket obj.Key).bind (loadOne rt (dropSlash (folder ++ "/")))) =
      ((c.inFolder folder).take 1000).map fun o => loadOne rt folder o.Body := by
    intro folder _
    refine List.map_congr_left fun o ho => ?_
    rw [dropSlash_append, getObject_listed c (List.mem_of_mem_take ho), Option.bind_some]
  rw [loadFromS3, flatMapM_eq_some, List.flatMap_map, List.flatMap_congr hsame, loaded]

theorem loadFromLocal_eq_some {r : List Message} :
    loadFromLocal rt c.files folders = some r ↔
      loaded rt (fun folder => ((c.files folder).map (·.object folder)).filter fun o => endsWith o.Key ".json") = r.map some := by
  rw [loadFromLocal, flatMapM_eq_some, loaded]
  have hname : ∀ folder, ((fun o : S3Object => endsWith o.Key ".json") ∘ fun f : File => f.object folder) =
      fun f => endsWith f.name ".json" := fun folder => funext fun f => endsWith_key (by decide)
  simp only [List.filter_map, hname, List.map_map]
  rfl

/-- Every `.json` file loads. -/
theorem json_loads : ∃ r : List Message,
    loaded rt (fun folder => ((c.files folder).map (·.object folder)).filter fun o => endsWith o.Key ".json") = r.map some := by
  refine exists_map_some fun m hm => ?_
  obtain ⟨folder, -, hm⟩ := List.mem_flatMap.1 hm
  obtain ⟨o, ho, rfl⟩ := List.mem_map.1 hm
  obtain ⟨hfile, hjson⟩ := List.mem_filter.1 ho
  obtain ⟨f, hf, rfl⟩ := List.mem_map.1 hfile
  obtain ⟨fields, hfields⟩ := c.objects folder f hf ((endsWith_key (by decide)).symm.trans hjson)
  simp only [File.object, loadOne, hfields]
  exact ⟨_, rfl⟩

/-- The loaders agree just when what they load is the same, errors included. -/
theorem agree_iff_perm : Agree (loadFromS3 rt c.bucket (folders.map (· ++ "/"))) (loadFromLocal rt c.files folders) ↔
    (loaded rt fun folder => (c.inFolder folder).take 1000).Perm
      (loaded rt fun folder => ((c.files folder).map (·.object folder)).filter fun o => endsWith o.Key ".json") := by
  obtain ⟨ys, hys⟩ := json_loads c
  constructor
  · rintro ⟨xs, ys', hxs, hys', hperm⟩
    rw [loadFromS3_eq_some] at hxs
    rw [loadFromLocal_eq_some] at hys'
    rw [hxs, hys']
    exact hperm.map _
  · intro hperm
    rw [hys] at hperm
    have hall : ∀ m ∈ loaded rt fun folder => (c.inFolder folder).take 1000, ∃ message, m = some message := by
      intro m hm
      obtain ⟨y, -, rfl⟩ := List.mem_map.1 (hperm.mem_iff.1 hm)
      exact ⟨y, rfl⟩
    obtain ⟨xs, hxs⟩ := exists_map_some hall
    rw [hxs, List.map_perm_map_iff (Option.some_injective _)] at hperm
    exact ⟨xs, ys, (loadFromS3_eq_some c).2 hxs, (loadFromLocal_eq_some c).2 hys, hperm⟩

/-- The messages of some objects are those of its parts. -/
theorem loaded_append {a b objects : String → List S3Object} (h : ∀ folder ∈ folders, (a folder ++ b folder).Perm (objects folder)) :
    (loaded rt a ++ loaded rt b).Perm (loaded rt objects) := by
  refine (List.flatMap_append_perm ..).trans (List.Perm.flatMap_left _ fun folder hfolder => ?_)
  rw [← List.map_append]
  exact (h folder hfolder).map _

/-- The objects of a list by whether their names end in `.json`. -/
theorem loaded_split (objects : String → List S3Object) :
    (loaded rt (fun folder => (objects folder).filter fun o => endsWith o.Key ".json") ++
      loaded rt fun folder => (objects folder).filter fun o => !endsWith o.Key ".json").Perm (loaded rt objects) :=
  loaded_append fun _ _ => List.filter_append_perm ..

/-- The `.json` files are those among the first thousand and those after them. -/
theorem loaded_json :
    (loaded rt (fun folder => ((c.inFolder folder).take 1000).filter fun o => endsWith o.Key ".json") ++
      loaded rt fun folder => ((c.inFolder folder).drop 1000).filter fun o => endsWith o.Key ".json").Perm
    (loaded rt fun folder => ((c.files folder).map (·.object folder)).filter fun o => endsWith o.Key ".json") := by
  refine loaded_append fun folder hfolder => ?_
  rw [← List.filter_append, List.take_append_drop]
  exact (inFolder_perm c hfolder).filter _

end

/-- Both load the same messages just when the first thousand objects of the folders hold, besides `.json` ones,
exactly the messages of the `.json` files after them. -/
theorem loaders_agree_iff {rt : Runtime} (c : Collection rt) :
    Agree (loadFromS3 rt c.bucket (folders.map (· ++ "/"))) (loadFromLocal rt c.files folders) ↔ Balanced c := by
  have hlisted := @loaded_split rt fun folder => (c.inFolder folder).take 1000
  have hlocal := loaded_json c
  calc Agree (loadFromS3 rt c.bucket (folders.map (· ++ "/"))) (loadFromLocal rt c.files folders)
    _ ↔ _ := agree_iff_perm c
    _ ↔ _ := hlisted.symm.congr_left _
    _ ↔ _ := hlocal.symm.congr_right _
    _ ↔ Balanced c := List.perm_append_left_iff _

/-- So they do with at most a thousand files in each folder, and `.json` ones only. -/
theorem balanced_of_tidy {rt : Runtime} {c : Collection rt} (hfew : ∀ folder ∈ folders, (c.files folder).length ≤ 1000)
    (hjson : ∀ folder ∈ folders, ∀ f ∈ c.files folder, endsWith f.name ".json" = true) : Balanced c := by
  have hplain : (loaded rt fun folder => ((c.inFolder folder).take 1000).filter fun o => !endsWith o.Key ".json") = [] := by
    refine List.flatMap_eq_nil_iff.2 fun folder hfolder => List.map_eq_nil_iff.2 (List.filter_eq_nil_iff.2 fun o ho => ?_)
    obtain ⟨f, hf, rfl⟩ := List.mem_map.1 ((inFolder_perm c hfolder).mem_iff.1 (List.mem_of_mem_take ho))
    have hend : endsWith (f.object folder).Key ".json" = true := (endsWith_key (by decide)).trans (hjson folder hfolder f hf)
    simp [hend]
  have hrest : (loaded rt fun folder => ((c.inFolder folder).drop 1000).filter fun o => endsWith o.Key ".json") = [] := by
    refine List.flatMap_eq_nil_iff.2 fun folder hfolder => ?_
    have hlen : (c.inFolder folder).length ≤ 1000 := by
      rw [(inFolder_perm c hfolder).length_eq, List.length_map]
      exact hfew folder hfolder
    simp only [List.drop_eq_nil_of_le hlen, List.filter_nil, List.map_nil]
  rw [Balanced, hplain, hrest]

def plainRuntime : Runtime := ⟨⟨.unary, fun _ => ""⟩, fun _ => []⟩

def readme : File := ⟨"README.txt", utf8 "Sample messages"⟩

/-- A note that is no message, in one of the folders. -/
def untidy : Collection plainRuntime where
  files folder := if folder = "NATO" then [readme] else []
  distinct folder := by split <;> simp
  direct folder f hf := by
    split at hf
    · rw [List.mem_singleton.1 hf]
      decide
    · exact absurd hf List.not_mem_nil
  objects folder f hf hjson := by
    split at hf
    · rw [List.mem_singleton.1 hf] at hjson
      exact absurd hjson (by decide)
    · exact absurd hf List.not_mem_nil

/-- S3 loads it, or tries to. -/
theorem loaders_differ : ¬ ∀ (rt : Runtime) (c : Collection rt),
    Agree (loadFromS3 rt c.bucket (folders.map (· ++ "/"))) (loadFromLocal rt c.files folders) := by
  intro h
  have hperm := (agree_iff_perm untidy).1 (h plainRuntime untidy)
  have hlocal : (loaded plainRuntime fun folder =>
      ((untidy.files folder).map (·.object folder)).filter fun o => endsWith o.Key ".json") = [] := by
    have hend : endsWith (readme.object "NATO").Key ".json" = false := by decide
    simp [loaded, folders, untidy, hend]
  rw [hlocal] at hperm
  have hnone := List.flatMap_eq_nil_iff.1 hperm.eq_nil "NATO" (by decide)
  have hNato : (untidy.inFolder "NATO").length = 1 := (inFolder_perm untidy (by decide)).length_eq
  simp [List.eq_nil_iff_length_eq_zero, hNato] at hnone

end Tactix.TakIngest
