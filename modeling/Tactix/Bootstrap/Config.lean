import Tactix.Files
/-!
# The configuration of `bootstrap-svc`

`ConfigSchema`, the default, and the text of the file: a configuration that is
written and read again is the same.
-/
open Tactix.Js

namespace Tactix.Bootstrap

inductive Mode where
  | single
  | server
  | client
  deriving DecidableEq

structure Discovery where
  lan : Bool
  cloud : Bool

structure Server where
  announce : Bool

structure PinnedServer where
  id : String
  fingerprint : String
  url : String
  addedAt : String

structure Config where
  mode : Mode
  ldap : List (String × Json)
  discovery : Discovery
  server : Server
  pinnedServers : List PinnedServer

def defaultConfig : Config := ⟨.single, [], ⟨true, false⟩, ⟨true⟩, []⟩

/-! ## `ConfigSchema` -/

def Mode.name : Mode → String
  | .single => "single"
  | .server => "server"
  | .client => "client"

def Mode.ofName? (s : String) : Option Mode := [Mode.single, .server, .client].find? (·.name = s)

def bool? : Option Json → Option Bool
  | some (.bool b) => some b
  | _ => none

/-- `z.record(z.any())`, which leaves out a key that would set the prototype. -/
def record? : Option Json → Option (List (String × Json))
  | some (.obj fields) => some (fields.filter (·.1 ≠ "__proto__"))
  | _ => none

def PinnedServer.parse (v : Json) : Option PinnedServer := do
  let id ← str? (v.get? "id")
  let fingerprint ← str? (v.get? "fingerprint")
  let url ← str? (v.get? "url")
  let addedAt ← str? (v.get? "addedAt")
  return ⟨id, fingerprint, url, addedAt⟩

def servers? : Option Json → Option (List PinnedServer)
  | some (.arr items) => items.mapM PinnedServer.parse
  | _ => none

/-- `ConfigSchema.parse`; `none` when it throws. -/
def Config.parse (v : Json) : Option Config := do
  let mode ← (str? (v.get? "mode")).bind Mode.ofName?
  let ldap ← record? (v.get? "ldap")
  let discovery ← v.get? "discovery"
  let lan ← bool? (discovery.get? "lan")
  let cloud ← bool? (discovery.get? "cloud")
  let server ← v.get? "server"
  let announce ← bool? (server.get? "announce")
  let pinnedServers ← servers? (v.get? "pinnedServers")
  return ⟨mode, ldap, ⟨lan, cloud⟩, ⟨announce⟩, pinnedServers⟩

def PinnedServer.json (s : PinnedServer) : Json :=
  .obj [("id", .str s.id), ("fingerprint", .str s.fingerprint), ("url", .str s.url), ("addedAt", .str s.addedAt)]

def Config.json (cfg : Config) : Json :=
  .obj [("mode", .str cfg.mode.name), ("ldap", .obj cfg.ldap),
    ("discovery", .obj [("lan", .bool cfg.discovery.lan), ("cloud", .bool cfg.discovery.cloud)]),
    ("server", .obj [("announce", .bool cfg.server.announce)]),
    ("pinnedServers", .arr (cfg.pinnedServers.map PinnedServer.json))]

/-- What `ConfigSchema` returns for a value that was parsed. -/
structure Config.Parsed (cfg : Config) : Prop where
  distinct : (Json.obj cfg.ldap).Distinct
  proto : "__proto__" ∉ cfg.ldap.map (·.1)

theorem Mode.ofName?_name (m : Mode) : Mode.ofName? m.name = some m := by
  cases m <;> decide

theorem servers?_json (servers : List PinnedServer) :
    servers? (some (.arr (servers.map PinnedServer.json))) = some servers := by
  change (servers.map PinnedServer.json).mapM PinnedServer.parse = some servers
  induction servers with
  | nil => rfl
  | cons s servers ih =>
    rw [List.map_cons, List.mapM_cons, ih]
    rfl

theorem record?_obj {fields : List (String × Json)} (h : "__proto__" ∉ fields.map (·.1)) :
    record? (some (.obj fields)) = some fields := by
  refine congrArg some (List.filter_eq_self.2 fun f hf => ?_)
  rw [decide_eq_true_eq]
  rintro he
  exact h (he ▸ List.mem_map_of_mem hf)

/-- A configuration passes its own schema unchanged. -/
theorem parse_json {cfg : Config} (h : cfg.Parsed) : Config.parse cfg.json = some cfg := by
  obtain ⟨mode, ldap, ⟨lan, cloud⟩, ⟨announce⟩, servers⟩ := cfg
  unfold Config.parse
  change (Mode.ofName? mode.name).bind (fun m => (record? (some (.obj ldap))).bind fun l =>
    (servers? (some (.arr (servers.map PinnedServer.json)))).bind fun ss => some _) = _
  rw [Mode.ofName?_name, record?_obj h.proto, servers?_json]
  rfl

theorem config_distinct {cfg : Config} (h : cfg.Parsed) : cfg.json.Distinct := by
  refine distinct_obj.2 ⟨by simp, ?_⟩
  have hservers : (Json.arr (cfg.pinnedServers.map PinnedServer.json)).Distinct := by
    refine distinct_arr.2 fun v hv => ?_
    obtain ⟨s, -, rfl⟩ := List.mem_map.1 hv
    simp [PinnedServer.json, Json.Distinct, DistinctFields]
  simp only [List.forall_mem_cons]
  refine ⟨trivial, h.distinct, ?_, ?_, hservers, by simp⟩
  · simp [Json.Distinct, DistinctFields]
  · simp [Json.Distinct, DistinctFields]

theorem record?_parsed {v : Json} (hv : v.Distinct) {key : String} {fields : List (String × Json)}
    (h : record? (v.get? key) = some fields) : (Json.obj fields).Distinct ∧ "__proto__" ∉ fields.map (·.1) := by
  unfold record? at h
  split at h
  · rename_i all hall
    obtain rfl := Option.some.inj h
    obtain ⟨hn, hd⟩ := distinct_obj.1 (get?_distinct hv hall)
    refine ⟨distinct_obj.2 ⟨hn.sublist (List.filter_sublist.map _), fun f hf => hd f (List.mem_of_mem_filter hf)⟩, ?_⟩
    simp [List.mem_filter]
  · cases h

theorem parse_parsed {v : Json} (hv : v.Distinct) {cfg : Config} (h : Config.parse v = some cfg) : cfg.Parsed := by
  unfold Config.parse at h
  simp only [Option.bind_eq_bind, Option.bind_eq_some_iff] at h
  obtain ⟨mode, -, ldap, hldap, discovery, -, lan, -, cloud, -, server, -, announce, -, servers, -, he⟩ := h
  obtain rfl := Option.some.inj he
  obtain ⟨hd, hp⟩ := record?_parsed hv hldap
  exact ⟨hd, hp⟩

/-! ## The file -/

/-- What `writeConfig` puts in the file. -/
def Config.bytes (texts : Texts) (cfg : Config) : List UInt8 := texts.bytes cfg.json

/-- What `readConfig` makes of the bytes it has read. -/
def Config.ofBytes (texts : Texts) (bytes : List UInt8) : Config :=
  ((texts.json bytes).bind Config.parse).getD defaultConfig

/-- No file it writes is empty. -/
theorem bytes_ne_nil (texts : Texts) (cfg : Config) : cfg.bytes texts ≠ [] := by
  intro h
  have hempty := congrArg texts.decode h
  rw [Config.bytes, Texts.bytes, decode_utf8, show texts.decode [] = "" from decode_utf8 texts ""] at hempty
  have htext : stringify texts.nums 2 cfg.json = [] := by simpa using congrArg String.toList hempty
  cases htext

theorem ofBytes_bytes (texts : Texts) {cfg : Config} (h : cfg.Parsed) : Config.ofBytes texts (cfg.bytes texts) = cfg := by
  rw [Config.ofBytes, Config.bytes, json_bytes texts (config_distinct h), Option.bind_some, parse_json h]
  rfl

end Tactix.Bootstrap
