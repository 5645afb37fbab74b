import Tactix.Discovery.Invites
import Tactix.Lib.Entries
import Tactix.Lib.Runs
/-!
# Servers on the network

`discovery-svc` keeps the servers it sees, and itself when it announces, and forgets what it
has not seen for a minute. `servers_good_iff`: all along a run `GET /discovery/servers` gives what has
been seen in the last minute, and this server while it announces, just when the clock does
not pass a minute without a sighting of this server while it announces, and no announcement
is asked for again before `DELETE`.
-/
open Tactix.Js ServiceLib

namespace Tactix.Discovery

structure ServerInfo where
  serverId : String
  name : String
  url : String
  tls : Bool
  fingerprint : String
  lastSeen : Nat
  source : String

/-- What `bonjour.find` reports: the `txt` record and where it comes from. -/
structure Service where
  name : String
  id : Option String
  fp : Option String
  tls : Option String
  address : String
  port : Nat

structure State where
  now : Nat
  /-- `discovered`, in the order of insertion. -/
  discovered : List (String × ServerInfo)
  /-- `ad` is not `null`. -/
  ad : Bool
  /-- Every sighting and every announcement that was answered `ok`. -/
  sightings : List ServerInfo

def State.init (now : Nat) : State := ⟨now, [], false, []⟩

/-- The record of a service. -/
def Service.info (service : Service) (now : Nat) : ServerInfo :=
  ⟨(orString service.id none).getD service.name, service.name, "http://" ++ service.address ++ ":" ++ toString service.port,
    service.tls = some "true", (orString service.fp none).getD "", now, "mdns"⟩

/-- The record of the server itself. -/
def Server.info (server : Server) (now : Nat) : ServerInfo :=
  ⟨server.serverId, server.SERVER_NAME, server.SERVER_URL, false, server.fingerprint, now, "mdns"⟩

def State.see (s : State) (info : ServerInfo) : State :=
  { s with discovered := setEntry s.discovered info.serverId info, sightings := s.sightings ++ [info] }

def prune (s : State) : State :=
  { s with discovered := s.discovered.filter fun e => ¬ 60000 < s.now - e.2.lastSeen }

/-- `POST /discovery/announce`. `publishes` is whether neither `new URL` nor `bonjour.publish` throws. -/
def announce (server : Server) (s : State) (publishes : Bool) : State :=
  if s.ad then { s with sightings := s.sightings ++ [server.info s.now] }
  else if publishes then { s.see (server.info s.now) with ad := true }
  else s

def stopAnnounce (s : State) : State := { s with ad := false }

/-- The answer to `GET /discovery/servers`. -/
def getServers (s : State) : List ServerInfo := (prune s).discovered.map (·.2)

inductive Action where
  | tick (n : Nat)
  | find (service : Service)
  | announce (publishes : Bool)
  | stopAnnounce
  | prune
  | getServers

def State.next (server : Server) (s : State) : Action → State
  | .tick n => { s with now := s.now + n }
  | .find service => s.see (service.info s.now)
  | .announce publishes => Discovery.announce server s publishes
  | .stopAnnounce => Discovery.stopAnnounce s
  | .prune => Discovery.prune s
  | .getServers => Discovery.prune s

/-! ## What a reader may expect -/

/-- The last sighting of a server. -/
def latest (sightings : List ServerInfo) (id : String) : Option ServerInfo := (sightings.filter (·.serverId = id)).getLast?

def State.latest (s : State) (id : String) : Option ServerInfo := Discovery.latest s.sightings id

/-- It was within the last minute. -/
def State.Recent (s : State) (info : ServerInfo) : Prop := s.now - info.lastSeen ≤ 60000

/-- An answer has each server of the last minute once, by its latest sighting, and this one while it announces. -/
structure Good (server : Server) (s : State) : Prop where
  once : ((getServers s).map (·.serverId)).Nodup
  ids : ∀ id, id ∈ (getServers s).map (·.serverId) ↔ ∃ info ∈ s.sightings, info.serverId = id ∧ s.Recent info
  data : ∀ info ∈ getServers s, s.latest info.serverId = some info
  self : s.ad = true → server.serverId ∈ (getServers s).map (·.serverId)

/-- While it announces, the clock does not pass a minute after the last sighting of this server, and
announcing again writes what is there. -/
def Meets (server : Server) (s : State) : Action → Prop
  | .tick n => s.ad = true → ∃ info, s.latest server.serverId = some info ∧ s.now + n - info.lastSeen ≤ 60000
  | .announce _ => s.ad = true → s.latest server.serverId = some (server.info s.now)
  | _ => True

/-- The records are the latest sightings, and those of the last minute are there. -/
structure Kept (server : Server) (s : State) : Prop where
  once : (s.discovered.map (·.1)).Nodup
  held : ∀ e ∈ s.discovered, s.latest e.1 = some e.2
  recent : ∀ id info, s.latest id = some info → s.Recent info → (id, info) ∈ s.discovered
  past : ∀ info ∈ s.sightings, info.lastSeen ≤ s.now
  sorted : s.sightings.Pairwise (·.lastSeen ≤ ·.lastSeen)
  self : s.ad = true → ∃ info, s.latest server.serverId = some info ∧ s.Recent info

section
variable {sightings : List ServerInfo} {info : ServerInfo} {id : String}

theorem latest_snoc (sightings : List ServerInfo) (info : ServerInfo) (id : String) :
    latest (sightings ++ [info]) id = if info.serverId = id then some info else latest sightings id := by
  unfold latest
  rw [List.filter_append]
  split
  · rename_i h
    simp [h]
  · rename_i h
    simp [h]

theorem latest_mem (h : latest sightings id = some info) : info ∈ sightings ∧ info.serverId = id := by
  have hmem := List.mem_filter.1 (List.mem_of_getLast? h)
  exact ⟨hmem.1, of_decide_eq_true hmem.2⟩

/-- No sighting of a server is later than its last. -/
theorem exists_latest (hsorted : sightings.Pairwise (·.lastSeen ≤ ·.lastSeen)) (hmem : info ∈ sightings) :
    ∃ last, latest sightings info.serverId = some last ∧ info.lastSeen ≤ last.lastSeen := by
  have hof : info ∈ sightings.filter (·.serverId = info.serverId) := List.mem_filter.2 ⟨hmem, by simp⟩
  have hlast := List.getLast?_eq_some_getLast (List.ne_nil_of_mem hof)
  obtain ⟨earlier, hsplit⟩ := List.getLast?_eq_some_iff.1 hlast
  refine ⟨_, hlast, ?_⟩
  have hpair := hsorted.sublist (List.filter_sublist (p := (·.serverId = info.serverId)))
  rw [hsplit] at hof hpair
  rcases List.mem_append.1 hof with hof | hof
  · exact (List.pairwise_append.1 hpair).2.2 _ hof _ (List.mem_singleton_self _)
  · exact Nat.le_of_eq (congrArg _ (List.mem_singleton.1 hof))

end

/-! ## What a step keeps -/

section
variable {server : Server} {s : State} {info : ServerInfo}

theorem kept_init (server : Server) (start : Nat) : Kept server (State.init start) := by
  refine ⟨List.nodup_nil, by simp [State.init], ?_, by simp [State.init], .nil, ?_⟩
  · intro id info h
    cases h
  · intro h
    cases h

theorem Kept.tick (h : Kept server s) {n : Nat} (hmeets : Meets server s (.tick n)) :
    Kept server { s with now := s.now + n } := by
  refine ⟨h.once, h.held, ?_, ?_, h.sorted, hmeets⟩
  · intro id info hlatest hrecent
    refine h.recent id info hlatest ?_
    unfold State.Recent at hrecent ⊢
    dsimp only at hrecent
    omega
  · exact fun x hx => (h.past x hx).trans (Nat.le_add_right ..)

theorem recent_now (hnow : info.lastSeen = s.now) : s.Recent info := by
  rw [State.Recent, hnow, Nat.sub_self]
  exact Nat.zero_le _

/-- A list of sightings grows by one made now. -/
theorem Kept.grown (h : Kept server s) (hnow : info.lastSeen = s.now) :
    (∀ x ∈ s.sightings ++ [info], x.lastSeen ≤ s.now) ∧ (s.sightings ++ [info]).Pairwise (·.lastSeen ≤ ·.lastSeen) := by
  constructor
  · intro x hx
    rcases List.mem_append.1 hx with hx | hx
    · exact h.past x hx
    · rw [List.mem_singleton.1 hx, hnow]
  · refine List.pairwise_append.2 ⟨h.sorted, List.pairwise_singleton .., fun x hx y hy => ?_⟩
    rw [List.mem_singleton.1 hy, hnow]
    exact h.past x hx

theorem Kept.see (h : Kept server s) (hnow : info.lastSeen = s.now) : Kept server (s.see info) := by
  have hlatest : ∀ id, (s.see info).latest id = if info.serverId = id then some info else s.latest id :=
    latest_snoc s.sightings info
  obtain ⟨hpast, hsorted⟩ := h.grown hnow
  refine ⟨setEntry_nodup h.once .., ?_, ?_, hpast, hsorted, ?_⟩
  · intro e he
    rw [hlatest]
    rcases mem_setEntry.1 he with rfl | ⟨he, hne⟩
    · exact if_pos rfl
    · rw [if_neg (Ne.symm hne), h.held e he]
  · intro id x hx hrecent
    rw [hlatest] at hx
    by_cases hid : info.serverId = id
    · rw [if_pos hid] at hx
      exact mem_setEntry.2 (.inl (by rw [← hid, Option.some.inj hx]))
    · rw [if_neg hid] at hx
      exact mem_setEntry.2 (.inr ⟨h.recent id x hx hrecent, Ne.symm hid⟩)
  · intro had
    rw [hlatest]
    by_cases hid : info.serverId = server.serverId
    · exact ⟨info, if_pos hid, recent_now hnow⟩
    · rw [if_neg hid]
      exact h.self had

theorem Kept.announce (h : Kept server s) {publishes : Bool} (hmeets : Meets server s (.announce publishes)) :
    Kept server (Discovery.announce server s publishes) := by
  unfold Discovery.announce
  by_cases had : s.ad = true
  · -- the record is already the one the announcement stands for
    have hown := hmeets had
    have hlatest : ∀ id, latest (s.sightings ++ [server.info s.now]) id = s.latest id := by
      intro id
      rw [latest_snoc]
      split
      · rename_i hid
        exact hid ▸ hown.symm
      · rfl
    obtain ⟨hpast, hsorted⟩ := h.grown (rfl : (server.info s.now).lastSeen = s.now)
    rw [if_pos had]
    refine ⟨h.once, fun e he => (hlatest _).trans (h.held e he), ?_, hpast, hsorted, fun _ => ?_⟩
    · exact fun id x hx hrecent => h.recent id x ((hlatest id).symm.trans hx) hrecent
    · exact ⟨_, (hlatest _).trans hown, recent_now rfl⟩
  · rw [if_neg had]
    by_cases hpublishes : publishes = true
    · rw [if_pos hpublishes]
      have hsee := h.see (rfl : (server.info s.now).lastSeen = s.now)
      refine ⟨hsee.once, hsee.held, hsee.recent, hsee.past, hsee.sorted, fun _ => ?_⟩
      exact ⟨server.info s.now, (latest_snoc ..).trans (if_pos rfl), recent_now rfl⟩
    · rwa [if_neg hpublishes]

theorem Kept.stopAnnounce (h : Kept server s) : Kept server (stopAnnounce s) := by
  refine ⟨h.once, h.held, h.recent, h.past, h.sorted, fun had => ?_⟩
  cases had

theorem mem_prune {e : String × ServerInfo} : e ∈ (prune s).discovered ↔ e ∈ s.discovered ∧ s.Recent e.2 := by
  rw [prune, List.mem_filter, decide_eq_true_iff, Nat.not_lt]
  rfl

theorem Kept.prune (h : Kept server s) : Kept server (prune s) := by
  refine ⟨h.once.sublist (List.filter_sublist.map _), ?_, ?_, h.past, h.sorted, h.self⟩
  · exact fun e he => h.held e (mem_prune.1 he).1
  · exact fun id x hx hrecent => mem_prune.2 ⟨h.recent id x hx hrecent, hrecent⟩

theorem Kept.next (h : Kept server s) {a : Action} (hmeets : Meets server s a) : Kept server (s.next server a) := by
  cases a with
  | tick n => exact h.tick hmeets
  | find service => exact h.see rfl
  | announce publishes => exact h.announce hmeets
  | stopAnnounce => exact h.stopAnnounce
  | prune => exact h.prune
  | getServers => exact h.prune

/-! ## The answers -/

theorem Kept.getServers_ids (h : Kept server s) : (getServers s).map (·.serverId) = (Discovery.prune s).discovered.map (·.1) := by
  rw [getServers, List.map_map]
  refine List.map_congr_left fun e he => ?_
  exact (latest_mem (h.held e (mem_prune.1 he).1)).2

theorem Kept.good (h : Kept server s) : Good server s := by
  have hids : ∀ id, id ∈ (getServers s).map (·.serverId) ↔ ∃ info ∈ s.sightings, info.serverId = id ∧ s.Recent info := by
    intro id
    rw [h.getServers_ids, List.mem_map]
    constructor
    · rintro ⟨e, he, rfl⟩
      obtain ⟨hmem, hrecent⟩ := mem_prune.1 he
      obtain ⟨hinfo, hid⟩ := latest_mem (h.held e hmem)
      exact ⟨e.2, hinfo, hid, hrecent⟩
    · rintro ⟨info, hinfo, rfl, hrecent⟩
      obtain ⟨last, hlast, hle⟩ := exists_latest h.sorted hinfo
      have hrecent' : s.Recent last := by
        unfold State.Recent at hrecent ⊢
        omega
      exact ⟨(info.serverId, last), mem_prune.2 ⟨h.recent _ _ hlast hrecent', hrecent'⟩, rfl⟩
  refine ⟨?_, hids, ?_, ?_⟩
  · rw [h.getServers_ids]
    exact h.prune.once
  · intro info hinfo
    obtain ⟨e, he, rfl⟩ := List.mem_map.1 hinfo
    have hheld := h.held e (mem_prune.1 he).1
    rw [(latest_mem hheld).2]
    exact hheld
  · intro had
    obtain ⟨info, hlatest, hrecent⟩ := h.self had
    exact (hids _).2 ⟨info, (latest_mem hlatest).1, (latest_mem hlatest).2, hrecent⟩

/-- A step after which the answer is right was one that meets the condition. -/
theorem Kept.meets (h : Kept server s) {a : Action} (hgood : Good server (s.next server a)) : Meets server s a := by
  cases a with
  | tick n =>
    intro had
    obtain ⟨info, hinfo, hid, hrecent⟩ := (hgood.ids _).1 (hgood.self had)
    obtain ⟨last, hlast, hle⟩ := exists_latest h.sorted hinfo
    refine ⟨last, hid ▸ hlast, ?_⟩
    change s.now + n - info.lastSeen ≤ 60000 at hrecent
    omega
  | announce publishes =>
    intro had
    have hnext : s.next server (.announce publishes) = { s with sightings := s.sightings ++ [server.info s.now] } := if_pos had
    rw [hnext] at hgood
    obtain ⟨info, hinfo, hid⟩ := List.mem_map.1 ((hgood.ids server.serverId).2
      ⟨server.info s.now, List.mem_append_right _ (List.mem_singleton_self _), rfl, recent_now rfl⟩)
    have hlatest := hgood.data info hinfo
    rw [hid] at hlatest
    have heq : server.info s.now = info := Option.some.inj ((((latest_snoc ..).trans (if_pos rfl)).symm).trans hlatest)
    obtain ⟨e, he, rfl⟩ := List.mem_map.1 hinfo
    have hheld := h.held e (mem_prune.1 he).1
    rw [heq, ← hheld, ← (latest_mem hheld).2, hid]
  | _ => trivial

end

/-- Every state of a run answers well just when every step of the run meets the condition. -/
theorem servers_good_iff (server : Server) (start : Nat) (actions : List Action) :
    (∀ done, done <+: actions → Good server (done.foldl (State.next server) (State.init start))) ↔
      ∀ done a, done ++ [a] <+: actions → Meets server (done.foldl (State.next server) (State.init start)) a :=
  good_iff_meets (kept_init server start) (fun _ h => h.good) (fun _ _ h => h.next) (fun _ _ h => h.meets) actions

/-- A minute after the announcement, and still announcing, the server is no longer in its own answer. -/
theorem servers_forgotten : ¬ Good ⟨"id", "srv", "http://srv", "fp", 24⟩
    (([.announce true, .tick 60001] : List Action).foldl (State.next ⟨"id", "srv", "http://srv", "fp", 24⟩) (State.init 0)) := by
  intro h
  have hself := h.self rfl
  have hnone : getServers (([.announce true, .tick 60001] : List Action).foldl
      (State.next ⟨"id", "srv", "http://srv", "fp", 24⟩) (State.init 0)) = [] := by decide
  rw [hnone] at hself
  cases hself

end Tactix.Discovery
