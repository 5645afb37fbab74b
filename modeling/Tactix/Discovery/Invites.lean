import Tactix.Files
import Tactix.Lib.Base64
/-!
# Server invites

`discovery-svc` signs the identity of its server and an expiry; an invite is that and the
signature. `POST /discovery/verify-invite` writes the fields of what it was given down again
and checks the signature on that text. `invites_exact`: its answers are those of the invites
the server has made, and of nothing else.
-/
open Tactix.Js ServiceLib

namespace Tactix.Discovery

/-- The identity of a server. `INVITE_TTL_HOURS` is finite. -/
structure Server where
  serverId : String
  SERVER_NAME : String
  SERVER_URL : String
  fingerprint : String
  INVITE_TTL_HOURS : Rat

def Server.payload (server : Server) (exp : Rat) : List (String × Json) :=
  [("serverId", .str server.serverId), ("url", .str server.SERVER_URL), ("fingerprint", .str server.fingerprint),
    ("exp", .num exp)]

/-- What the runtime does with other values than strings and numbers. -/
structure Runtime where
  texts : Texts
  /-- `Buffer.from(v, 'base64')` when `v` is no string; `none` when it throws. -/
  objectBuffer : Json → Option (List UInt8)
  /-- `Number(v)` when `v` is neither a number nor `null`. -/
  toNumber : Json → Number

/-- The Ed25519 keys of a server that has made invites with these expiries. It signs nothing else,
and a signature verifies for a message that the server has signed only. -/
structure Keys (rt : Runtime) (server : Server) (created : List Rat) where
  sign : List UInt8 → List UInt8
  verify : List UInt8 → List UInt8 → Bool
  verify_sign : ∀ exp ∈ created, verify (rt.texts.buffer (.obj (server.payload exp)))
    (sign (rt.texts.buffer (.obj (server.payload exp)))) = true
  of_verify : ∀ m s, verify m s = true → ∃ exp ∈ created, m = rt.texts.buffer (.obj (server.payload exp))

section
variable {rt : Runtime} {server : Server} {created : List Rat}

/-- The expiry of an invite made now. -/
def Server.expiry (server : Server) (now : Int) (customExp : Option Rat) : Rat :=
  customExp.getD (now + server.INVITE_TTL_HOURS * 3600000)

/-- The invite of `createInvite`. -/
def createInvite (keys : Keys rt server created) (now : Int) (customExp : Option Rat) : String :=
  let payload := server.payload (server.expiry now customExp)
  let sig := String.ofList (base64 (keys.sign (rt.texts.buffer (.obj payload))))
  String.ofList (base64 (rt.texts.buffer (.obj (payload ++ [("sig", .str sig)]))))

/-- `Buffer.from(v, 'base64')`; `none` when it throws. -/
def bufferFrom (rt : Runtime) : Option Json → Option (List UInt8)
  | some (.str s) => some (unbase64 s.toList)
  | some v => rt.objectBuffer v
  | none => none

/-- `now > v`. -/
def exceeds (rt : Runtime) (now : Int) : Option Json → Bool
  | none => false
  | some .null => 0 < now
  | some (.num e) => e < now
  | some v => (rt.toNumber v).lt now

/-- The four fields; one that is `undefined` is not written. -/
def payloadOf (decoded : Json) : List (String × Json) :=
  ["serverId", "url", "fingerprint", "exp"].filterMap fun key => (decoded.get? key).map fun v => (key, v)

structure Reply where
  status : Nat
  body : Json

def refuse (status : Nat) (error : String) : Reply := ⟨status, .obj [("ok", .bool false), ("error", .str error)]⟩

/-- The JSON of an invite, and the bytes of its `sig`; `none` when something throws, as `null` has no `sig`. -/
def presented (rt : Runtime) (invite : Option Json) : Option (Json × List UInt8) := do
  let bytes ← bufferFrom rt invite
  let decoded ← rt.texts.json bytes
  let sig ← bufferFrom rt (decoded.get? "sig")
  return (decoded, sig)

/-- `POST /discovery/verify-invite`. -/
def verifyInvite (keys : Keys rt server created) (now : Int) (body : Json) : Reply :=
  let invite := body.get? "invite"
  if truthy invite then
    match presented rt invite with
    | none => refuse 400 "invalid-invite"
    | some (decoded, sig) =>
      let payload := payloadOf decoded
      if keys.verify (rt.texts.buffer (.obj payload)) sig then
        if exceeds rt now (decoded.get? "exp") then refuse 200 "expired"
        else ⟨200, .obj (("ok", .bool true) :: payload)⟩
      else refuse 200 "invalid-signature"
  else refuse 400 "invite required"

/-- The invite is accepted. -/
def Reply.Ok (reply : Reply) : Prop := reply.body.get? "ok" = some (.bool true)

/-! ## Writing and reading the fields -/

theorem payload_distinct (server : Server) (exp : Rat) : (Json.obj (server.payload exp)).Distinct := by
  rw [distinct_obj]
  refine ⟨by simp [Server.payload], ?_⟩
  simp only [Server.payload, List.forall_mem_cons]
  exact ⟨trivial, trivial, trivial, trivial, by simp⟩

theorem signed_distinct (server : Server) (exp : Rat) (sig : String) :
    (Json.obj (server.payload exp ++ [("sig", .str sig)])).Distinct := by
  rw [distinct_obj]
  refine ⟨by simp [Server.payload], fun f hf => ?_⟩
  rcases List.mem_append.1 hf with hf | hf
  · exact (distinct_obj.1 (payload_distinct server exp)).2 f hf
  · rw [List.mem_singleton.1 hf]
    trivial

/-- The fields are read off in one order, whatever order they came in. -/
theorem payloadOf_distinct {decoded : Json} (h : decoded.Distinct) : (Json.obj (payloadOf decoded)).Distinct := by
  rw [distinct_obj]
  constructor
  · have hkeys : (payloadOf decoded).map (·.1) = ["serverId", "url", "fingerprint", "exp"].filter
        fun key => (decoded.get? key).isSome := by
      rw [payloadOf, List.map_filterMap, ← List.filterMap_eq_filter]
      refine List.filterMap_congr fun key _ => ?_
      cases hv : decoded.get? key <;> simp [Option.guard, hv]
    rw [hkeys]
    exact List.Pairwise.filter _ (by decide)
  · intro f hf
    obtain ⟨key, -, hkey⟩ := List.mem_filterMap.1 hf
    obtain ⟨v, hv, rfl⟩ := Option.map_eq_some_iff.1 hkey
    exact get?_distinct h hv

theorem payloadOf_signed (server : Server) (exp : Rat) (sig : Json) :
    payloadOf (.obj (server.payload exp ++ [("sig", sig)])) = server.payload exp := rfl

theorem signed_sig (server : Server) (exp : Rat) (sig : Json) :
    (Json.obj (server.payload exp ++ [("sig", sig)])).get? "sig" = some sig := rfl

theorem signed_exp (server : Server) (exp : Rat) (sig : Json) :
    (Json.obj (server.payload exp ++ [("sig", sig)])).get? "exp" = some (.num exp) := rfl

theorem payload_exp {server : Server} {exp : Rat} {decoded : Json} (h : payloadOf decoded = server.payload exp) :
    decoded.get? "exp" = some (.num exp) := by
  have hmem : ("exp", Json.num exp) ∈ payloadOf decoded := by simp [h, Server.payload]
  obtain ⟨key, -, hkey⟩ := List.mem_filterMap.1 hmem
  obtain ⟨v, hv, heq⟩ := Option.map_eq_some_iff.1 hkey
  obtain ⟨rfl, rfl⟩ := Prod.mk.inj heq
  exact hv

/-! ## The answers -/

theorem bufferFrom_base64 (rt : Runtime) (bytes : List UInt8) :
    bufferFrom rt (some (.str (String.ofList (base64 bytes)))) = some bytes := by
  rw [bufferFrom, String.toList_ofList, unbase64_base64]

theorem presented_str {s : String} {v : Json} {sig : List UInt8} (hjson : rt.texts.json (unbase64 s.toList) = some v)
    (hsig : bufferFrom rt (v.get? "sig") = some sig) : presented rt (some (.str s)) = some (v, sig) := by
  rw [presented, bufferFrom, Option.bind_eq_bind, Option.bind_some, hjson, Option.bind_eq_bind, Option.bind_some, hsig]
  rfl

theorem presented_distinct {invite : Option Json} {decoded : Json} {sig : List UInt8}
    (h : presented rt invite = some (decoded, sig)) : decoded.Distinct := by
  unfold presented at h
  obtain ⟨bytes, -, h⟩ := Option.bind_eq_some_iff.1 h
  obtain ⟨decoded', hjson, h⟩ := Option.bind_eq_some_iff.1 h
  obtain ⟨sig', -, h⟩ := Option.bind_eq_some_iff.1 h
  obtain ⟨rfl, -⟩ := Prod.mk.inj (Option.some.inj h)
  exact json_distinct hjson

theorem refuse_not_ok (status : Nat) (error : String) : ¬ (refuse status error).Ok := by
  intro h
  cases h

/-- An invite of the server and its signature are read back. -/
theorem presented_invite (server : Server) (exp : Rat) (sig : List UInt8) :
    presented rt (some (.str (String.ofList (base64 (rt.texts.buffer
      (.obj (server.payload exp ++ [("sig", .str (String.ofList (base64 sig)))]))))))) =
      some (.obj (server.payload exp ++ [("sig", .str (String.ofList (base64 sig)))]), sig) := by
  apply presented_str
  · rw [String.toList_ofList, unbase64_base64]
    exact json_buffer rt.texts (signed_distinct server exp _)
  · rw [signed_sig, bufferFrom_base64]

theorem invite_truthy (v : Json) : truthy (some (.str (String.ofList (base64 (rt.texts.buffer v))))) = true := by
  apply decide_eq_true
  intro he
  have hlist := congrArg String.toList he
  rw [String.toList_ofList] at hlist
  exact base64_ne_nil (buffer_ne_nil rt.texts v) hlist

/-- The answer to an invite of the server. -/
theorem verifyInvite_created (keys : Keys rt server created) {exp : Rat} (hexp : exp ∈ created) (madeAt now : Int) :
    verifyInvite keys now (.obj [("invite", .str (createInvite keys madeAt (some exp)))]) =
      if (now : Rat) ≤ exp then ⟨200, .obj (("ok", .bool true) :: server.payload exp)⟩ else refuse 200 "expired" := by
  have hget : ∀ s, (Json.obj [("invite", .str s)]).get? "invite" = some (.str s) := fun s => rfl
  have hexpiry : server.expiry madeAt (some exp) = exp := rfl
  unfold verifyInvite createInvite
  dsimp only
  rw [hget, hexpiry, if_pos (invite_truthy _), presented_invite]
  dsimp only
  rw [payloadOf_signed, if_pos (keys.verify_sign exp hexp), signed_exp, exceeds]
  by_cases hle : (now : Rat) ≤ exp
  · rw [if_pos hle, if_neg (by simpa using Rat.not_lt.2 hle)]
  · rw [if_neg hle, if_pos (by simpa using Rat.not_le.1 hle)]

/-- What a request was accepted for. -/
theorem verifyInvite_ok (keys : Keys rt server created) {now : Int} {body : Json} (hok : (verifyInvite keys now body).Ok) :
    ∃ exp ∈ created, verifyInvite keys now body = ⟨200, .obj (("ok", .bool true) :: server.payload exp)⟩ ∧ (now : Rat) ≤ exp := by
  unfold verifyInvite at hok ⊢
  dsimp only at hok ⊢
  by_cases htruthy : truthy (body.get? "invite") = true
  · rw [if_pos htruthy] at hok ⊢
    cases hpresented : presented rt (body.get? "invite") with
    | none =>
      rw [hpresented] at hok
      dsimp only at hok
      exact (refuse_not_ok _ _ hok).elim
    | some p =>
      obtain ⟨decoded, sig⟩ := p
      rw [hpresented] at hok
      dsimp only at hok ⊢
      by_cases hverify : keys.verify (rt.texts.buffer (.obj (payloadOf decoded))) sig = true
      · obtain ⟨exp, hexp, hmessage⟩ := keys.of_verify _ _ hverify
        have hpayload : payloadOf decoded = server.payload exp :=
          Json.obj.inj (buffer_inj (payloadOf_distinct (presented_distinct hpresented)) (payload_distinct server exp) hmessage)
        rw [if_pos hverify] at hok ⊢
        by_cases hexceeds : exceeds rt now (decoded.get? "exp") = true
        · rw [if_pos hexceeds] at hok
          exact (refuse_not_ok _ _ hok).elim
        · rw [if_neg hexceeds, hpayload]
          rw [payload_exp hpayload] at hexceeds
          exact ⟨exp, hexp, rfl, Rat.not_lt.1 (by simpa [exceeds] using hexceeds)⟩
      · rw [if_neg hverify] at hok
        exact (refuse_not_ok _ _ hok).elim
  · rw [if_neg htruthy] at hok
    exact (refuse_not_ok _ _ hok).elim

end

/-- An invite made for an expiry is answered with the four fields up to then and with `expired` afterwards,
and only the fields of invites the server has made, and that have not expired, are ever accepted. -/
theorem invites_exact (rt : Runtime) (server : Server) (created : List Rat) (keys : Keys rt server created) :
    (∀ exp ∈ created, ∀ madeAt now : Int,
      verifyInvite keys now (.obj [("invite", .str (createInvite keys madeAt (some exp)))]) =
        if (now : Rat) ≤ exp then ⟨200, .obj (("ok", .bool true) :: server.payload exp)⟩ else refuse 200 "expired") ∧
    ∀ (now : Int) body, (verifyInvite keys now body).Ok → ∃ exp ∈ created,
      verifyInvite keys now body = ⟨200, .obj (("ok", .bool true) :: server.payload exp)⟩ ∧ (now : Rat) ≤ exp :=
  ⟨fun _ hexp madeAt now => verifyInvite_created keys hexp madeAt now, fun _ _ hok => verifyInvite_ok keys hok⟩

/-- Keys whose signature of a message is the message. -/
def Keys.sample (rt : Runtime) (server : Server) (created : List Rat) : Keys rt server created where
  sign := id
  verify m s := m = s && created.any fun exp => m = rt.texts.buffer (.obj (server.payload exp))
  verify_sign exp hexp := by simpa using ⟨exp, hexp, rfl⟩
  of_verify m s h := by
    simp only [Bool.and_eq_true, List.any_eq_true, decide_eq_true_eq] at h
    exact h.2

namespace Sample

def runtime : Runtime := ⟨⟨.unary, fun _ => ""⟩, fun _ => none, fun _ => .nan⟩

def alpha : Server := ⟨"0123456789abcdef", "alpha", "https://alpha:3000", "sha256", 24⟩

/-- The keys of a server that has made one invite, which expires at 2. -/
def keys : Keys runtime alpha [2] := .sample ..

end Sample

/-- The invite is accepted at 1 and has expired at 3, and nothing else is accepted. -/
theorem invites_exact_sample :
    verifyInvite Sample.keys 1 (.obj [("invite", .str (createInvite Sample.keys 0 (some 2)))]) =
      ⟨200, .obj (("ok", .bool true) :: Sample.alpha.payload 2)⟩ ∧
    verifyInvite Sample.keys 3 (.obj [("invite", .str (createInvite Sample.keys 0 (some 2)))]) = refuse 200 "expired" ∧
    ∀ body, (verifyInvite Sample.keys 1 body).Ok →
      verifyInvite Sample.keys 1 body = ⟨200, .obj (("ok", .bool true) :: Sample.alpha.payload 2)⟩ := by
  obtain ⟨hcreated, haccepted⟩ := invites_exact Sample.runtime Sample.alpha [2] Sample.keys
  have hmem : (2 : Rat) ∈ [(2 : Rat)] := List.mem_singleton_self _
  refine ⟨(hcreated 2 hmem 0 1).trans (if_pos (by decide)), (hcreated 2 hmem 0 3).trans (if_neg (by decide)), ?_⟩
  intro body hok
  obtain ⟨exp, hexp, hreply, -⟩ := haccepted 1 body hok
  rwa [List.mem_singleton.1 hexp] at hreply

end Tactix.Discovery
