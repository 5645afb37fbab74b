import Tactix.Eng.Service
import Tactix.JsonRoundTrip
import Tactix.Lib.Subjects
/-!
# The subjects of the engineering chat

`POST /eng/messages` puts the operation code into the subject it publishes on, and the
loop of `connectNats` has a subscription with `*` in that place.
`postMessage_live_iff` says for which codes a message that is answered `ok` comes back
to the clients.
-/
open Tactix.Js Tactix.Authz ServiceLib

namespace Tactix.Eng

/-- The subject of `nc.subscribe`. -/
def Env.subscription (env : Env) : String := "eng." ++ env.orgCode ++ ".*.chat"

/-- NATS gives a message to the loop when its subject fits the subscription; `sends` as in `Action.nats`. -/
def State.deliver (env : Env) (nums : NumberText) (s : State) (message : String × Json) (sends : Nat → Bool) : Option State :=
  if takes '.' '*' env.subscription.toList message.1.toList then
    s.next env (.nats (String.ofList (stringify nums 0 message.2)) sends)
  else some s

/-- A request that is answered `ok` publishes a message that comes to every client the loop
can send to, on a subject that no request with another code publishes on. -/
structure Live (env : Env) (nums : NumberText) (s : State) (req : Request) (message : String × Json) : Prop where
  published : s.next env (.post req) = some { s with published := s.published ++ [message] }
  matched : takes '.' '*' env.subscription.toList message.1.toList = true
  reached : ∀ (t : State) sends, t.subscribed = true → ∃ t', t.deliver env nums message sends = some t' ∧
    ∀ ws ∈ t.wsClients, sends ws = true → (ws, String.ofList (stringify nums 0 message.2)) ∈ t'.forwarded
  own : ∀ now req' message', postMessage env now req' = .ok message' → message'.1 = message.1 →
    str? (req'.body.get? "operationCode") = str? (req.body.get? "operationCode")

section
variable {env : Env} {now : Nat} {req : Request} {message : String × Json}

/-- The code of an accepted request stands in its subject. -/
theorem postMessage_subject (h : postMessage env now req = .ok message) : ∃ code,
    str? (req.body.get? "operationCode") = some code ∧ message.1 = "eng." ++ env.orgCode ++ "." ++ code ++ ".chat" := by
  unfold postMessage at h
  split at h
  · cases h
  · split at h
    · rename_i code text hcode htext
      refine ⟨code, hcode, ?_⟩
      rw [← Except.ok.inj h]
    · cases h

theorem subject_inj {org a b : String} (h : "eng." ++ org ++ "." ++ a ++ ".chat" = "eng." ++ org ++ "." ++ b ++ ".chat") :
    a = b := by
  rw [String.append_left_inj, String.append_right_inj] at h
  exact h

theorem subscription_takes (env : Env) (code : String) :
    takes '.' '*' env.subscription.toList ("eng." ++ env.orgCode ++ "." ++ code ++ ".chat").toList = true ↔
      code ≠ "" ∧ '.' ∉ code.toList := by
  have hpattern : env.subscription.toList =
      ("eng." ++ env.orgCode).toList ++ '.' :: (['*'] ++ '.' :: "chat".toList) := String.toList_append
  have hsubject : ("eng." ++ env.orgCode ++ "." ++ code ++ ".chat").toList =
      ("eng." ++ env.orgCode).toList ++ '.' :: (code.toList ++ '.' :: "chat".toList) := by
    rw [String.toList_append, String.toList_append, String.toList_append, List.append_assoc, List.append_assoc]
    rfl
  rw [hpattern, hsubject, takes_splice (by decide)]
  exact and_congr_left fun _ => not_congr String.toList_eq_nil_iff

end

/-- While NATS is connected, a message that is answered `ok` comes back to the clients just when its
operation code is one token: not empty, and without a dot. -/
theorem postMessage_live_iff {env : Env} {s : State} {req : Request} {message : String × Json} {code : String}
    (nums : NumberText) (hsub : s.subscribed = true) (hpost : postMessage env s.now req = .ok message)
    (hcode : str? (req.body.get? "operationCode") = some code) :
    Live env nums s req message ↔ code ≠ "" ∧ '.' ∉ code.toList := by
  obtain ⟨code', hcode', hsubject⟩ := postMessage_subject hpost
  obtain rfl := Option.some.inj (hcode.symm.trans hcode')
  have htakes := subscription_takes env code
  rw [← hsubject] at htakes
  constructor
  · intro h
    exact htakes.1 h.matched
  · intro h
    have hmatched := htakes.2 h
    refine ⟨?_, hmatched, ?_, ?_⟩
    · rw [State.next, hpost]
      dsimp only
      rw [if_pos hsub]
    · intro t sends ht
      refine ⟨_, (if_pos hmatched).trans (if_pos ht), ?_⟩
      intro ws hws hsends
      exact List.mem_append_right _ (List.mem_map_of_mem (List.mem_filter.2 ⟨hws, hsends⟩))
    · intro now req' message' hpost' heq
      obtain ⟨code', hcode', hsubject'⟩ := postMessage_subject hpost'
      rw [hcode, hcode', subject_inj (hsubject'.symm.trans (heq.trans hsubject))]

namespace Sample

/-- Every token is an engineer's. -/
def chatEnv : Env :=
  ⟨some "org", some "ENG", "i1", none, fun _ _ _ => some (.obj [("roles", .arr [.str "ENG"])]), fun _ => "2025-08-17T10:00:00.000Z"⟩

/-- A message to the operation with this code. -/
def chat (operationCode : String) : Request :=
  ⟨fun name => if name = "authorization" then some "Bearer t" else none,
    .obj [("operationCode", .str operationCode), ("text", .str "pump down")]⟩

def connected : State := { State.init 0 with subscribed := true }

theorem chat_accepted (operationCode : String) : ∃ message, postMessage chatEnv 0 (chat operationCode) = .ok message :=
  ⟨_, rfl⟩

end Sample

theorem postMessage_live_op1 : ∃ message, Live Sample.chatEnv .unary Sample.connected (Sample.chat "op1") message := by
  obtain ⟨message, hpost⟩ := Sample.chat_accepted "op1"
  exact ⟨message, (postMessage_live_iff .unary rfl hpost rfl).2 ⟨by decide, by decide⟩⟩

/-- A code with a dot in it is accepted, and nobody sees the message. -/
theorem postMessage_dotted : ∃ message, postMessage Sample.chatEnv 0 (Sample.chat "op.1") = .ok message ∧
    ¬ Live Sample.chatEnv .unary Sample.connected (Sample.chat "op.1") message := by
  obtain ⟨message, hpost⟩ := Sample.chat_accepted "op.1"
  obtain ⟨code, hcode, hsubject⟩ := postMessage_subject hpost
  obtain rfl : "op.1" = code := Option.some.inj hcode
  refine ⟨message, hpost, fun h => ?_⟩
  have hmatched := h.matched
  rw [hsubject] at hmatched
  exact ((subscription_takes _ _).1 hmatched).2 (by decide)

end Tactix.Eng
