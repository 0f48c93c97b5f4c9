import GrokingClawId.Daemon.A2aTasks

/-!
# A2A server

The two signed endpoints of `a2a.rs`: the JSON-RPC dispatch and the control channel, which stops an
agent. Both ask `verify_request_signature`; an error of it counts as a request that is not signed.
The public cards are left out.
-/

namespace GrokingClawId.Daemon.A2a
open GrokingClawId.Core Text

/-- `serde_json::from_slice::<T>`. -/
class FromSlice (T : Type) where
  fromSlice : List UInt8 → Except String T

@[reducible] def StandIn.slices {T : Type} (table : List (List UInt8 × T)) : FromSlice T where
  fromSlice bytes := orErr (table.lookup bytes) "expected value"

structure RevokeRequest where
  agentName : String
  reason : Option String

structure Response where
  status : Nat
  body : Json

structure A2aServer where
  daemon : DaemonState
  tasks : Tasks
  requireAuth : Bool

/-- How a request to the control channel ends: the agent that was stopped, and the answer, which is
an error when the body cannot be read. -/
structure Revocation where
  server : A2aServer
  stopped : Option String
  response : Except String Response

section Server
variable [Ed25519] [MlDsa65] [FromStr AgentCard] [FromSlice RevokeRequest]

/-- `verify_request_signature(…).unwrap_or(false)`. -/
def signatureOk (daemon : DaemonState) (request : Request) : Bool :=
  (verifyRequestSignature daemon request).toOption.getD false

def unauthorized : Response where
  status := 401
  body := .obj [("error", .str "Revocation requires a valid ClawID PQ signature."),
    ("hint", .str "Sign the request with the parent agent's hybrid key.")]

def readRevoke (request : Request) : Except String RevokeRequest := do
  let bodyBytes ← request.body.mapError fun e => s!"Failed to read body: {e}"
  (FromSlice.fromSlice bodyBytes : Except String RevokeRequest).mapError fun e =>
    s!"Invalid revoke request body: {e}"

def handleControlRevoke (server : A2aServer) (request : Request) : Revocation :=
  if !signatureOk server.daemon request then ⟨server, none, .ok unauthorized⟩
  else
    match readRevoke request with
    | .error e => ⟨server, none, .error e⟩
    | .ok revoke =>
      match server.daemon.supervisor.stopAgent revoke.agentName with
      | .ok supervisor =>
        let reason := revoke.reason.getD "Parent-initiated revocation"
        let body := .obj [("agent", .str revoke.agentName), ("reason", .str reason),
          ("status", .str "revoked")]
        ⟨{ server with daemon := { server.daemon with supervisor } }, some revoke.agentName, .ok ⟨200, body⟩⟩
      | .error e =>
        let message := s!"Failed to revoke agent '{revoke.agentName}': {e}"
        ⟨server, none, .ok ⟨500, .obj [("error", .str message)]⟩⟩

omit [FromSlice RevokeRequest] in
theorem signatureOk_iff (daemon : DaemonState) (request : Request) :
    signatureOk daemon request = true ↔ ∃ sigBase card,
      Signs daemon request sigBase card ∧
      (PqOffered request card → PqSigns request sigBase card) := by
  rw [← verifyRequestSignature_iff]
  unfold signatureOk
  cases verifyRequestSignature daemon request with
  | error e => simp [Except.toOption]
  | ok b => simp [Except.toOption]

/-- What stopping an agent took, and what it changes. -/
structure Stops (server : A2aServer) (request : Request) (name : String) (after : A2aServer) :
    Prop where
  signed : signatureOk server.daemon request = true
  asked : ∃ reason, readRevoke request = .ok ⟨name, reason⟩
  agents : ∃ supervisor, server.daemon.supervisor.stopAgent name = .ok supervisor ∧
    after = { server with daemon := { server.daemon with supervisor } }

theorem handleControlRevoke_cases (server : A2aServer) (request : Request) :
    ((handleControlRevoke server request).stopped = none ∧
      (handleControlRevoke server request).server = server) ∨
    ∃ name, (handleControlRevoke server request).stopped = some name ∧
      Stops server request name (handleControlRevoke server request).server := by
  unfold handleControlRevoke
  cases signed : signatureOk server.daemon request with
  | false => exact .inl ⟨rfl, rfl⟩
  | true =>
    cases read : readRevoke request with
    | error e => exact .inl ⟨rfl, rfl⟩
    | ok revoke =>
      simp only [Bool.not_true, Bool.false_eq_true, if_false]
      cases stopped : server.daemon.supervisor.stopAgent revoke.agentName with
      | error e => exact .inl ⟨rfl, rfl⟩
      | ok supervisor =>
        exact .inr ⟨revoke.agentName, rfl, signed, ⟨revoke.reason, read⟩, supervisor, stopped, rfl⟩

theorem handleControlRevoke_stops {server : A2aServer} {request : Request} {name : String}
    (stopped : (handleControlRevoke server request).stopped = some name) :
    Stops server request name (handleControlRevoke server request).server := by
  rcases handleControlRevoke_cases server request with ⟨refused, _⟩ | ⟨found, same, stops⟩
  · rw [refused] at stopped
    cases stopped
  · rw [same] at stopped
    obtain rfl := Option.some.inj stopped
    exact stops

/-- An agent is stopped exactly when the request is signed and its body names a managed agent. -/
theorem handleControlRevoke_stopped (server : A2aServer) (request : Request) (name : String) :
    (handleControlRevoke server request).stopped = some name ↔
      signatureOk server.daemon request = true ∧
      (∃ reason, readRevoke request = .ok ⟨name, reason⟩) ∧
        ∃ agent, server.daemon.supervisor.lookup name = some agent := by
  constructor
  · intro stopped
    obtain ⟨signed, asked, supervisor, ok, _⟩ := handleControlRevoke_stops stopped
    obtain ⟨agent, managed, _⟩ := Supervisor.stopAgent_ok ok
    exact ⟨signed, asked, agent, managed⟩
  · rintro ⟨signed, ⟨reason, read⟩, agent, managed⟩
    simp only [handleControlRevoke, signed, read, Supervisor.stopAgent_found managed, Bool.not_true,
      Bool.false_eq_true, if_false]

/-- The stopped agent has no process left, and the others are as they were. -/
theorem handleControlRevoke_agents {server : A2aServer} {request : Request} {name : String}
    (stopped : (handleControlRevoke server request).stopped = some name) :
    (∃ agent, (handleControlRevoke server request).server.daemon.supervisor.lookup name = some agent ∧
      agent.status = .stopped ∧ agent.child = none) ∧
    ∀ other, other ≠ name →
      (handleControlRevoke server request).server.daemon.supervisor.lookup other =
        server.daemon.supervisor.lookup other := by
  obtain ⟨_, _, supervisor, ok, after⟩ := handleControlRevoke_stops stopped
  rw [after]
  exact ⟨Supervisor.stopAgent_status ok, fun _ different => Supervisor.stopAgent_other ok different⟩

section Rpc
variable [Sha256] [Chrono] [Unicode] [FromSlice JsonRpcRequest]

def handleA2aRpc (server : A2aServer) (request : Request) (draws : Draws) :
    A2aServer × Except String Response :=
  let callerVerified := signatureOk server.daemon request
  if server.requireAuth && !callerVerified then
    let refusal := JsonRpcResponse.failure none (-32000)
      "Authentication required. Sign requests with a ClawID key (Signature + Signature-Input headers)."
    (server, .ok ⟨401, refusal.toValue⟩)
  else
    match request.body with
    | .error e => (server, .error s!"Failed to read body: {e}")
    | .ok bodyBytes =>
      match (FromSlice.fromSlice bodyBytes : Except String JsonRpcRequest) with
      | .error e => (server, .ok ⟨200, (JsonRpcResponse.failure none (-32700) s!"Parse error: {e}").toValue⟩)
      | .ok rpcReq =>
        let (tasks, response) := handleMethod server.daemon server.tasks rpcReq callerVerified draws
        let response := { response with id := rpcReq.id.or response.id }
        ({ server with tasks }, .ok ⟨200, response.toValue⟩)

omit [FromSlice RevokeRequest] in
/-- The methods work on the tasks alone. -/
theorem handleA2aRpc_daemon (server : A2aServer) (request : Request) (draws : Draws) :
    (handleA2aRpc server request draws).1.daemon = server.daemon := by
  unfold handleA2aRpc
  dsimp only
  split
  · rfl
  · cases request.body with
    | error e => rfl
    | ok bodyBytes =>
      dsimp only
      cases (FromSlice.fromSlice bodyBytes : Except String JsonRpcRequest) with
      | error e => rfl
      | ok rpcReq => rfl

end Rpc

/-! ### Post-quantum authority -/

/-- The request carried an ML-DSA signature that verifies under the key in its caller's card. -/
def PqVerified (daemon : DaemonState) (request : Request) : Prop :=
  ∃ inputValue sigBytes card, readSignature request = .ok (some (inputValue, sigBytes)) ∧
    callerCard daemon request = .ok (some card) ∧ PqSigns request (signatureBase request inputValue) card

/-- A request for the control channel that names a managed agent and is signed with the Ed25519 key
of its caller. -/
structure Orders (daemon : DaemonState) (request : Request) (card : AgentCard) : Prop where
  signs : ∃ sigBase, Signs daemon request sigBase card
  names : ∃ name reason agent, readRevoke request = .ok ⟨name, reason⟩ ∧
    daemon.supervisor.lookup name = some agent

/-- The control channel stops agents on post-quantum authority alone exactly when every order brings
an ML-DSA signature and comes from a caller whose card has a key for it. -/
theorem revoke_pq_iff (server : A2aServer) (request : Request) :
    (∀ name, (handleControlRevoke server request).stopped = some name →
      PqVerified server.daemon request) ↔
      ∀ card, Orders server.daemon request card → PqOffered request card := by
  constructor
  · rintro authority card ⟨⟨sigBase, signs⟩, name, reason, agent, read, managed⟩
    by_contra withheld
    have accepted := (signatureOk_iff server.daemon request).mpr
      ⟨sigBase, card, signs, fun offered => absurd offered withheld⟩
    have stopped :=
      (handleControlRevoke_stopped server request name).mpr ⟨accepted, ⟨reason, read⟩, agent, managed⟩
    obtain ⟨_, _, found, _, caller, header, key, _, present, published, _⟩ := authority name stopped
    obtain rfl := Option.some.inj (Except.ok.inj (caller.symm.trans signs.caller))
    exact withheld ⟨by simp [present], by simp [published]⟩
  · intro offers name stopped
    obtain ⟨accepted, ⟨reason, read⟩, agent, managed⟩ :=
      (handleControlRevoke_stopped server request name).mp stopped
    obtain ⟨sigBase, card, signs, pq⟩ := (signatureOk_iff server.daemon request).mp accepted
    have offered := offers card ⟨⟨sigBase, signs⟩, name, reason, agent, read, managed⟩
    obtain ⟨caller, inputValue, sigBytes, headers, rfl, _⟩ := signs
    exact ⟨inputValue, sigBytes, card, headers, caller, pq offered⟩

end Server

section
open scoped Core.StandIn

namespace StandIn

def callerCard : AgentCard where
  id := Uuid.nil
  name := "scout"
  owner := "ops"
  scopes := ["read"]
  publicKey := encodePublicKey (Ed25519.verifyingKey Core.StandIn.seed)
  pqPublicKey := none
  signature := ""
  pqSignature := none
  cryptoScheme := .ed25519
  issuedAt := 0
  expiresAt := 10
  agentType := .instance
  parentId := none
  spiffeId := none

def server : A2aServer where
  daemon :=
    { supervisor := Supervisor.register
        (Supervisor.register ∅ (Daemon.StandIn.config "scout")) (Daemon.StandIn.config "helper")
      auditDb _ := none
      cardFile name := if name = "scout" then .content "card" else .absent
      logFile _ := .absent }
  tasks := ∅
  requireAuth := true

def input : String :=
  "sig1=(\"@method\" \"@target-uri\" \"@authority\");created=0;expires=10;keyid=\"scout\";nonce=\"1\";alg=\"ed25519\""

def unsigned : Request where
  method := "POST"
  uri := ⟨"/control/revoke", "/control/revoke", none⟩
  headers := [("host", .ofText "localhost"), ("x-clawid-agent", .ofText "scout"),
    ("signature-input", .ofText input)]
  body := .ok []

/-- An order with the scout's Ed25519 signature and one of two bodies. -/
def order (body : List UInt8) : Request :=
  let sigB64 := sign Core.StandIn.seed (signatureBase unsigned input).toUTF8
  { unsigned with
    headers := unsigned.headers ++ [("signature", .ofText s!"sig1=:{sigB64}:")], body := .ok body }

def stopScout : List UInt8 := HeaderValue.ofText "\x7b\"agent_name\":\"scout\"\x7d"

def stopHelper : List UInt8 := HeaderValue.ofText "\x7b\"agent_name\":\"helper\"\x7d"

scoped instance Files.cards : FromStr AgentCard := Core.StandIn.parser [("card", callerCard)]

scoped instance Files.orders : FromSlice RevokeRequest :=
  slices [(stopScout, ⟨"scout", none⟩), (stopHelper, ⟨"helper", none⟩)]

open scoped Files

theorem order_caller (body : List UInt8) :
    A2a.callerCard server.daemon (order body) = .ok (some callerCard) := by
  have named : ((order body).header "x-clawid-agent").bind HeaderValue.toStr = some "scout" :=
    HeaderValue.toStr_ofText (forall_of_all (by decide))
  have managed : ∃ info, server.daemon.supervisor.getAgent "scout" = some info ∧
      info.name = "scout" :=
    ⟨_, rfl, rfl⟩
  obtain ⟨info, found, name⟩ := managed
  have read : FromStr.fromStr "card" = Except.ok callerCard := Core.StandIn.parser_head _ _ _
  have filed : server.daemon.cardFile info.name = .content "card" := by
    rw [name]
    rfl
  simp only [A2a.callerCard, named, found, filed, read, bind, Except.bind]

theorem order_signs (body : List UInt8) :
    Signs server.daemon (order body) (signatureBase (order body) input) callerCard :=
  signs_ofSign Core.StandIn.ed25519_correct (order_caller body) rfl rfl rfl (forall_of_all (by decide))

theorem order_classical (body : List UInt8) :
    (order body).header "x-clawid-pq-signature" = none := rfl

theorem order_accepted (body : List UInt8) : signatureOk server.daemon (order body) = true :=
  (signatureOk_iff _ _).mpr ⟨_, _, order_signs body, fun offered => absurd (order_classical body) offered.1⟩

theorem scout_stopped : (handleControlRevoke server (order stopScout)).stopped = some "scout" :=
  (handleControlRevoke_stopped _ _ _).mpr ⟨order_accepted stopScout, ⟨none, rfl⟩, _, rfl⟩

end StandIn

open scoped StandIn.Files

/-- The scout stops itself with its Ed25519 key alone. -/
theorem revoke_classical :
    ¬ ∀ (server : A2aServer) (request : Request) (name : String),
      (handleControlRevoke server request).stopped = some name →
      PqVerified server.daemon request := by
  intro authority
  obtain ⟨_, _, _, _, _, header, _, _, present, _⟩ := authority _ _ _ StandIn.scout_stopped
  rw [StandIn.order_classical] at present
  cases present

end

end GrokingClawId.Daemon.A2a
