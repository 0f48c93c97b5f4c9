import GrokingClawId.Lib.Unwinding
import GrokingClawId.Daemon.A2aTerminal

/-!
# The A2A server over HTTP

The router of `a2a.rs` with the public cards of the daemon and of its agents. With authentication
required, a client that signs nothing changes nothing, and what it is told does not depend on what the
others have done.
-/

namespace GrokingClawId.Core
open Text

/-! ### Cards for other agents -/

structure A2aProvider where
  organization : String
  url : String

structure A2aCapabilities where
  streaming : Bool
  pushNotifications : Bool
  stateTransitionHistory : Bool

structure A2aAuthentication where
  schemes : List String
  publicKey : String
  pqPublicKey : Option String
  cryptoScheme : CryptoScheme

structure A2aSkill where
  id : String
  name : String
  description : String

structure A2aAgentCard where
  name : String
  description : String
  url : String
  provider : A2aProvider
  capabilities : A2aCapabilities
  authentication : A2aAuthentication
  skills : List A2aSkill

def A2aSkill.ofScope (scope : String) (i : Nat) : A2aSkill :=
  ⟨s!"skill-{i}", scope, s!"Authorized scope: {scope}"⟩

def AgentCard.toA2a (card : AgentCard) (baseUrl : String) : A2aAgentCard where
  name := card.name
  description := s!"Agent {card.name} ({card.agentType.serialize}), owner: {card.owner}"
  url := String.ofList (baseUrl.toList.rdropWhile (· == '/')) ++ "/agents/" ++ card.id.toText
  provider := ⟨card.owner, baseUrl⟩
  capabilities := ⟨false, false, true⟩
  authentication := ⟨["ed25519-jws"], card.publicKey, card.pqPublicKey, card.cryptoScheme⟩
  skills := card.scopes.zipIdx.map fun (scope, i) => .ofScope scope i

/-- The derived serialization, with the renamed fields of the structures that rename them. -/
def A2aAgentCard.toValue (card : A2aAgentCard) : Json := .obj
  [("name", .str card.name), ("description", .str card.description), ("url", .str card.url),
    ("provider", .obj [("organization", .str card.provider.organization), ("url", .str card.provider.url)]),
    ("capabilities", .obj [("streaming", .bool card.capabilities.streaming),
      ("pushNotifications", .bool card.capabilities.pushNotifications),
      ("stateTransitionHistory", .bool card.capabilities.stateTransitionHistory)]),
    ("authentication", .obj <|
      [("schemes", .arr (card.authentication.schemes.map .str)),
        ("public_key", .str card.authentication.publicKey)] ++
      optionalField "pq_public_key" card.authentication.pqPublicKey ++
      [("crypto_scheme", .str card.authentication.cryptoScheme.serialize)]),
    ("skills", .arr (card.skills.map fun skill => .obj
      [("id", .str skill.id), ("name", .str skill.name), ("description", .str skill.description)]))]

end GrokingClawId.Core

namespace GrokingClawId.Daemon.A2a
open GrokingClawId.Core Text

/-! ### Responses -/

structure HttpResponse where
  status : Nat
  headers : List (String × String)
  body : String

def corsHeaders : List (String × String) :=
  [("Access-Control-Allow-Origin", "*"), ("Access-Control-Allow-Methods", "GET, POST, OPTIONS"),
    ("Access-Control-Allow-Headers",
      "Content-Type, Authorization, Signature, Signature-Input, X-ClawID-Agent, X-ClawID-PQ-Signature")]

def jsonResponse (response : Response) : HttpResponse :=
  ⟨response.status, ("Content-Type", "application/json") :: corsHeaders, response.body.render⟩

def corsResponse (status : Nat) : HttpResponse := ⟨status, corsHeaders, ""⟩

/-! ### Cards -/

/-- The server with what its cards are made of. -/
structure HttpServer where
  rpc : A2aServer
  baseUrl : String
  daemonCard : Option AgentCard

def loadDaemonCard [FromStr AgentCard] (cardPath : String) : TextFile → Except String (Option AgentCard)
  | .absent => .ok none
  | .unreadable _ => .error s!"Failed to read daemon card: {cardPath}"
  | .content json => do
    let card ← (FromStr.fromStr json : Except String AgentCard).mapError fun _ =>
      s!"Failed to parse daemon card: {cardPath}"
    .ok (some card)

def handleDaemonCard (server : HttpServer) : Response :=
  match server.daemonCard with
  | some card => ⟨200, (card.toA2a server.baseUrl).toValue⟩
  | none => ⟨404, .obj [("error", .str "Daemon card not configured. Run `grokingclawid issue` first.")]⟩

/-- The card of an agent that has none of its own. -/
def minimalCard (baseUrl name : String) (info : AgentInfo) : Json := .obj
  [("authentication", .obj [("cryptoScheme", .str "hybrid"), ("schemes", .arr [.str "clawid-pq"])]),
    ("capabilities", .obj [("pushNotifications", .bool false), ("stateTransitionHistory", .bool true),
      ("streaming", .bool false)]),
    ("description", .str s!"Agent {info.name} (template: {info.template})"), ("name", .str info.name),
    ("provider", .obj [("organization", .str "GrokingClaw"), ("url", .str baseUrl)]),
    ("skills", .arr (info.allowedScopes.zipIdx.map fun (scope, i) => .obj
      [("description", .str s!"Authorized scope: {scope}"), ("id", .str s!"skill-{i}"),
        ("name", .str scope)])),
    ("url", .str s!"{baseUrl}/agents/{name}"), ("version", .str "1.0.0")]

def handleAgentCard [FromStr AgentCard] (server : HttpServer) (name : String) : Except String Response :=
  match server.rpc.daemon.supervisor.getAgent name with
  | none => .ok ⟨404, .obj [("error", .str s!"Agent '{name}' not found")]⟩
  | some info =>
    match server.rpc.daemon.cardFile name with
    | .absent => .ok ⟨200, minimalCard server.baseUrl name info⟩
    | .unreadable e => .error e
    | .content json => do
      let card ← (FromStr.fromStr json : Except String AgentCard)
      .ok ⟨200, (card.toA2a s!"{server.baseUrl}/agents/{name}").toValue⟩

/-! ### What is public -/

/-- What a card shows of an agent. -/
def AgentInfo.shown (info : AgentInfo) : String × String × List String :=
  (info.name, info.template, info.allowedScopes)

/-- The servers make the same cards, for the same callers. -/
structure SamePublic (server other : HttpServer) : Prop where
  baseUrl : other.baseUrl = server.baseUrl
  daemonCard : other.daemonCard = server.daemonCard
  requireAuth : other.rpc.requireAuth = server.rpc.requireAuth
  cardFile : other.rpc.daemon.cardFile = server.rpc.daemon.cardFile
  agents : ∀ name, (other.rpc.daemon.supervisor.getAgent name).map AgentInfo.shown =
    (server.rpc.daemon.supervisor.getAgent name).map AgentInfo.shown

namespace SamePublic
variable {server other third : HttpServer}

theorem refl (server : HttpServer) : SamePublic server server := ⟨rfl, rfl, rfl, rfl, fun _ => rfl⟩

theorem symm (same : SamePublic server other) : SamePublic other server :=
  ⟨same.baseUrl.symm, same.daemonCard.symm, same.requireAuth.symm, same.cardFile.symm,
    fun name => (same.agents name).symm⟩

theorem trans (first : SamePublic server other) (second : SamePublic other third) :
    SamePublic server third :=
  ⟨second.baseUrl.trans first.baseUrl, second.daemonCard.trans first.daemonCard,
    second.requireAuth.trans first.requireAuth, second.cardFile.trans first.cardFile,
    fun name => (second.agents name).trans (first.agents name)⟩

theorem callers (same : SamePublic server other) : SameCallers server.rpc.daemon other.rpc.daemon where
  name agent := by
    have shown := congrArg (Option.map Prod.fst) (same.agents agent)
    rw [Option.map_map, Option.map_map] at shown
    exact shown
  cardFile := same.cardFile

end SamePublic

theorem stopAgent_shown {supervisor stopped : Supervisor} {name : String}
    (ok : supervisor.stopAgent name = .ok stopped) (other : String) :
    (stopped.getAgent other).map AgentInfo.shown = (supervisor.getAgent other).map AgentInfo.shown := by
  by_cases same : other = name
  · subst same
    obtain ⟨agent, found, rfl⟩ := Supervisor.stopAgent_ok ok
    simp only [Supervisor.getAgent, AList.lookup_insert, found]
    rfl
  · simp only [Supervisor.getAgent, Supervisor.stopAgent_other ok same]

/-! ### Router -/

def cardPath : String := "/.well-known/agent-card.json"

/-- The agent whose card is asked for; where the two ends of the path overlap there is no name. -/
def cardAgent (path : String) : Option String :=
  if "/agents/".toList.isPrefixOf path.toList && cardPath.toList.isSuffixOf path.toList then
    some (String.ofList
      (((stripPrefix "/agents/".toList path.toList).bind (stripSuffix cardPath.toList)).getD []))
  else none

def HttpServer.discovery [FromStr AgentCard] (server : HttpServer) (request : Request) :
    Except String Response :=
  if request.method = "GET" ∧ request.uri.path = cardPath then .ok (handleDaemonCard server)
  else
    match if request.method = "GET" then cardAgent request.uri.path else none with
    | some name => handleAgentCard server name
    | none => .ok ⟨404, .obj [("error", .str "not found")]⟩

theorem SamePublic.discovery [FromStr AgentCard] {server other : HttpServer}
    (same : SamePublic server other) (request : Request) :
    other.discovery request = server.discovery request := by
  have agentCard (name : String) : handleAgentCard other name = handleAgentCard server name := by
    have shown := same.agents name
    unfold handleAgentCard
    rw [same.cardFile, same.baseUrl]
    cases found : server.rpc.daemon.supervisor.getAgent name with
    | none =>
      rw [found, Option.map_none, Option.map_eq_none_iff] at shown
      rw [shown]
    | some info =>
      rw [found, Option.map_some, Option.map_eq_some_iff] at shown
      obtain ⟨info', found', alike⟩ := shown
      obtain ⟨names, rest⟩ := Prod.mk.inj alike
      obtain ⟨templates, scopes⟩ := Prod.mk.inj rest
      rw [found']
      simp only [minimalCard, names, templates, scopes]
  simp only [HttpServer.discovery, handleDaemonCard, same.daemonCard, same.baseUrl, agentCard]

section Router
variable [Ed25519] [MlDsa65] [Sha256] [Chrono] [Unicode] [FromStr AgentCard] [FromSlice RevokeRequest]
  [FromSlice JsonRpcRequest]

def HttpServer.route (server : HttpServer) (arrival : Arrival) : HttpServer × Except String Response :=
  if arrival.request.isRpc then
    let (rpc, result) := handleA2aRpc server.rpc arrival.request arrival.draws
    ({ server with rpc }, result)
  else if arrival.request.isRevoke then
    let revocation := handleControlRevoke server.rpc arrival.request
    ({ server with rpc := revocation.server }, revocation.response)
  else (server, server.discovery arrival.request)

def HttpServer.handleRequest (server : HttpServer) (arrival : Arrival) : HttpServer × HttpResponse :=
  if arrival.request.method = "OPTIONS" then (server, corsResponse 204)
  else
    match server.route arrival with
    | (server, .ok response) => (server, jsonResponse response)
    | (server, .error e) => (server, jsonResponse ⟨500, .obj [("error", .str e)]⟩)

/-! ### One request -/

omit [FromSlice RevokeRequest] in
theorem handleA2aRpc_requireAuth (server : A2aServer) (request : Request) (draws : Draws) :
    (handleA2aRpc server request draws).1.requireAuth = server.requireAuth := by
  unfold handleA2aRpc
  dsimp only
  split
  · rfl
  · cases request.body with
    | error e => rfl
    | ok bodyBytes =>
      dsimp only
      cases (FromSlice.fromSlice bodyBytes : Except String JsonRpcRequest) <;> rfl

/-- The router takes the step of the two endpoints behind it. -/
theorem handleRequest_state (server : HttpServer) (arrival : Arrival) :
    (server.handleRequest arrival).1 = { server with rpc := server.rpc.step arrival } := by
  have routed : (server.route arrival).1 = { server with rpc := server.rpc.step arrival } := by
    unfold HttpServer.route A2aServer.step
    split
    · rfl
    · split <;> rfl
  unfold HttpServer.handleRequest
  split
  · rename_i options
    have quiet : server.rpc.step arrival = server.rpc := by
      have other (posted : arrival.request.method = "POST") : False :=
        absurd (options.symm.trans posted) (by decide)
      unfold A2aServer.step
      rw [if_neg (fun rpc => other rpc.1), if_neg (fun revoke => other revoke.1)]
    rw [quiet]
  · rw [← routed]
    rcases server.route arrival with ⟨_, result⟩
    cases result <;> rfl

theorem handleRequest_public (server : HttpServer) (arrival : Arrival) :
    SamePublic server (server.handleRequest arrival).1 := by
  rw [handleRequest_state]
  unfold A2aServer.step
  split
  · refine ⟨rfl, rfl, handleA2aRpc_requireAuth _ _ _, ?_, fun name => ?_⟩ <;> rw [handleA2aRpc_daemon]
  · split
    · rcases handleControlRevoke_cases server.rpc arrival.request with
        ⟨_, same⟩ | ⟨name, _, _, _, supervisor, stopped, same⟩
      · rw [same]
        exact .refl server
      · rw [same]
        exact ⟨rfl, rfl, rfl, rfl, stopAgent_shown stopped⟩
    · exact .refl server

/-- The request is signed by a managed agent and for an endpoint that asks for it. -/
def HttpServer.authorizes (server : HttpServer) (request : Request) : Bool :=
  decide (request.isRpc ∨ request.isRevoke) && signatureOk server.rpc.daemon request

omit [Sha256] [Chrono] [Unicode] [FromSlice RevokeRequest] [FromSlice JsonRpcRequest] in
theorem SamePublic.authorizes {server other : HttpServer} (same : SamePublic server other)
    (request : Request) :
    other.authorizes request = server.authorizes request := by
  rw [HttpServer.authorizes, HttpServer.authorizes, same.callers.signatureOk]

/-- A request that is not authorized is answered from what is public and changes nothing. -/
theorem handleRequest_unsigned {server other : HttpServer} (required : server.rpc.requireAuth = true)
    (same : SamePublic server other) {arrival : Arrival}
    (unsigned : server.authorizes arrival.request = false) :
    (server.handleRequest arrival).1 = server ∧
      (other.handleRequest arrival).2 = (server.handleRequest arrival).2 := by
  have required' : other.rpc.requireAuth = true := same.requireAuth.trans required
  have refused (there : arrival.request.isRpc ∨ arrival.request.isRevoke) :
      signatureOk server.rpc.daemon arrival.request = false := by
    rw [HttpServer.authorizes, decide_eq_true there, Bool.true_and] at unsigned
    exact unsigned
  have refused' (there : arrival.request.isRpc ∨ arrival.request.isRevoke) :
      signatureOk other.rpc.daemon arrival.request = false :=
    (same.callers.signatureOk arrival.request).trans (refused there)
  obtain ⟨result, routed, routed'⟩ : ∃ result, server.route arrival = (server, result) ∧
      other.route arrival = (other, result) := by
    unfold HttpServer.route
    by_cases rpc : arrival.request.isRpc
    · rw [if_pos rpc, if_pos rpc]
      simp [handleA2aRpc, required, required', refused (.inl rpc), refused' (.inl rpc)]
    · rw [if_neg rpc, if_neg rpc]
      by_cases revoke : arrival.request.isRevoke
      · rw [if_pos revoke, if_pos revoke]
        simp [handleControlRevoke, refused (.inr revoke), refused' (.inr revoke)]
      · rw [if_neg revoke, if_neg revoke, same.discovery]
        exact ⟨_, rfl, rfl⟩
  unfold HttpServer.handleRequest
  rw [routed, routed']
  split
  · exact ⟨rfl, rfl⟩
  · cases result <;> exact ⟨rfl, rfl⟩

/-! ### Runs -/

/-- The state after the requests, and each of them with its answer. -/
def HttpServer.exchange (server : HttpServer) (arrivals : List Arrival) :
    HttpServer × List (Arrival × HttpResponse) :=
  Unwinding.exchange HttpServer.handleRequest server arrivals

/-- What clients without a signature are told does not depend on what the others do, nor on anything of
the server that is not public: each request is answered as if it came first. -/
theorem unsigned_told {server other : HttpServer} (required : server.rpc.requireAuth = true)
    (same : SamePublic server other) (arrivals : List Arrival) :
    (server.exchange arrivals).2.filter (fun pair => !server.authorizes pair.1.request) =
      (arrivals.filter fun arrival => !server.authorizes arrival.request).map fun arrival =>
        (arrival, (other.handleRequest arrival).2) := by
  have unwinds : Unwinding.Unwinds HttpServer.handleRequest
      (fun s t => SamePublic server s ∧ SamePublic server t) (fun arrival =>
        !server.authorizes arrival.request) := by
    refine ⟨fun s t i ⟨left, right⟩ _ => ⟨left.trans (handleRequest_public s i), right⟩,
      fun s t i ⟨left, right⟩ _ =>
        ⟨left.trans (handleRequest_public s i), right.trans (handleRequest_public t i)⟩,
      fun s t i ⟨left, right⟩ seen => ?_⟩
    have unsigned : s.authorizes i.request = false := by
      rw [left.authorizes]
      exact Bool.not_eq_true' _ ▸ seen
    exact (handleRequest_unsigned (left.requireAuth.trans required) (left.symm.trans right) unsigned).2.symm
  have told := (Unwinding.exchange_purged unwinds ⟨.refl server, same⟩ arrivals).2
  refine told.trans ?_
  rw [Unwinding.exchange_idle fun i member => ?_]
  have unsigned : other.authorizes i.request = false := by
    rw [same.authorizes]
    exact Bool.not_eq_true' _ ▸ (List.mem_filter.mp member).2
  exact (handleRequest_unsigned (same.requireAuth.trans required) (.refl other) unsigned).1

/-- Requests without a signature leave no trace: the state and the answers to the others are what they
are without them. -/
theorem unsigned_traceless {server : HttpServer} (required : server.rpc.requireAuth = true)
    (arrivals : List Arrival) :
    (server.exchange arrivals).1 =
    (server.exchange (arrivals.filter fun a => server.authorizes a.request)).1 ∧
      (server.exchange arrivals).2.filter (fun pair => server.authorizes pair.1.request) =
        (server.exchange (arrivals.filter fun a => server.authorizes a.request)).2 := by
  have unwinds : Unwinding.Unwinds HttpServer.handleRequest (fun s t => s = t ∧ SamePublic server s)
      (fun arrival => server.authorizes arrival.request) := by
    refine ⟨fun s t i ⟨equal, left⟩ unseen => ?_, fun s t i ⟨equal, left⟩ _ =>
      ?_, fun s t i ⟨equal, _⟩ _ => by rw [equal]⟩
    · have unsigned : s.authorizes i.request = false := by
        rw [left.authorizes]
        exact unseen
      rw [(handleRequest_unsigned (left.requireAuth.trans required) (.refl s) unsigned).1]
      exact ⟨equal, left⟩
    · exact ⟨by rw [equal], left.trans (handleRequest_public s i)⟩
  obtain ⟨⟨states, _⟩, answers⟩ := Unwinding.exchange_purged unwinds ⟨rfl, .refl server⟩ arrivals
  exact ⟨states, answers⟩

end Router

section
open scoped Core.StandIn StandIn.Files

namespace StandIn

def front : HttpServer := ⟨server, "http://localhost", none⟩

/-- The same server later, with a task. -/
def busy : HttpServer := { front with rpc := { server with tasks := (∅ : Tasks).insert "a" finished } }

/-- A client asks for the card of an agent. -/
def asking : Arrival where
  request := { method := "GET", uri := ⟨"", "/agents/helper" ++ cardPath, none⟩, headers := [],
               body := .ok [] }
  draws := ⟨0, 0, Uuid.nil, 0⟩

end StandIn

theorem unsigned_told_card :
    (StandIn.front.exchange [StandIn.arrival StandIn.stopScout 0, StandIn.asking]).2.filter
        (fun pair => !StandIn.front.authorizes pair.1.request) =
      ([StandIn.arrival StandIn.stopScout 0, StandIn.asking].filter
          fun arrival => !StandIn.front.authorizes arrival.request).map
        fun arrival => (arrival, (StandIn.busy.handleRequest arrival).2) :=
  unsigned_told rfl ⟨rfl, rfl, rfl, rfl, fun _ => rfl⟩ _

theorem unsigned_traceless_card :
    (StandIn.front.exchange [StandIn.asking, StandIn.arrival StandIn.stopScout 0]).1 =
        (StandIn.front.exchange ([StandIn.asking, StandIn.arrival StandIn.stopScout 0].filter
          fun arrival => StandIn.front.authorizes arrival.request)).1 ∧
      (StandIn.front.exchange [StandIn.asking, StandIn.arrival StandIn.stopScout 0]).2.filter
          (fun pair => StandIn.front.authorizes pair.1.request) =
        (StandIn.front.exchange ([StandIn.asking, StandIn.arrival StandIn.stopScout 0].filter
          fun arrival => StandIn.front.authorizes arrival.request)).2 :=
  unsigned_traceless rfl _

end
end GrokingClawId.Daemon.A2a
