import GrokingClawId.Cli.Verify

/-!
# Guard

`guard.rs`: the loop that stands between an agent and an MCP server. Each line the agent sends
is answered, written to the server or dropped. The clocks and the revocation registry are read
while a line is handled; what they answer comes with the line.
-/

namespace GrokingClawId.Cli.Guard
open GrokingClawId.Core Text

/-! ### Messages -/

structure JsonRpcRequest where
  jsonrpc : String
  id : Json
  method : String
  params : Json

structure JsonRpcError where
  code : Int
  message : String
  data : Option Json

structure JsonRpcResponse where
  jsonrpc : String
  id : Json
  result : Option Json
  error : Option JsonRpcError

def textContent (text : String) : Json :=
  .obj [("content", .arr [.obj [("text", .str text), ("type", .str "text")]])]

def errorResponse (id : Json) (code : Int) (message : String) : JsonRpcResponse :=
  { jsonrpc := "2.0", id := id, result := none, error := some { code, message, data := none } }

def JsonRpcRequest.toolName (request : JsonRpcRequest) : Option String :=
  if request.method = "tools/call" then (request.params.get "name").bind Json.asStr else none

def initMethods : List String := ["initialize", "initialized", "tools/list", "ping"]

def JsonRpcRequest.agentCard (request : JsonRpcRequest) : Option String :=
  let args := (request.params.get "arguments").getD .null
  match args.get "agent_card" with
  | some (.str s) => some s
  | some (.obj fields) => some (Json.render (.obj fields))
  | _ => none

/-! ### Session state -/

structure GuardState where
  authenticated : Bool
  agentCard : Option AgentCard
  allowedScopes : List String
  requirePq : Bool
  requestCount : Nat
  blockedCount : Nat
  authFailures : Nat
  /-- An instant in nanoseconds. -/
  lastFailureTime : Option Nat

def GuardState.new (allowedScopes : List String) (requirePq : Bool) : GuardState where
  authenticated := false
  agentCard := none
  allowedScopes := allowedScopes
  requirePq := requirePq
  requestCount := 0
  blockedCount := 0
  authFailures := 0
  lastFailureTime := none

/-- What the clocks and the registry answer while a line is handled: the instant of the rate limit
check, the instant at which a failure is noted, the time, and the registry. -/
structure Moment where
  instant : Nat
  failedAt : Nat
  now : DateTime
  registry : Registry

/-- The rate limit: the seconds to wait, or the state to go on with. -/
def GuardState.rateLimit (state : GuardState) (instant : Nat) : Except Nat GuardState :=
  if 10 ≤ state.authFailures then
    match state.lastFailureTime with
    | some last =>
      let elapsed := (instant - last) / 1000000000
      if elapsed < 60 then .error (60 - elapsed)
      else .ok { state with authFailures := 0, lastFailureTime := none }
    | none => .ok state
  else .ok state

/-- A failed attempt; some failures are noted for the rate limit. -/
structure Rejection where
  noted : Bool
  code : Int
  message : String

def GuardState.reject (state : GuardState) (rejection : Rejection) (failedAt : Nat) : GuardState :=
  if rejection.noted then
    { state with authFailures := state.authFailures + 1, lastFailureTime := some failedAt }
  else state

def GuardState.accept (state : GuardState) (card : AgentCard) : GuardState :=
  { state with authFailures := 0, lastFailureTime := none, authenticated := true, agentCard := some card }

def hasScope (card : AgentCard) (required : String) : Bool :=
  card.scopes.any fun s => s == required || s == "*" || s == "admin"

section Authenticate
variable [Ed25519] [MlDsa65] [Chrono]

/-- The card as the guard writes it for verification. -/
def guardPayload (card : AgentCard) : String := Json.render card.unsigned.toValue

def checkEd25519 (card : AgentCard) : Except Rejection Unit :=
  match verify card.publicKey (guardPayload card).toUTF8 card.signature with
  | .error e => .error ⟨false, -32002, s!"Ed25519 verification error: {e}"⟩
  | .ok false => .error ⟨true, -32002, "Invalid Ed25519 signature on agent card."⟩
  | .ok true => .ok ()

def checkMldsa (requirePq : Bool) (card : AgentCard) : Except Rejection Unit :=
  if requirePq ∨ card.cryptoScheme = .hybrid then
    match card.pqPublicKey, card.pqSignature with
    | none, _ => .error ⟨false, -32002, "Post-quantum signature required but card has no PQ public key."⟩
    | some _, none => .error ⟨false, -32002, "Post-quantum signature required but card has no PQ signature."⟩
    | some pqPub, some pqSig =>
      match mldsaVerify pqPub (guardPayload card).toUTF8 pqSig with
      | .ok true => .ok ()
      | .ok false => .error ⟨false, -32002, "Invalid ML-DSA-65 signature on agent card."⟩
      | .error e => .error ⟨false, -32002, s!"ML-DSA-65 verification error: {e}"⟩
  else .ok ()

variable [Unicode]

/-- The checks on a parsed card, in their order. -/
def checkCard (state : GuardState) (card : AgentCard) (moment : Moment) :
    Except Rejection Unit := do
  checkEd25519 card
  checkMldsa state.requirePq card
  if card.expiresAt ≤ moment.now then
    .error ⟨true, -32002, s!"Agent card expired at {Chrono.toRfc3339 card.expiresAt}"⟩
  else if moment.registry.lists card.id then .error ⟨false, -32002, "Agent card has been revoked."⟩
  else if !state.allowedScopes.all (hasScope card) then
    .error ⟨false, -32003,
      s!"Insufficient scopes. Agent has {debugList card.scopes}, guard requires {debugList state.allowedScopes}."⟩
  else .ok ()

def authenticatedResponse (request : JsonRpcRequest) (card : AgentCard) : JsonRpcResponse :=
  { jsonrpc := "2.0", id := request.id, error := none,
    result := some (textContent
      s!"✅ Authenticated as '{card.name}' ({card.id.toText}). Scopes: {debugList card.scopes}. Session active until {Chrono.toRfc3339 card.expiresAt}.") }

variable [FromStr AgentCard]

def presentedCard (request : JsonRpcRequest) : Except Rejection AgentCard :=
  match request.agentCard with
  | none => .error ⟨false, -32002, "Missing 'agent_card' in arguments. Provide the agent card JSON."⟩
  | some cardJson =>
    match (FromStr.fromStr cardJson : Except String AgentCard) with
    | .ok card => .ok card
    | .error e => .error ⟨false, -32002, s!"Invalid agent card JSON: {e}"⟩

def attempt (state : GuardState) (request : JsonRpcRequest) (moment : Moment) :
    Except Rejection AgentCard := do
  let card ← presentedCard request
  checkCard state card moment
  .ok card

def handleAuthenticate (state : GuardState) (request : JsonRpcRequest) (moment : Moment) :
    GuardState × JsonRpcResponse :=
  match state.rateLimit moment.instant with
  | .error wait =>
    (state, errorResponse request.id (-32005) s!"Too many auth failures. Try again in {wait} seconds.")
  | .ok state =>
    match attempt state request moment with
    | .error rejection =>
      (state.reject rejection moment.failedAt, errorResponse request.id rejection.code rejection.message)
    | .ok card => (state.accept card, authenticatedResponse request card)

end Authenticate

def handleStatus [Chrono] (state : GuardState) (request : JsonRpcRequest) : JsonRpcResponse :=
  let agent (card : AgentCard) : Json := .obj
    [("crypto_scheme", .str card.cryptoScheme.display),
      ("expires_at", .str (Chrono.toRfc3339 card.expiresAt)),
      ("id", .str card.id.toText), ("name", .str card.name), ("scopes", .arr (card.scopes.map .str))]
  let guard : Json := .obj
    [("requests_blocked", .num (toString state.blockedCount)),
      ("requests_total", .num (toString state.requestCount)),
      ("require_pq", .bool state.requirePq), ("required_scopes", .arr (state.allowedScopes.map .str))]
  let status : Json := .obj
    [("agent", Json.ofOption agent state.agentCard), ("authenticated", .bool state.authenticated),
      ("guard", guard)]
  { jsonrpc := "2.0", id := request.id, result := some (textContent (Json.pretty 0 status)), error := none }

/-- Tools are not told apart. -/
def checkScope (state : GuardState) (_toolName : String) : Bool := state.authenticated

def unauthenticatedResponse (request : JsonRpcRequest) : JsonRpcResponse :=
  errorResponse request.id (-32001)
    "Authentication required. Call 'clawid_authenticate' first with your agent card."

def scopeResponse (state : GuardState) (request : JsonRpcRequest) (name : String) :
    JsonRpcResponse :=
  let agent := (state.agentCard.map AgentCard.name).getD "?"
  let scopes (card : AgentCard) : Json := .arr (card.scopes.map .str)
  { jsonrpc := "2.0", id := request.id, result := none,
    error := some
      { code := -32003,
        message := s!"Insufficient scope. Tool '{name}' requires scopes not held by agent '{agent}'.",
        data := some (.obj [("agent_scopes", Json.ofOption scopes state.agentCard),
          ("required_scopes", .arr (state.allowedScopes.map .str))]) } }

/-! ### The loop -/

/-- The arguments of the command that the loop depends on. -/
structure Config where
  scope : String
  requirePq : Bool
  allowUnauthenticatedInit : Bool

def Config.scopes (config : Config) : List String :=
  (config.scope.toList.splitOn ',').map fun s => String.ofList (trim s)

structure Input where
  line : String
  moment : Moment

inductive Event where
  | forward (line : String)
  | respond (response : JsonRpcResponse)

section Loop
variable [Ed25519] [MlDsa65] [Chrono] [Unicode] [FromStr AgentCard] [FromStr JsonRpcRequest]

def handleOther (config : Config) (state : GuardState) (request : JsonRpcRequest) (line : String) :
    GuardState × List Event :=
  if request.method ∈ initMethods ∨ (config.allowUnauthenticatedInit ∧ !state.authenticated) then
    (state, [.forward line])
  else if !state.authenticated then
    ({ state with blockedCount := state.blockedCount + 1 }, [.respond (unauthenticatedResponse request)])
  else
    match request.toolName with
    | some name =>
      if !checkScope state name then
        ({ state with blockedCount := state.blockedCount + 1 }, [.respond (scopeResponse state request name)])
      else (state, [.forward line])
    | none => (state, [.forward line])

def handleRequest (config : Config) (state : GuardState) (request : JsonRpcRequest)
    (input : Input) :
    GuardState × List Event :=
  let state := { state with requestCount := state.requestCount + 1 }
  if request.toolName = some "clawid_authenticate" then
    let (state, response) := handleAuthenticate state request input.moment
    (state, [.respond response])
  else if request.toolName = some "clawid_guard_status" then (state, [.respond (handleStatus state request)])
  else handleOther config state request input.line

/-- One pass of the loop. -/
def handleLine (config : Config) (state : GuardState) (input : Input) : GuardState × List Event :=
  if trim input.line.toList = [] then (state, [])
  else
    match (FromStr.fromStr input.line : Except String JsonRpcRequest) with
    -- Not valid JSON-RPC, forwarded as it is.
    | .error _ => (state, [.forward input.line])
    | .ok request => handleRequest config state request input

def run (config : Config) (inputs : List Input) : GuardState :=
  inputs.foldl (fun state input => (handleLine config state input).1) (.new config.scopes config.requirePq)

@[simp] theorem run_nil (config : Config) :
    run config [] = .new config.scopes config.requirePq := rfl

theorem run_snoc (config : Config) (inputs : List Input) (input : Input) :
    run config (inputs ++ [input]) = (handleLine config (run config inputs) input).1 := by
  simp [run]

end Loop

end GrokingClawId.Cli.Guard
