import GrokingClawId.Lib.JsonOrder
import GrokingClawId.Lib.LineServer
import GrokingClawId.Lib.Utf8
import GrokingClawId.Daemon.A2aTasks
import GrokingClawId.Daemon.Birth
import GrokingClawId.Daemon.LicenseFile
import GrokingClawId.Daemon.Mesh
import GrokingClawId.Daemon.Oauth

/-!
# IPC server

`ipc.rs`: requests of JSON-RPC 2.0, one on each line, and what they call. The methods of the daemon
that are called run in any monad, so that they may be programs that wait or tasks of a server; what
they return is the value that their result is serialized to where nothing else is done with it.
-/

namespace GrokingClawId.Daemon.Ipc
open GrokingClawId.Core Text

structure JsonRpcRequest where
  jsonrpc : String
  id : Option Json
  method : String
  params : Json

structure JsonRpcError where
  code : Int
  message : String
  data : Option Json

structure JsonRpcResponse where
  jsonrpc : String
  id : Option Json
  result : Option Json
  error : Option JsonRpcError

namespace JsonRpcResponse

def success (id : Option Json) (result : Json) : JsonRpcResponse := ⟨"2.0", id, some result, none⟩

def failure (id : Option Json) (code : Int) (message : String) : JsonRpcResponse :=
  ⟨"2.0", id, none, some ⟨code, message, none⟩⟩

/-- In the order of the struct, without the fields that are not there. -/
def toValue (response : JsonRpcResponse) : Json := .obj <|
  [("jsonrpc", .str response.jsonrpc)] ++ (response.id.map fun id => ("id", id)).toList ++
  (response.result.map fun result => ("result", result)).toList ++
  (response.error.map fun error => ("error", Json.obj
    ([("code", .num (toString error.code)), ("message", .str error.message)] ++
      (error.data.map fun data => ("data", data)).toList))).toList

end JsonRpcResponse

/-! ### What is called -/

structure TemplateEntry where
  name : String
  version : String
  description : String
  hasManifest : Bool

structure MeshHandlers (m : Type → Type) where
  status : m MeshState
  connect : m (Except String Unit)
  disconnect : m (Except String Unit)
  listPeers : m (Except String (List MeshPeer))
  ping : String → m (Except String Json)

structure UpdateHandlers (m : Type → Type) where
  check : m (Except String Json)
  applyTemplateUpdates : m (Except String (List String))
  getStatus : m (List Json)

structure OauthHandlers (m : Type → Type) where
  register : String → Json → m (Except String Json)
  authorize : String → String → m (Except String Json)
  callback : String → String → String → String → String → m (Except String Json)
  refresh : String → String → m (Except String Json)
  revoke : String → String → m (Except String Json)
  list : String → m (Except String Json)
  status : String → Option String → m (Except String Json)
  exchange : String → String → m (Except String Json)

/-- The methods of the daemon state and of what it holds. -/
structure Handlers (m : Type → Type) where
  listAgents : m (List AgentInfo)
  getAgent : String → m (Option AgentInfo)
  birthAgent : BirthParams → m (Except String BirthResult)
  startAgent : String → m (Except String Unit)
  stopAgent : String → m (Except String Unit)
  deleteAgent : String → m (Except String Unit)
  readAgentLogs : String → Nat → m (Except String String)
  queryAudit : String → Nat → Bool → m (Except String Json)
  anchorStatus : m (Option Json)
  loadLicense : m LicenseState
  countAgents : m Nat
  uptimeSeconds : m Nat
  requestShutdown : m Unit
  mesh : Option (MeshHandlers m)
  listLocal : m (Except String (List TemplateEntry))
  getTemplate : String → m (Except String (Option Json))
  installTemplate : String → String → m (Except String Unit)
  createFromLocal : String → String → m (Except String Unit)
  updateChecker : m (Option (UpdateHandlers m))
  oauth : OauthHandlers m

structure OAuthSection where
  enabled : Bool
  allowTokenExchange : Bool

/-! ### Methods -/

structure RpcError where
  code : Int
  message : String

/-- What a method answers, without the identifier of the request. -/
abbrev Reply := Except RpcError Json

def asBool : Json → Option Bool
  | .bool b => some b
  | _ => none

/-- `params.get(key).and_then(as_str).unwrap_or("")`. -/
def text (params : Json) (key : String) : String := (strParam params key).getD ""

/-- An error of a method, under a prefix that says which. -/
def answer {α : Type} (label : String) (value : α → Json) : Except String α → Reply
  | .ok a => .ok (value a)
  | .error e => .error ⟨-32000, label ++ e⟩

def peerValue [Chrono] (peer : MeshPeer) : Json := .obj
  [("agent_count", .num (toString peer.agentCount)), ("did", .str peer.did),
    ("last_seen", .str (Chrono.serialize peer.lastSeen)), ("mesh_ip", .str peer.meshIp),
    ("name", .str peer.name)]

def meshValue [Chrono] : MeshState → Json
  | .connected meshIp peers connectedAt => .obj
    [("connected_at", .str (Chrono.toRfc3339 connectedAt)), ("mesh_ip", .str meshIp),
      ("peer_count", .num (toString peers.length)), ("state", .str "connected")]
  | .connecting => .obj [("state", .str "connecting")]
  | .disconnected => .obj [("state", .str "disconnected")]

def BirthMode.serialize : BirthMode → String
  | .mesh => "mesh"
  | .local => "local"
  | .queued => "queued"

def birthValue [Chrono] (result : BirthResult) : Json :=
  match result.agentInfo.toValue with
  | .obj fields =>
    .obj <| Json.sortByKey <| fields ++ [("birth_mode", .str (BirthMode.serialize result.birthMode))] ++
    (result.certificate.map fun certificate => ("certificate_id", Json.str certificate.certificateId)).toList
  | value => value

def done (status : String) (agent : String) : Json :=
  .obj [("agent", .str agent), ("status", .str status)]

def templateValue (template : TemplateEntry) : Json := .obj
  [("description", .str template.description), ("has_manifest", .bool template.hasManifest),
    ("name", .str template.name), ("version", .str template.version)]

def missing (names : String) : Reply := .error ⟨-32602, s!"Missing {names} parameter"⟩

def meshDisabled : Reply := .error ⟨-32000, "Mesh networking is not enabled"⟩

section Methods
variable {m : Type → Type} [Monad m] [Chrono] (handlers : Handlers m)

def status : m Reply := do
  let agents ← handlers.listAgents
  let meshStatus ← match handlers.mesh with
    | some mesh => meshValue <$> mesh.status
    | none => pure (.obj [("state", .str "disabled")])
  let anchorStatus := (← handlers.anchorStatus).getD (.obj [("enabled", .bool false)])
  let lic ← handlers.loadLicense
  let agentCountOnDisk ← handlers.countAgents
  let licenseStatus := Json.obj
    [("agent_count", .num (toString agentCountOnDisk)), ("max_agents", maxValue lic.limits.maxAgents),
      ("tier", .str lic.tier.display)]
  let uptime ← handlers.uptimeSeconds
  pure (.ok (.obj
    [("agents", .arr (agents.map AgentInfo.toValue)), ("agents_count", .num (toString agents.length)),
      ("anchor", anchorStatus), ("daemon", .str "running"), ("license", licenseStatus), ("mesh", meshStatus),
      ("uptime_seconds", .num (toString uptime)), ("version", .str "0.4.1")]))

def shutdown : m Reply := do
  handlers.requestShutdown
  pure (.ok (.obj [("status", .str "shutting_down")]))

def agentsGet (params : Json) : m Reply := do
  let name := text params "name"
  match ← handlers.getAgent name with
  | some info => pure (.ok info.toValue)
  | none => pure (.error ⟨-32001, s!"Agent '{name}' not found"⟩)

def birth [FromValue (List String)] [FromValue ModelConfig] [FromValue ResourceConfig]
    (params : Json) : m Reply :=
  match BirthParams.fromJson params with
  | .error e => pure (.error ⟨-32602, s!"Invalid birth params: {e}"⟩)
  | .ok params => answer "Birth failed: " birthValue <$> handlers.birthAgent params

def agentsLogs (params : Json) : m Reply :=
  let lines := ((params.get "lines").bind Json.asU64).getD 50
  answer "" (fun logs => .obj [("logs", .str logs)]) <$> handlers.readAgentLogs (text params "name") lines

def meshStatusCall : m Reply :=
  match handlers.mesh with
  | some mesh => (fun state => .ok (meshValue state)) <$> mesh.status
  | none => pure (.ok (.obj
    [("message", .str "Mesh networking is not enabled. Set [mesh] enabled = true in daemon.toml"),
      ("state", .str "disabled")]))

def meshConnect : m Reply :=
  match handlers.mesh with
  | some mesh =>
    answer "Mesh connection failed: " (fun _ => .obj [("status", .str "connected")]) <$> mesh.connect
  | none => pure meshDisabled

def meshDisconnect : m Reply :=
  match handlers.mesh with
  | some mesh =>
    answer "Mesh disconnect failed: " (fun _ => .obj [("status", .str "disconnected")]) <$> mesh.disconnect
  | none => pure meshDisabled

def meshPeers : m Reply :=
  match handlers.mesh with
  | some mesh =>
    answer "Failed to list peers: " (fun peers => .obj [("peers", .arr (peers.map peerValue))]) <$>
      mesh.listPeers
  | none => pure (.ok (.obj [("peers", .arr [])]))

def meshPing (params : Json) : m Reply :=
  let did := text params "did"
  if did.isEmpty then pure (missing "'did'")
  else
    match handlers.mesh with
    | some mesh => answer "Ping failed: " (fun value => value) <$> mesh.ping did
    | none => pure meshDisabled

def templatesList : m Reply :=
  answer "Failed to list templates: "
    (fun templates => .obj [("templates", .arr (templates.map templateValue))]) <$> handlers.listLocal

def templatesInspect (params : Json) : m Reply :=
  let name := text params "name"
  if name.isEmpty then pure (missing "'name'")
  else do
    match ← handlers.getTemplate name with
    | .ok (some manifest) => pure (.ok manifest)
    | .ok none => pure (.error ⟨-32001, s!"Template '{name}' not found"⟩)
    | .error e => pure (.error ⟨-32000, s!"Failed to inspect template: {e}"⟩)

def templatesInstall (params : Json) : m Reply :=
  let name := text params "name"
  let version := (strParam params "version").getD "latest"
  if name.isEmpty then pure (missing "'name'")
  else answer "Install failed: " (fun _ => .obj
    [("status", .str "installed"), ("template", .str name), ("version", .str version)]) <$>
      handlers.installTemplate name version

def templatesCreate (params : Json) : m Reply :=
  let name := text params "name"
  let source := text params "source"
  if name.isEmpty || source.isEmpty then pure (missing "'name' or 'source'")
  else answer "Create failed: " (fun _ => .obj [("status", .str "created"), ("template", .str name)]) <$>
    handlers.createFromLocal name source

def auditQuery (params : Json) : m Reply :=
  let name := text params "name"
  let last := ((params.get "last").bind Json.asU64).getD 20
  let verify := ((params.get "verify").bind asBool).getD false
  if name.isEmpty then pure (missing "'name'")
  else answer "Audit query failed: " (fun value => value) <$> handlers.queryAudit name last verify

def updateCheck : m Reply := do
  match ← handlers.updateChecker with
  | some checker => answer "Update check failed: " (fun value => value) <$> checker.check
  | none =>
    pure (.ok (.obj [("available_updates", .arr []), ("message", .str "Update checker not initialized")]))

def updateApply : m Reply := do
  match ← handlers.updateChecker with
  | some checker =>
    answer "Update apply failed: " (fun applied => .obj
      [("applied", .arr (applied.map .str)), ("count", .num (toString applied.length))]) <$>
        checker.applyTemplateUpdates
  | none => pure (.error ⟨-32000, "Update checker not initialized"⟩)

def updateStatus : m Reply := do
  match ← handlers.updateChecker with
  | some checker => (fun updates => .ok (.obj [("available_updates", .arr updates)])) <$> checker.getStatus
  | none => pure (.ok (.obj [("available_updates", .arr [])]))

def licenseStatus : m Reply := do
  let lic ← handlers.loadLicense
  let agentCount ← handlers.countAgents
  pure (.ok (.obj
    [("agent_count", .num (toString agentCount)),
      ("features", .arr (lic.limits.features.map fun feature => .str feature.display)),
      ("licensee", .str (lic.licenseeEmail.getD "(free tier)")),
        ("max_agents", maxValue lic.limits.maxAgents),
      ("max_mesh_nodes", maxValue lic.limits.maxMeshNodes),
        ("max_proxies", maxValue lic.limits.maxProxyAgents),
      ("tier", .str lic.tier.display)]))

/-- A method of the OAuth bridge, which is refused while the bridge is off. -/
def bridged (on : Bool) (refusal label : String) (run : m (Except String Json)) : m Reply :=
  if !on then pure (.error ⟨-32000, refusal⟩) else answer (label ++ " failed: ") (fun value => value) <$> run

def oauthCall (oauth : OAuthSection) (label : String) (run : m (Except String Json)) : m Reply :=
  bridged oauth.enabled "OAuth bridge is disabled" label run

end Methods

section Dispatch
variable {m : Type → Type} [Monad m] [Chrono] [FromValue (List String)] [FromValue ModelConfig]
  [FromValue ResourceConfig]

/-- The arms of `dispatch`. -/
def call (handlers : Handlers m) (oauth : OAuthSection) (method : String) (params : Json) :
    m Reply :=
  let name := text params "name"
  let agentName := text params "agent"
  let registrationId := text params "registration_id"
  match method with
  | "status" => status handlers
  | "shutdown" => shutdown handlers
  | "agents.list" => (fun agents => .ok (.arr (agents.map AgentInfo.toValue))) <$> handlers.listAgents
  | "agents.get" => agentsGet handlers params
  | "birth" => birth handlers params
  | "agents.start" => answer "" (fun _ => done "started" name) <$> handlers.startAgent name
  | "agents.stop" => answer "" (fun _ => done "stopped" name) <$> handlers.stopAgent name
  | "agents.delete" => answer "" (fun _ => done "deleted" name) <$> handlers.deleteAgent name
  | "agents.logs" => agentsLogs handlers params
  | "mesh.status" => meshStatusCall handlers
  | "mesh.connect" => meshConnect handlers
  | "mesh.disconnect" => meshDisconnect handlers
  | "mesh.peers" => meshPeers handlers
  | "mesh.ping" => meshPing handlers params
  | "templates.list" => templatesList handlers
  | "templates.inspect" => templatesInspect handlers params
  | "templates.install" => templatesInstall handlers params
  | "templates.create" => templatesCreate handlers params
  | "audit.query" => auditQuery handlers params
  | "update.check" => updateCheck handlers
  | "update.apply" => updateApply handlers
  | "update.status" => updateStatus handlers
  | "license.status" => licenseStatus handlers
  | "oauth.register" => oauthCall oauth method (handlers.oauth.register agentName params)
  | "oauth.authorize" => oauthCall oauth method (handlers.oauth.authorize agentName registrationId)
  | "oauth.callback" => oauthCall oauth method (handlers.oauth.callback agentName registrationId
      (text params "code") (text params "code_verifier") (text params "redirect_uri"))
  | "oauth.refresh" => oauthCall oauth method (handlers.oauth.refresh agentName registrationId)
  | "oauth.revoke" => oauthCall oauth method (handlers.oauth.revoke agentName registrationId)
  | "oauth.list" => oauthCall oauth method (handlers.oauth.list agentName)
  | "oauth.status" =>
    oauthCall oauth method (handlers.oauth.status agentName (strParam params "registration_id"))
  | "oauth.exchange" => bridged (oauth.enabled && oauth.allowTokenExchange)
      "OAuth token exchange is disabled" method (handlers.oauth.exchange agentName registrationId)
  | _ => pure (.error ⟨-32601, s!"Method not found: {method}"⟩)

def respond (id : Option Json) : Reply → JsonRpcResponse
  | .ok result => .success id result
  | .error e => .failure id e.code e.message

def dispatch (handlers : Handlers m) (oauth : OAuthSection) (request : JsonRpcRequest) :
    m JsonRpcResponse :=
  respond request.id <$> call handlers oauth request.method request.params

/-! ### Connections -/

def newlineByte : UInt8 := 10

variable [FromStr JsonRpcRequest] {D : Type}

/-- What `handle_connection` does with a line: text that is not UTF-8 ends the connection, a blank
line is skipped. -/
def understand (handlers : Handlers (Task D)) (oauth : OAuthSection) (line : List UInt8) :
    LineServer.Request D JsonRpcResponse :=
  match Utf8.decode line with
  | none => .broken
  | some line =>
    let trimmed := trim line.toList
    if trimmed.isEmpty then .blank
    else
      match (FromStr.fromStr (String.ofList trimmed) : Except String JsonRpcRequest) with
      | .ok request => .task (dispatch handlers oauth request)
      | .error e => .task (.done (.failure none (-32700) s!"Parse error: {e}"))

def handleConnection (handlers : Handlers (Task D)) (oauth : OAuthSection) :
    LineServer.Service D UInt8 JsonRpcResponse where
  sep := newlineByte
  understand := understand handlers oauth
  encode response := Utf8.encode response.toValue.render

end Dispatch
end GrokingClawId.Daemon.Ipc
