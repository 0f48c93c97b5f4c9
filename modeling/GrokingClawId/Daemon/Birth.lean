import GrokingClawId.Core.License
import GrokingClawId.Core.Pem
import GrokingClawId.Cli.Verify
import GrokingClawId.Daemon.AgentFiles
import GrokingClawId.Daemon.OauthFlow
import GrokingClawId.Daemon.Templates

/-!
# Birth of an agent

`birth.rs`: an agent is born through the coordination server of the mesh, or locally when that is not
to be had or fails. Both ways write the files of the agent; the daemon then registers the agent from
its `agent.toml`. Parsers, the server and the random draws are parameters.
-/

namespace GrokingClawId.Daemon
open GrokingClawId.Core Text

structure BirthParams where
  template : String
  name : String
  allowedDomains : List String
  allowedScopes : List String
  ttlSeconds : Int64
  model : ModelConfig
  resources : ResourceConfig

/-- `serde_json::from_value::<T>`. -/
class FromValue (T : Type) where
  fromValue : Json → Option T

def FromValue.read {T : Type} [FromValue T] (value : Json) : Option T := FromValue.fromValue value

def asI64 : Json → Option Int64
  | .num text => (parseInt (-9223372036854775808) 9223372036854775807 text.toList).map Int64.ofInt
  | _ => none

/-- The delegations in the parameters are read and not used. -/
def BirthParams.fromJson [FromValue (List String)] [FromValue ModelConfig]
    [FromValue ResourceConfig] (params : Json) : Except String BirthParams := do
  let template ← orErr ((params.get "template").bind Json.asStr) "Missing 'template' parameter"
  let name ← orErr ((params.get "name").bind Json.asStr) "Missing 'name' parameter"
  let scope := fun key => (params.get "scope").bind (Json.get key)
  .ok { template, name,
        allowedDomains := ((scope "allowed_domains").bind FromValue.read).getD [],
        allowedScopes := ((scope "allowed_scopes").bind FromValue.read).getD ["*"],
        ttlSeconds := ((scope "ttl_seconds").bind asI64).getD 2592000,
        model := ((params.get "model").bind FromValue.read).getD {},
        resources := ((params.get "resources").bind FromValue.read).getD {} }

/-- The configuration of the model and of the resources, as they are sent. -/
structure BirthRequest where
  requestId : Uuid
  daemonDid : String
  daemonName : String
  agentName : String
  template : String
  templateVersion : String
  requestedScopes : List String
  allowedDomains : List String
  model : ModelConfig
  memoryMb : Nat
  cpuPercent : Nat
  maxDiskGb : Nat
  ttlSeconds : Int64
  agentPublicKey : String
  agentPqPublicKey : Option String
  cryptoScheme : String
  requestedAt : DateTime
  daemonSignature : String

structure BirthCertificate where
  certificateId : String
  agentDid : String
  agentId : String
  agentName : String
  daemonDid : String
  template : String
  approvedScopes : List String
  approvedDomains : List String
  issuedAt : DateTime
  expiresAt : DateTime
  issuerSignature : String
  validatorRef : String
  trustChain : List String

def BirthCertificate.toValue [Chrono] (certificate : BirthCertificate) : Json := .obj
  [("certificate_id", .str certificate.certificateId), ("agent_did", .str certificate.agentDid),
    ("agent_id", .str certificate.agentId), ("agent_name", .str certificate.agentName),
    ("daemon_did", .str certificate.daemonDid), ("template", .str certificate.template),
    ("approved_scopes", .arr (certificate.approvedScopes.map .str)),
    ("approved_domains", .arr (certificate.approvedDomains.map .str)),
    ("issued_at", .str (Chrono.serialize certificate.issuedAt)),
    ("expires_at", .str (Chrono.serialize certificate.expiresAt)),
    ("issuer_signature", .str certificate.issuerSignature), ("validator_ref", .str certificate.validatorRef),
    ("trust_chain", .arr (certificate.trustChain.map .str))]

inductive BirthMode where
  | mesh | local | queued
  deriving DecidableEq

structure BirthResult where
  agentInfo : AgentInfo
  birthMode : BirthMode
  certificate : Option BirthCertificate

/-- `toml` for the configuration of an agent. -/
class ConfigFormat where
  toStringPretty : AgentConfig → Except String String
  fromStr : String → Except String AgentConfig

def ConfigFormat.RoundTrip [ConfigFormat] : Prop :=
  ∀ config text, ConfigFormat.toStringPretty config = .ok text → ConfigFormat.fromStr text = .ok config

/-- What a birth through the mesh draws and is answered. -/
structure MeshIo where
  seed : Core.Bytes 32
  requestId : Uuid
  hostname : Option String
  requestedAt : DateTime
  server : BirthRequest → Except String HttpAnswer
  fallbackId : Uuid
  createdAt : DateTime
  install : InstallRun

structure LocalIo where
  agentId : Uuid
  now : DateTime
  seed : Core.Bytes 32
  install : InstallRun

/-- The license is loaded for the limits and again for the birth; `mesh` is the client when there is
one and it is connected. -/
structure BirthIo where
  limits : LicenseTier
  license : LicenseTier
  mesh : Option MeshIo
  onDisk : LocalIo

def liftIo {α : Type} (m : DiskM String α) : DiskM Fault α := m.mapError .error

def makeDirs (dir : List String) (names : List String) : DiskM String Unit :=
  DiskM.each names fun name => createDirAll (dir ++ [name])

def BirthParams.info (params : BirthParams) (agentId : Uuid) (did : Option String)
    (createdAt : DateTime) (allowedScopes : List String) : AgentInfo where
  name := params.name
  agentId := agentId
  did := did
  template := params.template
  status := .creating
  pid := none
  createdAt := createdAt
  startedAt := none
  restartCount := 0
  allowedScopes := allowedScopes

section Birth
variable [Ed25519] [Chrono] [ConfigFormat] [FromStr TemplateManifest]

def writeConfig (dir : List String) (config : AgentConfig) : DiskM String Unit := do
  let text ← DiskM.ofExcept (ConfigFormat.toStringPretty config)
  write (dir ++ ["agent.toml"]) (.text text)

/-! ### Local birth -/

def BirthParams.localConfig (params : BirthParams) (io : LocalIo) (expiresAt : DateTime) :
    AgentConfig where
  name := params.name
  template := params.template
  templateVersion := "local"
  agentId := io.agentId
  did := none
  createdAt := io.now
  allowedDomains := params.allowedDomains
  allowedScopes := params.allowedScopes
  expiresAt := some expiresAt
  model := params.model
  resources := params.resources
  restart := {}

/-- The card that the agent signs itself, over its canonical JSON. -/
def BirthParams.localCard (params : BirthParams) (io : LocalIo) (expiresAt : DateTime) :
    AgentCard :=
  let card : AgentCard :=
    { id := io.agentId, name := params.name, owner := "local", scopes := params.allowedScopes,
      publicKey := encodePublicKey (generateKeypair io.seed).2, pqPublicKey := none, signature := "",
      pqSignature := none, cryptoScheme := .ed25519, issuedAt := io.now, expiresAt, agentType := .instance,
      parentId := none, spiffeId := none }
  { card with signature := sign io.seed (Cli.cardSigningPayload card).toUTF8 }

def localExpiry (params : BirthParams) (io : LocalIo) : Outcome DateTime := do
  let ttl ← durationSeconds params.ttlSeconds.toInt
  DateTime.add io.now ttl

/-- The directories and `agent.toml`. -/
def beginLocal (root : List String) (params : BirthParams) (io : LocalIo) (expiresAt : DateTime) :
    DiskM String Unit := do
  let dir := agentDir root params.name
  makeDirs dir ["identity", "audit", "data", "logs", "breadcrumbs"]
  writeConfig dir (params.localConfig io expiresAt)

def writeLocalIdentity (root : List String) (params : BirthParams) (io : LocalIo)
    (expiresAt : DateTime) :
    DiskM String Unit := do
  let dir := agentDir root params.name
  write (dir ++ ["identity", "agent.pem"]) (.text (encodePrivateKeyPem io.seed))
  setPermissions
  write (dir ++ ["identity", "agent.card.json"]) (.text (params.localCard io expiresAt).toStringPretty)

def birthLocal (root : List String) (params : BirthParams) (io : LocalIo) :
    DiskM Fault BirthResult := do
  let expiresAt ← DiskM.ofExcept (localExpiry params io)
  liftIo (beginLocal root params io expiresAt)
  liftIo (writeLocalIdentity root params io expiresAt)
  liftIo (installForAgent root params.template (agentDir root params.name) io.install)
  pure { agentInfo := params.info io.agentId none io.now params.allowedScopes, birthMode := .local,
         certificate := none }

/-! ### Birth via the mesh -/

variable [FromStr Json] [FromStr BirthCertificate]

def getDaemonDid (root : List String) : DiskM String (Option String) := do
  match ← (readToString (root ++ ["identity", "daemon.card.json"])).attempt with
  | .error _ => pure none
  | .ok content =>
    match (FromStr.fromStr content : Except String Json) with
    | .error _ => pure none
    | .ok card => pure ((card.get "did").bind Json.asStr)

def signRequest (root : List String) (payload : String) : DiskM String String := do
  let keyPath := root ++ ["identity", "daemon.pem"]
  if ← DiskM.ask (·.exists keyPath) then
    let pem ← readToString keyPath
    let key ← DiskM.ofExcept (decodePrivateKeyPem pem.toList)
    pure (sign key payload.toUTF8)
  else pure "unsigned"

def meshPublicKey (io : MeshIo) : String := encodePublicKey (generateKeypair io.seed).2

def birthRequest (root : List String) (params : BirthParams) (io : MeshIo) :
    DiskM String BirthRequest := do
  let daemonDid := (← getDaemonDid root).getD "local"
  let payload :=
    s!"{io.requestId.toText}:{params.name}:{params.template}:{meshPublicKey io}:{params.ttlSeconds.toInt}"
  let daemonSignature ← signRequest root payload
  let templateVersion := (← getTemplateVersion root params.template).getD "latest"
  pure { requestId := io.requestId, daemonDid, daemonName := io.hostname.getD "unknown",
         agentName := params.name, template := params.template, templateVersion,
         requestedScopes := params.allowedScopes, allowedDomains := params.allowedDomains,
         model := params.model, memoryMb := params.resources.memoryMb,
         cpuPercent := params.resources.cpuPercent, maxDiskGb := params.resources.maxDiskGb,
         ttlSeconds := params.ttlSeconds, agentPublicKey := meshPublicKey io, agentPqPublicKey := none,
         cryptoScheme := "hybrid", requestedAt := io.requestedAt, daemonSignature }

/-- How the answer of the server is read. -/
def readCertificate (answer : Except String HttpAnswer) : Except String BirthCertificate := do
  let answer ← answer.mapError fun _ => "Failed to send birth request to coordination server"
  if !answer.success then
    let body := answer.body.toOption.getD ""
    .error s!"Birth request rejected by coordination server (HTTP {answer.status}): {body}"
  else
    (answer.body.bind FromStr.fromStr).mapError fun _ => "Failed to parse birth certificate response"

def BirthCertificate.uuid (certificate : BirthCertificate) (io : MeshIo) : Uuid :=
  (Uuid.parseStr certificate.agentId).getD io.fallbackId

/-- `json!`, whose fields are in the order of their keys. -/
def meshCard (params : BirthParams) (io : MeshIo) (certificate : BirthCertificate) : Json := .obj
  [("birth_certificate_id", .str certificate.certificateId), ("crypto_scheme", .str "ed25519"),
    ("did", .str certificate.agentDid), ("id", .str (certificate.uuid io).toText),
    ("issued_at", .str (Chrono.toRfc3339 certificate.issuedAt)), ("issuer", .str "daemon"),
    ("name", .str params.name), ("public_key", .str (meshPublicKey io))]

def BirthParams.meshConfig (params : BirthParams) (io : MeshIo) (certificate : BirthCertificate) :
    AgentConfig where
  name := params.name
  template := params.template
  templateVersion := "mesh"
  agentId := certificate.uuid io
  did := some certificate.agentDid
  createdAt := io.createdAt
  allowedDomains := certificate.approvedDomains
  allowedScopes := certificate.approvedScopes
  expiresAt := some certificate.expiresAt
  model := params.model
  resources := params.resources
  restart := {}

def writeMeshIdentity (root : List String) (params : BirthParams) (io : MeshIo)
    (certificate : BirthCertificate) : DiskM String Unit := do
  let dir := agentDir root params.name
  createDirAll (dir ++ ["identity"])
  write (dir ++ ["identity", "birth.cert.json"]) (.text (Json.pretty 0 certificate.toValue))
  write (dir ++ ["identity", "agent.pem"]) (.text (encodePrivateKeyPem io.seed))
  write (dir ++ ["identity", "agent.card.json"]) (.text (Json.pretty 0 (meshCard params io certificate)))

def writeMeshConfig (root : List String) (params : BirthParams) (io : MeshIo)
    (certificate : BirthCertificate) : DiskM String Unit := do
  let dir := agentDir root params.name
  makeDirs dir ["audit", "data", "logs", "breadcrumbs"]
  writeConfig dir (params.meshConfig io certificate)

/-- What follows the answer of the server; the registration on the mesh is not waited for. -/
def settleMesh (root : List String) (params : BirthParams) (io : MeshIo)
    (certificate : BirthCertificate) :
    DiskM String BirthResult := do
  writeMeshIdentity root params io certificate
  writeMeshConfig root params io certificate
  installForAgent root params.template (agentDir root params.name) io.install
  pure { agentInfo := params.info (certificate.uuid io) (some certificate.agentDid) io.createdAt
           certificate.approvedScopes,
         birthMode := .mesh, certificate := some certificate }

def birthViaMesh (root : List String) (params : BirthParams) (io : MeshIo) :
    DiskM String BirthResult := do
  let request ← birthRequest root params io
  let certificate ← DiskM.ofExcept (readCertificate (io.server request))
  settleMesh root params io certificate

/-- Any failure of a birth via the mesh leads to a local birth. -/
def birthAgent (root : List String) (params : BirthParams) (io : BirthIo) :
    DiskM Fault BirthResult := do
  match io.mesh with
  | none => birthLocal root params io.onDisk
  | some mesh =>
    match io.license.checkFeature .birthMesh with
    | .error _ => birthLocal root params io.onDisk
    | .ok () =>
      match ← (birthViaMesh root params mesh).attempt with
      | .ok result => pure result
      | .error _ => birthLocal root params io.onDisk

/-! ### The daemon -/

def checkLicense (license : LicenseTier) (supervisor : Supervisor) : Except String Unit :=
  license.checkLimit "agents" (UInt32.ofNat supervisor.listAgents.length)

def checkMaxAgents (maxAgents : UInt32) (supervisor : Supervisor) : Except String Unit :=
  let currentCount := supervisor.listAgents.length
  if maxAgents.toNat ≤ currentCount then
    .error s!"Agent limit reached ({currentCount}/{maxAgents}). Increase max_agents in daemon.toml."
  else .ok ()

def checkAbsent (supervisor : Supervisor) (name : String) : Except String Unit :=
  if (supervisor.getAgent name).isSome then .error s!"Agent '{name}' already exists" else .ok ()

/-- The configuration that a birth has left, when there is one. -/
def readConfig (root : List String) (name : String) : DiskM String (Option AgentConfig) := do
  let path := agentDir root name ++ ["agent.toml"]
  if ← DiskM.ask (·.exists path) then
    let content ← readToString path
    let config ← DiskM.ofExcept
      ((ConfigFormat.fromStr content).mapError fun _ => "Failed to parse agent config created by birth")
    pure (some config)
  else pure none

/-- The files that `register` writes. -/
def registerFiles (root : List String) (config : AgentConfig) : DiskM String Unit := do
  let dir := agentDir root config.name
  makeDirs dir ["identity", "audit", "data", "logs", "breadcrumbs"]
  writeConfig dir config

def registerBorn (root : List String) (name : String) : DiskM String (Option AgentConfig) := do
  match ← readConfig root name with
  | none => pure none
  | some config =>
    registerFiles root config
    pure (some config)

/-- A birth and the registration of what it has left. -/
def birthRegistered (root : List String) (params : BirthParams) (io : BirthIo) :
    DiskM Fault (BirthResult × Option AgentConfig) := do
  let result ← birthAgent root params io
  let config ← liftIo (registerBorn root result.agentInfo.name)
  pure (result, config)

/-- The daemon without what else it does: the managed agents and the files. -/
structure Nursery where
  supervisor : Supervisor
  disk : Disk

/-- What is asked before a birth. -/
def Nursery.admission (nursery : Nursery) (maxAgents : UInt32) (params : BirthParams) (io : BirthIo) :
    Except String Unit := do
  checkAbsent nursery.supervisor params.name
  checkLicense io.limits nursery.supervisor
  checkMaxAgents maxAgents nursery.supervisor

/-- `DaemonState::birth_agent`. -/
def Nursery.birthAgent (nursery : Nursery) (root : List String) (maxAgents : UInt32)
    (params : BirthParams) (io : BirthIo) : Outcome BirthResult × Nursery :=
  match nursery.admission maxAgents params io with
  | .error e => (.error (.error e), nursery)
  | .ok () =>
    match birthRegistered root params io nursery.disk with
    | (.error e, disk) => (.error e, { nursery with disk })
    | (.ok (result, none), disk) => (.ok result, { nursery with disk })
    | (.ok (result, some config), disk) =>
      (.ok result, { supervisor := nursery.supervisor.register config, disk })

end Birth
end GrokingClawId.Daemon
