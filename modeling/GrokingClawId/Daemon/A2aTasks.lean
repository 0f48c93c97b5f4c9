import GrokingClawId.Daemon.A2aAuth
import GrokingClawId.Daemon.AuditQuery

/-!
# A2A tasks

The JSON-RPC methods of `a2a.rs`: sending a message, which makes a task and completes it at once,
and reading, listing and cancelling tasks. Values are written with sorted keys.
-/

namespace GrokingClawId.Daemon
open GrokingClawId.Core Text

/-! ### Values -/

def AgentInfo.toValue [Chrono] (info : AgentInfo) : Json := .obj
  [("agent_id", .str info.agentId.toText), ("allowed_scopes", .arr (info.allowedScopes.map .str)),
    ("created_at", .str (Chrono.serialize info.createdAt)), ("did", Json.ofOption .str info.did),
    ("name", .str info.name), ("pid", Json.ofOption (fun pid : Nat => .num (toString pid)) info.pid),
    ("restart_count", .num (toString info.restartCount)),
    ("started_at", Json.ofOption (fun t => .str (Chrono.serialize t)) info.startedAt),
    ("status", .str info.status.display), ("template", .str info.template)]

def auditValue (entry : AuditEntry) : Json := .obj
  [("action", .str entry.action), ("agent_id", .str entry.agentId.toText),
    ("entry_hash", .str entry.entryHash),
    ("id", .num (toString entry.id)), ("prev_hash", .str entry.prevHash), ("signature", .str entry.signature),
    ("target", .str entry.target), ("timestamp", .num (toString entry.timestamp))]

def AuditReply.toValue (reply : AuditReply) : Json := .obj <|
  (reply.chainValid.map fun valid => ("chain_valid", Json.bool valid)).toList ++
  [("entries", .arr (reply.entries.map auditValue))] ++
  (reply.message.map fun message => ("message", Json.str message)).toList ++
  (reply.total.map fun total => ("total", Json.num (toString total))).toList

/-- `read_agent_logs`. -/
def DaemonState.readAgentLogs (daemon : DaemonState) (name : String) (last : Nat) :
    Except String String :=
  match daemon.logFile name with
  | .absent => .ok ""
  | .unreadable e => .error e
  | .content text =>
    let allLines := lines text.toList
    let start := if last < allLines.length then allLines.length - last else 0
    .ok (String.ofList (['\n'].intercalate (allLines.drop start)))

namespace A2a

inductive TaskState where
  | submitted | working | inputRequired | completed | canceled | failed | rejected
  deriving DecidableEq, Repr

def TaskState.serialize : TaskState → String
  | submitted => "submitted"
  | working => "working"
  | inputRequired => "inputrequired"
  | completed => "completed"
  | canceled => "canceled"
  | failed => "failed"
  | rejected => "rejected"

def TaskState.display : TaskState → String
  | inputRequired => "input-required"
  | state => state.serialize

inductive MessageRole where
  | user | agent
  deriving DecidableEq, Repr

def MessageRole.serialize : MessageRole → String
  | user => "user"
  | agent => "agent"

inductive A2aPart where
  | text (text : String)
  | data (data : Json)

structure A2aMessage where
  role : MessageRole
  parts : List A2aPart
  metadata : Option Json

structure A2aArtifact where
  name : Option String
  parts : List A2aPart

structure A2aTaskStatus where
  state : TaskState
  message : Option A2aMessage

structure A2aTask where
  id : String
  contextId : Option String
  status : A2aTaskStatus
  messages : List A2aMessage
  artifacts : List A2aArtifact
  createdAt : DateTime
  updatedAt : DateTime

abbrev Tasks := AList fun _ : String => A2aTask

def A2aPart.toValue : A2aPart → Json
  | text t => .obj [("text", .str t), ("type", .str "text")]
  | data d => .obj [("data", d), ("type", .str "data")]

def A2aMessage.toValue (message : A2aMessage) : Json := .obj <|
  (message.metadata.map fun metadata => ("metadata", metadata)).toList ++
  [("parts", .arr (message.parts.map A2aPart.toValue)), ("role", .str message.role.serialize)]

def A2aArtifact.toValue (artifact : A2aArtifact) : Json := .obj
  [("name", Json.ofOption .str artifact.name), ("parts", .arr (artifact.parts.map A2aPart.toValue))]

def A2aTaskStatus.toValue (status : A2aTaskStatus) : Json := .obj <|
  (status.message.map fun message => ("message", message.toValue)).toList ++
  [("state", .str status.state.serialize)]

def A2aTask.toValue [Chrono] (task : A2aTask) : Json := .obj
  [("artifacts", .arr (task.artifacts.map A2aArtifact.toValue)),
    ("contextId", Json.ofOption .str task.contextId), ("createdAt", .str (Chrono.serialize task.createdAt)),
    ("id", .str task.id), ("messages", .arr (task.messages.map A2aMessage.toValue)),
    ("status", task.status.toValue), ("updatedAt", .str (Chrono.serialize task.updatedAt))]

structure JsonRpcRequest where
  jsonrpc : String
  id : Option Json
  method : String
  params : Json

structure JsonRpcError where
  code : Int
  message : String

structure JsonRpcResponse where
  jsonrpc : String
  id : Option Json
  result : Option Json
  error : Option JsonRpcError

namespace JsonRpcResponse

def success (id : Option Json) (result : Json) : JsonRpcResponse := ⟨"2.0", id, some result, none⟩

def failure (id : Option Json) (code : Int) (message : String) : JsonRpcResponse :=
  ⟨"2.0", id, none, some ⟨code, message⟩⟩

/-- In the order of the struct, without the fields that are not there. -/
def toValue (response : JsonRpcResponse) : Json := .obj <|
  [("jsonrpc", .str response.jsonrpc)] ++ (response.id.map fun id => ("id", id)).toList ++
  (response.result.map fun result => ("result", result)).toList ++
  (response.error.map fun error =>
    ("error", Json.obj [("code", .num (toString error.code)), ("message", .str error.message)])).toList

end JsonRpcResponse

/-- What the clocks and the random source deliver while a request is handled. -/
structure Draws where
  now : DateTime
  /-- The time when a task is updated. -/
  updated : DateTime
  taskId : Uuid
  uptimeSeconds : Nat

/-! ### Methods -/

section Methods
variable [Sha256] [Chrono] [Unicode]

def mentions (lower word : String) : Bool := (find word.toList lower.toList).isSome

def textArtifact (name : String) (parts : List A2aPart) : List A2aArtifact := [⟨some name, parts⟩]

def processDaemonTask (daemon : DaemonState) (text : String) (draws : Draws) :
    String × List A2aArtifact :=
  let lower := Unicode.toLowercase text
  let agents := daemon.supervisor.listAgents
  let values := Json.arr (agents.map AgentInfo.toValue)
  let count := toString agents.length
  if mentions lower "status" then
    let status := Json.obj [("agents", values), ("agents_count", .num count), ("daemon", .str "running"),
      ("uptime_seconds", .num (toString draws.uptimeSeconds)), ("version", .str "0.4.1")]
    ("Daemon status retrieved.", textArtifact "daemon-status" [.data status])
  else if mentions lower "list agents" || mentions lower "agents list" then
    (s!"{count} agent(s) registered.", textArtifact "agent-list" [.data values])
  else (s!"Received: \"{text}\". No handler matched.", [])

def processAgentTask (daemon : DaemonState) (agentName text : String) : String × List A2aArtifact :=
  let lower := Unicode.toLowercase text
  if mentions lower "status" || mentions lower "health" then
    match daemon.supervisor.getAgent agentName with
    | some info =>
      (s!"Agent '{agentName}' status: {info.status.display}",
        textArtifact "agent-status" [.data info.toValue])
    | none => (s!"Agent '{agentName}' not found.", [])
  else if mentions lower "rotate" && mentions lower "key" then
    (s!"Key rotation requested for agent '{agentName}'. This is a daemon-level operation — the agent will be restarted with new keys.", [])
  else if mentions lower "logs" then
    match daemon.readAgentLogs agentName 50 with
    | .ok logs => (s!"Logs for agent '{agentName}':", textArtifact "agent-logs" [.text logs])
    | .error e => (s!"Failed to read logs for '{agentName}': {e}", [])
  else if mentions lower "audit" then
    let result := queryAudit daemon agentName 20 true
    (s!"Audit trail for agent '{agentName}':", textArtifact "agent-audit" [.data result.toValue])
  else
    (s!"Task received for agent '{agentName}': \"{text}\". Available commands: status, rotate keys, logs, audit.", [])

def processTask (daemon : DaemonState) (task : A2aTask) (targetAgent : Option String)
    (draws : Draws) :
    A2aTask :=
  let text := match task.messages.head?.bind fun message => message.parts.head? with
    | some (.text t) => t
    | _ => ""
  let (responseText, artifacts) := match targetAgent with
    | some agentName => processAgentTask daemon agentName text
    | none => processDaemonTask daemon text draws
  let agentMessage : A2aMessage :=
    { role := .agent, parts := [.text responseText], metadata := none }
  { task with
    status := { task.status with state := .completed }, messages := task.messages ++ [agentMessage]
    artifacts := artifacts, updatedAt := draws.updated }

/-- The text of the first part that has one. -/
def messageText (message : Json) : String :=
  let parts := ((message.get "parts").bind Json.asArray).getD []
  (parts.findSome? fun part =>
    if (part.get "type").bind Json.asStr = some "text" then (part.get "text").bind Json.asStr
      else none).getD ""

def targetAgent (params : Json) : Option String :=
  ((params.get "agent").bind Json.asStr).or
    (((params.get "message").bind (Json.get "metadata")).bind (Json.get "target_agent") |>.bind Json.asStr)

def handleMessageSend (daemon : DaemonState) (tasks : Tasks) (params : Json) (callerVerified : Bool)
    (draws : Draws) : Tasks × JsonRpcResponse :=
  let agentName := targetAgent params
  match params.get "message" with
  | none => (tasks, .failure none (-32602) "Missing 'message' parameter")
  | some message =>
    let taskId := ((params.get "id").bind Json.asStr).getD draws.taskId.toText
    let contextId := (params.get "contextId").bind Json.asStr
    let now := draws.now
    let userMessage : A2aMessage :=
      { role := .user, parts := [.text (messageText message)]
        metadata := some (.obj [("clawid_verified", .bool callerVerified),
          ("received_at", .str (Chrono.toRfc3339 now))]) }
    match agentName.filter fun name => (daemon.supervisor.getAgent name).isNone with
    | some name => (tasks, .failure none (-32001) s!"Agent '{name}' not found")
    | none =>
      let task : A2aTask :=
        { id := taskId, contextId, status := { state := .submitted, message := none },
          messages := [userMessage]
          artifacts := [], createdAt := now, updatedAt := now }
      let stored := tasks.insert taskId task
      let responseTask := processTask daemon task agentName draws
      (stored.insert taskId responseTask, .success none responseTask.toValue)

def handleTasksGet (tasks : Tasks) (params : Json) : JsonRpcResponse :=
  match (params.get "id").bind Json.asStr with
  | none => .failure none (-32602) "Missing 'id' parameter"
  | some taskId =>
    match tasks.lookup taskId with
    | some task => .success none task.toValue
    | none => .failure none (-32001) s!"Task '{taskId}' not found"

/-- The map has no order of its own; the newest update comes first. -/
def handleTasksList (tasks : Tasks) (params : Json) : JsonRpcResponse :=
  let contextId := (params.get "contextId").bind Json.asStr
  let limit := ((params.get "limit").bind Json.asU64).getD 50
  let values : List A2aTask := tasks.entries.map fun entry => entry.2
  let result : List A2aTask := match contextId with
    | some ctx => values.filter fun task : A2aTask => task.contextId = some ctx
    | none => values
  let sorted := result.mergeSort fun a b => decide (b.updatedAt ≤ a.updatedAt)
  .success none (.obj [("tasks", .arr ((sorted.take limit).map A2aTask.toValue))])

def handleTasksCancel (tasks : Tasks) (params : Json) (draws : Draws) : Tasks × JsonRpcResponse :=
  match (params.get "id").bind Json.asStr with
  | none => (tasks, .failure none (-32602) "Missing 'id' parameter")
  | some taskId =>
    match tasks.lookup taskId with
    | none => (tasks, .failure none (-32001) s!"Task '{taskId}' not found")
    | some task =>
      match task.status.state with
      | .completed | .canceled | .failed =>
        (tasks, .failure none (-32003)
          s!"Task '{taskId}' is already in terminal state: {task.status.state.display}")
      | _ =>
        let canceled :=
          { task with status := { task.status with state := .canceled }, updatedAt := draws.updated }
        (tasks.insert taskId canceled, .success none canceled.toValue)

/-- The tasks and the answer after one request. -/
def handleMethod (daemon : DaemonState) (tasks : Tasks) (request : JsonRpcRequest)
    (callerVerified : Bool) (draws : Draws) : Tasks × JsonRpcResponse :=
  match request.method with
  | "message/send" => handleMessageSend daemon tasks request.params callerVerified draws
  | "tasks/get" => (tasks, handleTasksGet tasks request.params)
  | "tasks/list" => (tasks, handleTasksList tasks request.params)
  | "tasks/cancel" => handleTasksCancel tasks request.params draws
  | method => (tasks, .failure request.id (-32601) s!"Method not found: {method}")

/-- What a sent message makes is a completed task under the id that was asked for. -/
theorem handleMessageSend_completed (daemon : DaemonState) (tasks : Tasks) (params : Json)
    (callerVerified : Bool) (draws : Draws) :
    (handleMessageSend daemon tasks params callerVerified draws).1 = tasks ∨
      ∃ taskId task, (handleMessageSend daemon tasks params callerVerified draws).1 =
        tasks.insert taskId task ∧
        task.id = taskId ∧ task.status.state = .completed := by
  unfold handleMessageSend
  cases params.get "message" with
  | none => exact .inl rfl
  | some message =>
    dsimp only
    cases (targetAgent params).filter fun name => (daemon.supervisor.getAgent name).isNone with
    | some name => exact .inl rfl
    | none =>
      refine .inr ⟨((params.get "id").bind Json.asStr).getD draws.taskId.toText, _,
        AList.insert_insert _, rfl, rfl⟩

end Methods

end A2a
end GrokingClawId.Daemon
