import Mathlib.Data.List.AList
import GrokingClawId.Core.Audit

/-!
# Supervisor

`supervisor.rs`: the managed agents by name, what is reported of one and how one is stopped. What
the daemon finds in the directory of an agent is part of its state.
-/

namespace GrokingClawId.Daemon
open GrokingClawId.Core

inductive AgentStatus where
  | creating | starting | running | stopped | crashed | revoked
  deriving DecidableEq, Repr

def AgentStatus.display : AgentStatus → String
  | creating => "creating"
  | starting => "starting"
  | running => "running"
  | stopped => "stopped"
  | crashed => "crashed"
  | revoked => "revoked"

structure ModelConfig where
  provider : String := "ollama"
  endpoint : String := "http://localhost:11434"
  model : String := "qwen3.5"
  deriving DecidableEq

structure ResourceConfig where
  memoryMb : Nat := 2048
  cpuPercent : Nat := 50
  maxDiskGb : Nat := 10
  maxRequestsPerMinute : Nat := 60
  deriving DecidableEq

structure RestartConfig where
  maxRestarts : Nat := 3
  restartWindowSeconds : UInt64 := 300
  restartOnSuccess : Bool := false
  deriving DecidableEq

structure AgentConfig where
  name : String
  template : String
  templateVersion : String
  agentId : Uuid
  did : Option String
  createdAt : DateTime
  allowedDomains : List String
  allowedScopes : List String
  expiresAt : Option DateTime
  model : ModelConfig
  resources : ResourceConfig
  restart : RestartConfig
  deriving DecidableEq

/-- `child` and `proxyHandle` are the process and the task that are held. -/
structure AgentProcess where
  config : AgentConfig
  status : AgentStatus
  child : Option Nat
  pid : Option Nat
  proxyPort : Option UInt16
  proxyHandle : Option Nat
  restartCount : Nat
  restartTimestamps : List DateTime
  startedAt : Option DateTime
  deriving DecidableEq

structure AgentInfo where
  name : String
  agentId : Uuid
  did : Option String
  template : String
  status : AgentStatus
  pid : Option Nat
  createdAt : DateTime
  startedAt : Option DateTime
  restartCount : Nat
  allowedScopes : List String
  deriving DecidableEq

def AgentProcess.info (agent : AgentProcess) : AgentInfo where
  name := agent.config.name
  agentId := agent.config.agentId
  did := agent.config.did
  template := agent.config.template
  status := agent.status
  pid := agent.pid
  createdAt := agent.config.createdAt
  startedAt := agent.startedAt
  restartCount := agent.restartCount
  allowedScopes := agent.config.allowedScopes

/-- The proxy is aborted and the process has ended, by itself or killed. -/
def AgentProcess.stop (agent : AgentProcess) : AgentProcess :=
  { agent with proxyHandle := none, proxyPort := none, child := none, status := .stopped, pid := none }

abbrev Supervisor := AList fun _ : String => AgentProcess

namespace Supervisor

def getAgent (supervisor : Supervisor) (name : String) : Option AgentInfo :=
  (supervisor.lookup name).map AgentProcess.info

def listAgents (supervisor : Supervisor) : List AgentInfo :=
  supervisor.entries.map fun entry => entry.2.info

def stopAgent (supervisor : Supervisor) (name : String) : Except String Supervisor :=
  match supervisor.lookup name with
  | none => .error s!"Agent '{name}' not found"
  | some agent => .ok (supervisor.insert name agent.stop)

/-- An agent as it is inserted, at birth or when the daemon starts. -/
def idle (config : AgentConfig) (status : AgentStatus) : AgentProcess :=
  { config, status, child := none, pid := none, proxyPort := none, proxyHandle := none,
    restartCount := 0, restartTimestamps := [], startedAt := none }

def register (supervisor : Supervisor) (config : AgentConfig) : Supervisor :=
  supervisor.insert config.name (idle config .creating)

theorem stopAgent_ok {supervisor stopped : Supervisor} {name : String}
    (ok : supervisor.stopAgent name = .ok stopped) :
    ∃ agent, supervisor.lookup name = some agent ∧ stopped = supervisor.insert name agent.stop := by
  unfold stopAgent at ok
  cases found : supervisor.lookup name with
  | none =>
    rw [found] at ok
    cases ok
  | some agent =>
    rw [found] at ok
    exact ⟨agent, rfl, (Except.ok.inj ok).symm⟩

theorem stopAgent_found {supervisor : Supervisor} {name : String} {agent : AgentProcess}
    (found : supervisor.lookup name = some agent) :
    supervisor.stopAgent name = .ok (supervisor.insert name agent.stop) := by
  simp only [stopAgent, found]

theorem stopAgent_other {supervisor stopped : Supervisor} {name other : String}
    (ok : supervisor.stopAgent name = .ok stopped) (different : other ≠ name) :
    stopped.lookup other = supervisor.lookup other := by
  obtain ⟨agent, _, rfl⟩ := stopAgent_ok ok
  exact AList.lookup_insert_ne different

theorem stopAgent_name {supervisor stopped : Supervisor} {name : String}
    (ok : supervisor.stopAgent name = .ok stopped) (other : String) :
    (stopped.getAgent other).map AgentInfo.name =
      (supervisor.getAgent other).map AgentInfo.name := by
  by_cases same : other = name
  · subst same
    obtain ⟨agent, found, rfl⟩ := stopAgent_ok ok
    simp only [getAgent, AList.lookup_insert, found]
    rfl
  · simp only [getAgent, stopAgent_other ok same]

theorem stopAgent_status {supervisor stopped : Supervisor} {name : String}
    (ok : supervisor.stopAgent name = .ok stopped) :
    ∃ agent, stopped.lookup name = some agent ∧ agent.status = .stopped ∧ agent.child = none := by
  obtain ⟨agent, _, rfl⟩ := stopAgent_ok ok
  exact ⟨agent.stop, AList.lookup_insert _, rfl, rfl⟩

end Supervisor

def StandIn.config (name : String) : AgentConfig where
  name := name
  template := "base"
  templateVersion := "1.0.0"
  agentId := Uuid.nil
  did := none
  createdAt := 0
  allowedDomains := []
  allowedScopes := ["read"]
  expiresAt := none
  model := {}
  resources := {}
  restart := {}

/-- A file that is read as text. -/
inductive TextFile where
  | absent
  | unreadable (e : String)
  | content (text : String)

/-- `DaemonState`, with what lies under `agents/<name>`: the audit database, the card and the log of
the process. -/
structure DaemonState where
  supervisor : Supervisor
  auditDb : String → Option AuditDb
  cardFile : String → TextFile
  logFile : String → TextFile

end GrokingClawId.Daemon
