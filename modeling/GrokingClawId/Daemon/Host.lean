import GrokingClawId.Proxy.Signer
import GrokingClawId.Daemon.OauthStore
import GrokingClawId.Daemon.Supervisor

/-!
# Agent processes and their proxies

The operations of `supervisor.rs` on the managed agents together with the proxy tasks they start. A
proxy accepts connections until its handle is aborted; a handle that is dropped leaves it running, and
the tasks of the connections it has accepted, and of their tunnels, go on until those end. Each operation
holds the lock on the agents, so it is one step here, and `delete_agent` is two: it stops the agent, lets
the lock go and takes the agent out.
-/

namespace GrokingClawId.Daemon
open GrokingClawId.Core GrokingClawId.Proxy Text

/-- `daemon_root` of `config.rs`; `home` is the home directory, when there is one. -/
def daemonRoot (home : Option String) : Except String String :=
  (orErr home "Could not determine home directory").map fun home => s!"{home}/.grokingclaw"

/-- What `start_agent` meets outside the supervisor: the files of the agent, the home directory, the
audit logger and the listener of the proxy, the two logs and their second handles, the process and
its identifier. -/
structure Launch where
  runScript : Bool
  agentPem : TextFile
  oauthStore : SealedFile
  fresh : Uuid
  home : Option String
  auditLogger : Except String Unit
  bind : Except String UInt16
  stdoutLog : Except String Unit
  stderrLog : Except String Unit
  stdoutClone : Except String Unit
  stderrClone : Except String Unit
  child : Except String (Nat × Option Nat)
  now : DateTime

/-- An agent without a key, for which there is everything else. -/
def Launch.bare : Launch where
  runScript := true
  agentPem := .absent
  oauthStore := .absent
  fresh := Uuid.nil
  home := none
  auditLogger := .ok ()
  bind := .ok 0
  stdoutLog := .ok ()
  stderrLog := .ok ()
  stdoutClone := .ok ()
  stderrClone := .ok ()
  child := .ok (1, some 1)
  now := 0

def Launch.missing : Launch := { Launch.bare with runScript := false }

structure ProxyServer where
  scope : ScopeConfig
  signer : Option RequestSigner
  oauth : Option OAuthTokenCache
  agentId : Uuid

/-- `Result::ok`, which a panic passes through. -/
def discardErr {α : Type} : Outcome α → Outcome (Option α)
  | .ok a => .ok (some a)
  | .error (.error _) => .ok none
  | .error (.panic reason) => .error (.panic reason)

section Start
variable [Aead] [Hkdf] [StoreFormat]

/-- The cache of an agent with domain bindings; a store that cannot be loaded counts as none. -/
def loadOauthCache (config : AgentConfig) (launch : Launch) (signingKey : Core.Bytes 32) :
    Option OAuthTokenCache :=
  let storePath := OAuthStore.storePath s!"agents/{config.name}"
  match launch.oauthStore with
  | .absent => none
  | file =>
    match OAuthStore.load storePath file signingKey launch.fresh with
    | .error _ => none
    | .ok store =>
      let bindings := store.getDomainBindings
      if bindings.isEmpty then none
      else
        let socketPath := (daemonRoot launch.home).toOption.map fun root => s!"{root}/daemon.sock"
        some { tokens := store.getCachedTokens, bindings, agentId := config.agentId.toText,
               daemonSocket := socketPath.getD "", refreshBufferSecs := 60 }

/-- The port and the proxy of an agent that has a key. -/
def startProxy (config : AgentConfig) (launch : Launch) : Outcome (Option (UInt16 × ProxyServer)) :=
  match launch.agentPem with
  | .absent => .ok none
  | .unreadable _ => .error (.error "Failed to read agent private key")
  | .content pem => do
    let signingKey ← orFault
      ((decodePrivateKeyPem pem.toList).mapError fun _ => "Failed to decode agent private key")
    let scope : ScopeConfig :=
      { allowedDomains := config.allowedDomains,
        maxRequestsPerMinute := config.resources.maxRequestsPerMinute }
    let keyPath := s!"agents/{config.name}/identity/agent.pem"
    let signer ← discardErr (RequestSigner.fromPem keyPath (some pem) config.agentId.toText)
    let oauth := loadOauthCache config launch signingKey
    orFault launch.auditLogger
    let port ← orFault launch.bind
    .ok (some (port, { scope, signer, oauth, agentId := config.agentId }))

/-- The proxy of an agent with an Ed25519 key. -/
def agentServer (config : AgentConfig) (launch : Launch) (key : Core.Bytes 32) : ProxyServer where
  scope := { allowedDomains := config.allowedDomains,
             maxRequestsPerMinute := config.resources.maxRequestsPerMinute }
  signer := some { signingKey := key, pqSecretKey := none, agentId := config.agentId.toText,
                   keyId := s!"clawid-{String.ofList (config.agentId.toText.toList.take 8)}" }
  oauth := loadOauthCache config launch key
  agentId := config.agentId

theorem startProxy_key (config : AgentConfig) {launch : Launch} {key : Core.Bytes 32}
    {port : UInt16} (pem : launch.agentPem = .content (encodePrivateKeyPem key))
    (logger : launch.auditLogger = .ok ()) (bound : launch.bind = .ok port) :
    startProxy config launch = .ok (some (port, agentServer config launch key)) := by
  simp only [startProxy, pem, logger, bound, decodePrivateKeyPem_encode,
    RequestSigner.fromPem_ed25519, Except.mapError, orFault_ok, discardErr, bind, Except.bind]
  rfl

end Start

/-- The logs and the process, which come after the proxy. -/
def spawnAgent (name : String) (launch : Launch) : Except String (Nat × Option Nat) := do
  launch.stdoutLog.mapError fun _ => "Failed to create stdout log"
  launch.stderrLog.mapError fun _ => "Failed to create stderr log"
  launch.stdoutClone
  launch.stderrClone
  launch.child.mapError fun _ => s!"Failed to spawn agent '{name}'"

def AgentProcess.started (agent : AgentProcess) (child : Nat) (pid : Option Nat)
    (proxyPort : Option UInt16) (proxyHandle : Option Nat) (now : DateTime) : AgentProcess :=
  { agent with child := some child, pid, proxyPort, proxyHandle, status := .running, startedAt := some now }

/-! ### Health of one agent -/

/-- What `try_wait` returns. -/
inductive TryWait where
  | exited (success : Bool)
  | running
  | failed

/-- How an agent is found, with the time its restarts are counted at and the time its delegation is
compared with. -/
structure Probe where
  wait : TryWait
  now : DateTime
  later : DateTime

namespace AgentProcess

/-- The restart budget after an exit that was not expected. -/
def restart (agent : AgentProcess) (now : DateTime) : Outcome AgentProcess := do
  let window ← durationSeconds agent.config.restart.restartWindowSeconds.toInt64.toInt
  let kept := agent.restartTimestamps.filter fun t =>
    decide (now - t < window * DateTime.nanosPerSecond)
  if kept.length < agent.config.restart.maxRestarts then
    .ok { agent with restartTimestamps := kept ++ [now], restartCount := agent.restartCount + 1,
                     child := none, pid := none, status := .starting }
  else .ok { agent with restartTimestamps := kept, status := .crashed, child := none, pid := none }

def reap (agent : AgentProcess) (probe : Probe) : Outcome AgentProcess :=
  match probe.wait with
  | .exited success =>
    if success && !agent.config.restart.restartOnSuccess then
      .ok { agent with status := .stopped, child := none, pid := none }
    else agent.restart probe.now
  | .running => .ok agent
  | .failed => .ok agent

/-- The process is ended, and the proxy is left as it is. -/
def expire (agent : AgentProcess) (now : DateTime) : AgentProcess :=
  match agent.config.expiresAt with
  | none => agent
  | some expiresAt =>
    if expiresAt < now then { agent with status := .stopped, child := none, pid := none } else agent

def checkHealth (agent : AgentProcess) (probe : Probe) : Outcome AgentProcess :=
  if agent.status ≠ .running then .ok agent
  else do
    let agent ← if agent.child.isSome then agent.reap probe else .ok agent
    .ok (agent.expire probe.later)

end AgentProcess

namespace Supervisor

def checkHealth (supervisor : Supervisor) (probes : String → Probe) : Outcome Supervisor :=
  supervisor.keys.foldlM (fun agents name =>
    match agents.lookup name with
    | none => .ok agents
    | some agent => do
      let agent ← agent.checkHealth (probes name)
      .ok (agents.insert name agent)) supervisor

def agentsNeedingStart (supervisor : Supervisor) : List String :=
  supervisor.keys.filter fun name =>
    match supervisor.lookup name with
    | some agent => agent.status = .starting
    | none => false

/-- `init`, from the configurations in the directories of the agents. -/
def init (entries : List (Except String AgentConfig)) : Except String Supervisor :=
  entries.foldlM (fun agents entry => do
    let config ← entry
    .ok (agents.insert config.name (idle config .stopped))) ∅

end Supervisor

/-! ### Agents and proxies -/

/-- The tasks of a proxy, under the name of the agent it was started for: the accept loop, which alone has
a handle, and how many connections and tunnels are open. -/
structure Sidecar where
  handle : Nat
  agent : String
  port : UInt16
  server : ProxyServer
  accepting : Bool
  connections : Nat
  tunnels : Nat

namespace Sidecar

/-- No connection is served and no tunnel is open. -/
def Quiet (sidecar : Sidecar) : Prop := sidecar.connections = 0 ∧ sidecar.tunnels = 0

instance (sidecar : Sidecar) : Decidable sidecar.Quiet := inferInstanceAs (Decidable (_ ∧ _))

/-- A task of the proxy runs. -/
def live (sidecar : Sidecar) : Bool := sidecar.accepting || !decide sidecar.Quiet

@[simp] theorem live_iff {sidecar : Sidecar} :
    sidecar.live = true ↔ sidecar.accepting = true ∨ ¬ sidecar.Quiet := by
  rw [live, Bool.or_eq_true, Bool.not_eq_true', decide_eq_false_iff_not]

/-- What a client does: it connects while the loop accepts, has its connection upgraded for a `CONNECT`, or
goes away. -/
inductive Traffic where
  | accept
  | upgrade
  | close
  | closeTunnel

def traffic (sidecar : Sidecar) : Traffic → Option Sidecar
  | .accept =>
    if sidecar.accepting then some { sidecar with connections := sidecar.connections + 1 } else none
  | .upgrade =>
    match sidecar.connections with
    | 0 => none
    | n + 1 => some { sidecar with connections := n, tunnels := sidecar.tunnels + 1 }
  | .close =>
    match sidecar.connections with
    | 0 => none
    | n + 1 => some { sidecar with connections := n }
  | .closeTunnel =>
    match sidecar.tunnels with
    | 0 => none
    | n + 1 => some { sidecar with tunnels := n }

/-- The tasks of another moment of the same proxy. -/
def Same (sidecar sidecar' : Sidecar) : Prop :=
  sidecar'.handle = sidecar.handle ∧ sidecar'.agent = sidecar.agent

theorem traffic_same {sidecar sidecar' : Sidecar} {event : Traffic}
    (changed : sidecar.traffic event = some sidecar') : sidecar.Same sidecar' := by
  unfold traffic at changed
  split at changed
  · split at changed
    · obtain rfl := Option.some.inj changed
      exact ⟨rfl, rfl⟩
    · cases changed
  all_goals
    split at changed
    · cases changed
    · obtain rfl := Option.some.inj changed
      exact ⟨rfl, rfl⟩

end Sidecar

/-- The managed agents and the proxies of which a task runs. -/
structure Host where
  supervisor : Supervisor
  sidecars : List Sidecar
  nextHandle : Nat

namespace Host

def empty : Host := ⟨∅, [], 0⟩

def adopt (host : Host) (name : String) : Option (UInt16 × ProxyServer) → Host × Option Nat
  | none => (host, none)
  | some (port, server) =>
    let sidecar := ⟨host.nextHandle, name, port, server, true, 0, 0⟩
    ({ host with sidecars := host.sidecars ++ [sidecar], nextHandle := host.nextHandle + 1 },
      some host.nextHandle)

/-- The proxy of the handle is replaced, and is gone when no task of it is left. -/
def update (host : Host) (handle : Nat) (change : Sidecar → Sidecar) : Host :=
  { host with sidecars := (host.sidecars.map fun sidecar =>
      if sidecar.handle = handle then change sidecar else sidecar).filter Sidecar.live }

/-- The accept loop ends; the tasks of the open connections and tunnels have no handle and go on. -/
def abort (host : Host) : Option Nat → Host
  | none => host
  | some handle => host.update handle fun sidecar => { sidecar with accepting := false }

/-- A client of the proxy of the handle does something that it can do. -/
def traffic (host : Host) (handle : Nat) (event : Sidecar.Traffic) : Option Host :=
  if host.sidecars.any fun sidecar => sidecar.handle = handle && (sidecar.traffic event).isSome then
    some (host.update handle fun sidecar => (sidecar.traffic event).getD sidecar)
  else none

def register (host : Host) (config : AgentConfig) : Host :=
  { host with supervisor := host.supervisor.register config }

section Start
variable [Aead] [Hkdf] [StoreFormat]

def startAgent (host : Host) (name : String) (launch : Launch) : Outcome Unit × Host :=
  if !launch.runScript then
    (.error (.error s!"No run.sh found for agent '{name}'. Template may not be installed."), host)
  else
    match host.supervisor.lookup name with
    | none => (.error (.error s!"Agent '{name}' not found"), host)
    | some agent =>
      if agent.status = .running then (.error (.error s!"Agent '{name}' is already running"), host)
      else
        match startProxy agent.config launch with
        | .error fault => (.error fault, host)
        | .ok proxy =>
          -- From here on the proxy runs, whatever fails.
          let (host, proxyHandle) := host.adopt name proxy
          match spawnAgent name launch with
          | .error e => (.error (.error e), host)
          | .ok (child, pid) =>
            let started := agent.started child pid (proxy.map Prod.fst) proxyHandle launch.now
            (.ok (), { host with supervisor := host.supervisor.insert name started })

end Start

def proxyHandle (host : Host) (name : String) : Option Nat :=
  (host.supervisor.lookup name).bind AgentProcess.proxyHandle

def stopAgent (host : Host) (name : String) : Except String Unit × Host :=
  match host.supervisor.stopAgent name with
  | .error e => (.error e, host)
  | .ok supervisor => (.ok (), { host.abort (host.proxyHandle name) with supervisor })

def checkHealth (host : Host) (probes : String → Probe) : Outcome Host :=
  (host.supervisor.checkHealth probes).map fun supervisor => { host with supervisor }

/-- The end of `delete_agent`: the process is killed with its handle, the proxy's handle is
dropped. -/
def remove (host : Host) (name : String) : Host :=
  { host with supervisor := host.supervisor.erase name }

/-- `delete_agent` without anything in between; `files` is how the removal of the directory ends. -/
def deleteAgent (host : Host) (name : String) (files : Except String Unit) :
    Except String Unit × Host :=
  let stopped := (host.stopAgent name).2
  match files with
  | .error e => (.error e, stopped)
  | .ok () => (.ok (), stopped.remove name)

end Host

/-! ### What a health check does -/

/-- The process has exited or the delegation has expired. -/
def AgentProcess.Ends (agent : AgentProcess) (probe : Probe) : Prop :=
  (∃ success, probe.wait = .exited success) ∨
    ∃ expiresAt, agent.config.expiresAt = some expiresAt ∧ expiresAt < probe.later

/-- An agent that is no longer running and keeps its configuration and the handle of its proxy. -/
structure AgentProcess.Ended (agent agent' : AgentProcess) : Prop where
  status : agent'.status ≠ .running
  child : agent'.child = none
  config : agent'.config = agent.config
  proxyHandle : agent'.proxyHandle = agent.proxyHandle

theorem AgentProcess.restart_ended {agent agent' : AgentProcess} {now : DateTime}
    (ok : agent.restart now = .ok agent') : agent.Ended agent' := by
  obtain ⟨window, _, ok⟩ := bind_ok ok
  dsimp only at ok
  split at ok
  · obtain rfl := Except.ok.inj ok
    exact ⟨by simp, rfl, rfl, rfl⟩
  · obtain rfl := Except.ok.inj ok
    exact ⟨by simp, rfl, rfl, rfl⟩

theorem AgentProcess.reap_exited {agent agent' : AgentProcess} {probe : Probe} {success : Bool}
    (exited : probe.wait = .exited success) (ok : agent.reap probe = .ok agent') :
    agent.Ended agent' := by
  simp only [reap, exited] at ok
  split at ok
  · obtain rfl := Except.ok.inj ok
    exact ⟨by simp, rfl, rfl, rfl⟩
  · exact restart_ended ok

theorem AgentProcess.reap_alive {agent : AgentProcess} {probe : Probe}
    (alive : ¬ ∃ success, probe.wait = .exited success) : agent.reap probe = .ok agent := by
  cases wait : probe.wait with
  | exited success => exact absurd ⟨success, wait⟩ alive
  | running => simp only [reap, wait]
  | failed => simp only [reap, wait]

theorem AgentProcess.expire_ended {agent ended : AgentProcess} (done : agent.Ended ended)
    (now : DateTime) : agent.Ended (ended.expire now) := by
  unfold expire
  cases ended.config.expiresAt with
  | none => exact done
  | some expiresAt =>
    dsimp only
    split
    · exact ⟨by simp, rfl, done.config, done.proxyHandle⟩
    · exact done

theorem AgentProcess.expire_cases (agent : AgentProcess) (now : DateTime) :
    ((∃ expiresAt, agent.config.expiresAt = some expiresAt ∧ expiresAt < now) ∧
      agent.Ended (agent.expire now)) ∨
    ((¬ ∃ expiresAt, agent.config.expiresAt = some expiresAt ∧ expiresAt < now) ∧
      agent.expire now = agent) := by
  unfold expire
  cases expiry : agent.config.expiresAt with
  | none => exact .inr ⟨by simp, rfl⟩
  | some expiresAt =>
    dsimp only
    by_cases past : expiresAt < now
    · rw [if_pos past]
      exact .inl ⟨⟨expiresAt, rfl, past⟩, by simp, rfl, rfl, rfl⟩
    · rw [if_neg past]
      exact .inr ⟨by simpa using past, rfl⟩

theorem AgentProcess.checkHealth_idle {agent : AgentProcess} (idle : agent.status ≠ .running)
    (probe : Probe) : agent.checkHealth probe = .ok agent := if_pos idle

/-- A running agent with a process stays as it is, or it has ended. -/
theorem AgentProcess.checkHealth_running {agent agent' : AgentProcess} {probe : Probe}
    (running : agent.status = .running) (child : agent.child.isSome = true)
    (ok : agent.checkHealth probe = .ok agent') :
    (agent.Ends probe ∧ agent.Ended agent') ∨ (¬ agent.Ends probe ∧ agent' = agent) := by
  rw [checkHealth, if_neg (by simpa using running), child, if_pos rfl] at ok
  obtain ⟨reaped, reap, ok⟩ := bind_ok ok
  obtain rfl := Except.ok.inj ok
  by_cases exited : ∃ success, probe.wait = .exited success
  · obtain ⟨success, wait⟩ := exited
    exact .inl ⟨.inl ⟨success, wait⟩, expire_ended (reap_exited wait reap) probe.later⟩
  · obtain rfl := Except.ok.inj ((reap_alive exited).symm.trans reap)
    rcases agent.expire_cases probe.later with ⟨past, ended⟩ | ⟨valid, same⟩
    · exact .inl ⟨.inr past, ended⟩
    · exact .inr ⟨not_or.mpr ⟨exited, valid⟩, same⟩

namespace Supervisor

/-- What a check of some agents leaves under a name. -/
theorem checkHealth_fold {probes : String → Probe} {names : List String} (distinct : names.Nodup)
    {agents checked : Supervisor}
    (ok : names.foldlM (fun agents name =>
      match AList.lookup name agents with
      | none => Except.ok agents
      | some agent => do
        let agent ← AgentProcess.checkHealth agent (probes name)
        .ok (AList.insert name agent agents)) agents = .ok checked) (name : String) :
    (name ∉ names → checked.lookup name = agents.lookup name) ∧
    (∀ agent, agents.lookup name = some agent → name ∈ names →
      ∃ agent', agent.checkHealth (probes name) = .ok agent' ∧ checked.lookup name = some agent') := by
  induction names generalizing agents with
  | nil =>
    obtain rfl := Except.ok.inj ok
    exact ⟨fun _ => rfl, fun _ _ member => absurd member List.not_mem_nil⟩
  | cons first names ih =>
    obtain ⟨next, step, rest⟩ := bind_ok ok
    obtain ⟨fresh, distinct⟩ := List.nodup_cons.mp distinct
    obtain ⟨other, later⟩ := ih distinct rest
    cases found : agents.lookup first with
    | none =>
      simp only [found] at step
      obtain rfl := Except.ok.inj step
      refine ⟨fun absent => other (List.not_mem_of_not_mem_cons absent), fun agent managed member => ?_⟩
      rcases List.mem_cons.mp member with rfl | member
      · rw [found] at managed
        cases managed
      · exact later agent managed member
    | some current =>
      simp only [found] at step
      obtain ⟨agent', checks, inserted⟩ := bind_ok step
      obtain rfl := Except.ok.inj inserted
      constructor
      · intro absent
        obtain ⟨different, absent⟩ := not_or.mp (List.mem_cons.not.mp absent)
        rw [other absent, AList.lookup_insert_ne different]
      · intro agent managed member
        by_cases same : name = first
        · subst same
          obtain rfl := Option.some.inj (found.symm.trans managed)
          exact ⟨agent', checks, by rw [other fresh, AList.lookup_insert]⟩
        · have listed := (List.mem_cons.mp member).resolve_left same
          exact later agent (by rw [AList.lookup_insert_ne same, managed]) listed

theorem checkHealth_lookup {supervisor checked : Supervisor} {probes : String → Probe}
    (ok : supervisor.checkHealth probes = .ok checked) {name : String} {agent : AgentProcess}
    (managed : supervisor.lookup name = some agent) :
    ∃ agent', agent.checkHealth (probes name) = .ok agent' ∧ checked.lookup name = some agent' := by
  have listed : name ∈ supervisor.keys := AList.lookup_isSome.mp (by rw [managed]; rfl)
  exact (checkHealth_fold supervisor.nodupKeys ok name).2 agent managed listed

theorem checkHealth_unmanaged {supervisor checked : Supervisor} {probes : String → Probe}
    (ok : supervisor.checkHealth probes = .ok checked) {name : String}
    (unmanaged : supervisor.lookup name = none) : checked.lookup name = none := by
  have unlisted : name ∉ supervisor.keys := AList.lookup_eq_none.mp unmanaged
  exact ((checkHealth_fold supervisor.nodupKeys ok name).1 unlisted).trans unmanaged

theorem mem_agentsNeedingStart {supervisor : Supervisor} {name : String} :
    name ∈ supervisor.agentsNeedingStart ↔
      ∃ agent, supervisor.lookup name = some agent ∧ agent.status = .starting := by
  rw [agentsNeedingStart, List.mem_filter]
  cases found : supervisor.lookup name with
  | none => simp
  | some agent =>
    have listed : name ∈ supervisor.keys := AList.lookup_isSome.mp (by rw [found]; rfl)
    simp [listed]

/-- When the daemon starts every agent is stopped. -/
theorem init_lookup {entries : List (Except String AgentConfig)} {supervisor : Supervisor}
    (ok : init entries = .ok supervisor) {name : String} {agent : AgentProcess}
    (managed : supervisor.lookup name = some agent) :
    ∃ config, agent = idle config .stopped := by
  have fold : ∀ (entries : List (Except String AgentConfig)) (start loaded : Supervisor),
      entries.foldlM (fun agents entry => do
        let config ← entry
        Except.ok (AList.insert config.name (idle config .stopped) agents)) start = .ok loaded →
      (∀ agent, start.lookup name = some agent → ∃ config, agent = idle config .stopped) →
      ∀ agent, loaded.lookup name = some agent → ∃ config, agent = idle config .stopped := by
    intro entries
    induction entries with
    | nil =>
      intro start loaded ok before
      obtain rfl := Except.ok.inj ok
      exact before
    | cons entry entries ih =>
      intro start loaded ok before
      obtain ⟨next, step, rest⟩ := bind_ok ok
      obtain ⟨config, _, inserted⟩ := bind_ok step
      obtain rfl := Except.ok.inj inserted
      refine ih _ loaded rest fun agent found => ?_
      by_cases same : name = config.name
      · subst same
        rw [AList.lookup_insert] at found
        exact ⟨config, (Option.some.inj found).symm⟩
      · rw [AList.lookup_insert_ne same] at found
        exact before agent found
  exact fold entries ∅ supervisor ok (fun agent found => by simp at found) agent managed

end Supervisor

/-! ### What starting and stopping do -/

namespace Host

@[simp] theorem adopt_supervisor (host : Host) (name : String)
    (proxy : Option (UInt16 × ProxyServer)) :
    (host.adopt name proxy).1.supervisor = host.supervisor := by
  cases proxy <;> rfl

@[simp] theorem abort_supervisor (host : Host) (handle : Option Nat) :
    (host.abort handle).supervisor = host.supervisor := by
  cases handle <;> rfl

section Start
variable [Aead] [Hkdf] [StoreFormat]

/-- A start that got as far as the proxy. -/
structure Launches (host : Host) (name : String) (launch : Launch) (agent : AgentProcess)
    (proxy : Option (UInt16 × ProxyServer)) : Prop where
  script : launch.runScript = true
  managed : host.supervisor.lookup name = some agent
  idle : agent.status ≠ .running
  proxy : startProxy agent.config launch = .ok proxy

theorem startAgent_failed {host : Host} {name : String} {launch : Launch} {agent : AgentProcess}
    {proxy : Option (UInt16 × ProxyServer)} (launches : host.Launches name launch agent proxy)
    {e : String} (failed : spawnAgent name launch = .error e) :
    host.startAgent name launch = (.error (.error e), (host.adopt name proxy).1) := by
  obtain ⟨script, managed, idle, started⟩ := launches
  simp only [startAgent, script, managed, idle, started, failed, Bool.not_true, Bool.false_eq_true,
    if_false]

theorem startAgent_started {host : Host} {name : String} {launch : Launch} {agent : AgentProcess}
    {proxy : Option (UInt16 × ProxyServer)} (launches : host.Launches name launch agent proxy)
    {child : Nat} {pid : Option Nat} (spawned : spawnAgent name launch = .ok (child, pid)) :
    host.startAgent name launch = (.ok (), { (host.adopt name proxy).1 with
      supervisor := host.supervisor.insert name
        (agent.started child pid (proxy.map Prod.fst) (host.adopt name proxy).2 launch.now) }) := by
  obtain ⟨script, managed, idle, started⟩ := launches
  simp only [startAgent, script, managed, idle, started, spawned, adopt_supervisor, Bool.not_true,
    Bool.false_eq_true, if_false]

theorem startAgent_refused {host : Host} {name : String} {launch : Launch}
    (never : ∀ agent proxy, ¬ host.Launches name launch agent proxy) :
    ∃ fault, host.startAgent name launch = (.error fault, host) := by
  unfold startAgent
  cases script : launch.runScript with
  | false => exact ⟨_, rfl⟩
  | true =>
    cases managed : host.supervisor.lookup name with
    | none => exact ⟨_, rfl⟩
    | some agent =>
      by_cases running : agent.status = .running
      · simp only [running, if_true]
        exact ⟨_, rfl⟩
      · cases started : startProxy agent.config launch with
        | error fault =>
          simp only [running, started, Bool.not_true, Bool.false_eq_true, if_false]
          exact ⟨fault, rfl⟩
        | ok proxy => exact absurd ⟨script, managed, running, started⟩ (never agent proxy)

/-- A start is refused before there is a proxy, fails after it, or succeeds. -/
theorem startAgent_cases (host : Host) (name : String) (launch : Launch) :
    ((∀ agent proxy, ¬ host.Launches name launch agent proxy) ∧
      ∃ fault, host.startAgent name launch = (.error fault, host)) ∨
    ∃ agent proxy, host.Launches name launch agent proxy ∧
      ((∃ e, spawnAgent name launch = .error e) ∨
        ∃ child pid, spawnAgent name launch = .ok (child, pid)) := by
  by_cases launches : ∃ agent proxy, host.Launches name launch agent proxy
  · obtain ⟨agent, proxy, launches⟩ := launches
    refine .inr ⟨agent, proxy, launches, ?_⟩
    cases spawnAgent name launch with
    | error e => exact .inl ⟨e, rfl⟩
    | ok process => exact .inr ⟨process.1, process.2, rfl⟩
  · have never : ∀ agent proxy, ¬ host.Launches name launch agent proxy :=
      fun agent proxy found => launches ⟨agent, proxy, found⟩
    exact .inl ⟨never, startAgent_refused never⟩

/-- A start changes no other agent, and none at all when it fails. -/
theorem startAgent_lookup (host : Host) (name : String) (launch : Launch) (other : String) :
    ((host.startAgent name launch).2.supervisor.lookup other = host.supervisor.lookup other) ∨
    (other = name ∧ (host.startAgent name launch).1 = .ok ()) := by
  rcases host.startAgent_cases name launch with
    ⟨_, fault, same⟩ | ⟨agent, proxy, launches, ⟨e, failed⟩ | ⟨child, pid, spawned⟩⟩
  · rw [same]
    exact .inl rfl
  · rw [startAgent_failed launches failed]
    exact .inl (by rw [adopt_supervisor])
  · rw [startAgent_started launches spawned]
    by_cases same : other = name
    · exact .inr ⟨same, rfl⟩
    · exact .inl (AList.lookup_insert_ne same)

theorem startAgent_ok {host : Host} {name : String} {launch : Launch}
    (ok : (host.startAgent name launch).1 = .ok ()) :
    ∃ agent, (host.startAgent name launch).2.supervisor.lookup name = some agent ∧
      agent.status = .running := by
  rcases host.startAgent_cases name launch with
    ⟨_, fault, same⟩ | ⟨agent, proxy, launches, ⟨e, failed⟩ | ⟨child, pid, spawned⟩⟩
  · rw [same] at ok
    cases ok
  · rw [startAgent_failed launches failed] at ok
    cases ok
  · rw [startAgent_started launches spawned]
    exact ⟨_, AList.lookup_insert _, rfl⟩

theorem startAgent_bare {host : Host} {name : String} {agent : AgentProcess}
    (managed : host.supervisor.lookup name = some agent) (idle : agent.status ≠ .running) :
    (host.startAgent name .bare).1 = .ok () := by
  have launches : host.Launches name .bare agent none := ⟨rfl, managed, idle, rfl⟩
  have spawned : spawnAgent name .bare = .ok (1, some 1) := rfl
  rw [startAgent_started launches spawned]

theorem startAgent_missing (host : Host) (name : String) :
    host.startAgent name .missing =
      (.error (.error s!"No run.sh found for agent '{name}'. Template may not be installed."), host) := rfl

end Start

theorem stopAgent_ok {host : Host} {name : String} (ok : (host.stopAgent name).1 = .ok ()) :
    ∃ agent, host.supervisor.lookup name = some agent ∧
      (host.stopAgent name).2 =
        { host.abort agent.proxyHandle with supervisor := host.supervisor.insert name agent.stop } := by
  unfold stopAgent at ok ⊢
  cases stopped : host.supervisor.stopAgent name with
  | error e =>
    rw [stopped] at ok
    cases ok
  | ok supervisor =>
    obtain ⟨agent, managed, rfl⟩ := Supervisor.stopAgent_ok stopped
    exact ⟨agent, managed, by simp only [proxyHandle, managed, Option.bind_some]⟩

theorem stopAgent_unmanaged {host : Host} {name : String}
    (unmanaged : host.supervisor.lookup name = none) : (host.stopAgent name).2 = host := by
  simp only [stopAgent, Supervisor.stopAgent, unmanaged]

theorem stopAgent_managed {host : Host} {name : String} {agent : AgentProcess}
    (managed : host.supervisor.lookup name = some agent) :
    host.stopAgent name = (.ok (),
      { host.abort agent.proxyHandle with supervisor := host.supervisor.insert name agent.stop }) := by
  simp only [stopAgent, Supervisor.stopAgent_found managed, proxyHandle, managed, Option.bind_some]

end Host
end GrokingClawId.Daemon
