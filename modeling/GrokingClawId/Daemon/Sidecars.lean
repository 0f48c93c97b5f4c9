import GrokingClawId.Lib.Run
import GrokingClawId.Core.Pem
import GrokingClawId.Daemon.AuditQuery
import GrokingClawId.Daemon.Host

/-!
# Processes and proxies over runs

Every operation keeps a process for exactly the agents that run. A proxy outlives its agent's run
where an operation ends the run, or the start, without aborting it, and where it is aborted while one
of its connections is open.
-/

namespace GrokingClawId.Daemon
open GrokingClawId.Core GrokingClawId.Proxy Text

/-- The operations of the supervisor and what clients of the proxies do. `delete` has nothing in between;
with something there it is `stop` and later `remove`, the end of `delete_agent`. -/
inductive Op where
  | register (config : AgentConfig)
  | start (name : String) (launch : Launch)
  | stop (name : String)
  | check (probes : String → Probe)
  | delete (name : String) (files : Except String Unit)
  | remove (name : String)
  | traffic (handle : Nat) (event : Sidecar.Traffic)

namespace Host

/-- What is asked of the resources: a process for exactly the running agents, at most one proxy for
an agent and none for an agent that does not run. -/
structure Tidy (host : Host) : Prop where
  child : ∀ name agent, host.supervisor.lookup name = some agent →
    (agent.child.isSome = true ↔ agent.status = .running)
  single : (host.sidecars.map Sidecar.agent).Nodup
  running : ∀ sidecar ∈ host.sidecars, ∃ agent,
    host.supervisor.lookup sidecar.agent = some agent ∧ agent.status = .running

/-- Besides, the agent of a proxy has its handle. -/
structure Held (host : Host) : Prop extends host.Tidy where
  handle : ∀ sidecar ∈ host.sidecars, ∀ agent,
    host.supervisor.lookup sidecar.agent = some agent → agent.proxyHandle = some sidecar.handle

/-- A task of the agent's proxy runs. -/
def HasProxy (host : Host) (name : String) : Prop := ∃ sidecar ∈ host.sidecars, sidecar.agent = name

/-- No connection to the agent's proxy is open. -/
def Closed (host : Host) (name : String) : Prop :=
  ∀ sidecar ∈ host.sidecars, sidecar.agent = name → sidecar.Quiet

section Steps
variable [Aead] [Hkdf] [StoreFormat]

/-- A panic of the health check ends the daemon. -/
def step (host : Host) : Op → Option Host
  | .register config => some (host.register config)
  | .start name launch => some (host.startAgent name launch).2
  | .stop name => some (host.stopAgent name).2
  | .check probes => (host.checkHealth probes).toOption
  | .delete name files => some (host.deleteAgent name files).2
  | .remove name => some (host.remove name)
  | .traffic handle event => host.traffic handle event

theorem check_some {host host' : Host} {probes : String → Probe}
    (stepped : host.step (.check probes) = some host') :
    ∃ supervisor, host.supervisor.checkHealth probes = .ok supervisor ∧
      host' = { host with supervisor } := by
  unfold step checkHealth at stepped
  dsimp only at stepped
  cases checked : host.supervisor.checkHealth probes with
  | error fault =>
    rw [checked] at stepped
    cases stepped
  | ok supervisor =>
    rw [checked] at stepped
    exact ⟨supervisor, rfl, (Option.some.inj stepped).symm⟩

/-- The operation does not end the run of an agent with a live proxy, unless it aborts the proxy and no
connection is open, nor a start after its proxy. -/
def Keeps (host : Host) : Op → Prop
  | .register config => ¬ host.HasProxy config.name
  | .start name launch => ∀ agent proxy, host.Launches name launch agent (some proxy) →
      ∃ process, spawnAgent name launch = .ok process
  | .stop name => host.Closed name
  | .check probes => ∀ name agent, host.supervisor.lookup name = some agent → host.HasProxy name →
      ¬ agent.Ends (probes name)
  | .delete name _ => host.Closed name
  | .remove name => ¬ host.HasProxy name
  | .traffic _ _ => True

omit [Aead] [Hkdf] [StoreFormat] in
theorem traffic_some {host host' : Host} {handle : Nat} {event : Sidecar.Traffic}
    (moved : host.traffic handle event = some host') :
    host' = host.update handle fun sidecar => (sidecar.traffic event).getD sidecar := by
  unfold traffic at moved
  split at moved
  · exact (Option.some.inj moved).symm
  · cases moved

/-! ### Processes -/

omit [Aead] [Hkdf] [StoreFormat] in
theorem insert_child {supervisor : Supervisor} {name : String} {entry : AgentProcess}
    (before : ∀ name agent, supervisor.lookup name = some agent →
      (agent.child.isSome = true ↔ agent.status = .running))
    (new : entry.child.isSome = true ↔ entry.status = .running) :
    ∀ other agent, (supervisor.insert name entry).lookup other = some agent →
      (agent.child.isSome = true ↔ agent.status = .running) := by
  intro other agent found
  by_cases same : other = name
  · subst same
    rw [AList.lookup_insert] at found
    obtain rfl := Option.some.inj found
    exact new
  · rw [AList.lookup_insert_ne same] at found
    exact before other agent found

omit [Aead] [Hkdf] [StoreFormat] in
theorem stopAgent_child {host : Host}
    (before : ∀ name agent, host.supervisor.lookup name = some agent →
      (agent.child.isSome = true ↔ agent.status = .running)) (name : String) :
    ∀ other agent, (host.stopAgent name).2.supervisor.lookup other = some agent →
      (agent.child.isSome = true ↔ agent.status = .running) := by
  cases managed : host.supervisor.lookup name with
  | none =>
    rw [stopAgent_unmanaged managed]
    exact before
  | some agent =>
    rw [stopAgent_managed managed]
    exact insert_child before (by simp [AgentProcess.stop])

omit [Aead] [Hkdf] [StoreFormat] in
theorem remove_child {host : Host}
    (before : ∀ name agent, host.supervisor.lookup name = some agent →
      (agent.child.isSome = true ↔ agent.status = .running)) (name : String) :
    ∀ other agent, (host.remove name).supervisor.lookup other = some agent →
      (agent.child.isSome = true ↔ agent.status = .running) := by
  intro other agent found
  by_cases same : other = name
  · subst same
    rw [remove, AList.lookup_erase] at found
    cases found
  · rw [remove, AList.lookup_erase_ne same] at found
    exact before other agent found

/-- The processes are right whatever is done. -/
theorem step_child {host host' : Host} {op : Op}
    (before : ∀ name agent, host.supervisor.lookup name = some agent →
      (agent.child.isSome = true ↔ agent.status = .running))
    (stepped : host.step op = some host') :
    ∀ name agent, host'.supervisor.lookup name = some agent →
      (agent.child.isSome = true ↔ agent.status = .running) := by
  cases op with
  | register config =>
    obtain rfl := Option.some.inj stepped
    exact insert_child before (by simp [Supervisor.idle])
  | start name launch =>
    obtain rfl := Option.some.inj stepped
    rcases host.startAgent_cases name launch with
      ⟨_, fault, same⟩ | ⟨agent, proxy, launches, ⟨e, failed⟩ | ⟨child, pid, spawned⟩⟩
    · rw [same]
      exact before
    · rw [startAgent_failed launches failed, adopt_supervisor]
      exact before
    · rw [startAgent_started launches spawned]
      exact insert_child before (by simp [AgentProcess.started])
  | stop name =>
    obtain rfl := Option.some.inj stepped
    exact stopAgent_child before name
  | check probes =>
    intro name agent found
    obtain ⟨supervisor, checked, rfl⟩ := check_some stepped
    cases managed : host.supervisor.lookup name with
    | none =>
      rw [Supervisor.checkHealth_unmanaged checked managed] at found
      cases found
    | some current =>
      obtain ⟨agent', checks, found'⟩ := Supervisor.checkHealth_lookup checked managed
      obtain rfl := Option.some.inj (found'.symm.trans found)
      by_cases running : current.status = .running
      · have child := (before name current managed).mpr running
        rcases AgentProcess.checkHealth_running running child checks with ⟨_, ended⟩ | ⟨_, rfl⟩
        · simp [ended.child, ended.status]
        · exact before name agent' managed
      · rw [AgentProcess.checkHealth_idle running] at checks
        rw [← Except.ok.inj checks]
        exact before name current managed
  | delete name files =>
    obtain rfl := Option.some.inj stepped
    cases files with
    | error e => exact stopAgent_child before name
    | ok done => exact remove_child (stopAgent_child before name) name
  | remove name =>
    obtain rfl := Option.some.inj stepped
    exact remove_child before name
  | traffic handle event =>
    obtain rfl := traffic_some stepped
    exact before

/-! ### Proxies -/

omit [Aead] [Hkdf] [StoreFormat] in
theorem Tidy.no_proxy {host : Host} (tidy : host.Tidy) {name : String} {agent : AgentProcess}
    (managed : host.supervisor.lookup name = some agent) (idle : agent.status ≠ .running) :
    ¬ host.HasProxy name := by
  rintro ⟨sidecar, live, rfl⟩
  obtain ⟨found, managed', running⟩ := tidy.running sidecar live
  obtain rfl := Option.some.inj (managed.symm.trans managed')
  exact idle running

omit [Aead] [Hkdf] [StoreFormat] in
theorem Held.insert {host : Host} (held : host.Held) {name : String} (free : ¬ host.HasProxy name)
    {entry : AgentProcess} (child : entry.child.isSome = true ↔ entry.status = .running) :
    Held { host with supervisor := host.supervisor.insert name entry } := by
  have other : ∀ sidecar ∈ host.sidecars, sidecar.agent ≠ name :=
    fun sidecar live same => free ⟨sidecar, live, same⟩
  refine ⟨⟨insert_child held.child child, held.single, fun sidecar live => ?_⟩,
    fun sidecar live agent found => ?_⟩
  · dsimp only
    rw [AList.lookup_insert_ne (other sidecar live)]
    exact held.running sidecar live
  · dsimp only at found
    rw [AList.lookup_insert_ne (other sidecar live)] at found
    exact held.handle sidecar live agent found

omit [Aead] [Hkdf] [StoreFormat] in
theorem Held.adopt {host : Host} (held : host.Held) {name : String} (free : ¬ host.HasProxy name)
    {agent : AgentProcess} (child : Nat) (pid : Option Nat) (proxy : Option (UInt16 × ProxyServer))
    (now : DateTime) :
    Held { (host.adopt name proxy).1 with
      supervisor := host.supervisor.insert name
        (agent.started child pid (proxy.map Prod.fst) (host.adopt name proxy).2 now) } := by
  have running : ∀ handle port, (agent.started child pid port handle now).child.isSome = true ↔
      (agent.started child pid port handle now).status = .running := by
    simp [AgentProcess.started]
  cases proxy with
  | none => exact held.insert free (running _ _)
  | some proxy =>
    obtain ⟨port, server⟩ := proxy
    have entries := held.insert free (running (some host.nextHandle) (some port))
    refine ⟨⟨entries.child, ?_, fun sidecar live => ?_⟩, fun sidecar live agent' found => ?_⟩
    · show ((host.sidecars ++ [_]).map Sidecar.agent).Nodup
      rw [List.map_append, List.map_singleton, ← List.concat_eq_append, List.nodup_concat]
      refine ⟨fun member => ?_, held.single⟩
      obtain ⟨sidecar, live, same⟩ := List.mem_map.mp member
      exact free ⟨sidecar, live, same⟩
    · rcases List.mem_append.mp live with old | new
      · exact entries.running sidecar old
      · obtain rfl := List.mem_singleton.mp new
        exact ⟨_, AList.lookup_insert _, rfl⟩
    · rcases List.mem_append.mp live with old | new
      · exact entries.handle sidecar old agent' found
      · obtain rfl := List.mem_singleton.mp new
        have same := (AList.lookup_insert _).symm.trans found
        obtain rfl := Option.some.inj same
        rfl

omit [Aead] [Hkdf] [StoreFormat] in
theorem mem_update {host : Host} {handle : Nat} {change : Sidecar → Sidecar} {sidecar' : Sidecar} :
    sidecar' ∈ (host.update handle change).sidecars ↔ ∃ sidecar ∈ host.sidecars,
      (if sidecar.handle = handle then change sidecar else sidecar) = sidecar' ∧ sidecar'.live = true := by
  rw [update, List.mem_filter, List.mem_map]
  constructor
  · rintro ⟨⟨sidecar, member, rfl⟩, live⟩
    exact ⟨sidecar, member, rfl, live⟩
  · rintro ⟨sidecar, member, rfl, live⟩
    exact ⟨⟨sidecar, member, rfl⟩, live⟩

omit [Aead] [Hkdf] [StoreFormat] in
/-- What happens to the tasks of a proxy, while it stays that of its agent. -/
theorem Held.update {host : Host} (held : host.Held) (handle : Nat) {change : Sidecar → Sidecar}
    (same : ∀ sidecar : Sidecar, sidecar.Same (change sidecar)) : (host.update handle change).Held := by
  have kept : ∀ sidecar : Sidecar,
      sidecar.Same (if sidecar.handle = handle then change sidecar else sidecar) := by
    intro sidecar
    split
    · exact same sidecar
    · exact ⟨rfl, rfl⟩
  refine ⟨⟨held.child, ?_, fun sidecar' member => ?_⟩, fun sidecar' member agent found => ?_⟩
  · refine List.Nodup.sublist (List.filter_sublist.map Sidecar.agent) ?_
    rw [List.map_map]
    have names : (Sidecar.agent ∘ fun sidecar : Sidecar =>
        if sidecar.handle = handle then change sidecar else sidecar) = Sidecar.agent :=
      funext fun sidecar => (kept sidecar).2
    rw [names]
    exact held.single
  · obtain ⟨sidecar, before, rfl, _⟩ := mem_update.mp member
    rw [(kept sidecar).2]
    exact held.running sidecar before
  · obtain ⟨sidecar, before, rfl, _⟩ := mem_update.mp member
    rw [(kept sidecar).2] at found
    rw [(kept sidecar).1]
    exact held.handle sidecar before agent found

omit [Aead] [Hkdf] [StoreFormat] in
theorem Held.abort {host : Host} (held : host.Held) (handle : Option Nat) : (host.abort handle).Held := by
  cases handle with
  | none => exact held
  | some handle => exact held.update handle fun _ => ⟨rfl, rfl⟩

omit [Aead] [Hkdf] [StoreFormat] in
/-- An aborted proxy without connections is gone. -/
theorem Held.aborted {host : Host} (held : host.Held) {name : String} {agent : AgentProcess}
    (managed : host.supervisor.lookup name = some agent) (closed : host.Closed name) :
    ¬ (host.abort agent.proxyHandle).HasProxy name := by
  rintro ⟨sidecar', member, named⟩
  cases recorded : agent.proxyHandle with
  | none =>
    rw [recorded] at member
    have handle := held.handle sidecar' member agent (by rw [named, managed])
    rw [recorded] at handle
    cases handle
  | some handle =>
    rw [recorded] at member
    obtain ⟨sidecar, before, rfl, live⟩ := mem_update.mp member
    have own : sidecar.agent = name := by
      split at named
      · exact named
      · exact named
    have found := held.handle sidecar before agent (by rw [own, managed])
    obtain rfl := Option.some.inj (recorded.symm.trans found)
    rw [if_pos rfl, Sidecar.live_iff] at live
    rcases live with accepting | loud
    · cases accepting
    · exact loud (closed sidecar before own)

omit [Aead] [Hkdf] [StoreFormat] in
theorem Held.stop {host : Host} (held : host.Held) {name : String} {agent : AgentProcess}
    (managed : host.supervisor.lookup name = some agent) (closed : host.Closed name) :
    Held { host.abort agent.proxyHandle with supervisor := host.supervisor.insert name agent.stop } := by
  have child : agent.stop.child.isSome = true ↔ agent.stop.status = .running := by simp [AgentProcess.stop]
  have stopped := (held.abort agent.proxyHandle).insert (held.aborted managed closed) child
  rwa [abort_supervisor] at stopped

omit [Aead] [Hkdf] [StoreFormat] in
/-- The tasks of open connections are not aborted. -/
theorem abort_open {host : Host} (handle : Option Nat) {sidecar : Sidecar} (member : sidecar ∈ host.sidecars)
    (loud : ¬ sidecar.Quiet) : (host.abort handle).HasProxy sidecar.agent := by
  cases handle with
  | none => exact ⟨sidecar, member, rfl⟩
  | some handle =>
    refine ⟨_, mem_update.mpr ⟨sidecar, member, rfl, ?_⟩, ?_⟩
    · split
      · exact Sidecar.live_iff.mpr (.inr loud)
      · exact Sidecar.live_iff.mpr (.inr loud)
    · split
      · rfl
      · rfl

omit [Aead] [Hkdf] [StoreFormat] in
theorem stopAgent_held {host : Host} (held : host.Held) {name : String} (closed : host.Closed name) :
    (host.stopAgent name).2.Held := by
  cases managed : host.supervisor.lookup name with
  | none =>
    rw [stopAgent_unmanaged managed]
    exact held
  | some agent =>
    rw [stopAgent_managed managed]
    exact held.stop managed closed

omit [Aead] [Hkdf] [StoreFormat] in
/-- Where a connection is open, its task outlives the agent's run. -/
theorem stopAgent_open {host : Host} (held : host.Held) {name : String} (opened : ¬ host.Closed name) :
    (host.stopAgent name).2.HasProxy name ∧ ∃ agent,
    (host.stopAgent name).2.supervisor.lookup name = some agent ∧
      agent.status ≠ .running := by
  obtain ⟨sidecar, member, rfl, loud⟩ : ∃ sidecar ∈ host.sidecars, sidecar.agent = name ∧
    ¬ sidecar.Quiet := by
    unfold Closed at opened
    push Not at opened
    exact opened
  obtain ⟨agent, managed, _⟩ := held.running sidecar member
  rw [stopAgent_managed managed]
  exact ⟨abort_open agent.proxyHandle member loud, agent.stop,
    AList.lookup_insert _, by simp [AgentProcess.stop]⟩

omit [Aead] [Hkdf] [StoreFormat] in
/-- The removal finds no proxy right after the stop of the same `delete_agent`. -/
theorem stopAgent_removable {host : Host} (held : host.Held) {name : String} (closed : host.Closed name) :
    ¬ (host.stopAgent name).2.HasProxy name := by
  have stopped := stopAgent_held held closed
  cases managed : host.supervisor.lookup name with
  | none =>
    rw [stopAgent_unmanaged managed]
    rintro ⟨sidecar, live, rfl⟩
    obtain ⟨agent, found, _⟩ := held.running sidecar live
    rw [managed] at found
    cases found
  | some agent =>
    rw [stopAgent_managed managed] at stopped ⊢
    exact stopped.toTidy.no_proxy (AList.lookup_insert _) (by simp [AgentProcess.stop])

omit [Aead] [Hkdf] [StoreFormat] in
theorem remove_held {host : Host} (held : host.Held) {name : String} (free : ¬ host.HasProxy name) :
    (host.remove name).Held := by
  have same : ∀ sidecar ∈ host.sidecars,
      (host.remove name).supervisor.lookup sidecar.agent = host.supervisor.lookup sidecar.agent :=
    fun sidecar live => AList.lookup_erase_ne fun named => free ⟨sidecar, live, named⟩
  refine ⟨⟨remove_child held.child name, held.single, fun sidecar live => ?_⟩,
    fun sidecar live agent found => ?_⟩
  · rw [same sidecar live]
    exact held.running sidecar live
  · rw [same sidecar live] at found
    exact held.handle sidecar live agent found

omit [Aead] [Hkdf] [StoreFormat] in
theorem Tidy.remove_free {host : Host} {name : String} (tidy : (host.remove name).Tidy) :
    ¬ host.HasProxy name := by
  rintro ⟨sidecar, live, rfl⟩
  obtain ⟨agent, found, _⟩ := tidy.running sidecar live
  rw [remove, AList.lookup_erase] at found
  cases found

/-- An operation that meets the condition keeps the proxies in order. -/
theorem step_held {host host' : Host} {op : Op} (held : host.Held) (keeps : host.Keeps op)
    (stepped : host.step op = some host') : host'.Held := by
  cases op with
  | register config =>
    obtain rfl := Option.some.inj stepped
    exact held.insert keeps (by simp [Supervisor.idle])
  | start name launch =>
    obtain rfl := Option.some.inj stepped
    rcases host.startAgent_cases name launch with
      ⟨_, fault, same⟩ | ⟨agent, proxy, launches, ⟨e, failed⟩ | ⟨child, pid, spawned⟩⟩
    · rw [same]
      exact held
    · rw [startAgent_failed launches failed]
      cases proxy with
      | none => exact held
      | some proxy =>
        obtain ⟨process, spawned⟩ := keeps agent proxy launches
        rw [failed] at spawned
        cases spawned
    · rw [startAgent_started launches spawned]
      have free := held.toTidy.no_proxy launches.managed launches.idle
      exact held.adopt free child pid proxy launch.now
  | stop name =>
    obtain rfl := Option.some.inj stepped
    exact stopAgent_held held keeps
  | check probes =>
    have child := step_child held.child stepped
    obtain ⟨supervisor, checked, rfl⟩ := check_some stepped
    -- The agents with a proxy are as they were.
    have same : ∀ sidecar ∈ host.sidecars,
        supervisor.lookup sidecar.agent = host.supervisor.lookup sidecar.agent := by
      intro sidecar live
      obtain ⟨agent, managed, running⟩ := held.running sidecar live
      obtain ⟨agent', checks, found⟩ := Supervisor.checkHealth_lookup checked managed
      have process := (held.child _ agent managed).mpr running
      have lasts := keeps sidecar.agent agent managed ⟨sidecar, live, rfl⟩
      rcases AgentProcess.checkHealth_running running process checks with ⟨ends, _⟩ | ⟨_, rfl⟩
      · exact absurd ends lasts
      · rw [found, managed]
    refine ⟨⟨child, held.single, fun sidecar live => ?_⟩, fun sidecar live agent found => ?_⟩
    · dsimp only
      rw [same sidecar live]
      exact held.running sidecar live
    · dsimp only at found
      rw [same sidecar live] at found
      exact held.handle sidecar live agent found
  | delete name files =>
    obtain rfl := Option.some.inj stepped
    cases files with
    | error e => exact stopAgent_held held keeps
    | ok done => exact remove_held (stopAgent_held held keeps) (stopAgent_removable held keeps)
  | remove name =>
    obtain rfl := Option.some.inj stepped
    exact remove_held held keeps
  | traffic handle event =>
    obtain rfl := traffic_some stepped
    refine held.update handle fun sidecar => ?_
    cases changed : sidecar.traffic event with
    | none => exact ⟨rfl, rfl⟩
    | some sidecar' => exact Sidecar.traffic_same changed

/-- Where the resources were in order, they are afterwards exactly when the operation meets the
condition. -/
theorem step_tidy_iff {host host' : Host} {op : Op} (held : host.Held)
    (stepped : host.step op = some host') : host'.Tidy ↔ host.Keeps op := by
  refine ⟨fun tidy => ?_, fun keeps => (step_held held keeps stepped).toTidy⟩
  cases op with
  | register config =>
    obtain rfl := Option.some.inj stepped
    exact tidy.no_proxy (AList.lookup_insert _) (by simp [Supervisor.idle])
  | start name launch =>
    obtain rfl := Option.some.inj stepped
    intro agent proxy launches
    cases spawned : spawnAgent name launch with
    | ok process => exact ⟨process, rfl⟩
    | error e =>
      rw [startAgent_failed launches spawned] at tidy
      have managed := launches.managed
      rw [← host.adopt_supervisor name (some proxy)] at managed
      refine absurd ?_ (tidy.no_proxy managed launches.idle)
      exact ⟨_, List.mem_append_right _ List.mem_cons_self, rfl⟩
  | stop name =>
    obtain rfl := Option.some.inj stepped
    by_contra opened
    obtain ⟨proxy, agent, managed, idle⟩ := stopAgent_open held opened
    exact tidy.no_proxy managed idle proxy
  | check probes =>
    intro name agent managed proxy ends
    obtain ⟨supervisor, checked, rfl⟩ := check_some stepped
    obtain ⟨sidecar, live, rfl⟩ := proxy
    obtain ⟨current, managed', running⟩ := held.running sidecar live
    obtain rfl := Option.some.inj (managed.symm.trans managed')
    obtain ⟨agent', checks, found⟩ := Supervisor.checkHealth_lookup checked managed
    have process := (held.child _ agent managed).mpr running
    rcases AgentProcess.checkHealth_running running process checks with ⟨_, ended⟩ | ⟨lasts, _⟩
    · exact tidy.no_proxy found ended.status ⟨sidecar, live, rfl⟩
    · exact lasts ends
  | delete name files =>
    obtain rfl := Option.some.inj stepped
    by_contra opened
    obtain ⟨proxy, agent, managed, idle⟩ := stopAgent_open held opened
    cases files with
    | error e => exact tidy.no_proxy managed idle proxy
    | ok done => exact tidy.remove_free proxy
  | remove name =>
    obtain rfl := Option.some.inj stepped
    exact tidy.remove_free
  | traffic handle event => trivial

end Steps

/-- The host when the daemon has started. -/
def start (supervisor : Supervisor) : Host := ⟨supervisor, [], 0⟩

theorem start_held {entries : List (Except String AgentConfig)} {supervisor : Supervisor}
    (loaded : Supervisor.init entries = .ok supervisor) : (start supervisor).Held where
  child name agent managed := by
    obtain ⟨config, rfl⟩ := Supervisor.init_lookup loaded managed
    simp [Supervisor.idle]
  single := List.nodup_nil
  running sidecar live := absurd live List.not_mem_nil
  handle sidecar live := absurd live List.not_mem_nil

/-- The resources are in order in every state of a run exactly when each of its operations meets the
condition. -/
theorem tidy_iff [Aead] [Hkdf] [StoreFormat] {entries : List (Except String AgentConfig)}
    {supervisor : Supervisor} (loaded : Supervisor.init entries = .ok supervisor) (ops : List Op) :
    (∀ before host, before <+: ops → Run step (start supervisor) before = some host → host.Tidy) ↔
      Run.Each step Keeps (start supervisor) ops := by
  have held := start_held loaded
  rw [Run.reached_iff, and_iff_right held.toTidy]
  refine Run.each_iff (fun s e s' => step_held) (fun s e s' before stepped => ?_) held ops
  rw [← step_tidy_iff before stepped]
  constructor
  · exact fun leads => leads s' stepped
  · intro tidy t other
    obtain rfl := Option.some.inj (stepped.symm.trans other)
    exact tidy

section
open scoped Daemon.StandIn

namespace StandIn

def config : AgentConfig := Daemon.StandIn.config "scout"

def keyed : Launch := { Launch.bare with agentPem := .content (encodePrivateKeyPem Core.StandIn.seed) }

def server : ProxyServer := agentServer config keyed Core.StandIn.seed

def registered : Host := (start ∅).register config

/-- The scout runs with its proxy. -/
def up : Host where
  supervisor := registered.supervisor.insert "scout"
    ((Supervisor.idle config .creating).started 1 (some 1) (some 0) (some 0) 0)
  sidecars := [⟨0, "scout", 0, server, true, 0, 0⟩]
  nextHandle := 1

/-- A client is connected to it. -/
def connected : Host := { up with sidecars := [⟨0, "scout", 0, server, true, 1, 0⟩] }

theorem up_started : registered.step (.start "scout" keyed) = some up := by
  have launches : registered.Launches "scout" keyed (Supervisor.idle config .creating) (some (0, server)) :=
    ⟨rfl, rfl, by decide, startProxy_key config rfl rfl rfl⟩
  have spawned : spawnAgent "scout" keyed = .ok (1, some 1) := rfl
  show some (registered.startAgent "scout" keyed).2 = some up
  rw [startAgent_started launches spawned]
  rfl

def clean : String → Probe := fun _ => ⟨.exited true, 0, 0⟩

theorem up_checked : ∃ host, up.step (.check clean) = some host := ⟨_, rfl⟩

end StandIn

theorem tidy_iff_scout :
    Supervisor.init [] = .ok ∅ ∧
    ∀ before host, before <+: [.register StandIn.config, .start "scout" StandIn.keyed, .traffic 0 .accept,
        .traffic 0 .close, .stop "scout"] →
      Run step (start ∅) before = some host → host.Tidy := by
  have loaded : Supervisor.init [] = .ok ∅ := rfl
  refine ⟨loaded, (tidy_iff loaded _).mpr fun first registered => ⟨?_, ?_⟩⟩
  · rintro ⟨sidecar, live, _⟩
    exact absurd live List.not_mem_nil
  · obtain rfl := Option.some.inj registered
    intro second started
    obtain rfl := Option.some.inj (StandIn.up_started.symm.trans started)
    refine ⟨fun _ _ _ => ⟨_, rfl⟩, fun third accepted => ⟨trivial, fun fourth closed => ⟨trivial, ?_⟩⟩⟩
    have opened : StandIn.up.step (.traffic 0 .accept) = some StandIn.connected := rfl
    obtain rfl := Option.some.inj (opened.symm.trans accepted)
    have ended : StandIn.connected.step (.traffic 0 .close) = some StandIn.up := rfl
    obtain rfl := Option.some.inj (ended.symm.trans closed)
    refine fun fifth _ => ⟨fun sidecar member _ => ?_, trivial⟩
    obtain rfl := List.mem_singleton.mp member
    exact ⟨rfl, rfl⟩

/-- The proxy of an agent that has exited goes on. -/
theorem proxy_outlives :
    ¬ ∀ (entries : List (Except String AgentConfig)) (supervisor : Supervisor) (ops : List Op)
      (host : Host),
      Supervisor.init entries = .ok supervisor → Run step (start supervisor) ops = some host →
      host.Tidy := by
  intro tidy
  obtain ⟨host, checked⟩ := StandIn.up_checked
  have last : Run step StandIn.up [.check StandIn.clean] = some host := Run.cons checked rfl
  have ran := Run.cons (s := StandIn.registered) StandIn.up_started last
  have whole : Run step (start ∅) (.register StandIn.config :: _) = some host := Run.cons rfl ran
  have exited := tidy [] ∅ _ host rfl whole
  obtain ⟨supervisor, health, rfl⟩ := check_some checked
  obtain ⟨agent, found, running⟩ :=
    exited.running ⟨0, "scout", 0, StandIn.server, true, 0, 0⟩ List.mem_cons_self
  have ended : agent.status = .stopped := by
    obtain ⟨agent', checks, found'⟩ := Supervisor.checkHealth_lookup health (AList.lookup_insert _)
    obtain rfl := Option.some.inj (found'.symm.trans found)
    rw [← Except.ok.inj checks]
    rfl
  rw [ended] at running
  cases running

end
end Host
end GrokingClawId.Daemon
