import GrokingClawId.Lib.Run
import GrokingClawId.Daemon.A2a
import GrokingClawId.Daemon.Host

/-!
# Main loop

The loop of `main.rs` takes turns with the requests of the socket and of the control channel: it
checks the health of the agents, collects the names of those that wait for a restart, and starts
them one by one. Between any two of these steps a request may come in, and the daemon may end at any
time and come up again from the agents' directories.
-/

namespace GrokingClawId.Daemon
open GrokingClawId.Core Text A2a

/-- Where the loop stands; in the last phase with the names it has still to start. -/
inductive Phase where
  | checking
  | collecting
  | starting (names : List String)

def Phase.pending : Phase → List String
  | starting names => names
  | _ => []

structure MainState where
  host : Host
  phase : Phase

/-- `check` to `sleep` are the loop's own steps, `start` is `agents.start`, `stop` any `stop_agent`
outside the control channel, `control` a request to `/control/revoke` with the rest of the server as
it is then, `remove` the end of `agents.delete`, `birth` a registration and `boot` a new start of
the daemon. -/
inductive Event where
  | check (probes : String → Probe)
  | collect (names : List String)
  | restart (launch : Launch)
  | sleep
  | start (name : String) (launch : Launch)
  | stop (name : String)
  | control (server : A2aServer) (request : Request)
  | remove (name : String)
  | birth (config : AgentConfig)
  | boot (entries : List (Except String AgentConfig))

namespace MainState

def initial : MainState := ⟨Host.empty, .checking⟩

def Running (s : MainState) (name : String) : Prop :=
  ∃ agent, s.host.supervisor.lookup name = some agent ∧ agent.status = .running

section Steps
variable [Ed25519] [MlDsa65] [FromStr AgentCard] [FromSlice RevokeRequest] [Aead] [Hkdf] [StoreFormat]

/-- `handle_control_revoke` on the agents that are managed now. -/
def revocation (s : MainState) (server : A2aServer) (request : Request) : Revocation :=
  handleControlRevoke
    { server with daemon := { server.daemon with supervisor := s.host.supervisor } } request

/-- A panic in the loop ends the daemon. A hash map lists its names in any order. -/
def step (s : MainState) : Event → Option MainState
  | .check probes =>
    match s.phase with
    | .checking => (s.host.checkHealth probes).toOption.map fun host => ⟨host, .collecting⟩
    | _ => none
  | .collect names =>
    match s.phase with
    | .collecting =>
      if names.Perm s.host.supervisor.agentsNeedingStart then some ⟨s.host, .starting names⟩ else none
    | _ => none
  | .restart launch =>
    match s.phase with
    | .starting (name :: names) =>
      match s.host.startAgent name launch with
      | (.error (.panic _), _) => none
      | (_, host) => some ⟨host, .starting names⟩
    | _ => none
  | .sleep =>
    match s.phase with
    | .starting [] => some ⟨s.host, .checking⟩
    | _ => none
  | .start name launch => some { s with host := (s.host.startAgent name launch).2 }
  | .stop name => some { s with host := (s.host.stopAgent name).2 }
  | .control server request =>
    match (s.revocation server request).stopped with
    | some name => some { s with host := (s.host.stopAgent name).2 }
    | none => some s
  | .remove name => some { s with host := s.host.remove name }
  | .birth config => some { s with host := s.host.register config }
  | .boot entries =>
    match Supervisor.init entries with
    | .ok supervisor => some ⟨⟨supervisor, [], s.host.nextHandle⟩, .checking⟩
    | .error _ => none

theorem step_control {s : MainState} {server : A2aServer} {request : Request} {name : String}
    (revoked : (s.revocation server request).stopped = some name) :
    s.step (.control server request) = some { s with host := (s.host.stopAgent name).2 } := by
  simp only [step, revoked]

omit [Aead] [Hkdf] [StoreFormat] in
/-- The control channel stops agents as `stop_agent` does. -/
theorem revocation_supervisor {s : MainState} {server : A2aServer} {request : Request}
    {name : String} (revoked : (s.revocation server request).stopped = some name) :
    (s.host.stopAgent name).1 = .ok () ∧
      (s.revocation server request).server.daemon.supervisor =
        (s.host.stopAgent name).2.supervisor := by
  obtain ⟨_, _, supervisor, stopped, after⟩ := handleControlRevoke_stops revoked
  obtain ⟨agent, managed, rfl⟩ := Supervisor.stopAgent_ok stopped
  rw [Host.stopAgent_managed managed]
  exact ⟨rfl, by rw [revocation, after]⟩

/-! ### Stopped agents stay stopped -/

/-- The agent does not run, does not wait for a restart and is not about to get one. -/
structure Quiet (s : MainState) (name : String) : Prop where
  idle : ∀ agent, s.host.supervisor.lookup name = some agent →
    agent.status ≠ .running ∧ agent.status ≠ .starting
  unheld : name ∉ s.phase.pending

omit [Ed25519] [MlDsa65] [FromStr AgentCard] [FromSlice RevokeRequest] [Aead] [Hkdf] [StoreFormat] in
theorem Quiet.not_running {s : MainState} {name : String} (quiet : s.Quiet name) :
    ¬ s.Running name := by
  rintro ⟨agent, managed, running⟩
  exact (quiet.idle agent managed).1 running

omit [Ed25519] [MlDsa65] [FromStr AgentCard] [FromSlice RevokeRequest] [Aead] [Hkdf] [StoreFormat] in
/-- What keeps the entry of an agent, or leaves it neither running nor starting. -/
theorem Quiet.of_lookup {s s' : MainState} {name : String} (quiet : s.Quiet name)
    (entry : s'.host.supervisor.lookup name = s.host.supervisor.lookup name ∨
      ∀ agent, s'.host.supervisor.lookup name = some agent →
        agent.status ≠ .running ∧ agent.status ≠ .starting)
    (phase : name ∉ s'.phase.pending) : s'.Quiet name := by
  refine ⟨?_, phase⟩
  rcases entry with same | idle
  · rw [same]
    exact quiet.idle
  · exact idle

omit [Ed25519] [MlDsa65] [FromStr AgentCard] [FromSlice RevokeRequest] [Aead] [Hkdf] [StoreFormat] in
theorem stopAgent_entry (host : Host) (name other : String) :
    (host.stopAgent name).2.supervisor.lookup other = host.supervisor.lookup other ∨
      ∀ agent, (host.stopAgent name).2.supervisor.lookup other = some agent →
        agent.status ≠ .running ∧ agent.status ≠ .starting := by
  cases managed : host.supervisor.lookup name with
  | none =>
    rw [Host.stopAgent_unmanaged managed]
    exact .inl rfl
  | some agent =>
    rw [Host.stopAgent_managed managed]
    by_cases same : other = name
    · subst same
      refine .inr fun stopped found => ?_
      rw [AList.lookup_insert] at found
      obtain rfl := Option.some.inj found
      exact ⟨by simp [AgentProcess.stop], by simp [AgentProcess.stop]⟩
    · exact .inl (AList.lookup_insert_ne same)

theorem check_quiet {s s' : MainState} {name : String} {probes : String → Probe}
    (quiet : s.Quiet name) (stepped : s.step (.check probes) = some s') : s'.Quiet name := by
  simp only [step] at stepped
  cases phase : s.phase with
  | checking =>
    simp only [phase, Host.checkHealth] at stepped
    cases checked : s.host.supervisor.checkHealth probes with
    | error fault =>
      rw [checked] at stepped
      cases stepped
    | ok supervisor =>
      rw [checked] at stepped
      obtain rfl := Option.some.inj stepped
      refine quiet.of_lookup (.inl ?_) List.not_mem_nil
      cases managed : s.host.supervisor.lookup name with
      | none => exact Supervisor.checkHealth_unmanaged checked managed
      | some agent =>
        obtain ⟨agent', unchanged, found⟩ := Supervisor.checkHealth_lookup checked managed
        rw [AgentProcess.checkHealth_idle (quiet.idle agent managed).1] at unchanged
        rw [Except.ok.inj unchanged]
        exact found
  | collecting =>
    simp only [phase] at stepped
    cases stepped
  | starting names =>
    simp only [phase] at stepped
    cases stepped

theorem collect_quiet {s s' : MainState} {name : String} {names : List String}
    (quiet : s.Quiet name) (stepped : s.step (.collect names) = some s') : s'.Quiet name := by
  simp only [step] at stepped
  cases phase : s.phase with
  | collecting =>
    simp only [phase] at stepped
    split at stepped
    · rename_i listed
      obtain rfl := Option.some.inj stepped
      refine quiet.of_lookup (.inl rfl) fun member => ?_
      obtain ⟨agent, managed, waits⟩ := Supervisor.mem_agentsNeedingStart.mp (listed.mem_iff.mp member)
      exact (quiet.idle agent managed).2 waits
    · cases stepped
  | checking =>
    simp only [phase] at stepped
    cases stepped
  | starting names =>
    simp only [phase] at stepped
    cases stepped

theorem restart_some {s s' : MainState} {launch : Launch}
    (stepped : s.step (.restart launch) = some s') :
    ∃ name names, s.phase = .starting (name :: names) ∧
      s' = ⟨(s.host.startAgent name launch).2, .starting names⟩ := by
  simp only [step] at stepped
  cases phase : s.phase with
  | starting names =>
    cases names with
    | nil =>
      simp only [phase] at stepped
      cases stepped
    | cons name names =>
      simp only [phase] at stepped
      refine ⟨name, names, rfl, ?_⟩
      split at stepped
      · cases stepped
      · rename_i result host _ started
        rw [started]
        exact (Option.some.inj stepped).symm
  | checking =>
    simp only [phase] at stepped
    cases stepped
  | collecting =>
    simp only [phase] at stepped
    cases stepped

theorem restart_quiet {s s' : MainState} {name : String} {launch : Launch}
    (quiet : s.Quiet name) (stepped : s.step (.restart launch) = some s') : s'.Quiet name := by
  obtain ⟨first, names, phase, rfl⟩ := restart_some stepped
  have held : ∀ other ∈ first :: names, other ∈ s.phase.pending := by
    rw [phase]
    exact fun _ member => member
  have different : name ≠ first := fun same =>
    quiet.unheld (held name (same ▸ List.mem_cons_self))
  rcases s.host.startAgent_lookup first launch name with same | ⟨same, _⟩
  · exact quiet.of_lookup (.inl same)
      fun member => quiet.unheld (held name (List.mem_cons_of_mem _ member))
  · exact absurd same different

/-- Every step but an explicit start keeps a quiet agent quiet. -/
theorem step_quiet {s s' : MainState} {name : String} {event : Event} (quiet : s.Quiet name)
    (unasked : ∀ launch, event ≠ .start name launch) (stepped : s.step event = some s') :
    s'.Quiet name := by
  cases event with
  | check probes => exact check_quiet quiet stepped
  | collect names => exact collect_quiet quiet stepped
  | restart launch => exact restart_quiet quiet stepped
  | sleep =>
    simp only [step] at stepped
    split at stepped
    · obtain rfl := Option.some.inj stepped
      exact quiet.of_lookup (.inl rfl) List.not_mem_nil
    · cases stepped
  | start other launch =>
    obtain rfl := Option.some.inj stepped
    rcases s.host.startAgent_lookup other launch name with same | ⟨same, _⟩
    · exact quiet.of_lookup (.inl same) quiet.unheld
    · exact absurd (by rw [same]) (unasked launch)
  | stop other =>
    obtain rfl := Option.some.inj stepped
    exact quiet.of_lookup (stopAgent_entry s.host other name) quiet.unheld
  | control server request =>
    simp only [step] at stepped
    split at stepped
    · rename_i other _
      obtain rfl := Option.some.inj stepped
      exact quiet.of_lookup (stopAgent_entry s.host other name) quiet.unheld
    · obtain rfl := Option.some.inj stepped
      exact quiet
  | remove other =>
    obtain rfl := Option.some.inj stepped
    refine quiet.of_lookup ?_ quiet.unheld
    by_cases same : name = other
    · subst same
      refine .inr fun agent managed => ?_
      rw [Host.remove, AList.lookup_erase] at managed
      cases managed
    · exact .inl (AList.lookup_erase_ne same)
  | birth config =>
    obtain rfl := Option.some.inj stepped
    refine quiet.of_lookup ?_ quiet.unheld
    by_cases same : name = config.name
    · subst same
      refine .inr fun agent managed => ?_
      rw [Host.register, Supervisor.register, AList.lookup_insert] at managed
      obtain rfl := Option.some.inj managed
      exact ⟨by simp [Supervisor.idle], by simp [Supervisor.idle]⟩
    · exact .inl (AList.lookup_insert_ne same)
  | boot entries =>
    simp only [step] at stepped
    cases loaded : Supervisor.init entries with
    | error e =>
      simp only [loaded] at stepped
      cases stepped
    | ok supervisor =>
      simp only [loaded] at stepped
      obtain rfl := Option.some.inj stepped
      refine ⟨fun agent managed => ?_, List.not_mem_nil⟩
      obtain ⟨config, rfl⟩ := Supervisor.init_lookup loaded managed
      exact ⟨by simp [Supervisor.idle], by simp [Supervisor.idle]⟩

theorem run_quiet {s s' : MainState} {name : String} {events : List Event} (quiet : s.Quiet name)
    (unasked : ∀ launch, .start name launch ∉ events) (ran : Run step s events = some s') :
    s'.Quiet name := by
  let allowed : Event → Prop := fun event => ∀ launch, event ≠ .start name launch
  have kept : ∀ t event t', t.Quiet name → allowed event → step t event = some t' → t'.Quiet name :=
    fun t event t' before other stepped => step_quiet before other stepped
  have meets : ∀ event ∈ events, allowed event :=
    fun event member launch same => unasked launch (same ▸ member)
  exact Run.preserves kept quiet meets ran

/-- A `stop_agent` for the agent that returns `Ok`. -/
inductive Stops (s : MainState) (name : String) : Event → Prop where
  | stop (ok : (s.host.stopAgent name).1 = .ok ()) : Stops s name (.stop name)
  | control (server : A2aServer) (request : Request)
    (revoked : (s.revocation server request).stopped = some name) :
    Stops s name (.control server request)

theorem stops_step {s s' : MainState} {name : String} {event : Event} (stops : s.Stops name event)
    (stepped : s.step event = some s') :
    s' = { s with host := (s.host.stopAgent name).2 } ∧
      ∃ agent, s'.host.supervisor.lookup name = some agent ∧ agent.status = .stopped := by
  have after : s' = { s with host := (s.host.stopAgent name).2 } ∧
      (s.host.stopAgent name).1 = .ok () := by
    cases stops with
    | stop ok => exact ⟨(Option.some.inj stepped).symm, ok⟩
    | control server request revoked =>
      rw [step_control revoked] at stepped
      exact ⟨(Option.some.inj stepped).symm, (revocation_supervisor revoked).1⟩
  obtain ⟨rfl, ok⟩ := after
  obtain ⟨agent, _, stopped⟩ := Host.stopAgent_ok ok
  refine ⟨rfl, agent.stop, ?_, rfl⟩
  rw [stopped]
  exact AList.lookup_insert _

theorem stops_quiet {s s' : MainState} {name : String} {event : Event} (stops : s.Stops name event)
    (stepped : s.step event = some s') (unheld : name ∉ s.phase.pending) : s'.Quiet name := by
  obtain ⟨rfl, agent, managed, stopped⟩ := stops_step stops stepped
  refine ⟨fun agent' found => ?_, unheld⟩
  obtain rfl := Option.some.inj (managed.symm.trans found)
  rw [stopped]
  exact ⟨by simp, by simp⟩

/-! ### Names that the loop holds -/

theorem restart_step {s : MainState} {name : String} {names : List String} {launch : Launch}
    (phase : s.phase = .starting (name :: names))
    (returns : ∀ reason, (s.host.startAgent name launch).1 ≠ .error (.panic reason)) :
    s.step (.restart launch) = some ⟨(s.host.startAgent name launch).2, .starting names⟩ := by
  simp only [step, phase]

/-- The loop can come to start an agent it holds, without any request. -/
theorem held_runs {s : MainState} {name : String} (held : name ∈ s.phase.pending)
    {agent : AgentProcess} (managed : s.host.supervisor.lookup name = some agent)
    (idle : agent.status ≠ .running) :
    ∃ events s', (∀ launch, .start name launch ∉ events) ∧ Run step s events = some s' ∧
      s'.Running name := by
  obtain ⟨names, phase⟩ : ∃ names, s.phase = .starting names := by
    cases phase : s.phase with
    | starting names => exact ⟨names, rfl⟩
    | checking =>
      rw [phase] at held
      exact absurd held List.not_mem_nil
    | collecting =>
      rw [phase] at held
      exact absurd held List.not_mem_nil
  rw [phase] at held
  -- The names before it fail for want of a script, which changes nothing.
  induction names generalizing s with
  | nil => exact absurd held List.not_mem_nil
  | cons first names ih =>
    by_cases same : name = first
    · subst same
      have started := Host.startAgent_bare managed idle
      have stepped : s.step (.restart .bare) = _ := restart_step phase fun reason panicked => by
        rw [started] at panicked
        cases panicked
      exact ⟨[.restart .bare], _, by simp, Run.cons stepped rfl, Host.startAgent_ok started⟩
    · have passed := s.host.startAgent_missing first
      have stepped : s.step (.restart .missing) = _ := restart_step phase fun reason panicked => by
        rw [passed] at panicked
        cases panicked
      rw [passed] at stepped
      obtain ⟨events, s', unasked, ran, running⟩ :=
        ih (s := ⟨s.host, .starting names⟩) managed ((List.mem_cons.mp held).resolve_left same) rfl
      refine ⟨.restart .missing :: events, s', fun launch member => ?_, Run.cons stepped ran, running⟩
      rcases List.mem_cons.mp member with impossible | member
      · cases impossible
      · exact unasked launch member

/-! ### Stop and revocation -/

/-- A stopped agent can run again before it is asked for exactly when the loop held its name. -/
theorem stop_wins_iff {s s' : MainState} {name : String} {event : Event}
    (stops : s.Stops name event) (stepped : s.step event = some s') :
    (∀ events t, (∀ launch, .start name launch ∉ events) → Run step s' events = some t →
      ¬ t.Running name) ↔
      name ∉ s.phase.pending := by
  constructor
  · intro stays held
    obtain ⟨rfl, agent, managed, stopped⟩ := stops_step stops stepped
    have idle : agent.status ≠ .running := by
      rw [stopped]
      simp
    obtain ⟨events, t, unasked, ran, running⟩ :=
      held_runs (s := { s with host := (s.host.stopAgent name).2 }) held managed idle
    exact stays events t unasked ran running
  · intro unheld events t unasked ran
    exact (run_quiet (stops_quiet stops stepped unheld) unasked ran).not_running

/-- The step is a `start_agent` for the agent that succeeds. -/
def Starts (s : MainState) (name : String) : Event → Prop
  | .start other launch => other = name ∧ (s.host.startAgent name launch).1 = .ok ()
  | .restart launch => s.phase.pending.head? = some name ∧ (s.host.startAgent name launch).1 = .ok ()
  | _ => False

theorem starts_running {s s' : MainState} {name : String} {event : Event}
    (starts : s.Starts name event) (stepped : s.step event = some s') : s'.Running name := by
  cases event with
  | start other launch =>
    obtain ⟨rfl, ok⟩ := starts
    obtain rfl := Option.some.inj stepped
    exact Host.startAgent_ok ok
  | restart launch =>
    obtain ⟨next, ok⟩ := starts
    obtain ⟨first, names, phase, rfl⟩ := restart_some stepped
    rw [phase] at next
    obtain rfl := Option.some.inj next
    exact Host.startAgent_ok ok
  | _ => exact starts.elim

/-- As long as no request starts it, a revoked agent is never started and never runs exactly when
the loop did not hold its name. -/
theorem revoked_stays_stopped_iff {s s' : MainState} {server : A2aServer} {request : Request}
    {name : String} (revoked : (s.revocation server request).stopped = some name)
    (stepped : s.step (.control server request) = some s') :
    (∀ events t, (∀ launch, .start name launch ∉ events) → Run step s' events = some t →
      ¬ t.Running name ∧
        ∀ event t', (∀ launch, event ≠ .start name launch) → t.step event = some t' →
          ¬ t.Starts name event) ↔
      name ∉ s.phase.pending := by
  have stops : s.Stops name (.control server request) := .control server request revoked
  constructor
  · intro stays held
    obtain ⟨rfl, agent, managed, stopped⟩ := stops_step stops stepped
    have idle : agent.status ≠ .running := by
      rw [stopped]
      simp
    obtain ⟨events, t, unasked, ran, running⟩ :=
      held_runs (s := { s with host := (s.host.stopAgent name).2 }) held managed idle
    exact (stays events t unasked ran).1 running
  · intro unheld events t unasked ran
    have quiet := run_quiet (stops_quiet stops stepped unheld) unasked ran
    refine ⟨quiet.not_running, fun event t' other last starts => ?_⟩
    exact (step_quiet quiet other last).not_running (starts_running starts last)

end Steps

section
open scoped Core.StandIn A2a.StandIn.Files Daemon.StandIn

namespace StandIn

def daemon : MainState := ⟨⟨A2a.StandIn.server.daemon.supervisor, [], 0⟩, .checking⟩

def births : List Event :=
  [.boot [], .birth (Daemon.StandIn.config "scout"), .birth (Daemon.StandIn.config "helper")]

theorem births_run : Run step initial births = some daemon := rfl

def revoke : Request := A2a.StandIn.order A2a.StandIn.stopScout

theorem daemon_revoked :
    (daemon.revocation A2a.StandIn.server revoke).stopped =
      some "scout" := A2a.StandIn.scout_stopped

def stopped : MainState := { daemon with host := (daemon.host.stopAgent "scout").2 }

theorem daemon_step : daemon.step (.control A2a.StandIn.server revoke) = some stopped :=
  step_control daemon_revoked

/-- The scout is started and crashes, and the loop collects its name. -/
def crash : List Event :=
  births ++ [.start "scout" .bare, .check fun _ => ⟨.exited false, 0, 0⟩, .collect ["scout"]]

theorem crash_run : ∃ s, Run step initial crash = some s ∧ s.phase.pending = ["scout"] ∧
    ∃ agent, s.host.supervisor.lookup "scout" = some agent := ⟨_, rfl, rfl, _, rfl⟩

end StandIn

theorem revoked_stays_stopped_iff_scout :
    (StandIn.daemon.revocation A2a.StandIn.server StandIn.revoke).stopped = some "scout" ∧
    StandIn.daemon.step (.control A2a.StandIn.server StandIn.revoke) = some StandIn.stopped ∧
    ∀ events t, (∀ launch, .start "scout" launch ∉ events) →
      Run step StandIn.stopped events = some t → ¬ t.Running "scout" := by
  refine ⟨StandIn.daemon_revoked, StandIn.daemon_step, fun events t unasked ran => ?_⟩
  have stays := (revoked_stays_stopped_iff StandIn.daemon_revoked StandIn.daemon_step).mpr List.not_mem_nil
  exact (stays events t unasked ran).1

/-- A revoked agent runs again when it is asked for. -/
theorem revoked_restarts :
    ¬ ∀ (before : List Event) (s s' : MainState) (server : A2aServer) (request : Request)
      (name : String) (events : List Event) (t : MainState),
      Run step initial before = some s → (s.revocation server request).stopped = some name →
      s.step (.control server request) = some s' → Run step s' events = some t →
      ¬ t.Running name := by
  intro stays
  refine stays StandIn.births _ _ _ _ "scout" [.start "scout" .bare] _ StandIn.births_run
    StandIn.daemon_revoked StandIn.daemon_step rfl ?_
  exact Host.startAgent_ok (Host.startAgent_bare (AList.lookup_insert _) (by decide))

theorem stop_wins_iff_scout :
    StandIn.daemon.Stops "scout" (.stop "scout") ∧
    StandIn.daemon.step (.stop "scout") = some StandIn.stopped ∧
    ∀ events t, (∀ launch, .start "scout" launch ∉ events) →
      Run step StandIn.stopped events = some t → ¬ t.Running "scout" := by
  have stops : StandIn.daemon.Stops "scout" (.stop "scout") := .stop rfl
  exact ⟨stops, rfl, (stop_wins_iff stops rfl).mpr List.not_mem_nil⟩

/-- A stop between the collection of the names and the start is undone by the loop. -/
theorem stop_loses :
    ¬ ∀ (before : List Event) (s s' : MainState) (name : String) (event : Event)
      (events : List Event) (t : MainState),
      Run step initial before = some s → s.Stops name event → s.step event = some s' →
      (∀ launch, .start name launch ∉ events) → Run step s' events = some t →
      ¬ t.Running name := by
  intro stays
  obtain ⟨s, ran, pending, agent, managed⟩ := StandIn.crash_run
  have stopped := Host.stopAgent_managed managed
  have stops : s.Stops "scout" (.stop "scout") := .stop (by rw [stopped])
  obtain ⟨_, idle, found, status⟩ := stops_step stops rfl
  have held : "scout" ∈ s.phase.pending := by
    rw [pending]
    exact List.mem_cons_self
  obtain ⟨events, t, unasked, resumed, running⟩ :=
    held_runs (s := { s with host := (s.host.stopAgent "scout").2 }) held found (by rw [status]; simp)
  exact stays StandIn.crash s _ "scout" (.stop "scout") events t ran stops rfl unasked resumed running

end
end MainState
end GrokingClawId.Daemon
