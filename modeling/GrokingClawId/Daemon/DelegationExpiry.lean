import GrokingClawId.Daemon.RestartBudget

/-!
# Starts after the delegation has expired

`check_health` stops a running agent whose delegation has expired. `start_agent` does not look at the
expiry, and the main loop starts what waits without looking at it again.
-/

namespace GrokingClawId.Daemon
open GrokingClawId.Core A2a

/-- What `start_agent` does look at, and what can go wrong in it. -/
inductive Hindered [Aead] [Hkdf] [StoreFormat] (name : String) (launch : Launch)
    (agent : AgentProcess) :
    Prop where
  | script (missing : launch.runScript = false)
  | running (runs : agent.status = .running)
  | proxy (fault : Fault) (failed : startProxy agent.config launch = .error fault)
  | process (e : String) (failed : spawnAgent name launch = .error e)

section Starts
variable [Aead] [Hkdf] [StoreFormat]

theorem startAgent_ok_iff (host : Host) (name : String) (launch : Launch) :
    (host.startAgent name launch).1 = .ok () ↔
      ∃ agent, host.supervisor.lookup name = some agent ∧ ¬ Hindered name launch agent := by
  rcases host.startAgent_cases name launch with
    ⟨never, fault, same⟩ | ⟨agent, proxy, launches, ⟨e, failed⟩ | ⟨child, pid, spawned⟩⟩
  · rw [same]
    refine ⟨fun contra => (by cases contra), fun ⟨agent, managed, free⟩ => ?_⟩
    cases proxy : startProxy agent.config launch with
    | error fault => exact absurd (.proxy fault proxy) free
    | ok server =>
      refine absurd ⟨?_, managed, fun runs => free (.running runs), proxy⟩ (never agent server)
      cases script : launch.runScript with
      | false => exact absurd (.script script) free
      | true => rfl
  · rw [Host.startAgent_failed launches failed]
    refine ⟨fun contra => (by cases contra), fun ⟨_, _, free⟩ => absurd (.process e failed) free⟩
  · rw [Host.startAgent_started launches spawned]
    refine ⟨fun _ => ⟨agent, launches.managed, fun hindered => ?_⟩, fun _ => rfl⟩
    cases hindered with
    | script missing => rw [launches.script] at missing; cases missing
    | running runs => exact launches.idle runs
    | proxy fault failed => rw [launches.proxy] at failed; cases failed
    | process e failed => rw [spawned] at failed; cases failed

end Starts

namespace MainState
section Steps
variable [Ed25519] [MlDsa65] [FromStr AgentCard] [FromSlice RevokeRequest] [Aead] [Hkdf] [StoreFormat]

/-- The event is a start of the agent, for a request or by the loop. -/
inductive Calls (s : MainState) (name : String) (launch : Launch) : Event → Prop where
  | ipc : Calls s name launch (.start name launch)
  | loop (next : s.phase.pending.head? = some name) : Calls s name launch (.restart launch)

omit [Ed25519] [MlDsa65] [FromStr AgentCard] [FromSlice RevokeRequest] in
theorem starts_iff {s : MainState} {name : String} {launch : Launch} {e : Event}
    (calls : s.Calls name launch e) :
    s.Starts name e ↔ (s.host.startAgent name launch).1 = .ok () := by
  cases calls with
  | ipc => exact ⟨And.right, fun ok => ⟨rfl, ok⟩⟩
  | loop next => exact ⟨And.right, fun ok => ⟨next, ok⟩⟩

omit [Ed25519] [MlDsa65] [FromStr AgentCard] [FromSlice RevokeRequest] in
theorem start_unexpired_iff {s : MainState} {name : String} {launch : Launch} {e : Event}
    (calls : s.Calls name launch e) :
    (s.Starts name e → ∀ agent, s.host.supervisor.lookup name = some agent →
      ∀ expiresAt, agent.config.expiresAt = some expiresAt → launch.now ≤ expiresAt) ↔
    ∀ agent, s.host.supervisor.lookup name = some agent → agent.Expired launch.now →
      Hindered name launch agent := by
  rw [starts_iff calls, startAgent_ok_iff]
  constructor
  · rintro early agent managed ⟨expiresAt, expiry, past⟩
    by_contra free
    exact absurd past (Int.not_lt.mpr (early ⟨agent, managed, free⟩ agent managed expiresAt expiry))
  · rintro hinders ⟨agent, managed, free⟩ found found' expiresAt expiry
    obtain rfl := Option.some.inj (managed.symm.trans found')
    by_contra late
    exact free (hinders agent managed ⟨expiresAt, expiry, Int.not_le.mp late⟩)

omit [Ed25519] [MlDsa65] [FromStr AgentCard] [FromSlice RevokeRequest] in
/-- Nothing in the environment need stand in the way of an agent that is not running. -/
theorem hindered_bare {name : String} {now : DateTime} {agent : AgentProcess}
    (hindered : Hindered name { Launch.bare with now } agent) : agent.status = .running := by
  cases hindered with
  | running runs => exact runs
  | script missing => cases missing
  | proxy fault failed => cases failed
  | process e failed => cases failed

omit [Ed25519] [MlDsa65] [FromStr AgentCard] [FromSlice RevokeRequest] in
/-- A start keeps to the expiry of the delegation exactly when an expired agent meets some other
hindrance; and at a time every start does, whatever it meets, exactly when an expired agent is running. -/
theorem starts_unexpired_iff {s : MainState} {name : String} {launch : Launch} {e : Event}
    (calls : s.Calls name launch e) :
    ((s.Starts name e → ∀ agent, s.host.supervisor.lookup name = some agent →
        ∀ expiresAt, agent.config.expiresAt = some expiresAt → launch.now ≤ expiresAt) ↔
      ∀ agent, s.host.supervisor.lookup name = some agent → agent.Expired launch.now →
        Hindered name launch agent) ∧
    ((∀ launch' e', launch'.now = launch.now → s.Calls name launch' e' → s.Starts name e' →
        ∀ agent, s.host.supervisor.lookup name = some agent →
        ∀ expiresAt, agent.config.expiresAt = some expiresAt → launch.now ≤ expiresAt) ↔
      ∀ agent, s.host.supervisor.lookup name = some agent → agent.Expired launch.now →
        agent.status = .running) := by
  refine ⟨start_unexpired_iff calls, fun early agent managed expired =>
    ?_, fun runs launch' e' now calls' => ?_⟩
  · have bare := early { Launch.bare with now := launch.now } _ rfl .ipc
    exact hindered_bare ((start_unexpired_iff .ipc).mp bare agent managed expired)
  · rw [← now] at runs ⊢
    exact (start_unexpired_iff calls').mpr fun agent managed expired => .running (runs agent managed expired)

end Steps

section
open scoped Core.StandIn A2a.StandIn.Files Daemon.StandIn

/-- A start at the moment at which the delegation ends. -/
theorem starts_unexpired_iff_spent :
    ∃ s, Run step initial [.birth StandIn.spent] = some s ∧
      s.Starts "scout" (.start "scout" .bare) ∧
      ∀ agent, s.host.supervisor.lookup "scout" = some agent →
        ∀ expiresAt, agent.config.expiresAt = some expiresAt → Launch.bare.now ≤ expiresAt := by
  refine ⟨_, rfl, ⟨rfl, rfl⟩, (starts_unexpired_iff .ipc).1.mpr ?_ ⟨rfl, rfl⟩⟩
  rintro agent managed ⟨expiresAt, expiry, past⟩
  obtain rfl := Option.some.inj managed
  obtain rfl := Option.some.inj expiry
  cases past

/-- A request starts an agent after its delegation has expired. -/
theorem expired_starts :
    ¬ ∀ (before : List Event) (s : MainState) (name : String) (launch : Launch) (e : Event),
      Run step initial before = some s → s.Calls name launch e → s.Starts name e →
      ∀ agent, s.host.supervisor.lookup name = some agent →
        ∀ expiresAt, agent.config.expiresAt = some expiresAt → launch.now ≤ expiresAt := by
  intro early
  have late := early [.birth StandIn.spent] _ "scout" { Launch.bare with now := 1 } _ rfl .ipc
      ⟨rfl, rfl⟩ _ rfl 0 rfl
  exact absurd late (by decide)

end
end MainState
end GrokingClawId.Daemon
