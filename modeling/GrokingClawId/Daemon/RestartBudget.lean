import GrokingClawId.Lib.SlidingWindow
import GrokingClawId.Daemon.MainLoop

/-!
# Restart budget

`check_health` restarts an agent whose process has ended, as long as fewer than `max_restarts` of its
stamps lie in the window. The stamps stay with the agent when it is stopped and started again.
-/

namespace GrokingClawId.Daemon
open GrokingClawId.Core SlidingWindow A2a

/-- Less than the restart window ago. -/
def RestartConfig.counts (restart : RestartConfig) (t now : DateTime) : Bool :=
  decide (now - t < restart.restartWindowSeconds.toNat * DateTime.nanosPerSecond)

/-- What `Duration::seconds` takes, which is less than what the type of the window holds. -/
def RestartConfig.InRange (restart : RestartConfig) : Prop :=
  restart.restartWindowSeconds.toNat ≤ 9223372036854775

theorem RestartConfig.counts_lapses (restart : RestartConfig) : Lapses restart.counts := by
  intro t now later since still
  have early := of_decide_eq_true still
  exact decide_eq_true (lt_of_le_of_lt (Int.sub_le_sub_right since t) early)

theorem RestartConfig.InRange.duration {restart : RestartConfig} (inRange : restart.InRange) :
    durationSeconds restart.restartWindowSeconds.toInt64.toInt =
      .ok (restart.restartWindowSeconds.toNat : Int) := by
  have bound : restart.restartWindowSeconds.toNat ≤ 9223372036854775 := inRange
  have same : restart.restartWindowSeconds.toInt64.toInt = restart.restartWindowSeconds.toNat := by
    refine BitVec.toInt_eq_toNat_of_lt ?_
    have whole : restart.restartWindowSeconds.toBitVec.toNat = restart.restartWindowSeconds.toNat :=
      rfl
    show 2 * restart.restartWindowSeconds.toBitVec.toNat < 2 ^ 64
    omega
  rw [same, durationSeconds, if_pos (by omega)]

namespace AgentProcess

/-- The stamps that are left when the budget is looked at. -/
def recentRestarts (agent : AgentProcess) (now : DateTime) : List DateTime :=
  within agent.config.restart.counts agent.restartTimestamps now

/-- The process has ended in a way that calls for a restart. -/
def Fails (agent : AgentProcess) (probe : Probe) : Prop :=
  ∃ success, probe.wait = .exited success ∧ (success = true → agent.config.restart.restartOnSuccess = true)

def Expired (agent : AgentProcess) (now : DateTime) : Prop :=
  ∃ expiresAt, agent.config.expiresAt = some expiresAt ∧ expiresAt < now

theorem restart_inRange {agent : AgentProcess} (inRange : agent.config.restart.InRange)
    (now : DateTime) : agent.restart now =
      if (agent.recentRestarts now).length < agent.config.restart.maxRestarts then
        .ok { agent with restartTimestamps := agent.recentRestarts now ++ [now],
                         restartCount := agent.restartCount + 1, child := none, pid := none,
                         status := .starting }
      else .ok { agent with restartTimestamps := agent.recentRestarts now, status := .crashed, child := none,
                            pid := none } := by
  unfold restart
  rw [inRange.duration]
  rfl

/-- What a check at `now` may do to the stamps: nothing, or it drops those that have lapsed and adds
one for a restart that the budget allows. -/
structure Budgets (agent agent' : AgentProcess) (now : DateTime) : Prop where
  config : agent'.config = agent.config
  stamps : (agent'.restartTimestamps = agent.restartTimestamps ∧
      (agent.status = .running → agent'.status ≠ .starting)) ∨
    (agent'.restartTimestamps = agent.recentRestarts now ∧ agent'.status ≠ .starting) ∨
    ((agent.recentRestarts now).length < agent.config.restart.maxRestarts ∧
      agent'.restartTimestamps = agent.recentRestarts now ++ [now])

theorem budgets_refl (agent : AgentProcess) (now : DateTime) : agent.Budgets agent now :=
  ⟨rfl, .inl ⟨rfl, fun running => by simp [running]⟩⟩

theorem restart_budgets {agent agent' : AgentProcess} {now : DateTime}
    (inRange : agent.config.restart.InRange) (ok : agent.restart now = .ok agent') :
    agent.Budgets agent' now := by
  rw [restart_inRange inRange] at ok
  split at ok
  · rename_i room
    obtain rfl := Except.ok.inj ok
    exact ⟨rfl, .inr (.inr ⟨room, rfl⟩)⟩
  · obtain rfl := Except.ok.inj ok
    exact ⟨rfl, .inr (.inl ⟨rfl, by simp⟩)⟩

theorem reap_budgets {agent agent' : AgentProcess} {probe : Probe}
    (inRange : agent.config.restart.InRange) (ok : agent.reap probe = .ok agent') :
    agent.Budgets agent' probe.now := by
  unfold reap at ok
  split at ok
  · split at ok
    · obtain rfl := Except.ok.inj ok
      exact ⟨rfl, .inl ⟨rfl, fun _ => by simp⟩⟩
    · exact restart_budgets inRange ok
  · obtain rfl := Except.ok.inj ok
    exact budgets_refl agent probe.now
  · obtain rfl := Except.ok.inj ok
    exact budgets_refl agent probe.now

theorem expire_fields (agent : AgentProcess) (now : DateTime) :
    (agent.expire now).config = agent.config ∧
      (agent.expire now).restartTimestamps = agent.restartTimestamps := by
  unfold expire
  split
  · exact ⟨rfl, rfl⟩
  · split <;> exact ⟨rfl, rfl⟩

theorem expire_status (agent : AgentProcess) (now : DateTime) :
    (agent.Expired now ∧ (agent.expire now).status = .stopped) ∨
      (¬ agent.Expired now ∧ (agent.expire now).status = agent.status) := by
  unfold expire Expired
  split
  · rename_i never
    exact .inr ⟨by simp [never], rfl⟩
  · rename_i expiresAt expiry
    split
    · rename_i past
      exact .inl ⟨⟨expiresAt, expiry, past⟩, rfl⟩
    · rename_i valid
      exact .inr ⟨by simpa [expiry] using valid, rfl⟩

theorem Budgets.expire {agent agent' : AgentProcess} {now : DateTime}
    (budgets : agent.Budgets agent' now) (later : DateTime) :
    agent.Budgets (agent'.expire later) now := by
  obtain ⟨config, stamps⟩ := agent'.expire_fields later
  have status : (agent'.expire later).status = .starting → agent'.status = .starting := by
    intro starting
    rcases agent'.expire_status later with ⟨_, stopped⟩ | ⟨_, same⟩
    · rw [stopped] at starting
      cases starting
    · rw [← same]
      exact starting
  refine ⟨config.trans budgets.config, ?_⟩
  rw [stamps]
  rcases budgets.stamps with ⟨same, quiet⟩ | ⟨kept, quiet⟩ | ⟨room, pushed⟩
  · exact .inl ⟨same, fun running starting => quiet running (status starting)⟩
  · exact .inr (.inl ⟨kept, fun starting => quiet (status starting)⟩)
  · exact .inr (.inr ⟨room, pushed⟩)

theorem checkHealth_budgets {agent agent' : AgentProcess} {probe : Probe}
    (inRange : agent.config.restart.InRange) (ok : agent.checkHealth probe = .ok agent') :
    agent.Budgets agent' probe.now := by
  unfold checkHealth at ok
  split at ok
  · obtain rfl := Except.ok.inj ok
    exact budgets_refl agent probe.now
  · split at ok
    · obtain ⟨reaped, reap, ok⟩ := bind_ok ok
      obtain rfl := Except.ok.inj ok
      exact (reap_budgets inRange reap).expire probe.later
    · obtain rfl := Except.ok.inj ok
      exact (budgets_refl agent probe.now).expire probe.later

/-- What an exit that finds the budget used up comes to. -/
theorem checkHealth_exhausted {agent agent' : AgentProcess} {probe : Probe}
    (inRange : agent.config.restart.InRange) (running : agent.status = .running)
    (child : agent.child.isSome = true) (fails : agent.Fails probe)
    (used : agent.config.restart.maxRestarts ≤ (agent.recentRestarts probe.now).length)
    (ok : agent.checkHealth probe = .ok agent') :
    (agent.Expired probe.later ∧ agent'.status = .stopped) ∨
      (¬ agent.Expired probe.later ∧ agent'.status = .crashed) := by
  obtain ⟨success, exited, asked⟩ := fails
  have unclean : (success && !agent.config.restart.restartOnSuccess) = false := by
    cases success with
    | false => rfl
    | true => rw [asked rfl]; rfl
  rw [checkHealth, if_neg (by simpa using running), child, if_pos rfl] at ok
  simp only [reap, exited, unclean, Bool.false_eq_true, if_false, restart_inRange inRange,
    if_neg (Nat.not_lt.mpr used), bind, Except.bind] at ok
  obtain rfl := Except.ok.inj ok
  exact expire_status { agent with restartTimestamps := agent.recentRestarts probe.now, status := .crashed,
                                   child := none, pid := none } probe.later

end AgentProcess

/-! ### What a step does to one agent -/

/-- The entry of a managed agent after an event that neither makes it anew nor takes it out. -/
inductive AgentProcess.Moves (agent : AgentProcess) (name : String) :
    Event → AgentProcess → Prop where
  | stays (e : Event) : Moves agent name e agent
  | checked (probes : String → Probe) (agent' : AgentProcess)
    (ok : agent.checkHealth (probes name) = .ok agent') : Moves agent name (.check probes) agent'
  | started (e : Event) (child : Nat) (pid : Option Nat) (port : Option UInt16) (handle : Option Nat)
    (now : DateTime) : Moves agent name e (agent.started child pid port handle now)
  | stopped (e : Event) : Moves agent name e agent.stop

/-- The event makes an agent of the name, or all agents, anew. -/
def Event.Makes (name : String) : Event → Prop
  | .birth config => config.name = name
  | .boot _ => True
  | _ => False

/-- The entry after an event. -/
def Entry (name : String) (e : Event) (before after : Option AgentProcess) : Prop :=
  after = none ∨ ∃ agent agent', before = some agent ∧ after = some agent' ∧ agent.Moves name e agent'

theorem entry_same {name : String} {before after : Option AgentProcess} (e : Event)
    (same : after = before) : Entry name e before after := by
  cases before with
  | none => exact .inl same
  | some agent => exact .inr ⟨agent, agent, rfl, same, .stays e⟩

namespace MainState

theorem stop_entry (host : Host) (e : Event) (name other : String) :
    Entry name e (host.supervisor.lookup name) ((host.stopAgent other).2.supervisor.lookup name) := by
  cases managed : host.supervisor.lookup other with
  | none =>
    rw [Host.stopAgent_unmanaged managed]
    exact entry_same e rfl
  | some agent =>
    rw [Host.stopAgent_managed managed]
    by_cases same : name = other
    · subst same
      exact .inr ⟨agent, agent.stop, managed, AList.lookup_insert _, .stopped e⟩
    · exact entry_same e (AList.lookup_insert_ne same)

section Steps
variable [Ed25519] [MlDsa65] [FromStr AgentCard] [FromSlice RevokeRequest] [Aead] [Hkdf] [StoreFormat]

omit [Ed25519] [MlDsa65] [FromStr AgentCard] [FromSlice RevokeRequest] in
theorem start_entry (host : Host) (e : Event) (name other : String) (launch : Launch) :
    Entry name e (host.supervisor.lookup name)
      ((host.startAgent other launch).2.supervisor.lookup name) := by
  rcases host.startAgent_cases other launch with
    ⟨_, fault, same⟩ | ⟨agent, proxy, launches, ⟨failure, failed⟩ | ⟨child, pid, spawned⟩⟩
  · rw [same]
    exact entry_same e rfl
  · rw [Host.startAgent_failed launches failed]
    exact entry_same e (by rw [Host.adopt_supervisor])
  · rw [Host.startAgent_started launches spawned]
    by_cases same : name = other
    · subst same
      exact .inr ⟨agent, _, launches.managed, AList.lookup_insert _, .started e _ _ _ _ _⟩
    · exact entry_same e (AList.lookup_insert_ne same)

theorem check_some {s s' : MainState} {probes : String → Probe}
    (stepped : s.step (.check probes) = some s') :
    s.host.supervisor.checkHealth probes = .ok s'.host.supervisor := by
  simp only [step] at stepped
  split at stepped
  · obtain ⟨host, ok, rfl⟩ := Option.map_eq_some_iff.mp stepped
    unfold Host.checkHealth at ok
    cases checked : s.host.supervisor.checkHealth probes with
    | error fault =>
      rw [checked] at ok
      cases ok
    | ok supervisor =>
      rw [checked] at ok
      rw [← Option.some.inj ok]
  · cases stepped

/-- What each event does to the entry of an agent. -/
theorem step_entry {s s' : MainState} {e : Event} {name : String} (stepped : s.step e = some s')
    (other : ¬ e.Makes name) :
    Entry name e (s.host.supervisor.lookup name) (s'.host.supervisor.lookup name) := by
  cases e with
  | check probes =>
    have checked := check_some stepped
    cases managed : s.host.supervisor.lookup name with
    | none => exact .inl (Supervisor.checkHealth_unmanaged checked managed)
    | some agent =>
      obtain ⟨agent', health, found⟩ := Supervisor.checkHealth_lookup checked managed
      exact .inr ⟨agent, agent', rfl, found, .checked probes agent' health⟩
  | collect names =>
    simp only [step] at stepped
    split at stepped
    · split at stepped
      · obtain rfl := Option.some.inj stepped
        exact entry_same _ rfl
      · cases stepped
    · cases stepped
  | restart launch =>
    obtain ⟨first, names, _, rfl⟩ := restart_some stepped
    exact start_entry s.host _ name first launch
  | sleep =>
    simp only [step] at stepped
    split at stepped
    · obtain rfl := Option.some.inj stepped
      exact entry_same _ rfl
    · cases stepped
  | start started launch =>
    obtain rfl := Option.some.inj stepped
    exact start_entry s.host _ name started launch
  | stop stopped =>
    obtain rfl := Option.some.inj stepped
    exact stop_entry s.host _ name stopped
  | control server request =>
    simp only [step] at stepped
    split at stepped
    · rename_i stopped _
      obtain rfl := Option.some.inj stepped
      exact stop_entry s.host _ name stopped
    · obtain rfl := Option.some.inj stepped
      exact entry_same _ rfl
  | remove removed =>
    obtain rfl := Option.some.inj stepped
    by_cases same : name = removed
    · subst same
      exact .inl (AList.lookup_erase _ _)
    · exact entry_same _ (AList.lookup_erase_ne same)
  | birth config =>
    obtain rfl := Option.some.inj stepped
    exact entry_same _ (AList.lookup_insert_ne (Ne.symm other))
  | boot entries => exact absurd trivial other

/-! ### Restarts in a run -/

/-- The agent has gone from running to waiting for a start. -/
def Restarts (s s' : MainState) (name : String) : Prop :=
  (s.host.supervisor.lookup name).map AgentProcess.status = some .running ∧
    (s'.host.supervisor.lookup name).map AgentProcess.status = some .starting

instance (s s' : MainState) (name : String) : Decidable (s.Restarts s' name) :=
  inferInstanceAs (Decidable (_ ∧ _))

/-- When the check looks at the agent's process. -/
def checkTime (name : String) : Event → List DateTime
  | .check probes => [(probes name).now]
  | _ => []

/-- When the agent is restarted in the run. -/
def restarts (name : String) : MainState → List Event → List DateTime
  | _, [] => []
  | s, e :: events =>
    match s.step e with
    | none => []
    | some s' => (if s.Restarts s' name then checkTime name e else []) ++ restarts name s' events

/-- The restarts before the state, the last of them not after `last`, fit into the budget, and the
stamps of the agent tell of them. -/
structure Budgeted (name : String) (restart : RestartConfig) (passes : List DateTime)
    (last : DateTime) (s : MainState) : Prop where
  spaced : Spaced restart.counts restart.maxRestarts passes
  stamps : ∀ agent, s.host.supervisor.lookup name = some agent →
    agent.config.restart = restart ∧ Covers restart.counts agent.restartTimestamps passes last

omit [Ed25519] [MlDsa65] [FromStr AgentCard] [FromSlice RevokeRequest] [Aead] [Hkdf] [StoreFormat] in
theorem check_budgeted {s s' : MainState} {name : String} {restart : RestartConfig}
    {passes : List DateTime} {last : DateTime} {agent agent' : AgentProcess} {probe : Probe}
    (inRange : restart.InRange) (budgeted : s.Budgeted name restart passes last)
    (managed : s.host.supervisor.lookup name = some agent)
    (after : s'.host.supervisor.lookup name = some agent')
    (checked : agent.checkHealth probe = .ok agent') (since : last ≤ probe.now) :
    s'.Budgeted name restart (passes ++ if s.Restarts s' name then [probe.now] else []) probe.now := by
  obtain ⟨spaced, stamps⟩ := budgeted
  obtain ⟨config, covers⟩ := stamps agent managed
  subst config
  obtain ⟨config, changes⟩ := AgentProcess.checkHealth_budgets inRange checked
  have same : ∀ found, s'.host.supervisor.lookup name = some found →
      found = agent' := fun found there =>
    Option.some.inj (there.symm.trans after)
  have starts : s.Restarts s' name ↔ agent.status = .running ∧ agent'.status = .starting := by
    rw [Restarts, managed, after, Option.map_some, Option.map_some, Option.some.injEq,
      Option.some.injEq]
  have evicted := covers.evict agent.config.restart.counts_lapses since
  have counted : (within agent.config.restart.counts passes probe.now).length ≤
      (agent.recentRestarts probe.now).length := (covers probe.now since).length_le
  rcases changes with ⟨kept, quiet⟩ | ⟨kept, quiet⟩ | ⟨room, pushed⟩
  · rw [if_neg fun restarts => quiet (starts.mp restarts).1 (starts.mp restarts).2, List.append_nil]
    refine ⟨spaced, fun found there => ?_⟩
    rw [same found there, config, kept]
    exact ⟨rfl, covers.later since⟩
  · rw [if_neg fun restarts => quiet (starts.mp restarts).2, List.append_nil]
    refine ⟨spaced, fun found there => ?_⟩
    rw [same found there, config, kept]
    exact ⟨rfl, evicted⟩
  · split
    · refine ⟨spaced.snoc (Nat.lt_of_le_of_lt counted room), fun found there => ?_⟩
      rw [same found there, config, pushed]
      exact ⟨rfl, evicted.push probe.now⟩
    · rw [List.append_nil]
      refine ⟨spaced, fun found there => ?_⟩
      rw [same found there, config, pushed]
      exact ⟨rfl, evicted.more probe.now⟩

theorem step_budgeted {s s' : MainState} {e : Event} {name : String} {restart : RestartConfig}
    {passes : List DateTime} {last : DateTime} (inRange : restart.InRange)
    (budgeted : s.Budgeted name restart passes last) (stepped : s.step e = some s')
    (other : ¬ e.Makes name) (since : ∀ t ∈ checkTime name e, last ≤ t) :
    ∃ last', (last' = last ∨ last' ∈ checkTime name e) ∧ s'.Budgeted name restart
      (passes ++ if s.Restarts s' name then checkTime name e else []) last' := by
  have untouched : ¬ s.Restarts s' name →
      (∀ agent', s'.host.supervisor.lookup name = some agent' → ∃ agent,
        s.host.supervisor.lookup name = some agent ∧ agent'.config = agent.config ∧
        agent'.restartTimestamps = agent.restartTimestamps) →
      ∃ last', (last' = last ∨ last' ∈ checkTime name e) ∧ s'.Budgeted name restart
        (passes ++ if s.Restarts s' name then checkTime name e else []) last' := by
    intro quiet kept
    rw [if_neg quiet, List.append_nil]
    refine ⟨last, .inl rfl, budgeted.spaced, fun agent' after => ?_⟩
    obtain ⟨agent, before, config, stamps⟩ := kept agent' after
    rw [config, stamps]
    exact budgeted.stamps agent before
  rcases step_entry stepped other with gone | ⟨agent, agent', managed, after, moves⟩
  · refine untouched (fun restarts => ?_) fun agent' there => ?_
    · rw [Restarts, gone] at restarts
      cases restarts.2
    · rw [gone] at there
      cases there
  · have restarted : s.Restarts s' name ↔ agent.status = .running ∧ agent'.status = .starting := by
      rw [Restarts, managed, after, Option.map_some, Option.map_some, Option.some.injEq,
        Option.some.injEq]
    have keeps (config : agent'.config = agent.config)
        (stamps : agent'.restartTimestamps = agent.restartTimestamps)
        (found : AgentProcess) (there : s'.host.supervisor.lookup name = some found) : ∃ agent,
        s.host.supervisor.lookup name = some agent ∧ found.config = agent.config ∧
        found.restartTimestamps = agent.restartTimestamps := by
      obtain rfl := Option.some.inj (there.symm.trans after)
      exact ⟨agent, managed, config, stamps⟩
    cases moves with
    | stays =>
      refine untouched (fun restarts => ?_) (keeps rfl rfl)
      obtain ⟨running, starting⟩ := restarted.mp restarts
      rw [running] at starting
      cases starting
    | checked probes agent' ok =>
      have since : last ≤ (probes name).now := since _ (List.mem_singleton_self _)
      exact ⟨_, .inr (List.mem_singleton_self _), check_budgeted inRange budgeted managed after ok since⟩
    | started e child pid port handle now =>
      refine untouched (fun restarts => ?_) (keeps rfl rfl)
      cases (restarted.mp restarts).2
    | stopped =>
      refine untouched (fun restarts => ?_) (keeps rfl rfl)
      cases (restarted.mp restarts).2

theorem restarts_spaced {s : MainState} {events : List Event} {name : String}
    {restart : RestartConfig} {passes : List DateTime} {last : DateTime} (inRange : restart.InRange)
    (budgeted : s.Budgeted name restart passes last) (others : ∀ e ∈ events, ¬ e.Makes name)
    (ordered : (events.flatMap (checkTime name)).Pairwise (· ≤ ·))
    (since : ∀ t ∈ events.flatMap (checkTime name), last ≤ t) :
    Spaced restart.counts restart.maxRestarts (passes ++ restarts name s events) := by
  induction events generalizing s passes last with
  | nil =>
    rw [restarts, List.append_nil]
    exact budgeted.spaced
  | cons e events ih =>
    rw [List.flatMap_cons] at ordered since
    obtain ⟨_, rest, after⟩ := List.pairwise_append.mp ordered
    rw [restarts]
    cases stepped : s.step e with
    | none =>
      dsimp only
      rw [List.append_nil]
      exact budgeted.spaced
    | some s' =>
      obtain ⟨last', which, next⟩ := step_budgeted inRange budgeted stepped
        (others e List.mem_cons_self) fun t member => since t (List.mem_append_left _ member)
      dsimp only
      rw [← List.append_assoc]
      refine ih next (fun e' member => others e' (List.mem_cons_of_mem _ member)) rest fun t member => ?_
      rcases which with rfl | new
      · exact since t (List.mem_append_right _ member)
      · exact after last' new t member

omit [Ed25519] [MlDsa65] [FromStr AgentCard] [FromSlice RevokeRequest] [Aead] [Hkdf] [StoreFormat] in
theorem budgeted_start {s : MainState} {name : String} {agent : AgentProcess}
    (managed : s.host.supervisor.lookup name = some agent) (last : DateTime) :
    s.Budgeted name agent.config.restart [] last := by
  refine ⟨spaced_nil, fun found there => ?_⟩
  obtain rfl := Option.some.inj (managed.symm.trans there)
  exact ⟨rfl, covers_nil _ last⟩

/-- Only a health check restarts an agent. -/
theorem restarts_checked {s s' : MainState} {e : Event} {name : String}
    (stepped : s.step e = some s') (other : ¬ e.Makes name) (restarts : s.Restarts s' name) :
    ∃ probes, e = .check probes := by
  rcases step_entry stepped other with gone | ⟨found, found', before, after, moves⟩
  · rw [Restarts, gone] at restarts
    cases restarts.2
  · rw [Restarts, before, after] at restarts
    cases moves with
    | stays => cases restarts.1.symm.trans restarts.2
    | checked probes => exact ⟨probes, rfl⟩
    | started => cases restarts.2
    | stopped => cases restarts.2

/-- In any interval as long as the restart window at most `max_restarts` restarts of an agent
happen, all of them in health checks; an exit that finds the budget used up leaves the agent
crashed, or stopped when its delegation has expired by then. -/
theorem restart_budget {s : MainState} {name : String} {agent : AgentProcess}
    (managed : s.host.supervisor.lookup name = some agent) (inRange : agent.config.restart.InRange)
    (events : List Event) (others : ∀ e ∈ events, ¬ e.Makes name)
    (ordered : (events.flatMap (checkTime name)).Pairwise (· ≤ ·)) :
    (∀ start, ((restarts name s events).filter fun t => decide (start ≤ t ∧ t <
        start + agent.config.restart.restartWindowSeconds.toNat * DateTime.nanosPerSecond)).length ≤
      agent.config.restart.maxRestarts) ∧
    (∀ (t t' : MainState) (e : Event), e ∈ events → t.step e = some t' → t.Restarts t' name →
      ∃ probes, e = .check probes) ∧
    ∀ (t t' : MainState) (probes : String → Probe) (found : AgentProcess),
      t.step (.check probes) = some t' → t.host.supervisor.lookup name = some found →
      found.config.restart.InRange → found.status = .running → found.child.isSome = true →
      found.Fails (probes name) →
      found.config.restart.maxRestarts ≤ (found.recentRestarts (probes name).now).length →
      ∃ found', t'.host.supervisor.lookup name = some found' ∧
        ((found.Expired (probes name).later ∧ found'.status = .stopped) ∨
          (¬ found.Expired (probes name).later ∧ found'.status = .crashed)) := by
  refine ⟨fun start => ?_, fun t t' e member stepped => restarts_checked stepped (others e member), ?_⟩
  · obtain ⟨last, since⟩ : ∃ last, ∀ t ∈ events.flatMap (checkTime name), last ≤ t := by
      cases times : events.flatMap (checkTime name) with
      | nil => exact ⟨0, fun t member => absurd member List.not_mem_nil⟩
      | cons first rest =>
        rw [times] at ordered
        refine ⟨first, fun t member => ?_⟩
        rcases List.mem_cons.mp member with rfl | later
        · exact Int.le_refl _
        · exact (List.pairwise_cons.mp ordered).1 t later
    have spaced := restarts_spaced inRange (budgeted_start managed last) others ordered since
    rw [List.nil_append] at spaced
    refine spaced.length_le (List.pairwise_of_forall_mem_list fun t member t' member' => ?_)
    obtain ⟨early, _⟩ := of_decide_eq_true (List.mem_filter.mp member).2
    obtain ⟨_, late⟩ := of_decide_eq_true (List.mem_filter.mp member').2
    exact decide_eq_true
      (Int.sub_left_lt_of_lt_add (Int.lt_of_lt_of_le late (Int.add_le_add_right early _)))
  · intro t t' probes found stepped before inRange running child fails used
    obtain ⟨found', health, after⟩ := Supervisor.checkHealth_lookup (check_some stepped) before
    exact ⟨found', after, AgentProcess.checkHealth_exhausted inRange running child fails used health⟩

end Steps

section
open scoped Core.StandIn A2a.StandIn.Files Daemon.StandIn

namespace StandIn

def exit (time : DateTime) : String → Probe := fun _ => ⟨.exited false, time, time⟩

/-- The scout crashes, is restarted and crashes again. -/
def crashes : List Event :=
  [.start "scout" .bare, .check (exit 0), .collect ["scout"], .restart .bare, .sleep, .check (exit 5)]

/-- An agent without a restart, whose delegation has ended. -/
def spent : AgentConfig :=
  { Daemon.StandIn.config "scout" with expiresAt := some 0, restart := { maxRestarts := 0 } }

end StandIn

theorem restart_budget_scout : restarts "scout" StandIn.daemon StandIn.crashes = [0, 5] ∧
    ∀ start, ((restarts "scout" StandIn.daemon StandIn.crashes).filter fun t =>
      decide (start ≤ t ∧ t < start + 300 * DateTime.nanosPerSecond)).length ≤ 3 := by
  have managed : StandIn.daemon.host.supervisor.lookup "scout" =
      some (Supervisor.idle (Daemon.StandIn.config "scout") .creating) := rfl
  have inRange : RestartConfig.InRange {} := by
    unfold RestartConfig.InRange
    decide
  have others : ∀ e ∈ StandIn.crashes, ¬ e.Makes "scout" := by simp [StandIn.crashes, Event.Makes]
  exact ⟨rfl, (restart_budget managed inRange StandIn.crashes others (by decide)).1⟩

/-- An exit with the budget used up, after the delegation has expired, leaves the agent stopped. -/
theorem exhausted_stopped :
    ¬ ∀ (before : List Event) (s s' : MainState) (name : String) (probes : String → Probe)
      (agent agent' : AgentProcess), Run step initial before = some s →
      s.step (.check probes) = some s' → s.host.supervisor.lookup name = some agent →
      s'.host.supervisor.lookup name = some agent' → agent.config.restart.InRange →
      agent.status = .running → agent.child.isSome = true → agent.Fails (probes name) →
      agent.config.restart.maxRestarts ≤ (agent.recentRestarts (probes name).now).length →
      agent'.status = .crashed := by
  intro crashes
  have inRange : RestartConfig.InRange { maxRestarts := 0 } := by
    unfold RestartConfig.InRange
    decide
  have crashed := crashes [.birth StandIn.spent, .start "scout" .bare] _ _ "scout"
      (StandIn.exit 1) _ _ rfl rfl
    rfl rfl inRange rfl rfl ⟨false, rfl, fun clean => (by cases clean)⟩ (Nat.zero_le _)
  cases crashed

end
end MainState
end GrokingClawId.Daemon
