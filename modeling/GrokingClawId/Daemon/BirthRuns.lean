import GrokingClawId.Daemon.BirthMesh
import GrokingClawId.Lib.Run

/-!
# Births at the same time

`DaemonState::birth_agent` looks at the agents three times, waits for the birth and registers the agent
in the end, and holds no lock in between. Any number of requests take these steps in any order, on the
same agents and the same files.
-/

namespace GrokingClawId.Daemon
open GrokingClawId.Core DiskM

/-- How far a request has come. -/
inductive BirthPhase where
  | asked | named | licensed | allowed
  | born (result : BirthResult)
  | succeeded (result : BirthResult)
  | failed (fault : Fault)

structure BirthTask where
  params : BirthParams
  io : BirthIo
  phase : BirthPhase

structure Births where
  nursery : Nursery
  tasks : List BirthTask

inductive BirthEvent where
  | request (params : BirthParams) (io : BirthIo)
  | advance (i : Nat)

/-- The smaller of the license limit and `max_agents`. -/
def birthLimit (tier : LicenseTier) (maxAgents : UInt32) : Nat :=
  match tier.limits.maxAgents with
  | none => maxAgents.toNat
  | some max => min max.toNat maxAgents.toNat

def Nursery.agents (nursery : Nursery) : Nat := nursery.supervisor.listAgents.length

namespace BirthPhase

/-- The name has been checked and the request is not through. -/
def inFlight : BirthPhase → Bool
  | named | licensed | allowed | born _ => true
  | asked | succeeded _ | failed _ => false

/-- All checks are passed and the agent is not registered. -/
def pending : BirthPhase → Bool
  | allowed | born _ => true
  | _ => false

def isSucceeded : BirthPhase → Bool
  | succeeded _ => true
  | _ => false

/-- The name is in use by the request. -/
def engaged (phase : BirthPhase) : Bool := phase.inFlight || phase.isSucceeded

def after (check : Except String Unit) (next : BirthPhase) : BirthPhase :=
  match check with
  | .ok () => next
  | .error e => .failed (.error e)

end BirthPhase

def Births.pending (s : Births) : Nat := s.tasks.countP fun task => task.phase.pending

section Steps
variable [Ed25519] [Chrono] [ConfigFormat] [FromStr TemplateManifest] [FromStr Json]
    [FromStr BirthCertificate]

/-- The next step of a request, between two of its waits. -/
def BirthTask.advance (root : List String) (tier : LicenseTier) (maxAgents : UInt32)
    (task : BirthTask) (nursery : Nursery) : Option (BirthPhase × Nursery) :=
  match task.phase with
  | .asked => some (.after (checkAbsent nursery.supervisor task.params.name) .named, nursery)
  | .named => some (.after (checkLicense tier nursery.supervisor) .licensed, nursery)
  | .licensed => some (.after (checkMaxAgents maxAgents nursery.supervisor) .allowed, nursery)
  | .allowed =>
    match birthAgent root task.params task.io nursery.disk with
    | (.ok result, disk) => some (.born result, { nursery with disk })
    | (.error e, disk) => some (.failed e, { nursery with disk })
  | .born result =>
    match registerBorn root result.agentInfo.name nursery.disk with
    | (.ok none, disk) => some (.succeeded result, { nursery with disk })
    | (.ok (some config), disk) =>
      some (.succeeded result, { supervisor := nursery.supervisor.register config, disk })
    | (.error e, disk) => some (.failed (.error e), { nursery with disk })
  | .succeeded _ | .failed _ => none

/-- A request comes in, or one that has come in takes its next step. -/
def Births.step (root : List String) (tier : LicenseTier) (maxAgents : UInt32) (s : Births) :
    BirthEvent → Option Births
  | .request params io => some { s with tasks := s.tasks ++ [⟨params, io, .asked⟩] }
  | .advance i => do
    let task ← s.tasks[i]?
    let (phase, nursery) ← task.advance root tier maxAgents s.nursery
    some { nursery, tasks := s.tasks.set i { task with phase } }

end Steps

/-! ### Steps under guard -/

/-- A request checks a name that no other one in flight has, passes the last check while the agents
and the requests that have passed it are fewer than the limit, and registers what was born under its
name. -/
def Births.Guarded [ConfigFormat] (root : List String) (tier : LicenseTier) (maxAgents : UInt32)
    (s : Births) :
    BirthEvent → Prop
  | .request _ _ => True
  | .advance i => ∀ task : BirthTask, s.tasks[i]? = some task →
    match task.phase with
    | .asked => ∀ (j : Nat) (other : BirthTask), s.tasks[j]? = some other → other.phase.inFlight = true →
        other.params.name ≠ task.params.name
    | .licensed => checkMaxAgents maxAgents s.nursery.supervisor = .ok () →
        s.nursery.agents + s.pending < birthLimit tier maxAgents
    | .born result => ∀ found d', readConfig root result.agentInfo.name s.nursery.disk = (.ok found, d') →
        ∃ config, found = some config ∧ config.name = task.params.name
    | _ => True

/-- What holds between the requests and the agents. -/
structure Orderly (limit : Nat) (s : Births) : Prop where
  absent : ∀ (i : Nat) (task : BirthTask), s.tasks[i]? = some task → task.phase.inFlight = true →
    s.nursery.supervisor.lookup task.params.name = none
  managed : ∀ (i : Nat) (task : BirthTask), s.tasks[i]? = some task → task.phase.isSucceeded = true →
    s.nursery.supervisor.lookup task.params.name ≠ none
  distinct : ∀ (i j : Nat) (task other : BirthTask), s.tasks[i]? = some task → s.tasks[j]? = some other →
    task.phase.engaged = true → other.phase.engaged = true → task.params.name = other.params.name → i = j
  bounded : s.nursery.agents + s.pending ≤ limit

/-- The agents are within the limit, and of the requests for a name at most one has succeeded. -/
structure Births.Respects (limit : Nat) (s : Births) : Prop where
  limit : s.nursery.agents ≤ limit
  unique : ∀ (i j : Nat) (task other : BirthTask), s.tasks[i]? = some task → s.tasks[j]? = some other →
    task.phase.isSucceeded = true → other.phase.isSucceeded = true →
      task.params.name = other.params.name → i = j

section Orderly
variable {limit : Nat} {s : Births} {i : Nat} {task : BirthTask} {phase : BirthPhase} {nursery : Nursery}

theorem engaged_iff {phase : BirthPhase} :
    phase.engaged = true ↔ phase.inFlight = true ∨ phase.isSucceeded = true :=
  Bool.or_eq_true_iff

theorem Orderly.respects (orderly : Orderly limit s) : s.Respects limit where
  limit := (Nat.le_add_right _ _).trans orderly.bounded
  unique i j task other here there first second :=
    orderly.distinct i j task other here there (engaged_iff.mpr (.inr first)) (engaged_iff.mpr (.inr second))

theorem set_cases {tasks : List BirthTask} (found : tasks[i]? = some task) {task' other : BirthTask}
    {j : Nat} (there : (tasks.set i task')[j]? = some other) :
    (j = i ∧ other = task') ∨ (j ≠ i ∧ tasks[j]? = some other) := by
  by_cases here : j = i
  · subst here
    rw [List.getElem?_set_self (List.getElem?_eq_some_iff.mp found).1] at there
    exact .inl ⟨rfl, (Option.some.inj there).symm⟩
  · rw [List.getElem?_set_ne (Ne.symm here)] at there
    exact .inr ⟨here, there⟩

theorem pending_set (found : s.tasks[i]? = some task) (nursery : Nursery) (phase : BirthPhase) :
    Births.pending { nursery, tasks := s.tasks.set i { task with phase } } +
      (if task.phase.pending then 1 else 0) =
      s.pending + if phase.pending then 1 else 0 := by
  obtain ⟨bound, rfl⟩ := List.getElem?_eq_some_iff.mp found
  have counted : (if s.tasks[i].phase.pending then 1 else 0) ≤ s.pending := by
    split
    · exact List.countP_pos_iff.mpr ⟨_, List.getElem_mem bound, ‹_›⟩
    · exact Nat.zero_le _
  unfold Births.pending at *
  rw [List.countP_set bound]
  simp only at *
  omega

/-- A step that leaves the agents, to a phase for which the request keeps to the rules. -/
theorem Orderly.move (orderly : Orderly limit s) (found : s.tasks[i]? = some task)
    (same : nursery.supervisor = s.nursery.supervisor)
    (absent : phase.inFlight = true → s.nursery.supervisor.lookup task.params.name = none)
    (unsucceeded : phase.isSucceeded = false)
    (distinct : phase.inFlight = true → ∀ (j : Nat) (other : BirthTask), s.tasks[j]? = some other →
    other.phase.engaged = true →
      other.params.name = task.params.name → j = i)
    (bounded : phase.pending = true → task.phase.pending = false →
    s.nursery.agents + s.pending < limit) :
    Orderly limit { nursery, tasks := s.tasks.set i { task with phase } } := by
  have inFlight : phase.engaged = true → phase.inFlight = true := fun engaged =>
    (engaged_iff.mp engaged).resolve_right (by simp [unsucceeded])
  constructor
  · intro j other there flying
    show nursery.supervisor.lookup _ = none
    rw [same]
    rcases set_cases found there with ⟨_, rfl⟩ | ⟨_, before⟩
    · exact absent flying
    · exact orderly.absent j other before flying
  · intro j other there succeeded
    show nursery.supervisor.lookup _ ≠ none
    rw [same]
    rcases set_cases found there with ⟨_, rfl⟩ | ⟨_, before⟩
    · rw [unsucceeded] at succeeded
      cases succeeded
    · exact orderly.managed j other before succeeded
  · intro j k first second there there' engaged engaged' names
    rcases set_cases found there with ⟨rfl, rfl⟩ | ⟨_, before⟩ <;>
      rcases set_cases found there' with ⟨rfl, rfl⟩ | ⟨_, before'⟩
    · rfl
    · exact (distinct (inFlight engaged) k second before' engaged' names.symm).symm
    · exact distinct (inFlight engaged') j first before engaged names
    · exact orderly.distinct j k first second before before' engaged engaged' names
  · have count := pending_set found nursery phase
    have before := orderly.bounded
    show nursery.agents + _ ≤ limit
    have agents : nursery.agents = s.nursery.agents := by rw [Nursery.agents, Nursery.agents, same]
    rw [agents]
    by_cases waits : phase.pending = true
    · by_cases waited : task.phase.pending = true
      · rw [if_pos waits, if_pos waited] at count
        omega
      · have room := bounded waits (by simpa using waited)
        rw [if_pos waits, if_neg waited] at count
        omega
    · rw [if_neg waits] at count
      omega

theorem Orderly.fail (orderly : Orderly limit s) (found : s.tasks[i]? = some task)
    (same : nursery.supervisor = s.nursery.supervisor) (fault : Fault) :
    Orderly limit { nursery, tasks := s.tasks.set i { task with phase := .failed fault } } :=
  orderly.move found same (fun flying => nomatch flying) rfl (fun flying => nomatch flying) fun waits =>
    nomatch waits

theorem Orderly.continue (orderly : Orderly limit s) (found : s.tasks[i]? = some task)
    (same : nursery.supervisor = s.nursery.supervisor) (flying : task.phase.inFlight = true)
    (unsucceeded : phase.isSucceeded = false)
    (bounded : phase.pending = true → task.phase.pending = false →
    s.nursery.agents + s.pending < limit) :
    Orderly limit { nursery, tasks := s.tasks.set i { task with phase } } :=
  orderly.move found same (fun _ => orderly.absent i task found flying) unsucceeded
    (fun _ j other there used names =>
      orderly.distinct j i other task there found used (engaged_iff.mpr (.inl flying)) names) bounded

theorem agents_register {supervisor : Supervisor} {config : AgentConfig}
    (free : supervisor.lookup config.name = none) (disk : Disk) :
    Nursery.agents ⟨supervisor.register config, disk⟩ = supervisor.listAgents.length + 1 := by
  have unlisted : config.name ∉ supervisor := AList.lookup_eq_none.mp free
  rw [Nursery.agents, Supervisor.register, Supervisor.listAgents,
    AList.entries_insert_of_notMem unlisted, List.map_cons, List.length_cons, Supervisor.listAgents]

theorem Orderly.register (orderly : Orderly limit s) (found : s.tasks[i]? = some task)
    {result : BirthResult} (born : task.phase = .born result) {config : AgentConfig}
    (named : config.name = task.params.name) (disk : Disk) (phase : BirthPhase)
    (succeeded : phase = .succeeded result) :
    Orderly limit { nursery := ⟨s.nursery.supervisor.register config, disk⟩,
                    tasks := s.tasks.set i { task with phase } } := by
  subst succeeded
  have flying : task.phase.inFlight = true := by rw [born]; rfl
  have engaged : task.phase.engaged = true := engaged_iff.mpr (.inl flying)
  have free := orderly.absent i task found flying
  have elsewhere : ∀ {j : Nat} {other : BirthTask}, j ≠ i → s.tasks[j]? = some other →
      other.phase.engaged = true →
      (s.nursery.supervisor.register config).lookup other.params.name =
        s.nursery.supervisor.lookup other.params.name := by
    intro j other different there used
    refine AList.lookup_insert_ne fun same => different ?_
    exact orderly.distinct j i other task there found used engaged (same.trans named)
  constructor
  · intro j other there inFlight
    rcases set_cases found there with ⟨_, rfl⟩ | ⟨different, before⟩
    · cases inFlight
    · exact (elsewhere different before (engaged_iff.mpr (.inl inFlight))).trans
        (orderly.absent j other before inFlight)
  · intro j other there succeeded
    rcases set_cases found there with ⟨_, rfl⟩ | ⟨different, before⟩
    · show (s.nursery.supervisor.register config).lookup task.params.name ≠ none
      rw [Supervisor.register, ← named, AList.lookup_insert]
      exact Option.some_ne_none _
    · show (s.nursery.supervisor.register config).lookup other.params.name ≠ none
      rw [elsewhere different before (engaged_iff.mpr (.inr succeeded))]
      exact orderly.managed j other before succeeded
  · intro j k first second there there' used used' names
    rcases set_cases found there with ⟨rfl, rfl⟩ | ⟨_, before⟩ <;>
      rcases set_cases found there' with ⟨rfl, rfl⟩ | ⟨_, before'⟩
    · rfl
    · exact orderly.distinct _ k task second found before' engaged used' names
    · exact orderly.distinct j _ first task before found used engaged names
    · exact orderly.distinct j k first second before before' used used' names
  · have count := pending_set found ⟨s.nursery.supervisor.register config, disk⟩ (.succeeded result)
    have more := agents_register (named ▸ free) disk
    have before := orderly.bounded
    rw [born] at count
    simp only [BirthPhase.pending, if_true, Bool.false_eq_true, if_false] at count
    show Nursery.agents ⟨s.nursery.supervisor.register config, disk⟩ + _ ≤ limit
    rw [more]
    unfold Nursery.agents at before
    omega

theorem Orderly.request (orderly : Orderly limit s) (params : BirthParams) (io : BirthIo) :
    Orderly limit { s with tasks := s.tasks ++ [⟨params, io, .asked⟩] } := by
  have earlier : ∀ {j : Nat} {other : BirthTask},
      (s.tasks ++ [⟨params, io, .asked⟩])[j]? = some other →
      other.phase.engaged = true → s.tasks[j]? = some other := by
    intro j other there used
    rcases Nat.lt_or_ge j s.tasks.length with old | new
    · rwa [List.getElem?_append_left old] at there
    · rw [List.getElem?_append_right new] at there
      obtain rfl := List.mem_singleton.mp (List.mem_of_getElem? there)
      cases used
  constructor
  · intro j other there inFlight
    exact orderly.absent j other (earlier there (engaged_iff.mpr (.inl inFlight))) inFlight
  · intro j other there succeeded
    exact orderly.managed j other (earlier there (engaged_iff.mpr (.inr succeeded))) succeeded
  · intro j k first second there there' used used' names
    exact orderly.distinct j k first second (earlier there used) (earlier there' used') used used' names
  · have count : Births.pending { s with tasks := s.tasks ++ [⟨params, io, .asked⟩] } =
        s.pending := by
      rw [Births.pending, List.countP_append]
      rfl
    rw [count]
    exact orderly.bounded

end Orderly

theorem checkAbsent_ok {supervisor : Supervisor} {name : String}
    (checked : checkAbsent supervisor name = .ok ()) :
    supervisor.lookup name = none := by
  unfold checkAbsent at checked
  split at checked
  · cases checked
  · rename_i unmanaged
    cases found : supervisor.lookup name with
    | none => rfl
    | some agent => exact absurd (by rw [Supervisor.getAgent, found]; rfl) unmanaged

/-- Both limits are checked against the agents of the moment. -/
theorem room_of_checks {tier : LicenseTier} {maxAgents : UInt32} {supervisor : Supervisor}
    (licensed : checkLicense tier supervisor = .ok ())
    (allowed : checkMaxAgents maxAgents supervisor = .ok ()) :
    supervisor.listAgents.length < birthLimit tier maxAgents := by
  have below : supervisor.listAgents.length < maxAgents.toNat := by
    unfold checkMaxAgents at allowed
    dsimp only at allowed
    split at allowed
    · cases allowed
    · exact Nat.lt_of_not_le ‹_›
  have unlicensed := LicenseTier.checkLimit_agents.mp licensed
  unfold birthLimit
  split
  · exact below
  · rename_i max found
    have less : (UInt32.ofNat supervisor.listAgents.length).toNat < max.toNat :=
      unlicensed max found
    rw [UInt32.toNat_ofNat_of_lt' (below.trans maxAgents.toNat_lt)] at less
    exact lt_min less below

theorem registerBorn_read [ConfigFormat] {root : List String} {name : String}
    {found : Option AgentConfig} {d d' : Disk}
    (registered : registerBorn root name d = (.ok found, d')) :
    ∃ d₁, readConfig root name d = (.ok found, d₁) := by
  obtain ⟨read, d₁, reading, rest⟩ := DiskM.bind_ok registered
  cases read with
  | none =>
    obtain ⟨rfl, rfl⟩ := DiskM.pure_ok rest
    exact ⟨_, reading⟩
  | some config =>
    obtain ⟨_, d₂, _, rest⟩ := DiskM.bind_ok rest
    obtain ⟨rfl, rfl⟩ := DiskM.pure_ok rest
    exact ⟨d₁, reading⟩

section Runs
variable [Ed25519] [Chrono] [ConfigFormat] [FromStr TemplateManifest] [FromStr Json]
    [FromStr BirthCertificate]
variable {root : List String} {tier : LicenseTier} {maxAgents : UInt32}

theorem step_orderly {s s' : Births} {event : BirthEvent}
    (orderly : Orderly (birthLimit tier maxAgents) s)
    (guarded : s.Guarded root tier maxAgents event)
    (stepped : s.step root tier maxAgents event = some s') :
    Orderly (birthLimit tier maxAgents) s' := by
  cases event with
  | request params io =>
    obtain rfl := Option.some.inj stepped
    exact orderly.request params io
  | advance i =>
    obtain ⟨task, found, rest⟩ := Option.bind_eq_some_iff.mp stepped
    obtain ⟨⟨phase, nursery⟩, advanced, same⟩ := Option.bind_eq_some_iff.mp rest
    obtain rfl := Option.some.inj same
    have guard := guarded task found
    unfold BirthTask.advance at advanced
    cases before : task.phase with
    | asked =>
      rw [before] at advanced guard
      obtain ⟨rfl, rfl⟩ := Prod.mk.inj (Option.some.inj advanced)
      cases checked : checkAbsent s.nursery.supervisor task.params.name with
      | error e => exact orderly.fail found rfl (.error e)
      | ok passed =>
        have absent := checkAbsent_ok checked
        refine orderly.move found rfl (fun _ => absent) rfl (fun _ j other there used names => ?_)
          fun waits => nomatch waits
        rcases engaged_iff.mp used with flying | succeeded
        · exact absurd names (guard j other there flying)
        · exact absurd (names ▸ absent) (orderly.managed j other there succeeded)
    | named =>
      rw [before] at advanced
      obtain ⟨rfl, rfl⟩ := Prod.mk.inj (Option.some.inj advanced)
      cases checkLicense tier s.nursery.supervisor with
      | error e => exact orderly.fail found rfl (.error e)
      | ok passed => exact orderly.continue found rfl (by rw [before]; rfl) rfl fun waits => nomatch waits
    | licensed =>
      rw [before] at advanced guard
      obtain ⟨rfl, rfl⟩ := Prod.mk.inj (Option.some.inj advanced)
      cases checked : checkMaxAgents maxAgents s.nursery.supervisor with
      | error e => exact orderly.fail found rfl (.error e)
      | ok passed => exact orderly.continue found rfl (by rw [before]; rfl) rfl fun _ _ => guard checked
    | allowed =>
      rw [before] at advanced
      dsimp only at advanced
      split at advanced
      · obtain ⟨rfl, rfl⟩ := Prod.mk.inj (Option.some.inj advanced)
        exact orderly.continue found rfl (by rw [before]; rfl) rfl fun _ waited =>
          by rw [before] at waited; cases waited
      · obtain ⟨rfl, rfl⟩ := Prod.mk.inj (Option.some.inj advanced)
        refine orderly.fail found ?_ _
        rfl
    | born result =>
      rw [before] at advanced guard
      dsimp only at advanced
      split at advanced
      · rename_i registered
        obtain ⟨_, read⟩ := registerBorn_read registered
        obtain ⟨_, missing, _⟩ := guard _ _ read
        cases missing
      · rename_i config disk registered
        obtain ⟨rfl, rfl⟩ := Prod.mk.inj (Option.some.inj advanced)
        obtain ⟨_, read⟩ := registerBorn_read registered
        obtain ⟨other, same, named⟩ := guard _ _ read
        obtain rfl := Option.some.inj same
        exact orderly.register found before named disk _ rfl
      · obtain ⟨rfl, rfl⟩ := Prod.mk.inj (Option.some.inj advanced)
        refine orderly.fail found ?_ _
        rfl
    | succeeded result =>
      rw [before] at advanced
      cases advanced
    | failed fault =>
      rw [before] at advanced
      cases advanced

/-! ### A request alone -/

variable {params : BirthParams} {io : BirthIo} {nursery : Nursery}

/-- One request and nothing else. -/
def Births.alone (nursery : Nursery) (params : BirthParams) (io : BirthIo) (phase : BirthPhase) :
    Births :=
  ⟨nursery, [⟨params, io, phase⟩]⟩

theorem step_alone {phase : BirthPhase} :
    (Births.alone nursery params io phase).step root tier maxAgents (.advance 0) =
      (BirthTask.advance root tier maxAgents ⟨params, io, phase⟩ nursery).map fun next =>
      Births.alone next.2 params io next.1 := by
  show ((BirthTask.advance root tier maxAgents ⟨params, io, phase⟩ nursery).bind fun next =>
    some (Births.alone next.2 params io next.1)) = _
  rw [Option.map_eq_bind]
  rfl

def BirthPhase.ended : Outcome BirthResult → BirthPhase
  | .ok result => .succeeded result
  | .error fault => .failed fault

theorem Run_alone {phase after : BirthPhase} {nursery nursery' : Nursery} {n : Nat} {s : Births}
    (advanced : BirthTask.advance root tier maxAgents ⟨params, io, phase⟩ nursery = some (after, nursery'))
    (rest : Run (Births.step root tier maxAgents) (.alone nursery' params io after)
      (List.replicate n (.advance 0)) =
      some s) :
    Run (Births.step root tier maxAgents) (.alone nursery params io phase)
      (List.replicate (n + 1) (.advance 0)) =
      some s := by
  refine Run.cons ?_ rest
  rw [step_alone, advanced]
  rfl

theorem birthAgent_admitted (admitted : nursery.admission maxAgents params io = .ok ()) :
    nursery.birthAgent root maxAgents params io =
      match birthRegistered root params io nursery.disk with
      | (.error e, disk) => (.error e, { nursery with disk })
      | (.ok (result, none), disk) => (.ok result, { nursery with disk })
      | (.ok (result, some config), disk) =>
        (.ok result, { supervisor := nursery.supervisor.register config, disk }) := by
  cases found : birthRegistered root params io nursery.disk with
  | mk answer disk =>
    rcases answer with e | ⟨result, _ | config⟩ <;> simp only [Nursery.birthAgent, admitted, found]

theorem alone_allowed (admitted : nursery.admission maxAgents params io = .ok ()) : ∃ n,
    Run (Births.step root tier maxAgents) (.alone nursery params io .allowed)
      (List.replicate n (.advance 0)) =
      some (.alone (nursery.birthAgent root maxAgents params io).2 params io
        (.ended (nursery.birthAgent root maxAgents params io).1)) := by
  rw [birthAgent_admitted admitted]
  cases birth : birthAgent root params io nursery.disk with
  | mk answer disk =>
    cases answer with
    | error e =>
      have advanced : BirthTask.advance root tier maxAgents ⟨params, io, .allowed⟩ nursery =
          some (.failed e, { nursery with disk }) := by
        simp only [BirthTask.advance, birth]
      have whole : birthRegistered root params io nursery.disk = (.error e, disk) :=
        DiskM.bind_error birth
      rw [whole]
      exact ⟨1, Run_alone advanced rfl⟩
    | ok result =>
      have advanced : BirthTask.advance root tier maxAgents ⟨params, io, .allowed⟩ nursery =
          some (.born result, { nursery with disk }) := by
        simp only [BirthTask.advance, birth]
      cases read : registerBorn root result.agentInfo.name disk with
      | mk found disk' =>
        have whole : birthRegistered root params io nursery.disk =
            (match found with
              | .error e => .error (.error e)
              | .ok config => .ok (result, config), disk') := by
          simp only [birthRegistered, DiskM.bind_run, birth, liftIo, DiskM.mapError, read]
          cases found <;> rfl
        rw [whole]
        cases found with
        | error e =>
          have settled : BirthTask.advance root tier maxAgents ⟨params, io, .born result⟩
              { nursery with disk } =
              some (.failed (.error e), { nursery with disk := disk' }) := by
            simp only [BirthTask.advance, read]
          exact ⟨2, Run_alone advanced (Run_alone settled rfl)⟩
        | ok config =>
          cases config with
          | none =>
            have settled : BirthTask.advance root tier maxAgents ⟨params, io, .born result⟩
                { nursery with disk } =
                some (.succeeded result, { nursery with disk := disk' }) := by
              simp only [BirthTask.advance, read]
            exact ⟨2, Run_alone advanced (Run_alone settled rfl)⟩
          | some config =>
            have settled : BirthTask.advance root tier maxAgents ⟨params, io, .born result⟩
                { nursery with disk } =
                some (.succeeded result, ⟨nursery.supervisor.register config, disk'⟩) := by
              simp only [BirthTask.advance, read]
            exact ⟨2, Run_alone advanced (Run_alone settled rfl)⟩

/-- The steps of a request that nothing comes between are those of the call. -/
theorem alone_run (limits : io.limits = tier) : ∃ n,
    Run (Births.step root tier maxAgents) (.alone nursery params io .asked) (List.replicate n (.advance 0)) =
      some (.alone (nursery.birthAgent root maxAgents params io).2 params io
        (.ended (nursery.birthAgent root maxAgents params io).1)) := by
  subst limits
  have refused : ∀ {e : String}, nursery.admission maxAgents params io = .error e →
      nursery.birthAgent root maxAgents params io = (.error (.error e), nursery) := fun {e} admitted => by
    rw [Nursery.birthAgent, admitted]
  cases named : checkAbsent nursery.supervisor params.name with
  | error e =>
    have first : BirthTask.advance root io.limits maxAgents ⟨params, io, .asked⟩ nursery =
        some (.failed (.error e), nursery) := by
      simp only [BirthTask.advance, named, BirthPhase.after]
    have admitted : nursery.admission maxAgents params io =
        .error e := by rw [Nursery.admission, named]; rfl
    rw [refused admitted]
    exact ⟨1, Run_alone first rfl⟩
  | ok _ =>
    have first : BirthTask.advance root io.limits maxAgents ⟨params, io, .asked⟩ nursery =
        some (.named, nursery) := by
      simp only [BirthTask.advance, named, BirthPhase.after]
    cases licensed : checkLicense io.limits nursery.supervisor with
    | error e =>
      have second : BirthTask.advance root io.limits maxAgents ⟨params, io, .named⟩ nursery =
          some (.failed (.error e), nursery) := by
        simp only [BirthTask.advance, licensed, BirthPhase.after]
      have admitted : nursery.admission maxAgents params io =
          .error e := by rw [Nursery.admission, named, licensed]; rfl
      rw [refused admitted]
      exact ⟨2, Run_alone first (Run_alone second rfl)⟩
    | ok _ =>
      have second : BirthTask.advance root io.limits maxAgents ⟨params, io, .named⟩ nursery =
          some (.licensed, nursery) := by
        simp only [BirthTask.advance, licensed, BirthPhase.after]
      cases allowed : checkMaxAgents maxAgents nursery.supervisor with
      | error e =>
        have third : BirthTask.advance root io.limits maxAgents ⟨params, io, .licensed⟩ nursery =
            some (.failed (.error e), nursery) := by
          simp only [BirthTask.advance, allowed, BirthPhase.after]
        have admitted : nursery.admission maxAgents params io = .error e := by
          rw [Nursery.admission, named, licensed, allowed]
          rfl
        rw [refused admitted]
        exact ⟨3, Run_alone first (Run_alone second (Run_alone third rfl))⟩
      | ok _ =>
        have third : BirthTask.advance root io.limits maxAgents ⟨params, io, .licensed⟩ nursery =
            some (.allowed, nursery) := by
          simp only [BirthTask.advance, allowed, BirthPhase.after]
        have admitted : nursery.admission maxAgents params io = .ok () := by
          rw [Nursery.admission, named, licensed, allowed]
          rfl
        obtain ⟨n, ran⟩ : ∃ n, Run (Births.step root io.limits maxAgents) _
          (List.replicate n (.advance 0)) = some _ :=
          alone_allowed admitted
        exact ⟨n + 1 + 1 + 1, Run_alone first (Run_alone second (Run_alone third ran))⟩

/-- What a request has found out on its way, when nothing comes between its steps. -/
def Known (root : List String) (tier : LicenseTier) (params : BirthParams) (io : BirthIo)
    (nursery : Nursery) :
    BirthPhase → Prop
  | .asked | .named => Tamed root params io nursery.disk.tree
  | .licensed => Tamed root params io nursery.disk.tree ∧ checkLicense tier nursery.supervisor = .ok ()
  | .allowed => Tamed root params io nursery.disk.tree
  | .born result =>
    ∃ d, Tamed root params io d.tree ∧ birthAgent root params io d = (.ok result, nursery.disk)
  | .succeeded _ | .failed _ => True

theorem advance_known {phase phase' : BirthPhase} {nursery nursery' : Nursery}
    (known : Known root tier params io nursery phase)
    (advanced : BirthTask.advance root tier maxAgents ⟨params, io, phase⟩ nursery = some (phase', nursery')) :
    Known root tier params io nursery' phase' := by
  unfold BirthTask.advance at advanced
  cases phase with
  | asked =>
    obtain ⟨rfl, rfl⟩ := Prod.mk.inj (Option.some.inj advanced)
    cases checkAbsent nursery.supervisor params.name with
    | error e => trivial
    | ok passed => exact known
  | named =>
    obtain ⟨rfl, rfl⟩ := Prod.mk.inj (Option.some.inj advanced)
    cases licensed : checkLicense tier nursery.supervisor with
    | error e => trivial
    | ok passed => exact ⟨known, licensed⟩
  | licensed =>
    obtain ⟨rfl, rfl⟩ := Prod.mk.inj (Option.some.inj advanced)
    cases checkMaxAgents maxAgents nursery.supervisor with
    | error e => trivial
    | ok passed => exact known.1
  | allowed =>
    dsimp only at advanced
    split at advanced
    · rename_i birth
      obtain ⟨rfl, rfl⟩ := Prod.mk.inj (Option.some.inj advanced)
      exact ⟨nursery.disk, known, birth⟩
    · obtain ⟨rfl, rfl⟩ := Prod.mk.inj (Option.some.inj advanced)
      trivial
  | born result =>
    dsimp only at advanced
    split at advanced <;>
      · obtain ⟨rfl, rfl⟩ := Prod.mk.inj (Option.some.inj advanced)
        trivial
  | succeeded result => cases advanced
  | failed fault => cases advanced

/-- The guard is met by a request alone: what it has checked still holds when the birth begins, and
the birth has left a configuration under its name. -/
theorem known_guarded (roundTrip : ConfigFormat.RoundTrip) {phase : BirthPhase}
    (known : Known root tier params io nursery phase) (i : Nat) :
    Births.Guarded root tier maxAgents (.alone nursery params io phase) (.advance i) := by
  intro task found
  obtain rfl := List.mem_singleton.mp (List.mem_of_getElem? found)
  cases phase with
  | asked =>
    intro j other there flying
    obtain rfl := List.mem_singleton.mp (List.mem_of_getElem? there)
    cases flying
  | licensed => exact fun allowed => room_of_checks known.2 allowed
  | born result =>
    obtain ⟨d, tamed, birth⟩ := known
    intro config d' read
    obtain ⟨config', seed, card, born, written, named⟩ := birthAgent_ok tamed birth
    change readConfig root result.agentInfo.name nursery.disk = _ at read
    rw [named] at read
    exact ⟨config', readConfig_ok roundTrip written read, born.name⟩
  | named | allowed | succeeded | failed => trivial

/-- Every step of a request alone is guarded. -/
theorem alone_guarded (roundTrip : ConfigFormat.RoundTrip)
    (tamed : Tamed root params io nursery.disk.tree) (n : Nat) :
    Run.Each (Births.step root tier maxAgents) (Births.Guarded root tier maxAgents)
      (.alone nursery params io .asked) (List.replicate n (.advance 0)) := by
  refine Run.each_of (I := fun s => ∃ nursery phase, s = .alone nursery params io phase ∧
    Known root tier params io nursery phase) (A := fun e => e = .advance 0) ?_ ?_
      ⟨nursery, .asked, rfl, tamed⟩
    fun e member => List.eq_of_mem_replicate member
  · rintro _ _ ⟨nursery, phase, rfl, known⟩ rfl
    exact known_guarded roundTrip known 0
  · rintro _ _ s' ⟨nursery, phase, rfl, known⟩ rfl stepped
    rw [step_alone] at stepped
    obtain ⟨⟨phase', nursery'⟩, advanced, rfl⟩ := Option.map_eq_some_iff.mp stepped
    exact ⟨nursery', phase', rfl, advance_known known advanced⟩

/-! ### All requests -/

/-- A daemon within its limit stays there, and of the requests for a name at most one succeeds, as
long as every step is guarded; and a request that then comes alone goes as the call does. -/
theorem births_respect {nursery : Nursery} {events : List BirthEvent} {s : Births}
    (start : nursery.agents ≤ birthLimit tier maxAgents)
    (guarded : Run.Each (Births.step root tier maxAgents) (Births.Guarded root tier maxAgents)
      ⟨nursery, []⟩ events)
    (ran : Run (Births.step root tier maxAgents) ⟨nursery, []⟩ events = some s) :
    s.Respects (birthLimit tier maxAgents) ∧ ∀ params io, io.limits = tier → ∃ n,
      Run (Births.step root tier maxAgents) (.alone s.nursery params io .asked)
        (List.replicate n (.advance 0)) =
        some (.alone (s.nursery.birthAgent root maxAgents params io).2 params io
          (.ended (s.nursery.birthAgent root maxAgents params io).1)) := by
  have orderly : Orderly (birthLimit tier maxAgents) ⟨nursery, []⟩ := by
    refine ⟨?_, ?_, ?_, start⟩
    · exact fun _ _ there => by cases there
    · exact fun _ _ there => by cases there
    · exact fun _ _ _ _ there => by cases there
  refine ⟨?_, fun params io limits => alone_run limits⟩
  exact (Run.each_preserves (fun _ _ _ orderly guarded stepped =>
    step_orderly orderly guarded stepped) orderly
    guarded ran).respects

end Runs

/-! ### Concrete runs -/

open scoped Core.StandIn StandIn

namespace StandIn.Together

scoped instance format : ConfigFormat := configs [bornConfig "scout", bornConfig "scribe"]

def served : List BirthEvent := .request (namedParams "scout") unmeshed :: List.replicate 5 (.advance 0)

/-- The second request comes in and takes each step after the first. -/
def raced : List BirthEvent :=
  [.request (namedParams "scout") unmeshed, .request (namedParams "scribe") unmeshed] ++
    (List.replicate 5 [.advance 0, .advance 1]).flatten

theorem run_served : ∃ s, Run (Births.step [] .free 1) ⟨bareNursery, []⟩ served = some s :=
  Option.isSome_iff_exists.mp (by decide +kernel)

theorem run_raced : (Run (Births.step [] .free 1) ⟨bareNursery, []⟩ raced).map (·.nursery.agents) =
    some 2 := by
  decide +kernel

end StandIn.Together

open scoped StandIn.Together

theorem StandIn.births_respect_served : ∃ s,
    Run (Births.step [] .free 1) ⟨bareNursery, []⟩ Together.served = some s ∧ s.Respects 1 := by
  obtain ⟨s, ran⟩ := Together.run_served
  have guarded : Run.Each (Births.step [] .free 1) (Births.Guarded [] .free 1) ⟨bareNursery, []⟩
      Together.served := by
    intro s' came
    obtain rfl := Option.some.inj came
    exact ⟨trivial, alone_guarded (configs_roundTrip (by decide)) (tamed_unmeshed _ _ _) 5⟩
  have start : bareNursery.agents ≤ birthLimit .free 1 := by decide
  exact ⟨s, ran, (births_respect start guarded ran).1⟩

/-- Two requests are both allowed before either has registered its agent. -/
theorem births_overrun : ¬ ∀ (root : List String) (tier : LicenseTier) (maxAgents : UInt32)
    (nursery : Nursery) (events : List BirthEvent)
    (s : Births), nursery.agents ≤ birthLimit tier maxAgents →
    Run (Births.step root tier maxAgents) ⟨nursery, []⟩ events = some s →
    s.Respects (birthLimit tier maxAgents) := by
  intro respects
  obtain ⟨s, ran, two⟩ := Option.map_eq_some_iff.mp StandIn.Together.run_raced
  have limit := (respects _ _ _ _ _ _ (by decide) ran).limit
  rw [two] at limit
  exact absurd limit (by decide)

end GrokingClawId.Daemon
