import GrokingClawId.Core.License
import GrokingClawId.Core.Pem
import GrokingClawId.Lib.Run

/-!
# Mesh client

`MeshClient` of `mesh.rs`: calls of `connect`, `disconnect` and `list_peers` that share the state of
one client. A call holds no lock while it waits for the server or for `wg-quick`, and it writes its
result whatever the state has become by then.
-/

namespace GrokingClawId.Daemon
open GrokingClawId.Core

structure MeshConfig where
  daemonCardPath : String
  daemonKeyPath : String

structure MeshPeer where
  name : String
  did : String
  meshIp : String
  lastSeen : DateTime
  agentCount : UInt32

inductive MeshState where
  | disconnected
  | connecting
  | connected (meshIp : String) (peers : List MeshPeer) (connectedAt : DateTime)

namespace MeshState

def isConnected : MeshState → Bool
  | connected _ _ _ => true
  | _ => false

/-- Only a connected client keeps a list of peers. -/
def cachePeers (peers : List MeshPeer) : MeshState → MeshState
  | connected meshIp _ connectedAt => connected meshIp peers connectedAt
  | state => state

theorem isConnected_cachePeers (peers : List MeshPeer) (state : MeshState) :
    (state.cachePeers peers).isConnected = state.isConnected := by
  cases state <;> rfl

end MeshState

structure AuthResult where
  success : Bool
  meshIp : Option String
  error : Option String

/-- Where a call stands. -/
inductive MeshTask where
  /-- `connect` is called and has not checked the license. -/
  | called
  | allowed
  | connecting
  | authenticating (card : List UInt8) (challengeResponse : String)
  /-- The interface is set up, if there is a key for it. -/
  | authenticated (meshIp : String)
  | listing (meshIp : String)
  | listed (meshIp : String) (peers : List MeshPeer)
  | failed (e : String)
  /-- `disconnect` tears the interface down. -/
  | leaving
  | left
  | refreshing
  | refreshed (peers : List MeshPeer)
  | ended (result : Except String Unit)

/-- What a call waits for. -/
inductive MeshInput where
  | license (tier : LicenseTier)
  | lock (now : DateTime)
  | files (card : Except String (List UInt8)) (key : Except String String)
  | auth (result : Except String AuthResult)
  | interface
  | peers (result : Except String (List MeshPeer))

inductive MeshEvent where
  | connect
  | disconnect
  | listPeers
  | advance (task : Nat) (input : MeshInput)

/-- The call is one of `connect` that has not failed. -/
def MeshTask.Connects : MeshTask → Prop
  | .called | .allowed | .connecting | .authenticating _ _ | .authenticated _ | .listing _ | .listed _ _ =>
    True
  | .failed _ | .leaving | .left | .refreshing | .refreshed _ | .ended _ => False

structure MeshClient where
  config : MeshConfig
  state : MeshState
  tasks : List MeshTask

/-- The answer of the server must grant an address. -/
def readAuth (result : Except String AuthResult) : Except String String := do
  let auth ← result.mapError fun _ => "Mesh authentication failed"
  if !auth.success then
    let reason := auth.error.getD "unknown reason"
    .error s!"Mesh authentication rejected: {reason}"
  else orErr auth.meshIp "Auth succeeded but no mesh IP assigned"

section Client
variable [Ed25519]

/-- The card, and its signature as the response to a challenge. -/
def challengeResponse (config : MeshConfig) (card : Except String (List UInt8))
    (key : Except String String) :
    Except String (List UInt8 × String) := do
  let cardBytes ← card.mapError fun _ => s!"Failed to read daemon card: {config.daemonCardPath}"
  let keyPem ← key.mapError fun _ => s!"Failed to read daemon key: {config.daemonKeyPath}"
  let signingKey ← (decodePrivateKeyPem keyPem.toList).mapError fun _ =>
    "Failed to decode daemon signing key"
  .ok (cardBytes, sign signingKey ⟨cardBytes.toArray⟩)

/-- The state and the call after it got what it waited for. -/
def MeshTask.advance (config : MeshConfig) (state : MeshState) :
    MeshTask → MeshInput → Option (MeshState × MeshTask)
  | .called, .license tier =>
    match tier.checkFeature .mesh with
    | .ok () => some (state, .allowed)
    | .error e => some (state, .ended (.error e))
  | .allowed, .lock _ => some (.connecting, .connecting)
  | .connecting, .files card key =>
    match challengeResponse config card key with
    | .ok (cardBytes, response) => some (state, .authenticating cardBytes response)
    | .error e => some (state, .failed e)
  | .authenticating _ _, .auth result =>
    match readAuth result with
    | .ok meshIp => some (state, .authenticated meshIp)
    | .error e => some (state, .failed e)
  | .authenticated meshIp, .interface => some (state, .listing meshIp)
  | .listing meshIp, .peers result => some (state, .listed meshIp (result.toOption.getD []))
  | .listed meshIp peers, .lock now => some (.connected meshIp peers now, .ended (.ok ()))
  | .failed e, .lock _ => some (.disconnected, .ended (.error e))
  | .leaving, .interface => some (state, .left)
  | .left, .lock _ => some (.disconnected, .ended (.ok ()))
  | .refreshing, .peers (.ok peers) => some (state, .refreshed peers)
  | .refreshing, .peers (.error e) => some (state, .ended (.error e))
  | .refreshed peers, .lock _ => some (state.cachePeers peers, .ended (.ok ()))
  | _, _ => none

namespace MeshClient

def new (config : MeshConfig) : MeshClient := { config, state := .disconnected, tasks := [] }

def spawn (s : MeshClient) (task : MeshTask) : MeshClient := { s with tasks := s.tasks ++ [task] }

def step (s : MeshClient) : MeshEvent → Option MeshClient
  | .connect => some (s.spawn .called)
  | .disconnect => some (s.spawn .leaving)
  | .listPeers => some (s.spawn (if s.state.isConnected then .refreshing else .ended (.ok ())))
  | .advance i input => do
    let task ← s.tasks[i]?
    let (state, task) ← task.advance s.config s.state input
    some { s with state, tasks := s.tasks.set i task }

/-- Without another call of `connect` the client is never connected from here on. -/
def Final (s : MeshClient) : Prop :=
  ∀ events s', .connect ∉ events → Run step s events = some s' → s'.state.isConnected = false

/-! ### After a disconnect -/

theorem step_advance {s s' : MeshClient} {i : Nat} {input : MeshInput}
    (stepped : s.step (.advance i input) = some s') :
    ∃ task state task', s.tasks[i]? = some task ∧
      task.advance s.config s.state input = some (state, task') ∧
      s' = { s with state, tasks := s.tasks.set i task' } := by
  obtain ⟨task, at_, rest⟩ := Option.bind_eq_some_iff.mp stepped
  obtain ⟨⟨state, task'⟩, advanced, same⟩ := Option.bind_eq_some_iff.mp rest
  exact ⟨task, state, task', at_, advanced, (Option.some.inj same).symm⟩

theorem advance_step {s : MeshClient} {i : Nat} {task task' : MeshTask} {input : MeshInput}
    {state : MeshState} (at_ : s.tasks[i]? = some task)
    (advanced : task.advance s.config s.state input = some (state, task')) :
    s.step (.advance i input) = some { s with state, tasks := s.tasks.set i task' } := by
  show (s.tasks[i]?.bind _) = _
  rw [at_, Option.bind_some, advanced]
  rfl

/-- Not connected, and no call is on the way to it. -/
structure Quiet (s : MeshClient) : Prop where
  apart : s.state.isConnected = false
  idle : ∀ task ∈ s.tasks, ¬ task.Connects

theorem advance_quiet {config : MeshConfig} {state state' : MeshState} {task task' : MeshTask}
    {input : MeshInput} (apart : state.isConnected = false) (idle : ¬ task.Connects)
    (advanced : task.advance config state input = some (state', task')) :
    state'.isConnected = false ∧ ¬ task'.Connects := by
  have still (peers : List MeshPeer) : (state.cachePeers peers).isConnected = false :=
    (MeshState.isConnected_cachePeers peers state).trans apart
  unfold MeshTask.advance at advanced
  split at advanced
  all_goals first
    | exact absurd trivial idle
    | cases advanced
  all_goals first
    | exact ⟨apart, id⟩
    | exact ⟨rfl, id⟩
    | exact ⟨still _, id⟩

omit [Ed25519] in
theorem spawn_quiet {s : MeshClient} (quiet : s.Quiet) {task : MeshTask} (idle : ¬ task.Connects) :
    (s.spawn task).Quiet := by
  refine ⟨quiet.apart, fun other member => ?_⟩
  rcases List.mem_append.mp member with old | new
  · exact quiet.idle other old
  · rw [List.mem_singleton.mp new]
    exact idle

theorem step_quiet {s s' : MeshClient} {e : MeshEvent} (quiet : s.Quiet) (other : e ≠ .connect)
    (stepped : s.step e = some s') : s'.Quiet := by
  cases e with
  | connect => exact absurd rfl other
  | disconnect =>
    cases stepped
    exact spawn_quiet quiet id
  | listPeers =>
    cases stepped
    apply spawn_quiet quiet
    split <;> exact id
  | advance i input =>
    obtain ⟨task, state, task', at_, advanced, rfl⟩ := step_advance stepped
    obtain ⟨apart, idle⟩ := advance_quiet quiet.apart (quiet.idle task (List.mem_of_getElem? at_)) advanced
    refine ⟨apart, fun other member => ?_⟩
    rcases List.mem_or_eq_of_mem_set member with old | rfl
    · exact quiet.idle other old
    · exact idle

theorem quiet_final {s : MeshClient} (quiet : s.Quiet) : s.Final := by
  intro events s' silent ran
  have kept : ∀ s e s', Quiet s → e ≠ MeshEvent.connect → step s e = some s' → s'.Quiet :=
    fun _ _ _ quiet other stepped => step_quiet quiet other stepped
  exact (Run.preserves kept quiet (fun e member same => silent (same ▸ member)) ran).apart

theorem not_final_advance {s : MeshClient} {i : Nat} {task task' : MeshTask} {state : MeshState}
    (at_ : s.tasks[i]? = some task) (input : MeshInput)
    (advanced : task.advance s.config s.state input = some (state, task'))
    (more : ∀ s' : MeshClient, s'.tasks[i]? = some task' → ¬ s'.Final) : ¬ s.Final := by
  intro final
  obtain ⟨bound, -⟩ := List.getElem?_eq_some_iff.mp at_
  refine more { s with state, tasks := s.tasks.set i task' } ?_ fun events s' silent ran => ?_
  · show (s.tasks.set i task')[i]? = some task'
    rw [List.getElem?_set_self bound]
  · refine final (.advance i input :: events) s' ?_ (Run.cons (advance_step at_ advanced) ran)
    intro member
    rcases List.mem_cons.mp member with same | later
    · cases same
    · exact silent later

theorem listed_not_final {s : MeshClient} {i : Nat} {meshIp : String} {peers : List MeshPeer}
    (at_ : s.tasks[i]? = some (.listed meshIp peers)) : ¬ s.Final := by
  intro final
  have connected := final [.advance i (.lock 0)] _ (by simp) (Run.cons (advance_step at_ rfl) rfl)
  cases connected

theorem listing_not_final {s : MeshClient} {i : Nat} {meshIp : String}
    (at_ : s.tasks[i]? = some (.listing meshIp)) :
    ¬ s.Final :=
  not_final_advance at_ (.peers (.ok [])) rfl fun _ => listed_not_final

theorem authenticated_not_final {s : MeshClient} {i : Nat} {meshIp : String}
    (at_ : s.tasks[i]? = some (.authenticated meshIp)) : ¬ s.Final :=
  not_final_advance at_ .interface rfl fun _ => listing_not_final

theorem authenticating_not_final {s : MeshClient} {i : Nat} {card : List UInt8} {response : String}
    (at_ : s.tasks[i]? = some (.authenticating card response)) : ¬ s.Final :=
  not_final_advance at_ (.auth (.ok ⟨true, some "100.64.0.1", none⟩)) rfl fun _ => authenticated_not_final

theorem challengeResponse_key (config : MeshConfig) (card : List UInt8) (seed : Core.Bytes 32) :
    challengeResponse config (.ok card) (.ok (encodePrivateKeyPem seed)) =
      .ok (card, sign seed ⟨card.toArray⟩) := by
  simp only [challengeResponse, Except.mapError, bind, Except.bind, decodePrivateKeyPem_encode]

theorem connecting_advance (config : MeshConfig) (state : MeshState) (card : List UInt8)
    (seed : Core.Bytes 32) :
    MeshTask.advance config state .connecting (.files (.ok card) (.ok (encodePrivateKeyPem seed))) =
      some (state, .authenticating card (sign seed ⟨card.toArray⟩)) := by
  simp only [MeshTask.advance, challengeResponse_key]

theorem connecting_not_final {s : MeshClient} {i : Nat} (at_ : s.tasks[i]? = some .connecting) :
    ¬ s.Final := by
  let seed : Core.Bytes 32 := ⟨List.replicate 32 0, List.length_replicate⟩
  exact not_final_advance at_ _ (connecting_advance s.config s.state [] seed) fun _ =>
    authenticating_not_final

theorem allowed_not_final {s : MeshClient} {i : Nat} (at_ : s.tasks[i]? = some .allowed) :
    ¬ s.Final :=
  not_final_advance at_ (.lock 0) rfl fun _ => connecting_not_final

theorem connects_not_final {s : MeshClient} {task : MeshTask} (member : task ∈ s.tasks)
    (connects : task.Connects) :
    ¬ s.Final := by
  obtain ⟨i, at_⟩ := List.mem_iff_getElem?.mp member
  cases task with
  | called => exact not_final_advance at_ (.license .enterprise) rfl fun _ => allowed_not_final
  | allowed => exact allowed_not_final at_
  | connecting => exact connecting_not_final at_
  | authenticating card response => exact authenticating_not_final at_
  | authenticated meshIp => exact authenticated_not_final at_
  | listing meshIp => exact listing_not_final at_
  | listed meshIp peers => exact listed_not_final at_
  | failed e => exact connects.elim
  | leaving => exact connects.elim
  | left => exact connects.elim
  | refreshing => exact connects.elim
  | refreshed peers => exact connects.elim
  | ended result => exact connects.elim

/-- A disconnect is final when it returns exactly when no call of `connect` is under way. -/
theorem disconnect_final_iff {s s' : MeshClient} {i : Nat} {now : DateTime}
    (returns : s.tasks[i]? = some .left) (stepped : s.step (.advance i (.lock now)) = some s') :
    s'.Final ↔ ∀ task ∈ s.tasks, ¬ task.Connects := by
  obtain rfl := Option.some.inj ((advance_step returns rfl).symm.trans stepped)
  constructor
  · intro final task member connects
    obtain ⟨j, at_⟩ := List.mem_iff_getElem?.mp member
    have other : i ≠ j := by
      rintro rfl
      obtain rfl := Option.some.inj (returns.symm.trans at_)
      exact connects
    have kept : (s.tasks.set i (.ended (.ok ())))[j]? = some task := by
      rw [List.getElem?_set_ne other, at_]
    exact connects_not_final (List.mem_of_getElem? kept) connects final
  · intro idle
    refine quiet_final ⟨rfl, fun task member => ?_⟩
    rcases List.mem_or_eq_of_mem_set member with old | rfl
    · exact idle task old
    · exact id

end MeshClient
end Client

section
open scoped Core.StandIn

namespace MeshClient

def StandIn.client (tasks : List MeshTask) : MeshClient := { new ⟨"card", "key"⟩ with tasks }

/-- The last call of `connect` was rejected. -/
theorem disconnect_final_rejected :
    (StandIn.client [.ended (.error "rejected"), .ended (.ok ())]).Final := by
  let s := StandIn.client [.ended (.error "rejected"), .left]
  have stepped : s.step (.advance 1 (.lock 0)) =
      some (StandIn.client [.ended (.error "rejected"), .ended (.ok ())]) := rfl
  refine (disconnect_final_iff (i := 1) rfl stepped).mpr fun task member => ?_
  simp only [s, StandIn.client, List.mem_cons, List.not_mem_nil, or_false] at member
  rcases member with rfl | rfl
  · exact id
  · exact id

/-- The client disconnects while a call of `connect` waits for the server. -/
theorem disconnect_overtaken : ¬ ∀ (config : MeshConfig) (before : List MeshEvent)
    (s s' : MeshClient) (i : Nat)
    (now : DateTime), Run step (new config) before = some s → s.tasks[i]? = some .left →
    s.step (.advance i (.lock now)) = some s' → s'.Final := by
  intro final
  have started : Run step (new ⟨"card", "key"⟩) [.connect, .advance 0 (.license .indie),
      .advance 0 (.lock 0)] =
      some { StandIn.client [.connecting] with state := .connecting } := rfl
  have asked := advance_step (s := { StandIn.client [.connecting] with state := .connecting }) (i := 0) rfl
    (connecting_advance _ .connecting [] Core.StandIn.seed)
  let key := encodePrivateKeyPem Core.StandIn.seed
  have ran : ∃ s, Run step (new ⟨"card", "key"⟩)
      ([.connect, .advance 0 (.license .indie), .advance 0 (.lock 0)] ++
      [.advance 0 (.files (.ok []) (.ok key)), .disconnect, .advance 1 .interface]) = some s ∧
      s.tasks = [.authenticating [] (sign Core.StandIn.seed ⟨#[]⟩), .left] := by
    rw [Run.append, started, Option.bind_some]
    exact ⟨_, Run.cons asked rfl, rfl⟩
  obtain ⟨s, ran, tasks⟩ := ran
  have returns : s.tasks[1]? = some .left := by rw [tasks]; rfl
  have waits : (s.tasks.set 1 (.ended (.ok ())))[0]? =
      some (.authenticating [] (sign Core.StandIn.seed ⟨#[]⟩)) := by
    rw [tasks]
    rfl
  exact authenticating_not_final waits (final _ _ _ _ 1 0 ran returns (advance_step returns rfl))

end MeshClient
end
end GrokingClawId.Daemon
