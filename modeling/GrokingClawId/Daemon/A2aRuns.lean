import GrokingClawId.Core.HttpSig
import GrokingClawId.Daemon.A2a

/-!
# Runs of the A2A server

Requests that arrive one after another at the two signed endpoints. Nothing a request does changes
which requests count as signed, and the body is not part of what is signed: a request that was
accepted is accepted again, with any body and at any time.
-/

namespace GrokingClawId.Daemon.A2a
open GrokingClawId.Core Text

/-- A request and what the server draws while it handles it, the time of its arrival included. -/
structure Arrival where
  request : Request
  draws : Draws

def Request.isRpc (request : Request) : Prop :=
  request.method = "POST" ∧ request.uri.path = "/a2a/rpc"

def Request.isRevoke (request : Request) : Prop :=
  request.method = "POST" ∧ request.uri.path = "/control/revoke"

instance (request : Request) : Decidable request.isRpc := inferInstanceAs (Decidable (_ ∧ _))

instance (request : Request) : Decidable request.isRevoke := inferInstanceAs (Decidable (_ ∧ _))

section Runs
variable [Ed25519] [MlDsa65] [Sha256] [Chrono] [Unicode] [FromStr AgentCard] [FromSlice RevokeRequest]
  [FromSlice JsonRpcRequest]

namespace A2aServer

/-- The state after a request; the other routes change nothing. -/
def step (server : A2aServer) (arrival : Arrival) : A2aServer :=
  if arrival.request.isRpc then (handleA2aRpc server arrival.request arrival.draws).1
  else if arrival.request.isRevoke then (handleControlRevoke server arrival.request).server
  else server

def run (server : A2aServer) (arrivals : List Arrival) : A2aServer := arrivals.foldl step server

theorem run_snoc (server : A2aServer) (arrivals : List Arrival) (last : Arrival) :
    server.run (arrivals ++ [last]) = (server.run arrivals).step last := by
  simp [run]

end A2aServer

/-! ### Who is asked for -/

/-- The same agents are managed under the same names, with the same cards. -/
structure SameCallers (daemon daemon' : DaemonState) : Prop where
  name : ∀ agent, (daemon'.supervisor.getAgent agent).map AgentInfo.name =
    (daemon.supervisor.getAgent agent).map AgentInfo.name
  cardFile : daemon'.cardFile = daemon.cardFile

omit [Ed25519] [MlDsa65] [Sha256] [Chrono] [Unicode] [FromSlice RevokeRequest] [FromSlice JsonRpcRequest] in
theorem SameCallers.callerCard {daemon daemon' : DaemonState} (same : SameCallers daemon daemon')
    (request : Request) : callerCard daemon' request = A2a.callerCard daemon request := by
  unfold A2a.callerCard
  cases (request.header "x-clawid-agent").bind HeaderValue.toStr with
  | none => rfl
  | some agent =>
    have names := same.name agent
    cases found : daemon.supervisor.getAgent agent with
    | none =>
      rw [found, Option.map_none, Option.map_eq_none_iff] at names
      simp only [found, names]
    | some info =>
      rw [found, Option.map_some, Option.map_eq_some_iff] at names
      obtain ⟨info', found', name⟩ := names
      simp only [found, found', name, same.cardFile]

omit [Sha256] [Chrono] [Unicode] [FromSlice RevokeRequest] [FromSlice JsonRpcRequest] in
theorem SameCallers.signatureOk {daemon daemon' : DaemonState} (same : SameCallers daemon daemon')
    (request : Request) : signatureOk daemon' request = A2a.signatureOk daemon request := by
  simp only [A2a.signatureOk, verifyRequestSignature, same.callerCard request]

theorem step_callers (server : A2aServer) (arrival : Arrival) :
    SameCallers server.daemon (server.step arrival).daemon := by
  unfold A2aServer.step
  split
  · rw [handleA2aRpc_daemon]
    exact ⟨fun _ => rfl, rfl⟩
  · split
    · rcases handleControlRevoke_cases server arrival.request with
        ⟨_, same⟩ | ⟨name, _, _, _, supervisor, stopped, same⟩
      · rw [same]
        exact ⟨fun _ => rfl, rfl⟩
      · rw [same]
        exact ⟨Supervisor.stopAgent_name stopped, rfl⟩
    · exact ⟨fun _ => rfl, rfl⟩

theorem run_callers (server : A2aServer) (arrivals : List Arrival) :
    SameCallers server.daemon (server.run arrivals).daemon := by
  induction arrivals using List.reverseRecOn with
  | nil => exact ⟨fun _ => rfl, rfl⟩
  | append_singleton arrivals arrival ih =>
    rw [A2aServer.run_snoc]
    have last := step_callers (server.run arrivals) arrival
    exact ⟨fun agent => (last.name agent).trans (ih.name agent), last.cardFile.trans ih.cardFile⟩

/-- An accepted request is accepted again later, with any body. -/
theorem replay_accepted {server : A2aServer} (before : List Arrival) {request : Request}
    (accepted : signatureOk (server.run before).daemon request = true) (later : List Arrival)
    (body : Except String (List UInt8)) :
    signatureOk (server.run (before ++ later)).daemon { request with body := body } = true := by
  have rebodied : signatureOk (server.run (before ++ later)).daemon { request with body := body } =
      signatureOk (server.run (before ++ later)).daemon request := rfl
  rw [rebodied, (run_callers server (before ++ later)).signatureOk,
    ← (run_callers server before).signatureOk]
  exact accepted

/-! ### Bound and used once -/

def SameSignature (request request' : Request) : Prop :=
  request.header "signature" = request'.header "signature" ∧
    request.header "signature-input" = request'.header "signature-input"

/-- The `Signature-Input` states an expiry that is over when the request arrives. -/
def Lapsed (arrival : Arrival) : Prop :=
  ∃ inputValue sigBytes components params, readSignature arrival.request = .ok (some (inputValue, sigBytes)) ∧
    parseSignatureInput inputValue (Int64.ofInt (DateTime.timestamp arrival.draws.now)) =
      .ok (components, params) ∧
      params.expired (Int64.ofInt (DateTime.timestamp arrival.draws.now)) = true

/-- The request that arrives at this place of the run is accepted on one of the endpoints. -/
structure AcceptedAt (server : A2aServer) (arrivals : List Arrival) (i : Nat) (arrival : Arrival) :
    Prop where
  arrives : arrivals[i]? = some arrival
  endpoint : arrival.request.isRpc ∨ arrival.request.isRevoke
  accepted : signatureOk (server.run (arrivals.take i)).daemon arrival.request = true

structure BoundAndOnce (server : A2aServer) (arrivals : List Arrival) : Prop where
  bound : ∀ i j first second, AcceptedAt server arrivals i first → AcceptedAt server arrivals j second →
    SameSignature first.request second.request → first.request.body = second.request.body
  once : ∀ i j first second, AcceptedAt server arrivals i first → AcceptedAt server arrivals j second →
    SameSignature first.request second.request → first.request.body = second.request.body → i = j
  timely : ∀ i arrival, AcceptedAt server arrivals i arrival → ¬ Lapsed arrival

/-- The request that arrives at this place is one for the endpoints that the keys in its caller's
card have signed. -/
structure SignedAt (server : A2aServer) (arrivals : List Arrival) (i : Nat) (arrival : Arrival) :
    Prop where
  arrives : arrivals[i]? = some arrival
  endpoint : arrival.request.isRpc ∨ arrival.request.isRevoke
  signed : ∃ sigBase card, Signs server.daemon arrival.request sigBase card ∧
    (PqOffered arrival.request card → PqSigns arrival.request sigBase card)

/-- No signature comes in twice, or late. -/
structure SentOnce (server : A2aServer) (arrivals : List Arrival) : Prop where
  once : ∀ i j first second, SignedAt server arrivals i first → SignedAt server arrivals j second →
    SameSignature first.request second.request → i = j
  timely : ∀ i arrival, SignedAt server arrivals i arrival → ¬ Lapsed arrival

/-- What is accepted in a run are the signed requests in it, whatever came before. -/
theorem acceptedAt_iff (server : A2aServer) (arrivals : List Arrival) (i : Nat)
    (arrival : Arrival) :
    AcceptedAt server arrivals i arrival ↔ SignedAt server arrivals i arrival := by
  have steady := (run_callers server (arrivals.take i)).signatureOk arrival.request
  constructor
  · rintro ⟨arrives, endpoint, accepted⟩
    rw [steady] at accepted
    exact ⟨arrives, endpoint, (signatureOk_iff _ _).mp accepted⟩
  · rintro ⟨arrives, endpoint, signed⟩
    refine ⟨arrives, endpoint, ?_⟩
    rw [steady]
    exact (signatureOk_iff _ _).mpr signed

/-- Accepted requests are bound and used once exactly when nobody sends a signature twice or
late. -/
theorem boundAndOnce_iff (server : A2aServer) (arrivals : List Arrival) :
    BoundAndOnce server arrivals ↔ SentOnce server arrivals := by
  constructor
  · rintro ⟨bound, once, timely⟩
    refine ⟨fun i j first second signed signed' same => ?_, fun i arrival signed => ?_⟩
    · have accepted := (acceptedAt_iff server arrivals i first).mpr signed
      have accepted' := (acceptedAt_iff server arrivals j second).mpr signed'
      exact once i j first second accepted accepted' same (bound i j first second accepted accepted' same)
    · exact timely i arrival ((acceptedAt_iff server arrivals i arrival).mpr signed)
  · rintro ⟨once, timely⟩
    have place : ∀ i j first second, AcceptedAt server arrivals i first →
        AcceptedAt server arrivals j second →
        SameSignature first.request second.request → i = j := by
      intro i j first second accepted accepted' same
      exact once i j first second ((acceptedAt_iff _ _ _ _).mp accepted)
        ((acceptedAt_iff _ _ _ _).mp accepted') same
    refine ⟨fun i j first second accepted accepted' same => ?_,
      fun i j first second accepted accepted' same _ =>
      place i j first second accepted accepted' same, fun i arrival accepted => ?_⟩
    · obtain rfl := place i j first second accepted accepted' same
      rw [Option.some.inj (accepted.arrives.symm.trans accepted'.arrives)]
    · exact timely i arrival ((acceptedAt_iff _ _ _ _).mp accepted)

end Runs

section
open scoped Core.StandIn StandIn.Files

scoped instance StandIn.Files.calls : FromSlice JsonRpcRequest := StandIn.slices []

def StandIn.arrival (body : List UInt8) (now : DateTime) : Arrival :=
  ⟨StandIn.order body, ⟨now, now, Uuid.nil, 0⟩⟩

theorem StandIn.order_sameSignature (body body' : List UInt8) :
    SameSignature (StandIn.order body) (StandIn.order body') := by
  have headers : (StandIn.order body).headers = (StandIn.order body').headers := rfl
  unfold SameSignature Request.header
  rw [headers]
  exact ⟨rfl, rfl⟩

/-- The signature under the order to stop one agent stops another. -/
theorem replay_stops_helper :
    ¬ ∀ (server : A2aServer) (arrivals : List Arrival), BoundAndOnce server arrivals := by
  intro used
  let arrivals := [StandIn.arrival StandIn.stopScout 0, StandIn.arrival StandIn.stopHelper 1]
  have first : AcceptedAt StandIn.server arrivals 0 (StandIn.arrival StandIn.stopScout 0) :=
    ⟨rfl, .inr ⟨rfl, rfl⟩, StandIn.order_accepted StandIn.stopScout⟩
  have second : AcceptedAt StandIn.server arrivals 1 (StandIn.arrival StandIn.stopHelper 1) :=
    ⟨rfl, .inr ⟨rfl, rfl⟩, replay_accepted [] (StandIn.order_accepted StandIn.stopScout) _ _⟩
  have same := (used StandIn.server arrivals).bound 0 1 _ _ first second (StandIn.order_sameSignature _ _)
  have bodies : StandIn.stopScout = StandIn.stopHelper := Except.ok.inj same
  exact absurd bodies (by decide)

end

end GrokingClawId.Daemon.A2a
