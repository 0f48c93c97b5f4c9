import GrokingClawId.Core.Iota
import GrokingClawId.Core.Pem
import GrokingClawId.Daemon.Anchor
import GrokingClawId.Daemon.Supervisor

/-!
# Submission of an anchor

`submit_to_iota` of `anchor.rs`: the transfer that an anchor is put on the chain with. The daemon sends
the smallest amount to itself. What it sends does not depend on the anchor.
-/

namespace GrokingClawId.Daemon
open GrokingClawId.Core

section Submission
variable [Ed25519] [Blake2b]

/-- The key that the file of the daemon holds. -/
def loadDaemonKey (daemonPem : TextFile) : Except String (Core.Bytes 32) :=
  match daemonPem with
  | .absent =>
    .error ("Daemon signing key not found at identity/daemon.pem. " ++
      "Run `grokingclawid issue` to create one, then copy the .pem to the daemon identity directory.")
  | .unreadable _ => .error "Failed to read daemon key: identity/daemon.pem"
  | .content pem => (decodePrivateKeyPem pem.toList).mapError fun _ => "Failed to decode daemon signing key"

def submitToIota (daemonPem : TextFile) (anchor : BreadcrumbAnchor) : IotaM String := do
  let signingKey ← IotaM.ofExcept (loadDaemonKey daemonPem)
  let sender := deriveIotaAddress (Ed25519.verifyingKey signingKey)
  let amount := 1
  let gasBudget := 10000000
  (transferIota signingKey sender sender amount gasBudget).mapError fun _ =>
    s!"IOTA anchor submission failed (merkle_root={anchor.merkleRoot}, {anchor.entryCount} entries). " ++
      "Ensure the daemon wallet is funded via `grokingclawid wallet faucet`."

/-- The requests that the node gets for the two anchors differ. -/
def Committed (daemonPem : TextFile) (node : IotaNode) (anchor anchor' : BreadcrumbAnchor) : Prop :=
  (submitToIota daemonPem anchor node).1 ≠ (submitToIota daemonPem anchor' node).1

omit [Ed25519] [Blake2b] in
theorem IotaM.mapError_sent {α : Type} (m : IotaM α) (f g : String → String) (node : IotaNode) :
    (m.mapError f node).1 = (m.mapError g node).1 := rfl

omit [Ed25519] [Blake2b] in
/-- Computations that send the same and go on alike send the same. -/
theorem IotaM.bind_sent {α β : Type} (m : IotaM α) {f g : α → IotaM β} {node : IotaNode}
    (same : ∀ a, (f a node).1 = (g a node).1) : ((m >>= f) node).1 = ((m >>= g) node).1 := by
  rw [IotaM.bind_run, IotaM.bind_run]
  rcases m node with ⟨sent, _ | a⟩
  · rfl
  · show sent ++ (f a node).1 = sent ++ (g a node).1
    rw [same a]

theorem submitToIota_sent (daemonPem : TextFile) (node : IotaNode)
    (anchor anchor' : BreadcrumbAnchor) :
    (submitToIota daemonPem anchor node).1 = (submitToIota daemonPem anchor' node).1 := by
  unfold submitToIota
  refine IotaM.bind_sent _ fun signingKey => ?_
  exact IotaM.mapError_sent _ _ _ node

/-- No anchor is committed to: with the same key and the same node every two anchors are submitted
with the same requests, whatever their roots are. -/
theorem submitToIota_uncommitted (daemonPem : TextFile) (node : IotaNode)
    (anchor anchor' : BreadcrumbAnchor) :
    ¬ Committed daemonPem node anchor anchor' := by
  intro committed
  apply committed
  exact submitToIota_sent daemonPem node anchor anchor'

end Submission

section
open scoped Core.StandIn

namespace StandIn

def anchored (merkleRoot : String) : BreadcrumbAnchor where
  id := 1
  merkleRoot := merkleRoot
  entryCount := 1
  agentIds := []
  firstEntryAt := 0
  lastEntryAt := 0
  computedAt := 0
  iotaTxDigest := none
  status := .pending

/-- A node that answers every request with what the client looks for. -/
def node : IotaNode := fun _ => .ok
  { result := some (.obj [("data", .arr [.obj [("coinObjectId", .str "coin")]]), ("txBytes", .str ""),
      ("digest", .str "digest")])
    error := none }

def daemonPem : TextFile := .content (encodePrivateKeyPem Core.StandIn.seed)

/-- The anchor is submitted, with three requests. -/
theorem submitted (merkleRoot : String) :
    ((submitToIota daemonPem (anchored merkleRoot)) node).1.length = 3 ∧
    ((submitToIota daemonPem (anchored merkleRoot)) node).2 = .ok "digest" := by
  have key : loadDaemonKey daemonPem = .ok Core.StandIn.seed := by
    simp only [loadDaemonKey, daemonPem, decodePrivateKeyPem_encode]
    rfl
  unfold submitToIota
  rw [IotaM.bind_run, key]
  exact ⟨rfl, rfl⟩

end StandIn

/-- Two anchors with different roots are submitted with the same requests. -/
theorem submitToIota_rootless : ¬ ∀ (daemonPem : TextFile) (node : IotaNode)
    (anchor anchor' : BreadcrumbAnchor),
    anchor.merkleRoot ≠ anchor'.merkleRoot → Committed daemonPem node anchor anchor' := by
  intro committed
  refine committed StandIn.daemonPem StandIn.node (StandIn.anchored "a") (StandIn.anchored "b") (by decide) ?_
  exact submitToIota_sent _ _ _ _

end
end GrokingClawId.Daemon
