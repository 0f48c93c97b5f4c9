import GrokingClawId.Core.Models

/-!
# Revocation registry

`revocation.rs`: the `revocations` table and the question whether a card is in it.
-/

namespace GrokingClawId.Core

structure RevocationRow where
  agentId : String
  agentName : String
  reason : String
  revokedBy : String
  revokedAt : String
  signature : String
  pqSignature : Option String
  deriving DecidableEq

abbrev RevocationDb := List RevocationRow

/-- `SELECT COUNT(*) … WHERE agent_id = ?1`, above zero. -/
def isRevoked (db : RevocationDb) (agentId : Uuid) : Bool :=
  decide (0 < db.countP fun row => row.agentId = agentId.toText)

/-- What `open_db` comes back with, and then the query on it. -/
inductive Registry where
  | closed
  | unreadable
  | readable (db : RevocationDb)
  deriving DecidableEq

/-- A card counts as revoked only when the registry opened and answered. -/
def Registry.lists (registry : Registry) (agentId : Uuid) : Bool :=
  match registry with
  | readable db => isRevoked db agentId
  | closed | unreadable => false

theorem isRevoked_iff (db : RevocationDb) (agentId : Uuid) :
    isRevoked db agentId = true ↔ ∃ row ∈ db, row.agentId = agentId.toText := by
  simp [isRevoked, List.countP_pos_iff]

end GrokingClawId.Core
