import GrokingClawId.Cli.Issue

/-!
# Rotating keys

`rotate.rs`: new keys for a card whose current key is shown. The archived copy of the old key
file is left out.
-/

namespace GrokingClawId.Cli.Rotate
open GrokingClawId.Core Text

section Rotate
variable [Ed25519] [MlDsa65] [Chrono]

def buildRotatedCard (old : AgentCard) (publicKey : String) (pqPublicKey : Option String)
    (signature : String) (pqSignature : Option String) (now : DateTime) (duration : Int) :
    Outcome AgentCard := do
  let expiresAt ← DateTime.add now duration
  .ok { id := old.id, name := old.name, owner := old.owner, scopes := old.scopes, publicKey, pqPublicKey,
        signature, pqSignature, cryptoScheme := old.cryptoScheme, issuedAt := now, expiresAt,
        agentType := old.agentType, parentId := old.parentId, spiffeId := old.spiffeId }

/-- `&key[..16]`. -/
def keyPrefix (key : String) : String := String.ofList (key.toList.take 16)

variable [FromStr AgentCard]

def execute (oldJson oldKeyPem ttl : String) (draws : Draws) : Outcome Written := do
  let oldCard ← orFault ((FromStr.fromStr oldJson : Except String AgentCard).mapError fun _ =>
    "Failed to parse agent card JSON")
  let oldEdKey ← decodeKey oldCard.cryptoScheme oldKeyPem
  let oldPubB64 := encodePublicKey (Ed25519.verifyingKey oldEdKey)
  if oldPubB64 ≠ oldCard.publicKey then
    .error (.error "Key file does not match the agent card's public key. Rotation denied.")
  else
    let duration ← parseTtl ttl
    let now := draws.now
    let placeholder publicKey pqPublicKey :=
      buildRotatedCard oldCard publicKey pqPublicKey "" none now duration
    let keys ← generateAndSign oldCard.cryptoScheme placeholder draws
    let newCard ← buildRotatedCard oldCard keys.publicKey keys.pqPublicKey keys.signature keys.pqSignature now
      duration
    let audit := { agentId := oldCard.id, action := "rotate",
                   target := s!"old_key={keyPrefix oldPubB64}... new_key={keyPrefix newCard.publicKey}...",
                   signingKey := oldEdKey, timestamp := draws.auditTimestamp }
    .ok { card := newCard, cardJson := newCard.toStringPretty, keyPem := keys.keyPem, audit := audit }

end Rotate

end GrokingClawId.Cli.Rotate
