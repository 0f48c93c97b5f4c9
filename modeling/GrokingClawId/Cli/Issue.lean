import GrokingClawId.Cli.CardPayload
import GrokingClawId.Core.Audit
import GrokingClawId.Core.Pem

/-!
# Issuing a card

`issue.rs`: the TTL, the keys and signatures of a scheme, and the card and key file that are
written. What the clock and the random source deliver is passed in; file errors and the printed
summary are left out.
-/

namespace GrokingClawId.Cli
open GrokingClawId.Core Text

/-! ### TTL -/

/-- `TimeDelta::try_seconds` of a product that fits: the range is `i64::MAX` milliseconds either
way. -/
def timeDelta (num unit : Int) : Outcome Int :=
  let seconds := num * unit
  if -9223372036854775 ≤ seconds ∧ seconds ≤ 9223372036854775 then .ok seconds
  else .error (.panic "TimeDelta out of bounds")

/-- A text like `24h` in seconds. The last byte is split off, which panics inside a character. -/
def parseTtl (ttl : String) : Outcome Int :=
  let ttl := trim ttl.toList
  match ttl.getLast? with
  | none => .error (.error "TTL cannot be empty")
  | some unit =>
    if unit.utf8Size ≠ 1 then .error (.panic "byte index is not a char boundary")
    else
      let numStr := ttl.dropLast
      match parseInt (-9223372036854775808) 9223372036854775807 numStr with
      | none => .error (.error s!"Invalid TTL number: '{String.ofList numStr}'")
      | some num =>
        if unit = 'm' then timeDelta num 60
        else if unit = 'h' then timeDelta num 3600
        else if unit = 'd' then timeDelta num 86400
        else .error (.error
          s!"Unknown TTL unit: '{unit}'. Use 'm' (minutes), 'h' (hours), or 'd' (days)")

example : parseTtl "24h" = .ok 86400 := by decide

/-- The TTL gives an expiry in the range of times. -/
def Usable (ttl : String) (now : DateTime) : Prop :=
  ∃ duration expiresAt, parseTtl ttl = .ok duration ∧ DateTime.add now duration = .ok expiresAt

/-! ### Keys and signatures -/

/-- What one run of a command draws from the clocks and from `OsRng`. -/
structure Draws where
  now : DateTime
  id : Uuid
  seed : Bytes 32
  keygen : Nat
  signing : Nat
  auditTimestamp : Int

structure KeyMaterial where
  publicKey : String
  pqPublicKey : Option String
  signature : String
  pqSignature : Option String
  keyPem : String

structure Written where
  card : AgentCard
  cardJson : String
  keyPem : String
  audit : RecordCall

/-- The decoder for the key file of a scheme. -/
def decodeKey (scheme : CryptoScheme) (keyPem : String) : Outcome (Bytes 32) :=
  match scheme with
  | .ed25519 => orFault (decodePrivateKeyPem keyPem.toList)
  | .mlDsa65 | .hybrid => do
    let (ed, _) ← decodeHybridPrivateKeyPem keyPem.toList
    .ok ed

section Commands
variable [Ed25519] [MlDsa65] [Chrono]

/-- New keys for a scheme and the signatures over the placeholder card built from them. -/
def generateAndSign (scheme : CryptoScheme)
    (placeholder : String → Option String → Outcome AgentCard) (draws : Draws) :
    Outcome KeyMaterial :=
  match scheme with
  | .ed25519 => do
    let (sk, vk) := generateKeypair draws.seed
    let pubB64 := encodePublicKey vk
    let card ← placeholder pubB64 none
    let payload := cardSigningPayload card
    let sig := sign sk payload.toUTF8
    let pem := encodePrivateKeyPem sk
    .ok ⟨pubB64, none, sig, none, pem⟩
  | .mlDsa65 => do
    let mldsaKp ← orFault (generateMldsaKeypair draws.keygen)
    let pqPubB64 := encodeMldsaPublicKey mldsaKp.publicKeyBytes
    let (edSk, edVk) := generateKeypair draws.seed
    let edPubB64 := encodePublicKey edVk
    let card ← placeholder edPubB64 (some pqPubB64)
    let payload := cardSigningPayload card
    let pqSig ← orFault (mldsaSign mldsaKp.secretKeyBytes payload.toUTF8 draws.signing)
    let edSig := sign edSk payload.toUTF8
    let pem := encodeHybridPrivateKeyPem edSk mldsaKp.secretKeyBytes
    .ok ⟨edPubB64, some pqPubB64, edSig, some pqSig, pem⟩
  | .hybrid => do
    let hkp ← orFault (generateHybridKeypair draws.seed draws.keygen)
    let edPubB64 := encodePublicKey hkp.ed25519Verifying
    let pqPubB64 := encodeMldsaPublicKey hkp.mldsaPublic
    let card ← placeholder edPubB64 (some pqPubB64)
    let payload := cardSigningPayload card
    let hsig ← orFault (hybridSign hkp.ed25519Signing hkp.mldsaSecret payload.toUTF8 draws.signing)
    let pem := encodeHybridPrivateKeyPem hkp.ed25519Signing hkp.mldsaSecret
    .ok ⟨edPubB64, some pqPubB64, hsig.ed25519, some hsig.mldsa65, pem⟩

namespace Issue

def buildCard (id : Uuid) (name owner : String) (scopes : List String) (publicKey : String)
    (pqPublicKey : Option String) (signature : String) (pqSignature : Option String)
    (cryptoScheme : CryptoScheme) (now : DateTime) (duration : Int) (agentType : AgentType)
    (parentId : Option Uuid) (spiffeId : Option String) :
    Outcome AgentCard := do
  let expiresAt ← DateTime.add now duration
  .ok { id, name, owner, scopes, publicKey, pqPublicKey, signature, pqSignature, cryptoScheme,
        issuedAt := now,
        expiresAt, agentType, parentId, spiffeId }

structure Args where
  name : String
  owner : String
  scope : String
  ttl : String
  agentType : String
  cryptoScheme : String
  trustDomain : Option String

def Args.scopes (args : Args) : List String :=
  (args.scope.toList.splitOn ',').map fun s => String.ofList (trim s)

variable [Unicode]

def execute (args : Args) (draws : Draws) : Outcome Written := do
  let scopes := args.scopes
  let duration ← parseTtl args.ttl
  let atype ← orFault (AgentType.parse args.agentType)
  let scheme ← orFault (CryptoScheme.parse args.cryptoScheme)
  let now := draws.now
  let id := draws.id
  let spiffeId := args.trustDomain.map fun td => AgentCard.generateSpiffeId td args.name atype
  let placeholder publicKey pqPublicKey :=
    buildCard id args.name args.owner scopes publicKey pqPublicKey "" none scheme now duration
      atype none spiffeId
  let keys ← generateAndSign scheme placeholder draws
  let card ← buildCard id args.name args.owner scopes keys.publicKey keys.pqPublicKey keys.signature
    keys.pqSignature scheme now duration atype none spiffeId
  let edKey ← decodeKey scheme keys.keyPem
  let audit := { agentId := id, action := "issue", target := card.name, signingKey := edKey,
                 timestamp := draws.auditTimestamp }
  .ok { card := card, cardJson := card.toStringPretty, keyPem := keys.keyPem, audit := audit }

end Issue

end Commands

end GrokingClawId.Cli
