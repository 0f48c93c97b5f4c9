import GrokingClawId.Core.Challenge

/-!
# Minimum crypto level of a challenge

What the minimum of a challenge asks of the ML-DSA signature of a response. The minimum is compared
with the scheme of the card, and the signature is looked at for hybrid cards only.
-/

namespace GrokingClawId.Core
open Text

namespace Challenge

section Minimum
variable [Ed25519] [MlDsa65]

/-- The response has an ML-DSA signature over the challenge under the key of its card. -/
def PqVerified (challenge : Challenge) (response : ChallengeResponse) : Prop :=
  ∃ pqPub pqSig, response.agentCard.pqPublicKey = some pqPub ∧ response.pqSignature = some pqSig ∧
    mldsaVerify pqPub (challengeToSignBytes challenge) pqSig = .ok true

/-- The minimum is one of the post-quantum levels. -/
def AsksPq (challenge : Challenge) : Prop :=
  challenge.minCrypto = some "hybrid" ∨ challenge.minCrypto = some "ml-dsa-65"

/-- A card of the scheme with nothing but an Ed25519 key, and every scope that is asked for. -/
def classicalCard (challenge : Challenge) (scheme : CryptoScheme) (key : Bytes 32) : AgentCard where
  id := challenge.id
  name := ""
  owner := ""
  scopes := challenge.requiredScopes
  publicKey := encodePublicKey (Ed25519.verifyingKey key)
  pqPublicKey := none
  signature := ""
  pqSignature := none
  cryptoScheme := scheme
  issuedAt := challenge.issuedAt
  expiresAt := challenge.expiresAt
  agentType := .type
  parentId := none
  spiffeId := none

/-- The answer of such a card. -/
def classicalResponse (challenge : Challenge) (scheme : CryptoScheme) (key : Bytes 32) :
    ChallengeResponse where
  challengeId := challenge.id
  agentCard := challenge.classicalCard scheme key
  signature := sign key (challengeToSignBytes challenge)
  pqSignature := none
  respondedAt := challenge.issuedAt

theorem classical_not_pqVerified (challenge : Challenge) (scheme : CryptoScheme) (key : Bytes 32) :
    ¬ PqVerified challenge (challenge.classicalResponse scheme key) := by
  rintro ⟨pqPub, pqSig, published, _⟩
  cases published

omit [Ed25519] [MlDsa65] in
theorem meetsMinimum_hybrid {challenge : Challenge} (asks : challenge.AsksPq)
    {scheme : CryptoScheme} (meets : meetsMinimum challenge.minCrypto scheme = true) :
    scheme = .hybrid ∨ scheme = .mlDsa65 ∧ challenge.minCrypto = some "ml-dsa-65" := by
  rcases asks with minimum | minimum
  · rw [minimum] at meets
    exact .inl (of_decide_eq_true meets)
  · rw [minimum] at meets
    rcases Bool.or_eq_true_iff.mp meets with mlDsa65 | hybrid
    · exact .inr ⟨of_decide_eq_true mlDsa65, minimum⟩
    · exact .inl (of_decide_eq_true hybrid)

variable [Unicode] [TimeDisplay]

/-- An ML-DSA card without an ML-DSA key meets the minimum of its name. -/
theorem classical_verified (correct : Ed25519.Correct) {challenge : Challenge}
    (minimum : challenge.minCrypto = some "ml-dsa-65") (key : Bytes 32) :
    (verifyResponse challenge (challenge.classicalResponse .mlDsa65 key) (challenge.expiresAt - 1)).verified =
      true := by
  refine (verified_iff _ _ _).mpr ⟨Int.sub_le_self _ (by decide), rfl,
    Int.sub_lt_self _ (by decide), ⟨?_, ?_⟩,
    fun required asked => asked, ?_⟩
  · exact verify_sign correct key _
  · intro hybrid
    cases hybrid
  · rw [minimum]
    rfl

/-- For cards of a scheme the minimum is enforced, except for ML-DSA cards where that is the
minimum. -/
theorem minCrypto_enforced_iff (correct : Ed25519.Correct) {challenge : Challenge}
    (asks : challenge.AsksPq) (scheme : CryptoScheme) :
    (∀ response now, response.agentCard.cryptoScheme = scheme →
      (verifyResponse challenge response now).verified = true → PqVerified challenge response) ↔
    ¬ (challenge.minCrypto = some "ml-dsa-65" ∧ scheme = .mlDsa65) := by
  constructor
  · rintro enforced ⟨minimum, rfl⟩
    let key : Bytes 32 := ⟨List.replicate 32 0, List.length_replicate⟩
    exact classical_not_pqVerified challenge .mlDsa65 key
      (enforced _ _ rfl (classical_verified correct minimum key))
  · intro other response now same verified
    have passes := (verified_iff challenge response now).mp verified
    rcases meetsMinimum_hybrid asks passes.minimum with hybrid | ⟨mlDsa65, minimum⟩
    · exact passes.answers.mldsa hybrid
    · exact absurd ⟨minimum, same.symm.trans mlDsa65⟩ other

end Minimum

section
open scoped Core.StandIn

def StandIn.asksMlDsa65 : Challenge where
  id := Uuid.nil
  nonce := "nonce"
  issuer := "issuer"
  requiredScopes := ["read"]
  issuedAt := 0
  expiresAt := 30 * DateTime.nanosPerSecond
  minCrypto := some "ml-dsa-65"

theorem minCrypto_enforced_mlDsa65 : ¬ ∀ response now, response.agentCard.cryptoScheme = .mlDsa65 →
    (verifyResponse StandIn.asksMlDsa65 response now).verified = true →
      PqVerified StandIn.asksMlDsa65 response := by
  intro enforced
  have asks : StandIn.asksMlDsa65.AsksPq := .inr rfl
  exact (minCrypto_enforced_iff Core.StandIn.ed25519_correct asks .mlDsa65).mp enforced ⟨rfl, rfl⟩

/-- An agent without any post-quantum key is verified against a challenge that asks for
ML-DSA-65. -/
theorem minCrypto_evaded : ¬ ∀ (challenge : Challenge) (response : ChallengeResponse)
    (now : DateTime),
    challenge.AsksPq → (verifyResponse challenge response now).verified = true →
      PqVerified challenge response := by
  intro enforced
  have asks : StandIn.asksMlDsa65.AsksPq := .inr rfl
  have verified := classical_verified Core.StandIn.ed25519_correct
    (rfl : StandIn.asksMlDsa65.minCrypto = some "ml-dsa-65") Core.StandIn.seed
  exact classical_not_pqVerified StandIn.asksMlDsa65 .mlDsa65 Core.StandIn.seed
    (enforced _ _ _ asks verified)

end

end Challenge
end GrokingClawId.Core
