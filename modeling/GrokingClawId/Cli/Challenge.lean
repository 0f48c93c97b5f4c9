import GrokingClawId.Core.Challenge
import GrokingClawId.Cli.Lifecycle

/-!
# Challenge and response

`challenge.rs` of the commands: answering a challenge from files and verifying the answer. What a
verified answer says about the card in it. File errors and what is printed are left out.
-/

namespace GrokingClawId.Cli
open GrokingClawId.Core Text

section Commands
variable [Ed25519] [MlDsa65] [TimeDisplay] [FromStr Core.Challenge] [FromStr AgentCard]

def loadCard (cardPath cardJson : String) : Except String AgentCard :=
  (FromStr.fromStr cardJson : Except String AgentCard).mapError fun _ => s!"Failed to parse card: {cardPath}"

def loadChallenge (challengeJson : String) : Except String Core.Challenge :=
  (FromStr.fromStr challengeJson : Except String Core.Challenge).mapError fun _ =>
    "Failed to parse challenge JSON"

/-- The keys of a responder; a card with ML-DSA keys only has none to answer with. -/
def respondKeys (scheme : CryptoScheme) (keyPem : String) :
    Outcome (Bytes 32 × Option (List UInt8)) :=
  match scheme with
  | .ed25519 => do
    let ed ← orFault (decodePrivateKeyPem keyPem.toList)
    .ok (ed, none)
  | .mlDsa65 => .error (.error ("ML-DSA-65 only identity cannot respond to challenges. " ++
      "Ed25519 is required for the base signature. Use --crypto hybrid."))
  | .hybrid => do
    let (ed, mldsa) ← decodeHybridPrivateKeyPem keyPem.toList
    .ok (ed, some mldsa)

def executeRespond (challengeJson cardPath cardJson keyPem : String) (signing : Nat)
    (now respondedAt : DateTime) : Outcome ChallengeResponse := do
  let challenge ← orFault (loadChallenge challengeJson)
  let card ← orFault (loadCard cardPath cardJson)
  if challenge.expiresAt < now then
    let expiresAt := TimeDisplay.display challenge.expiresAt
    .error (.error s!"Challenge has expired (expired at {expiresAt}, now {TimeDisplay.display now}). Request a new one.")
  else
    let (edKey, mldsaSk) ← respondKeys card.cryptoScheme keyPem
    orFault (respondToChallenge challenge card edKey mldsaSk signing respondedAt)

variable [Unicode] [FromStr ChallengeResponse]

/-- The process exits with 1 unless the result is verified. -/
def executeVerifyResponse (challengeJson responseJson : String) (now : DateTime) :
    Except String Core.Challenge.VerificationResult := do
  let challenge ← loadChallenge challengeJson
  let response ← (FromStr.fromStr responseJson : Except String ChallengeResponse).mapError fun _ =>
    "Failed to parse response JSON"
  .ok (verifyResponse challenge response now)

omit [FromStr AgentCard] in
theorem executeVerifyResponse_iff (challengeJson responseJson : String) (now : DateTime) :
    (∃ result, executeVerifyResponse challengeJson responseJson now = .ok result ∧
      result.verified = true) ↔
      ∃ challenge response, FromStr.fromStr challengeJson = .ok challenge ∧
        FromStr.fromStr responseJson = .ok response ∧ Passes challenge response now := by
  unfold executeVerifyResponse loadChallenge
  cases asked : (FromStr.fromStr challengeJson : Except String Core.Challenge) with
  | error e => simp [Except.mapError, bind, Except.bind]
  | ok challenge =>
    cases answered : (FromStr.fromStr responseJson : Except String ChallengeResponse) with
    | error e => simp [Except.mapError, bind, Except.bind]
    | ok response => simp [Except.mapError, bind, Except.bind, verified_iff]

omit [Unicode] [FromStr ChallengeResponse] in
theorem executeRespond_ok {challengeJson cardPath cardJson keyPem : String} {signing : Nat}
    {now respondedAt : DateTime} {response : ChallengeResponse}
    (ran : executeRespond challengeJson cardPath cardJson keyPem signing now respondedAt = .ok response) :
    ∃ challenge card edKey mldsaSk, FromStr.fromStr challengeJson = .ok challenge ∧
      FromStr.fromStr cardJson = .ok card ∧ now ≤ challenge.expiresAt ∧
      respondKeys card.cryptoScheme keyPem = .ok (edKey, mldsaSk) ∧
      respondToChallenge challenge card edKey mldsaSk signing respondedAt = .ok response := by
  unfold executeRespond at ran
  obtain ⟨challenge, asked, ran⟩ := bind_ok ran
  obtain ⟨card, parsed, ran⟩ := bind_ok ran
  have asked := mapError_eq_ok (orFault_eq_ok asked)
  have parsed := mapError_eq_ok (orFault_eq_ok parsed)
  by_cases expired : challenge.expiresAt < now
  · rw [if_pos expired] at ran
    cases ran
  · rw [if_neg expired] at ran
    obtain ⟨⟨edKey, mldsaSk⟩, keys, ran⟩ := bind_ok ran
    exact ⟨challenge, card, edKey, mldsaSk, asked, parsed, not_lt.mp expired, keys, orFault_eq_ok ran⟩

/-- What an agent answers with the keys of its card is verified while the challenge and the card
last, when it has the scopes and the scheme. -/
theorem respond_then_verify (correct : Ed25519.Correct) (mldsa : MlDsa65.Correct)
    {challengeJson cardPath cardJson keyPem responseJson : String} {signing : Nat}
    {now respondedAt later : DateTime} {challenge : Core.Challenge} {card : AgentCard}
    {response : ChallengeResponse}
    (asked : FromStr.fromStr challengeJson = .ok challenge)
    (parsed : FromStr.fromStr cardJson = .ok card)
    (own : ∀ edKey mldsaSk, respondKeys card.cryptoScheme keyPem = .ok (edKey, mldsaSk) →
      KeysOf card edKey mldsaSk)
    (ran : executeRespond challengeJson cardPath cardJson keyPem signing now respondedAt = .ok response)
    (sent : FromStr.fromStr responseJson = .ok response)
    (inTime : later ≤ challenge.expiresAt) (current : later < card.expiresAt)
    (scopes : ∀ required ∈ challenge.requiredScopes, required ∈ card.scopes)
    (minimum : meetsMinimum challenge.minCrypto card.cryptoScheme = true) :
    ∃ result, executeVerifyResponse challengeJson responseJson later = .ok result ∧
      result.verified = true := by
  obtain ⟨challenge', card', edKey, mldsaSk, asked', parsed', _, keys, made⟩ :=
    executeRespond_ok ran
  obtain rfl := Except.ok.inj (asked.symm.trans asked')
  obtain rfl := Except.ok.inj (parsed.symm.trans parsed')
  apply (executeVerifyResponse_iff challengeJson responseJson later).mpr
  refine ⟨challenge, response, asked, sent, ?_⟩
  exact (verified_iff challenge response later).mp
    (respond_verified correct mldsa (own edKey mldsaSk keys) made inTime current scopes minimum)

end Commands

namespace Challenge

section Authentic
variable [Ed25519] [MlDsa65] [Chrono]

/-- The card is one its issuer signed, and is not revoked. -/
structure Authentic (card : AgentCard) (registry : Registry) : Prop where
  signed : SignedOver card (cardSigningPayload card) (card.cryptoScheme ≠ .ed25519)
  unrevoked : registry.lists card.id = false

variable [Unicode] [TimeDisplay]

/-- A card somebody writes for a challenge, with keys of their own and no signature on it. -/
def madeUp (challenge : Core.Challenge) (claimed : AgentCard) (edSigningKey : Bytes 32)
    (mldsa : MlDsaKeyPair) (now : DateTime) : AgentCard :=
  { claimed with
    scopes := challenge.requiredScopes, publicKey := encodePublicKey (Ed25519.verifyingKey edSigningKey)
    pqPublicKey := some (encodeMldsaPublicKey mldsa.publicKeyBytes), signature := ""
    cryptoScheme := .hybrid, expiresAt := now + 1 }

/-- A card that says nothing. -/
def anyone : AgentCard where
  id := Uuid.nil
  name := ""
  owner := ""
  scopes := []
  publicKey := ""
  pqPublicKey := none
  signature := ""
  pqSignature := none
  cryptoScheme := .ed25519
  issuedAt := 0
  expiresAt := 0
  agentType := .type
  parentId := none
  spiffeId := none

omit [Chrono] in
/-- Until it expires every challenge can be answered under any identity. -/
theorem madeUp_verified (correct : Ed25519.Correct) (mldsa : MlDsa65.Correct)
    (challenge : Core.Challenge) (claimed : AgentCard) (edSigningKey : Bytes 32) {rng : Nat}
    {pair : MlDsaKeyPair} (generated : generateMldsaKeypair rng = .ok pair) (now : DateTime)
    (inTime : now ≤ challenge.expiresAt) :
    ∃ response : ChallengeResponse,
      response.agentCard = madeUp challenge claimed edSigningKey pair now ∧
      (verifyResponse challenge response now).verified = true := by
  let card := madeUp challenge claimed edSigningKey pair now
  have keys : KeysOf card edSigningKey (some pair.secretKeyBytes) :=
    ⟨rfl, fun _ => ⟨rng, pair, generated, rfl, rfl⟩⟩
  obtain ⟨bytes, made, _⟩ := mldsaVerify_sign mldsa generated (challengeToSignBytes challenge) 0
  have responded : respondToChallenge challenge card edSigningKey (some pair.secretKeyBytes) 0 now =
      .ok { challengeId := challenge.id, agentCard := card
            signature := sign edSigningKey (challengeToSignBytes challenge)
            pqSignature := some (base64 bytes), respondedAt := now } := by
    simp only [respondToChallenge, Option.mapM_some, made, bind, Except.bind, Functor.map,
      Except.map]
  have later : ∀ t : Int, t < t + 1 := by omega
  have minimum : meetsMinimum challenge.minCrypto .hybrid = true := by
    unfold meetsMinimum
    split <;> rfl
  exact ⟨_, rfl, respond_verified correct mldsa keys responded inTime (later now) (fun _ => id) minimum⟩

omit [Unicode] [TimeDisplay] in
theorem madeUp_not_authentic (challenge : Core.Challenge) (claimed : AgentCard)
    (edSigningKey : Bytes 32) (mldsa : MlDsaKeyPair) (now : DateTime) (registry : Registry) :
    ¬ Authentic (madeUp challenge claimed edSigningKey mldsa now) registry :=
  fun authentic => authentic.signed.signature_ne_empty rfl

/-- Whoever a response claims to be, the cards of all verified ones are authentic exactly when the challenge
has expired: nothing is verified then, and until then anyone's answer under that name is. -/
theorem verified_authentic_iff (correct : Ed25519.Correct) (mldsa : MlDsa65.Correct)
    (challenge : Core.Challenge) (now : DateTime) (registry : Registry) :
    ((∀ response : ChallengeResponse, (verifyResponse challenge response now).verified = true →
      Authentic response.agentCard registry) ↔ challenge.expiresAt < now) ∧
    ∀ claimed : AgentCard, ((∀ response : ChallengeResponse, response.agentCard.id = claimed.id →
      response.agentCard.name = claimed.name → response.agentCard.owner = claimed.owner →
      (verifyResponse challenge response now).verified = true →
      Authentic response.agentCard registry) ↔ challenge.expiresAt < now) := by
  have late : challenge.expiresAt < now → ∀ response : ChallengeResponse,
      (verifyResponse challenge response now).verified = true → Authentic response.agentCard registry := by
    intro expired response verified
    exact absurd ((verified_iff challenge response now).mp verified).inTime (not_le.mpr expired)
  have claims : ∀ claimed : AgentCard, (∀ response : ChallengeResponse,
      response.agentCard.id = claimed.id → response.agentCard.name = claimed.name →
      response.agentCard.owner = claimed.owner → (verifyResponse challenge response now).verified = true →
      Authentic response.agentCard registry) → challenge.expiresAt < now := by
    intro claimed sound
    by_contra inTime
    obtain ⟨pair, generated⟩ := generateMldsaKeypair_ok mldsa 0
    obtain ⟨response, card, verified⟩ := madeUp_verified correct mldsa challenge claimed
      ⟨List.replicate 32 0, List.length_replicate⟩ generated now (not_lt.mp inTime)
    have authentic := sound response (by rw [card]; rfl) (by rw [card]; rfl) (by rw [card]; rfl) verified
    rw [card] at authentic
    exact madeUp_not_authentic _ _ _ _ _ _ authentic
  refine ⟨⟨fun sound => ?_, late⟩, fun claimed =>
    ⟨claims claimed, fun expired response _ _ _ => late expired response⟩⟩
  exact claims anyone fun response _ _ _ => sound response

end Authentic

section
open scoped Core.StandIn

def StandIn.challenge : Core.Challenge where
  id := Uuid.nil
  nonce := base64 Core.StandIn.seed.val
  issuer := "urn:uuid:00000000-0000-0000-0000-000000000000"
  requiredScopes := ["admin"]
  issuedAt := 0
  expiresAt := 30000000000
  minCrypto := none

/-- A stranger answers as the scout, with the scope that was asked for. -/
theorem verified_stranger :
    ¬ ∀ (challenge : Core.Challenge) (response : ChallengeResponse) (now : DateTime)
      (registry : Registry), (verifyResponse challenge response now).verified = true →
      Authentic response.agentCard registry := by
  intro sound
  obtain ⟨pair, generated⟩ := generateMldsaKeypair_ok Core.StandIn.mlDsa65_correct 0
  obtain ⟨response, card, verified⟩ :=
    madeUp_verified Core.StandIn.ed25519_correct Core.StandIn.mlDsa65_correct
    StandIn.challenge Cli.StandIn.scoutCard Core.StandIn.seed generated 0 (by decide)
  have authentic := sound StandIn.challenge response 0 (.readable []) verified
  rw [card] at authentic
  exact madeUp_not_authentic _ _ _ _ _ _ authentic

/-- The scout's challenge, in time and too late. -/
theorem verified_authentic_scout :
    (¬ ∀ response : ChallengeResponse, response.agentCard.id = Cli.StandIn.scoutCard.id →
      response.agentCard.name = Cli.StandIn.scoutCard.name →
      response.agentCard.owner = Cli.StandIn.scoutCard.owner →
      (verifyResponse StandIn.challenge response 0).verified = true →
      Authentic response.agentCard (.readable [])) ∧
    ∀ response : ChallengeResponse, (verifyResponse StandIn.challenge response 30000000001).verified = true →
      Authentic response.agentCard (.readable []) := by
  have correct := Core.StandIn.ed25519_correct
  have mldsa := Core.StandIn.mlDsa65_correct
  constructor
  · rw [(verified_authentic_iff correct mldsa StandIn.challenge 0 (.readable [])).2 Cli.StandIn.scoutCard]
    decide
  · refine (verified_authentic_iff correct mldsa StandIn.challenge 30000000001 (.readable [])).1.mpr ?_
    decide

end

end Challenge
end GrokingClawId.Cli
