import GrokingClawId.Core.Models

/-!
# Verification challenges

`challenge.rs`: a challenge, the response to it and the checks on a response. A response brings its
card along; the card's own signatures and the registry are not among what is checked.
-/

namespace GrokingClawId.Core
open Text

/-- `Display for DateTime<Utc>`. -/
class TimeDisplay where
  display : DateTime → String

scoped instance StandIn.timeDisplay : TimeDisplay where
  display t := toString t

structure Challenge where
  id : Uuid
  nonce : String
  issuer : String
  requiredScopes : List String
  issuedAt : DateTime
  expiresAt : DateTime
  minCrypto : Option String
  deriving DecidableEq

structure ChallengeResponse where
  challengeId : Uuid
  agentCard : AgentCard
  signature : String
  pqSignature : Option String
  respondedAt : DateTime
  deriving DecidableEq

structure Check where
  name : String
  passed : Bool
  detail : String
  deriving DecidableEq

structure Challenge.VerificationResult where
  verified : Bool
  checks : List Check
  agentId : Option String
  agentName : Option String
  deriving DecidableEq

/-! ### Creation -/

/-- `Duration::seconds`: the range is `i64::MAX` milliseconds either way. -/
def durationSeconds (seconds : Int) : Outcome Int :=
  if -9223372036854775 ≤ seconds ∧ seconds ≤ 9223372036854775 then .ok seconds
  else .error (.panic "TimeDelta::seconds out of bounds")

/-- What the clock and the random source deliver to `create_challenge`. -/
structure ChallengeDraws where
  now : DateTime
  nonce : Bytes 32
  id : Uuid

def createChallenge (issuer : String) (requiredScopes : List String) (ttlSeconds : Option Int)
    (requirePq : Bool) (draws : ChallengeDraws) : Outcome Challenge := do
  let ttl := ttlSeconds.getD 30
  let now := draws.now
  let duration ← durationSeconds ttl
  let expiresAt ← DateTime.add now duration
  .ok { id := draws.id, nonce := base64 draws.nonce.val, issuer, requiredScopes, issuedAt := now,
        expiresAt, minCrypto := if requirePq then some "hybrid" else none }

def utf8 (text : String) : List UInt8 := text.toUTF8.data.toList

/-- `i64::to_le_bytes`. -/
def toLeBytes (n : Int) : List UInt8 :=
  (List.range 8).map fun i => UInt8.ofNat ((n % UInt64.size).toNat / 256 ^ i)

/-- The fields with a zero byte between them, and between the scopes at the end. -/
def challengeToSignBytes (challenge : Challenge) : ByteArray :=
  let data := challenge.id.val ++ [0] ++ utf8 challenge.nonce ++ [0] ++ utf8 challenge.issuer ++ [0] ++
    toLeBytes (DateTime.timestamp challenge.issuedAt) ++ [0] ++
    toLeBytes (DateTime.timestamp challenge.expiresAt) ++ [0] ++
    (challenge.minCrypto.map utf8).getD [] ++ [0] ++
    [0].intercalate (challenge.requiredScopes.map utf8)
  ⟨data.toArray⟩

/-! ### Response -/

section Verify
variable [Ed25519] [MlDsa65]

def respondToChallenge (challenge : Challenge) (card : AgentCard) (edSigningKey : Bytes 32)
    (mldsaSecretKey : Option (List UInt8)) (signing : Nat) (now : DateTime) :
    Except String ChallengeResponse := do
  let signBytes := challengeToSignBytes challenge
  let edSig := sign edSigningKey signBytes
  let pqSig ← mldsaSecretKey.mapM fun sk => mldsaSign sk signBytes signing
  .ok { challengeId := challenge.id, agentCard := card, signature := edSig, pqSignature := pqSig,
        respondedAt := now }

/-! ### Verification -/

variable [Unicode] [TimeDisplay]

/-- `unwrap_or(false)`. -/
def holds (answer : Except String Bool) : Bool := answer.toOption.getD false

omit [Ed25519] [MlDsa65] [Unicode] [TimeDisplay] in
theorem holds_iff {answer : Except String Bool} : holds answer = true ↔ answer = .ok true := by
  cases answer with
  | error e => simp [holds, Except.toOption]
  | ok b => simp [holds, Except.toOption]

def checkChallengeExpiry (challenge : Challenge) (now : DateTime) : Check :=
  let timeOk := decide (now ≤ challenge.expiresAt)
  let expiresAt := TimeDisplay.display challenge.expiresAt
  { name := "challenge_expiry", passed := timeOk
    detail := if timeOk then s!"Challenge valid until {expiresAt}"
      else s!"Challenge expired at {expiresAt} (now: {TimeDisplay.display now})" }

def checkChallengeId (challenge : Challenge) (response : ChallengeResponse) : Check :=
  let idOk := decide (response.challengeId = challenge.id)
  { name := "challenge_id", passed := idOk
    detail := if idOk then "Challenge ID matches"
      else s!"ID mismatch: expected {challenge.id.toText}, got {response.challengeId.toText}" }

def checkCardExpiry (card : AgentCard) (now : DateTime) : Check :=
  let cardOk := decide (now < card.expiresAt)
  let expiresAt := TimeDisplay.display card.expiresAt
  { name := "card_expiry", passed := cardOk
    detail := if cardOk then s!"Card valid until {expiresAt}" else s!"Card expired at {expiresAt}" }

def checkEd25519 (signBytes : ByteArray) (response : ChallengeResponse) : Check :=
  let edOk := holds (verify response.agentCard.publicKey signBytes response.signature)
  { name := "ed25519_signature", passed := edOk
    detail := if edOk then "Ed25519 signature valid" else "Ed25519 signature INVALID" }

/-- Made for hybrid cards only. -/
def checkMldsa (signBytes : ByteArray) (response : ChallengeResponse) : List Check :=
  if response.agentCard.cryptoScheme = .hybrid then
    match response.pqSignature, response.agentCard.pqPublicKey with
    | some pqSig, some pqPub =>
      let valid := holds (mldsaVerify pqPub signBytes pqSig)
      [{ name := "mldsa65_signature", passed := valid
         detail := if valid then "ML-DSA-65 signature valid" else "ML-DSA-65 signature INVALID" }]
    | _, _ =>
      [{ name := "mldsa65_signature", passed := false
         detail := "Hybrid card but missing PQ signature or public key" }]
  else []

def checkScopes (challenge : Challenge) (card : AgentCard) : Check :=
  let scopesOk := challenge.requiredScopes.all fun required => card.scopes.any fun s => s = required
  { name := "scopes", passed := scopesOk
    detail := if scopesOk then s!"All required scopes present: {debugList challenge.requiredScopes}"
      else s!"Missing scopes: {debugList (challenge.requiredScopes.filter fun r => !card.scopes.contains r)}" }

def meetsMinimum (minCrypto : Option String) (scheme : CryptoScheme) : Bool :=
  match minCrypto with
  | some "hybrid" => scheme = .hybrid
  | some "ml-dsa-65" => scheme = .mlDsa65 || scheme = .hybrid
  | _ => true

/-- Made when the challenge names a minimum. -/
def checkCryptoScheme (challenge : Challenge) (card : AgentCard) : List Check :=
  match challenge.minCrypto with
  | none => []
  | some minimum =>
    let cryptoOk := meetsMinimum challenge.minCrypto card.cryptoScheme
    let scheme := card.cryptoScheme.display
    [{ name := "crypto_scheme", passed := cryptoOk
       detail := if cryptoOk then s!"Crypto scheme {scheme} meets requirement"
         else s!"Crypto scheme {scheme} does not meet minimum: {minimum}" }]

def responseChecks (challenge : Challenge) (response : ChallengeResponse) (now : DateTime) :
    List Check :=
  let signBytes := challengeToSignBytes challenge
  let card := response.agentCard
  [checkChallengeExpiry challenge now, checkChallengeId challenge response, checkCardExpiry card now,
    checkEd25519 signBytes response] ++ checkMldsa signBytes response ++ [checkScopes challenge card] ++
    checkCryptoScheme challenge card

def verifyResponse (challenge : Challenge) (response : ChallengeResponse) (now : DateTime) :
    Challenge.VerificationResult :=
  let checks := responseChecks challenge response now
  let card := response.agentCard
  let allPassed := checks.all Check.passed
  { verified := allPassed, checks
    agentId := if allPassed then some card.id.toText else none
    agentName := if allPassed then some card.name else none }

/-! ### What the checks ask -/

/-- The signatures of a response, the ML-DSA signature for a hybrid card. -/
structure Answers (challenge : Challenge) (response : ChallengeResponse) : Prop where
  ed25519 : verify response.agentCard.publicKey (challengeToSignBytes challenge) response.signature = .ok true
  mldsa : response.agentCard.cryptoScheme = .hybrid → ∃ pqPub pqSig,
    response.agentCard.pqPublicKey = some pqPub ∧ response.pqSignature = some pqSig ∧
      mldsaVerify pqPub (challengeToSignBytes challenge) pqSig = .ok true

structure Passes (challenge : Challenge) (response : ChallengeResponse) (now : DateTime) :
    Prop where
  inTime : now ≤ challenge.expiresAt
  named : response.challengeId = challenge.id
  current : now < response.agentCard.expiresAt
  answers : Answers challenge response
  scopes : ∀ required ∈ challenge.requiredScopes, required ∈ response.agentCard.scopes
  minimum : meetsMinimum challenge.minCrypto response.agentCard.cryptoScheme = true

omit [Ed25519] [Unicode] [TimeDisplay] in
theorem checkMldsa_passed (signBytes : ByteArray) (response : ChallengeResponse) :
    (checkMldsa signBytes response).all Check.passed = true ↔
      (response.agentCard.cryptoScheme = .hybrid → ∃ pqPub pqSig,
        response.agentCard.pqPublicKey = some pqPub ∧ response.pqSignature = some pqSig ∧
          mldsaVerify pqPub signBytes pqSig = .ok true) := by
  unfold checkMldsa
  by_cases scheme : response.agentCard.cryptoScheme = .hybrid
  · rw [if_pos scheme]
    cases signature : response.pqSignature with
    | none => simp [scheme]
    | some pqSig =>
      cases key : response.agentCard.pqPublicKey with
      | none => simp [scheme]
      | some pqPub => simp [scheme, holds_iff]
  · rw [if_neg scheme]
    simp [scheme]

omit [Ed25519] [MlDsa65] [Unicode] [TimeDisplay] in
theorem checkCryptoScheme_passed (challenge : Challenge) (card : AgentCard) :
    (checkCryptoScheme challenge card).all Check.passed = true ↔
      meetsMinimum challenge.minCrypto card.cryptoScheme = true := by
  unfold checkCryptoScheme
  cases minimum : challenge.minCrypto with
  | none => simp [meetsMinimum]
  | some text => simp

/-- A response is verified exactly when it passes every check that is made. -/
theorem verified_iff (challenge : Challenge) (response : ChallengeResponse) (now : DateTime) :
    (verifyResponse challenge response now).verified = true ↔ Passes challenge response now := by
  have mldsa := checkMldsa_passed (challengeToSignBytes challenge) response
  have minimum := checkCryptoScheme_passed challenge response.agentCard
  have scopes : (checkScopes challenge response.agentCard).passed = true ↔
      ∀ required ∈ challenge.requiredScopes, required ∈ response.agentCard.scopes := by
    simp [checkScopes]
  show (responseChecks challenge response now).all Check.passed = true ↔ _
  simp only [responseChecks, List.all_append, List.all_cons, List.all_nil, Bool.and_true,
    Bool.and_eq_true, mldsa, minimum, scopes]
  simp only [checkChallengeExpiry, checkChallengeId, checkCardExpiry, checkEd25519,
    decide_eq_true_eq, holds_iff]
  constructor
  · rintro ⟨⟨⟨⟨inTime, named, current, ed25519⟩, mldsa⟩, scopes⟩, minimum⟩
    exact ⟨inTime, named, current, ⟨ed25519, mldsa⟩, scopes, minimum⟩
  · rintro ⟨inTime, named, current, ⟨ed25519, mldsa⟩, scopes, minimum⟩
    exact ⟨⟨⟨⟨inTime, named, current, ed25519⟩, mldsa⟩, scopes⟩, minimum⟩

/-- The keys a responder signs with are the ones its card names. -/
structure KeysOf (card : AgentCard) (edSigningKey : Bytes 32)
    (mldsaSecretKey : Option (List UInt8)) :
    Prop where
  ed25519 : card.publicKey = encodePublicKey (Ed25519.verifyingKey edSigningKey)
  mldsa : card.cryptoScheme = .hybrid → ∃ rng pair, generateMldsaKeypair rng = .ok pair ∧
    mldsaSecretKey = some pair.secretKeyBytes ∧
      card.pqPublicKey = some (encodeMldsaPublicKey pair.publicKeyBytes)

omit [Unicode] [TimeDisplay] in
/-- A response made with the keys of its card answers the challenge, whoever wrote the card. -/
theorem respond_answers (correct : Ed25519.Correct) (mldsa : MlDsa65.Correct)
    {challenge : Challenge} {card : AgentCard} {edSigningKey : Bytes 32}
    {mldsaSecretKey : Option (List UInt8)} {signing : Nat} {now : DateTime}
    {response : ChallengeResponse} (keys : KeysOf card edSigningKey mldsaSecretKey)
    (responded : respondToChallenge challenge card edSigningKey mldsaSecretKey signing now = .ok response) :
    response.challengeId = challenge.id ∧ response.agentCard = card ∧
    Answers challenge response := by
  unfold respondToChallenge at responded
  obtain ⟨pqSig, signed, responded⟩ := bind_ok responded
  obtain rfl := Except.ok.inj responded
  refine ⟨rfl, rfl, ?_, ?_⟩
  · show verify card.publicKey _ _ = .ok true
    rw [keys.ed25519]
    exact verify_sign correct edSigningKey _
  · intro hybrid
    obtain ⟨rng, pair, generated, secret, published⟩ := keys.mldsa hybrid
    obtain ⟨bytes, made, verified⟩ :=
      mldsaVerify_sign mldsa generated (challengeToSignBytes challenge) signing
    have stored : pqSig = some (base64 bytes) := by
      rw [secret] at signed
      obtain ⟨text, again, signed⟩ := bind_ok signed
      obtain rfl := Except.ok.inj (again.symm.trans made)
      exact (Except.ok.inj signed).symm
    exact ⟨_, _, published, stored, verified⟩

/-- An agent with the keys, the scopes and the scheme that are asked for is verified in time. -/
theorem respond_verified (correct : Ed25519.Correct) (mldsa : MlDsa65.Correct)
    {challenge : Challenge} {card : AgentCard} {edSigningKey : Bytes 32}
    {mldsaSecretKey : Option (List UInt8)} {signing : Nat} {now later : DateTime}
    {response : ChallengeResponse} (keys : KeysOf card edSigningKey mldsaSecretKey)
    (responded : respondToChallenge challenge card edSigningKey mldsaSecretKey signing now = .ok response)
    (inTime : later ≤ challenge.expiresAt) (current : later < card.expiresAt)
    (scopes : ∀ required ∈ challenge.requiredScopes, required ∈ card.scopes)
    (minimum : meetsMinimum challenge.minCrypto card.cryptoScheme = true) :
    (verifyResponse challenge response later).verified = true := by
  obtain ⟨named, same, answers⟩ := respond_answers correct mldsa keys responded
  subst same
  exact (verified_iff challenge response later).mpr ⟨inTime, named, current, answers, scopes, minimum⟩

end Verify

end GrokingClawId.Core
