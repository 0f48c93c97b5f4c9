import GrokingClawId.Cli.Sign
import GrokingClawId.Core.HttpSigText
import GrokingClawId.Core.RevocationRegistry
import GrokingClawId.Core.WsMessage

/-!
# Stripped ML-DSA signatures

What the three verifiers accept that know the ML-DSA key of the signer, when somebody has taken the
ML-DSA signature away: a WebSocket message, a revocation entry, and a request for `verify-sig`.
-/

namespace GrokingClawId.Cli.Stripping
open GrokingClawId.Core

section Verifiers
variable [Ed25519] [MlDsa65]

/-! ### Messages and entries -/

/-- An ML-DSA signature is there, and it verifies. -/
def PqVerified (pqSignature : Option String) (pqKey : String) (message : ByteArray) : Prop :=
  ∃ pqSig, pqSignature = some pqSig ∧ mldsaVerify pqKey message pqSig = .ok true

omit [Ed25519] in
/-- A verifier that checks the ML-DSA signature where there is one is secure exactly where there is
one, or the Ed25519 signature fails. -/
theorem stripping_iff {accepted classical : Prop} {pqSignature : Option String} {pqKey : String}
    {message : ByteArray} (accepts : accepted ↔ classical ∧ ∀ pqSig pqPub, pqSignature = some pqSig →
      some pqKey = some pqPub → mldsaVerify pqPub message pqSig = .ok true) :
    (accepted → PqVerified pqSignature pqKey message) ↔ (pqSignature ≠ none ∨ ¬ classical) := by
  rw [accepts]
  constructor
  · intro secure
    by_contra neither
    obtain ⟨present, fails⟩ := not_or.mp neither
    have stripped : pqSignature = none := not_not.mp present
    have unchecked : ∀ pqSig pqPub, pqSignature = some pqSig → some pqKey = some pqPub →
        mldsaVerify pqPub message pqSig = .ok true := by
      intro pqSig _ stored
      rw [stripped] at stored
      cases stored
    obtain ⟨_, stored, _⟩ := secure ⟨not_not.mp fails, unchecked⟩
    rw [stripped] at stored
    cases stored
  · rintro present ⟨checked, pq⟩
    have given := present.resolve_right (not_not.mpr checked)
    obtain ⟨pqSig, stored⟩ := Option.ne_none_iff_exists'.mp given
    exact ⟨pqSig, stored, pq pqSig pqKey stored rfl⟩

theorem wsMessage_stripping (msg : SignedWsMessage) (edKey pqKey : String) :
    (verifyWsMessage msg edKey (some pqKey) = .ok true →
      PqVerified msg.pqSignature pqKey msg.data.toUTF8) ↔
    (msg.pqSignature ≠ none ∨ verify edKey msg.data.toUTF8 msg.signature ≠ .ok true) :=
  stripping_iff (verifyWsMessage_iff msg edKey (some pqKey))

theorem revocation_stripping [Rfc3339] (entry : RevocationEntry) (edKey pqKey : String) :
    (verifyRevocationHybrid entry edKey (some pqKey) = .ok true →
      PqVerified entry.pqSignature pqKey entry.payload.toUTF8) ↔
    (entry.pqSignature ≠ none ∨ verify edKey entry.payload.toUTF8 entry.signature ≠ .ok true) :=
  stripping_iff (verifyRevocationHybrid_iff entry edKey (some pqKey))

/-! ### Requests -/

variable [UrlCrate] [Text.Unicode] [FromStr AgentCard]

/-- A call of `verify-sig`. -/
structure SigCall where
  method : String
  url : String
  signatureInput : String
  signature : String
  pqSignature : Option String
  cardJson : String
  headers : List String
  now : DateTime

namespace SigCall

def request (call : SigCall) : HttpRequest := Sign.request call.method call.url call.headers

def clock (call : SigCall) : Int64 := Int64.ofInt call.now.timestamp

/-- `verify-sig` reports `SIGNATURE VALID`. -/
def Accepted (call : SigCall) : Prop :=
  ∃ result, Sign.executeVerify call.method call.url call.signatureInput call.signature call.pqSignature
    call.cardJson call.headers call.now = .ok result ∧ Sign.overall result = true

/-- The `alg` of the `Signature-Input` is `ed25519+ml-dsa-65`. -/
def IsHybrid (call : SigCall) : Prop :=
  ∃ components params, parseSignatureInput call.signatureInput call.clock = .ok (components, params) ∧
    params.alg = .hybrid

/-- The Ed25519 signature verifies with the key of the card and has not expired. -/
def EdValid (call : SigCall) : Prop :=
  ∃ card result, Sign.loadCard call.cardJson = .ok card ∧
    verifyRequest call.request call.signatureInput call.signature card.publicKey call.clock = .ok result ∧
    result.ed25519Valid = true ∧ result.expired = false

/-- The ML-DSA signature that is given verifies with the key of the card. -/
def PqSigned (call : SigCall) : Prop :=
  ∃ card pqPub pqSig label bytes base, Sign.loadCard call.cardJson = .ok card ∧
    card.pqPublicKey = some pqPub ∧ call.pqSignature = some pqSig ∧
    verifiedBase call.request call.signatureInput call.clock = .ok base ∧
    parseSignature pqSig = .ok (label, bytes) ∧ mldsaVerify pqPub base.toUTF8 (base64 bytes) = .ok true

theorem accepted_classical {call : SigCall} (stripped : call.pqSignature = none) :
    call.Accepted ↔ call.EdValid := by
  constructor
  · rintro ⟨result, ran, valid⟩
    rw [stripped] at ran
    obtain ⟨card, loaded, ran⟩ := bind_ok ran
    obtain ⟨_, _, _, _, _, _, _, _, _, unasked⟩ := verifyRequest_ok ran
    simp only [Sign.overall, unasked, Option.getD_none, Bool.and_true, Bool.and_eq_true,
      Bool.not_eq_true'] at valid
    exact ⟨card, result, orFault_eq_ok loaded, ran, valid.1, valid.2⟩
  · rintro ⟨card, result, loaded, ran, valid, current⟩
    obtain ⟨_, _, _, _, _, _, _, _, _, unasked⟩ := verifyRequest_ok ran
    refine ⟨result, ?_, ?_⟩
    · simp only [Sign.executeVerify, stripped, loaded, orFault_ok, bind, Except.bind]
      exact ran
    · simp only [Sign.overall, valid, unasked, current, Option.getD_none, Bool.not_false, Bool.and_self]

theorem accepted_pqSigned {call : SigCall} {pqSig : String} (given : call.pqSignature = some pqSig)
    (accepted : call.Accepted) : call.PqSigned := by
  obtain ⟨result, ran, valid⟩ := accepted
  rw [given] at ran
  obtain ⟨card, loaded, ran⟩ := bind_ok ran
  obtain ⟨pqPub, known, ran⟩ := bind_ok ran
  obtain ⟨_, _, ran⟩ := bind_ok ran
  obtain ⟨⟨components, params⟩, read, ran⟩ := bind_ok ran
  obtain ⟨base, built, ran⟩ := bind_ok ran
  obtain ⟨⟨label, bytes⟩, decoded, ran⟩ := bind_ok ran
  obtain ⟨pqValid, verified, ran⟩ := bind_ok ran
  rw [← Except.ok.inj ran] at valid
  cases pqValid with
  | false => simp [Sign.overall] at valid
  | true =>
    refine ⟨card, pqPub, pqSig, label, bytes, base, orFault_eq_ok loaded,
      orErr_ok (orFault_eq_ok known), given,
      ?_, orFault_eq_ok decoded, orFault_eq_ok verified⟩
    simp only [verifiedBase, request, clock, read, built, bind, Except.bind]

/-- `verify-sig` checks the ML-DSA signature of a hybrid request exactly where it is given one, or
the Ed25519 signature does not hold. -/
theorem stripping (call : SigCall) :
    (call.IsHybrid → call.Accepted → call.PqSigned) ↔
      (¬ call.IsHybrid ∨ call.pqSignature ≠ none ∨ ¬ call.EdValid) := by
  cases given : call.pqSignature with
  | some pqSig =>
    exact iff_of_true (fun _ => accepted_pqSigned given) (.inr (.inl (Option.some_ne_none _)))
  | none =>
    rw [accepted_classical given]
    constructor
    · intro secure
      by_cases hybrid : call.IsHybrid
      · refine .inr (.inr fun valid => ?_)
        obtain ⟨_, _, _, _, _, _, _, _, present, _⟩ := secure hybrid valid
        rw [given] at present
        cases present
      · exact .inl hybrid
    · rintro (classical | absent | fails) hybrid valid
      · exact absurd hybrid classical
      · exact absurd rfl absent
      · exact absurd valid fails

end SigCall

/-- Acceptance by each of the three verifiers shows an ML-DSA signature exactly where one was given,
or where the Ed25519 signature does not hold. -/
theorem acceptance_pqVerified_iff [Rfc3339] :
    (∀ (msg : SignedWsMessage) (edKey pqKey : String),
      (verifyWsMessage msg edKey (some pqKey) = .ok true →
        PqVerified msg.pqSignature pqKey msg.data.toUTF8) ↔
      (msg.pqSignature ≠ none ∨ verify edKey msg.data.toUTF8 msg.signature ≠ .ok true)) ∧
    (∀ (entry : RevocationEntry) (edKey pqKey : String),
      (verifyRevocationHybrid entry edKey (some pqKey) = .ok true →
        PqVerified entry.pqSignature pqKey entry.payload.toUTF8) ↔
      (entry.pqSignature ≠ none ∨ verify edKey entry.payload.toUTF8 entry.signature ≠ .ok true)) ∧
    ∀ call : SigCall, (call.IsHybrid → call.Accepted → call.PqSigned) ↔
      (¬ call.IsHybrid ∨ call.pqSignature ≠ none ∨ ¬ call.EdValid) :=
  ⟨wsMessage_stripping, revocation_stripping, SigCall.stripping⟩

end Verifiers

section
open scoped StandIn

/-- A message of a hybrid signer is accepted without its ML-DSA signature. -/
theorem stripped_accepted :
    ¬ ∀ (seed : Bytes 32) (keygen : Nat) (pair : MlDsaKeyPair) (payload keyid : String) (seq : UInt64)
      (now : Int64) (rng : Nat) (msg stripped : SignedWsMessage),
      generateMldsaKeypair keygen = .ok pair →
      signWsMessage payload seq keyid seed (some pair.secretKeyBytes) now rng = .ok msg →
      stripped = msg ∨ stripped = { msg with pqSignature := none } →
      verifyWsMessage stripped (encodePublicKey (Ed25519.verifyingKey seed))
        (some (encodeMldsaPublicKey pair.publicKeyBytes)) = .ok true →
      PqVerified stripped.pqSignature (encodeMldsaPublicKey pair.publicKeyBytes) stripped.data.toUTF8 := by
  intro secure
  obtain ⟨pair, generated⟩ := generateMldsaKeypair_ok StandIn.mlDsa65_correct 0
  obtain ⟨msg, signed, _, accepted⟩ := (verifyWsMessage_sign StandIn.ed25519_correct StandIn.mlDsa65_correct
    "transfer" 1 "scout" StandIn.seed 0 0).2 0 pair generated
  have classical := ((verifyWsMessage_iff _ _ _).mp accepted).1
  have stripped : verifyWsMessage { msg with pqSignature := none }
      (encodePublicKey (Ed25519.verifyingKey StandIn.seed))
        (some (encodeMldsaPublicKey pair.publicKeyBytes)) =
        .ok true := by
    refine (verifyWsMessage_iff _ _ _).mpr ⟨classical, ?_⟩
    intro _ _ stored
    cases stored
  obtain ⟨_, present, _⟩ := secure _ _ _ _ _ _ _ _ _ _ generated signed (.inr rfl) stripped
  cases present

end

end GrokingClawId.Cli.Stripping
