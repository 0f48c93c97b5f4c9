import GrokingClawId.Cli.CardPayload
import GrokingClawId.Core.Revocation

/-!
# Verifying a card

`verify.rs`: the signatures of a card over its signing payload, its validity window and its
revocation, and exactly when the result is `VALID`.
-/

namespace GrokingClawId.Cli
open GrokingClawId.Core

section Signatures
variable [Ed25519] [MlDsa65]

/-- The card's signatures verify over the payload, the ML-DSA signature where it is asked for. -/
structure SignedOver (card : AgentCard) (payload : String) (pq : Prop) : Prop where
  ed25519 : verify card.publicKey payload.toUTF8 card.signature = .ok true
  mldsa : pq → ∃ pqPub pqSig, card.pqPublicKey = some pqPub ∧ card.pqSignature = some pqSig ∧
    mldsaVerify pqPub payload.toUTF8 pqSig = .ok true

theorem SignedOver.signature_ne_empty {card : AgentCard} {payload : String} {pq : Prop}
    (signed : SignedOver card payload pq) : card.signature ≠ "" := by
  intro empty
  have verified := signed.ed25519
  rw [empty] at verified
  exact verify_empty _ _ verified

end Signatures

namespace Verify

structure Report where
  edValid : Bool
  pqValid : Option Bool
  notExpired : Bool
  notBefore : Bool
  revoked : Bool
  deriving DecidableEq

def Report.valid (report : Report) : Bool :=
  let allSigsValid := report.edValid && report.pqValid.getD true
  allSigsValid && report.notExpired && report.notBefore && !report.revoked

section Execute
variable [Ed25519] [MlDsa65] [Chrono]

def checkSignatures (card : AgentCard) : Except String (Bool × Option Bool) :=
  let payload := cardSigningPayload card
  match card.cryptoScheme with
  | .ed25519 => do
    let edOk ← verify card.publicKey payload.toUTF8 card.signature
    .ok (edOk, none)
  | .mlDsa65 => do
    let pqPub ← orErr card.pqPublicKey "ML-DSA-65 card missing pq_public_key"
    let pqSig ← orErr card.pqSignature "ML-DSA-65 card missing pq_signature"
    let pqOk ← mldsaVerify pqPub payload.toUTF8 pqSig
    let edOk ← verify card.publicKey payload.toUTF8 card.signature
    .ok (edOk, some pqOk)
  | .hybrid => do
    let edOk ← verify card.publicKey payload.toUTF8 card.signature
    let pqPub ← orErr card.pqPublicKey "Hybrid card missing pq_public_key"
    let pqSig ← orErr card.pqSignature "Hybrid card missing pq_signature"
    let pqOk ← mldsaVerify pqPub payload.toUTF8 pqSig
    .ok (edOk, some pqOk)

variable [FromStr AgentCard]

def execute (cardJson : String) (now : DateTime) (registry : Registry) : Except String Report := do
  let card ← (FromStr.fromStr cardJson : Except String AgentCard).mapError fun _ =>
    "Failed to parse card"
  let (edValid, pqValid) ← checkSignatures card
  let notExpired := decide (now < card.expiresAt)
  let notBefore := decide (card.issuedAt ≤ now)
  let revoked := registry.lists card.id
  .ok { edValid, pqValid, notExpired, notBefore, revoked }

/-- The command reports the card in the file as valid. -/
def Accepts (cardJson : String) (now : DateTime) (registry : Registry) : Prop :=
  ∃ report, execute cardJson now registry = .ok report ∧ report.valid = true

omit [FromStr AgentCard] in
theorem checkSignatures_iff (card : AgentCard) :
    (∃ pqValid, checkSignatures card = .ok (true, pqValid) ∧ pqValid.getD true = true) ↔
      SignedOver card (cardSigningPayload card) (card.cryptoScheme ≠ .ed25519) := by
  constructor
  · rintro ⟨pqValid, checked, pq⟩
    unfold checkSignatures at checked
    split at checked
    · rename_i scheme
      obtain ⟨edOk, ed, checked⟩ := bind_ok checked
      obtain ⟨rfl, rfl⟩ := Prod.mk.inj (Except.ok.inj checked)
      exact ⟨ed, fun other => absurd scheme other⟩
    · obtain ⟨pqPub, hp, checked⟩ := bind_ok checked
      obtain ⟨pqSig, hs, checked⟩ := bind_ok checked
      obtain ⟨pqOk, mldsa, checked⟩ := bind_ok checked
      obtain ⟨edOk, ed, checked⟩ := bind_ok checked
      obtain ⟨rfl, rfl⟩ := Prod.mk.inj (Except.ok.inj checked)
      obtain rfl : pqOk = true := pq
      exact ⟨ed, fun _ => ⟨pqPub, pqSig, orErr_ok hp, orErr_ok hs, mldsa⟩⟩
    · obtain ⟨edOk, ed, checked⟩ := bind_ok checked
      obtain ⟨pqPub, hp, checked⟩ := bind_ok checked
      obtain ⟨pqSig, hs, checked⟩ := bind_ok checked
      obtain ⟨pqOk, mldsa, checked⟩ := bind_ok checked
      obtain ⟨rfl, rfl⟩ := Prod.mk.inj (Except.ok.inj checked)
      obtain rfl : pqOk = true := pq
      exact ⟨ed, fun _ => ⟨pqPub, pqSig, orErr_ok hp, orErr_ok hs, mldsa⟩⟩
  · rintro ⟨ed, mldsa⟩
    cases scheme : card.cryptoScheme with
    | ed25519 => exact ⟨none, by simp only [checkSignatures, scheme, ed, bind, Except.bind], rfl⟩
    | mlDsa65 =>
      obtain ⟨pqPub, pqSig, hp, hs, pq⟩ := mldsa (by simp [scheme])
      exact ⟨some true,
        by simp only [checkSignatures, scheme, hp, hs, orErr_some, ed, pq, bind, Except.bind], rfl⟩
    | hybrid =>
      obtain ⟨pqPub, pqSig, hp, hs, pq⟩ := mldsa (by simp [scheme])
      exact ⟨some true,
        by simp only [checkSignatures, scheme, hp, hs, orErr_some, ed, pq, bind, Except.bind], rfl⟩

/-- A card is valid exactly when it is signed, inside its window and not revoked. -/
theorem accepts_iff {cardJson : String} {card : AgentCard}
    (parsed : FromStr.fromStr cardJson = .ok card) (now : DateTime) (registry : Registry) :
    Accepts cardJson now registry ↔
      SignedOver card (cardSigningPayload card) (card.cryptoScheme ≠ .ed25519) ∧
        card.issuedAt ≤ now ∧ now < card.expiresAt ∧ registry.lists card.id = false := by
  rw [← checkSignatures_iff]
  constructor
  · rintro ⟨report, ran, valid⟩
    rw [execute, parsed] at ran
    obtain ⟨found, same, ran⟩ := bind_ok ran
    obtain rfl : card = found := Except.ok.inj same
    obtain ⟨⟨edValid, pqValid⟩, checked, ran⟩ := bind_ok ran
    obtain rfl := Except.ok.inj ran
    simp only [Report.valid, Bool.and_eq_true, decide_eq_true_eq, Bool.not_eq_true'] at valid
    obtain ⟨⟨⟨⟨rfl, pq⟩, expiry⟩, start⟩, unrevoked⟩ := valid
    exact ⟨⟨pqValid, checked, pq⟩, start, expiry, unrevoked⟩
  · rintro ⟨⟨pqValid, checked, pq⟩, start, expiry, unrevoked⟩
    refine ⟨⟨true, pqValid, true, true, false⟩, ?_, by simp [Report.valid, pq]⟩
    simp [execute, parsed, checked, start, expiry, unrevoked, bind, Except.bind, Except.mapError]

end Execute

end Verify
end GrokingClawId.Cli
