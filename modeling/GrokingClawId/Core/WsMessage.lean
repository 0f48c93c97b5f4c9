import GrokingClawId.Core.HttpSig

/-!
# Signed WebSocket messages

The messages of `httpsig.rs` that carry their own signatures, over the payload, the sequence number
and the time.
-/

namespace GrokingClawId.Core

structure SignedWsMessage where
  payload : String
  signature : String
  pqSignature : Option String
  keyid : String
  timestamp : Int64
  seq : UInt64
  deriving DecidableEq

/-- What is signed, as `sign_ws_message` and `verify_ws_message` both write it. -/
def signData (payload : String) (seq : UInt64) (timestamp : Int64) : String :=
  s!"{payload}\n{seq}\n{timestamp}"

def SignedWsMessage.data (msg : SignedWsMessage) : String :=
  signData msg.payload msg.seq msg.timestamp

section Messages
variable [Ed25519] [MlDsa65]

def signWsMessage (payload : String) (seq : UInt64) (keyid : String) (edSigningKey : Bytes 32)
    (mldsaSecretKey : Option (List UInt8)) (now : Int64) (rng : Nat) :
    Except String SignedWsMessage := do
  let data := signData payload seq now
  let edSig := sign edSigningKey data.toUTF8
  let pqSig ← match mldsaSecretKey with
    | some sk => (mldsaSign sk data.toUTF8 rng).map some
    | none => .ok none
  .ok { payload := payload, signature := edSig, pqSignature := pqSig, keyid := keyid,
        timestamp := now, seq := seq }

def verifyWsMessage (msg : SignedWsMessage) (edPublicKeyB64 : String)
    (mldsaPublicKeyB64 : Option String) : Except String Bool := do
  let edValid ← verify edPublicKeyB64 msg.data.toUTF8 msg.signature
  if !edValid then .ok false
  else
    match msg.pqSignature, mldsaPublicKeyB64 with
    | some pqSig, some pqPub =>
      let pqValid ← mldsaVerify pqPub msg.data.toUTF8 pqSig
      if !pqValid then .ok false else .ok true
    | _, _ => .ok true

/-- A message is accepted when its Ed25519 signature verifies, and its ML-DSA signature where there
is one and a key for it. -/
theorem verifyWsMessage_iff (msg : SignedWsMessage) (edKey : String) (pqKey : Option String) :
    verifyWsMessage msg edKey pqKey = .ok true ↔ verify edKey msg.data.toUTF8 msg.signature = .ok true ∧
      ∀ pqSig pqPub, msg.pqSignature = some pqSig → pqKey = some pqPub →
        mldsaVerify pqPub msg.data.toUTF8 pqSig = .ok true := by
  unfold verifyWsMessage
  generalize msg.data.toUTF8 = message
  constructor
  · intro accepted
    obtain ⟨edValid, checked, accepted⟩ := bind_ok accepted
    cases edValid with
    | false => cases accepted
    | true =>
      refine ⟨checked, fun pqSig pqPub stored known => ?_⟩
      rw [stored, known] at accepted
      obtain ⟨pqValid, verified, accepted⟩ := bind_ok accepted
      cases pqValid with
      | false => cases accepted
      | true => exact verified
  · rintro ⟨checked, pq⟩
    cases stored : msg.pqSignature with
    | none => simp only [checked, bind, Except.bind, Bool.not_true, Bool.false_eq_true, if_false]
    | some pqSig =>
      cases known : pqKey with
      | none => simp only [checked, bind, Except.bind, Bool.not_true, Bool.false_eq_true, if_false]
      | some pqPub =>
        have verified := pq pqSig pqPub stored known
        simp only [checked, verified, bind, Except.bind, Bool.not_true, Bool.false_eq_true, if_false]

/-- A message is accepted with the keys of its signer, with one signature and with two. -/
theorem verifyWsMessage_sign (correct : Ed25519.Correct) (mldsa : MlDsa65.Correct)
    (payload : String) (seq : UInt64) (keyid : String) (seed : Bytes 32) (now : Int64) (rng : Nat) :
    (∃ msg, signWsMessage payload seq keyid seed none now rng = .ok msg ∧ msg.pqSignature = none ∧
      ∀ pqKey, verifyWsMessage msg (encodePublicKey (Ed25519.verifyingKey seed)) pqKey = .ok true) ∧
    ∀ (keygen : Nat) (pair : MlDsaKeyPair), generateMldsaKeypair keygen = .ok pair →
      ∃ msg, signWsMessage payload seq keyid seed (some pair.secretKeyBytes) now rng = .ok msg ∧
        msg.pqSignature ≠ none ∧
        verifyWsMessage msg (encodePublicKey (Ed25519.verifyingKey seed))
          (some (encodeMldsaPublicKey pair.publicKeyBytes)) = .ok true := by
  constructor
  · refine ⟨_, rfl, rfl, fun pqKey => (verifyWsMessage_iff _ _ _).mpr ⟨verify_sign correct seed _, ?_⟩⟩
    intro pqSig _ stored
    cases stored
  · intro keygen pair generated
    obtain ⟨bytes, signed, verified⟩ :=
      mldsaVerify_sign mldsa generated (signData payload seq now).toUTF8 rng
    refine ⟨{ payload := payload, signature := sign seed (signData payload seq now).toUTF8,
              pqSignature := some (base64 bytes), keyid := keyid, timestamp := now, seq := seq }, ?_, ?_, ?_⟩
    · simp only [signWsMessage, signed, Except.map, bind, Except.bind]
    · exact Option.some_ne_none _
    · refine (verifyWsMessage_iff _ _ _).mpr ⟨verify_sign correct seed _, ?_⟩
      intro pqSig pqPub stored known
      obtain rfl := Option.some.inj stored
      obtain rfl := Option.some.inj known
      exact verified

end Messages

end GrokingClawId.Core
