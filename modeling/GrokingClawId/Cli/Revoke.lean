import GrokingClawId.Cli.Lifecycle
import GrokingClawId.Core.RevocationRegistry

/-!
# Revoking a card

`revoke.rs`: the card in a file is put into the registry, signed with the key in another file.
Whether that key is the card's is asked neither here nor by the registry. File and database errors
and the printed summary are left out.
-/

namespace GrokingClawId.Cli.Revoke
open GrokingClawId.Core

section Revoke
variable [Ed25519] [MlDsa65] [Rfc3339] [FromStr AgentCard]

structure Done where
  registry : RevocationDb
  entry : RevocationEntry
  audit : RecordCall

def call (card : AgentCard) (edKey : Bytes 32) (reason : String) (draws : Draws) : RevokeCall where
  agentId := card.id
  agentName := card.name
  reason := reason
  revokedBy := "self"
  signingKey := edKey
  pqSecretKey := none
  now := draws.now
  signing := draws.signing

def execute (db : RevocationDb) (cardJson keyPem reason : String) (draws : Draws) :
    Outcome Done := do
  let card ← orFault ((FromStr.fromStr cardJson : Except String AgentCard).mapError fun _ =>
    "Failed to parse agent card JSON")
  let edKey ← decodeKey card.cryptoScheme keyPem
  let (registry, result) := revoke db (call card edKey reason draws)
  let entry ← orFault result
  .ok { registry := registry, entry := entry
        audit := { agentId := card.id, action := "revoke", target := s!"reason={reason}",
                   signingKey := edKey, timestamp := draws.auditTimestamp } }

/-- The stored entry verifies under the card's keys: both of them for a hybrid card. -/
structure Authorised (card : AgentCard) (done : Done) : Prop where
  stored : done.entry.row ∈ done.registry
  named : done.entry.agentId = card.id
  ed25519 : verifyRevocation done.entry card.publicKey = .ok true
  hybrid : card.cryptoScheme = .hybrid → ∃ pqPub pqSig, card.pqPublicKey = some pqPub ∧
    done.entry.pqSignature = some pqSig ∧ mldsaVerify pqPub done.entry.payload.toUTF8 pqSig = .ok true

/-- What this key signs over this message does not verify under another key of these. -/
def OnlyUnder (keys : List (Bytes 32)) (seed : Bytes 32) (message : ByteArray) : Prop :=
  ∀ key ∈ keys, Ed25519.verify key message (Ed25519.sign seed message) = true →
    key = Ed25519.verifyingKey seed

/-- The revocation that the command signs does not verify under a card's key by accident. -/
def NoAccident (cardJson keyPem reason : String) (now : DateTime) : Prop :=
  ∀ (card : AgentCard) seed key, FromStr.fromStr cardJson = .ok card →
    decodeKey card.cryptoScheme keyPem = .ok seed →
    unbase64 card.publicKey = some (key : Bytes 32).val →
    OnlyUnder [key] seed (revocationPayload card.id reason now).toUTF8

/-! ### One run -/

omit [MlDsa65] [Rfc3339] [FromStr AgentCard] in
/-- A signature verifies under a public key exactly when that is the key it was made with. -/
theorem verify_iff_owner (correct : Ed25519.Correct) {publicKey : String} {seed : Bytes 32}
    {message : ByteArray} (only : ∀ key : Bytes 32, unbase64 publicKey = some key.val →
      OnlyUnder [key] seed message) :
    verify publicKey message (sign seed message) = .ok true ↔
      unbase64 publicKey = some (Ed25519.verifyingKey seed).val := by
  constructor
  · intro verified
    obtain ⟨pub, sig, decoded, signature, key, s, exact32, exact64, signs⟩ := verify_true verified
    rw [sign, unbase64_base64] at signature
    obtain rfl := Option.some.inj signature
    rw [tryInto_val] at exact64
    obtain rfl := Option.some.inj exact64
    have bytes : pub = key.val := by
      unfold tryInto at exact32
      by_cases size : pub.length = 32
      · simp only [size, dite_true, Option.some.injEq] at exact32
        rw [← exact32]
      · simp only [size, dite_false, reduceCtorEq] at exact32
    rw [bytes] at decoded
    rw [decoded, only key decoded key List.mem_cons_self signs]
  · intro own
    simp only [verify, own, sign, unbase64_base64, orErr_some, tryInto_val,
      correct.fromBytes_verifyingKey, correct.verify_sign, bind, Except.bind, if_true]

omit [FromStr AgentCard] in
theorem revoke_ok {db : RevocationDb} {call : RevokeCall} {entry : RevocationEntry}
    (ok : (revoke db call).2 = .ok entry) :
    (revoke db call).1 = db ++ [entry.row] ∧ isRevoked db call.agentId = false ∧
      entry.agentId = call.agentId ∧ entry.pqSignature = none ∧
      entry.payload = revocationPayload call.agentId call.reason call.now ∧
      entry.signature = sign call.signingKey entry.payload.toUTF8 := by
  obtain ⟨new, signed⟩ := revokeHybrid_ok.mp ok
  have row := revokeHybrid_row ok
  obtain rfl := Except.ok.inj signed
  exact ⟨row, new, rfl, rfl, rfl, rfl⟩

omit [FromStr AgentCard] in
theorem revoke_new (db : RevocationDb) (call : RevokeCall)
    (new : isRevoked db call.agentId = false) :
    ∃ entry, (revoke db call).2 = .ok entry :=
  ⟨_, revokeHybrid_ok.mpr ⟨new, rfl⟩⟩

/-- The command succeeds exactly when the files decode and the id is not yet in the registry. -/
theorem execute_iff (db : RevocationDb) (cardJson keyPem reason : String) (draws : Draws)
    (done : Done) :
    execute db cardJson keyPem reason draws = .ok done ↔
      ∃ card seed, FromStr.fromStr cardJson = .ok card ∧
        decodeKey card.cryptoScheme keyPem = .ok seed ∧
        (revoke db (call card seed reason draws)).2 = .ok done.entry ∧
        done.registry = (revoke db (call card seed reason draws)).1 ∧
        done.audit = { agentId := card.id, action := "revoke", target := s!"reason={reason}",
                       signingKey := seed, timestamp := draws.auditTimestamp } := by
  constructor
  · intro ran
    unfold execute at ran
    obtain ⟨card, parsed, ran⟩ := bind_ok ran
    obtain ⟨seed, decoded, ran⟩ := bind_ok ran
    obtain ⟨entry, result, ran⟩ := bind_ok ran
    obtain rfl := Except.ok.inj ran
    exact ⟨card, seed, mapError_eq_ok (orFault_eq_ok parsed), decoded, orFault_eq_ok result, rfl, rfl⟩
  · rintro ⟨card, seed, parsed, decoded, result, registry, audit⟩
    obtain ⟨stored, entry, record⟩ := done
    simp only at result registry audit
    subst registry audit
    simp only [execute, parsed, Except.mapError, orFault_ok, decoded, result, bind, Except.bind]

/-- Whatever the command stores is authorised by the card exactly when it refuses, or the key is
the card's own and the card is not hybrid. -/
theorem revoke_authorised_iff (correct : Ed25519.Correct) (db : RevocationDb)
    (cardJson keyPem reason : String) (draws : Draws)
    (noAccident : NoAccident cardJson keyPem reason draws.now) :
    (∀ done, execute db cardJson keyPem reason draws = .ok done → ∃ card,
      FromStr.fromStr cardJson = .ok card ∧ Authorised card done) ↔
    ∀ (card : AgentCard) seed, FromStr.fromStr cardJson = .ok card →
      decodeKey card.cryptoScheme keyPem = .ok seed → isRevoked db card.id = false →
        unbase64 card.publicKey = some (Ed25519.verifyingKey seed).val ∧
          card.cryptoScheme ≠ .hybrid := by
  constructor
  · intro authorised card seed parsed decoded new
    obtain ⟨entry, ok⟩ := revoke_new db (call card seed reason draws) new
    obtain ⟨-, -, -, classical, payload, signature⟩ := revoke_ok ok
    obtain ⟨found, same, done⟩ := authorised ⟨_, entry, _⟩
      ((execute_iff db cardJson keyPem reason draws ⟨_, entry, _⟩).mpr
        ⟨card, seed, parsed, decoded, ok, rfl, rfl⟩)
    obtain rfl : found = card := Except.ok.inj (same.symm.trans parsed)
    constructor
    · have verified := done.ed25519
      unfold verifyRevocation at verified
      rw [signature, payload] at verified
      exact (verify_iff_owner correct fun key own => noAccident found seed key parsed decoded own).mp verified
    · intro hybrid
      obtain ⟨_, pqSig, -, stored, -⟩ := done.hybrid hybrid
      rw [classical] at stored
      cases stored
  · intro owned done ran
    obtain ⟨card, seed, parsed, decoded, ok, registry, -⟩ :=
      (execute_iff db cardJson keyPem reason draws done).mp ran
    obtain ⟨row, new, named, -, payload, signature⟩ := revoke_ok ok
    obtain ⟨own, notHybrid⟩ := owned card seed parsed decoded new
    refine ⟨card, parsed, ?_, named, ?_, fun hybrid => absurd hybrid notHybrid⟩
    · rw [registry, row]
      exact List.mem_append_right _ List.mem_cons_self
    · unfold verifyRevocation
      rw [signature, payload]
      exact (verify_iff_owner correct fun key own => noAccident card seed key parsed decoded own).mpr own

end Revoke

section

/-- Signs with the key and the first 32 bytes of the message. -/
@[reducible] def StandIn.keyed : Ed25519 where
  verifyingKey seed := seed
  fromBytes _ := true
  sign seed message := ⟨seed.val ++ message.data.toList.takeD 32 0, by
    rw [List.length_append, seed.property, List.takeD_length]⟩
  verify key message signature :=
    decide (signature.val = key.val ++ message.data.toList.takeD 32 0)

local instance : Ed25519 := StandIn.keyed
local instance : MlDsa65 := Core.StandIn.mlDsa65
local instance : Rfc3339 := Core.StandIn.rfc3339

theorem StandIn.keyed_correct : Ed25519.Correct where
  fromBytes_verifyingKey _ := rfl
  verify_sign _ _ := decide_eq_true rfl

theorem StandIn.keyed_onlyUnder (keys : List (Bytes 32)) (seed : Bytes 32) (message : ByteArray) :
    OnlyUnder keys seed message := by
  intro key _ verified
  have same : seed.val ++ message.data.toList.takeD 32 0 =
      key.val ++ message.data.toList.takeD 32 0 :=
    of_decide_eq_true verified
  exact Subtype.ext (List.append_cancel_right same).symm

def StandIn.otherSeed : Bytes 32 := ⟨List.replicate 32 1, List.length_replicate⟩

def StandIn.ownedCard : AgentCard :=
  { Cli.StandIn.scoutBase with publicKey := encodePublicKey Core.StandIn.seed }

theorem StandIn.decodeKey_owned (seed : Bytes 32) :
    decodeKey StandIn.ownedCard.cryptoScheme (encodePrivateKeyPem seed) = .ok seed := by
  show orFault (decodePrivateKeyPem (encodePrivateKeyPem seed).toList) = .ok seed
  rw [decodePrivateKeyPem_encode, orFault_ok]

theorem revoke_authorised_owned :
    letI := Core.StandIn.parser [("card", StandIn.ownedCard)]
    ∃ done, execute [] "card" (encodePrivateKeyPem Core.StandIn.seed) "retired" Cli.StandIn.draws =
      .ok done ∧
      Authorised StandIn.ownedCard done := by
  let _ := Core.StandIn.parser [("card", StandIn.ownedCard)]
  have parsed : FromStr.fromStr "card" = Except.ok StandIn.ownedCard :=
    Core.StandIn.parser_head _ _ _
  have decoded := StandIn.decodeKey_owned Core.StandIn.seed
  have noAccident : NoAccident "card" (encodePrivateKeyPem Core.StandIn.seed) "retired"
      Cli.StandIn.draws.now :=
    fun _ _ _ _ _ _ => StandIn.keyed_onlyUnder _ _ _
  obtain ⟨entry, ok⟩ := revoke_new []
    (call StandIn.ownedCard Core.StandIn.seed "retired" Cli.StandIn.draws) rfl
  have ran := (execute_iff [] "card" (encodePrivateKeyPem Core.StandIn.seed) "retired" Cli.StandIn.draws
    ⟨_, entry, _⟩).mpr ⟨_, _, parsed, decoded, ok, rfl, rfl⟩
  have authorised := (revoke_authorised_iff StandIn.keyed_correct [] "card" _ "retired" Cli.StandIn.draws
    noAccident).mpr (by
      intro card seed same key _
      obtain rfl := Except.ok.inj (same.symm.trans parsed)
      obtain rfl := Except.ok.inj (key.symm.trans decoded)
      exact ⟨unbase64_base64 _, by decide⟩)
  obtain ⟨card, same, done⟩ := authorised _ ran
  obtain rfl := Except.ok.inj (same.symm.trans parsed)
  exact ⟨_, ran, done⟩

/-- A card is revoked with the key file of somebody else. -/
theorem revoke_stranger :
    letI := Core.StandIn.parser [("card", StandIn.ownedCard)]
    ¬ ∀ (db : RevocationDb) (cardJson keyPem reason : String) (draws : Draws) (done : Done),
      execute db cardJson keyPem reason draws = .ok done → ∃ card,
        FromStr.fromStr cardJson = .ok card ∧ Authorised card done := by
  let _ := Core.StandIn.parser [("card", StandIn.ownedCard)]
  intro authorised
  have parsed : FromStr.fromStr "card" = Except.ok StandIn.ownedCard :=
    Core.StandIn.parser_head _ _ _
  have decoded := StandIn.decodeKey_owned StandIn.otherSeed
  obtain ⟨entry, ok⟩ := revoke_new []
    (call StandIn.ownedCard StandIn.otherSeed "retired" Cli.StandIn.draws) rfl
  have ran := (execute_iff [] "card" (encodePrivateKeyPem StandIn.otherSeed) "retired" Cli.StandIn.draws
    ⟨_, entry, _⟩).mpr ⟨_, _, parsed, decoded, ok, rfl, rfl⟩
  obtain ⟨card, same, done⟩ := authorised _ _ _ _ _ _ ran
  obtain rfl := Except.ok.inj (same.symm.trans parsed)
  have verified := done.ed25519
  obtain ⟨-, -, -, -, -, signature⟩ := revoke_ok ok
  unfold verifyRevocation at verified
  rw [signature] at verified
  have own := (verify_iff_owner StandIn.keyed_correct
    fun key _ => StandIn.keyed_onlyUnder [key] _ _).mp verified
  have bytes : Core.StandIn.seed.val = StandIn.otherSeed.val :=
    Option.some.inj ((unbase64_base64 _).symm.trans own)
  exact absurd bytes (by decide)

end

end GrokingClawId.Cli.Revoke
