import GrokingClawId.Cli.Rotate
import GrokingClawId.Cli.Verify

/-!
# Lifecycle of an identity

A card is issued and its keys are rotated any number of times, each rotation reading the files
that the command before it wrote. Every file pair on the way holds a card that verifies and the
key that the next rotation asks for.
-/

namespace GrokingClawId.Cli
open GrokingClawId.Core Text

/-- The part of a card that a rotation keeps. -/
structure Identity where
  id : Uuid
  name : String
  owner : String
  scopes : List String
  agentType : AgentType
  parentId : Option Uuid
  spiffeId : Option String
  cryptoScheme : CryptoScheme

def identity (card : AgentCard) : Identity :=
  ⟨card.id, card.name, card.owner, card.scopes, card.agentType, card.parentId, card.spiffeId,
    card.cryptoScheme⟩

section Lifecycle
variable [Ed25519] [MlDsa65] [Chrono]

/-! ### Keys and signatures of one command -/

def withKeys (base : AgentCard) (publicKey : String) (pqPublicKey : Option String)
    (signature : String) (pqSignature : Option String) : AgentCard :=
  { base with publicKey, pqPublicKey, signature, pqSignature }

def KeyMaterial.card (keys : KeyMaterial) (base : AgentCard) : AgentCard :=
  withKeys base keys.publicKey keys.pqPublicKey keys.signature keys.pqSignature

/-- The files hold a signed card and the key that belongs to it. -/
structure Sound (card : AgentCard) (keyPem : String) (seed : Bytes 32) : Prop where
  key : decodeKey card.cryptoScheme keyPem = .ok seed
  owned : card.publicKey = encodePublicKey (Ed25519.verifyingKey seed)
  signed : SignedOver card (cardSigningPayload card) (card.cryptoScheme ≠ .ed25519)

omit [Ed25519] [MlDsa65] in
theorem cardSigningPayload_card (keys : KeyMaterial) (base : AgentCard) :
    cardSigningPayload (keys.card base) =
      cardSigningPayload (withKeys base keys.publicKey keys.pqPublicKey "" none) :=
  cardSigningPayload_congr rfl

omit [Ed25519] [MlDsa65] [Chrono] in
theorem decodeKey_hybrid {scheme : CryptoScheme} (pq : scheme ≠ .ed25519) (seed : Bytes 32)
    (secret : List UInt8) :
    decodeKey scheme (encodeHybridPrivateKeyPem seed secret) = .ok seed := by
  cases scheme with
  | ed25519 => exact absurd rfl pq
  | mlDsa65 => rw [decodeKey, decodeHybridPrivateKeyPem_encode]; rfl
  | hybrid => rw [decodeKey, decodeHybridPrivateKeyPem_encode]; rfl

def edMaterial (card : AgentCard) (seed : Bytes 32) : KeyMaterial where
  publicKey := encodePublicKey (Ed25519.verifyingKey seed)
  pqPublicKey := none
  signature := sign seed (cardSigningPayload card).toUTF8
  pqSignature := none
  keyPem := encodePrivateKeyPem seed

def pqMaterial (card : AgentCard) (seed : Bytes 32) (pair : MlDsaKeyPair) (pqSignature : String) :
    KeyMaterial where
  publicKey := encodePublicKey (Ed25519.verifyingKey seed)
  pqPublicKey := some (encodeMldsaPublicKey pair.publicKeyBytes)
  signature := sign seed (cardSigningPayload card).toUTF8
  pqSignature := some pqSignature
  keyPem := encodeHybridPrivateKeyPem seed pair.secretKeyBytes

theorem generateAndSign_ed25519 {placeholder : String → Option String → Outcome AgentCard}
    {card : AgentCard} {draws : Draws}
    (placed : placeholder (encodePublicKey (Ed25519.verifyingKey draws.seed)) none = .ok card) :
    generateAndSign .ed25519 placeholder draws = .ok (edMaterial card draws.seed) := by
  simp only [generateAndSign, generateKeypair, placed, bind, Except.bind, edMaterial]

theorem generateAndSign_pq {scheme : CryptoScheme} (pq : scheme ≠ .ed25519)
    {placeholder : String → Option String → Outcome AgentCard} {card : AgentCard} {draws : Draws}
    {pair : MlDsaKeyPair} (generated : generateMldsaKeypair draws.keygen = .ok pair)
    (placed : placeholder (encodePublicKey (Ed25519.verifyingKey draws.seed))
      (some (encodeMldsaPublicKey pair.publicKeyBytes)) = .ok card) {pqSig : String}
    (sealed : mldsaSign pair.secretKeyBytes (cardSigningPayload card).toUTF8 draws.signing = .ok pqSig) :
    generateAndSign scheme placeholder draws = .ok (pqMaterial card draws.seed pair pqSig) := by
  cases scheme with
  | ed25519 => exact absurd rfl pq
  | mlDsa65 =>
    simp only [generateAndSign, generateKeypair, generated, placed, sealed, orFault_ok, bind,
      Except.bind, pqMaterial]
  | hybrid =>
    simp only [generateAndSign, generateHybridKeypair, hybridSign, generateKeypair, generated,
      placed, sealed, orFault_ok, bind, Except.bind, pqMaterial]

def edKeys (base : AgentCard) (seed : Bytes 32) : KeyMaterial :=
  edMaterial (withKeys base (encodePublicKey (Ed25519.verifyingKey seed)) none "" none) seed

theorem edKeys_sound (edCorrect : Ed25519.Correct) {base : AgentCard}
    (classical : base.cryptoScheme = .ed25519) (seed : Bytes 32) :
    Sound ((edKeys base seed).card base) (edKeys base seed).keyPem seed := by
  refine ⟨?_, rfl, ?_, fun pq => absurd classical pq⟩
  · show decodeKey base.cryptoScheme (encodePrivateKeyPem seed) = .ok seed
    rw [classical, decodeKey, decodePrivateKeyPem_encode, orFault_ok]
  · rw [cardSigningPayload_card]
    exact verify_sign edCorrect seed _

theorem generateAndSign_ok (edCorrect : Ed25519.Correct) (mldsaCorrect : MlDsa65.Correct)
    (base : AgentCard) (draws : Draws) : ∃ keys, generateAndSign base.cryptoScheme
        (fun publicKey pqPublicKey => .ok (withKeys base publicKey pqPublicKey "" none)) draws =
          .ok keys ∧
      Sound (keys.card base) keys.keyPem draws.seed := by
  by_cases classical : base.cryptoScheme = .ed25519
  · exact ⟨edKeys base draws.seed, classical ▸ generateAndSign_ed25519 rfl,
      edKeys_sound edCorrect classical draws.seed⟩
  · obtain ⟨pair, generated⟩ := generateMldsaKeypair_ok mldsaCorrect draws.keygen
    let blank := withKeys base (encodePublicKey (Ed25519.verifyingKey draws.seed))
      (some (encodeMldsaPublicKey pair.publicKeyBytes)) "" none
    obtain ⟨bytes, sealed, verified⟩ :=
      mldsaVerify_sign mldsaCorrect generated (cardSigningPayload blank).toUTF8 draws.signing
    refine ⟨pqMaterial blank draws.seed pair (base64 bytes),
      generateAndSign_pq classical generated rfl sealed,
      decodeKey_hybrid classical draws.seed pair.secretKeyBytes, rfl, ?_, fun _ => ⟨_, _, rfl, rfl, ?_⟩⟩
    · rw [cardSigningPayload_card]
      exact verify_sign edCorrect draws.seed _
    · rw [cardSigningPayload_card]
      exact verified

/-! ### One command -/

variable [FromStr AgentCard]

def Rotate.base (old : AgentCard) (now expiresAt : DateTime) : AgentCard :=
  { old with issuedAt := now, expiresAt }

theorem Rotate.execute_eq {oldJson oldKeyPem ttl : String} {draws : Draws} {old : AgentCard}
    {seed seed' : Bytes 32} {duration : Int} {expiresAt : DateTime} {keys : KeyMaterial}
    (parsed : FromStr.fromStr oldJson = .ok old) (sound : Sound old oldKeyPem seed)
    (ttlRead : parseTtl ttl = .ok duration)
    (inRange : DateTime.add draws.now duration = .ok expiresAt)
    (generated : generateAndSign old.cryptoScheme (fun publicKey pqPublicKey => .ok
      (withKeys (Rotate.base old draws.now expiresAt) publicKey pqPublicKey "" none)) draws =
        .ok keys)
    (written : Sound (keys.card (Rotate.base old draws.now expiresAt)) keys.keyPem seed') :
    ∃ w, Rotate.execute oldJson oldKeyPem ttl draws = .ok w ∧
      w.card = keys.card (Rotate.base old draws.now expiresAt) ∧
      w.cardJson = w.card.toStringPretty ∧ Sound w.card w.keyPem seed' := by
  have built : ∀ publicKey pqPublicKey signature pqSignature,
      Rotate.buildRotatedCard old publicKey pqPublicKey signature pqSignature draws.now duration =
        .ok (withKeys (Rotate.base old draws.now expiresAt) publicKey pqPublicKey signature pqSignature) := by
    intro publicKey pqPublicKey signature pqSignature
    simp only [Rotate.buildRotatedCard, inRange, bind, Except.bind, withKeys, Rotate.base]
  obtain ⟨audit, ran⟩ : ∃ audit, Rotate.execute oldJson oldKeyPem ttl draws =
      .ok ⟨keys.card (Rotate.base old draws.now expiresAt),
        (keys.card (Rotate.base old draws.now expiresAt)).toStringPretty, keys.keyPem, audit⟩ := by
    simp only [Rotate.execute, parsed, Except.mapError, orFault_ok, sound.key, sound.owned, ttlRead,
      built, generated, ne_eq, not_true_eq_false, if_false, bind, Except.bind]
    exact ⟨_, rfl⟩
  exact ⟨_, ran, rfl, rfl, written⟩

/-- A rotation of files that belong together succeeds, and what it writes belongs together again. -/
theorem rotate_ok (edCorrect : Ed25519.Correct) (mldsaCorrect : MlDsa65.Correct) {w : Written}
    {seed : Bytes 32} (sound : Sound w.card w.keyPem seed)
    (parsed : FromStr.fromStr w.cardJson = .ok w.card) {ttl : String} {draws : Draws}
    (usable : Usable ttl draws.now) : ∃ w', Rotate.execute w.cardJson w.keyPem ttl draws = .ok w' ∧
      Sound w'.card w'.keyPem draws.seed ∧ identity w'.card = identity w.card := by
  obtain ⟨duration, expiresAt, ttlRead, inRange⟩ := usable
  obtain ⟨keys, generated, written⟩ :=
    generateAndSign_ok edCorrect mldsaCorrect (Rotate.base w.card draws.now expiresAt) draws
  obtain ⟨w', ran, card, _, sound'⟩ := Rotate.execute_eq parsed sound ttlRead inRange generated written
  exact ⟨w', ran, sound', by rw [card]; rfl⟩

variable [Unicode]

/-- The card that the arguments of `issue` describe, without keys and signatures. -/
def Issue.Args.base (args : Issue.Args) (draws : Draws) (agentType : AgentType)
    (scheme : CryptoScheme) (expiresAt : DateTime) : AgentCard where
  id := draws.id
  name := args.name
  owner := args.owner
  scopes := args.scopes
  publicKey := ""
  pqPublicKey := none
  signature := ""
  pqSignature := none
  cryptoScheme := scheme
  issuedAt := draws.now
  expiresAt := expiresAt
  agentType := agentType
  parentId := none
  spiffeId := args.trustDomain.map fun td => AgentCard.generateSpiffeId td args.name agentType

omit [FromStr AgentCard] in
theorem Issue.execute_eq {args : Issue.Args} {draws : Draws} {agentType : AgentType}
    {scheme : CryptoScheme} {duration : Int} {expiresAt : DateTime} {keys : KeyMaterial}
    {seed : Bytes 32} (typeRead : AgentType.parse args.agentType = .ok agentType)
    (schemeRead : CryptoScheme.parse args.cryptoScheme = .ok scheme)
    (ttlRead : parseTtl args.ttl = .ok duration)
    (inRange : DateTime.add draws.now duration = .ok expiresAt)
    (generated : generateAndSign scheme (fun publicKey pqPublicKey => .ok
      (withKeys (args.base draws agentType scheme expiresAt) publicKey pqPublicKey "" none)) draws =
        .ok keys)
    (written : Sound (keys.card (args.base draws agentType scheme expiresAt)) keys.keyPem seed) :
    ∃ w, Issue.execute args draws = .ok w ∧
      w.card = keys.card (args.base draws agentType scheme expiresAt) ∧
      w.cardJson = w.card.toStringPretty ∧ Sound w.card w.keyPem seed := by
  have built : ∀ publicKey pqPublicKey signature pqSignature,
      Issue.buildCard draws.id args.name args.owner args.scopes publicKey pqPublicKey signature
        pqSignature scheme
        draws.now duration agentType none (args.trustDomain.map fun td =>
          AgentCard.generateSpiffeId td args.name agentType) =
        .ok (withKeys (args.base draws agentType scheme expiresAt) publicKey pqPublicKey signature
          pqSignature) := by
    intro publicKey pqPublicKey signature pqSignature
    simp only [Issue.buildCard, inRange, bind, Except.bind, withKeys, Issue.Args.base]
  have read : decodeKey scheme keys.keyPem = .ok seed := written.key
  obtain ⟨audit, ran⟩ : ∃ audit, Issue.execute args draws =
      .ok ⟨keys.card (args.base draws agentType scheme expiresAt),
        (keys.card (args.base draws agentType scheme expiresAt)).toStringPretty, keys.keyPem, audit⟩ := by
    simp only [Issue.execute, ttlRead, typeRead, schemeRead, orFault_ok, generated, built, read,
      bind, Except.bind]
    exact ⟨_, rfl⟩
  exact ⟨_, ran, rfl, rfl, written⟩

omit [FromStr AgentCard] in
theorem issue_ok (edCorrect : Ed25519.Correct) (mldsaCorrect : MlDsa65.Correct) {args : Issue.Args}
    {draws : Draws} {agentType : AgentType} {scheme : CryptoScheme}
    (typeRead : AgentType.parse args.agentType = .ok agentType)
    (schemeRead : CryptoScheme.parse args.cryptoScheme = .ok scheme)
    (usable : Usable args.ttl draws.now) :
    ∃ w, Issue.execute args draws = .ok w ∧ Sound w.card w.keyPem draws.seed ∧
      identity w.card = identity (args.base draws agentType scheme 0) := by
  obtain ⟨duration, expiresAt, ttlRead, inRange⟩ := usable
  obtain ⟨keys, generated, written⟩ :=
    generateAndSign_ok edCorrect mldsaCorrect (args.base draws agentType scheme expiresAt) draws
  obtain ⟨w, ran, card, _, sound⟩ := Issue.execute_eq typeRead schemeRead ttlRead inRange generated written
  exact ⟨w, ran, sound, by rw [card]; rfl⟩

/-! ### Runs -/

structure Rotation where
  ttl : String
  draws : Draws

/-- The last files after an `issue` and rotations, each of which reads the files before it. -/
def lifecycle (args : Issue.Args) (draws : Draws) (rotations : List Rotation) :
    Outcome Written := do
  let first ← Issue.execute args draws
  rotations.foldlM (fun w rotation => Rotate.execute w.cardJson w.keyPem rotation.ttl rotation.draws) first

theorem lifecycle_nil (args : Issue.Args) (draws : Draws) :
    lifecycle args draws [] = Issue.execute args draws := by
  simp [lifecycle]

theorem lifecycle_snoc (args : Issue.Args) (draws : Draws) (rotations : List Rotation)
    (rotation : Rotation) :
    lifecycle args draws (rotations ++ [rotation]) = (do
      let w ← lifecycle args draws rotations
      Rotate.execute w.cardJson w.keyPem rotation.ttl rotation.draws) := by
  simp [lifecycle, List.foldlM_append]

/-- Every run succeeds, and its last files belong together and hold the issued identity. -/
theorem lifecycle_sound (edCorrect : Ed25519.Correct) (mldsaCorrect : MlDsa65.Correct)
    {args : Issue.Args} {draws : Draws} {agentType : AgentType} {scheme : CryptoScheme}
    {rotations : List Rotation} (typeRead : AgentType.parse args.agentType = .ok agentType)
    (schemeRead : CryptoScheme.parse args.cryptoScheme = .ok scheme)
    (usable : Usable args.ttl draws.now) (rotatable : ∀ r ∈ rotations, Usable r.ttl r.draws.now)
    (roundTrips : ∀ rs w, rs <+: rotations → lifecycle args draws rs = .ok w →
      FromStr.fromStr w.cardJson = .ok w.card) :
    ∃ w seed, lifecycle args draws rotations = .ok w ∧ Sound w.card w.keyPem seed ∧
      identity w.card = identity (args.base draws agentType scheme 0) := by
  induction rotations using List.reverseRecOn with
  | nil =>
    obtain ⟨w, issued, sound, same⟩ := issue_ok edCorrect mldsaCorrect typeRead schemeRead usable
    exact ⟨w, draws.seed, (lifecycle_nil args draws).trans issued, sound, same⟩
  | append_singleton rotations rotation ih =>
    obtain ⟨w, seed, ran, sound, same⟩ :=
      ih (fun r member => rotatable r (List.mem_append_left _ member))
      fun rs w early => roundTrips rs w (early.trans (List.prefix_append _ _))
    have parsed := roundTrips rotations w (List.prefix_append _ _) ran
    obtain ⟨w', rotated, sound', same'⟩ :=
      rotate_ok edCorrect mldsaCorrect sound parsed (rotatable rotation (by simp))
    exact ⟨w', rotation.draws.seed, by rw [lifecycle_snoc, ran]; exact rotated, sound', same'.trans same⟩

/-- Every card on the way is valid in its window while it is unrevoked, its key file holds its key,
the next rotation succeeds, and the identity stays the issued one. -/
theorem lifecycle_valid (edCorrect : Ed25519.Correct) (mldsaCorrect : MlDsa65.Correct)
    {args : Issue.Args} {draws : Draws} {agentType : AgentType} {scheme : CryptoScheme}
    {rotations : List Rotation} (typeRead : AgentType.parse args.agentType = .ok agentType)
    (schemeRead : CryptoScheme.parse args.cryptoScheme = .ok scheme)
    (usable : Usable args.ttl draws.now) (rotatable : ∀ r ∈ rotations, Usable r.ttl r.draws.now)
    (roundTrips : ∀ rs w, rs <+: rotations → lifecycle args draws rs = .ok w →
      FromStr.fromStr w.cardJson = .ok w.card) :
    ∀ rs, rs <+: rotations → ∃ w, lifecycle args draws rs = .ok w ∧
      (∀ now (registry : Registry), w.card.issuedAt ≤ now → now < w.card.expiresAt →
        registry.lists w.card.id = false → Verify.Accepts w.cardJson now registry) ∧
      (∃ key, decodeKey w.card.cryptoScheme w.keyPem = .ok key ∧
        encodePublicKey (Ed25519.verifyingKey key) = w.card.publicKey) ∧
      (∀ ttl draws', Usable ttl draws'.now →
        ∃ w', Rotate.execute w.cardJson w.keyPem ttl draws' = .ok w') ∧
      identity w.card = identity (args.base draws agentType scheme 0) := by
  intro rs early
  obtain ⟨w, seed, ran, sound, same⟩ := lifecycle_sound edCorrect mldsaCorrect typeRead schemeRead usable
    (fun r member => rotatable r (early.subset member)) fun rs' w' earlier =>
    roundTrips rs' w' (earlier.trans early)
  have parsed := roundTrips rs w early ran
  refine ⟨w, ran, fun now registry start expiry unrevoked => ?_, ⟨seed, sound.key, sound.owned.symm⟩,
    fun ttl draws' next => ?_, same⟩
  · exact (Verify.accepts_iff parsed now registry).mpr ⟨sound.signed, start, expiry, unrevoked⟩
  · obtain ⟨w', rotated, _⟩ := rotate_ok edCorrect mldsaCorrect sound parsed next
    exact ⟨w', rotated⟩

end Lifecycle

section
open scoped StandIn

namespace StandIn

def scout : Issue.Args where
  name := "scout"
  owner := "ops"
  scope := "read,write"
  ttl := "1d"
  agentType := "instance"
  cryptoScheme := "ed25519"
  trustDomain := some "example.org"

def draws : Draws := ⟨0, Uuid.nil, StandIn.seed, 0, 0, 0⟩

def scoutBase : AgentCard := scout.base draws .instance .ed25519 86400000000000

def scoutCard : AgentCard := (edKeys scoutBase StandIn.seed).card scoutBase

theorem scoutCard_sound : Sound scoutCard (edKeys scoutBase StandIn.seed).keyPem StandIn.seed :=
  edKeys_sound Core.StandIn.ed25519_correct rfl StandIn.seed

theorem scout_typeRead : AgentType.parse scout.agentType = .ok .instance := rfl

theorem scout_schemeRead : CryptoScheme.parse scout.cryptoScheme = .ok .ed25519 := rfl

theorem ttlRead_day : parseTtl "1d" = .ok 86400 := by decide

theorem inRange_day : DateTime.add draws.now 86400 = .ok 86400000000000 := rfl

theorem usable_day : Usable "1d" draws.now := ⟨86400, 86400000000000, ttlRead_day, inRange_day⟩

end StandIn

/-- A rotation that draws the same seed at the same moment writes the same card. -/
theorem StandIn.edKeys_again [Ed25519] [Chrono] (base : AgentCard) (seed : Bytes 32)
    {card : AgentCard} (first : (edKeys base seed).card base = card) :
    (edKeys (Rotate.base card base.issuedAt base.expiresAt) seed).card
      (Rotate.base card base.issuedAt base.expiresAt) = card := by
  subst first
  rfl

theorem StandIn.issue_scout :
    ∃ w, Issue.execute StandIn.scout StandIn.draws = .ok w ∧ w.card = StandIn.scoutCard ∧
    w.cardJson = w.card.toStringPretty ∧ Sound w.card w.keyPem StandIn.seed :=
  Issue.execute_eq StandIn.scout_typeRead StandIn.scout_schemeRead StandIn.ttlRead_day StandIn.inRange_day
    (generateAndSign_ed25519 rfl) StandIn.scoutCard_sound

theorem StandIn.rotate_scout [FromStr AgentCard] {w : Written}
    (parsed : FromStr.fromStr w.cardJson = .ok StandIn.scoutCard)
    (sound : Sound StandIn.scoutCard w.keyPem StandIn.seed) :
    ∃ w', Rotate.execute w.cardJson w.keyPem "1d" StandIn.draws = .ok w' ∧
      w'.card = StandIn.scoutCard ∧
      w'.cardJson = w'.card.toStringPretty := by
  obtain ⟨w', rotated, card, json, _⟩ :=
    Rotate.execute_eq parsed sound StandIn.ttlRead_day StandIn.inRange_day
    (generateAndSign_ed25519 rfl) (edKeys_sound Core.StandIn.ed25519_correct rfl StandIn.seed)
  exact ⟨w', rotated, card.trans (StandIn.edKeys_again StandIn.scoutBase StandIn.seed rfl), json⟩

theorem StandIn.scout_files [FromStr AgentCard]
    (parses : FromStr.fromStr StandIn.scoutCard.toStringPretty = .ok StandIn.scoutCard) :
    ∀ rs, rs <+: [⟨"1d", StandIn.draws⟩] → ∃ w, lifecycle StandIn.scout StandIn.draws rs = .ok w ∧
      w.card = StandIn.scoutCard ∧ w.cardJson = w.card.toStringPretty := by
  intro rs early
  obtain ⟨first, issued, card, json, sound⟩ := StandIn.issue_scout
  rcases List.prefix_cons_iff.mp early with rfl | ⟨rest, rfl, last⟩
  · exact ⟨first, (lifecycle_nil _ _).trans issued, card, json⟩
  · obtain rfl := List.prefix_nil.mp last
    rw [card] at json sound
    obtain ⟨w, rotated, card', json'⟩ := StandIn.rotate_scout (w := first) (json ▸ parses) sound
    refine ⟨w, ?_, card', json'⟩
    rw [← List.nil_append [_], lifecycle_snoc, lifecycle_nil, issued]
    exact rotated

theorem lifecycle_valid_scout :
    letI := StandIn.parser [(StandIn.scoutCard.toStringPretty, StandIn.scoutCard)]
    ∃ w, lifecycle StandIn.scout StandIn.draws [⟨"1d", StandIn.draws⟩] = .ok w ∧
      Verify.Accepts w.cardJson 1 (.readable []) ∧
      (∃ key, decodeKey w.card.cryptoScheme w.keyPem = .ok key ∧
        encodePublicKey (Ed25519.verifyingKey key) = w.card.publicKey) ∧
      (∃ w', Rotate.execute w.cardJson w.keyPem "1d" StandIn.draws = .ok w') ∧
      identity w.card = identity (StandIn.scout.base StandIn.draws .instance .ed25519 0) := by
  let _ := StandIn.parser [(StandIn.scoutCard.toStringPretty, StandIn.scoutCard)]
  have parses : FromStr.fromStr StandIn.scoutCard.toStringPretty = .ok StandIn.scoutCard :=
    StandIn.parser_head _ _ _
  have rotatable : ∀ r ∈ [(⟨"1d", StandIn.draws⟩ : Rotation)], Usable r.ttl r.draws.now := by
    intro r member
    rw [List.mem_singleton.mp member]
    exact StandIn.usable_day
  have files := StandIn.scout_files parses
  have roundTrips : ∀ rs w, rs <+: [⟨"1d", StandIn.draws⟩] →
      lifecycle StandIn.scout StandIn.draws rs = .ok w →
      FromStr.fromStr w.cardJson = .ok w.card := by
    intro rs w early ran
    obtain ⟨w', ran', card, json⟩ := files rs early
    obtain rfl := Except.ok.inj (ran'.symm.trans ran)
    rw [json, card]
    exact parses
  have valid := lifecycle_valid Core.StandIn.ed25519_correct Core.StandIn.mlDsa65_correct
      StandIn.scout_typeRead
    StandIn.scout_schemeRead StandIn.usable_day rotatable roundTrips
  obtain ⟨w, ran, accepted, key, rotates, same⟩ := valid _ (List.prefix_refl _)
  obtain ⟨w', ran', card, _⟩ := files _ (List.prefix_refl _)
  obtain rfl := Except.ok.inj (ran'.symm.trans ran)
  have window : w'.card.issuedAt ≤ 1 ∧ 1 < w'.card.expiresAt := by
    rw [card]
    decide
  exact ⟨w', ran, accepted 1 (.readable []) window.1 window.2 rfl, key,
    rotates "1d" StandIn.draws StandIn.usable_day, same⟩

end

end GrokingClawId.Cli
