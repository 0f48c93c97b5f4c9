import GrokingClawId.Cli.Lifecycle

/-!
# Delegating

`delegate.rs`: a token for a sub-agent with scopes of its parent's and a TTL inside its parent's.
The parent card is taken from a file; what is checked of it is its key. File errors and the
printed summary are left out.
-/

namespace GrokingClawId.Cli.Delegate
open GrokingClawId.Core Text

section Delegate
variable [Ed25519] [MlDsa65] [Chrono]

def buildToken (id parentId : Uuid) (agentName : String) (scopes : List String)
    (issuedAt expiresAt : DateTime) (signature : String) (pqSignature : Option String)
    (cryptoScheme : CryptoScheme) : DelegationToken :=
  { id, parentId, agentName, scopes, issuedAt, expiresAt, signature, pqSignature, cryptoScheme }

/-- The token with both signatures cleared, in the order of the struct. -/
def tokenSigningPayload (token : DelegationToken) : String :=
  Json.render { token with signature := "", pqSignature := none }.toValue

def requestedScopes (scope : String) : List String :=
  (scope.toList.splitOn ',').map fun s => String.ofList (trim s)

def mismatch : Fault := .error "Private key does not match the public key in the agent card"

/-- The signatures over a token, and the Ed25519 key that made one of them. -/
def signToken (parent : AgentCard) (keyPem : String) (token : DelegationToken) (signing : Nat) :
    Outcome (String × Option String × Bytes 32) :=
  match parent.cryptoScheme with
  | .ed25519 => do
    let edKey ← orFault (decodePrivateKeyPem keyPem.toList)
    let derivedPub := encodePublicKey (Ed25519.verifyingKey edKey)
    if derivedPub ≠ parent.publicKey then .error mismatch
    else
      let payload := tokenSigningPayload token
      .ok (sign edKey payload.toUTF8, none, edKey)
  | .mlDsa65 | .hybrid => do
    let (edKey, mldsaKey) ← decodeHybridPrivateKeyPem keyPem.toList
    let derivedPub := encodePublicKey (Ed25519.verifyingKey edKey)
    if derivedPub ≠ parent.publicKey then .error mismatch
    else
      let payload := tokenSigningPayload token
      let edSig := sign edKey payload.toUTF8
      let pqSig ← orFault (mldsaSign mldsaKey payload.toUTF8 signing)
      .ok (edSig, some pqSig, edKey)

structure Args where
  cardPath : String
  toName : String
  scope : String
  ttl : String

structure Written where
  token : DelegationToken
  tokenJson : String
  audit : RecordCall

variable [FromStr AgentCard]

def execute (args : Args) (cardJson keyPem : String) (draws : Draws) : Outcome Written := do
  let parent ← orFault ((FromStr.fromStr cardJson : Except String AgentCard).mapError fun _ =>
    s!"Failed to parse card: {args.cardPath}")
  let scopes := requestedScopes args.scope
  match scopes.find? fun s => decide (s ∉ parent.scopes) with
  | some s =>
    let has := ", ".intercalate parent.scopes
    .error (.error s!"Cannot delegate scope '{s}' — parent only has: [{has}]")
  | none =>
    let duration ← parseTtl args.ttl
    let now := draws.now
    let expiresAt ← DateTime.add now duration
    if parent.expiresAt < expiresAt then
      let would := Chrono.toRfc3339 expiresAt
      .error (.error s!"Delegation TTL ({would}) would expire after parent ({Chrono.toRfc3339 parent.expiresAt}). Must be shorter.")
    else
      let blank := buildToken draws.id parent.id args.toName scopes now expiresAt "" none parent.cryptoScheme
      let (signature, pqSignature, edSigningKey) ← signToken parent keyPem blank draws.signing
      let token := { blank with signature, pqSignature }
      .ok { token := token
            tokenJson := token.toStringPretty
            audit := { agentId := parent.id, action := "delegate", target := s!"delegate:{args.toName}",
                       signingKey := edSigningKey, timestamp := draws.auditTimestamp } }

/-! ### What the command checks -/

/-- The command writes this token, but for its signatures. -/
structure Permitted (args : Args) (parent : AgentCard) (keyPem : String) (draws : Draws)
    (blank : DelegationToken) : Prop where
  scopes : ∀ s ∈ requestedScopes args.scope, s ∈ parent.scopes
  expiry : ∃ duration expiresAt, parseTtl args.ttl = .ok duration ∧
    DateTime.add draws.now duration = .ok expiresAt ∧ expiresAt ≤ parent.expiresAt ∧
    blank = buildToken draws.id parent.id args.toName (requestedScopes args.scope) draws.now
      expiresAt "" none parent.cryptoScheme
  signs : ∃ signed, signToken parent keyPem blank draws.signing = .ok signed

omit [FromStr AgentCard] in
theorem signToken_key {parent : AgentCard} {keyPem : String} {token : DelegationToken}
    {signing : Nat} {signature : String} {pqSignature : Option String} {key : Bytes 32}
    (signed : signToken parent keyPem token signing = .ok (signature, pqSignature, key)) :
    decodeKey parent.cryptoScheme keyPem = .ok key ∧
      encodePublicKey (Ed25519.verifyingKey key) = parent.publicKey := by
  unfold signToken at signed
  cases scheme : parent.cryptoScheme with
  | ed25519 =>
    rw [scheme] at signed
    obtain ⟨edKey, decoded, signed⟩ := bind_ok signed
    by_cases own : encodePublicKey (Ed25519.verifyingKey edKey) = parent.publicKey
    · simp only [own, ne_eq, not_true_eq_false, if_false, Except.ok.injEq, Prod.mk.injEq] at signed
      obtain ⟨-, -, rfl⟩ := signed
      exact ⟨decoded, own⟩
    · simp only [own, ne_eq, not_false_eq_true, if_true, reduceCtorEq] at signed
  | mlDsa65 | hybrid =>
    rw [scheme] at signed
    obtain ⟨⟨edKey, mldsaKey⟩, decoded, signed⟩ := bind_ok signed
    by_cases own : encodePublicKey (Ed25519.verifyingKey edKey) = parent.publicKey
    · simp only [own, ne_eq, not_true_eq_false, if_false] at signed
      obtain ⟨pqSig, -, signed⟩ := bind_ok signed
      obtain ⟨-, -, rfl⟩ := Prod.mk.inj (Except.ok.inj signed)
      unfold decodeKey
      rw [decoded]
      exact ⟨rfl, own⟩
    · simp only [own, ne_eq, not_false_eq_true, if_true, reduceCtorEq] at signed

theorem execute_ok {args : Args} {cardJson keyPem : String} {draws : Draws} {parent : AgentCard}
    (parsed : FromStr.fromStr cardJson = .ok parent) {written : Written}
    (ran : execute args cardJson keyPem draws = .ok written) :
    ∃ blank signature pqSignature, Permitted args parent keyPem draws blank ∧
      written.token = { blank with signature, pqSignature } := by
  unfold execute at ran
  rw [parsed] at ran
  obtain ⟨found, same, ran⟩ := bind_ok ran
  obtain rfl : parent = found := Except.ok.inj same
  cases narrower : (requestedScopes args.scope).find? fun s => decide (s ∉ parent.scopes) with
  | some s => simp only [narrower, reduceCtorEq] at ran
  | none =>
    simp only [narrower] at ran
    obtain ⟨duration, ttlRead, ran⟩ := bind_ok ran
    obtain ⟨expiresAt, inRange, ran⟩ := bind_ok ran
    by_cases beyond : parent.expiresAt < expiresAt
    · simp only [beyond, if_true, reduceCtorEq] at ran
    · simp only [beyond, if_false] at ran
      obtain ⟨⟨signature, pqSignature, key⟩, signed, ran⟩ := bind_ok ran
      obtain rfl := Except.ok.inj ran
      refine ⟨_, signature, pqSignature, ⟨?_, ?_, _, signed⟩, rfl⟩
      · simpa using narrower
      · exact ⟨duration, expiresAt, ttlRead, inRange, not_lt.mp beyond, rfl⟩

theorem execute_permitted {args : Args} {cardJson keyPem : String} {draws : Draws}
    {parent : AgentCard} (parsed : FromStr.fromStr cardJson = .ok parent) {blank : DelegationToken}
    (permitted : Permitted args parent keyPem draws blank) :
    ∃ written, execute args cardJson keyPem draws = .ok written := by
  obtain ⟨scopes, ⟨duration, expiresAt, ttlRead, inRange, inside, rfl⟩,
    ⟨signature, pqSignature, key⟩, signed⟩ :=
    permitted
  have narrower : (requestedScopes args.scope).find? (fun s => decide (s ∉ parent.scopes)) =
      none := by
    simpa using scopes
  simp only [execute, parsed, Except.mapError, orFault_ok, narrower, ttlRead, inRange,
    not_lt.mpr inside, if_false, signed, bind, Except.bind]
  exact ⟨_, rfl⟩

/-! ### What the command should check -/

/-- A token of a parent that is valid itself. -/
structure Valid (parent : AgentCard) (keyPem : String) (now : DateTime) (registry : Registry)
    (token : DelegationToken) : Prop where
  signed : SignedOver parent (cardSigningPayload parent) (parent.cryptoScheme ≠ .ed25519)
  unexpired : now < parent.expiresAt
  unrevoked : registry.lists parent.id = false
  key : ∃ key, decodeKey parent.cryptoScheme keyPem = .ok key ∧
    encodePublicKey (Ed25519.verifyingKey key) = parent.publicKey
  scopes : ∀ s ∈ token.scopes, s ∈ parent.scopes
  lasts : token.issuedAt < token.expiresAt
  inside : token.expiresAt ≤ parent.expiresAt

omit [Ed25519] [MlDsa65] [Chrono] [FromStr AgentCard] in
theorem add_later {now t : DateTime} {duration : Int}
    (inRange : DateTime.add now duration = .ok t) :
    now < t ↔ 0 < duration := by
  unfold DateTime.add at inRange
  by_cases inside : DateTime.min ≤ now + duration * DateTime.nanosPerSecond ∧
      now + duration * DateTime.nanosPerSecond ≤ DateTime.max
  · simp only [inside, and_self, if_true, Except.ok.injEq] at inRange
    subst inRange
    have scaled : ∀ a d : Int, a < a + d * 1000000000 ↔ 0 < d := by
      intro a d
      omega
    exact scaled now duration
  · simp only [inside, if_false, reduceCtorEq] at inRange

/-- Whatever the command writes is valid exactly when it refuses, or the parent is signed and not
revoked and the TTL is positive. -/
theorem delegate_valid_iff (args : Args) (cardJson keyPem : String) (draws : Draws)
    (registry : Registry) :
    (∀ written, execute args cardJson keyPem draws = .ok written → ∃ parent,
      FromStr.fromStr cardJson = .ok parent ∧
        Valid parent keyPem draws.now registry written.token) ↔
    ∀ parent blank, FromStr.fromStr cardJson = .ok parent →
      Permitted args parent keyPem draws blank →
      SignedOver parent (cardSigningPayload parent) (parent.cryptoScheme ≠ .ed25519) ∧
        registry.lists parent.id = false ∧ ∀ duration, parseTtl args.ttl = .ok duration →
        0 < duration := by
  constructor
  · intro valid parent blank parsed permitted
    obtain ⟨written, ran⟩ := execute_permitted parsed permitted
    obtain ⟨found, same, token⟩ := valid written ran
    obtain rfl : found = parent := Except.ok.inj (same.symm.trans parsed)
    refine ⟨token.signed, token.unrevoked, ?_⟩
    intro duration ttlRead
    obtain ⟨written', _, _, ⟨_, ⟨duration', expiresAt, ttlRead', inRange, _, rfl⟩, _⟩, made⟩ :=
      execute_ok parsed ran
    obtain rfl := Except.ok.inj (ttlRead.symm.trans ttlRead')
    have lasts := token.lasts
    rw [made] at lasts
    exact (add_later inRange).mp lasts
  · intro trusted written ran
    cases parsed : (FromStr.fromStr cardJson : Except String AgentCard) with
    | error e =>
      unfold execute at ran
      rw [parsed] at ran
      cases ran
    | ok parent =>
      obtain ⟨blank, signature, pqSignature, permitted, made⟩ := execute_ok parsed ran
      obtain ⟨signed, unrevoked, positive⟩ := trusted parent blank parsed permitted
      obtain ⟨scopes, ⟨duration, expiresAt, ttlRead, inRange, inside, rfl⟩, ⟨_, _, key⟩, signs⟩ :=
        permitted
      have later := (add_later inRange).mpr (positive duration ttlRead)
      refine ⟨parent, rfl, ?_⟩
      rw [made]
      exact { signed := signed
              unexpired := lt_of_lt_of_le later inside
              unrevoked := unrevoked
              key := ⟨key, signToken_key signs⟩
              scopes := scopes
              lasts := later
              inside := inside }

end Delegate

section
open scoped StandIn

/-- A card file with its signature deleted. -/
def unsignedScout : AgentCard := { Cli.StandIn.scoutCard with signature := "" }

def readOnly : Args where
  cardPath := "agent-card.json"
  toName := "helper"
  scope := "read"
  ttl := "1h"

/-- A token is written for a card that nobody signed. -/
theorem delegate_unsigned :
    letI := StandIn.parser [("card", unsignedScout)]
    ¬ ∀ (args : Args) (cardJson keyPem : String) (draws : Draws) (registry : Registry)
      (written : Written),
      execute args cardJson keyPem draws = .ok written →
        ∃ parent, FromStr.fromStr cardJson = .ok parent ∧
          Valid parent keyPem draws.now registry written.token := by
  let _ := StandIn.parser [("card", unsignedScout)]
  intro valid
  have parsed : FromStr.fromStr "card" = Except.ok unsignedScout := StandIn.parser_head _ _ _
  let blank := buildToken Uuid.nil unsignedScout.id "helper" ["read"] 0 3600000000000 "" none .ed25519
  let keyPem := (edKeys Cli.StandIn.scoutBase StandIn.seed).keyPem
  have signs : signToken unsignedScout keyPem blank 0 =
      .ok (sign StandIn.seed (tokenSigningPayload blank).toUTF8, none, StandIn.seed) := by
    have own : encodePublicKey (Ed25519.verifyingKey StandIn.seed) = unsignedScout.publicKey := rfl
    have decoded := decodePrivateKeyPem_encode StandIn.seed
    show signToken unsignedScout (encodePrivateKeyPem StandIn.seed) blank 0 = _
    unfold signToken
    simp only [show unsignedScout.cryptoScheme = .ed25519 from rfl, decoded, orFault_ok, own, ne_eq,
      not_true_eq_false, if_false, bind, Except.bind]
  have permitted : Permitted readOnly unsignedScout keyPem Cli.StandIn.draws blank := by
    refine ⟨by decide, ⟨3600, 3600000000000, by decide, rfl, by decide, ?_⟩, _, signs⟩
    have scopes : requestedScopes readOnly.scope = ["read"] := by decide
    rw [scopes]
    rfl
  obtain ⟨written, ran⟩ := execute_permitted parsed permitted
  obtain ⟨parent, same, token⟩ := valid _ _ _ _ (.readable []) written ran
  obtain rfl : parent = unsignedScout := Except.ok.inj (same.symm.trans parsed)
  exact token.signed.signature_ne_empty rfl

end

end GrokingClawId.Cli.Delegate
