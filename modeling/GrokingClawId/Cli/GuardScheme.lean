import GrokingClawId.Cli.GuardAgreement

/-!
# The scheme of a card at the guard

When an authentication rests on the ML-DSA signature of a card whose scheme has one. The guard asks
for it when it is told to, and of hybrid cards; of cards with the scheme `ml-dsa-65` it asks for the
Ed25519 signature alone, where `verify` asks for both.
-/

namespace GrokingClawId.Cli.Guard
open GrokingClawId.Core Text

section Scheme
variable [Ed25519] [MlDsa65] [Chrono]

/-- The card has an ML-DSA key and a signature that verifies over what the guard writes. -/
def PqSigned (card : AgentCard) : Prop :=
  ∃ pqPub pqSig, card.pqPublicKey = some pqPub ∧ card.pqSignature = some pqSig ∧
    mldsaVerify pqPub (guardPayload card).toUTF8 pqSig = .ok true

/-- An ML-DSA card without its ML-DSA signature that meets everything else a lenient guard asks. -/
structure ClassicalOnly (state : GuardState) (card : AgentCard) (moment : Moment) : Prop where
  lenient : state.requirePq = false
  scheme : card.cryptoScheme = .mlDsa65
  unlimited : ∃ fresh, state.rateLimit moment.instant = .ok fresh
  ed25519 : verify card.publicKey (guardPayload card).toUTF8 card.signature = .ok true
  unsigned : ¬ PqSigned card
  unexpired : moment.now < card.expiresAt
  unrevoked : moment.registry.lists card.id = false
  covered : ∀ required ∈ state.allowedScopes, ∃ s ∈ card.scopes, s = required ∨ s = "*" ∨ s = "admin"

variable [Unicode] [FromStr AgentCard]

/-- An attempt succeeds exactly when the rate limit lets it through and the card is admitted. -/
theorem handleAuthenticate_iff {state : GuardState} {request : JsonRpcRequest} {card : AgentCard}
    (presented : presentedCard request = .ok card) (moment : Moment) :
    (handleAuthenticate state request moment).2.error = none ↔
      (∃ fresh, state.rateLimit moment.instant = .ok fresh) ∧
        Admitted state.requirePq state.allowedScopes card moment := by
  unfold handleAuthenticate
  cases limited : state.rateLimit moment.instant with
  | error wait => simp [errorResponse]
  | ok fresh =>
    obtain ⟨failures, last, same⟩ := rateLimit_ok limited
    have fields : fresh.requirePq = state.requirePq ∧
        fresh.allowedScopes = state.allowedScopes := by
      rw [same]
      exact ⟨rfl, rfl⟩
    rw [← fields.1, ← fields.2]
    dsimp only
    cases attempted : attempt fresh request moment with
    | error rejection =>
      have refused : ¬ Admitted fresh.requirePq fresh.allowedScopes card moment := by
        intro admitted
        have passes := (attempt_iff fresh request moment card).mpr ⟨presented, admitted⟩
        rw [attempted] at passes
        cases passes
      simp [errorResponse, refused]
    | ok found =>
      obtain ⟨again, admitted⟩ := (attempt_iff fresh request moment found).mp attempted
      obtain rfl := Except.ok.inj (again.symm.trans presented)
      simp [authenticatedResponse, admitted]

/-- An attempt with a post-quantum card rests on its ML-DSA signature exactly when it is not one of
an ML-DSA card that has nothing but its Ed25519 signature. -/
theorem authenticate_honours_iff (state : GuardState) (request : JsonRpcRequest) (moment : Moment) :
    (∀ card, presentedCard request = .ok card → card.cryptoScheme ≠ .ed25519 →
      (handleAuthenticate state request moment).2.error = none → PqSigned card) ↔
    ∀ card, presentedCard request = .ok card → ¬ ClassicalOnly state card moment := by
  constructor
  · intro honours card presented slips
    have notAsked : ¬ (state.requirePq = true ∨ card.cryptoScheme = .hybrid) := by
      simp [slips.lenient, slips.scheme]
    have admitted : Admitted state.requirePq state.allowedScopes card moment :=
      ⟨⟨slips.ed25519, fun asked => absurd asked notAsked⟩, slips.unexpired, slips.unrevoked, slips.covered⟩
    have answered := (handleAuthenticate_iff presented moment).mpr ⟨slips.unlimited, admitted⟩
    exact slips.unsigned (honours card presented (by simp [slips.scheme]) answered)
  · intro never card presented scheme answered
    obtain ⟨unlimited, admitted⟩ := (handleAuthenticate_iff presented moment).mp answered
    obtain ⟨⟨ed25519, mldsa⟩, unexpired, unrevoked, covered⟩ := admitted
    by_cases asked : state.requirePq = true ∨ card.cryptoScheme = .hybrid
    · exact mldsa asked
    · by_cases signed : PqSigned card
      · exact signed
      · rw [not_or, Bool.not_eq_true] at asked
        have only : card.cryptoScheme = .mlDsa65 := by
          cases other : card.cryptoScheme with
          | ed25519 => exact absurd other scheme
          | mlDsa65 => rfl
          | hybrid => exact absurd other asked.2
        exact absurd ⟨asked.1, only, unlimited, ed25519, signed, unexpired, unrevoked, covered⟩
          (never card presented)

variable [FromStr JsonRpcRequest]

/-- A session is never held by a card without its ML-DSA signature, where the guard is told to ask
for it or the card is hybrid. -/
theorem run_pqSigned (config : Config) (inputs : List Input) {card : AgentCard}
    (held : (run config inputs).agentCard = some card)
    (asked : config.requirePq = true ∨ card.cryptoScheme = .hybrid) : PqSigned card := by
  obtain ⟨_, _, _, _, _, admitted⟩ := run_held config inputs held
  exact admitted.signed.mldsa asked

end Scheme

section
open scoped Core.StandIn

def StandIn.blankDilithium : AgentCard := { StandIn.blankVisitor with cryptoScheme := .mlDsa65 }

/-- An ML-DSA card signed with Ed25519. -/
def StandIn.dilithium : AgentCard :=
  { StandIn.blankDilithium with
    signature := sign Core.StandIn.seed (guardPayload StandIn.blankDilithium).toUTF8 }

scoped instance StandIn.DilithiumFile.cards : FromStr AgentCard :=
  Core.StandIn.parser [(StandIn.dilithium.toStringPretty, StandIn.dilithium)]

open scoped StandIn.DilithiumFile

/-- An ML-DSA card is authenticated without any ML-DSA key. -/
theorem authenticate_classical :
    ¬ ∀ (state : GuardState) (request : JsonRpcRequest) (moment : Moment) (card : AgentCard),
      presentedCard request = .ok card → card.cryptoScheme ≠ .ed25519 →
      (handleAuthenticate state request moment).2.error = none → PqSigned card := by
  intro honours
  have read : FromStr.fromStr StandIn.dilithium.toStringPretty = .ok StandIn.dilithium :=
    Core.StandIn.parser_head _ _ _
  have presented := StandIn.presentedCard_present read
  have signed : verify StandIn.dilithium.publicKey (guardPayload StandIn.dilithium).toUTF8
      StandIn.dilithium.signature = .ok true :=
    verify_sign Core.StandIn.ed25519_correct Core.StandIn.seed (guardPayload StandIn.blankDilithium).toUTF8
  have notAsked : ¬ (false = true ∨ StandIn.dilithium.cryptoScheme = .hybrid) := by decide
  have admitted : Admitted false ["read"] StandIn.dilithium StandIn.moment :=
    ⟨⟨signed, fun asked => absurd asked notAsked⟩, by decide, rfl, by decide⟩
  have answered := (handleAuthenticate_new presented StandIn.moment).mpr admitted
  obtain ⟨_, _, key, _⟩ := honours _ _ StandIn.moment StandIn.dilithium presented (by decide) answered
  cases key

end

end GrokingClawId.Cli.Guard
