import GrokingClawId.Cli.GuardSession
import GrokingClawId.Cli.Lifecycle

/-!
# The guard and `verify`

The two verifiers of a card write it differently before they verify its signature: the guard in
the order of the struct, `verify` with sorted keys. A signature over one of the texts is none
over the other, so the verifiers agree only on cards that neither accepts.
-/

namespace GrokingClawId.Cli.Guard
open GrokingClawId.Core Text

/-! ### The two payloads -/

section Payloads
variable [Chrono]

omit [Chrono] in
theorem bytes_append (a b : String) :
    (a ++ b).toUTF8.data.toList = a.toUTF8.data.toList ++ b.toUTF8.data.toList := by
  simp [String.toUTF8]

theorem guardPayload_bytes (card : AgentCard) :
    ∃ rest, (guardPayload card).toUTF8.data.toList = 123 :: 34 :: 105 :: rest := by
  obtain ⟨rest, text⟩ := render_toValue_first card.unsigned
  have start : "\x7b" ++ Json.quote "id" = "\x7b\"id\"" := by decide
  have bytes : "\x7b\"id\"".toUTF8.data.toList = [123, 34, 105, 100, 34] := by decide
  rw [guardPayload, text, ← String.append_assoc, start, bytes_append, bytes]
  exact ⟨_, rfl⟩

theorem cardSigningPayload_bytes (card : AgentCard) :
    ∃ rest, (cardSigningPayload card).toUTF8.data.toList = 123 :: 34 :: 97 :: rest := by
  obtain ⟨rest, text⟩ := cardSigningPayload_first card
  have start : "\x7b" ++ Json.quote "agent_type" = "\x7b\"agent_type\"" := by decide
  have bytes : "\x7b\"agent_type\"".toUTF8.data.toList =
      [123, 34, 97, 103, 101, 110, 116, 95, 116, 121, 112, 101, 34] := by decide
  rw [text, ← String.append_assoc, start, bytes_append, bytes]
  exact ⟨_, rfl⟩

theorem payloads_ne (card : AgentCard) :
    (guardPayload card).toUTF8 ≠ (cardSigningPayload card).toUTF8 := by
  obtain ⟨rest, guard⟩ := guardPayload_bytes card
  obtain ⟨rest', canonical⟩ := cardSigningPayload_bytes card
  intro same
  rw [same, canonical] at guard
  cases guard

end Payloads

/-! ### Acceptance -/

section Agreement
variable [Ed25519] [MlDsa65] [Chrono]

def payloads (card : AgentCard) : List ByteArray :=
  [(guardPayload card).toUTF8, (cardSigningPayload card).toUTF8]

theorem not_signed_both {card : AgentCard} (binding : Ed25519.BindingKey card.publicKey (payloads card))
    {pq pq' : Prop} (guard : SignedOver card (guardPayload card) pq) :
    ¬ SignedOver card (cardSigningPayload card) pq' :=
  fun canonical => payloads_ne card
    (verify_binding binding (by simp [payloads]) (by simp [payloads]) guard.ed25519 canonical.ed25519)

/-- The card is unexpired and unrevoked, and signed over either text: over the struct-ordered one as
the guard asks for it, or over the canonical one as `verify` asks for it, its window begun. -/
def Contested (card : AgentCard) (moment : Moment) : Prop :=
  moment.now < card.expiresAt ∧ moment.registry.lists card.id = false ∧
    (SignedOver card (guardPayload card) (card.cryptoScheme = .hybrid) ∨
      (SignedOver card (cardSigningPayload card) (card.cryptoScheme ≠ .ed25519) ∧ card.issuedAt ≤ moment.now))

variable [Unicode] [FromStr AgentCard]

/-- A new session accepts exactly the cards that are to be admitted. -/
theorem handleAuthenticate_new {scopes : List String} {requirePq : Bool} {request : JsonRpcRequest}
    {card : AgentCard} (presented : presentedCard request = .ok card) (moment : Moment) :
    (handleAuthenticate (.new scopes requirePq) request moment).2.error = none ↔
      Admitted requirePq scopes card moment := by
  constructor
  · intro answered
    rcases handleAuthenticate_cases (.new scopes requirePq) request moment with
      ⟨failed, _⟩ | ⟨found, same, admitted, _⟩
    · exact absurd answered failed
    · obtain rfl := Except.ok.inj (same.symm.trans presented)
      exact admitted
  · intro admitted
    rw [handleAuthenticate_accepts (show 0 < 10 by decide) presented admitted]
    rfl

/-- The guard turns away every card that `issue` or `rotate` wrote. -/
theorem guard_rejects_sound {request : JsonRpcRequest} {card : AgentCard} {keyPem : String}
    {seed : Bytes 32} (sound : Sound card keyPem seed)
    (presented : presentedCard request = .ok card)
    (binding : Ed25519.BindingKey card.publicKey (payloads card))
    (scopes : List String) (requirePq : Bool) (moment : Moment) :
    (handleAuthenticate (.new scopes requirePq) request moment).2.error ≠ none := by
  intro answered
  have admitted := (handleAuthenticate_new presented moment).mp answered
  exact not_signed_both binding admitted.signed sound.signed

/-- The guard and `verify` agree on a card with the required scopes exactly when it is not
contested. -/
theorem guard_agrees_iff {request : JsonRpcRequest} {cardJson : String} {card : AgentCard}
    {scopes : List String} {moment : Moment} (presented : presentedCard request = .ok card)
    (filed : FromStr.fromStr cardJson = .ok card)
    (held : ∀ required ∈ scopes, hasScope card required = true)
    (binding : Ed25519.BindingKey card.publicKey (payloads card)) :
    ((handleAuthenticate (.new scopes false) request moment).2.error = none ↔
      Verify.Accepts cardJson moment.now moment.registry) ↔ ¬ Contested card moment := by
  rw [handleAuthenticate_new presented, Verify.accepts_iff filed]
  have asked : (false = true ∨ card.cryptoScheme = .hybrid) =
      (card.cryptoScheme = .hybrid) := by simp
  constructor
  · rintro agree ⟨unexpired, unrevoked, guard | ⟨canonical, begun⟩⟩
    · have admitted : Admitted false scopes card moment :=
        ⟨by rw [asked]; exact guard, unexpired, unrevoked, fun required member =>
          (hasScope_iff card required).mp (held required member)⟩
      exact not_signed_both binding guard (agree.mp admitted).1
    · have admitted := agree.mpr ⟨canonical, begun, unexpired, unrevoked⟩
      exact not_signed_both binding admitted.signed canonical
  · intro peace
    constructor
    · rintro ⟨guard, unexpired, unrevoked, _⟩
      rw [asked] at guard
      exact absurd ⟨unexpired, unrevoked, .inl guard⟩ peace
    · rintro ⟨canonical, begun, unexpired, unrevoked⟩
      exact absurd ⟨unexpired, unrevoked, .inr ⟨canonical, begun⟩⟩ peace

end Agreement

section
open scoped Core.StandIn

namespace StandIn

theorem binding (card : AgentCard) : Ed25519.BindingKey card.publicKey (payloads card) := by
  obtain ⟨rest, guard⟩ := guardPayload_bytes card
  obtain ⟨rest', canonical⟩ := cardSigningPayload_bytes card
  have apart : (guardPayload card).toUTF8.data.toList.takeD 64 0 ≠
      (cardSigningPayload card).toUTF8.data.toList.takeD 64 0 := by
    rw [guard, canonical]
    intro same
    cases same
  intro key _ signature message member message' member' verified verified'
  have signs : signature.val = message.data.toList.takeD 64 0 := of_decide_eq_true verified
  have signs' : signature.val = message'.data.toList.takeD 64 0 := of_decide_eq_true verified'
  rw [signs] at signs'
  simp only [payloads, List.mem_cons, List.not_mem_nil, or_false] at member member'
  rcases member with rfl | rfl <;> rcases member' with rfl | rfl
  · rfl
  · exact absurd signs' apart
  · exact absurd signs'.symm apart
  · rfl

def present (cardJson : String) : JsonRpcRequest where
  jsonrpc := "2.0"
  id := .num "1"
  method := "tools/call"
  params := .obj [("arguments", .obj [("agent_card", .str cardJson)]), ("name", .str "clawid_authenticate")]

theorem presentedCard_present [FromStr AgentCard] {cardJson : String} {card : AgentCard}
    (read : FromStr.fromStr cardJson = .ok card) : presentedCard (present cardJson) = .ok card := by
  have text : (present cardJson).agentCard = some cardJson := rfl
  simp only [presentedCard, text, read]

end StandIn

theorem StandIn.scout_held :
    ∀ required ∈ ["read"], hasScope Cli.StandIn.scoutCard required = true := by
  have scopes : Cli.StandIn.scoutCard.scopes = ["read", "write"] := by
    show Cli.StandIn.scout.scopes = _
    decide
  intro required member
  rw [List.mem_singleton.mp member, hasScope_iff, scopes]
  exact ⟨"read", by simp, .inl rfl⟩

scoped instance StandIn.ScoutFile.cards : FromStr AgentCard :=
  Core.StandIn.parser [(Cli.StandIn.scoutCard.toStringPretty, Cli.StandIn.scoutCard)]

open scoped StandIn.ScoutFile

theorem StandIn.scout_read :
    FromStr.fromStr Cli.StandIn.scoutCard.toStringPretty = .ok Cli.StandIn.scoutCard :=
  Core.StandIn.parser_head _ _ _

theorem guard_agrees_iff_scout :
    ((handleAuthenticate (.new ["read"] false) (StandIn.present Cli.StandIn.scoutCard.toStringPretty)
        StandIn.moment).2.error = none ↔
      Verify.Accepts Cli.StandIn.scoutCard.toStringPretty StandIn.moment.now StandIn.moment.registry) ↔
      ¬ Contested Cli.StandIn.scoutCard StandIn.moment :=
  guard_agrees_iff (StandIn.presentedCard_present StandIn.scout_read) StandIn.scout_read StandIn.scout_held
    (StandIn.binding Cli.StandIn.scoutCard)

/-- A card that `issue` wrote is valid, and the guard turns it away. -/
theorem guard_disagrees_scout :
    ¬ ∀ (request : JsonRpcRequest) (cardJson : String) (card : AgentCard) (scopes : List String)
      (moment : Moment),
      presentedCard request = .ok card → FromStr.fromStr cardJson = .ok card →
      (∀ required ∈ scopes, hasScope card required = true) →
        Ed25519.BindingKey card.publicKey (payloads card) →
      ((handleAuthenticate (.new scopes false) request moment).2.error = none ↔
        Verify.Accepts cardJson moment.now moment.registry) := by
  intro agree
  have presented := StandIn.presentedCard_present StandIn.scout_read
  have agrees := agree _ _ _ ["read"] StandIn.moment presented StandIn.scout_read StandIn.scout_held
    (StandIn.binding Cli.StandIn.scoutCard)
  have valid := (Verify.accepts_iff StandIn.scout_read StandIn.moment.now StandIn.moment.registry).mpr
    ⟨Cli.StandIn.scoutCard_sound.signed, by decide, by decide, rfl⟩
  exact guard_rejects_sound Cli.StandIn.scoutCard_sound presented
    (StandIn.binding Cli.StandIn.scoutCard) ["read"]
    false StandIn.moment (agrees.mpr valid)

end

end GrokingClawId.Cli.Guard
