import GrokingClawId.Cli.CardPayload
import GrokingClawId.Core.RevocationRegistry
import GrokingClawId.Lib.JsonOrder

/-!
# What canonical JSON determines

The canonical text of a value is the compact text of the value with sorted keys. It determines the
value up to the order of keys, and the signing payload determines the card but for its signatures.
-/

namespace GrokingClawId.Cli
open GrokingClawId.Core Json

/-! ### Canonical text -/

mutual

theorem canonicalJson_eq : (v : Json) → canonicalJson v = render (sortKeys v)
  | .null => rfl
  | .bool _ => rfl
  | .num _ => rfl
  | .str _ => rfl
  | .arr items => by
    rw [canonicalJson, canonicalItems_render, sortKeys, render]
  | .obj fields => by
    have entries : sortByKey (canonicalEntries fields) =
        (Json.sortByKey (sortFields fields)).map fun field => (field.1, render field.2) := by
      rw [canonicalEntries_render]
      exact (Json.sortByKey_map render (sortFields fields)).symm
    rw [canonicalJson, entries, List.map_map, sortKeys, render, renderFields_eq]
    rfl

theorem canonicalItems_render :
    (items : List Json) → canonicalItems items = renderItems (sortItems items)
  | [] => rfl
  | v :: items => by
    rw [canonicalItems, sortItems, renderItems, canonicalJson_eq v, canonicalItems_render items]

theorem canonicalEntries_render : (fields : List (String × Json)) → canonicalEntries fields =
    (sortFields fields).map fun field => (field.1, render field.2)
  | [] => rfl
  | (key, v) :: fields => by
    rw [canonicalEntries, sortFields, List.map_cons, canonicalJson_eq v,
      canonicalEntries_render fields]

end

theorem canonicalJson_iff {v w : Json} (wellFormed : v.WellFormed) (wellFormed' : w.WellFormed) :
    canonicalJson v = canonicalJson w ↔ UpToKeyOrder v w := by
  rw [canonicalJson_eq, canonicalJson_eq, ← sortKeys_eq_iff wellFormed wellFormed']
  exact ⟨wellFormed.sortKeys.render_inj wellFormed'.sortKeys, fun same => by rw [same]⟩

/-! ### Cards -/

theorem lookup_optionalField (key other : String) (value : Option String) :
    (optionalField other value).lookup key = if key = other then value.map Json.str else none := by
  cases value with
  | none => simp [optionalField]
  | some s =>
    by_cases same : key = other
    · simp [optionalField, same]
    · rw [optionalField, List.lookup_cons, beq_eq_false_iff_ne.mpr same, if_neg same]
      rfl

def cardKeys : List String :=
  ["id", "name", "owner", "scopes", "public_key", "pq_public_key", "signature", "pq_signature",
    "crypto_scheme", "issued_at", "expires_at", "agent_type", "parent_id", "spiffe_id"]

theorem optionalField_sublist (key : String) (value : Option String) :
    ((optionalField key value).map Prod.fst).Sublist [key] := by
  cases value <;> simp [optionalField]

theorem optionalField_str {key : String} {value : Option String} {field : String × Json}
    (member : field ∈ optionalField key value) : ∃ s, field.2 = .str s := by
  cases value with
  | none => cases member
  | some s => exact ⟨s, by rw [List.mem_singleton.mp member]⟩

theorem serialize_scheme_inj {scheme scheme' : CryptoScheme}
    (same : scheme.serialize = scheme'.serialize) : scheme = scheme' := by
  cases scheme <;> cases scheme' <;> first | rfl | exact absurd same (by decide)

theorem serialize_type_inj {agentType agentType' : AgentType}
    (same : agentType.serialize = agentType'.serialize) : agentType = agentType' := by
  cases agentType <;> cases agentType' <;> first | rfl | exact absurd same (by decide)

section Card
variable [Chrono]

theorem toValue_wellFormed (card : AgentCard) : card.toValue.WellFormed := by
  have strings {field : String × Json} (string : ∃ s, field.2 = .str s) : field.2.WellFormed := by
    obtain ⟨s, value⟩ := string
    rw [value]
    exact .str s
  have distinct : cardKeys.Nodup := by decide
  refine .obj (distinct.sublist ?_) fun field member => ?_
  · simp only [List.map_append]
    exact ((((((List.Sublist.refl ["id", "name", "owner", "scopes", "public_key"]).append
      (optionalField_sublist "pq_public_key" _)).append (List.Sublist.refl ["signature"])).append
      (optionalField_sublist "pq_signature" _)).append
      (List.Sublist.refl ["crypto_scheme", "issued_at", "expires_at", "agent_type"])).append
      (optionalField_sublist "parent_id" _)).append (optionalField_sublist "spiffe_id" _)
  · simp only [List.mem_append, or_assoc] at member
    rcases member with first | pq | signature | pqSignature | fixed | parent | spiffe
    · simp only [List.mem_cons, List.not_mem_nil, or_false] at first
      rcases first with rfl | rfl | rfl | rfl | rfl
      · exact .str _
      · exact .str _
      · exact .str _
      · refine .arr fun v listed => ?_
        obtain ⟨scope, _, rfl⟩ := List.mem_map.mp listed
        exact .str scope
      · exact .str _
    · exact strings (optionalField_str pq)
    · rw [List.mem_singleton.mp signature]
      exact .str _
    · exact strings (optionalField_str pqSignature)
    · simp only [List.mem_cons, List.not_mem_nil, or_false] at fixed
      rcases fixed with rfl | rfl | rfl | rfl <;> exact .str _
    · exact strings (optionalField_str parent)
    · exact strings (optionalField_str spiffe)

theorem toValue_inj (serialize_inj : Function.Injective Chrono.serialize) {card card' : AgentCard}
    (same : UpToKeyOrder card.toValue card'.toValue) : card = card' := by
  have text (key : String) (read : AgentCard → Option String)
      (get : ∀ card : AgentCard, card.toValue.get key = (read card).map Json.str) :
      read card = read card' := same.get_str (get card) (get card')
  have id := text "id" (some ·.id.toText) fun card => by simp [AgentCard.toValue, Json.get]
  have name := text "name" (some ·.name) fun card => by simp [AgentCard.toValue, Json.get, List.lookup_cons]
  have owner := text "owner" (some ·.owner) fun card =>
      by simp [AgentCard.toValue, Json.get, List.lookup_cons]
  have publicKey := text "public_key" (some ·.publicKey) fun card => by
    simp [AgentCard.toValue, Json.get, List.lookup_cons]
  have pqPublicKey := text "pq_public_key" (·.pqPublicKey) fun card => by
    simp [AgentCard.toValue, Json.get, List.lookup_cons, List.lookup_append, lookup_optionalField]
  have signature := text "signature" (some ·.signature) fun card => by
    simp [AgentCard.toValue, Json.get, List.lookup_cons, List.lookup_append, lookup_optionalField]
  have pqSignature := text "pq_signature" (·.pqSignature) fun card => by
    simp [AgentCard.toValue, Json.get, List.lookup_cons, List.lookup_append, lookup_optionalField]
  have cryptoScheme := text "crypto_scheme" (some ·.cryptoScheme.serialize) fun card => by
    simp [AgentCard.toValue, Json.get, List.lookup_cons, List.lookup_append, lookup_optionalField]
  have issuedAt := text "issued_at" (some <| Chrono.serialize ·.issuedAt) fun card => by
    simp [AgentCard.toValue, Json.get, List.lookup_cons, List.lookup_append, lookup_optionalField]
  have expiresAt := text "expires_at" (some <| Chrono.serialize ·.expiresAt) fun card => by
    simp [AgentCard.toValue, Json.get, List.lookup_cons, List.lookup_append, lookup_optionalField]
  have agentType := text "agent_type" (some ·.agentType.serialize) fun card => by
    simp [AgentCard.toValue, Json.get, List.lookup_cons, List.lookup_append, lookup_optionalField]
  have parentId := text "parent_id" (·.parentId.map Uuid.toText) fun card => by
    simp [AgentCard.toValue, Json.get, List.lookup_cons, List.lookup_append, lookup_optionalField]
  have spiffeId := text "spiffe_id" (·.spiffeId) fun card => by
    simp [AgentCard.toValue, Json.get, List.lookup_cons, List.lookup_append, lookup_optionalField]
  have scopes : card.scopes = card'.scopes := by
    have get (card : AgentCard) : card.toValue.get "scopes" =
        some (.arr (card.scopes.map .str)) := by
      simp [AgentCard.toValue, Json.get, List.lookup_cons]
    exact upToKeyOrder_strings ((same.get "scopes").2 _ _ (get card) (get card'))
  obtain ⟨_, _, _, _, _, _, _, _, _, _, _, _, _, _⟩ := card
  obtain ⟨_, _, _, _, _, _, _, _, _, _, _, _, _, _⟩ := card'
  simp only [Option.some.injEq] at *
  rw [AgentCard.mk.injEq]
  exact ⟨Uuid.toText_inj id, name, owner, scopes, publicKey, pqPublicKey, signature, pqSignature,
    serialize_scheme_inj cryptoScheme, serialize_inj issuedAt, serialize_inj expiresAt,
    serialize_type_inj agentType, Option.map_injective (fun _ _ => Uuid.toText_inj) parentId, spiffeId⟩

/-- The signing payload determines the card but for its signatures. -/
theorem cardSigningPayload_iff (serialize_inj : Function.Injective Chrono.serialize)
    {card card' : AgentCard} : cardSigningPayload card = cardSigningPayload card' ↔
      card' = { card with signature := card'.signature, pqSignature := card'.pqSignature } := by
  constructor
  · intro same
    have fields := (canonicalJson_iff (toValue_wellFormed _) (toValue_wellFormed _)).mp same
    have unsigned : card.unsigned = card'.unsigned := toValue_inj serialize_inj fields
    obtain ⟨_, _, _, _, _, _, _, _, _, _, _, _, _, _⟩ := card
    obtain ⟨_, _, _, _, _, _, _, _, _, _, _, _, _, _⟩ := card'
    simp only [AgentCard.unsigned, AgentCard.mk.injEq] at unsigned ⊢
    grind
  · intro same
    apply cardSigningPayload_congr
    rw [same]
    rfl

end Card

end GrokingClawId.Cli
