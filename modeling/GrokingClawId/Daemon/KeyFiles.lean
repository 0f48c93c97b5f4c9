import GrokingClawId.Core.PemMarkers
import GrokingClawId.Daemon.Host
import GrokingClawId.Daemon.Oauth

/-!
# One key file, two decoders

The signer of an agent cuts a section out of `agent.pem`; `start_agent` and `load_oauth_store` read
all lines of it that are no markers as one text. Which files both read, and as the same key.
-/

namespace GrokingClawId.Daemon
open GrokingClawId.Core GrokingClawId.Proxy Text Codec

/-- The lines that are no markers, as `decode_private_key_pem` joins them. -/
def keyText (pem : List Char) : List Char :=
  trim ((lines pem).filter fun line => !"-----".toList.isPrefixOf line).flatten

section Store
variable [Aead] [Hkdf] [StoreFormat]

/-- The agent of the signer is started with it, and its OAuth store is opened with its key. -/
structure OpensAs (pem : String) (signer : RequestSigner) : Prop where
  decoded : decodePrivateKeyPem pem.toList = .ok signer.signingKey
  started : ∀ config launch port, launch.agentPem = .content pem →
    config.agentId.toText = signer.agentId → launch.auditLogger = .ok () → launch.bind = .ok port →
    ∃ server, startProxy config launch = .ok (some (port, server)) ∧ server.signer = some signer ∧
      server.oauth = loadOauthCache config launch signer.signingKey
  opened : ∀ (dir : AgentDir) agentName file fresh, dir.agentPem = .content pem →
    loadOauthStore dir agentName file fresh =
      (OAuthStore.load (OAuthStore.storePath s!"agents/{agentName}") file signer.signingKey fresh).map
        fun store => (store, signer.signingKey)

def DecodersAgree (pem : String) : Prop :=
  ∀ pemPath agentId signer, RequestSigner.fromPem pemPath (some pem) agentId = .ok signer →
    OpensAs pem signer

end Store

/-- The file is no hybrid file, or the lines outside its Ed25519 section are markers and blanks. -/
def HoldsOneKey (pem : String) : Prop :=
  ∀ keys edStart edStop, decodeHybridPrivateKeyPem pem.toList = .ok keys →
    find edBegin.toList pem.toList = some edStart → find edEnd.toList pem.toList = some edStop →
    keyText pem.toList = keyText ((pem.toList.take (edStop + edEnd.length)).drop edStart)

/-! ### The text of a key -/

theorem decodePrivateKeyPem_eq_ok {pem : List Char} {key : Core.Bytes 32} :
    decodePrivateKeyPem pem = .ok key ↔ keyText pem = base64Encode key.val := by
  constructor
  · intro decoded
    obtain ⟨bytes, read, sized⟩ := bind_ok decoded
    have whole : base64Decode (keyText pem) = some bytes := orErr_ok read
    have length := orErr_ok sized
    unfold tryInto at length
    split at length
    · rw [← Option.some.inj length, base64Encode_decode whole]
    · cases length
  · intro text
    have read : decodeSection pem = some key.val := by
      show base64Decode (keyText pem) = some key.val
      rw [text, base64Decode_encode]
    simp [decodePrivateKeyPem, read, bind, Except.bind]

/-- What the Ed25519 section of a hybrid file holds is its first key. -/
theorem decodes_iff_section {pem : String} {key : Core.Bytes 32} {secret : List UInt8}
    (hybrid : decodeHybridPrivateKeyPem pem.toList = .ok (key, secret)) :
    decodePrivateKeyPem pem.toList = .ok key ↔ HoldsOneKey pem := by
  obtain ⟨edStart, edStop, opens, closes, _, _, _, _, _, _, edRead, _⟩ :=
    decodeHybrid_eq_ok.mp hybrid
  rw [decodePrivateKeyPem_eq_ok] at edRead ⊢
  constructor
  · intro whole keys edStart' edStop' _ opens' closes'
    obtain rfl := Option.some.inj (opens.symm.trans opens')
    obtain rfl := Option.some.inj (closes.symm.trans closes')
    rw [whole, edRead]
  · intro alone
    rw [alone _ edStart edStop hybrid opens closes, edRead]

/-! ### The signer -/

theorem fromPem_path {pem agentId : String} (pemPath other : String) :
    RequestSigner.fromPem pemPath (some pem) agentId =
      RequestSigner.fromPem other (some pem) agentId := rfl

theorem fromPem_key {pemPath pem agentId : String} {signer : RequestSigner}
    (made : RequestSigner.fromPem pemPath (some pem) agentId = .ok signer) :
    (∃ secret, decodeHybridPrivateKeyPem pem.toList = .ok (signer.signingKey, secret)) ∨
      (∀ keys, decodeHybridPrivateKeyPem pem.toList ≠ .ok keys) ∧
        decodePrivateKeyPem pem.toList = .ok signer.signingKey := by
  obtain ⟨_, same, made⟩ := bind_ok made
  obtain rfl := Option.some.inj (orErr_ok (orFault_eq_ok same))
  obtain ⟨start, _, made⟩ := bind_ok made
  cases hybrid : decodeHybridPrivateKeyPem pem.toList with
  | ok keys =>
    simp only [hybrid] at made
    rw [← Except.ok.inj made]
    exact .inl ⟨keys.2, rfl⟩
  | error fault =>
    cases fault with
    | panic reason =>
      simp only [hybrid] at made
      cases made
    | error message =>
      simp only [hybrid] at made
      obtain ⟨key, read, made⟩ := bind_ok made
      rw [← Except.ok.inj made]
      refine .inr ⟨fun keys same => (by cases same), ?_⟩
      cases decoded : decodePrivateKeyPem pem.toList with
      | ok key' =>
        rw [decoded] at read
        rw [← Except.ok.inj read]
      | error e =>
        rw [decoded] at read
        cases read

theorem fromPem_hybrid_ok {pem : String} {key : Core.Bytes 32} {secret : List UInt8}
    (hybrid : decodeHybridPrivateKeyPem pem.toList = .ok (key, secret)) :
    ∃ signer, RequestSigner.fromPem "" (some pem) "" = .ok signer ∧ signer.signingKey = key := by
  refine ⟨⟨key, some secret, "", "clawid-"⟩, ?_, rfl⟩
  simp only [RequestSigner.fromPem, orErr_some, orFault_ok, bind, Except.bind, hybrid]
  rfl

/-! ### Exactly the files that both read -/

section Store
variable [Aead] [Hkdf] [StoreFormat]

theorem opensAs_of_decoded {pem pemPath agentId : String} {signer : RequestSigner}
    (made : RequestSigner.fromPem pemPath (some pem) agentId = .ok signer)
    (decoded : decodePrivateKeyPem pem.toList = .ok signer.signingKey) : OpensAs pem signer := by
  refine ⟨decoded, ?_, ?_⟩
  · intro config launch port content named logger bound
    have own : signer.agentId = agentId := (RequestSigner.fromPem_ok made).1
    have again : RequestSigner.fromPem s!"agents/{config.name}/identity/agent.pem" (some pem)
        config.agentId.toText = .ok signer := by
      rw [named, own, ← made]
      exact fromPem_path _ _
    let scope : ScopeConfig :=
      { allowedDomains := config.allowedDomains,
        maxRequestsPerMinute := config.resources.maxRequestsPerMinute }
    let oauth := loadOauthCache config launch signer.signingKey
    refine ⟨{ scope, signer := some signer, oauth, agentId := config.agentId }, ?_, rfl, rfl⟩
    simp only [startProxy, content, decoded, again, logger, bound, Except.mapError, orFault_ok,
      discardErr, bind, Except.bind]
    rfl
  · intro dir agentName file fresh content
    simp only [loadOauthStore, content, decoded, bind, Except.bind]
    cases OAuthStore.load (OAuthStore.storePath s!"agents/{agentName}") file signer.signingKey fresh <;> rfl

theorem decodersAgree_iff_oneKey (pem : String) : DecodersAgree pem ↔ HoldsOneKey pem := by
  constructor
  · rintro agree ⟨key, secret⟩ edStart edStop hybrid
    obtain ⟨signer, made, rfl⟩ := fromPem_hybrid_ok hybrid
    have alone := (decodes_iff_section hybrid).mp (agree _ _ _ made).decoded
    exact alone _ edStart edStop hybrid
  · intro alone pemPath agentId signer made
    apply opensAs_of_decoded made
    rcases fromPem_key made with ⟨secret, hybrid⟩ | ⟨_, decoded⟩
    · exact (decodes_iff_section hybrid).mpr alone
    · exact decoded

/-- A hybrid file as it is written. -/
theorem not_decodersAgree_encoded (seed : Core.Bytes 32) {mldsaSecret : List UInt8}
    (present : mldsaSecret ≠ []) :
    ¬ DecodersAgree (encodeHybridPrivateKeyPem seed mldsaSecret) := by
  intro agree
  obtain ⟨signer, made, _⟩ := fromPem_hybrid_ok (decodeHybridPrivateKeyPem_encode seed mldsaSecret)
  have decoded := (agree _ _ _ made).decoded
  rw [decodePrivateKeyPem_hybrid seed present] at decoded
  cases decoded

end Store

open scoped Daemon.StandIn in
/-- A key of the length that ML-DSA-65 has. -/
theorem not_decodersAgree : ¬ ∀ pem, DecodersAgree pem := by
  intro agree
  have present : List.replicate 4032 (0 : UInt8) ≠ [] := by
    rw [List.replicate_succ]
    exact List.cons_ne_nil _ _
  exact not_decodersAgree_encoded Core.StandIn.seed present (agree _)

end GrokingClawId.Daemon
