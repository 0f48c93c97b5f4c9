import GrokingClawId.Lib.Separated
import GrokingClawId.Core.SignedPayloads
import GrokingClawId.Daemon.BirthAnswers

/-!
# What the signature of a birth request covers

The daemon signs the id, the name, the template, the public key and the lifetime of a request, with
colons between them. A name and a template may contain colons too, and the scopes and the domains are
not signed.
-/

namespace GrokingClawId.Daemon
open GrokingClawId.Core Text Separated

/-- The text that is signed for a request. -/
def BirthRequest.signedText (request : BirthRequest) : String :=
  s!"{request.requestId.toText}:{request.agentName}:{request.template}:{request.agentPublicKey}:{request.ttlSeconds.toInt}"

/-- What the signature of a request is meant to cover. -/
structure SameBirth (request request' : BirthRequest) : Prop where
  requestId : request.requestId = request'.requestId
  agentName : request.agentName = request'.agentName
  template : request.template = request'.template
  agentPublicKey : request.agentPublicKey = request'.agentPublicKey
  ttlSeconds : request.ttlSeconds = request'.ttlSeconds
  requestedScopes : request.requestedScopes = request'.requestedScopes
  allowedDomains : request.allowedDomains = request'.allowedDomains

theorem colon_not_mem_int (n : Int) : ':' ∉ (toString n).toList := by
  intro member
  rcases toString_int_chars member with digit | minus
  · exact absurd digit (by decide)
  · exact absurd minus (by decide)

section Request
variable [Ed25519] [FromStr TemplateManifest] [FromStr Json]
variable {root root' : List String} {params params' : BirthParams} {io io' : MeshIo}
  {d d' e e' : Disk} {request request' : BirthRequest}

/-- Where the fields of a request come from, and what its signature is over. -/
structure Built (root : List String) (params : BirthParams) (io : MeshIo) (request : BirthRequest) :
    Prop where
  requestId : request.requestId = io.requestId
  agentName : request.agentName = params.name
  template : request.template = params.template
  agentPublicKey : request.agentPublicKey = meshPublicKey io
  ttlSeconds : request.ttlSeconds = params.ttlSeconds
  requestedScopes : request.requestedScopes = params.allowedScopes
  allowedDomains : request.allowedDomains = params.allowedDomains
  signed : ∃ before after,
    signRequest root request.signedText before = (.ok request.daemonSignature, after)

theorem birthRequest_built (asked : birthRequest root params io d = (.ok request, e)) :
    Built root params io request := by
  obtain ⟨did, d₁, -, asked⟩ := DiskM.bind_ok asked
  obtain ⟨signature, d₂, signed, asked⟩ := DiskM.bind_ok asked
  obtain ⟨version, d₃, -, asked⟩ := DiskM.bind_ok asked
  obtain ⟨rfl, -⟩ := DiskM.pure_ok asked
  exact ⟨rfl, rfl, rfl, rfl, rfl, rfl, rfl, d₁, d₂, signed⟩

omit [FromStr TemplateManifest] [FromStr Json] in
theorem Built.signedText_chars (built : Built root params io request) :
    request.signedText.toList = io.requestId.toText.toList ++ ':' :: (params.name.toList ++
      ':' :: (params.template.toList ++ ':' :: ((meshPublicKey io).toList ++
        ':' :: (toString params.ttlSeconds.toInt).toList))) := by
  simp only [BirthRequest.signedText, built.requestId, built.agentName, built.template,
    built.agentPublicKey, built.ttlSeconds, String.toList_append, List.append_assoc]
  rfl

omit [FromStr TemplateManifest] [FromStr Json] in
theorem colon_not_mem_meshPublicKey (io : MeshIo) : ':' ∉ (meshPublicKey io).toList := by
  rw [meshPublicKey, encodePublicKey, base64, String.toList_ofList]
  exact Codec.not_mem_base64Encode (by decide) _

/-- Two requests with one signed text are for the same birth exactly when their names have as many
colons, and the scopes and the domains, which are not signed, are the same. -/
theorem birthRequest_binds_iff (asked : birthRequest root params io d = (.ok request, e))
    (asked' : birthRequest root' params' io' d' = (.ok request', e'))
    (same : request.signedText = request'.signedText) :
    SameBirth request request' ↔
      params.name.toList.count ':' = params'.name.toList.count ':' ∧
        params.allowedScopes = params'.allowedScopes ∧
        params.allowedDomains = params'.allowedDomains := by
  have built := birthRequest_built asked
  have built' := birthRequest_built asked'
  constructor
  · intro births
    rw [← built.agentName, ← built'.agentName, births.agentName, ← built.requestedScopes,
      ← built'.requestedScopes, ← built.allowedDomains, ← built'.allowedDomains]
    exact ⟨rfl, births.requestedScopes, births.allowedDomains⟩
  · rintro ⟨colons, scopes, domains⟩
    have chars := congrArg String.toList same
    rw [built.signedText_chars, built'.signedText_chars] at chars
    have plain (id : Uuid) : ':' ∉ id.toText.toList :=
      Uuid.not_mem_toText (by decide) (by decide) id
    obtain ⟨ids, rest⟩ := cut_first (plain _) (plain _) chars
    obtain ⟨names, rest⟩ := cut_counted_front colons rest
    have keyed (io : MeshIo) (ttl : Int) :
        ((meshPublicKey io).toList ++ ':' :: (toString ttl).toList).count ':' = 1 := by
      rw [count_pair, List.count_eq_zero.mpr (colon_not_mem_meshPublicKey io),
        List.count_eq_zero.mpr (colon_not_mem_int ttl)]
    obtain ⟨templates, rest⟩ := cut_counted ((keyed io _).trans (keyed io' _).symm) rest
    obtain ⟨keys, ttls⟩ :=
      cut_first (colon_not_mem_meshPublicKey io) (colon_not_mem_meshPublicKey io') rest
    constructor
    · rw [built.requestId, built'.requestId, Uuid.toText_inj (String.toList_inj.mp ids)]
    · rw [built.agentName, built'.agentName, String.toList_inj.mp names]
    · rw [built.template, built'.template, String.toList_inj.mp templates]
    · rw [built.agentPublicKey, built'.agentPublicKey, String.toList_inj.mp keys]
    · rw [built.ttlSeconds, built'.ttlSeconds]
      exact Int64.toInt_inj.mp (toString_int_inj (String.toList_inj.mp ttls))
    · rw [built.requestedScopes, built'.requestedScopes, scopes]
    · rw [built.allowedDomains, built'.allowedDomains, domains]

end Request

/-! ### Two births with one signature -/

open scoped Core.StandIn StandIn StandIn.Answers

namespace StandIn

def askedParams (name template : String) (scopes : List String) : BirthParams :=
  { namedParams "scout" with name, template, allowedScopes := scopes }

def asked (name template : String) (scopes : List String) : Except String BirthRequest × Disk :=
  birthRequest [] (askedParams name template scopes) (meshIo Answers.refused) bareNursery.disk

end StandIn

/-- A colon moves from the name to the template. -/
theorem birthRequest_binds_iff_colon : ∃ request request' e e',
    StandIn.asked "a:b" "c" ["read"] = (.ok request, e) ∧
    StandIn.asked "a" "b:c" ["read"] = (.ok request', e') ∧
    request.signedText = request'.signedText ∧ ¬ SameBirth request request' := by
  obtain ⟨request, e, asked⟩ : ∃ r f, StandIn.asked "a:b" "c" ["read"] = (.ok r, f) :=
    StandIn.run_ok (by rfl)
  obtain ⟨request', e', asked'⟩ : ∃ r f, StandIn.asked "a" "b:c" ["read"] = (.ok r, f) :=
    StandIn.run_ok (by rfl)
  have same : request.signedText = request'.signedText := by
    apply String.toList_inj.mp
    rw [(birthRequest_built asked).signedText_chars, (birthRequest_built asked').signedText_chars]
    rfl
  refine ⟨request, request', e, e', asked, asked', same, fun births => ?_⟩
  have colons := ((birthRequest_binds_iff asked asked' same).mp births).1
  exact absurd colons (by decide)

/-- The signature over a request for one scope is one over a request for all of them. -/
theorem birthRequest_unbound : ¬ ∀ (root root' : List String) (params params' : BirthParams)
    (io io' : MeshIo) (d e d' e' : Disk) (request request' : BirthRequest),
    birthRequest root params io d = (.ok request, e) →
    birthRequest root' params' io' d' = (.ok request', e') →
    request.signedText = request'.signedText → SameBirth request request' := by
  intro bound
  obtain ⟨request, e, asked⟩ : ∃ r f, StandIn.asked "scout" "base" ["read"] = (.ok r, f) :=
    StandIn.run_ok (by rfl)
  obtain ⟨request', e', asked'⟩ : ∃ r f, StandIn.asked "scout" "base" ["*"] = (.ok r, f) :=
    StandIn.run_ok (by rfl)
  have built := birthRequest_built asked
  have built' := birthRequest_built asked'
  have same : request.signedText = request'.signedText := by
    apply String.toList_inj.mp
    rw [built.signedText_chars, built'.signedText_chars]
    rfl
  have scopes := (bound _ _ _ _ _ _ _ _ _ _ _ _ asked asked' same).requestedScopes
  rw [built.requestedScopes, built'.requestedScopes] at scopes
  exact absurd scopes (by decide)

end GrokingClawId.Daemon
