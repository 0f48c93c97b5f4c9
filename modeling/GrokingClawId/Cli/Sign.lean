import GrokingClawId.Cli.Lifecycle
import GrokingClawId.Core.HttpSigRoundTrip

/-!
# Signing a request on the command line

`sign.rs`: `sign` makes the signature headers of a request with the card and the key file that
`issue` wrote, `verify-sig` checks them against the card. The file accesses and the layout of the
output are left out.
-/

namespace GrokingClawId.Cli.Sign
open GrokingClawId.Core Text

/-! ### The commands -/

/-- What one run of `sign` draws: the clock is read for each of the two times. -/
structure Draws where
  created : DateTime
  expires : DateTime
  nonce : Uuid
  rng : Nat

/-- The headers given as `name: value`; a text without a colon is left out. -/
def parsedHeaders (headers : List String) : List (String × String) :=
  headers.filterMap fun h =>
    (splitOnce ':' h.toList).map fun (k, v) => (String.ofList (trim k), String.ofList (trim v))

section Commands
variable [Ed25519] [MlDsa65] [UrlCrate] [Unicode] [FromStr AgentCard]

def loadCard (cardJson : String) : Except String AgentCard :=
  (FromStr.fromStr cardJson : Except String AgentCard).mapError fun _ => "Failed to parse card"

def request (method url : String) (headers : List String) : HttpRequest where
  method := Unicode.toUppercase method
  url := url
  headers := parsedHeaders headers
  body := none

def components (headers : List String) : List Component :=
  [.method, .authority, .path] ++
    (parsedHeaders headers).map fun field => .header (Unicode.toLowercase field.1)

def params (card : AgentCard) (draws : Draws) : SignatureParams where
  keyid := s!"urn:uuid:{card.id.toText}"
  alg := if card.cryptoScheme = .hybrid then .hybrid else .ed25519
  created := Int64.ofInt draws.created.timestamp
  expires := some (Int64.ofInt draws.expires.timestamp + 300)
  nonce := some draws.nonce.toText
  label := "sig1"

def executeSign (method url cardJson keyPem : String) (headers : List String) (draws : Draws) :
    Outcome SignedRequest := do
  let card ← orFault (loadCard cardJson)
  let request := request method url headers
  let components := components headers
  let params := params card draws
  if card.cryptoScheme = .hybrid then
    let (edKey, mldsaSk) ← decodeHybridPrivateKeyPem keyPem.toList
    orFault (signRequestHybrid request components params edKey mldsaSk draws.rng)
  else
    let edKey ← orFault (decodePrivateKeyPem keyPem.toList)
    orFault (signRequest request components params edKey)

def executeVerify (method url signatureInput signature : String) (pqSignature : Option String)
    (cardJson : String) (headers : List String) (now : DateTime) : Outcome VerificationResult := do
  let card ← orFault (loadCard cardJson)
  let request := request method url headers
  let now := Int64.ofInt now.timestamp
  match pqSignature with
  | some pqSig =>
    let pqPub ← orFault (orErr card.pqPublicKey "Card has no PQ public key for hybrid verification")
    verifyRequestHybrid request signatureInput signature pqSig card.publicKey pqPub now
  | none => verifyRequest request signatureInput signature card.publicKey now

end Commands

/-- `RESULT: SIGNATURE VALID`. -/
def overall (result : VerificationResult) : Bool :=
  result.ed25519Valid && result.mldsa65Valid.getD true && !result.expired

/-! ### What `issue` has written -/

section Issued
variable [Ed25519] [MlDsa65] [Chrono]

/-- The key file of a scheme goes with the keys of the card. -/
inductive Keys (card : AgentCard) (keyPem : String) (seed : Bytes 32) (keygen : Nat) : Prop
  | ed25519 (scheme : card.cryptoScheme = .ed25519)
      (owned : card.publicKey = encodePublicKey (Ed25519.verifyingKey seed))
      (file : keyPem = encodePrivateKeyPem seed)
  | pq (pair : MlDsaKeyPair) (scheme : card.cryptoScheme ≠ .ed25519)
      (generated : generateMldsaKeypair keygen = .ok pair)
      (owned : card.publicKey = encodePublicKey (Ed25519.verifyingKey seed))
      (pqOwned : card.pqPublicKey = some (encodeMldsaPublicKey pair.publicKeyBytes))
      (file : keyPem = encodeHybridPrivateKeyPem seed pair.secretKeyBytes)

theorem generateAndSign_keys {scheme : CryptoScheme}
    {placeholder : String → Option String → Outcome AgentCard} {draws : Cli.Draws}
    {material : KeyMaterial} (generated : generateAndSign scheme placeholder draws = .ok material)
    {card : AgentCard} (same : card.cryptoScheme = scheme) (published : card.publicKey = material.publicKey)
    (pqPublished : card.pqPublicKey = material.pqPublicKey) :
    Keys card material.keyPem draws.seed draws.keygen := by
  cases scheme with
  | ed25519 =>
    obtain ⟨_, _, generated⟩ := bind_ok generated
    obtain rfl := Except.ok.inj generated
    exact .ed25519 same published rfl
  | mlDsa65 =>
    obtain ⟨pair, keys, generated⟩ := bind_ok generated
    obtain ⟨_, _, generated⟩ := bind_ok generated
    obtain ⟨_, _, generated⟩ := bind_ok generated
    obtain rfl := Except.ok.inj generated
    exact .pq pair (by rw [same]; decide) (orFault_eq_ok keys) published pqPublished rfl
  | hybrid =>
    obtain ⟨hkp, keys, generated⟩ := bind_ok generated
    obtain ⟨pair, pqKeys, built⟩ := bind_ok (orFault_eq_ok keys)
    obtain rfl := Except.ok.inj built
    obtain ⟨_, _, generated⟩ := bind_ok generated
    obtain ⟨_, _, generated⟩ := bind_ok generated
    obtain rfl := Except.ok.inj generated
    exact .pq pair (by rw [same]; decide) pqKeys published pqPublished rfl

variable [Unicode]

theorem issue_keys {args : Issue.Args} {draws : Cli.Draws} {w : Written}
    (issued : Issue.execute args draws = .ok w) : Keys w.card w.keyPem draws.seed draws.keygen := by
  obtain ⟨_, _, issued⟩ := bind_ok issued
  obtain ⟨_, _, issued⟩ := bind_ok issued
  obtain ⟨scheme, _, issued⟩ := bind_ok issued
  obtain ⟨material, generated, issued⟩ := bind_ok issued
  obtain ⟨card, built, issued⟩ := bind_ok issued
  obtain ⟨_, _, issued⟩ := bind_ok issued
  obtain rfl := Except.ok.inj issued
  obtain ⟨_, _, built⟩ := bind_ok built
  obtain rfl := Except.ok.inj built
  exact generateAndSign_keys generated rfl rfl rfl

end Issued

/-! ### Agreement -/

/-- A time that `chrono` can hold. -/
def InRange (t : DateTime) : Prop := DateTime.min ≤ t ∧ t ≤ DateTime.max

/-- The clock shows a time of the 300 seconds for which `sign` has signed. -/
structure InWindow (draws : Draws) (now : DateTime) : Prop where
  signing : InRange draws.expires
  verifying : InRange now
  within : now.timestamp ≤ draws.expires.timestamp + 300

theorem seconds_range {nanos : Int} (low : -8334601228800 * 1000000000 ≤ nanos)
    (high : nanos ≤ 8210266876799 * 1000000000 + 999999999) :
    -8334601228800 ≤ nanos / 1000000000 ∧ nanos / 1000000000 ≤ 8210266876799 := by
  constructor <;> omega

theorem timestamp_range {t : DateTime} (range : InRange t) :
    -8334601228800 ≤ t.timestamp ∧ t.timestamp ≤ 8210266876799 :=
  seconds_range range.1 range.2

theorem params_unexpired {draws : Draws} {now : DateTime} (window : InWindow draws now)
    (card : AgentCard) : (params card draws).expired (Int64.ofInt now.timestamp) = false := by
  have signing := timestamp_range window.signing
  have verifying := timestamp_range window.verifying
  have within := window.within
  have now' : (Int64.ofInt now.timestamp).toInt = now.timestamp :=
    Int64.toInt_ofInt_of_le (by omega) (by omega)
  have expires' : (Int64.ofInt draws.expires.timestamp).toInt = draws.expires.timestamp :=
    Int64.toInt_ofInt_of_le (by omega) (by omega)
  have three : (300 : Int64).toInt = 300 := by decide
  have sum : (Int64.ofInt draws.expires.timestamp + 300).toInt = draws.expires.timestamp + 300 := by
    rw [Int64.toInt_add, expires', three]
    exact Int.bmod_eq_of_le (by omega) (by omega)
  simp only [SignatureParams.expired, params, decide_eq_false_iff_not, Int64.lt_iff_toInt_lt, sum, now']
  omega

theorem params_wellFormed (card : AgentCard) (draws : Draws) : (params card draws).WellFormed := by
  have digits : ∀ n < 16, Nat.digitChar n ≠ ';' ∧ Nat.digitChar n ≠ '"' := by decide
  have plain : ∀ (id : Uuid), ∀ c ∈ id.toText.toList, c ≠ ';' ∧ c ≠ '"' := by
    intro id c member
    rcases Uuid.mem_toText member with ⟨n, small, rfl⟩ | rfl
    · exact digits n small
    · decide
  refine ⟨?_, ?_, ?_, ?_⟩
  · show '=' ∉ "sig1".toList
    decide
  · exact trimmed_of_forall (forall_of_all (s := "sig1".toList) (by decide))
  · intro c member
    have text : (params card draws).keyid.toList = "urn:uuid:".toList ++ card.id.toText.toList := by
      simp [params, toString]
    rw [text] at member
    rcases List.mem_append.mp member with label | digit
    · exact forall_of_all (p := fun c => c ≠ ';' ∧ c ≠ '"') (by decide) c label
    · exact plain card.id c digit
  · rintro nonce given c member
    obtain rfl := Option.some.inj given
    exact plain draws.nonce c member

section Agreement
variable [Ed25519] [MlDsa65] [UrlCrate] [Unicode] [FromStr AgentCard]

/-- `sign` succeeds on the files, and `verify-sig` reports what it has made as valid. -/
def Agree (w : Written) (method url : String) (headers : List String) (draws : Draws)
    (now : DateTime) : Prop :=
  ∃ signed result, executeSign method url w.cardJson w.keyPem headers draws = .ok signed ∧
    executeVerify method url signed.signatureInput signed.signature signed.pqSignature w.cardJson
      headers now = .ok result ∧ overall result = true

omit [Ed25519] [MlDsa65] [UrlCrate] [FromStr AgentCard] in
theorem components_named (ascii : Unicode.Ascii) {headers : List String}
    (tokens : ∀ field ∈ parsedHeaders headers, Token field.1) :
    ∀ c ∈ components headers, c.WellNamed := by
  intro c member
  rcases List.mem_append.mp member with derived | given
  · simp only [List.mem_cons, List.not_mem_nil, or_false] at derived
    rcases derived with rfl | rfl | rfl <;> trivial
  · obtain ⟨field, present, rfl⟩ := List.mem_map.mp given
    exact (tokens field present).toLowercase ascii

variable {w : Written} {method url : String} {headers : List String} {draws : Draws}
  {now : DateTime}

theorem agree_ed25519 (ascii : Unicode.Ascii) (correct : Ed25519.Correct)
    (parsed : FromStr.fromStr w.cardJson = .ok w.card) (parses : UrlCrate.parse url ≠ none)
    (tokens : ∀ field ∈ parsedHeaders headers, Token field.1) (window : InWindow draws now)
    {seed : Bytes 32} (classical : w.card.cryptoScheme = .ed25519)
    (owned : w.card.publicKey = encodePublicKey (Ed25519.verifyingKey seed))
    (file : w.keyPem = encodePrivateKeyPem seed) : Agree w method url headers draws now := by
  have unmixed : w.card.cryptoScheme ≠ .hybrid := by
    rw [classical]
    decide
  have named := components_named ascii tokens
  obtain ⟨base, built⟩ : ∃ base, buildSignatureBase (request method url headers)
      (components headers) (params w.card draws) = .ok base :=
    buildSignatureBase_ok parses (components headers) (params w.card draws)
  have verified := verifyRequest_base ascii correct named (params_wellFormed w.card draws) built seed
    (Int64.ofInt now.timestamp)
  have ran : executeSign method url w.cardJson w.keyPem headers draws = .ok
      { request := request method url headers
        signatureInput :=
          s!"{(params w.card draws).label}={signatureParams (components headers) (params w.card draws)}"
        signature := s!"{(params w.card draws).label}=:{sign seed base.toUTF8}:"
        pqSignature := none } := by
    simp only [executeSign, loadCard, parsed, Except.mapError, orFault_ok, bind, Except.bind,
      if_neg unmixed, file, decodePrivateKeyPem_encode, signRequest, built]
  refine ⟨_, _, ran, Eq.trans ?_ verified, ?_⟩
  · simp only [executeVerify, loadCard, parsed, Except.mapError, orFault_ok, bind, Except.bind, owned]
  · simp only [overall, params_unexpired window w.card, Option.getD_none, Bool.and_self, Bool.not_false]

theorem agree_hybrid (ascii : Unicode.Ascii) (correct : Ed25519.Correct)
    (mldsaCorrect : MlDsa65.Correct) (parsed : FromStr.fromStr w.cardJson = .ok w.card)
    (parses : UrlCrate.parse url ≠ none) (tokens : ∀ field ∈ parsedHeaders headers, Token field.1)
    (window : InWindow draws now) {seed : Bytes 32} {keygen : Nat} {pair : MlDsaKeyPair}
    (both : w.card.cryptoScheme = .hybrid) (generated : generateMldsaKeypair keygen = .ok pair)
    (owned : w.card.publicKey = encodePublicKey (Ed25519.verifyingKey seed))
    (pqOwned : w.card.pqPublicKey = some (encodeMldsaPublicKey pair.publicKeyBytes))
    (file : w.keyPem = encodeHybridPrivateKeyPem seed pair.secretKeyBytes) :
    Agree w method url headers draws now := by
  have named := components_named ascii tokens
  obtain ⟨base, built⟩ : ∃ base, buildSignatureBase (request method url headers)
      (components headers) (params w.card draws) = .ok base :=
    buildSignatureBase_ok parses (components headers) (params w.card draws)
  obtain ⟨bytes, pqSigned, pqVerified⟩ :=
    mldsaVerify_sign mldsaCorrect generated base.toUTF8 draws.rng
  have verified := verifyRequestHybrid_base ascii correct named (params_wellFormed w.card draws) built
    seed pqVerified (Int64.ofInt now.timestamp)
  have ran : executeSign method url w.cardJson w.keyPem headers draws = .ok
      { request := request method url headers
        signatureInput :=
          s!"{(params w.card draws).label}={signatureParams (components headers) (params w.card draws)}"
        signature := s!"{(params w.card draws).label}=:{sign seed base.toUTF8}:"
        pqSignature := some s!"{(params w.card draws).label}-pq=:{base64 bytes}:" } := by
    simp only [executeSign, loadCard, parsed, Except.mapError, orFault_ok, bind, Except.bind,
      if_pos both, file, decodeHybridPrivateKeyPem_encode, signRequestHybrid, built, pqSigned]
  refine ⟨_, _, ran, Eq.trans ?_ verified, ?_⟩
  · simp only [executeVerify, loadCard, parsed, Except.mapError, orFault_ok, bind, Except.bind, owned,
      pqOwned, orErr_some]
  · simp only [overall, params_unexpired window w.card, Option.getD_some, Bool.and_self, Bool.not_false]

/-- `sign` takes the hybrid key file of an ML-DSA card for one with an Ed25519 key only. -/
theorem executeSign_mlDsa65 (parsed : FromStr.fromStr w.cardJson = .ok w.card) {seed : Bytes 32}
    {keygen : Nat} {pair : MlDsaKeyPair} (scheme : w.card.cryptoScheme = .mlDsa65)
    (generated : generateMldsaKeypair keygen = .ok pair)
    (file : w.keyPem = encodeHybridPrivateKeyPem seed pair.secretKeyBytes) :
    executeSign method url w.cardJson w.keyPem headers draws =
      .error (.error "Failed to decode private key from base64") := by
  have unmixed : w.card.cryptoScheme ≠ .hybrid := by
    rw [scheme]
    decide
  have present : pair.secretKeyBytes ≠ [] := by
    intro empty
    have length := generateMldsaKeypair_secret generated
    rw [empty] at length
    cases length
  simp only [executeSign, loadCard, parsed, Except.mapError, orFault_ok, bind, Except.bind,
    if_neg unmixed, file, decodePrivateKeyPem_hybrid seed present]
  rfl

/-- On the files of `issue` the two commands agree exactly where the scheme is not ML-DSA-65. -/
theorem sign_verify_iff [Chrono] (ascii : Unicode.Ascii) (correct : Ed25519.Correct)
    (mldsaCorrect : MlDsa65.Correct) {args : Issue.Args} {issueDraws : Cli.Draws}
    (issued : Issue.execute args issueDraws = .ok w)
    (parsed : FromStr.fromStr w.cardJson = .ok w.card) (parses : UrlCrate.parse url ≠ none)
    (tokens : ∀ field ∈ parsedHeaders headers, Token field.1) (window : InWindow draws now) :
    Agree w method url headers draws now ↔ w.card.cryptoScheme ≠ .mlDsa65 := by
  cases issue_keys issued with
  | ed25519 scheme owned file =>
    refine iff_of_true (agree_ed25519 ascii correct parsed parses tokens window scheme owned file) ?_
    rw [scheme]
    decide
  | pq pair scheme generated owned pqOwned file =>
    by_cases mixed : w.card.cryptoScheme = .hybrid
    · refine iff_of_true (agree_hybrid ascii correct mldsaCorrect parsed parses tokens window mixed
        generated owned pqOwned file) ?_
      rw [mixed]
      decide
    · have only : w.card.cryptoScheme = .mlDsa65 := by
        cases kind : w.card.cryptoScheme with
        | ed25519 => exact absurd kind scheme
        | mlDsa65 => rfl
        | hybrid => exact absurd kind mixed
      refine iff_of_false ?_ (fun other => other only)
      rintro ⟨_, _, ran, _⟩
      rw [executeSign_mlDsa65 parsed only generated file] at ran
      cases ran

end Agreement

section
open scoped Core.StandIn

namespace StandIn

def draws : Draws := ⟨0, 0, Uuid.nil, 0⟩

theorem window : InWindow draws 0 := by
  refine ⟨⟨?_, ?_⟩, ⟨?_, ?_⟩, ?_⟩ <;> decide

theorem parses : UrlCrate.parse "http://a.example/x" ≠ none := by decide

theorem tokens : ∀ field ∈ parsedHeaders ["Date: today"], Token field.1 := by
  have given : parsedHeaders ["Date: today"] = [("Date", "today")] := by decide
  intro field member
  rw [given] at member
  rw [List.mem_singleton.mp member]
  exact ⟨by decide, forall_of_all (by decide), forall_of_all (by decide), by decide⟩

def mlDsaScout : Issue.Args := { Cli.StandIn.scout with cryptoScheme := "ml-dsa-65" }

theorem mlDsaScout_schemeRead : CryptoScheme.parse mlDsaScout.cryptoScheme = .ok .mlDsa65 := rfl

theorem issue_mlDsaScout : ∃ w, Issue.execute mlDsaScout Cli.StandIn.draws = .ok w ∧
    w.card.cryptoScheme = .mlDsa65 := by
  have typeRead : AgentType.parse mlDsaScout.agentType = .ok .instance := Cli.StandIn.scout_typeRead
  obtain ⟨w, issued, _, same⟩ := issue_ok Core.StandIn.ed25519_correct Core.StandIn.mlDsa65_correct
    typeRead mlDsaScout_schemeRead Cli.StandIn.usable_day
  exact ⟨w, issued, congrArg Identity.cryptoScheme same⟩

end StandIn

theorem sign_verify_iff_scout : ∃ w, Issue.execute Cli.StandIn.scout Cli.StandIn.draws = .ok w ∧
    letI := Core.StandIn.parser [(w.cardJson, w.card)]
    Agree w "get" "http://a.example/x" ["Date: today"] StandIn.draws 0 := by
  obtain ⟨w, issued, card, _, _⟩ := Cli.StandIn.issue_scout
  let _ := Core.StandIn.parser [(w.cardJson, w.card)]
  refine ⟨w, issued, (sign_verify_iff Core.StandIn.unicode_ascii Core.StandIn.ed25519_correct
    Core.StandIn.mlDsa65_correct issued (Core.StandIn.parser_head _ _ _) StandIn.parses StandIn.tokens
    StandIn.window).mpr ?_⟩
  rw [card]
  decide

/-- An agent with an ML-DSA-65 card cannot sign with its own key file. -/
theorem sign_refused_mlDsa65 :
    ¬ ∀ [FromStr AgentCard] (args : Issue.Args) (issueDraws : Cli.Draws) (w : Written)
      (method url : String) (headers : List String) (draws : Draws) (now : DateTime),
      Issue.execute args issueDraws = .ok w → FromStr.fromStr w.cardJson = .ok w.card →
      UrlCrate.parse url ≠ none → (∀ field ∈ parsedHeaders headers, Token field.1) →
      InWindow draws now → Agree w method url headers draws now := by
  intro agree
  obtain ⟨w, issued, scheme⟩ := StandIn.issue_mlDsaScout
  let _ := Core.StandIn.parser [(w.cardJson, w.card)]
  have parsed : FromStr.fromStr w.cardJson = .ok w.card := Core.StandIn.parser_head _ _ _
  obtain ⟨_, _, ran, _⟩ := agree _ _ w "GET" "http://a.example/x" [] StandIn.draws 0 issued parsed
    StandIn.parses (fun _ member => absurd member List.not_mem_nil) StandIn.window
  cases issue_keys issued with
  | ed25519 classical =>
    rw [scheme] at classical
    cases classical
  | pq pair _ generated _ _ file =>
    rw [executeSign_mlDsa65 parsed scheme generated file] at ran
    cases ran

end

end GrokingClawId.Cli.Sign
