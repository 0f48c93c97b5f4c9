import GrokingClawId.Core.Models

/-!
# HTTP message signatures

`httpsig.rs`: the signature base of a request, signing, and verification from the text of the
`Signature-Input` and `Signature` headers.
-/

namespace GrokingClawId.Core
open Text

/-! ### Signature components -/

inductive Component where
  | method | targetUri | authority | path | query
  | header (name : String)
  deriving DecidableEq, Repr

def Component.identifier [Unicode] : Component → String
  | method => "\"@method\""
  | targetUri => "\"@target-uri\""
  | authority => "\"@authority\""
  | path => "\"@path\""
  | query => "\"@query\""
  | header name =>
    let lower := Unicode.toLowercase name
    s!"\"{lower}\""

inductive SignatureAlgorithm where
  | ed25519 | hybrid
  deriving DecidableEq, Repr

def SignatureAlgorithm.asStr : SignatureAlgorithm → String
  | ed25519 => "ed25519"
  | hybrid => "ed25519+ml-dsa-65"

structure SignatureParams where
  keyid : String
  alg : SignatureAlgorithm
  created : Int64
  expires : Option Int64
  nonce : Option String
  label : String
  deriving DecidableEq

def SignatureParams.default (now : Int64) : SignatureParams where
  keyid := ""
  alg := .ed25519
  created := now
  expires := none
  nonce := none
  label := "sig1"

structure HttpRequest where
  method : String
  url : String
  headers : List (String × String)
  body : Option (List UInt8)
  deriving DecidableEq

structure SignedRequest where
  request : HttpRequest
  signatureInput : String
  signature : String
  pqSignature : Option String

structure VerificationResult where
  ed25519Valid : Bool
  mldsa65Valid : Option Bool
  keyid : String
  alg : String
  created : Int64
  expired : Bool
  deriving DecidableEq

section Sign
variable [UrlCrate] [Unicode]

/-! ### Signature base -/

/-- The component list with the parameters, as all of `build_signature_base`, `sign_request` and
`sign_request_hybrid` write it. -/
def signatureParams (components : List Component) (params : SignatureParams) : String :=
  let componentIds := " ".intercalate (components.map Component.identifier)
  let expires := match params.expires with
    | some expires => s!";expires={expires}"
    | none => ""
  let nonce := match params.nonce with
    | some nonce => s!";nonce=\"{nonce}\""
    | none => ""
  s!"({componentIds});keyid=\"{params.keyid}\";alg=\"{params.alg.asStr}\";created={params.created}{expires}{nonce}"

def Component.value (request : HttpRequest) (url : Url) : Component → String
  | method => Unicode.toUppercase request.method
  | targetUri => request.url
  | authority =>
    let port := match url.port with
      | some p => s!":{p}"
      | none => ""
    url.hostStr.getD "" ++ port
  | path => url.path
  | query =>
    match url.query with
    | some q => s!"?{q}"
    | none => ""
  | header name =>
    let lowerName := Unicode.toLowercase name
    ((request.headers.find? fun field => Unicode.toLowercase field.1 = lowerName).map Prod.snd).getD ""

def buildSignatureBase (request : HttpRequest) (components : List Component)
    (params : SignatureParams) :
    Except String String := do
  let url ← orErr (UrlCrate.parse request.url) "Invalid request URL"
  let lines := components.map fun component =>
    s!"{component.identifier}: {component.value request url}"
  .ok ("\n".intercalate (lines ++ [s!"\"@signature-params\": {signatureParams components params}"]))

/-! ### Signing -/

def signRequest [Ed25519] (request : HttpRequest) (components : List Component)
    (params : SignatureParams) (signingKey : Bytes 32) : Except String SignedRequest := do
  let sigBase ← buildSignatureBase request components params
  let sigB64 := sign signingKey sigBase.toUTF8
  .ok { request := request
        signatureInput := s!"{params.label}={signatureParams components params}"
        signature := s!"{params.label}=:{sigB64}:"
        pqSignature := none }

def signRequestHybrid [Ed25519] [MlDsa65] (request : HttpRequest) (components : List Component)
    (params : SignatureParams) (edSigningKey : Bytes 32) (mldsaSecretKey : List UInt8) (rng : Nat) :
    Except String SignedRequest := do
  let sigBase ← buildSignatureBase request components params
  let edSigB64 := sign edSigningKey sigBase.toUTF8
  let pqSigB64 ← mldsaSign mldsaSecretKey sigBase.toUTF8 rng
  .ok { request := request
        signatureInput := s!"{params.label}={signatureParams components params}"
        signature := s!"{params.label}=:{edSigB64}:"
        pqSignature := some s!"{params.label}-pq=:{pqSigB64}:" }

end Sign

/-! ### Parsing -/

def parseI64 (s : List Char) : Option Int64 :=
  (parseInt Int64.minValue.toInt Int64.maxValue.toInt s).map Int64.ofInt

def Component.parse (word : List Char) : Component :=
  match String.ofList (trimMatches (· = '"') word) with
  | "@method" => method
  | "@target-uri" => targetUri
  | "@authority" => authority
  | "@path" => path
  | "@query" => query
  | other => header other

/-- The value of a parameter, without its quotes; unknown parameters are ignored. -/
def SignatureParams.withField (params : SignatureParams) (key : String) (value : List Char) :
    SignatureParams :=
  match key with
  | "keyid" => { params with keyid := String.ofList value }
  | "alg" =>
    match String.ofList value with
    | "ed25519" => { params with alg := .ed25519 }
    | "ed25519+ml-dsa-65" => { params with alg := .hybrid }
    | _ => { params with alg := .ed25519 }
  | "created" => { params with created := (parseI64 value).getD 0 }
  | "expires" => { params with expires := some ((parseI64 value).getD 0) }
  | "nonce" => { params with nonce := some (String.ofList value) }
  | _ => params

def SignatureParams.withPart (params : SignatureParams) (part : List Char) : SignatureParams :=
  let part := trim part
  if part.isEmpty then params
  else
    match splitOnce '=' part with
    | some (key, value) => params.withField (String.ofList key) (trimMatches (· = '"') value)
    | none => params

/-- `parse_signature_input`, at the second the clock shows. -/
def parseSignatureInput (input : String) (now : Int64) :
    Outcome (List Component × SignatureParams) := do
  let input := trim input.toList
  let (label, rest) ← orFault (orErr (splitOnce '=' input) "Invalid Signature-Input: missing '='")
  let parenStart ← orFault (orErr (rest.idxOf? '(') "Invalid Signature-Input: missing '('")
  let parenEnd ← orFault (orErr (rest.idxOf? ')') "Invalid Signature-Input: missing ')'")
  -- A closing parenthesis before the opening one makes the range of the slice invalid.
  if parenEnd < parenStart + 1 then .error (.panic "slice index starts after its end")
  let componentsStr := (rest.take parenEnd).drop (parenStart + 1)
  let components := (splitWhitespace componentsStr).map Component.parse
  let paramsStr := rest.drop (parenEnd + 1)
  let params := { SignatureParams.default now with label := String.ofList label }
  .ok (components, (paramsStr.splitOn ';').foldl SignatureParams.withPart params)

def parseSignature (header : String) : Except String (String × List UInt8) := do
  let (label, rest) ← orErr (splitOnce '=' header.toList) "Invalid Signature header: missing '='"
  let sigB64 := String.ofList (trimMatches (· = ':') rest)
  let sigBytes ← orErr (unbase64 sigB64) "Invalid Signature header: bad base64"
  .ok (String.ofList label, sigBytes)

/-! ### Verification -/

def SignatureParams.expired (params : SignatureParams) (now : Int64) : Bool :=
  match params.expires with
  | some e => decide (e < now)
  | none => false

section Verify
variable [UrlCrate] [Unicode] [Ed25519]

def verifyRequest (request : HttpRequest) (signatureInput signature edPublicKeyB64 : String)
    (now : Int64) :
    Outcome VerificationResult := do
  let (components, params) ← parseSignatureInput signatureInput now
  let (_, sigBytes) ← orFault (parseSignature signature)
  let sigBase ← orFault (buildSignatureBase request components params)
  let pubBytes ← orFault (orErr (unbase64 edPublicKeyB64) "Invalid public key base64")
  let pubArray ← orFault (orErr (tryInto 32 pubBytes) "Public key must be 32 bytes")
  if !Ed25519.fromBytes pubArray then .error (.error "Invalid Ed25519 public key")
  let sigArray ← orFault (orErr (tryInto 64 sigBytes) "Signature must be 64 bytes")
  .ok { ed25519Valid := Ed25519.verify pubArray sigBase.toUTF8 sigArray, mldsa65Valid := none,
        keyid := params.keyid, alg := params.alg.asStr, created := params.created, expired :=
          params.expired now }

def verifyRequestHybrid [MlDsa65] (request : HttpRequest)
    (signatureInput signature pqSignature edPublicKeyB64 mldsaPublicKeyB64 : String) (now : Int64) :
    Outcome VerificationResult := do
  let result ← verifyRequest request signatureInput signature edPublicKeyB64 now
  let (components, params) ← parseSignatureInput signatureInput now
  let sigBase ← orFault (buildSignatureBase request components params)
  let (_, pqSigBytes) ← orFault (parseSignature pqSignature)
  let pqSigB64 := base64 pqSigBytes
  let pqValid ← orFault (mldsaVerify mldsaPublicKeyB64 sigBase.toUTF8 pqSigB64)
  .ok { result with mldsa65Valid := some pqValid, alg := "ed25519+ml-dsa-65" }

/-- What a verification that comes to a result has read and checked. -/
theorem verifyRequest_ok {request : HttpRequest} {input signature key : String} {now : Int64}
    {result : VerificationResult} (ran : verifyRequest request input signature key now = .ok result) :
    ∃ components params label bytes base, parseSignatureInput input now = .ok (components, params) ∧
      parseSignature signature = .ok (label, bytes) ∧
      buildSignatureBase request components params = .ok base ∧
      verify key base.toUTF8 (base64 bytes) = .ok result.ed25519Valid ∧ result.mldsa65Valid = none := by
  obtain ⟨⟨components, params⟩, read, ran⟩ := bind_ok ran
  obtain ⟨⟨label, bytes⟩, decoded, ran⟩ := bind_ok ran
  obtain ⟨base, built, ran⟩ := bind_ok ran
  obtain ⟨pub, key', ran⟩ := bind_ok ran
  obtain ⟨k, pubArray, ran⟩ := bind_ok ran
  cases sound : Ed25519.fromBytes k with
  | false =>
    simp only [sound, Bool.not_false, if_true] at ran
    cases ran
  | true =>
    simp only [sound, Bool.not_true, Bool.false_eq_true, if_false] at ran
    obtain ⟨s, sigArray, ran⟩ := bind_ok ran
    refine ⟨components, params, label, bytes, base, read, orFault_eq_ok decoded, orFault_eq_ok built, ?_, ?_⟩
    · have keyRead := orErr_ok (orFault_eq_ok key')
      have keyLength := orErr_ok (orFault_eq_ok pubArray)
      have length := orErr_ok (orFault_eq_ok sigArray)
      rw [← Except.ok.inj ran]
      simp only [verify, keyRead, keyLength, length, unbase64_base64, orErr_some, bind, Except.bind, sound,
        if_true]
    · rw [← Except.ok.inj ran]

end Verify

end GrokingClawId.Core
