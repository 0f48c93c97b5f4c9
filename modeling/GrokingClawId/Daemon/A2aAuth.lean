import GrokingClawId.Daemon.Supervisor

/-!
# Signatures on A2A requests

`verify_request_signature` of `a2a.rs`: which requests count as signed by a managed agent. The
signature covers the method, the target, the authority and the text of `Signature-Input`; the ML-DSA
signature is checked when the request brings one and the card of the caller has a key for it.
-/

namespace GrokingClawId.Daemon.A2a
open GrokingClawId.Core Text

/-! ### Requests -/

/-- `http::Uri`, by its text and what its accessors return. -/
structure Uri where
  text : String
  path : String
  authority : Option String
  deriving DecidableEq

abbrev HeaderValue := List UInt8

/-- A request as the HTTP server delivers it, with the names of its headers in lower case and what
reading its body comes to. -/
structure Request where
  method : String
  uri : Uri
  headers : List (String × HeaderValue)
  body : Except String (List UInt8)

/-- `HeaderMap::get`: the first value under the name. -/
def Request.header (request : Request) (name : String) : Option HeaderValue :=
  request.headers.lookup name

namespace HeaderValue

def visible (b : UInt8) : Bool := b = 9 || (32 ≤ b && b < 127)

/-- `to_str`: visible ASCII and tabs. -/
def toStr (value : HeaderValue) : Option String :=
  if value.all visible then some (String.ofList (value.map fun b => Char.ofNat b.toNat)) else none

def ofText (text : String) : HeaderValue := text.toList.map fun c => UInt8.ofNat c.toNat

def isVisible (c : Char) : Bool := decide (32 ≤ c.toNat ∧ c.toNat < 127)

theorem toStr_ofText {text : String} (plain : ∀ c ∈ text.toList, isVisible c = true) :
    toStr (ofText text) = some text := by
  have small : ∀ c ∈ text.toList, (UInt8.ofNat c.toNat).toNat = c.toNat := by
    intro c member
    have range := of_decide_eq_true (plain c member)
    have below : c.toNat < UInt8.size := lt_trans range.2 (by decide)
    exact UInt8.toNat_ofNat_of_lt below
  have all : (ofText text).all visible = true := by
    rw [List.all_eq_true]
    intro b member
    obtain ⟨c, present, rfl⟩ := List.mem_map.mp member
    have range := of_decide_eq_true (plain c present)
    have value := small c present
    have low : (32 : UInt8) ≤ UInt8.ofNat c.toNat := by
      rw [UInt8.le_iff_toNat_le, value]
      exact range.1
    have high : UInt8.ofNat c.toNat < (127 : UInt8) := by
      rw [UInt8.lt_iff_toNat_lt, value]
      exact range.2
    simp [visible, low, high]
  have chars : (ofText text).map (fun b => Char.ofNat b.toNat) = text.toList := by
    rw [ofText, List.map_map]
    refine (List.map_congr_left fun c member => ?_).trans (List.map_id _)
    rw [Function.comp_apply, small c member]
    exact Char.ofNat_toNat c
  rw [toStr, if_pos all, chars, String.ofList_toList]

end HeaderValue

/-! ### The signature headers -/

/-- The text of `Signature-Input` and the bytes of the signature, when both headers are there. -/
def readSignature (request : Request) : Except String (Option (String × List UInt8)) :=
  match request.header "signature", request.header "signature-input" with
  | some sigHeader, some sigInput => do
    let sigValue ← orErr sigHeader.toStr "Invalid Signature header encoding"
    let inputValue ← orErr sigInput.toStr "Invalid Signature-Input header encoding"
    let sigB64 ← orErr ((stripPrefix "sig1=:".toList sigValue.toList).bind (stripSuffix [':']))
      "Invalid Signature format (expected sig1=:<base64>:)"
    let sigBytes ← orErr (unbase64 (String.ofList sigB64)) "Invalid Signature base64"
    .ok (some (inputValue, sigBytes))
  | _, _ => .ok none

theorem readSignature_ofText {request : Request} {input : String} {bytes : List UInt8}
    (sigHeader : request.header "signature" = some (.ofText s!"sig1=:{base64 bytes}:"))
    (inputHeader : request.header "signature-input" = some (.ofText input))
    (plain : ∀ c ∈ input.toList, HeaderValue.isVisible c = true) :
    readSignature request = .ok (some (input, bytes)) := by
  have chars : s!"sig1=:{base64 bytes}:".toList =
      "sig1=:".toList ++ (base64 bytes).toList ++ [':'] := by
    show ("sig1=:" ++ base64 bytes ++ ":").toList = _
    rw [String.toList_append, String.toList_append]
    rfl
  have text : ∀ c ∈ s!"sig1=:{base64 bytes}:".toList, HeaderValue.isVisible c = true := by
    intro c member
    rw [chars, List.mem_append, List.mem_append] at member
    rcases member with (start | encoded) | last
    · exact forall_of_all (p := fun c => HeaderValue.isVisible c = true) (by decide) c start
    · rw [base64, String.toList_ofList] at encoded
      exact Codec.base64Encode_forall (by decide) (by decide) bytes c encoded
    · rw [List.mem_singleton.mp last]
      decide
  have cut : (stripPrefix "sig1=:".toList s!"sig1=:{base64 bytes}:".toList).bind (stripSuffix [':']) =
      some (base64 bytes).toList := by
    rw [chars, List.append_assoc, stripPrefix_append, Option.bind_some, stripSuffix_append]
  simp only [readSignature, sigHeader, inputHeader, HeaderValue.toStr_ofText text,
    HeaderValue.toStr_ofText plain, cut, String.ofList_toList, unbase64_base64, orErr_some, bind, Except.bind]

/-- What is signed, with `inputValue` as it stands in the header. -/
def signatureBase (request : Request) (inputValue : String) : String :=
  let host := (request.header "host").bind HeaderValue.toStr
  let authority := (request.uri.authority.or host).getD ""
  s!"\"@method\": {request.method}\n\"@target-uri\": {request.uri.text}\n\"@authority\": {authority}\n\"@signature-params\": {inputValue}"

section Verify
variable [Ed25519] [MlDsa65] [FromStr AgentCard]

/-- The card of the managed agent that the request names. -/
def callerCard (daemon : DaemonState) (request : Request) : Except String (Option AgentCard) :=
  match (request.header "x-clawid-agent").bind HeaderValue.toStr with
  | none => .ok none
  | some agentId =>
    match daemon.supervisor.getAgent agentId with
    | none => .ok none
    | some agentInfo =>
      match daemon.cardFile agentInfo.name with
      | .absent => .ok none
      | .unreadable e => .error e
      | .content cardJson => do
        let card ← FromStr.fromStr cardJson
        .ok (some card)

def checkPq (request : Request) (card : AgentCard) (sigBase : String) : Except String Unit :=
  match request.header "x-clawid-pq-signature", card.pqPublicKey with
  | some pqSigHeader, some pqPk => do
    let pqSig ← orErr pqSigHeader.toStr "Invalid PQ signature header: failed to convert header to a str"
    let pqVerified ← mldsaVerify pqPk sigBase.toUTF8 pqSig
    if pqVerified then .ok () else .error "ML-DSA-65 (PQ) signature verification failed"
  | _, _ => .ok ()

def verifyRequestSignature (daemon : DaemonState) (request : Request) : Except String Bool := do
  match ← readSignature request with
  | none => .ok false
  | some (inputValue, sigBytes) =>
    let sigBase := signatureBase request inputValue
    match ← callerCard daemon request with
    | none => .ok false
    | some card =>
      let verified ← verify card.publicKey sigBase.toUTF8 (base64 sigBytes)
      if !verified then .error "Ed25519 signature verification failed"
      else
        checkPq request card sigBase
        .ok true

/-! ### What an accepted request has shown -/

/-- The request is signed with the Ed25519 key of the card that its caller has. -/
structure Signs (daemon : DaemonState) (request : Request) (sigBase : String) (card : AgentCard) :
    Prop where
  caller : callerCard daemon request = .ok (some card)
  ed25519 : ∃ inputValue sigBytes, readSignature request = .ok (some (inputValue, sigBytes)) ∧
    sigBase = signatureBase request inputValue ∧
      verify card.publicKey sigBase.toUTF8 (base64 sigBytes) = .ok true

/-- The request brings an ML-DSA signature that verifies under the key of the card. -/
def PqSigns (request : Request) (sigBase : String) (card : AgentCard) : Prop :=
  ∃ pqSigHeader pqPk pqSig, request.header "x-clawid-pq-signature" = some pqSigHeader ∧
    card.pqPublicKey = some pqPk ∧ pqSigHeader.toStr = some pqSig ∧
      mldsaVerify pqPk sigBase.toUTF8 pqSig = .ok true

/-- There is an ML-DSA signature to check, and a key to check it with. -/
def PqOffered (request : Request) (card : AgentCard) : Prop :=
  request.header "x-clawid-pq-signature" ≠ none ∧ card.pqPublicKey ≠ none

omit [Ed25519] [FromStr AgentCard] in
theorem checkPq_iff (request : Request) (card : AgentCard) (sigBase : String) :
    checkPq request card sigBase = .ok () ↔
      (PqOffered request card → PqSigns request sigBase card) := by
  unfold checkPq PqOffered PqSigns
  cases header : request.header "x-clawid-pq-signature" with
  | none => simp
  | some pqSigHeader =>
    cases key : card.pqPublicKey with
    | none => simp
    | some pqPk =>
      cases text : pqSigHeader.toStr with
      | none => simp [text, orErr, bind, Except.bind]
      | some pqSig =>
        generalize sigBase.toUTF8 = message
        cases verified : mldsaVerify pqPk message pqSig with
        | error e => simp [text, verified, bind, Except.bind]
        | ok valid => cases valid <;> simp [text, verified, bind, Except.bind]

/-- A request is accepted exactly when its caller's Ed25519 key signed it, and its ML-DSA key too
where there is a signature and a key to check. -/
theorem verifyRequestSignature_iff (daemon : DaemonState) (request : Request) :
    verifyRequestSignature daemon request = .ok true ↔ ∃ sigBase card,
      Signs daemon request sigBase card ∧
      (PqOffered request card → PqSigns request sigBase card) := by
  constructor
  · intro accepted
    obtain ⟨read, headers, accepted⟩ := bind_ok accepted
    cases read with
    | none => cases accepted
    | some pair =>
      obtain ⟨inputValue, sigBytes⟩ := pair
      obtain ⟨found, caller, accepted⟩ := bind_ok accepted
      cases found with
      | none => cases accepted
      | some card =>
        obtain ⟨verified, ed25519, accepted⟩ := bind_ok accepted
        cases verified with
        | false => cases accepted
        | true =>
          obtain ⟨_, pq, _⟩ := bind_ok accepted
          exact ⟨_, card, ⟨caller, inputValue, sigBytes, headers, rfl, ed25519⟩, (checkPq_iff _ _ _).mp pq⟩
  · rintro ⟨_, card, ⟨caller, inputValue, sigBytes, headers, rfl, ed25519⟩, pq⟩
    have checked := (checkPq_iff request card (signatureBase request inputValue)).mpr pq
    simp only [verifyRequestSignature, headers, caller, ed25519, checked, bind, Except.bind,
      Bool.not_true, Bool.false_eq_true, if_false]

omit [MlDsa65] in
/-- A request is signed when its caller's key made the signature over what it says. -/
theorem signs_ofSign (correct : Ed25519.Correct) {daemon : DaemonState} {request : Request}
    {card : AgentCard} {seed : Bytes 32} {input : String}
    (caller : callerCard daemon request = .ok (some card))
    (key : card.publicKey = encodePublicKey (Ed25519.verifyingKey seed))
    (sigHeader : request.header "signature" =
      some (.ofText s!"sig1=:{sign seed (signatureBase request input).toUTF8}:"))
    (inputHeader : request.header "signature-input" = some (.ofText input))
    (plain : ∀ c ∈ input.toList, HeaderValue.isVisible c = true) :
    Signs daemon request (signatureBase request input) card := by
  refine ⟨caller, input, _, readSignature_ofText sigHeader inputHeader plain, rfl, ?_⟩
  rw [key]
  exact verify_sign correct seed _

end Verify

end GrokingClawId.Daemon.A2a
