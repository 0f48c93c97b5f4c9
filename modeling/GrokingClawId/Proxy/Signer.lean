import GrokingClawId.Core.HttpSigText
import GrokingClawId.Core.Pem
import GrokingClawId.Lib.Slices
import GrokingClawId.Proxy.Server

/-!
# Request signer

`signer.rs`: the signer that is made from the key file of an agent, and what the headers say that
it adds to a request.
-/

namespace GrokingClawId.Proxy
open GrokingClawId.Core Text

/-! ### Loading the key -/

/-- `&s[..n.min(s.len())]`, which panics inside a character. -/
def slicePrefix : Nat → List Char → Outcome (List Char)
  | 0, _ => .ok []
  | _ + 1, [] => .ok []
  | n + 1, c :: s =>
    if c.utf8Size ≤ n + 1 then do
      let rest ← slicePrefix (n + 1 - c.utf8Size) s
      .ok (c :: rest)
    else .error (.panic "byte index is not a char boundary")

theorem slicePrefix_subset {n : Nat} {s start : List Char} (cut : slicePrefix n s = .ok start) :
    ∀ c ∈ start, c ∈ s := by
  induction s generalizing n start with
  | nil =>
    cases n <;> (obtain rfl := Except.ok.inj cut; exact fun c member => member)
  | cons x s ih =>
    cases n with
    | zero =>
      obtain rfl := Except.ok.inj cut
      exact fun c member => absurd member List.not_mem_nil
    | succ n =>
      rw [slicePrefix] at cut
      by_cases fits : x.utf8Size ≤ n + 1
      · rw [if_pos fits] at cut
        obtain ⟨rest, inner, done⟩ := bind_ok cut
        obtain rfl := Except.ok.inj done
        intro c member
        rcases List.mem_cons.mp member with rfl | later
        · exact List.mem_cons_self
        · exact List.mem_cons_of_mem _ (ih inner c later)
      · rw [if_neg fits] at cut
        cases cut

theorem slicePrefix_ascii {s : List Char} (ascii : ∀ c ∈ s, c.toNat < 128) (n : Nat) :
    slicePrefix n s = .ok (s.take n) := by
  induction s generalizing n with
  | nil => cases n <;> rfl
  | cons c s ih =>
    cases n with
    | zero => rfl
    | succ n =>
      have small := utf8Size_ascii (ascii c List.mem_cons_self)
      have rest := ih (fun x member => ascii x (List.mem_cons_of_mem _ member)) n
      rw [slicePrefix, small, if_pos (by omega), Nat.add_sub_cancel, rest]
      rfl

/-- `RequestSigner::from_pem`; `file` is what the key file reads as. -/
def RequestSigner.fromPem (pemPath : String) (file : Option String) (agentId : String) :
    Outcome RequestSigner := do
  let pem ← orFault (orErr file s!"Failed to read key: {pemPath}")
  let start ← slicePrefix 8 agentId.toList
  let keyId := s!"clawid-{String.ofList start}"
  match decodeHybridPrivateKeyPem pem.toList with
  | .ok (edKey, pqSecret) =>
    .ok { signingKey := edKey, pqSecretKey := some pqSecret, agentId := agentId, keyId := keyId }
  | .error (.panic reason) => .error (.panic reason)
  | .error (.error _) =>
    let signingKey ← orFault
      ((decodePrivateKeyPem pem.toList).mapError fun _ => "Failed to decode agent private key")
    .ok { signingKey := signingKey, pqSecretKey := none, agentId := agentId, keyId := keyId }

theorem RequestSigner.fromPem_ok {pemPath : String} {file : Option String} {agentId : String}
    {signer : RequestSigner} (made : RequestSigner.fromPem pemPath file agentId = .ok signer) :
    signer.agentId = agentId ∧ ∃ start, slicePrefix 8 agentId.toList = .ok start ∧
      signer.keyId = s!"clawid-{String.ofList start}" := by
  obtain ⟨pem, _, made⟩ := bind_ok made
  obtain ⟨start, cut, made⟩ := bind_ok made
  cases hybrid : decodeHybridPrivateKeyPem pem.toList with
  | ok keys =>
    simp only [hybrid] at made
    obtain rfl := Except.ok.inj made
    exact ⟨rfl, start, cut, rfl⟩
  | error fault =>
    cases fault with
    | panic reason =>
      simp only [hybrid] at made
      cases made
    | error message =>
      simp only [hybrid] at made
      obtain ⟨key, _, made⟩ := bind_ok made
      obtain rfl := Except.ok.inj made
      exact ⟨rfl, start, cut, rfl⟩

theorem uuid_ascii (id : Uuid) : ∀ c ∈ id.toText.toList, c.toNat < 128 := by
  intro c member
  have digits : ∀ n < 16, (Nat.digitChar n).toNat < 128 := by decide
  rcases Uuid.mem_toText member with ⟨n, small, rfl⟩ | rfl
  · exact digits n small
  · decide

/-- The signer of an agent with an Ed25519 key file. -/
theorem RequestSigner.fromPem_ed25519 (pemPath : String) (key : Core.Bytes 32) (id : Uuid) :
    RequestSigner.fromPem pemPath (some (encodePrivateKeyPem key)) id.toText =
      .ok { signingKey := key, pqSecretKey := none, agentId := id.toText,
            keyId := s!"clawid-{String.ofList (id.toText.toList.take 8)}" } := by
  simp only [RequestSigner.fromPem, orErr_some, orFault_ok, bind, Except.bind,
    slicePrefix_ascii (uuid_ascii id), decodeHybridPrivateKeyPem_ed25519, decodePrivateKeyPem_encode,
    Except.mapError]

/-- The signer of an agent with a hybrid key file has both keys. -/
theorem RequestSigner.fromPem_hybrid (pemPath : String) (key : Core.Bytes 32) (secret : List UInt8)
    (id : Uuid) :
    RequestSigner.fromPem pemPath (some (encodeHybridPrivateKeyPem key secret)) id.toText =
      .ok { signingKey := key, pqSecretKey := some secret, agentId := id.toText,
            keyId := s!"clawid-{String.ofList (id.toText.toList.take 8)}" } := by
  simp only [RequestSigner.fromPem, orErr_some, orFault_ok, bind, Except.bind,
    slicePrefix_ascii (uuid_ascii id), decodeHybridPrivateKeyPem_encode]

/-! ### The signed text -/

/-- The signature parameters, in the order in which the signer writes them. -/
def RequestSigner.params (signer : RequestSigner) (now : DateTime) (nonce : Uuid) : String :=
  let created := now.timestamp
  let nonce := nonce.toText
  let keyId := signer.keyId
  s!"(\"@method\" \"@target-uri\" \"@authority\");created={created};keyid=\"{keyId}\";nonce=\"{nonce}\";alg=\"ed25519\""

/-- `verify_request` does not verify the parameters in this order as they are. -/
theorem RequestSigner.params_not_canonical [Unicode] (signer : RequestSigner) (now : DateTime)
    (nonce : Uuid) : ¬ Canonical (signer.params now nonce).toList := by
  rintro ⟨words, params, text, quoted, _⟩
  have order : ∃ more, (signer.params now nonce).toList =
      "(\"@method\" \"@target-uri\" \"@authority\"".toList ++ ')' :: ';' :: 'c' :: more := by
    have start : "(\"@method\" \"@target-uri\" \"@authority\");created=".toList =
        "(\"@method\" \"@target-uri\" \"@authority\"".toList ++ ')' :: ';' :: 'c' :: "reated=".toList := by
      decide
    unfold RequestSigner.params
    simp only [toString, String.toList_append, start, List.append_assoc, List.cons_append]
    exact ⟨_, rfl⟩
  obtain ⟨more, order⟩ := order
  have cut := splitOnce_append (close_not_mem_list quoted) (params.parts.flatMap (';' :: ·))
  rw [← text, order, splitOnce_append (by decide)] at cut
  have fields := (Prod.mk.inj (Option.some.inj cut)).2
  exact absurd (List.cons.inj (List.cons.inj fields).2).1 (by decide)

section Signer
variable [UrlCrate] [Unicode] [Chrono] [Ed25519] [MlDsa65]

def RequestSigner.base (signer : RequestSigner) (method uri : String) (now : DateTime)
    (nonce : Uuid) : String :=
  let upper := Unicode.toUppercase method
  let authority := extractAuthority uri
  s!"\"@method\": {upper}\n\"@target-uri\": {uri}\n\"@authority\": {authority}\n\"@signature-params\": {signer.params now nonce}"

/-- The header with the signature of the second key. -/
def RequestSigner.pqHeaders (signer : RequestSigner) (base : String) (rng : Nat) :
    List (String × String) :=
  match signer.pqSecretKey with
  | some pqKey =>
    match mldsaSign pqKey base.toUTF8 rng with
    | .ok pqSigB64 => [("Signature-PQ", s!"sig1=:{pqSigB64}:")]
    | .error _ => []
  | none => []

def dateHeader (existingHeaders : List (String × String)) (now : DateTime) : List (String × String) :=
  if existingHeaders.any fun header => Unicode.toLowercase header.1 = "date" then []
  else [("Date", Chrono.toRfc2822 now)]

omit [UrlCrate] [Unicode] [Chrono] [Ed25519] in
theorem RequestSigner.pqHeaders_name {signer : RequestSigner} {base : String} {rng : Nat}
    {header : String × String} (member : header ∈ signer.pqHeaders base rng) :
    header.1 = "Signature-PQ" := by
  unfold pqHeaders at member
  cases key : signer.pqSecretKey with
  | none => simp [key] at member
  | some pqKey =>
    cases signed : mldsaSign pqKey base.toUTF8 rng with
    | error e => simp only [key, signed, List.not_mem_nil] at member
    | ok pqSigB64 =>
      simp only [key, signed, List.mem_singleton] at member
      rw [member]

/-- The three headers that every signed request gets, before those of the key and the date. -/
theorem RequestSigner.signRequest_headers (signer : RequestSigner) (method uri : String)
    (existingHeaders : List (String × String)) (now : DateTime) (nonce : Uuid) (rng : Nat) :
    ∃ more, signer.signRequest method uri existingHeaders now nonce rng =
      [("Signature-Input", s!"sig1={signer.params now nonce}"),
        ("Signature", s!"sig1=:{sign signer.signingKey (signer.base method uri now nonce).toUTF8}:"),
        ("X-ClawID-Agent", signer.agentId)] ++ more ∧
      ∀ header ∈ more, header.1 = "Signature-PQ" ∨ header.1 = "Date" := by
  refine ⟨_, List.append_assoc _ (signer.pqHeaders (signer.base method uri now nonce) rng)
    (dateHeader existingHeaders now), fun header member => ?_⟩
  rcases List.mem_append.mp member with listed | listed
  · exact .inl (pqHeaders_name listed)
  · right
    unfold dateHeader at listed
    split at listed
    · cases listed
    · rw [List.mem_singleton.mp listed]

end Signer

end GrokingClawId.Proxy
