import Mathlib.Data.List.TakeDrop
import GrokingClawId.Lib.Codec
import GrokingClawId.Lib.Text

/-!
# Cryptographic utilities

`crypto.rs`: signing and verification over base64 text, the PEM-like key files, and the hash of
an audit entry. The signature schemes and SHA-256 are parameters; what is assumed of them is
said by `Ed25519.Correct`, `Ed25519.Binding`, `MlDsa65.Correct` and injectivity of the digest.
-/

namespace GrokingClawId.Core
open Text Codec

/-- How a call ends when it does not return: an `anyhow` error with its outermost text, or a
panic. -/
inductive Fault where
  | error (message : String)
  | panic (reason : String)
  deriving DecidableEq, Repr

abbrev Outcome := Except Fault

/-- An `Err` that cannot be a panic, inside a function that can. -/
def orFault {α : Type} : Except String α → Outcome α
  | .ok a => .ok a
  | .error message => .error (.error message)

def orErr {α : Type} (o : Option α) (message : String) : Except String α :=
  match o with
  | some a => .ok a
  | none => .error message

@[simp] theorem orErr_some {α : Type} (a : α) (message : String) :
    orErr (some a) message = .ok a := rfl

@[simp] theorem orFault_ok {α : Type} (a : α) : orFault (.ok a) = .ok a := rfl

theorem orErr_ok {α : Type} {o : Option α} {message : String} {a : α}
    (h : orErr o message = .ok a) : o = some a := by
  cases o with
  | none => cases h
  | some b => rw [Except.ok.inj h]

theorem orFault_eq_ok {α : Type} {x : Except String α} {a : α} (h : orFault x = .ok a) :
    x = .ok a := by
  cases x with
  | error e => cases h
  | ok b => rw [Except.ok.inj h]

theorem mapError_eq_ok {ε ε' α : Type} {x : Except ε α} {f : ε → ε'} {a : α}
    (h : x.mapError f = .ok a) : x = .ok a := by
  cases x with
  | error e => cases h
  | ok b => rw [Except.ok.inj h]

theorem bind_ok {ε α β : Type} {x : Except ε α} {f : α → Except ε β} {b : β}
    (h : (x >>= f) = .ok b) :
    ∃ a, x = .ok a ∧ f a = .ok b := by
  cases x with
  | error e => cases h
  | ok a => exact ⟨a, rfl, h⟩

abbrev Bytes (n : Nat) := {bytes : List UInt8 // bytes.length = n}

def tryInto (n : Nat) (bytes : List UInt8) : Option (Bytes n) :=
  if h : bytes.length = n then some ⟨bytes, h⟩ else none

@[simp] theorem tryInto_val {n : Nat} (bytes : Bytes n) : tryInto n bytes.val = some bytes := by
  simp [tryInto, bytes.property]

theorem tryInto_some {n : Nat} {bytes : List UInt8} {array : Bytes n} (fits : tryInto n bytes = some array) :
    array.val = bytes := by
  unfold tryInto at fits
  split at fits
  · rw [← Option.some.inj fits]
  · cases fits

/-! ### Third-party schemes -/

/-- `ed25519_dalek`: a signing key is its 32-byte seed. -/
class Ed25519 where
  verifyingKey : Bytes 32 → Bytes 32
  /-- `VerifyingKey::from_bytes` succeeds. -/
  fromBytes : Bytes 32 → Bool
  sign : Bytes 32 → ByteArray → Bytes 64
  verify : Bytes 32 → ByteArray → Bytes 64 → Bool

/-- Every key pair's own signatures verify. -/
structure Ed25519.Correct [Ed25519] : Prop where
  fromBytes_verifyingKey : ∀ seed, fromBytes (verifyingKey seed) = true
  verify_sign : ∀ seed message, verify (verifyingKey seed) message (sign seed message) = true

/-- Among these messages a signature is made over one: under this key it verifies over no other of
them. -/
def Ed25519.Binding [Ed25519] (key : Bytes 32) (messages : List ByteArray) : Prop :=
  ∀ signature, ∀ message ∈ messages, ∀ message' ∈ messages, verify key message signature = true →
    verify key message' signature = true → message = message'

/-- Among these messages what this key signed over one verifies over no other, under any key. -/
def Ed25519.Exclusive [Ed25519] (seed : Bytes 32) (messages : List ByteArray) : Prop :=
  ∀ key, ∀ message ∈ messages, ∀ message' ∈ messages,
    verify key message' (sign seed message) = true → message = message'

/-- `fips204::ml_dsa_65`. The number stands for what `OsRng` delivers; an error is the crate's
text. -/
class MlDsa65 where
  keygen : Nat → Except String (Bytes 1952 × Bytes 4032)
  publicKey : Bytes 1952 → Except String Unit
  privateKey : Bytes 4032 → Except String Unit
  sign : Bytes 4032 → ByteArray → Nat → Except String (Bytes 3309)
  verify : Bytes 1952 → ByteArray → Bytes 3309 → Bool

/-- Key generation and signing do not fail, and generated pairs verify their own signatures. -/
structure MlDsa65.Correct [MlDsa65] : Prop where
  keygen_ok : ∀ rng, ∃ pair, keygen rng = .ok pair
  publicKey_ok : ∀ rng pair, keygen rng = .ok pair → publicKey pair.1 = .ok ()
  privateKey_ok : ∀ rng pair, keygen rng = .ok pair → privateKey pair.2 = .ok ()
  sign_ok : ∀ rng pair, keygen rng = .ok pair → ∀ message rng', ∃ signature,
    sign pair.2 message rng' = .ok signature ∧ verify pair.1 message signature = true

/-- `sha2::Sha256`. The length of a digest is left open: an injective one of fixed length does not
exist. -/
class Sha256 where
  digest : ByteArray → List UInt8

/-! Stand-ins that satisfy the assumptions, to run the model with. -/

namespace StandIn

/-- Signs with the first 64 bytes of the message. -/
scoped instance ed25519 : Ed25519 where
  verifyingKey seed := seed
  fromBytes _ := true
  sign _ message := ⟨message.data.toList.takeD 64 0, List.takeD_length 64 _ 0⟩
  verify _ message signature := decide (signature.val = message.data.toList.takeD 64 0)

theorem ed25519_correct : Ed25519.Correct where
  fromBytes_verifyingKey _ := rfl
  verify_sign _ message := decide_eq_true (Eq.refl (message.data.toList.takeD 64 0))

/-- Tells one message from all others. -/
@[reducible] def marking (marked : ByteArray) : Ed25519 where
  verifyingKey seed := seed
  fromBytes _ := true
  sign _ message :=
    ⟨List.replicate 64 (if message.data = marked.data then 1 else 0), List.length_replicate⟩
  verify _ message signature :=
    decide (signature.val = List.replicate 64 (if message.data = marked.data then 1 else 0))

/-- Of the marked message and one other, only the marked one is signed as it is. -/
theorem marking_tells {marked other message message' : ByteArray} (member : message ∈ [marked, other])
    (member' : message' ∈ [marked, other])
    (same : List.replicate 64 (if message.data = marked.data then (1 : UInt8) else 0) =
      List.replicate 64 (if message'.data = marked.data then 1 else 0)) : message = message' := by
  have bit : (if message.data = marked.data then (1 : UInt8) else 0) =
      if message'.data = marked.data then 1 else 0 :=
    (List.replicate_right_inj (by decide)).mp same
  have alternatives : ∀ m ∈ [marked, other], m.data ≠ marked.data → m = other := by
    intro m listed different
    rcases List.mem_cons.mp listed with first | second
    · exact absurd (congrArg ByteArray.data first) different
    · exact List.mem_singleton.mp second
  by_cases here : message.data = marked.data
  · by_cases there : message'.data = marked.data
    · exact ByteArray.ext (here.trans there.symm)
    · rw [if_pos here, if_neg there] at bit
      exact absurd bit (by decide)
  · by_cases there : message'.data = marked.data
    · rw [if_neg here, if_pos there] at bit
      exact absurd bit (by decide)
    · exact (alternatives message member here).trans (alternatives message' member' there).symm

theorem marking_exclusive (marked other : ByteArray) (seed : Bytes 32) :
    letI := marking marked
    Ed25519.Exclusive seed [marked, other] := by
  intro key message member message' member' verified
  exact marking_tells member member' (of_decide_eq_true verified)

theorem marking_binding (marked other : ByteArray) (key : Bytes 32) :
    letI := marking marked
    Ed25519.Binding key [marked, other] := by
  intro signature message member message' member' verified verified'
  have first := of_decide_eq_true verified
  exact marking_tells member member' (first.symm.trans (of_decide_eq_true verified'))

theorem marking_correct (marked : ByteArray) :
    letI := marking marked
    Ed25519.Correct :=
  @Ed25519.Correct.mk (marking marked) (fun _ => rfl) (fun _ _ => decide_eq_true rfl)

/-- One key pair, and the first 3309 bytes of the message as its signature. -/
scoped instance mlDsa65 : MlDsa65 where
  keygen _ := .ok (⟨List.replicate 1952 0, List.length_replicate⟩,
    ⟨List.replicate 4032 0, List.length_replicate⟩)
  publicKey _ := .ok ()
  privateKey _ := .ok ()
  sign _ message _ := .ok ⟨message.data.toList.takeD 3309 0, List.takeD_length 3309 _ 0⟩
  verify _ message signature := decide (signature.val = message.data.toList.takeD 3309 0)

theorem mlDsa65_correct : MlDsa65.Correct where
  keygen_ok _ := ⟨_, rfl⟩
  publicKey_ok _ _ _ := rfl
  privateKey_ok _ _ _ := rfl
  sign_ok _ _ _ message _ := ⟨_, rfl, decide_eq_true (Eq.refl (message.data.toList.takeD 3309 0))⟩

scoped instance sha256 : Sha256 where
  digest message := message.data.toList

def seed : Bytes 32 := ⟨List.replicate 32 0, List.length_replicate⟩

scoped instance unicode : Unicode where
  toLowercase s := String.ofList (s.toList.map Char.toLower)
  toUppercase s := String.ofList (s.toList.map Char.toUpper)
  isAlphanumeric := Char.isAlphanum
  isPrintable c := decide (0x20 ≤ c.toNat ∧ c.toNat < 0x7f)
  isGraphemeExtended _ := false

theorem unicode_ascii : Unicode.Ascii := ⟨fun _ _ => rfl⟩

theorem sha256_injective : Function.Injective Sha256.digest := by
  intro a b same
  exact ByteArray.ext (Array.toList_inj.mp same)

end StandIn

/-- The base64 `STANDARD` engine. -/
def base64 (bytes : List UInt8) : String := String.ofList (base64Encode bytes)

def unbase64 (text : String) : Option (List UInt8) := base64Decode text.toList

@[simp] theorem unbase64_base64 (bytes : List UInt8) : unbase64 (base64 bytes) = some bytes := by
  simp [unbase64, base64, base64Decode_encode]

/-! ### Ed25519 -/

section Ed25519
variable [Ed25519]

def sign (signingKey : Bytes 32) (message : ByteArray) : String :=
  base64 (Ed25519.sign signingKey message).val

/-- `Ok(true)` for a valid signature, `Ok(false)` for one that does not match. -/
def verify (publicKeyB64 : String) (message : ByteArray) (signatureB64 : String) :
    Except String Bool := do
  let pubBytes ← orErr (unbase64 publicKeyB64) "Failed to decode public key from base64"
  let sigBytes ← orErr (unbase64 signatureB64) "Failed to decode signature from base64"
  let pubKeyArray ← orErr (tryInto 32 pubBytes) "Public key must be exactly 32 bytes"
  let sigArray ← orErr (tryInto 64 sigBytes) "Signature must be exactly 64 bytes"
  if Ed25519.fromBytes pubKeyArray then .ok (Ed25519.verify pubKeyArray message sigArray)
  else .error "Invalid public key bytes"

/-- `SigningKey::generate`, with the seed that `OsRng` delivers. -/
def generateKeypair (seed : Bytes 32) : Bytes 32 × Bytes 32 := (seed, Ed25519.verifyingKey seed)

def encodePublicKey (key : Bytes 32) : String := base64 key.val

theorem verify_sign (correct : Ed25519.Correct) (seed : Bytes 32) (message : ByteArray) :
    verify (encodePublicKey (Ed25519.verifyingKey seed)) message (sign seed message) =
      .ok true := by
  simp [verify, encodePublicKey, sign, correct.fromBytes_verifyingKey, correct.verify_sign, bind,
    Except.bind]

theorem verify_true {key signature : String} {message : ByteArray}
    (h : verify key message signature = .ok true) :
    ∃ pub sig, unbase64 key = some pub ∧ unbase64 signature = some sig ∧
      ∃ k s, tryInto 32 pub = some k ∧ tryInto 64 sig = some s ∧
        Ed25519.verify k message s = true := by
  obtain ⟨pub, hk, h⟩ := bind_ok h
  obtain ⟨sig, hs, h⟩ := bind_ok h
  obtain ⟨k, ha, h⟩ := bind_ok h
  obtain ⟨s, hb, h⟩ := bind_ok h
  split at h
  · exact ⟨pub, sig, orErr_ok hk, orErr_ok hs, k, s, orErr_ok ha, orErr_ok hb, Except.ok.inj h⟩
  · cases h

theorem verify_empty (key : String) (message : ByteArray) : verify key message "" ≠ .ok true := by
  intro verified
  obtain ⟨_, sig, _, decoded, _, s, _, length, _⟩ := verify_true verified
  obtain rfl : [] = sig := Option.some.inj decoded
  cases length

/-- The key that the text stands for has the property. -/
def Ed25519.BindingKey (publicKeyB64 : String) (messages : List ByteArray) : Prop :=
  ∀ key : Bytes 32, unbase64 publicKeyB64 = some key.val → Ed25519.Binding key messages

theorem verify_binding {messages : List ByteArray} {key signature : String}
    (binding : Ed25519.BindingKey key messages) {message message' : ByteArray} (member : message ∈ messages)
    (member' : message' ∈ messages) (first : verify key message signature = .ok true)
    (second : verify key message' signature = .ok true) :
    message = message' := by
  obtain ⟨pub, sig, hk, hs, k, s, ha, hb, signs⟩ := verify_true first
  obtain ⟨pub', sig', hk', hs', k', s', ha', hb', signs'⟩ := verify_true second
  obtain rfl := Option.some.inj (hk.symm.trans hk')
  obtain rfl := Option.some.inj (hs.symm.trans hs')
  obtain rfl := Option.some.inj (ha.symm.trans ha')
  obtain rfl := Option.some.inj (hb.symm.trans hb')
  have same : k.val = pub := tryInto_some ha
  exact binding k (same ▸ hk) s message member message' member' signs signs'

theorem verify_exclusive {messages : List ByteArray} {seed : Bytes 32}
    (exclusive : Ed25519.Exclusive seed messages) {key : String} {message message' : ByteArray}
    (member : message ∈ messages)
    (member' : message' ∈ messages) (verified : verify key message' (sign seed message) = .ok true) :
    message = message' := by
  obtain ⟨_, sig, _, hs, k, s, _, hb, signs⟩ := verify_true verified
  obtain rfl := Option.some.inj ((unbase64_base64 _).symm.trans hs)
  obtain rfl := Option.some.inj ((tryInto_val _).symm.trans hb)
  exact exclusive k message member message' member' signs

end Ed25519

/-! ### ML-DSA-65 -/

section MlDsa65
variable [MlDsa65]

structure MlDsaKeyPair where
  publicKeyBytes : List UInt8
  secretKeyBytes : List UInt8

def generateMldsaKeypair (rng : Nat) : Except String MlDsaKeyPair :=
  match MlDsa65.keygen rng with
  | .ok (pk, sk) => .ok ⟨pk.val, sk.val⟩
  | .error e => .error s!"ML-DSA-65 keygen failed: {e}"

def mldsaSign (secretKeyBytes : List UInt8) (message : ByteArray) (rng : Nat) :
    Except String String := do
  let sk ← orErr (tryInto 4032 secretKeyBytes) "ML-DSA-65 secret key has wrong length"
  (MlDsa65.privateKey sk).mapError fun e => s!"Failed to decode ML-DSA-65 secret key: {e}"
  let sig ← (MlDsa65.sign sk message rng).mapError fun e => s!"ML-DSA-65 signing failed: {e}"
  .ok (base64 sig.val)

def mldsaVerify (publicKeyB64 : String) (message : ByteArray) (signatureB64 : String) :
    Except String Bool := do
  let pkBytes ← orErr (unbase64 publicKeyB64) "Failed to decode ML-DSA public key from base64"
  let sigBytes ← orErr (unbase64 signatureB64) "Failed to decode ML-DSA signature from base64"
  let pk ← orErr (tryInto 1952 pkBytes) "ML-DSA-65 public key has wrong length (expected 1952 bytes)"
  (MlDsa65.publicKey pk).mapError fun e => s!"Invalid ML-DSA-65 public key: {e}"
  let sigArray ← orErr (tryInto 3309 sigBytes) "ML-DSA-65 signature has wrong length"
  .ok (MlDsa65.verify pk message sigArray)

def encodeMldsaPublicKey (keyBytes : List UInt8) : String := base64 keyBytes

theorem mldsaVerify_sign (correct : MlDsa65.Correct) {rng : Nat} {pair : MlDsaKeyPair}
    (generated : generateMldsaKeypair rng = .ok pair) (message : ByteArray) (rng' : Nat) :
    ∃ bytes, mldsaSign pair.secretKeyBytes message rng' = .ok (base64 bytes) ∧
      mldsaVerify (encodeMldsaPublicKey pair.publicKeyBytes) message (base64 bytes) = .ok true := by
  unfold generateMldsaKeypair at generated
  split at generated
  · rename_i pk sk made
    obtain rfl := Except.ok.inj generated
    obtain ⟨sig, signed, verified⟩ := correct.sign_ok rng _ made message rng'
    have secret := correct.privateKey_ok rng _ made
    have published := correct.publicKey_ok rng _ made
    simp only at signed verified secret published
    exact ⟨sig.val,
      by simp [mldsaSign, secret, signed, bind, Except.bind, Except.mapError],
      by simp [mldsaVerify, encodeMldsaPublicKey, published, verified, bind, Except.bind, Except.mapError]⟩
  · cases generated

theorem generateMldsaKeypair_secret {rng : Nat} {pair : MlDsaKeyPair}
    (generated : generateMldsaKeypair rng = .ok pair) : pair.secretKeyBytes.length = 4032 := by
  unfold generateMldsaKeypair at generated
  cases made : MlDsa65.keygen rng with
  | error e =>
    simp only [made] at generated
    cases generated
  | ok keys =>
    simp only [made] at generated
    obtain rfl := Except.ok.inj generated
    exact keys.2.property

theorem generateMldsaKeypair_ok (correct : MlDsa65.Correct) (rng : Nat) :
    ∃ pair, generateMldsaKeypair rng = .ok pair := by
  obtain ⟨⟨pk, sk⟩, made⟩ := correct.keygen_ok rng
  exact ⟨⟨pk.val, sk.val⟩, by simp [generateMldsaKeypair, made]⟩

end MlDsa65

/-! ### Hybrid -/

section Hybrid
variable [Ed25519] [MlDsa65]

structure HybridKeyPair where
  ed25519Signing : Bytes 32
  ed25519Verifying : Bytes 32
  mldsaPublic : List UInt8
  mldsaSecret : List UInt8

def generateHybridKeypair (seed : Bytes 32) (rng : Nat) : Except String HybridKeyPair := do
  let (edSk, edVk) := generateKeypair seed
  let mldsa ← generateMldsaKeypair rng
  .ok ⟨edSk, edVk, mldsa.publicKeyBytes, mldsa.secretKeyBytes⟩

structure HybridSignature where
  ed25519 : String
  mldsa65 : String

def hybridSign (edSigningKey : Bytes 32) (mldsaSecretKey : List UInt8) (message : ByteArray)
    (rng : Nat) :
    Except String HybridSignature := do
  let ed25519Sig := sign edSigningKey message
  let mldsaSig ← mldsaSign mldsaSecretKey message rng
  .ok ⟨ed25519Sig, mldsaSig⟩

end Hybrid

/-! ### Hashing -/

section Sha256
variable [Sha256]

def sha256Hex (data : ByteArray) : String := String.ofList (hexEncode (Sha256.digest data))

/-- The audit chain hash of an entry, over its fields separated by `\x00`. -/
def computeChainHash (prevHash agentId action target : String) (timestamp : Int) : String :=
  let input := s!"{prevHash}\x00{agentId}\x00{action}\x00{target}\x00{timestamp}"
  sha256Hex input.toUTF8

theorem sha256Hex_inj (injective : Function.Injective Sha256.digest) {a b : ByteArray}
    (same : sha256Hex a = sha256Hex b) : a = b :=
  injective (hexEncode_inj (by simpa [sha256Hex] using congrArg String.toList same))

theorem not_mem_sha256Hex {c : Char} (foreign : ∀ n < 16, c ≠ Nat.digitChar n) (data : ByteArray) :
    c ∉ (sha256Hex data).toList := by
  simpa [sha256Hex] using not_mem_hexEncode foreign (Sha256.digest data)

structure ChainFields where
  prevHash : String
  agentId : String
  action : String
  target : String
  timestamp : Int
  deriving DecidableEq, Repr

def ChainFields.NulFree (f : ChainFields) : Prop :=
  '\x00' ∉ f.prevHash.toList ∧ '\x00' ∉ f.agentId.toList ∧ '\x00' ∉ f.action.toList ∧ '\x00' ∉ f.target.toList

def ChainFields.hash (f : ChainFields) : String :=
  computeChainHash f.prevHash f.agentId f.action f.target f.timestamp

omit [Sha256] in
theorem nul_not_mem_int (n : Int) : '\x00' ∉ (toString n).toList := by
  intro member
  rcases toString_int_chars member with digit | sign
  · exact absurd digit (by decide)
  · exact absurd sign (by decide)

theorem ChainFields.hash_inj (injective : Function.Injective Sha256.digest) {f g : ChainFields}
    (free : f.NulFree) (same : f.hash = g.hash) : f = g := by
  obtain ⟨prev, agent, action, target⟩ := free
  have bytes := sha256Hex_inj injective same
  have texts := congrArg String.toList (String.toByteArray_inj.mp bytes)
  have fields : [f.prevHash.toList, f.agentId.toList, f.action.toList, f.target.toList,
      (toString f.timestamp).toList] =
      [g.prevHash.toList, g.agentId.toList, g.action.toList, g.target.toList,
        (toString g.timestamp).toList] := by
    refine @intercalate_inj '\x00' _ _ rfl ?_ ?_
    · simp only [List.mem_cons, List.not_mem_nil, or_false]
      rintro x (rfl | rfl | rfl | rfl | rfl)
      · exact prev
      · exact agent
      · exact action
      · exact target
      · exact nul_not_mem_int f.timestamp
    · simpa [List.intercalate_cons_cons, toString] using texts
  simp only [List.cons.injEq, String.toList_inj, and_true] at fields
  obtain ⟨hprev, hagent, haction, htarget, htime⟩ := fields
  have time := toString_int_inj htime
  cases f
  cases g
  simp_all only

end Sha256

end GrokingClawId.Core
