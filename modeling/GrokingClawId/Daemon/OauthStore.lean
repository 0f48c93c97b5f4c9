import Mathlib.Logic.Equiv.List
import Mathlib.Tactic.DeriveEncodable
import GrokingClawId.Core.Challenge
import GrokingClawId.Proxy.Oauth

/-!
# OAuth token store

`oauth_store.rs`: the registrations and tokens of one agent and the encrypted file they are kept in.
The cipher, the key derivation and the serialization are parameters. A cascade takes one stack frame
for each level of registrations, and a stack that is used up ends the daemon.
-/

namespace GrokingClawId.Daemon
open GrokingClawId.Core Text

structure OAuthRegistration where
  id : String
  provider : String
  clientId : String
  clientSecret : Option String
  authorizationUrl : String
  tokenUrl : String
  revocationUrl : Option String
  deviceAuthorizationUrl : Option String
  scopes : List String
  domainBindings : List String
  grantType : String
  createdAt : DateTime
  parentRegistrationId : Option String
  maxScopes : Option (List String)
  deriving DecidableEq

structure StoredOAuthTokens where
  registrationId : String
  accessToken : String
  refreshToken : Option String
  expiresAt : DateTime
  tokenType : String
  grantedScopes : List String
  lastRefreshed : DateTime
  deriving DecidableEq

structure OAuthStore where
  version : Nat
  agentId : String
  registrations : List OAuthRegistration
  tokens : List StoredOAuthTokens
  deriving DecidableEq

/-! ### Third-party schemes -/

/-- ChaCha20-Poly1305 with a key and a nonce. -/
class Aead where
  encrypt : Core.Bytes 32 → List UInt8 → List UInt8 → Option (List UInt8)
  decrypt : Core.Bytes 32 → List UInt8 → List UInt8 → Option (List UInt8)

/-- What was encrypted is decrypted with its key and nonce, and is never empty: it ends in the
tag. -/
structure Aead.Correct [Aead] : Prop where
  decrypt_encrypt : ∀ key nonce plaintext ciphertext,
    Aead.encrypt key nonce plaintext = some ciphertext →
      Aead.decrypt key nonce ciphertext = some plaintext
  tagged : ∀ key nonce plaintext ciphertext,
    Aead.encrypt key nonce plaintext = some ciphertext → ciphertext ≠ []

/-- HKDF-SHA256 without a salt, for 32 bytes. -/
class Hkdf where
  expand : List UInt8 → List UInt8 → Core.Bytes 32

/-- `serde_json` for the store. -/
class StoreFormat where
  toVec : OAuthStore → List UInt8
  fromSlice : List UInt8 → Except String OAuthStore

def StoreFormat.RoundTrip [StoreFormat] : Prop :=
  ∀ store, StoreFormat.fromSlice (StoreFormat.toVec store) = .ok store

/-! ### The store in memory -/

namespace OAuthStore

def new (agentId : Uuid) : OAuthStore where
  version := 1
  agentId := agentId.toText
  registrations := []
  tokens := []

def getRegistration (store : OAuthStore) (registrationId : String) : Option OAuthRegistration :=
  store.registrations.find? fun r => r.id = registrationId

def getTokens (store : OAuthStore) (registrationId : String) : Option StoredOAuthTokens :=
  store.tokens.find? fun t => t.registrationId = registrationId

def registerProvider (store : OAuthStore) (reg : OAuthRegistration) : Except String OAuthStore :=
  if store.registrations.any fun r => r.id = reg.id then .error s!"Registration '{reg.id}' already exists"
  else .ok { store with registrations := store.registrations ++ [reg] }

def storeTokens (store : OAuthStore) (tokens : StoredOAuthTokens) : Except String OAuthStore :=
  if !store.registrations.any fun r => r.id = tokens.registrationId then
    .error s!"Registration '{tokens.registrationId}' not found"
  else
    let others := store.tokens.filter fun t => t.registrationId ≠ tokens.registrationId
    .ok { store with tokens := others ++ [tokens] }

def removeRegistration (store : OAuthStore) (registrationId : String) : Except String OAuthStore :=
  if !store.registrations.any fun r => r.id = registrationId then
    .error s!"Registration '{registrationId}' not found"
  else
    .ok { store with
      registrations := store.registrations.filter fun r => r.id ≠ registrationId
      tokens := store.tokens.filter fun t => t.registrationId ≠ registrationId }

def childIds (store : OAuthStore) (parentRegistrationId : String) : List String :=
  (store.registrations.filter fun r => r.parentRegistrationId = some parentRegistrationId).map
    OAuthRegistration.id

/-- `none` when there are more levels than stack frames. -/
def cascadeRemove : Nat → OAuthStore → String → Option OAuthStore
  | 0, _, _ => none
  | frames + 1, store, parentRegistrationId => do
    let childIds := store.childIds parentRegistrationId
    let store ← childIds.foldlM (cascadeRemove frames) store
    some { store with
      registrations := store.registrations.filter fun r => r.parentRegistrationId ≠ some parentRegistrationId
      tokens := store.tokens.filter fun t => !childIds.contains t.registrationId }

/-! ### What the proxy is started with -/

def getDomainBindings (store : OAuthStore) : List Proxy.OAuthDomainBinding :=
  store.registrations.flatMap fun reg => reg.domainBindings.map fun domain =>
    { domain, registrationId := reg.id, requiredScopes := reg.scopes }

/-- A token without a registration is passed over. -/
def cachedToken (store : OAuthStore) (t : StoredOAuthTokens) : Option Proxy.CachedOAuthToken :=
  (store.getRegistration t.registrationId).map fun reg =>
    { accessToken := t.accessToken, expiresAt := t.expiresAt.timestamp, scopes := t.grantedScopes,
      provider := reg.provider, registrationId := t.registrationId }

/-- Of two tokens for one registration the later is kept. -/
def getCachedTokens (store : OAuthStore) : AList fun _ : String => Proxy.CachedOAuthToken :=
  store.tokens.foldl (fun cached t =>
    match store.cachedToken t with
    | some token => cached.insert t.registrationId token
    | none => cached) ∅

end OAuthStore

/-! ### The file -/

/-- A file that is read as bytes. -/
inductive SealedFile where
  | absent
  | unreadable (e : String)
  | content (bytes : List UInt8)

def OAuthStore.storePath (agentDir : String) : String := s!"{agentDir}/identity/oauth-tokens.enc"

def nonceLen : Nat := 12

def hkdfContext : String := "grokingclaw-oauth-store-v1"

/-- What `save` meets outside the store: the directory, the random source, the temporary file and
its renaming. -/
structure SaveIo where
  dir : Except String Unit := .ok ()
  nonce : Except String (Core.Bytes 12)
  write : Except String Unit := .ok ()
  rename : Except String Unit := .ok ()

section File
variable [Aead] [Hkdf] [StoreFormat]

def deriveEncryptionKey (signingKey : Core.Bytes 32) : Core.Bytes 32 :=
  Hkdf.expand signingKey.val (utf8 hkdfContext)

/-- `fresh` is the identifier drawn for a store that has no file yet. -/
def OAuthStore.load (storePath : String) (file : SealedFile) (signingKey : Core.Bytes 32)
    (fresh : Uuid) : Except String OAuthStore :=
  match file with
  | .absent => .ok (OAuthStore.new fresh)
  | .unreadable _ => .error s!"Failed to read OAuth store: {storePath}"
  | .content ciphertext =>
    if ciphertext.length < nonceLen + 1 then .error "OAuth store file too small (corrupted?)"
    else do
      let key := deriveEncryptionKey signingKey
      let plaintext ← orErr (Aead.decrypt key (ciphertext.take nonceLen) (ciphertext.drop nonceLen))
        "Failed to decrypt OAuth store (wrong key?)"
      (StoreFormat.fromSlice plaintext).mapError fun _ => "Failed to parse decrypted OAuth store"

/-- The content of the file afterwards. It takes the place of the old one in one step. -/
def OAuthStore.save (store : OAuthStore) (storePath : String) (signingKey : Core.Bytes 32)
    (io : SaveIo) : Except String (List UInt8) := do
  io.dir
  let plaintext := StoreFormat.toVec store
  let key := deriveEncryptionKey signingKey
  let nonce ← io.nonce.mapError fun e => s!"Failed to generate nonce: {e}"
  let ciphertext ← orErr (Aead.encrypt key nonce.val plaintext) "Failed to encrypt OAuth store"
  io.write.mapError fun _ => s!"Failed to write temp file: {storePath}.tmp"
  io.rename.mapError fun _ => s!"Failed to rename to: {storePath}"
  .ok (nonce.val ++ ciphertext)

theorem OAuthStore.load_save (correct : Aead.Correct) (format : StoreFormat.RoundTrip)
    {store : OAuthStore} {storePath : String} {signingKey : Core.Bytes 32} {io : SaveIo}
    {bytes : List UInt8} (saved : store.save storePath signingKey io = .ok bytes)
    (storePath' : String) (fresh : Uuid) :
    OAuthStore.load storePath' (.content bytes) signingKey fresh = .ok store := by
  obtain ⟨_, _, saved⟩ := bind_ok saved
  obtain ⟨nonce, _, saved⟩ := bind_ok saved
  obtain ⟨ciphertext, encrypted, saved⟩ := bind_ok saved
  obtain ⟨_, _, saved⟩ := bind_ok saved
  obtain ⟨_, _, saved⟩ := bind_ok saved
  have sealed := orErr_ok encrypted
  obtain rfl := Except.ok.inj saved
  have long : ¬ (nonce.val ++ ciphertext).length < nonceLen + 1 := by
    have tagged := List.length_pos_of_ne_nil (correct.tagged _ _ _ _ sealed)
    rw [List.length_append, nonce.property, nonceLen]
    omega
  have front : (nonce.val ++ ciphertext).take nonceLen = nonce.val :=
    List.take_left' nonce.property
  have back : (nonce.val ++ ciphertext).drop nonceLen = ciphertext :=
    List.drop_left' nonce.property
  have opened := correct.decrypt_encrypt _ _ _ _ sealed
  simp only [OAuthStore.load, if_neg long, front, back, opened, orErr_some, bind, Except.bind,
    format store]
  rfl

end File

namespace StandIn

scoped instance encodableChar : Encodable Char :=
  Encodable.ofLeftInjection Char.toNat (fun n => some (Char.ofNat n)) fun c => by simp

scoped instance encodableString : Encodable String :=
  Encodable.ofLeftInjection String.toList (fun s => some (String.ofList s)) fun s => by simp

deriving instance Encodable for OAuthRegistration, StoredOAuthTokens, OAuthStore

/-- The tag is the front of the key. -/
scoped instance aead : Aead where
  encrypt key _ plaintext := some (plaintext ++ key.val.take 16)
  decrypt key _ ciphertext :=
    let length := ciphertext.length - 16
    if ciphertext.drop length = key.val.take 16 then some (ciphertext.take length) else none

scoped instance hkdf : Hkdf where
  expand ikm _ := ⟨(ikm ++ List.replicate 32 0).take 32, by simp⟩

/-- A store as a number of bytes. -/
scoped instance storeFormat : StoreFormat where
  toVec store := List.replicate (Encodable.encode store) 0
  fromSlice bytes := orErr (Encodable.decode bytes.length) "expected value"

theorem aead_correct : Aead.Correct := by
  have tag : ∀ key : Core.Bytes 32, (key.val.take 16).length = 16 := by
    intro key
    rw [List.length_take, key.property]
    rfl
  constructor
  · intro key nonce plaintext ciphertext encrypted
    obtain rfl := Option.some.inj encrypted
    have length : (plaintext ++ key.val.take 16).length - 16 = plaintext.length := by
      rw [List.length_append, tag]
      omega
    simp only [Aead.decrypt, length, List.drop_left, List.take_left, if_true]
  · intro key nonce plaintext ciphertext encrypted
    obtain rfl := Option.some.inj encrypted
    apply List.ne_nil_of_length_pos
    rw [List.length_append, tag]
    omega

theorem storeFormat_roundTrip : StoreFormat.RoundTrip := by
  intro store
  show orErr (Encodable.decode (List.replicate (Encodable.encode store) (0 : UInt8)).length) _ = .ok store
  rw [List.length_replicate, Encodable.encodek, orErr_some]

end StandIn
end GrokingClawId.Daemon
