import GrokingClawId.Lib.Json
import GrokingClawId.Lib.SharedCell
import GrokingClawId.Core.Pem
import GrokingClawId.Daemon.OauthFlow
import GrokingClawId.Daemon.Supervisor

/-!
# OAuth bridge

The OAuth methods of `daemon.rs` for one agent, as programs over the file of its store: where they
load the store, where they wait for a provider and where they save it. Waiting is the only place at
which a method lets go of its task.
-/

namespace GrokingClawId.Daemon
open GrokingClawId.Core Text

/-- What lies in the directory of the agent besides the store: the key and `agent-card.json`. -/
structure AgentDir where
  agentPem : TextFile
  agentCard : TextFile

/-- What a method draws or is answered. `fresh` and `again` are for a store without a file, `device`
and `authCode` come from the flows that get no tokens, and `frames` is the height of the stack. -/
structure OauthIo where
  fresh : Uuid
  again : Uuid
  newId : Uuid
  createdAt : DateTime
  clock : Clock
  provider : Provider
  device : OAuthRegistration → Except String Json
  authCode : OAuthRegistration → Except String Json
  save : SaveIo
  frames : Nat

abbrev OauthProgram := Program SealedFile (Outcome Json)

def fail (message : String) : OauthProgram := .done (.error (.error message))

/-- A wait for tokens. -/
def ask (tokens : Outcome StoredOAuthTokens) (next : StoredOAuthTokens → OauthProgram) : OauthProgram :=
  .wait (match tokens with
    | .error fault => .done (.error fault)
    | .ok tokens => next tokens)

def registered (store : OAuthStore) (registrationId : String)
    (next : OAuthRegistration → OauthProgram) : OauthProgram :=
  match store.getRegistration registrationId with
  | none => fail s!"Registration '{registrationId}' not found"
  | some reg => next reg

/-- `params.get(key).and_then(as_str)`. -/
def strParam (params : Json) (key : String) : Option String := (params.get key).bind Json.asStr

def listParam (params : Json) (key : String) : Option (List String) :=
  ((params.get key).bind Json.asArray).map fun items => items.filterMap Json.asStr

def registrationOf (params : Json) (io : OauthIo) : OAuthRegistration where
  id := (strParam params "registration_id").getD io.newId.toText
  provider := (strParam params "provider").getD ""
  clientId := (strParam params "client_id").getD ""
  clientSecret := strParam params "client_secret"
  authorizationUrl := (strParam params "authorization_url").getD ""
  tokenUrl := (strParam params "token_url").getD ""
  revocationUrl := strParam params "revocation_url"
  deviceAuthorizationUrl := strParam params "device_authorization_url"
  scopes := (listParam params "scopes").getD []
  domainBindings := (listParam params "domain_bindings").getD []
  grantType := (strParam params "grant_type").getD "authorization_code"
  createdAt := io.createdAt
  parentRegistrationId := strParam params "parent_registration_id"
  maxScopes := listParam params "max_scopes"

def cachedValue (token : Proxy.CachedOAuthToken) : Json :=
  .obj [("access_token", .str token.accessToken), ("expires_at", .num (toString token.expiresAt)),
    ("provider", .str token.provider), ("registration_id", .str token.registrationId),
    ("scopes", .arr (token.scopes.map .str))]

section Methods
variable [Aead] [Hkdf] [StoreFormat]

def loadOauthStore (dir : AgentDir) (agentName : String) (file : SealedFile) (fresh : Uuid) :
    Except String (OAuthStore × Core.Bytes 32) :=
  match dir.agentPem with
  | .absent => .error s!"Agent '{agentName}' identity not found"
  | .unreadable _ => .error s!"Failed to read key: agents/{agentName}/identity/agent.pem"
  | .content pem => do
    let signingKey ← decodePrivateKeyPem pem.toList
    let store ← OAuthStore.load (OAuthStore.storePath s!"agents/{agentName}") file signingKey fresh
    .ok (store, signingKey)

def withStore (dir : AgentDir) (agentName : String) (fresh : Uuid)
    (next : OAuthStore → Core.Bytes 32 → OauthProgram) : OauthProgram :=
  .load fun file =>
    match loadOauthStore dir agentName file fresh with
    | .error e => fail e
    | .ok (store, signingKey) => next store signingKey

def saveOauthStore (agentName : String) (store : OAuthStore) (signingKey : Core.Bytes 32)
    (io : OauthIo) (result : Json) : OauthProgram :=
  match store.save (OAuthStore.storePath s!"agents/{agentName}") signingKey io.save with
  | .error e => fail e
  | .ok bytes => .save (.content bytes) (.done (.ok result))

def keepTokens (agentName : String) (store : OAuthStore) (signingKey : Core.Bytes 32)
    (tokens : StoredOAuthTokens) (io : OauthIo) (result : Json) : OauthProgram :=
  match store.storeTokens tokens with
  | .error e => fail e
  | .ok store => saveOauthStore agentName store signingKey io result

def oauthRegister (dir : AgentDir) (agentName : String) (params : Json) (io : OauthIo) : OauthProgram :=
  withStore dir agentName io.fresh fun store signingKey =>
    let reg := registrationOf params io
    match store.registerProvider reg with
    | .error e => fail e
    | .ok store =>
      saveOauthStore agentName store signingKey io
        (.obj [("ok", .bool true), ("registration_id", .str reg.id)])

def statusValue (status : String) : Json := .obj [("ok", .bool true), ("status", .str status)]

section Flows
variable [FromStr TokenResponse]

/-- The tokens of a client are put into the store as it is after the wait. -/
def oauthAuthorize (dir : AgentDir) (agentName registrationId : String) (io : OauthIo) : OauthProgram :=
  withStore dir agentName io.fresh fun store _ =>
    registered store registrationId fun reg =>
      if reg.grantType = "device_code" then .wait (.done (orFault (io.device reg)))
      else if reg.grantType = "client_credentials" then
        ask (clientCredentials reg io.provider io.clock) fun tokens =>
          withStore dir agentName io.again fun store signingKey =>
            keepTokens agentName store signingKey tokens io (statusValue "tokens_acquired")
      else if reg.grantType = "authorization_code" then .done (orFault (io.authCode reg))
      else fail s!"Unsupported grant type: {reg.grantType}"

def oauthCallback (dir : AgentDir) (agentName registrationId code codeVerifier redirectUri : String)
    (io : OauthIo) : OauthProgram :=
  withStore dir agentName io.fresh fun store signingKey =>
    registered store registrationId fun reg =>
      ask (exchangeAuthCode reg code redirectUri codeVerifier io.provider io.clock) fun tokens =>
        keepTokens agentName store signingKey tokens io (statusValue "tokens_stored")

def refreshedToken (reg : OAuthRegistration) (registrationId : String) (tokens : StoredOAuthTokens) :
    Proxy.CachedOAuthToken where
  accessToken := tokens.accessToken
  expiresAt := tokens.expiresAt.timestamp
  scopes := tokens.grantedScopes
  provider := reg.provider
  registrationId := registrationId

def oauthRefresh (dir : AgentDir) (agentName registrationId : String) (io : OauthIo) : OauthProgram :=
  withStore dir agentName io.fresh fun store signingKey =>
    registered store registrationId fun reg =>
      match store.getTokens registrationId with
      | none => fail s!"No tokens found for registration '{registrationId}'"
      | some existing =>
        match existing.refreshToken with
        | none => fail s!"No refresh token available for '{registrationId}'"
        | some refreshTokenValue =>
          ask (refreshToken reg refreshTokenValue io.provider io.clock) fun tokens =>
            keepTokens agentName store signingKey tokens io
              (cachedValue (refreshedToken reg registrationId tokens))

end Flows

/-- Every descendant goes, then the registration itself. -/
def removeAll (agentName registrationId : String) (store : OAuthStore) (signingKey : Core.Bytes 32)
    (io : OauthIo) : OauthProgram :=
  match store.cascadeRemove io.frames registrationId with
  | none => .done (.error (.panic "stack overflow"))
  | some store =>
    match store.removeRegistration registrationId with
    | .error e => fail e
    | .ok store =>
      saveOauthStore agentName store signingKey io
        (.obj [("ok", .bool true), ("revoked", .str registrationId)])

/-- The provider is told first when there are tokens; its answers are ignored. -/
def oauthRevoke (dir : AgentDir) (agentName registrationId : String) (io : OauthIo) : OauthProgram :=
  withStore dir agentName io.fresh fun store signingKey =>
    registered store registrationId fun _ =>
      match store.getTokens registrationId with
      | some _ => .wait (removeAll agentName registrationId store signingKey io)
      | none => removeAll agentName registrationId store signingKey io

def oauthExchange [Ed25519] [FromStr TokenResponse] (dir : AgentDir) (agentName registrationId : String)
    (io : OauthIo) : OauthProgram :=
  withStore dir agentName io.fresh fun store signingKey =>
    registered store registrationId fun reg =>
      match dir.agentCard with
      | .content cardJson =>
        let signedAssertion := sign signingKey cardJson.toUTF8
        ask (clawidTokenExchange reg cardJson signedAssertion none io.provider io.clock) fun tokens =>
          keepTokens agentName store signingKey tokens io (statusValue "token_exchanged")
      | _ => fail "Failed to read agent card"

inductive OauthCall where
  | register (params : Json)
  | authorize (registrationId : String)
  | callback (registrationId code codeVerifier redirectUri : String)
  | refresh (registrationId : String)
  | exchange (registrationId : String)
  | revoke (registrationId : String)

def OauthCall.program [Ed25519] [FromStr TokenResponse] (dir : AgentDir) (agentName : String)
    (io : OauthIo) : OauthCall → OauthProgram
  | register params => oauthRegister dir agentName params io
  | authorize registrationId => oauthAuthorize dir agentName registrationId io
  | callback registrationId code codeVerifier redirectUri =>
    oauthCallback dir agentName registrationId code codeVerifier redirectUri io
  | refresh registrationId => oauthRefresh dir agentName registrationId io
  | exchange registrationId => oauthExchange dir agentName registrationId io
  | revoke registrationId => oauthRevoke dir agentName registrationId io

end Methods
end GrokingClawId.Daemon
