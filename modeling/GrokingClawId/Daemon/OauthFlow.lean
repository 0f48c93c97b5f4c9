import GrokingClawId.Daemon.OauthStore

/-!
# OAuth flows

`oauth_flow.rs`: the requests that get tokens from a provider and how its answer is read. What a
revocation request comes to is ignored by its caller, so it is not modelled.
-/

namespace GrokingClawId.Daemon
open GrokingClawId.Core Text

/-- A POST of a form. -/
structure HttpPost where
  url : String
  basicAuth : Option (String × String) := none
  form : List (String × String)
  deriving DecidableEq

/-- The status as it is displayed, whether it is a success, and the body when it can be read. -/
structure HttpAnswer where
  status : String
  success : Bool
  body : Except String String

abbrev Provider := HttpPost → Except String HttpAnswer

structure TokenResponse where
  accessToken : String
  tokenType : Option String
  expiresIn : Option Int64
  refreshToken : Option String
  scope : Option String

/-- The clock at the computation of the expiry and at the note of the refresh. -/
structure Clock where
  now : DateTime
  later : DateTime

section Flows
variable [FromStr TokenResponse]

/-- An hour when the provider does not say how long. -/
def parseTokenResponse (body registrationId : String) (clock : Clock) : Outcome StoredOAuthTokens := do
  let resp ← orFault
    ((FromStr.fromStr body : Except String TokenResponse).mapError fun _ => "Failed to parse token response")
  let duration ← durationSeconds ((resp.expiresIn.map Int64.toInt).getD 3600)
  let expiresAt ← DateTime.add clock.now duration
  let grantedScopes := (resp.scope.map fun s => (splitWhitespace s.toList).map String.ofList).getD []
  .ok { registrationId, accessToken := resp.accessToken, refreshToken := resp.refreshToken, expiresAt,
        tokenType := resp.tokenType.getD "Bearer", grantedScopes, lastRefreshed := clock.later }

/-- The texts of the errors: of a request that cannot be sent, of a body that cannot be read when it
has one of its own, and of a refusal. -/
structure FlowErrors where
  sent : String
  read : Option String
  refused : String

def requestTokens (provider : Provider) (post : HttpPost) (errors : FlowErrors)
    (registrationId : String) (clock : Clock) : Outcome StoredOAuthTokens := do
  let answer ← orFault ((provider post).mapError fun _ => errors.sent)
  let body ← orFault (answer.body.mapError fun e => errors.read.getD e)
  if !answer.success then .error (.error s!"{errors.refused} ({answer.status}): {body}")
  else parseTokenResponse body registrationId clock

def secretField (reg : OAuthRegistration) : List (String × String) :=
  match reg.clientSecret with
  | some secret => [("client_secret", secret)]
  | none => []

def exchangeAuthCode (reg : OAuthRegistration) (code redirectUri codeVerifier : String)
    (provider : Provider) (clock : Clock) : Outcome StoredOAuthTokens :=
  let form := [("grant_type", "authorization_code"), ("code", code), ("redirect_uri", redirectUri),
    ("client_id", reg.clientId), ("code_verifier", codeVerifier)] ++ secretField reg
  requestTokens provider { url := reg.tokenUrl, form }
    ⟨"Token exchange request failed", some "Failed to read token response",
      "Token exchange failed"⟩ reg.id clock

def clientCredentials (reg : OAuthRegistration) (provider : Provider) (clock : Clock) :
    Outcome StoredOAuthTokens := do
  let secret ← orFault (orErr reg.clientSecret "Client credentials grant requires client_secret")
  let form := [("grant_type", "client_credentials"), ("scope", " ".intercalate reg.scopes)]
  requestTokens provider { url := reg.tokenUrl, basicAuth := some (reg.clientId, secret), form }
    ⟨"Client credentials request failed", none, "Client credentials failed"⟩ reg.id clock

/-- A provider that sends no new refresh token leaves the old one in use. -/
def refreshToken (reg : OAuthRegistration) (refreshTokenValue : String) (provider : Provider)
    (clock : Clock) : Outcome StoredOAuthTokens := do
  let form := [("grant_type", "refresh_token"), ("refresh_token", refreshTokenValue),
    ("client_id", reg.clientId)] ++ secretField reg
  let tokens ← requestTokens provider { url := reg.tokenUrl, form }
    ⟨"Token refresh request failed", none, "Token refresh failed"⟩ reg.id clock
  .ok { tokens with refreshToken := some (tokens.refreshToken.getD refreshTokenValue) }

def clawidTokenExchange (reg : OAuthRegistration) (agentCardJson signedAssertion : String)
    (audience : Option String) (provider : Provider) (clock : Clock) : Outcome StoredOAuthTokens :=
  let audienceField := match audience with
    | some aud => [("audience", aud)]
    | none => []
  let form := [("grant_type", "urn:ietf:params:oauth:grant-type:token-exchange"),
    ("subject_token", signedAssertion), ("subject_token_type", "urn:grokingclaw:agent-identity"),
    ("requested_token_type", "urn:ietf:params:oauth:token-type:access_token"),
    ("scope", " ".intercalate reg.scopes), ("client_id", reg.clientId)] ++ audienceField ++
    [("agent_card", agentCardJson)] ++ secretField reg
  requestTokens provider { url := reg.tokenUrl, form }
    ⟨"Token exchange request failed", none, "Token exchange failed"⟩ reg.id clock

theorem requestTokens_id {provider : Provider} {post : HttpPost} {errors : FlowErrors} {id : String}
    {clock : Clock} {tokens : StoredOAuthTokens}
    (got : requestTokens provider post errors id clock = .ok tokens) : tokens.registrationId = id := by
  obtain ⟨answer, _, got⟩ := bind_ok got
  obtain ⟨body, _, got⟩ := bind_ok got
  split at got
  · cases got
  · obtain ⟨resp, _, got⟩ := bind_ok got
    obtain ⟨duration, _, got⟩ := bind_ok got
    obtain ⟨expiresAt, _, got⟩ := bind_ok got
    rw [← Except.ok.inj got]

theorem clientCredentials_id {reg : OAuthRegistration} {provider : Provider} {clock : Clock}
    {tokens : StoredOAuthTokens} (got : clientCredentials reg provider clock = .ok tokens) :
    tokens.registrationId = reg.id := by
  obtain ⟨secret, _, got⟩ := bind_ok got
  exact requestTokens_id got

end Flows
end GrokingClawId.Daemon
