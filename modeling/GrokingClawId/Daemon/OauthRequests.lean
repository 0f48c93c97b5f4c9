import GrokingClawId.Lib.Base64Url
import GrokingClawId.Daemon.OauthRenewal
import GrokingClawId.Daemon.OauthRuns

/-!
# Authorization requests

`start_auth_code_flow` of `oauth_flow.rs`: the URL that a user visits, with a secret that only the daemon
knows behind its challenge. A server that follows PKCE gives tokens for a code only to the one who shows
the secret of the request that the code was issued for.
-/

namespace GrokingClawId.Daemon
open GrokingClawId.Core Text

/-- The `URL_SAFE_NO_PAD` engine. -/
def urlSafe (bytes : List UInt8) : String := String.ofList (Codec.base64UrlEncode bytes)

theorem urlSafe_inj {a b : List UInt8} (same : urlSafe a = urlSafe b) : a = b :=
  Codec.base64UrlEncode_inj (String.ofList_injective same)

def generateCodeVerifier (bytes : Core.Bytes 32) : String := urlSafe bytes.val

structure AuthCodeStart where
  authorizationUrl : String
  codeVerifier : String
  state : String
  redirectUri : String

def AuthCodeStart.toValue (start : AuthCodeStart) : Json :=
  .obj [("authorization_url", .str start.authorizationUrl), ("code_verifier", .str start.codeVerifier),
    ("redirect_uri", .str start.redirectUri), ("state", .str start.state)]

/-- `urlencoding::encode`. -/
def urlencoded (text : String) : String := String.ofList (Percent.encode text)

/-- What `getrandom` fills in. -/
structure StartDraws where
  verifier : Core.Bytes 32
  state : Core.Bytes 16

section Requests
variable [Sha256]

def computeCodeChallenge (verifier : String) : String := urlSafe (Sha256.digest verifier.toUTF8)

theorem computeCodeChallenge_inj (injective : Function.Injective Sha256.digest) {a b : String}
    (same : computeCodeChallenge a = computeCodeChallenge b) : a = b :=
  String.toByteArray_inj.mp (injective (urlSafe_inj same))

def startAuthCodeFlow (reg : OAuthRegistration) (redirectUri : String) (draws : StartDraws) : AuthCodeStart :=
  let codeVerifier := generateCodeVerifier draws.verifier
  let codeChallenge := computeCodeChallenge codeVerifier
  let state := urlSafe draws.state.val
  let scopes := " ".intercalate reg.scopes
  let authUrl := s!"{reg.authorizationUrl}?response_type=code&client_id={urlencoded reg.clientId}" ++
    s!"&redirect_uri={urlencoded redirectUri}&scope={urlencoded scopes}&state={urlencoded state}" ++
    s!"&code_challenge={urlencoded codeChallenge}&code_challenge_method=S256"
  { authorizationUrl := authUrl, codeVerifier, state, redirectUri }

/-- The `authorization_code` case of `oauth_authorize`. -/
def authCodeAnswer (callbackPort : UInt16) (draws : StartDraws) (reg : OAuthRegistration) :
    Except String Json :=
  let redirectUri := s!"http://localhost:{callbackPort}/oauth/callback"
  .ok (startAuthCodeFlow reg redirectUri draws).toValue

/-! ### What the server reads -/

/-- The parameters that the daemon means to send. -/
def asked (reg : OAuthRegistration) (start : AuthCodeStart) : List (String × String) :=
  [("response_type", "code"), ("client_id", reg.clientId), ("redirect_uri", start.redirectUri),
    ("scope", " ".intercalate reg.scopes), ("state", start.state),
    ("code_challenge", computeCodeChallenge start.codeVerifier), ("code_challenge_method", "S256")]

def PlainUrl (url : String) : Prop := '?' ∉ url.toList ∧ '#' ∉ url.toList

theorem authorizationUrl_eq (reg : OAuthRegistration) (redirectUri : String) (draws : StartDraws) :
    (startAuthCodeFlow reg redirectUri draws).authorizationUrl.toList =
      reg.authorizationUrl.toList ++ '?' ::
        Percent.query (asked reg (startAuthCodeFlow reg redirectUri draws)) := by
  have same (text : String) (plain : text.toList.all Percent.unreserved = true) :
      Percent.encode text = text.toList :=
    Percent.encode_plain (List.all_eq_true.mp plain)
  have first : "?response_type=code&client_id=".toList =
      '?' :: ("response_type".toList ++ '=' :: ("code".toList ++ '&' :: ("client_id".toList ++ ['=']))) :=
        by decide
  have redirect : "&redirect_uri=".toList = '&' :: ("redirect_uri".toList ++ ['=']) := by decide
  have scope : "&scope=".toList = '&' :: ("scope".toList ++ ['=']) := by decide
  have state : "&state=".toList = '&' :: ("state".toList ++ ['=']) := by decide
  have challenge : "&code_challenge=".toList = '&' :: ("code_challenge".toList ++ ['=']) := by decide
  have last : "&code_challenge_method=S256".toList =
      '&' :: ("code_challenge_method".toList ++ '=' :: "S256".toList) := by decide
  have named (key : String) (plain : key.toList.all Percent.unreserved = true) (value : String) :
      Percent.pair key value = key.toList ++ '=' :: Percent.encode value :=
    Percent.pair_plain (List.all_eq_true.mp plain) value
  rw [asked, Percent.query_cons_cons, Percent.query_cons_cons, Percent.query_cons_cons,
    Percent.query_cons_cons,
    Percent.query_cons_cons, Percent.query_cons_cons, Percent.query_singleton]
  rw [named "response_type" (by decide), named "client_id" (by decide), named "redirect_uri" (by decide),
    named "scope" (by decide), named "state" (by decide), named "code_challenge" (by decide),
    named "code_challenge_method" (by decide), same "code" (by decide), same "S256" (by decide)]
  simp only [startAuthCodeFlow, urlencoded, toString, String.toList_append, String.toList_ofList, first,
    redirect, scope,
    state, challenge, last, List.append_assoc, List.cons_append, List.nil_append]

theorem readUrl_start {reg : OAuthRegistration} (plain : PlainUrl reg.authorizationUrl) (redirectUri : String)
    (draws : StartDraws) :
    Percent.readUrl (startAuthCodeFlow reg redirectUri draws).authorizationUrl.toList =
      some (asked reg (startAuthCodeFlow reg redirectUri draws)) := by
  rw [authorizationUrl_eq]
  exact Percent.readUrl_query plain.1 plain.2 (List.cons_ne_nil _ _)

/-- The server reads what the daemon means whatever is drawn, exactly when the URL of the registration has
neither a query nor a fragment. -/
theorem request_read_iff (reg : OAuthRegistration) (redirectUri : String) :
    (∀ draws, Percent.readUrl (startAuthCodeFlow reg redirectUri draws).authorizationUrl.toList =
      some (asked reg (startAuthCodeFlow reg redirectUri draws))) ↔ PlainUrl reg.authorizationUrl := by
  refine ⟨fun read => ?_, fun plain draws => readUrl_start plain redirectUri draws⟩
  let zeros : StartDraws := ⟨⟨List.replicate 32 0, rfl⟩, ⟨List.replicate 16 0, rfl⟩⟩
  let ones : StartDraws := ⟨⟨List.replicate 32 0, rfl⟩, ⟨List.replicate 16 1, rfl⟩⟩
  have noFragment : '#' ∉ reg.authorizationUrl.toList := by
    intro inside
    have first := read zeros
    have second := read ones
    rw [authorizationUrl_eq, Percent.readUrl_fragment inside _ []] at first second
    have same := Option.some.inj (first.symm.trans second)
    simp only [asked, List.cons.injEq, Prod.mk.injEq, true_and] at same
    have states : List.replicate 16 (0 : UInt8) = List.replicate 16 1 := urlSafe_inj same.2.1
    exact absurd states (by decide)
  refine ⟨fun inside => ?_, noFragment⟩
  have own := read zeros
  rw [authorizationUrl_eq] at own
  exact Percent.readUrl_foreign inside noFragment _ (by decide) (by decide) own

/-! ### Codes -/

/-- What a server keeps with a code: the request that it was issued for. -/
structure Grant where
  clientId : String
  redirectUri : String
  codeChallenge : String

/-- The grant that a visit of the URL asks for. -/
def requested (url : String) : Option Grant := do
  let params ← Percent.readUrl url.toList
  let clientId ← params.lookup "client_id"
  let redirectUri ← params.lookup "redirect_uri"
  let codeChallenge ← params.lookup "code_challenge"
  some { clientId, redirectUri, codeChallenge }

/-- The form shows a code that was issued to its client and its redirection, and the secret behind the
challenge. -/
structure Redeems (issued : String → Option Grant) (form : List (String × String)) (code verifier : String)
    (grant : Grant) : Prop where
  shown : form.lookup "code" = some code
  known : issued code = some grant
  client : form.lookup "client_id" = some grant.clientId
  redirect : form.lookup "redirect_uri" = some grant.redirectUri
  secret : form.lookup "code_verifier" = some verifier
  challenge : computeCodeChallenge verifier = grant.codeChallenge

/-- A server that follows PKCE: it gives no tokens for a code without these checks. -/
def FollowsPkce (issued : String → Option Grant) (provider : Provider) : Prop :=
  ∀ post answer, provider post = .ok answer → answer.success = true →
    post.form.lookup "grant_type" = some "authorization_code" →
    ∃ code verifier grant, Redeems issued post.form code verifier grant

theorem requested_start {reg : OAuthRegistration} (plain : PlainUrl reg.authorizationUrl)
    (redirectUri : String)
    (draws : StartDraws) :
    requested (startAuthCodeFlow reg redirectUri draws).authorizationUrl =
      some ⟨reg.clientId, redirectUri, computeCodeChallenge (generateCodeVerifier draws.verifier)⟩ := by
  rw [requested, readUrl_start plain redirectUri draws]
  rfl

/-- The form of a token request. -/
def exchangeForm (reg : OAuthRegistration) (code redirectUri codeVerifier : String) :
    List (String × String) :=
  [("grant_type", "authorization_code"), ("code", code), ("redirect_uri", redirectUri),
    ("client_id", reg.clientId), ("code_verifier", codeVerifier)] ++ secretField reg

/-- A code is redeemed exactly by the client, the redirection and the secret of the request that it was
issued for. -/
theorem redeems_start_iff (injective : Function.Injective Sha256.digest) {reg : OAuthRegistration}
    (plain : PlainUrl reg.authorizationUrl) {redirectUri : String} {draws : StartDraws}
    {issued : String → Option Grant} {code : String}
    (visited : issued code = requested (startAuthCodeFlow reg redirectUri draws).authorizationUrl)
    (reg' : OAuthRegistration) (redirectUri' verifier' : String) :
    (∃ code' verifier grant,
      Redeems issued (exchangeForm reg' code redirectUri' verifier') code' verifier grant) ↔
      reg'.clientId = reg.clientId ∧ redirectUri' = redirectUri ∧
        verifier' = generateCodeVerifier draws.verifier := by
  rw [requested_start plain] at visited
  constructor
  · rintro ⟨code', verifier, grant, redeems⟩
    obtain rfl : code = code' := Option.some.inj redeems.shown
    obtain rfl := Option.some.inj (visited.symm.trans redeems.known)
    obtain rfl : verifier' = verifier := Option.some.inj redeems.secret
    exact ⟨Option.some.inj redeems.client, Option.some.inj redeems.redirect,
      computeCodeChallenge_inj injective redeems.challenge⟩
  · rintro ⟨client, rfl, rfl⟩
    exact ⟨code, _, _, rfl, visited, congrArg some client, rfl, rfl, rfl⟩

/-! ### Callbacks -/

section Flows
variable [FromStr TokenResponse]

omit [Sha256] in
theorem exchangeAuthCode_ok {reg : OAuthRegistration} {code redirectUri codeVerifier : String}
    {provider : Provider}
    {clock : Clock} {tokens : StoredOAuthTokens}
    (got : exchangeAuthCode reg code redirectUri codeVerifier provider clock = .ok tokens) :
    ∃ answer, provider { url := reg.tokenUrl, form := exchangeForm reg code redirectUri codeVerifier } =
      .ok answer ∧
      answer.success = true := by
  obtain ⟨answer, sent, got⟩ := bind_ok got
  obtain ⟨body, read, got⟩ := bind_ok got
  refine ⟨answer, mapError_eq_ok (orFault_eq_ok sent), ?_⟩
  split at got
  · cases got
  · rename_i accepted
    simpa using accepted

variable [Aead] [Hkdf] [StoreFormat]

omit [Sha256] in
/-- What `oauth_authorize` tells its client for the `authorization_code` grant. -/
theorem authorize_starts [Sha256] {dir : AgentDir} {agentName id : String} {io : OauthIo} {file : SealedFile}
    {store : OAuthStore} {key : Core.Bytes 32} {reg : OAuthRegistration} {callbackPort : UInt16}
    {draws : StartDraws}
    (loaded : loadOauthStore dir agentName file io.fresh = .ok (store, key))
    (found : store.getRegistration id = some reg) (flow : reg.grantType = "authorization_code")
    (drawn : io.authCode = authCodeAnswer callbackPort draws) :
    (oauthAuthorize dir agentName id io).exec file =
      (.ok (startAuthCodeFlow reg s!"http://localhost:{callbackPort}/oauth/callback" draws).toValue,
        file) := by
  have notDevice : ¬ reg.grantType = "device_code" := by simp [flow]
  have notClient : ¬ reg.grantType = "client_credentials" := by simp [flow]
  simp only [oauthAuthorize, withStore, Program.exec, loaded, registered, found, if_neg notDevice,
    if_neg notClient,
    if_pos flow, drawn, authCodeAnswer, orFault]

omit [Sha256] in
theorem oauthCallback_ok {dir : AgentDir} {agentName id code verifier redirectUri : String} {io : OauthIo}
    {file after : SealedFile} {value : Json}
    (ran : (oauthCallback dir agentName id code verifier redirectUri io).exec file = (.ok value, after)) :
    ∃ reg tokens, exchangeAuthCode reg code redirectUri verifier io.provider io.clock = .ok tokens := by
  cases loaded : loadOauthStore dir agentName file io.fresh with
  | error e =>
    rw [oauthCallback, withStore_error loaded] at ran
    cases (Prod.mk.inj ran).1
  | ok pair =>
    rw [oauthCallback, withStore_ok loaded] at ran
    unfold registered at ran
    cases found : pair.1.getRegistration id with
    | none =>
      rw [found] at ran
      cases (Prod.mk.inj ran).1
    | some reg =>
      simp only [found] at ran
      cases got : exchangeAuthCode reg code redirectUri verifier io.provider io.clock with
      | error fault =>
        rw [got] at ran
        cases (Prod.mk.inj ran).1
      | ok tokens => exact ⟨reg, tokens, got⟩

/-- With what `oauth_authorize` told, the code of its request is redeemed; and in every interleaving with
what else is done to the store, a callback gets tokens for that code with nothing else. -/
theorem callback_bound (injective : Function.Injective Sha256.digest) {dir dir' : AgentDir}
    {agentName agentName' id id' : String} {io io' : OauthIo} {file : SealedFile} {store : OAuthStore}
    {key : Core.Bytes 32} {reg : OAuthRegistration} {callbackPort : UInt16} {draws : StartDraws}
    (loaded : loadOauthStore dir agentName file io.fresh = .ok (store, key))
    (found : store.getRegistration id = some reg) (flow : reg.grantType = "authorization_code")
    (plain : PlainUrl reg.authorizationUrl) (drawn : io.authCode = authCodeAnswer callbackPort draws)
    {told : Json} {file' : SealedFile}
    (started : (oauthAuthorize dir agentName id io).exec file = (.ok told, file'))
    {issued : String → Option Grant} (follows : FollowsPkce issued io'.provider) {code : String}
    (visited : issued code = (strParam told "authorization_url").bind requested) :
    ∃ verifier redirectUri, strParam told "code_verifier" = some verifier ∧
      strParam told "redirect_uri" = some redirectUri ∧
      (∃ grant, Redeems issued (exchangeForm reg code redirectUri verifier) code verifier grant) ∧
      ∀ verifier' redirectUri',
        (oauthCallback dir' agentName' id' code verifier' redirectUri' io').Under
          (fun _ => True) fun result =>
          ∀ value, result = .ok value → verifier' = verifier ∧ redirectUri' = redirectUri := by
  rw [authorize_starts loaded found flow drawn] at started
  obtain ⟨same, _⟩ := Prod.mk.inj started
  obtain rfl := Except.ok.inj same
  have redeemed := redeems_start_iff injective plain visited
  obtain ⟨code', verifier, grant, redeems⟩ := (redeemed reg _ _).mpr ⟨rfl, rfl, rfl⟩
  obtain rfl : code = code' := Option.some.inj redeems.shown
  obtain rfl := Option.some.inj redeems.secret
  refine ⟨_, _, rfl, rfl, ⟨grant, redeems⟩, fun verifier' redirectUri' => ?_⟩
  have single : Single (oauthCallback dir' agentName' id' code verifier' redirectUri' io') :=
    withStore_single fun store key => registered_tail fun reg => ask_tail fun tokens =>
      keepTokens_tail _ _ _ _ _ _
  refine single_under single fun file _ => ⟨fun value got => ?_, trivial⟩
  obtain ⟨reg', tokens, exchanged⟩ := oauthCallback_ok (Prod.ext got rfl)
  obtain ⟨answer, answered, success⟩ := exchangeAuthCode_ok exchanged
  obtain ⟨_, uri, secret⟩ := (redeemed reg' _ _).mp (follows _ answer answered success rfl)
  exact ⟨secret, uri⟩

end Flows
end Requests

namespace StandIn
open Core.StandIn

def zeroDraws : StartDraws := ⟨⟨List.replicate 32 0, rfl⟩, ⟨List.replicate 16 0, rfl⟩⟩

def startIo : OauthIo := { oauthIo with authCode := authCodeAnswer 8080 zeroDraws }

/-- The server issued one code, for the authorization that was told. -/
def issuedTo (told : Json) (code : String) : Option Grant :=
  if code = "code" then (strParam told "authorization_url").bind requested else none

def redeemsBool (issued : String → Option Grant) (form : List (String × String)) : Bool :=
  match (form.lookup "code").bind issued, form.lookup "code_verifier" with
  | some grant, some verifier =>
    form.lookup "client_id" == some grant.clientId && form.lookup "redirect_uri" == some grant.redirectUri &&
      computeCodeChallenge verifier == grant.codeChallenge
  | _, _ => false

def server (issued : String → Option Grant) : Provider := fun post =>
  if redeemsBool issued post.form then .ok ⟨"200 OK", true, .ok "tokens"⟩
    else .ok ⟨"400 Bad Request", false, .ok ""⟩

theorem server_follows (issued : String → Option Grant) : FollowsPkce issued (server issued) := by
  intro post answer answered success _
  unfold server at answered
  split at answered
  · rename_i accepted
    unfold redeemsBool at accepted
    split at accepted
    · rename_i grant verifier granted secret
      obtain ⟨code, shown, known⟩ := Option.bind_eq_some_iff.mp granted
      simp only [Bool.and_eq_true, beq_iff_eq] at accepted
      exact ⟨code, verifier, grant, shown, known, accepted.1.1, accepted.1.2, secret, accepted.2⟩
    · cases accepted
  · rw [← Except.ok.inj answered] at success
    cases success

/-- The code of an authorization at a server that follows PKCE. -/
theorem callback_bound_mail :
    letI := tokenResponses
    ∃ file told, (oauthAuthorize agentDir "scout" "mail" startIo).exec file = (.ok told, file) ∧
      ∃ verifier redirectUri, strParam told "code_verifier" = some verifier ∧
        strParam told "redirect_uri" = some redirectUri ∧
        (∃ grant, Redeems (issuedTo told) (exchangeForm mail "code" redirectUri verifier) "code"
          verifier grant) ∧
        ∀ verifier' redirectUri', (oauthCallback agentDir "scout" "mail" "code" verifier' redirectUri'
            { oauthIo with provider := server (issuedTo told) }).Under (fun _ => True) fun result =>
          ∀ value, result = .ok value → verifier' = verifier ∧ redirectUri' = redirectUri := by
  let := tokenResponses
  obtain ⟨bytes, _, loaded⟩ := mailStore_file mailTokens ""
  have opened := loaded "scout" startIo.fresh
  have plain : PlainUrl mail.authorizationUrl := by
    unfold PlainUrl
    decide
  have started :=
    authorize_starts opened (show (mailStore mailTokens).getRegistration "mail" = some mail from rfl) rfl
    (show startIo.authCode = authCodeAnswer 8080 zeroDraws from rfl)
  exact ⟨_, _, started, callback_bound sha256_injective opened rfl rfl plain rfl started
    (server_follows _) rfl⟩

end StandIn
end GrokingClawId.Daemon
