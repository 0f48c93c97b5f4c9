import GrokingClawId.Daemon.OauthStoreRuns
import GrokingClawId.Daemon.OauthRuns

/-!
# What a refresh keeps

The record that `oauth_refresh` stores and the token that it returns, field by field: what comes from
the response and what from the record before. A response without a refresh token leaves the old one; a
response without scopes leaves none.
-/

namespace GrokingClawId.Daemon
open GrokingClawId.Core Text

def refreshPost (reg : OAuthRegistration) (refreshTokenValue : String) : HttpPost :=
  { url := reg.tokenUrl
    form := [("grant_type", "refresh_token"), ("refresh_token", refreshTokenValue),
      ("client_id", reg.clientId)] ++ secretField reg }

/-- The provider answers the request with success and this response. -/
def Responds [FromStr TokenResponse] (provider : Provider) (post : HttpPost)
    (resp : TokenResponse) : Prop :=
  ∃ answer body, provider post = .ok answer ∧ answer.success = true ∧ answer.body = .ok body ∧
    (FromStr.fromStr body : Except String TokenResponse) = .ok resp

/-- The scopes that a response names. -/
def TokenResponse.scopes (resp : TokenResponse) : Option (List String) :=
  resp.scope.map fun s => (splitWhitespace s.toList).map String.ofList

def TokenResponse.expiry (resp : TokenResponse) (clock : Clock) : Outcome DateTime := do
  let duration ← durationSeconds ((resp.expiresIn.map Int64.toInt).getD 3600)
  DateTime.add clock.now duration

/-- What is stored for a response, with the old refresh token where it has none. -/
def TokenResponse.renewed (resp : TokenResponse) (reg : OAuthRegistration) (old : String)
    (expiresAt : DateTime) (clock : Clock) : StoredOAuthTokens where
  registrationId := reg.id
  accessToken := resp.accessToken
  refreshToken := some (resp.refreshToken.getD old)
  expiresAt := expiresAt
  tokenType := resp.tokenType.getD "Bearer"
  grantedScopes := resp.scopes.getD []
  lastRefreshed := clock.later

/-- The record and the returned token have what the response gives, and what was there before where
it gives nothing. -/
structure Renews (existing : StoredOAuthTokens) (resp : TokenResponse) (expiry : DateTime)
    (tokens : StoredOAuthTokens) (cached : Proxy.CachedOAuthToken) : Prop where
  accessToken : tokens.accessToken = resp.accessToken
  expiresAt : tokens.expiresAt = expiry
  refreshToken : tokens.refreshToken = resp.refreshToken.or existing.refreshToken
  grantedScopes : tokens.grantedScopes = resp.scopes.getD existing.grantedScopes
  cachedAccessToken : cached.accessToken = resp.accessToken
  cachedExpiresAt : cached.expiresAt = expiry.timestamp
  cachedScopes : cached.scopes = resp.scopes.getD existing.grantedScopes

section Refresh
variable [FromStr TokenResponse]

theorem Responds.one {provider : Provider} {post : HttpPost} {resp resp' : TokenResponse}
    (responds : Responds provider post resp) (responds' : Responds provider post resp') :
    resp = resp' := by
  obtain ⟨answer, body, answered, _, read, parsed⟩ := responds
  obtain ⟨answer', body', answered', _, read', parsed'⟩ := responds'
  obtain rfl := Except.ok.inj (answered.symm.trans answered')
  obtain rfl := Except.ok.inj (read.symm.trans read')
  exact Except.ok.inj (parsed.symm.trans parsed')

/-- The tokens of a refresh, from the response and the old refresh token. -/
theorem refreshToken_ok {reg : OAuthRegistration} {value : String} {provider : Provider}
    {clock : Clock} {tokens : StoredOAuthTokens}
    (got : refreshToken reg value provider clock = .ok tokens) :
    ∃ resp expiresAt, Responds provider (refreshPost reg value) resp ∧
      resp.expiry clock = .ok expiresAt ∧
      tokens = resp.renewed reg value expiresAt clock := by
  obtain ⟨answered, asked, got⟩ := bind_ok got
  obtain ⟨answer, sent, asked⟩ := bind_ok asked
  obtain ⟨body, read, asked⟩ := bind_ok asked
  split at asked
  · cases asked
  · rename_i accepted
    obtain ⟨resp, parsed, asked⟩ := bind_ok asked
    obtain ⟨duration, long, asked⟩ := bind_ok asked
    obtain ⟨expiresAt, expires, asked⟩ := bind_ok asked
    refine ⟨resp, expiresAt, ⟨answer, body, mapError_eq_ok (orFault_eq_ok sent), by simpa using accepted,
      mapError_eq_ok (orFault_eq_ok read), mapError_eq_ok (orFault_eq_ok parsed)⟩, ?_, ?_⟩
    · unfold TokenResponse.expiry
      rw [long]
      exact expires
    · rw [← Except.ok.inj got, ← Except.ok.inj asked]
      rfl

variable [Aead] [Hkdf] [StoreFormat] {dir : AgentDir} {agentName id : String} {io : OauthIo}
  {file after : SealedFile} {store : OAuthStore} {key : Core.Bytes 32} {reg : OAuthRegistration}
  {existing : StoredOAuthTokens} {value : Json}

theorem oauthRefresh_ok (loaded : loadOauthStore dir agentName file io.fresh = .ok (store, key))
    (known : store.getRegistration id = some reg) (held : store.getTokens id = some existing)
    (ran : (oauthRefresh dir agentName id io).exec file = (.ok value, after)) :
    ∃ old tokens store' path bytes, existing.refreshToken = some old ∧
      refreshToken reg old io.provider io.clock = .ok tokens ∧
      store.storeTokens tokens = .ok store' ∧
      store'.save path key io.save = .ok bytes ∧ after = .content bytes ∧
      value = cachedValue (refreshedToken reg id tokens) := by
  unfold oauthRefresh registered at ran
  rw [withStore_ok loaded] at ran
  simp only [known, held] at ran
  cases renewable : existing.refreshToken with
  | none =>
    rw [renewable] at ran
    cases (Prod.mk.inj ran).1
  | some old =>
    rw [renewable] at ran
    unfold ask at ran
    dsimp only at ran
    cases got : refreshToken reg old io.provider io.clock with
    | error fault =>
      rw [got] at ran
      cases (Prod.mk.inj ran).1
    | ok tokens =>
      rw [got] at ran
      unfold keepTokens at ran
      cases kept : store.storeTokens tokens with
      | error e =>
        simp only [kept] at ran
        cases (Prod.mk.inj ran).1
      | ok store' =>
        simp only [kept] at ran
        obtain ⟨path, bytes, saved, left, same⟩ := saveOauthStore_ok ran
        exact ⟨old, tokens, store', path, bytes, rfl, got, kept, saved, left, same⟩

/-- What is loaded after a refresh that succeeds, and what the refresh returned. -/
theorem oauthRefresh_stored (correct : Aead.Correct) (format : StoreFormat.RoundTrip)
    (loaded : loadOauthStore dir agentName file io.fresh = .ok (store, key))
    (known : store.getRegistration id = some reg) (held : store.getTokens id = some existing)
    {old : String} (renewable : existing.refreshToken = some old) {resp : TokenResponse}
    (responds : Responds io.provider (refreshPost reg old) resp)
    (ran : (oauthRefresh dir agentName id io).exec file = (.ok value, after)) :
    ∃ expiry store', resp.expiry io.clock = .ok expiry ∧
      (∀ again, loadOauthStore dir agentName after again = .ok (store', key)) ∧
      store'.getTokens id = some (resp.renewed reg old expiry io.clock) ∧
      value = cachedValue (refreshedToken reg id (resp.renewed reg old expiry io.clock)) := by
  obtain ⟨old', tokens, store', path, bytes, renewable', got, kept, saved, rfl, rfl⟩ :=
    oauthRefresh_ok loaded known held ran
  obtain rfl := Option.some.inj (renewable.symm.trans renewable')
  obtain ⟨resp', expiry, responds', expires, rfl⟩ := refreshToken_ok got
  obtain rfl := responds.one responds'
  have named : (resp.renewed reg old expiry io.clock).registrationId = id :=
    (OAuthStore.getRegistration_id known).2
  refine ⟨expiry, store', expires, loadOauthStore_save correct format loaded saved, ?_, rfl⟩
  rw [← named]
  exact (OAuthStore.getTokens_storeTokens kept).1

/-- A refresh that succeeds keeps what the response leaves out exactly when it leaves out no scopes,
or there were none before: the refresh token is kept, the scopes are not. -/
theorem oauthRefresh_renews_iff (correct : Aead.Correct) (format : StoreFormat.RoundTrip)
    (loaded : loadOauthStore dir agentName file io.fresh = .ok (store, key))
    (known : store.getRegistration id = some reg) (held : store.getTokens id = some existing)
    {old : String} (renewable : existing.refreshToken = some old) {resp : TokenResponse}
    (responds : Responds io.provider (refreshPost reg old) resp)
    (ran : (oauthRefresh dir agentName id io).exec file = (.ok value, after)) :
    ∃ expiry store' tokens cached, resp.expiry io.clock = .ok expiry ∧
      (∀ again, loadOauthStore dir agentName after again = .ok (store', key)) ∧
      store'.getTokens id = some tokens ∧ value = cachedValue cached ∧
      (Renews existing resp expiry tokens cached ↔ resp.scope ≠ none ∨
      existing.grantedScopes = []) := by
  obtain ⟨expiry, store', expires, reloaded, stored, returned⟩ :=
    oauthRefresh_stored correct format loaded known held renewable responds ran
  refine ⟨expiry, store', _, _, expires, reloaded, stored, returned, ?_, fun condition => ?_⟩
  · intro renews
    cases given : resp.scope with
    | some scope => exact .inl (Option.some_ne_none scope)
    | none =>
      have scopes : resp.scopes.getD [] = resp.scopes.getD existing.grantedScopes :=
        renews.grantedScopes
      have omitted : resp.scopes = none := by rw [TokenResponse.scopes, given, Option.map_none]
      rw [omitted] at scopes
      exact .inr scopes.symm
  · have scopes : resp.scopes.getD [] = resp.scopes.getD existing.grantedScopes := by
      rcases condition with given | none
      · obtain ⟨scope, named⟩ := Option.ne_none_iff_exists'.mp given
        rw [TokenResponse.scopes, named, Option.map_some, Option.getD_some, Option.getD_some]
      · rw [none]
    have refresh : some (resp.refreshToken.getD old) =
        resp.refreshToken.or existing.refreshToken := by
      rw [renewable]
      cases resp.refreshToken with
      | none => rfl
      | some token => rfl
    exact ⟨rfl, rfl, refresh, scopes, rfl, rfl, scopes⟩

end Refresh

/-! ### A response without scopes -/

namespace StandIn
open Core.StandIn

def granted (scopes : List String) : StoredOAuthTokens :=
  { mailTokens with grantedScopes := scopes }

theorem mail_responds :
    letI := tokenResponses
    Responds oauthIo.provider (refreshPost mail "again") ⟨"new", none, none, none, none⟩ :=
  ⟨_, "tokens", rfl, rfl, rfl, parser_head _ _ _⟩

theorem granted_refresh (scopes : List String) {file : SealedFile}
    (loaded : loadOauthStore agentDir "scout" file Uuid.nil = .ok (mailStore (granted scopes), seed)) :
    letI := tokenResponses
    ∃ value after, (oauthRefresh agentDir "scout" "mail" oauthIo).exec file =
      (.ok value, after) := by
  let := tokenResponses
  obtain ⟨bytes, saved, _⟩ :=
    mailStore_file renewed (OAuthStore.storePath (toString "agents/" ++ toString "scout"))
  refine ⟨cachedValue (refreshedToken mail "mail" renewed), .content bytes, ?_⟩
  have found : (mailStore (granted scopes)).getRegistration "mail" = some mail := rfl
  have existing : (mailStore (granted scopes)).getTokens "mail" = some (granted scopes) := rfl
  have refreshable : (granted scopes).refreshToken = some "again" := rfl
  have kept : (mailStore (granted scopes)).storeTokens renewed = .ok (mailStore renewed) := rfl
  have io : oauthIo.fresh = Uuid.nil := rfl
  unfold oauthRefresh
  rw [withStore_ok (io ▸ loaded)]
  simp only [registered, found, existing, refreshable, ask, mail_renewed, keepTokens, kept,
    saveOauthStore, saved, Program.exec]

theorem oauthRefresh_renews_iff_mail :
    letI := tokenResponses
    ∃ file value after expiry store' tokens cached,
      (oauthRefresh agentDir "scout" "mail" oauthIo).exec file = (.ok value, after) ∧
      (∀ again, loadOauthStore agentDir "scout" after again = .ok (store', seed)) ∧
      store'.getTokens "mail" = some tokens ∧ value = cachedValue cached ∧
      Renews (granted []) ⟨"new", none, none, none, none⟩ expiry tokens cached := by
  let := tokenResponses
  obtain ⟨bytes, _, loaded⟩ := mailStore_file (granted []) ""
  obtain ⟨value, after, ran⟩ := granted_refresh [] (loaded "scout" Uuid.nil)
  obtain ⟨expiry, store', tokens, cached, _, reloaded, stored, returned, renews⟩ :=
    oauthRefresh_renews_iff aead_correct storeFormat_roundTrip (loaded "scout" oauthIo.fresh) rfl rfl rfl
      mail_responds ran
  exact ⟨_, value, after, expiry, store', tokens, cached, ran, reloaded, stored, returned,
    renews.mpr (.inr rfl)⟩

/-- A response without scopes takes the granted ones away. -/
theorem scopes_dropped :
    letI := tokenResponses
    ¬ ∀ (dir : AgentDir) (agentName id : String) (io : OauthIo) (file after : SealedFile)
      (store : OAuthStore) (key : Core.Bytes 32) (reg : OAuthRegistration)
      (existing : StoredOAuthTokens) (old : String) (resp : TokenResponse) (value : Json),
      loadOauthStore dir agentName file io.fresh = .ok (store, key) →
      store.getRegistration id = some reg → store.getTokens id = some existing →
      existing.refreshToken = some old → Responds io.provider (refreshPost reg old) resp →
      (oauthRefresh dir agentName id io).exec file = (.ok value, after) →
      ∃ expiry store' tokens cached, resp.expiry io.clock = .ok expiry ∧
        (∀ again, loadOauthStore dir agentName after again = .ok (store', key)) ∧
        store'.getTokens id = some tokens ∧ value = cachedValue cached ∧
        Renews existing resp expiry tokens cached := by
  let := tokenResponses
  intro keeps
  obtain ⟨bytes, _, loaded⟩ := mailStore_file (granted ["read"]) ""
  obtain ⟨value, after, ran⟩ := granted_refresh ["read"] (loaded "scout" Uuid.nil)
  have now := loaded "scout" oauthIo.fresh
  obtain ⟨expiry, store', tokens, cached, _, reloaded, stored, _, renews⟩ :=
    keeps agentDir "scout" "mail" oauthIo _ _ _ _ mail (granted ["read"]) "again" _ value now rfl rfl rfl
      mail_responds ran
  obtain ⟨expiry', store'', _, reloaded', stored', _⟩ := oauthRefresh_stored aead_correct
    storeFormat_roundTrip now rfl rfl rfl mail_responds ran
  obtain ⟨rfl, _⟩ := Prod.mk.inj (Except.ok.inj ((reloaded Uuid.nil).symm.trans (reloaded' Uuid.nil)))
  obtain rfl := Option.some.inj (stored.symm.trans stored')
  have scopes : ([] : List String) = ["read"] := renews.grantedScopes
  cases scopes

end StandIn
end GrokingClawId.Daemon
