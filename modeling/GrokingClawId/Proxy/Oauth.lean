import Mathlib.Data.List.AList
import GrokingClawId.Core.Models

/-!
# OAuth token cache

`oauth.rs` of the proxy: the tokens of one agent by registration, the domains they are for, and what
a request for a domain finds. Refreshed tokens come from the daemon.
-/

namespace GrokingClawId.Proxy
open GrokingClawId.Core Text

structure CachedOAuthToken where
  accessToken : String
  /-- Unix time in seconds. -/
  expiresAt : Int
  scopes : List String
  provider : String
  registrationId : String
  deriving DecidableEq

def CachedOAuthToken.isExpired (token : CachedOAuthToken) (bufferSecs : Int) (now : DateTime) :
    Bool :=
  decide (token.expiresAt - bufferSecs ≤ now.timestamp)

def CachedOAuthToken.isHardExpired (token : CachedOAuthToken) (now : DateTime) : Bool :=
  decide (token.expiresAt ≤ now.timestamp)

structure OAuthDomainBinding where
  domain : String
  registrationId : String
  requiredScopes : List String
  deriving DecidableEq

/-- `agentId` and `daemonSocket` are what a refresh is asked for with. -/
structure OAuthTokenCache where
  tokens : AList fun _ : String => CachedOAuthToken
  bindings : List OAuthDomainBinding
  agentId : String
  daemonSocket : String
  refreshBufferSecs : Int

/-- A pattern `*.suffix` stands for the subdomains of the suffix at any depth, not for itself. -/
def domainMatches (pattern domain : String) : Bool :=
  let pattern := pattern.toList
  let domain := domain.toList
  pattern == domain ||
    match stripPrefix "*.".toList pattern with
    | some suffix =>
      suffix.isSuffixOf domain && decide (suffix.length < domain.length) &&
        (domain.take (domain.length - suffix.length)).getLast? == some '.'
    | none => false

/-- What `get_token` comes to before it waits for anything. -/
inductive TokenLookup where
  | nothing
  /-- The token, and whether a refresh is started in the background. -/
  | found (token : CachedOAuthToken) (refresh : Bool)
  /-- The token has expired and the request waits for a refresh. -/
  | waits

namespace OAuthTokenCache

/-- The first binding that matches. -/
def findBinding (cache : OAuthTokenCache) (domain : String) : Option OAuthDomainBinding :=
  cache.bindings.find? fun binding => domainMatches binding.domain domain

/-- What `get_token` does once it has a binding; it reads the clock twice. -/
def lookUp (cache : OAuthTokenCache) (registrationId : String) (now later : DateTime) :
    TokenLookup :=
  match cache.tokens.lookup registrationId with
  | none => .nothing
  | some token =>
    if token.isHardExpired now then .waits
    else .found token (token.isExpired cache.refreshBufferSecs later)

/-- A refreshed token goes into the cache, for a waiting request and in the background alike. -/
def updateToken (cache : OAuthTokenCache) (registrationId : String) (token : CachedOAuthToken) :
    OAuthTokenCache :=
  { cache with tokens := cache.tokens.insert registrationId token }

def removeToken (cache : OAuthTokenCache) (registrationId : String) : OAuthTokenCache :=
  { cache with tokens := cache.tokens.erase registrationId }

@[simp] theorem findBinding_updateToken (cache : OAuthTokenCache) (id : String)
    (token : CachedOAuthToken) (domain : String) :
    (cache.updateToken id token).findBinding domain = cache.findBinding domain := rfl

@[simp] theorem findBinding_removeToken (cache : OAuthTokenCache) (id domain : String) :
    (cache.removeToken id).findBinding domain = cache.findBinding domain := rfl

theorem lookup_updateToken (cache : OAuthTokenCache) (id : String) (token : CachedOAuthToken) :
    (cache.updateToken id token).tokens.lookup id = some token := AList.lookup_insert _

theorem lookup_updateToken_other {cache : OAuthTokenCache} {id other : String}
    {token : CachedOAuthToken} (different : other ≠ id) :
    (cache.updateToken id token).tokens.lookup other = cache.tokens.lookup other :=
  AList.lookup_insert_ne different

theorem lookup_removeToken (cache : OAuthTokenCache) (id : String) :
    (cache.removeToken id).tokens.lookup id = none := AList.lookup_erase _ _

theorem lookup_of_removeToken {cache : OAuthTokenCache} {id other : String}
    {token : CachedOAuthToken} (left : (cache.removeToken id).tokens.lookup other = some token) :
    cache.tokens.lookup other = some token := by
  by_cases same : other = id
  · rw [same, lookup_removeToken] at left
    cases left
  · exact (AList.lookup_erase_ne same).symm.trans left

theorem lookUp_found {cache : OAuthTokenCache} {id : String} {now later : DateTime}
    {token : CachedOAuthToken} {refresh : Bool}
    (got : cache.lookUp id now later = .found token refresh) :
    cache.tokens.lookup id = some token ∧ token.isHardExpired now = false := by
  unfold lookUp at got
  split at got
  · cases got
  · rename_i cached held
    split at got
    · cases got
    · rename_i expired
      injection got with sameToken _
      rw [← sameToken]
      exact ⟨held, Bool.eq_false_iff.mpr expired⟩

theorem lookUp_waits {cache : OAuthTokenCache} {id : String} {now later : DateTime}
    (got : cache.lookUp id now later = .waits) :
    ∃ token, cache.tokens.lookup id = some token ∧ token.isHardExpired now = true := by
  unfold lookUp at got
  split at got
  · cases got
  · rename_i cached held
    split at got
    · rename_i expired
      exact ⟨cached, held, expired⟩
    · cases got

end OAuthTokenCache
end GrokingClawId.Proxy
