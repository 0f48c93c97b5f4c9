import GrokingClawId.Core.Models

/-!
# Scope enforcement

`scope.rs`: the rate limit and the domain allowlist of one agent's proxy. Instants are
nanoseconds of a monotonic clock.
-/

namespace GrokingClawId.Proxy
open GrokingClawId.Core Text

structure ScopeConfig where
  /-- Empty = allow all. -/
  allowedDomains : List String
  /-- 0 = unlimited. -/
  maxRequestsPerMinute : Nat
  requestTimestamps : List Nat := []

inductive ScopeDecision where
  | allow
  | denyDomain (domain : String) (allowed : List String)
  | denyRateLimit (limit windowSeconds : Nat)
  deriving DecidableEq

def nanosPerSecond : Nat := 1000000000

def beforeColon (s : String) : String := String.ofList (s.toList.takeWhile (· ≠ ':'))

def endsWith (s suffix : String) : Bool := suffix.toList.isSuffixOf s.toList

def listed (allowed : List String) (host : String) : Bool :=
  allowed.contains host || allowed.any fun domain => endsWith host s!".{domain}"

section Url
variable [UrlCrate]

def extractDomain (urlStr : String) : String :=
  match UrlCrate.parse urlStr with
  | some url => url.hostStr.getD ""
  | none => beforeColon urlStr

end Url

namespace ScopeConfig

/-- The sliding window: the seconds to wait when the limit is reached. -/
def checkRateLimit (scope : ScopeConfig) (now : Nat) : Option Nat × ScopeConfig :=
  if scope.maxRequestsPerMinute = 0 then (none, scope)
  else
    let window := 60 * nanosPerSecond
    let kept := scope.requestTimestamps.dropWhile fun t => decide (window ≤ now - t)
    if scope.maxRequestsPerMinute ≤ kept.length % UInt32.size then
      let oldest := kept.headD now
      let wait := window - (now - oldest)
      (some (max (wait / nanosPerSecond) 1), { scope with requestTimestamps := kept })
    else (none, { scope with requestTimestamps := kept ++ [now] })

/-- The rate limit comes before the check of the domains. -/
def limited (scope : ScopeConfig) (now : Nat) (checkDomain : ScopeConfig → ScopeDecision) :
    ScopeDecision × ScopeConfig :=
  match scope.checkRateLimit now with
  | (some waitSecs, scope) => (.denyRateLimit scope.maxRequestsPerMinute waitSecs, scope)
  | (none, scope) => (checkDomain scope, scope)

def checkUrl [UrlCrate] (scope : ScopeConfig) (url : String) (now : Nat) :
    ScopeDecision × ScopeConfig :=
  scope.limited now fun scope =>
    if scope.allowedDomains.isEmpty then .allow
    else
      let domain := extractDomain url
      -- A URL without a host is taken for a local one.
      if domain.isEmpty then .allow
      else if listed scope.allowedDomains domain then .allow
      else .denyDomain domain scope.allowedDomains

def checkConnect (scope : ScopeConfig) (hostPort : String) (now : Nat) :
    ScopeDecision × ScopeConfig :=
  let host := beforeColon hostPort
  scope.limited now fun scope =>
    if scope.allowedDomains.isEmpty then .allow
    else if listed scope.allowedDomains host then .allow
    else .denyDomain host scope.allowedDomains

/-! ### What a check allows -/

theorem checkRateLimit_allowedDomains (scope : ScopeConfig) (now : Nat) :
    (scope.checkRateLimit now).2.allowedDomains = scope.allowedDomains := by
  unfold checkRateLimit
  split
  · rfl
  · dsimp only
    split <;> rfl

theorem limited_allow {scope : ScopeConfig} {now : Nat} {checkDomain : ScopeConfig → ScopeDecision}
    (allowed : (scope.limited now checkDomain).1 = .allow) :
    ∃ scope', scope'.allowedDomains = scope.allowedDomains ∧ checkDomain scope' = .allow := by
  have same := scope.checkRateLimit_allowedDomains now
  unfold limited at allowed
  split at allowed
  · cases allowed
  · rename_i scope' passed
    exact ⟨scope', by rw [passed] at same; exact same, allowed⟩

theorem limited_unlimited {scope : ScopeConfig} {now : Nat}
    {checkDomain : ScopeConfig → ScopeDecision} (unlimited : scope.maxRequestsPerMinute = 0) :
    scope.limited now checkDomain = (checkDomain scope, scope) := by
  simp [limited, checkRateLimit, unlimited]

theorem checkUrl_allow [UrlCrate] {scope : ScopeConfig} {url : String} {now : Nat}
    (restricted : scope.allowedDomains ≠ []) (allowed : (scope.checkUrl url now).1 = .allow) :
    extractDomain url = "" ∨ listed scope.allowedDomains (extractDomain url) = true := by
  obtain ⟨scope', same, passed⟩ := limited_allow allowed
  rw [same, if_neg (by simpa using restricted)] at passed
  dsimp only at passed
  split at passed
  · rename_i empty
    exact .inl (String.isEmpty_iff.mp empty)
  · split at passed
    · rename_i found
      exact .inr found
    · cases passed

theorem checkConnect_allow {scope : ScopeConfig} {hostPort : String} {now : Nat}
    (restricted : scope.allowedDomains ≠ [])
    (allowed : (scope.checkConnect hostPort now).1 = .allow) :
    listed scope.allowedDomains (beforeColon hostPort) = true := by
  obtain ⟨scope', same, passed⟩ := limited_allow allowed
  rw [same, if_neg (by simpa using restricted)] at passed
  split at passed
  · rename_i found
    exact found
  · cases passed

end ScopeConfig

end GrokingClawId.Proxy
