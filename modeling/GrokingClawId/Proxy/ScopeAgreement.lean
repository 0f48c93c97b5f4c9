import GrokingClawId.Proxy.Reach

/-!
# Tunnels and requests

`check_connect` takes the text before the first colon of an authority for its host, `check_url` the
host that the URL parser finds. The same policy holds for both where the two are the same host.
-/

namespace GrokingClawId.Proxy
open GrokingClawId.Core Text

/-! ### Hosts under every allowlist -/

theorem Within.length {checked host : String} (within : Within checked host) :
    host = checked ∨ checked.toList.length < host.toList.length := by
  rcases within with same | ⟨domain, member, above⟩
  · exact .inl (List.mem_singleton.mp same)
  · rw [List.mem_singleton.mp member] at above
    have dotted : s!".{checked}".toList.length = checked.toList.length + 1 := by simp [toString]
    have bound := above.length_le
    exact .inr (by omega)

theorem Within.antisymm {host host' : String} (within : Within host host')
    (within' : Within host' host) :
    host = host' := by
  rcases within.length with same | longer
  · exact same.symm
  · rcases within'.length with same | longer'
    · exact same
    · omega

/-- Two hosts are permitted by the same allowlists only if they are the same. -/
theorem permitted_iff_eq {host host' : String} :
    (∀ allowed, allowed ≠ [] → (Permitted allowed host ↔ Permitted allowed host')) ↔
      host = host' := by
  constructor
  · intro same
    have within : Within host host' :=
      (same [host] (List.cons_ne_nil _ _)).mp (.inl (List.mem_singleton_self _))
    have within' : Within host' host :=
      (same [host'] (List.cons_ne_nil _ _)).mpr (.inl (List.mem_singleton_self _))
    exact within.antisymm within'
  · rintro rfl allowed _
    exact Iff.rfl

/-! ### The two checks -/

theorem checkConnect_allow_iff {scope : ScopeConfig} (unlimited : scope.maxRequestsPerMinute = 0)
    (restricted : scope.allowedDomains ≠ []) (hostPort : String) (now : Nat) :
    (scope.checkConnect hostPort now).1 = .allow ↔
      Permitted scope.allowedDomains (beforeColon hostPort) := by
  rw [ScopeConfig.checkConnect, ScopeConfig.limited_unlimited unlimited, ← listed_iff,
    if_neg (by simpa using restricted)]
  dsimp only
  split
  · rename_i found
    exact iff_of_true rfl found
  · rename_i missing
    exact iff_of_false (fun contra => by cases contra) missing

section Url
variable [UrlCrate]

theorem checkUrl_allow_iff {scope : ScopeConfig} (unlimited : scope.maxRequestsPerMinute = 0)
    (restricted : scope.allowedDomains ≠ []) {url : String} (solid : extractDomain url ≠ "")
    (now : Nat) :
    (scope.checkUrl url now).1 = .allow ↔ Permitted scope.allowedDomains (extractDomain url) := by
  rw [ScopeConfig.checkUrl, ScopeConfig.limited_unlimited unlimited, ← listed_iff,
    if_neg (by simpa using restricted)]
  dsimp only
  rw [if_neg (by simpa using solid)]
  split
  · rename_i found
    exact iff_of_true rfl found
  · rename_i missing
    exact iff_of_false (fun contra => by cases contra) missing

/-- Tunnels to an authority and requests to it are allowed under the same allowlists. -/
def Agrees (authority : String) : Prop :=
  ∀ (scope : ScopeConfig) (now : Nat), scope.maxRequestsPerMinute = 0 →
    ((scope.checkConnect authority now).1 = .allow ↔ (scope.checkUrl s!"http://{authority}/" now).1 = .allow)

/-- The authority is looked up by the text before the first colon, a request by the host of its
URL. -/
theorem agrees_iff_permitted {authority host : String} {url : Url}
    (parsed : UrlCrate.parse s!"http://{authority}/" = some url) (found : url.hostStr = some host)
    (solid : host ≠ "") : Agrees authority ↔
      ∀ allowed, allowed ≠ [] →
        (Permitted allowed (beforeColon authority) ↔ Permitted allowed host) := by
  have domain : extractDomain s!"http://{authority}/" = host := by
    rw [extractDomain, parsed]
    simp only [found, Option.getD_some]
  constructor
  · intro agrees allowed restricted
    have agrees := agrees { allowedDomains := allowed, maxRequestsPerMinute := 0 } 0 rfl
    rw [checkConnect_allow_iff rfl restricted,
      checkUrl_allow_iff rfl restricted (by rw [domain]; exact solid),
      domain] at agrees
    exact agrees
  · intro same scope now unlimited
    by_cases restricted : scope.allowedDomains = []
    · simp [ScopeConfig.checkConnect, ScopeConfig.checkUrl, ScopeConfig.limited_unlimited unlimited,
        restricted]
    · rw [checkConnect_allow_iff unlimited restricted,
        checkUrl_allow_iff unlimited restricted (by rw [domain]; exact solid), domain]
      exact same _ restricted

/-! ### Kinds of authorities -/

omit [UrlCrate] in
theorem not_mem_beforeColon (s : String) : ':' ∉ (beforeColon s).toList := by
  intro member
  rw [beforeColon, String.toList_ofList] at member
  exact absurd (List.mem_takeWhile_imp member) (by decide)

omit [UrlCrate] in
theorem beforeColon_append {front : String} (plain : ':' ∉ front.toList) (rest : String) :
    beforeColon (front ++ rest) = front ++ beforeColon rest := by
  rw [beforeColon, beforeColon, String.toList_append,
    List.takeWhile_append_of_pos fun c member => by simpa using ne_of_mem_of_not_mem member plain,
    String.ofList_append, String.ofList_toList]

/-- A name, with a port or without: they agree when the URL parser leaves the name as it is, so not
on an upper-case letter. -/
theorem agrees_name_iff {name port host : String} {url : Url} (plain : ':' ∉ name.toList)
    (suffix : port = "" ∨ ∃ digits, port = ":" ++ digits)
    (parsed : UrlCrate.parse s!"http://{name ++ port}/" = some url)
    (found : url.hostStr = some host) (solid : host ≠ "") :
    Agrees (name ++ port) ↔ host = name := by
  have before : beforeColon port = "" := by
    rcases suffix with rfl | ⟨digits, rfl⟩
    · rfl
    · rw [beforeColon, String.toList_append]
      rfl
  rw [agrees_iff_permitted parsed found solid, permitted_iff_eq, eq_comm, beforeColon_append plain,
    before, String.append_empty]

/-- An IPv6 literal. -/
theorem not_agrees_literal {authority host : String} {url : Url}
    (parsed : UrlCrate.parse s!"http://{authority}/" = some url) (found : url.hostStr = some host)
    (colon : ':' ∈ host.toList) : ¬ Agrees authority := by
  have solid : host ≠ "" := by
    rintro rfl
    cases colon
  rw [agrees_iff_permitted parsed found solid, permitted_iff_eq, eq_comm]
  rintro rfl
  exact not_mem_beforeColon authority colon

/-- A user without a password. -/
theorem not_agrees_user {authority user rest host : String} {url : Url}
    (parsed : UrlCrate.parse s!"http://{authority}/" = some url) (found : url.hostStr = some host)
    (named : authority = user ++ "@" ++ rest) (plain : ':' ∉ user.toList) (solid : host ≠ "")
    (bare : '@' ∉ host.toList) : ¬ Agrees authority := by
  rw [agrees_iff_permitted parsed found solid, permitted_iff_eq, eq_comm]
  rintro rfl
  rw [named] at bare
  have front : ':' ∉ (user ++ "@").toList := by simpa using plain
  rw [beforeColon_append front] at bare
  exact bare (by simp)

/-- They agree exactly when the host that the URL parser finds is the text before the first colon: never on
an IPv6 literal or behind a user without a password, and on a name when it is left as it is. -/
theorem agrees_iff {authority host : String} {url : Url}
    (parsed : UrlCrate.parse s!"http://{authority}/" = some url) (found : url.hostStr = some host)
    (solid : host ≠ "") :
    (Agrees authority ↔ host = beforeColon authority) ∧
    (':' ∈ host.toList → ¬ Agrees authority) ∧
    (∀ user rest, authority = user ++ "@" ++ rest → ':' ∉ user.toList → '@' ∉ host.toList →
      ¬ Agrees authority) ∧
    ∀ name port, authority = name ++ port → ':' ∉ name.toList →
      (port = "" ∨ ∃ digits, port = ":" ++ digits) → (Agrees authority ↔ host = name) := by
  refine ⟨?_, not_agrees_literal parsed found, fun user rest named plain bare =>
    not_agrees_user parsed found named plain solid bare, ?_⟩
  · rw [agrees_iff_permitted parsed found solid, permitted_iff_eq, eq_comm]
  · rintro name port rfl plain suffix
    exact agrees_name_iff plain suffix parsed found solid

end Url

section
open scoped Core.StandIn

theorem agrees_iff_github : Agrees "api.github.com" :=
  (agrees_iff (by rfl) (rfl : _ = some "api.github.com") (by decide)).1.mpr (by decide)

/-- A listed address literal is reached by a request and not through a tunnel. -/
theorem disagrees_literal : ¬ ∀ authority host url,
    UrlCrate.parse s!"http://{authority}/" = some url →
    url.hostStr = some host → host ≠ "" → Agrees authority :=
  fun agree => absurd (agree "[::1]" "[::1]" _ (by rfl) rfl (by decide))
    (not_agrees_literal (by rfl) rfl (by decide))

end
end GrokingClawId.Proxy
