import GrokingClawId.Lib.LastWrite
import GrokingClawId.Proxy.Oauth

/-!
# Tokens for bound domains

`get_token` after any changes of the tokens and the bindings, while every refresh fails: a domain gets
the token that was stored last for the first binding that matches it, as long as that has not expired.
-/

namespace GrokingClawId.Proxy
open GrokingClawId.Core Text

/-! ### Patterns -/

/-- The domain itself, or anything with a dot before the suffix. -/
def Matches (pattern domain : String) : Prop :=
  pattern = domain ∨ ∃ suffix front : String, pattern = "*." ++ suffix ∧ domain = front ++ "." ++ suffix

theorem stripPrefix_eq_some {start s rest : List Char} :
    stripPrefix start s = some rest ↔ s = start ++ rest := by
  constructor
  · intro stripped
    unfold stripPrefix at stripped
    split at stripped
    · rename_i begins
      obtain ⟨tail, rfl⟩ := List.isPrefixOf_iff_prefix.mp begins
      rw [List.drop_left] at stripped
      rw [Option.some.inj stripped]
    · cases stripped
  · rintro rfl
    exact stripPrefix_append start rest

theorem take_before (front suffix : List Char) :
    (front ++ suffix).take ((front ++ suffix).length - suffix.length) = front := by
  rw [List.length_append, Nat.add_sub_cancel, List.take_left]

/-- The last character before the suffix is the dot. -/
theorem dotted_iff {suffix domain : List Char} :
    (suffix.isSuffixOf domain && decide (suffix.length < domain.length) &&
      (domain.take (domain.length - suffix.length)).getLast? == some '.') = true ↔
    ∃ front, domain = front ++ ['.'] ++ suffix := by
  simp only [Bool.and_eq_true, decide_eq_true_eq, beq_iff_eq]
  constructor
  · rintro ⟨⟨ends, _⟩, dot⟩
    obtain ⟨front, rfl⟩ := List.isSuffixOf_iff_suffix.mp ends
    rw [take_before] at dot
    obtain ⟨before, rfl⟩ := List.getLast?_eq_some_iff.mp dot
    exact ⟨before, rfl⟩
  · rintro ⟨front, rfl⟩
    rw [take_before]
    refine ⟨⟨List.isSuffixOf_iff_suffix.mpr ⟨_, rfl⟩, ?_⟩, List.getLast?_concat ..⟩
    rw [List.length_append, List.length_append, List.length_singleton]
    omega

theorem domainMatches_iff {pattern domain : String} :
    domainMatches pattern domain = true ↔ Matches pattern domain := by
  unfold domainMatches Matches
  rw [Bool.or_eq_true]
  refine or_congr (by simp [String.toList_inj]) ?_
  constructor
  · intro wild
    split at wild
    · rename_i suffix stripped
      obtain ⟨front, dotted⟩ := dotted_iff.mp wild
      refine ⟨String.ofList suffix, String.ofList front, ?_, ?_⟩
      · apply String.toList_inj.mp
        rw [stripPrefix_eq_some.mp stripped]
        simp
      · apply String.toList_inj.mp
        rw [dotted]
        simp
    · cases wild
  · rintro ⟨suffix, front, rfl, rfl⟩
    have stripped : stripPrefix "*.".toList ("*." ++ suffix).toList = some suffix.toList :=
      stripPrefix_eq_some.mpr (String.toList_append ..)
    rw [stripped]
    exact dotted_iff.mpr ⟨front.toList, by simp only [String.toList_append]; rfl⟩

/-! ### Calls -/

namespace OAuthTokenCache

def addBinding (cache : OAuthTokenCache) (binding : OAuthDomainBinding) : OAuthTokenCache :=
  { cache with bindings := cache.bindings ++ [binding] }

def removeBindings (cache : OAuthTokenCache) (registrationId : String) : OAuthTokenCache :=
  { cache with bindings := cache.bindings.filter fun b => b.registrationId ≠ registrationId }

/-- What a refresh does to the cache, for a waiting request and in the background alike. -/
def refreshed (cache : OAuthTokenCache) (registrationId : String)
    (answer : Except String CachedOAuthToken) : OAuthTokenCache :=
  match answer with
  | .ok token => cache.updateToken registrationId token
  | .error _ => cache

/-- The token, and the cache afterwards. A refresh that is started in the background is not waited
for. -/
def getToken (cache : OAuthTokenCache) (domain : String) (now later : DateTime)
    (answer : Except String CachedOAuthToken) : Option CachedOAuthToken × OAuthTokenCache :=
  match cache.findBinding domain with
  | none => (none, cache)
  | some binding =>
    match cache.lookUp binding.registrationId now later with
    | .nothing => (none, cache)
    | .found token _ => (some token, cache)
    | .waits => (answer.toOption, cache.refreshed binding.registrationId answer)

end OAuthTokenCache

inductive CacheCall where
  | update (registrationId : String) (token : CachedOAuthToken)
  | remove (registrationId : String)
  | addBinding (binding : OAuthDomainBinding)
  | removeBindings (registrationId : String)
  | get (domain : String) (now later : DateTime) (answer : Except String CachedOAuthToken)
  /-- A refresh in the background is answered. -/
  | background (registrationId : String) (answer : Except String CachedOAuthToken)

namespace CacheCall

def exec (cache : OAuthTokenCache) : CacheCall → OAuthTokenCache
  | update id token => cache.updateToken id token
  | remove id => cache.removeToken id
  | addBinding binding => cache.addBinding binding
  | removeBindings id => cache.removeBindings id
  | get domain now later answer => (cache.getToken domain now later answer).2
  | background id answer => cache.refreshed id answer

/-- Its refresh fails, where it has one. -/
def Fails : CacheCall → Prop
  | get _ _ _ answer => ∃ e, answer = .error e
  | background _ answer => ∃ e, answer = .error e
  | _ => True

/-- The registration whose token it stores or removes. -/
def effect : CacheCall → Option (String × Option CachedOAuthToken)
  | update id token => some (id, some token)
  | remove id => some (id, none)
  | _ => none

/-- It removes the bindings of the registration. -/
def unbinds (id : String) : CacheCall → Bool
  | removeBindings other => other = id
  | _ => false

end CacheCall

/-- The bindings that none of the calls removes. -/
def remaining (calls : List CacheCall) (bindings : List OAuthDomainBinding) :
    List OAuthDomainBinding :=
  bindings.filter fun b => !calls.any (CacheCall.unbinds b.registrationId)

/-- The bindings that are added and not removed later. -/
def added : List CacheCall → List OAuthDomainBinding
  | [] => []
  | .addBinding binding :: calls => remaining calls [binding] ++ added calls
  | _ :: calls => added calls

/-- The first binding of the list that matches. -/
def FirstMatch (bindings : List OAuthDomainBinding) (domain : String)
    (binding : OAuthDomainBinding) :
    Prop :=
  ∃ before after, bindings = before ++ binding :: after ∧ Matches binding.domain domain ∧
    ∀ other ∈ before, ¬ Matches other.domain domain

namespace OAuthTokenCache
variable {cache : OAuthTokenCache} {domain : String} {now later : DateTime} {token : CachedOAuthToken}

theorem findBinding_iff {binding : OAuthDomainBinding} :
    cache.findBinding domain = some binding ↔ FirstMatch cache.bindings domain binding := by
  unfold findBinding FirstMatch
  rw [List.find?_eq_some_iff_append]
  constructor
  · rintro ⟨found, before, after, split, skipped⟩
    refine ⟨before, after, split, domainMatches_iff.mp found, fun other member matched => ?_⟩
    have passed := skipped other member
    rw [domainMatches_iff.mpr matched] at passed
    exact absurd passed (by decide)
  · rintro ⟨before, after, split, found, skipped⟩
    refine ⟨domainMatches_iff.mpr found, before, after, split, fun other member => ?_⟩
    rw [Bool.not_eq_true']
    exact Bool.eq_false_iff.mpr fun matched => skipped other member (domainMatches_iff.mp matched)

theorem isHardExpired_false :
    token.isHardExpired now = false ↔ now.timestamp < token.expiresAt := by
  rw [CachedOAuthToken.isHardExpired, decide_eq_false_iff_not, Int.not_le]

/-- A call whose refresh fails returns what the cache has for the first binding, before its
expiry. -/
theorem getToken_failing {e : String} :
    (cache.getToken domain now later (.error e)).1 = some token ↔
    ∃ binding, cache.findBinding domain = some binding ∧
      cache.tokens.lookup binding.registrationId = some token ∧
      now.timestamp < token.expiresAt := by
  unfold getToken
  cases bound : cache.findBinding domain with
  | none => simp
  | some binding =>
    simp only [Option.some.injEq, exists_eq_left', ← isHardExpired_false]
    cases looked : cache.lookUp binding.registrationId now later with
    | nothing =>
      refine ⟨nofun, fun ⟨held, valid⟩ => ?_⟩
      simp [lookUp, held, valid] at looked
    | found other refresh =>
      obtain ⟨held, valid⟩ := lookUp_found looked
      dsimp only
      constructor
      · intro same
        rw [← Option.some.inj same]
        exact ⟨held, valid⟩
      · rintro ⟨held', _⟩
        exact held.symm.trans held'
    | waits =>
      obtain ⟨other, held, expired⟩ := lookUp_waits looked
      refine ⟨nofun, fun ⟨held', valid⟩ => ?_⟩
      rw [Option.some.inj (held.symm.trans held'), valid] at expired
      cases expired

end OAuthTokenCache

/-! ### Runs -/

theorem remaining_append (calls : List CacheCall) (first second : List OAuthDomainBinding) :
    remaining calls (first ++ second) = remaining calls first ++ remaining calls second :=
  List.filter_append ..

theorem remaining_cons (call : CacheCall) (calls : List CacheCall)
    (bindings : List OAuthDomainBinding) :
    remaining (call :: calls) bindings =
      remaining calls (bindings.filter fun b => !call.unbinds b.registrationId) := by
  unfold remaining
  rw [List.filter_filter]
  refine List.filter_congr fun b _ => ?_
  rw [List.any_cons, Bool.not_or, Bool.and_comm]

theorem remaining_other {call : CacheCall} (other : ∀ id, call.unbinds id = false)
    (calls : List CacheCall) (bindings : List OAuthDomainBinding) :
    remaining (call :: calls) bindings = remaining calls bindings := by
  rw [remaining_cons]
  congr 1
  exact List.filter_eq_self.mpr fun b _ => by rw [other, Bool.not_false]

namespace CacheCall

theorem refreshed_bindings (cache : OAuthTokenCache) (id : String)
    (answer : Except String CachedOAuthToken) :
    (cache.refreshed id answer).bindings = cache.bindings := by
  cases answer with
  | ok token => rfl
  | error e => rfl

theorem getToken_bindings (cache : OAuthTokenCache) (domain : String) (now later : DateTime)
    (answer : Except String CachedOAuthToken) :
    (cache.getToken domain now later answer).2.bindings = cache.bindings := by
  unfold OAuthTokenCache.getToken
  split
  · rfl
  · split
    · rfl
    · rfl
    · exact refreshed_bindings _ _ _

/-- After any calls there are the bindings that were not removed since they were there, in their
order. -/
theorem bindings_after (calls : List CacheCall) (cache : OAuthTokenCache) :
    (calls.foldl exec cache).bindings = remaining calls cache.bindings ++ added calls := by
  induction calls generalizing cache with
  | nil => simp [remaining, added]
  | cons call calls ih =>
    rw [List.foldl_cons, ih]
    cases call with
    | addBinding binding =>
      rw [remaining_other fun _ => rfl]
      show remaining calls (cache.bindings ++ [binding]) ++ added calls = _
      rw [remaining_append, List.append_assoc]
      rfl
    | removeBindings id =>
      rw [remaining_cons]
      show remaining calls (cache.bindings.filter fun b => b.registrationId ≠ id) ++ added calls =
        remaining calls (cache.bindings.filter fun b => !(removeBindings id).unbinds b.registrationId) ++
          added calls
      rw [List.filter_congr fun b _ => ?_]
      simp [unbinds, eq_comm]
    | update id token => rw [remaining_other fun _ => rfl]; rfl
    | remove id => rw [remaining_other fun _ => rfl]; rfl
    | get domain now later answer =>
      rw [remaining_other fun _ => rfl]
      show remaining calls (cache.getToken domain now later answer).2.bindings ++ added calls = _
      rw [getToken_bindings]
      rfl
    | background id answer =>
      rw [remaining_other fun _ => rfl]
      show remaining calls (cache.refreshed id answer).bindings ++ added calls = _
      rw [refreshed_bindings]
      rfl

theorem getToken_fails (cache : OAuthTokenCache) (domain : String) (now later : DateTime)
    (e : String) :
    (cache.getToken domain now later (.error e)).2 = cache := by
  unfold OAuthTokenCache.getToken
  split
  · rfl
  · split <;> rfl

theorem exec_touch {call : CacheCall} {id : String} {stored : Option CachedOAuthToken}
    (written : call.effect = some (id, stored)) (cache : OAuthTokenCache) :
    (call.exec cache).tokens.lookup id = stored := by
  cases call with
  | update other token =>
    obtain ⟨rfl, rfl⟩ := Prod.mk.inj (Option.some.inj written)
    exact cache.lookup_updateToken _ _
  | remove other =>
    obtain ⟨rfl, rfl⟩ := Prod.mk.inj (Option.some.inj written)
    exact cache.lookup_removeToken _
  | addBinding binding => cases written
  | removeBindings other => cases written
  | get domain now later answer => cases written
  | background other answer => cases written

theorem exec_frame {call : CacheCall} (fails : call.Fails) {id : String}
    (other : ¬ LastWrite.Touches effect id call) (cache : OAuthTokenCache) :
    (call.exec cache).tokens.lookup id = cache.tokens.lookup id := by
  cases call with
  | update written token =>
    refine OAuthTokenCache.lookup_updateToken_other fun same => other ⟨some token, ?_⟩
    rw [same]
    rfl
  | remove written =>
    refine AList.lookup_erase_ne fun same => other ⟨none, ?_⟩
    rw [same]
    rfl
  | addBinding binding => rfl
  | removeBindings written => rfl
  | get domain now later answer =>
    obtain ⟨e, rfl⟩ := fails
    show (cache.getToken domain now later (.error e)).2.tokens.lookup id = _
    rw [getToken_fails]
  | background written answer =>
    obtain ⟨e, rfl⟩ := fails
    rfl

end CacheCall

/-- After any calls whose refreshes fail, a domain gets a token exactly when a binding that is left
matches it and the first of these is for a registration whose last token has not expired; it gets
that token. -/
theorem getToken_iff (start : OAuthTokenCache) {calls : List CacheCall}
    (failing : ∀ call ∈ calls, call.Fails) (domain : String) (now later : DateTime) (e : String)
    (token : CachedOAuthToken) :
    ((calls.foldl CacheCall.exec start).getToken domain now later (.error e)).1 = some token ↔
      ∃ binding, FirstMatch (remaining calls start.bindings ++ added calls) domain binding ∧
        LastWrite.Stored CacheCall.effect (start.tokens.lookup binding.registrationId) calls
          binding.registrationId token ∧
        now.timestamp < token.expiresAt := by
  rw [OAuthTokenCache.getToken_failing]
  refine exists_congr fun binding => and_congr ?_ (and_congr_left' ?_)
  · rw [OAuthTokenCache.findBinding_iff, CacheCall.bindings_after]
  · exact LastWrite.lookup_iff CacheCall.exec (fun cache id => cache.tokens.lookup id)
      (fun call _ s id w written => CacheCall.exec_touch written s)
      (fun call member s id other => CacheCall.exec_frame (failing call member) other s) start

namespace StandIn

def cached (accessToken : String) (registrationId : String) : CachedOAuthToken where
  accessToken := accessToken
  expiresAt := 100
  scopes := []
  provider := "p"
  registrationId := registrationId

def bare : OAuthTokenCache where
  tokens := ∅
  bindings := [⟨"api.example.com", "gone", []⟩]
  agentId := "scout"
  daemonSocket := ""
  refreshBufferSecs := 60

/-- The wildcard stands before the domain, and its token is replaced. -/
def rebound : List CacheCall :=
  [.removeBindings "gone", .addBinding ⟨"*.example.com", "wild", []⟩,
    .addBinding ⟨"api.example.com", "exact", []⟩, .update "wild" (cached "first" "wild"),
    .update "exact" (cached "other" "exact"), .get "api.example.com" 0 0 (.error "down"),
    .update "wild" (cached "second" "wild")]

theorem getToken_iff_rebound :
    ((rebound.foldl CacheCall.exec bare).getToken "api.example.com" 0 0 (.error "down")).1 =
      some (cached "second" "wild") := by
  have failing : ∀ call ∈ rebound, call.Fails := by
    simp [rebound, CacheCall.Fails]
  refine (getToken_iff bare failing "api.example.com" 0 0 "down" _).mpr
    ⟨⟨"*.example.com", "wild", []⟩, ⟨[], [⟨"api.example.com", "exact", []⟩], by decide, ?_, by simp⟩, ?_,
      by decide⟩
  · exact .inr ⟨"example.com", "api", by decide, by decide⟩
  · refine .inl ⟨rebound.dropLast, _, [], rfl, rfl, by simp⟩

end StandIn
end GrokingClawId.Proxy
