import GrokingClawId.Proxy.Server

/-!
# Hosts the proxy reaches

Which hosts the proxy connects to under an allowlist. The allowlist is checked against one
reading of the request and the connection is made from another, so a request stays inside every
allowlist exactly when both readings name the same host or a parent of it.
-/

namespace GrokingClawId.Proxy
open GrokingClawId.Core Text

/-- What an allowlist is for: the host is an allowed domain or lies below one. -/
def Permitted (allowed : List String) (host : String) : Prop :=
  host ∈ allowed ∨ ∃ domain ∈ allowed, s!".{domain}".toList <:+ host.toList

/-- The host is the checked one or lies below it. -/
def Within (checked host : String) : Prop := Permitted [checked] host

theorem listed_iff {allowed : List String} {host : String} :
    listed allowed host = true ↔ Permitted allowed host := by
  simp [listed, Permitted, endsWith]

theorem permitted_within {allowed : List String} {checked host : String}
    (permitted : Permitted allowed checked) (within : Within checked host) :
    Permitted allowed host := by
  have below : host = checked ∨ s!".{checked}".toList <:+ host.toList := by
    simpa [Within, Permitted] using within
  rcases below with rfl | deeper
  · exact permitted
  · rcases permitted with exact | ⟨domain, member, above⟩
    · exact .inr ⟨checked, exact, deeper⟩
    · refine .inr ⟨domain, member, above.trans (List.IsSuffix.trans ?_ deeper)⟩
      exact ⟨['.'], by simp [toString]⟩

theorem not_permitted_longer (host : String) : ¬ Permitted [host ++ "x"] host := by
  have length : (host ++ "x").toList.length = host.toList.length + 1 := by
    rw [String.toList_append, List.length_append]
    rfl
  rintro (member | ⟨domain, member, above⟩)
  · rw [← List.mem_singleton.mp member] at length
    omega
  · rw [List.mem_singleton.mp member] at above
    have bound := above.length_le
    have dotted : ∀ domain : String, s!".{domain}".toList.length = domain.toList.length + 1 := by
      intro domain
      simp [toString]
    have longer := dotted (host ++ "x")
    omega

/-! ### Connections of one request -/

/-- The request makes the proxy connect to the host. -/
def Dials (effects : List Effect) (host : String) : Prop :=
  ∃ addr, Effect.connect addr ∈ effects ∧ dialHost addr = some host

theorem dialHost_addr (target : HttpUri) :
    dialHost target.addr = some (target.host.getD "localhost") := by
  have small : (target.port.map UInt16.toNat).getD 80 ≤ 65535 := by
    cases target.port with
    | none => decide
    | some port => exact Nat.le_of_lt_succ port.toNat_lt
  have digits : ':' ∉ ((target.port.map UInt16.toNat).getD 80).repr.toList := by
    intro member
    exact absurd (digits_repr _ _ member) (by decide)
  have text : target.addr.toList = (target.host.getD "localhost").toList ++
      ':' :: ((target.port.map UInt16.toNat).getD 80).repr.toList := by
    simp [HttpUri.addr, toString]
  rw [dialHost, text, rsplitOnce_append digits]
  simp only [Option.bind_eq_bind, Option.bind_some, parseUnsigned_repr small, String.ofList_toList]

theorem dials_relay {method uri addr host : String} {headers : List (String × String)}
    {body : List UInt8} {entry : Option Nat → Nat → ProxyAuditEntry} {net : Network} :
    Dials (relay method uri headers body addr entry net).1 host ↔ dialHost addr = some host := by
  have first : ∀ addr', Effect.connect addr' ∈ (relay method uri headers body addr entry net).1 ↔
      addr' = addr := by
    intro addr'
    unfold relay
    split
    · simp
    · split
      · simp
      · dsimp only
        split <;> simp
  simp [Dials, first]

section Handlers
variable [UrlCrate] [HttpCrate] [Unicode] [Chrono] [Ed25519] [MlDsa65]

/-- What is checked and what is dialled agree, or nothing is dialled. -/
def HttpRequest.Agrees (req : HttpRequest) : Prop :=
  if req.method = "CONNECT" then
    ∀ host, dialHost req.hostPort = some host → Within (beforeColon req.hostPort) host
  else
    ∀ target, req.body ≠ none → HttpCrate.parseUri req.uri.text = some target →
      target.scheme.getD "http" ≠ "https" →
      extractDomain req.uri.text ≠ "" ∧ Within (extractDomain req.uri.text) (target.host.getD "localhost")

omit [UrlCrate] [HttpCrate] [Unicode] [Chrono] [Ed25519] [MlDsa65] in
theorem dials_handleConnect {state : ProxyState} {req : HttpRequest} {net : Network}
    {host : String} :
    Dials (handleConnect state req net).1 host ↔
      (state.scope.checkConnect req.hostPort net.instant).1 = .allow ∧ net.upgraded = true ∧
        dialHost req.hostPort = some host := by
  unfold handleConnect
  dsimp only
  split
  · rename_i decided
    cases upgraded : net.upgraded <;> simp [Dials, decided]
  · rename_i decided
    simp [Dials, decided]
  · rename_i decided
    simp [Dials, decided]

theorem dials_handleForward {state : ProxyState} {req : HttpRequest} {net : Network}
    {host : String} :
    Dials (handleForward state req net).1 host ↔
      (state.scope.checkUrl req.uri.text net.instant).1 = .allow ∧ req.body ≠ none ∧
        ∃ target, HttpCrate.parseUri req.uri.text = some target ∧
          target.scheme.getD "http" ≠ "https" ∧
          target.host.getD "localhost" = host := by
  unfold handleForward
  dsimp only
  split
  · rename_i decided
    rw [decided]
    split
    · rename_i missing
      simp [Dials, missing]
    · rename_i bytes present
      split
      · rename_i rejected
        simp [Dials, rejected]
      · rename_i target parsed
        split
        · rename_i secure
          simp [Dials, parsed, secure]
        · rename_i plain
          rw [dials_relay, dialHost_addr]
          simp [parsed, present, plain]
  · rename_i decided
    simp [Dials, decided]
  · rename_i decided
    simp [Dials, decided]

/-- A request stays inside every allowlist exactly when what is checked and what is dialled
agree. -/
theorem handleRequest_permitted (req : HttpRequest) :
    (∀ (state : ProxyState) (net : Network), state.scope.allowedDomains ≠ [] →
      ∀ host, Dials (handleRequest state req net).1 host →
        Permitted state.scope.allowedDomains host) ↔
    req.Agrees := by
  let net : Network :=
    { instant := 0, now := 0, nonce := Uuid.nil, rng := 0, getToken := fun _ => none, durationMs := 0,
      upgraded := true, connected := true, handshaken := true, answer := none }
  let state (domain : String) : ProxyState :=
    { scope := { allowedDomains := [domain], maxRequestsPerMinute := 0 }, signer := none, oauth := false }
  unfold HttpRequest.Agrees handleRequest
  split
  · constructor
    · intro confined host dial
      apply confined (state (beforeColon req.hostPort)) net (List.cons_ne_nil _ _) host
      refine dials_handleConnect.mpr ⟨?_, rfl, dial⟩
      simp [state, ScopeConfig.checkConnect, ScopeConfig.limited_unlimited, listed]
    · intro agrees state net restricted host dials
      obtain ⟨allowed, _, dial⟩ := dials_handleConnect.mp dials
      have checked := listed_iff.mp (ScopeConfig.checkConnect_allow restricted allowed)
      exact permitted_within checked (agrees host dial)
  · constructor
    · intro confined target body parsed plain
      have nonempty : extractDomain req.uri.text ≠ "" := by
        intro empty
        refine not_permitted_longer _ (confined (state (target.host.getD "localhost" ++ "x")) net
          (List.cons_ne_nil _ _) _ (dials_handleForward.mpr ⟨?_, body, target, parsed, plain, rfl⟩))
        simp [state, ScopeConfig.checkUrl, ScopeConfig.limited_unlimited, empty]
      refine ⟨nonempty, confined (state (extractDomain req.uri.text)) net (List.cons_ne_nil _ _) _ ?_⟩
      refine dials_handleForward.mpr ⟨?_, body, target, parsed, plain, rfl⟩
      simp [state, ScopeConfig.checkUrl, ScopeConfig.limited_unlimited, listed]
    · intro agrees state net restricted host dials
      obtain ⟨allowed, body, target, parsed, plain, rfl⟩ := dials_handleForward.mp dials
      obtain ⟨nonempty, within⟩ := agrees target body parsed plain
      have checked := (ScopeConfig.checkUrl_allow restricted allowed).resolve_left nonempty
      exact permitted_within (listed_iff.mp checked) within

end Handlers

section
open scoped StandIn Core.StandIn

/-- `GET /exfil.openai.com` has no host: the path passes for a subdomain, and the proxy connects to
itself. -/
theorem handleRequest_not_permitted :
    ¬ ∀ (req : HttpRequest) (state : ProxyState) (net : Network), state.scope.allowedDomains ≠ [] →
      ∀ host, Dials (handleRequest state req net).1 host →
        Permitted state.scope.allowedDomains host := by
  intro permitted
  let target : HttpUri :=
    { text := "/exfil.openai.com", scheme := none, authority := none, host := none, port := none }
  let req : HttpRequest := { method := "GET", uri := target, headers := [], body := some [] }
  let state : ProxyState :=
    { scope := { allowedDomains := ["openai.com"], maxRequestsPerMinute := 0 }, signer := none,
      oauth := false }
  let net : Network :=
    { instant := 0, now := 0, nonce := Uuid.nil, rng := 0, getToken := fun _ => none, durationMs := 0,
      upgraded := false, connected := true, handshaken := true, answer := none }
  have allowed : (state.scope.checkUrl "/exfil.openai.com" 0).1 = .allow := by decide
  have parsed : HttpCrate.parseUri req.uri.text = some target := if_pos (by decide)
  have dials : Dials (handleForward state req net).1 "localhost" :=
    dials_handleForward.mpr ⟨allowed, Option.some_ne_none _, target, parsed, by decide, rfl⟩
  have routed : handleRequest state req net = handleForward state req net := if_neg (by decide)
  rw [← routed] at dials
  rcases permitted req state net (List.cons_ne_nil _ _) "localhost" dials with
    exact | ⟨domain, member, above⟩
  · exact absurd exact (by decide)
  · rw [List.mem_singleton.mp member] at above
    exact absurd above (by decide)

end

end GrokingClawId.Proxy
