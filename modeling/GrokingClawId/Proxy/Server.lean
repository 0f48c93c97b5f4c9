import GrokingClawId.Proxy.Scope

/-!
# Forward proxy

`signer.rs`, `audit.rs` and `server.rs` of the proxy: what one request makes the proxy do. A
handler is modelled by the calls it makes to the outside, in order, and its response; what the
network and the token cache answer is passed in.
-/

namespace GrokingClawId.Proxy
open GrokingClawId.Core Text

/-! ### Third-party values -/

/-- `http::Uri`, by its text and what its accessors return. -/
structure HttpUri where
  text : String
  scheme : Option String
  authority : Option String
  host : Option String
  port : Option UInt16

/-- `http`: parsing of a URI, of a header name and of a header value. -/
class HttpCrate where
  parseUri : String → Option HttpUri
  headerName : String → Bool
  headerValue : String → Bool

/-- Request targets in origin form; every header is valid. -/
scoped instance StandIn.httpCrate : HttpCrate where
  parseUri text :=
    if text.toList.head? = some '/' then
      some { text := text, scheme := none, authority := none, host := none, port := none }
    else none
  headerName _ := true
  headerValue _ := true

/-- A request as the HTTP server delivers it; `body` is `none` when it cannot be read. -/
structure HttpRequest where
  method : String
  uri : HttpUri
  headers : List (String × String)
  body : Option (List UInt8)

/-- `HeaderMap::insert`: names are kept in lower case, an old value is replaced. -/
def insertHeader (headers : List (String × String)) (name value : String) :
    List (String × String) :=
  let name := name.toLower
  headers.filter (fun header => header.1 ≠ name) ++ [(name, value)]

/-! ### Request signer -/

structure RequestSigner where
  signingKey : Core.Bytes 32
  pqSecretKey : Option (List UInt8)
  agentId : String
  keyId : String

section Signer
variable [UrlCrate] [Unicode] [Chrono] [Ed25519] [MlDsa65]

def extractAuthority (uri : String) : String :=
  match UrlCrate.parse uri with
  | some url =>
    let host := url.hostStr.getD ""
    match url.port with
    | some port => s!"{host}:{port}"
    | none => host
  | none => uri

/-- The headers to add. `nonce` is the new UUID and `rng` what the PQ signature draws. -/
def RequestSigner.signRequest (signer : RequestSigner) (method uri : String)
    (existingHeaders : List (String × String)) (now : DateTime) (nonce : Uuid) (rng : Nat) :
    List (String × String) :=
  let created := now.timestamp
  let nonce := nonce.toText
  let keyId := signer.keyId
  let sigInput :=
    s!"(\"@method\" \"@target-uri\" \"@authority\");created={created};keyid=\"{keyId}\";nonce=\"{nonce}\";alg=\"ed25519\""
  let upper := Unicode.toUppercase method
  let authority := extractAuthority uri
  let sigBase :=
    s!"\"@method\": {upper}\n\"@target-uri\": {uri}\n\"@authority\": {authority}\n\"@signature-params\": {sigInput}"
  let sigB64 := sign signer.signingKey sigBase.toUTF8
  let headers := [("Signature-Input", s!"sig1={sigInput}"), ("Signature", s!"sig1=:{sigB64}:"),
    ("X-ClawID-Agent", signer.agentId)]
  let pq := match signer.pqSecretKey with
    | some pqKey =>
      match mldsaSign pqKey sigBase.toUTF8 rng with
      | .ok pqSigB64 => [("Signature-PQ", s!"sig1=:{pqSigB64}:")]
      | .error _ => []
    | none => []
  let hasDate := existingHeaders.any fun header => Unicode.toLowercase header.1 = "date"
  let date := if hasDate then [] else [("Date", Chrono.toRfc2822 now)]
  headers ++ pq ++ date

end Signer

/-! ### Audit logger -/

structure ProxyAuditEntry where
  method : String
  url : String
  statusCode : Option Nat
  scopeDecision : String
  requestSizeBytes : Nat
  responseSizeBytes : Nat
  durationMs : Nat
  signed : Bool
  oauthInjected : Bool
  deriving DecidableEq

def ProxyAuditEntry.action (entry : ProxyAuditEntry) : String :=
  let oauthTag := if entry.oauthInjected then " oauth=injected" else ""
  let status := (entry.statusCode.map fun c => toString c).getD "-"
  s!"PROXY {entry.method} {entry.url} [{entry.scopeDecision}] status={status} req:{entry.requestSizeBytes}B resp:{entry.responseSizeBytes}B {entry.durationMs}ms{oauthTag}"

/-! ### Server -/

inductive Effect where
  | logRequest (entry : ProxyAuditEntry)
  | logDenial (method url reason : String)
  | connect (addr : String)
  | send (method uri : String) (headers : List (String × String)) (body : List UInt8)
  deriving DecidableEq

inductive Response where
  | empty
  | json (status : Nat) (body : String)
  | upstream (status : Nat) (sizeBytes : Nat)
  deriving DecidableEq

def denyResponse (reason : String) : Response :=
  .json 403 s!"\x7b\"error\":\"scope_denied\",\"reason\":\"{reason}\"\x7d"

def rateLimitResponse (reason : String) : Response :=
  .json 429 s!"\x7b\"error\":\"rate_limited\",\"reason\":\"{reason}\"\x7d"

def errorResponse (msg : String) : Response :=
  .json 502 s!"\x7b\"error\":\"proxy_error\",\"message\":\"{msg}\"\x7d"

structure ProxyState where
  scope : ScopeConfig
  signer : Option RequestSigner
  oauth : Bool

/-- What the outside answers while one request is handled. -/
structure Network where
  instant : Nat
  now : DateTime
  nonce : Uuid
  rng : Nat
  /-- `OAuthTokenCache::get_token`, the access token for a domain. -/
  getToken : String → Option String
  durationMs : Nat
  upgraded : Bool
  connected : Bool
  handshaken : Bool
  /-- The status and the size of the body, when each can be read. -/
  answer : Option (Nat × Option Nat)

/-- The host that `TcpStream::connect` resolves: before the last colon, if a port stands after
it. -/
def dialHost (addr : String) : Option String := do
  let (host, port) ← rsplitOnce ':' addr.toList
  let _ ← parseUnsigned 65535 port
  some (String.ofList host)

section Handlers
variable [UrlCrate] [HttpCrate] [Unicode] [Chrono] [Ed25519] [MlDsa65]

def HttpRequest.hostPort (req : HttpRequest) : String := req.uri.authority.getD req.uri.text

def handleConnect (state : ProxyState) (req : HttpRequest) (net : Network) :
    List Effect × Response × ScopeConfig :=
  let hostPort := req.hostPort
  let (decision, scope) := state.scope.checkConnect hostPort net.instant
  match decision with
  | .allow =>
    let logged := Effect.logRequest
      { method := "CONNECT", url := hostPort, statusCode := some 200, scopeDecision := "allow",
        requestSizeBytes := 0,
        responseSizeBytes := 0, durationMs := net.durationMs, signed := false, oauthInjected := false }
    -- The tunnel is opened by a task of its own, after the response.
    let tunnel := if net.upgraded then [Effect.connect hostPort] else []
    (logged :: tunnel, .empty, scope)
  | .denyDomain domain _ =>
    let reason := s!"domain '{domain}' not in allowlist"
    ([.logDenial "CONNECT" hostPort reason], denyResponse reason, scope)
  | .denyRateLimit limit _ =>
    let reason := s!"rate limit exceeded ({limit}/min)"
    ([.logDenial "CONNECT" hostPort reason], rateLimitResponse reason, scope)

/-- `extract_domain` of `oauth.rs`. -/
def oauthDomain (url : String) : Option String := do
  let u ← UrlCrate.parse url
  let host ← u.hostStr
  some (Unicode.toLowercase host)

def injectToken (state : ProxyState) (uri : String) (headers : List (String × String))
    (net : Network) :
    List (String × String) × Bool :=
  let token := if state.oauth then (oauthDomain uri).bind net.getToken else none
  match token with
  | some accessToken =>
    let value := s!"Bearer {accessToken}"
    if HttpCrate.headerValue value then (insertHeader headers "authorization" value, true)
      else (headers, false)
  | none => (headers, false)

def signHeaders (state : ProxyState) (method uri : String) (headers : List (String × String))
    (net : Network) :
    List (String × String) × Bool :=
  match state.signer with
  | some signer =>
    let sigHeaders := signer.signRequest method uri headers net.now net.nonce net.rng
    (sigHeaders.foldl (fun headers header =>
      if HttpCrate.headerName header.1 ∧ HttpCrate.headerValue header.2 then insertHeader headers
        header.1 header.2
      else headers) headers, true)
  | none => (headers, false)

def HttpUri.addr (target : HttpUri) : String :=
  let host := target.host.getD "localhost"
  let port := (target.port.map UInt16.toNat).getD 80
  s!"{host}:{port}"

def relay (method uri : String) (headers : List (String × String)) (body : List UInt8)
    (addr : String) (entry : Option Nat → Nat → ProxyAuditEntry) (net : Network) :
    List Effect × Response :=
  let dial := Effect.connect addr
  if !net.connected then
    ([dial, .logRequest (entry (some 502) 0)], errorResponse "Failed to connect to upstream")
  else if !net.handshaken then ([dial], errorResponse "Upstream handshake failed")
  else
    let sent := Effect.send method uri headers body
    match net.answer with
    | none => ([dial, sent], errorResponse "Upstream request failed")
    | some (_, none) => ([dial, sent], errorResponse "Failed to read response")
    | some (status, some respSize) =>
      ([dial, sent, .logRequest (entry (some status) respSize)], .upstream status respSize)

def handleForward (state : ProxyState) (req : HttpRequest) (net : Network) :
    List Effect × Response × ScopeConfig :=
  let method := req.method
  let uri := req.uri.text
  let (decision, scope) := state.scope.checkUrl uri net.instant
  match decision with
  | .allow =>
    let (headers, oauthInjected) := injectToken state uri req.headers net
    let (headers, signed) := signHeaders state method uri headers net
    match req.body with
    | none => ([], errorResponse "Failed to read request body", scope)
    | some bodyBytes =>
      let entry (statusCode : Option Nat) (respSize : Nat) : ProxyAuditEntry :=
        { method := method, url := uri, statusCode := statusCode, scopeDecision := "allow",
          requestSizeBytes := bodyBytes.length, responseSizeBytes := respSize, durationMs := net.durationMs,
          signed := signed, oauthInjected := oauthInjected }
      match HttpCrate.parseUri uri with
      | none => ([], errorResponse "Invalid target URI", scope)
      | some targetUri =>
        if targetUri.scheme.getD "http" = "https" then
          ([.logRequest (entry (some 400) 0)], errorResponse
            "HTTPS forward proxy not supported. Configure your client to use HTTP CONNECT tunneling for HTTPS targets.",
            scope)
        else
          let (effects, response) := relay method uri headers bodyBytes targetUri.addr entry net
          (effects, response, scope)
  | .denyDomain domain _ =>
    let reason := s!"domain '{domain}' not in allowlist"
    ([.logDenial method uri reason], denyResponse reason, scope)
  | .denyRateLimit limit _ =>
    let reason := s!"rate limit exceeded ({limit}/min)"
    ([.logDenial method uri reason], rateLimitResponse reason, scope)

def handleRequest (state : ProxyState) (req : HttpRequest) (net : Network) :
    List Effect × Response × ScopeConfig :=
  if req.method = "CONNECT" then handleConnect state req net else handleForward state req net

end Handlers

end GrokingClawId.Proxy
