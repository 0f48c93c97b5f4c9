import GrokingClawId.Core.Audit
import GrokingClawId.Proxy.Server

/-!
# Proxy audit logger

`audit.rs` of the proxy writes each proxied request to the audit log of its agent. Which requests
leave an entry depends on where the handler ends: some of its exits after the scope check do not
log.
-/

namespace GrokingClawId.Proxy
open GrokingClawId.Core Text

structure ProxyAuditLogger where
  agentId : Uuid
  signingKey : Core.Bytes 32

/-- The action and the target of a logging call. -/
def Effect.audited : Effect → Option (String × String)
  | .logRequest entry => some (entry.action, entry.url)
  | .logDenial method url reason => some (s!"PROXY_DENIED {method} {url} reason={reason}", url)
  | .connect _ => none
  | .send _ _ _ _ => none

@[simp] theorem Effect.audited_logRequest (entry : ProxyAuditEntry) :
    (Effect.logRequest entry).audited = some (entry.action, entry.url) := rfl

@[simp] theorem Effect.audited_logDenial (method url reason : String) :
    (Effect.logDenial method url reason).audited =
    some (s!"PROXY_DENIED {method} {url} reason={reason}", url) := rfl

@[simp] theorem Effect.audited_connect (addr : String) : (Effect.connect addr).audited = none := rfl

@[simp] theorem Effect.audited_send (method uri : String) (headers : List (String × String))
    (body : List UInt8) : (Effect.send method uri headers body).audited = none := rfl

def ProxyAuditLogger.call (logger : ProxyAuditLogger) (timestamp : Int) (action target : String) :
    RecordCall :=
  { agentId := logger.agentId, action, target, signingKey := logger.signingKey, timestamp }

section Logger
variable [Ed25519] [Sha256]

/-- The database takes every entry. -/
def ProxyAuditLogger.record (logger : ProxyAuditLogger) (timestamp : Int) (effects : List Effect)
    (db : AuditDb) : AuditDb :=
  effects.foldl (fun db effect =>
    match effect.audited with
    | some (action, target) => (recordEntry db (logger.call timestamp action target)).1
    | none => db) db

/-- The entries are those of the logging calls, in their order. -/
theorem ProxyAuditLogger.record_entries (logger : ProxyAuditLogger) (timestamp : Int)
    (effects : List Effect) (db : AuditDb) : ∃ rows : List AuditRow,
    logger.record timestamp effects db = db ++ rows ∧
      rows.map (fun row => (row.action, row.target)) = effects.filterMap Effect.audited := by
  induction effects generalizing db with
  | nil => exact ⟨[], (List.append_nil db).symm, rfl⟩
  | cons effect effects ih =>
    cases logged : effect.audited with
    | none =>
      obtain ⟨rows, recorded, same⟩ := ih db
      refine ⟨rows, ?_, ?_⟩
      · rw [record, List.foldl_cons, logged]
        exact recorded
      · rw [List.filterMap_cons, logged]
        exact same
    | some entry =>
      obtain ⟨action, target⟩ := entry
      let call := logger.call timestamp action target
      obtain ⟨rows, recorded, same⟩ := ih (recordEntry db call).1
      refine ⟨call.row db.getLastHash db.nextId :: rows, ?_, ?_⟩
      · rw [record, List.foldl_cons, logged]
        refine recorded.trans ?_
        simp only [recordEntry, RecordCall.insert, List.append_assoc, List.singleton_append, call]
      · rw [List.map_cons, List.filterMap_cons, logged, same]
        rfl

theorem ProxyAuditLogger.record_one (logger : ProxyAuditLogger) (timestamp : Int)
    (effects : List Effect) (db : AuditDb) (target : String) :
    (∃ row, logger.record timestamp effects db = db ++ [row] ∧ row.target = target) ↔
      ∃ action, effects.filterMap Effect.audited = [(action, target)] := by
  obtain ⟨rows, recorded, same⟩ := logger.record_entries timestamp effects db
  rw [recorded, ← same]
  constructor
  · rintro ⟨row, one, named⟩
    rw [List.append_cancel_left one]
    exact ⟨row.action, by rw [List.map_singleton, named]⟩
  · rintro ⟨action, one⟩
    obtain ⟨row, rfl, entry⟩ := List.map_eq_singleton_iff.mp one
    exact ⟨row, rfl, (Prod.mk.inj entry).2⟩

end Logger

section Handlers
variable [UrlCrate] [HttpCrate] [Unicode] [Chrono] [Ed25519] [MlDsa65]

/-- What the log calls the target of a request. -/
def HttpRequest.auditTarget (req : HttpRequest) : String :=
  if req.method = "CONNECT" then req.hostPort else req.uri.text

/-- An allowed request is answered, refused before it is sent, or not sent for want of a
connection. -/
def HttpRequest.Concludes (req : HttpRequest) (net : Network) : Prop :=
  req.body ≠ none ∧ ∃ target, HttpCrate.parseUri req.uri.text = some target ∧
    (target.scheme.getD "http" = "https" ∨ net.connected = false ∨
      net.handshaken = true ∧ ∃ status respSize, net.answer = some (status, some respSize))

omit [UrlCrate] [HttpCrate] [Unicode] [Chrono] [Ed25519] [MlDsa65] in
theorem handleConnect_audited (state : ProxyState) (req : HttpRequest) (net : Network) :
    ∃ action, (handleConnect state req net).1.filterMap Effect.audited =
      [(action, req.hostPort)] := by
  unfold handleConnect
  dsimp only
  split
  · cases net.upgraded with
    | false => exact ⟨_, rfl⟩
    | true => exact ⟨_, rfl⟩
  · exact ⟨_, rfl⟩
  · exact ⟨_, rfl⟩

omit [UrlCrate] [HttpCrate] [Unicode] [Chrono] [Ed25519] [MlDsa65] in
theorem relay_audited (method uri : String) (headers : List (String × String)) (body : List UInt8)
    (addr target : String) (entry : Option Nat → Nat → ProxyAuditEntry) (net : Network)
    (same : ∀ statusCode respSize, (entry statusCode respSize).url = target) :
    (∃ action, (relay method uri headers body addr entry net).1.filterMap Effect.audited =
      [(action, target)]) ↔
      net.connected = false ∨
        net.handshaken = true ∧ ∃ status respSize, net.answer = some (status, some respSize) := by
  unfold relay
  cases connected : net.connected with
  | false => simp [List.filterMap_cons, same]
  | true =>
    cases handshaken : net.handshaken with
    | false => simp [List.filterMap_cons]
    | true =>
      cases answer : net.answer with
      | none => simp [List.filterMap_cons]
      | some reply =>
        obtain ⟨status, size⟩ := reply
        cases size with
        | none => simp [List.filterMap_cons]
        | some respSize => simp [List.filterMap_cons, same]

theorem handleForward_audited (state : ProxyState) (req : HttpRequest) (net : Network) :
    (∃ action, (handleForward state req net).1.filterMap Effect.audited = [(action, req.uri.text)]) ↔
      ((state.scope.checkUrl req.uri.text net.instant).1 = .allow → req.Concludes net) := by
  unfold handleForward HttpRequest.Concludes
  dsimp only
  cases decided : (state.scope.checkUrl req.uri.text net.instant).1 with
  | denyDomain domain allowed => simp
  | denyRateLimit limit windowSeconds => simp
  | allow =>
    dsimp only
    cases body : req.body with
    | none => simp
    | some bodyBytes =>
      dsimp only
      cases parsed : HttpCrate.parseUri req.uri.text with
      | none => simp
      | some target =>
        dsimp only
        by_cases secure : target.scheme.getD "http" = "https"
        · simp [secure]
        · rw [if_neg secure]
          dsimp only
          rw [relay_audited _ _ _ _ _ req.uri.text _ _ fun _ _ => rfl]
          simp [secure]

variable [Sha256]

/-- Exactly one entry is written for a request, and it names the request, when the request is a
CONNECT, is refused, or comes to a conclusion. -/
theorem handleRequest_audited (logger : ProxyAuditLogger) (timestamp : Int) (db : AuditDb)
    (state : ProxyState) (req : HttpRequest) (net : Network) :
    (∃ row, logger.record timestamp (handleRequest state req net).1 db = db ++ [row] ∧
      row.target = req.auditTarget) ↔
    (req.method ≠ "CONNECT" → (state.scope.checkUrl req.uri.text net.instant).1 = .allow →
      req.Concludes net) := by
  rw [logger.record_one]
  unfold handleRequest HttpRequest.auditTarget
  by_cases tunnel : req.method = "CONNECT"
  · simp only [tunnel, if_true]
    exact ⟨fun _ different => absurd rfl different, fun _ => handleConnect_audited state req net⟩
  · simp only [tunnel, if_false]
    rw [handleForward_audited]
    exact ⟨fun concludes _ => concludes, fun concludes => concludes tunnel⟩

end Handlers

section
open scoped StandIn Core.StandIn

/-- The upstream takes the request and closes the connection: the request has left, and nothing is
written. -/
theorem handleRequest_unaudited :
    ¬ ∀ (logger : ProxyAuditLogger) (timestamp : Int) (db : AuditDb) (state : ProxyState)
      (req : HttpRequest) (net : Network),
      ∃ row, logger.record timestamp (handleRequest state req net).1 db = db ++ [row] ∧
        row.target = req.auditTarget := by
  intro audited
  let target : HttpUri :=
    { text := "/", scheme := none, authority := none, host := none, port := none }
  let req : HttpRequest := { method := "POST", uri := target, headers := [], body := some [] }
  let state : ProxyState :=
    { scope := { allowedDomains := [], maxRequestsPerMinute := 0 }, signer := none, oauth := false }
  let net : Network :=
    { instant := 0, now := 0, nonce := Uuid.nil, rng := 0, getToken := fun _ => none, durationMs := 0,
      upgraded := false, connected := true, handshaken := true, answer := none }
  have allowed : (state.scope.checkUrl req.uri.text net.instant).1 = .allow := by decide
  have routed : handleRequest state req net = handleForward state req net := if_neg (by decide)
  have one := (ProxyAuditLogger.record_one _ _ _ _ _).mp
      (audited ⟨Uuid.nil, Core.StandIn.seed⟩ 0 [] state req net)
  have named : req.auditTarget = req.uri.text := if_neg (by decide)
  rw [routed, named] at one
  obtain ⟨_, target', parsed, ended⟩ := (handleForward_audited state req net).mp one allowed
  have same : HttpCrate.parseUri req.uri.text = some target := if_pos (by decide)
  obtain rfl := Option.some.inj (same.symm.trans parsed)
  rcases ended with secure | unconnected | ⟨_, status, respSize, answered⟩
  · exact absurd secure (by decide)
  · cases unconnected
  · cases answered

end
end GrokingClawId.Proxy
