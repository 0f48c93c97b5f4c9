import GrokingClawId.Cli.Guard

/-!
# Sessions of the guard

What a session that counts as authenticated rests on, over every run of the loop, and what
reaches the server before it.
-/

namespace GrokingClawId.Cli.Guard
open GrokingClawId.Core Text

/-! ### One attempt -/

theorem hasScope_iff (card : AgentCard) (required : String) :
    hasScope card required = true ↔ ∃ s ∈ card.scopes, s = required ∨ s = "*" ∨ s = "admin" := by
  simp only [hasScope, List.any_eq_true, Bool.or_eq_true, beq_iff_eq, or_assoc]

theorem rateLimit_ok {state state' : GuardState} {instant : Nat}
    (passed : state.rateLimit instant = .ok state') :
    ∃ failures last, state' = { state with authFailures := failures, lastFailureTime := last } := by
  unfold GuardState.rateLimit at passed
  split at passed
  · split at passed
    · dsimp only at passed
      split at passed
      · cases passed
      · exact ⟨0, none, (Except.ok.inj passed).symm⟩
    · exact ⟨_, _, (Except.ok.inj passed).symm⟩
  · exact ⟨_, _, (Except.ok.inj passed).symm⟩

theorem reject_session (state : GuardState) (rejection : Rejection) (failedAt : Nat) :
    ∃ failures last,
    state.reject rejection failedAt =
      { state with authFailures := failures, lastFailureTime := last } := by
  unfold GuardState.reject
  split
  · exact ⟨_, _, rfl⟩
  · exact ⟨_, _, rfl⟩

section Attempt
variable [Ed25519] [MlDsa65] [Chrono]

/-- What the guard has checked of a card that it accepts. -/
structure Admitted (requirePq : Bool) (scopes : List String) (card : AgentCard) (moment : Moment) :
    Prop where
  signed : SignedOver card (guardPayload card) (requirePq = true ∨ card.cryptoScheme = .hybrid)
  unexpired : moment.now < card.expiresAt
  unrevoked : moment.registry.lists card.id = false
  covered : ∀ required ∈ scopes, ∃ s ∈ card.scopes, s = required ∨ s = "*" ∨ s = "admin"

omit [MlDsa65] in
theorem checkEd25519_iff (card : AgentCard) : checkEd25519 card = .ok () ↔
    verify card.publicKey (guardPayload card).toUTF8 card.signature = .ok true := by
  unfold checkEd25519
  cases verify card.publicKey (guardPayload card).toUTF8 card.signature with
  | error e => simp
  | ok valid => cases valid <;> simp

omit [Ed25519] in
theorem checkMldsa_iff (requirePq : Bool) (card : AgentCard) : checkMldsa requirePq card = .ok () ↔
    ((requirePq = true ∨ card.cryptoScheme = .hybrid) →
      ∃ pqPub pqSig, card.pqPublicKey = some pqPub ∧
      card.pqSignature = some pqSig ∧
      mldsaVerify pqPub (guardPayload card).toUTF8 pqSig = .ok true) := by
  unfold checkMldsa
  by_cases asked : requirePq = true ∨ card.cryptoScheme = .hybrid
  · rw [if_pos asked]
    simp only [asked, true_imp_iff]
    cases card.pqPublicKey with
    | none => simp
    | some pqPub =>
      cases card.pqSignature with
      | none => simp
      | some pqSig =>
        simp only [Option.some.injEq, exists_and_left, exists_eq_left']
        cases mldsaVerify pqPub (guardPayload card).toUTF8 pqSig with
        | error e => simp
        | ok valid => cases valid <;> simp
  · simp [asked]

variable [Unicode]

theorem checkCard_iff (state : GuardState) (card : AgentCard) (moment : Moment) :
    checkCard state card moment = .ok () ↔
      Admitted state.requirePq state.allowedScopes card moment := by
  constructor
  · intro checked
    obtain ⟨_, ed, checked⟩ := bind_ok checked
    obtain ⟨_, mldsa, checked⟩ := bind_ok checked
    split at checked
    · cases checked
    · rename_i unexpired
      split at checked
      · cases checked
      · rename_i unrevoked
        split at checked
        · cases checked
        · rename_i covered
          refine ⟨⟨(checkEd25519_iff card).mp ed, (checkMldsa_iff _ card).mp mldsa⟩, Int.not_le.mp unexpired,
            by simpa using unrevoked, fun required member => ?_⟩
          rw [Bool.not_eq_true', Bool.not_eq_false] at covered
          exact (hasScope_iff card required).mp (List.all_eq_true.mp covered required member)
  · rintro ⟨⟨ed, mldsa⟩, unexpired, unrevoked, covered⟩
    have all : state.allowedScopes.all (hasScope card) = true :=
      List.all_eq_true.mpr fun required member => (hasScope_iff card required).mpr (covered required member)
    simp only [checkCard, (checkEd25519_iff card).mpr ed, (checkMldsa_iff _ card).mpr mldsa,
      Int.not_le.mpr unexpired, unrevoked, all, bind, Except.bind, if_false, Bool.false_eq_true,
      Bool.not_true]

variable [FromStr AgentCard]

theorem attempt_iff (state : GuardState) (request : JsonRpcRequest) (moment : Moment)
    (card : AgentCard) :
    attempt state request moment = .ok card ↔ presentedCard request = .ok card ∧
      Admitted state.requirePq state.allowedScopes card moment := by
  constructor
  · intro attempted
    obtain ⟨found, presented, attempted⟩ := bind_ok attempted
    obtain ⟨_, checked, attempted⟩ := bind_ok attempted
    obtain rfl := Except.ok.inj attempted
    exact ⟨presented, (checkCard_iff state found moment).mp checked⟩
  · rintro ⟨presented, admitted⟩
    simp only [attempt, presented, (checkCard_iff state card moment).mpr admitted, bind,
      Except.bind]

/-- An attempt either fails and leaves the session as it is, or admits the presented card. -/
theorem handleAuthenticate_cases (state : GuardState) (request : JsonRpcRequest) (moment : Moment) :
    ((handleAuthenticate state request moment).2.error ≠ none ∧
      ∃ failures last, (handleAuthenticate state request moment).1 =
        { state with authFailures := failures, lastFailureTime := last }) ∨
    (∃ card, presentedCard request = .ok card ∧
      Admitted state.requirePq state.allowedScopes card moment ∧
      handleAuthenticate state request moment =
        (state.accept card, authenticatedResponse request card)) := by
  unfold handleAuthenticate
  cases limited : state.rateLimit moment.instant with
  | error wait => exact .inl ⟨by simp [errorResponse], _, _, rfl⟩
  | ok fresh =>
    obtain ⟨failures, last, same⟩ := rateLimit_ok limited
    dsimp only
    cases attempted : attempt fresh request moment with
    | error rejection =>
      obtain ⟨failures', last', rejected⟩ := reject_session fresh rejection moment.failedAt
      rw [same] at rejected
      exact .inl ⟨by simp [errorResponse], failures', last', by rw [same]; exact rejected⟩
    | ok card =>
      obtain ⟨presented, admitted⟩ := (attempt_iff fresh request moment card).mp attempted
      rw [same] at admitted
      exact .inr ⟨card, presented, admitted, by rw [same]; rfl⟩

/-- A presented card that is to be admitted is accepted while the rate limit is not reached. -/
theorem handleAuthenticate_accepts {state : GuardState} {request : JsonRpcRequest} {moment : Moment}
    {card : AgentCard} (fresh : state.authFailures < 10)
    (presented : presentedCard request = .ok card)
    (admitted : Admitted state.requirePq state.allowedScopes card moment) :
    handleAuthenticate state request moment =
      (state.accept card, authenticatedResponse request card) := by
  have attempted := (attempt_iff state request moment card).mpr ⟨presented, admitted⟩
  have passed : state.rateLimit moment.instant = .ok state := if_neg (Nat.not_le.mpr fresh)
  simp only [handleAuthenticate, passed, attempted]

end Attempt

/-! ### One line -/

structure Keeps (state state' : GuardState) : Prop where
  authenticated : state'.authenticated = state.authenticated
  agentCard : state'.agentCard = state.agentCard
  allowedScopes : state'.allowedScopes = state.allowedScopes
  requirePq : state'.requirePq = state.requirePq

structure Adopts (state state' : GuardState) (card : AgentCard) : Prop where
  authenticated : state'.authenticated = true
  agentCard : state'.agentCard = some card
  allowedScopes : state'.allowedScopes = state.allowedScopes
  requirePq : state'.requirePq = state.requirePq

section Line
variable [Ed25519] [MlDsa65] [Chrono] [Unicode] [FromStr AgentCard] [FromStr JsonRpcRequest]

/-- The line is a call of the authentication tool that presents the card. -/
def Presents (input : Input) (card : AgentCard) : Prop :=
  ∃ request, FromStr.fromStr input.line = .ok request ∧ request.toolName = some "clawid_authenticate" ∧
    presentedCard request = .ok card

omit [Ed25519] [MlDsa65] [Chrono] [Unicode] [FromStr AgentCard] [FromStr JsonRpcRequest] in
theorem handleOther_keeps (config : Config) (state : GuardState) (request : JsonRpcRequest)
    (line : String) :
    Keeps state (handleOther config state request line).1 := by
  unfold handleOther
  split
  · exact ⟨rfl, rfl, rfl, rfl⟩
  · split
    · exact ⟨rfl, rfl, rfl, rfl⟩
    · split
      · split
        · exact ⟨rfl, rfl, rfl, rfl⟩
        · exact ⟨rfl, rfl, rfl, rfl⟩
      · exact ⟨rfl, rfl, rfl, rfl⟩

/-- The line is a call of the authentication tool that is answered without an error. -/
def Succeeds (state : GuardState) (input : Input) : Prop :=
  trim input.line.toList ≠ [] ∧ ∃ request, FromStr.fromStr input.line = .ok request ∧
    request.toolName = some "clawid_authenticate" ∧
    (handleAuthenticate { state with requestCount := state.requestCount + 1 } request
      input.moment).2.error = none

theorem handleLine_cases (config : Config) (state : GuardState) (input : Input) :
    (¬ Succeeds state input ∧ Keeps state (handleLine config state input).1) ∨
      (Succeeds state input ∧ ∃ card, Presents input card ∧
        Admitted state.requirePq state.allowedScopes card input.moment ∧
        Adopts state (handleLine config state input).1 card) := by
  unfold handleLine
  split
  · rename_i blank
    exact .inl ⟨fun succeeded => succeeded.1 blank, rfl, rfl, rfl, rfl⟩
  · rename_i solid
    split
    · rename_i broken
      refine .inl ⟨?_, rfl, rfl, rfl, rfl⟩
      rintro ⟨_, request, parsed, _⟩
      rw [broken] at parsed
      cases parsed
    · rename_i request parsed
      have same : ∀ other : JsonRpcRequest, FromStr.fromStr input.line = .ok other →
          other = request :=
        fun other read => Except.ok.inj (read.symm.trans parsed)
      unfold handleRequest
      dsimp only
      split
      · rename_i tool
        rcases handleAuthenticate_cases { state with requestCount := state.requestCount + 1 } request
          input.moment with
          ⟨failed, _, _, kept⟩ | ⟨card, presented, admitted, accepted⟩
        · rw [kept]
          refine .inl ⟨?_, rfl, rfl, rfl, rfl⟩
          rintro ⟨_, other, read, _, answered⟩
          rw [same other read] at answered
          exact failed answered
        · refine .inr ⟨⟨solid, request, parsed, tool, by rw [accepted]; rfl⟩, card,
            ⟨request, parsed, tool, presented⟩,
            admitted, ?_⟩
          rw [accepted]
          exact ⟨rfl, rfl, rfl, rfl⟩
      · rename_i tool
        have failed : ¬ Succeeds state input := by
          rintro ⟨_, other, read, named, _⟩
          rw [same other read] at named
          exact tool named
        split
        · exact .inl ⟨failed, rfl, rfl, rfl, rfl⟩
        · have kept :=
            handleOther_keeps config { state with requestCount := state.requestCount + 1 } request input.line
          exact .inl ⟨failed, kept.authenticated, kept.agentCard, kept.allowedScopes, kept.requirePq⟩

/-! ### Runs -/

theorem run_config (config : Config) (inputs : List Input) :
    (run config inputs).allowedScopes = config.scopes ∧
    (run config inputs).requirePq = config.requirePq := by
  induction inputs using List.reverseRecOn with
  | nil => exact ⟨rfl, rfl⟩
  | append_singleton inputs input ih =>
    rw [run_snoc]
    rcases handleLine_cases config (run config inputs) input with
      ⟨_, kept⟩ | ⟨_, card, _, _, adopted⟩
    · exact ⟨kept.allowedScopes.trans ih.1, kept.requirePq.trans ih.2⟩
    · exact ⟨adopted.allowedScopes.trans ih.1, adopted.requirePq.trans ih.2⟩

def Waiting (config : Config) (inputs : List Input) : Prop :=
  ∀ before input after, inputs = before ++ input :: after → ¬ Succeeds (run config before) input

/-- The session counts as authenticated from the first success on. -/
theorem run_waiting_iff (config : Config) (inputs : List Input) :
    Waiting config inputs ↔ (run config inputs).authenticated = false := by
  induction inputs using List.reverseRecOn with
  | nil => exact ⟨fun _ => rfl, fun _ before input after empty => by simp at empty⟩
  | append_singleton inputs input ih =>
    have split : Waiting config (inputs ++ [input]) ↔ Waiting config inputs ∧
        ¬ Succeeds (run config inputs) input := by
      constructor
      · intro waiting
        exact ⟨fun before earlier after same => waiting before earlier (after ++ [input]) (by simp [same]),
          waiting inputs input [] rfl⟩
      · rintro ⟨waiting, failed⟩ before earlier after same
        rcases List.eq_nil_or_concat after with rfl | ⟨rest, last, rfl⟩
        · obtain ⟨rfl, last⟩ := List.append_inj' same rfl
          obtain rfl := List.singleton_inj.mp last
          exact failed
        · rw [List.concat_eq_append, ← List.cons_append, ← List.append_assoc] at same
          exact waiting before earlier rest (List.append_inj' same rfl).1
    rw [split, ih, run_snoc]
    rcases handleLine_cases config (run config inputs) input with
      ⟨failed, kept⟩ | ⟨succeeded, card, _, _, adopted⟩
    · rw [kept.authenticated]
      exact ⟨And.left, fun unauthenticated => ⟨unauthenticated, failed⟩⟩
    · rw [adopted.authenticated]
      exact ⟨fun waiting => absurd succeeded waiting.2, fun contra => absurd contra (by decide)⟩

theorem run_session (config : Config) (inputs : List Input) :
    (run config inputs).authenticated = true ↔
      ∃ card, (run config inputs).agentCard = some card := by
  induction inputs using List.reverseRecOn with
  | nil => simp [GuardState.new]
  | append_singleton inputs input ih =>
    rw [run_snoc]
    rcases handleLine_cases config (run config inputs) input with
      ⟨_, kept⟩ | ⟨_, card, _, _, adopted⟩
    · rw [kept.authenticated, kept.agentCard]
      exact ih
    · exact ⟨fun _ => ⟨card, adopted.agentCard⟩, fun _ => adopted.authenticated⟩

/-- The card of a session was presented on some line and admitted at that moment. -/
theorem run_held (config : Config) (inputs : List Input) {card : AgentCard}
    (held : (run config inputs).agentCard = some card) :
    ∃ before input after, inputs = before ++ input :: after ∧ Presents input card ∧
      Admitted config.requirePq config.scopes card input.moment := by
  induction inputs using List.reverseRecOn with
  | nil => cases held
  | append_singleton inputs input ih =>
    rw [run_snoc] at held
    obtain ⟨scopes, requirePq⟩ := run_config config inputs
    rcases handleLine_cases config (run config inputs) input with
      ⟨_, kept⟩ | ⟨_, found, presented, admitted, adopted⟩
    · obtain ⟨before, earlier, after, rfl, presented, admitted⟩ :=
        ih (kept.agentCard.symm.trans held)
      exact ⟨before, earlier, after ++ [input], by simp, presented, admitted⟩
    · obtain rfl := Option.some.inj (adopted.agentCard.symm.trans held)
      rw [scopes, requirePq] at admitted
      exact ⟨inputs, input, [], rfl, presented, admitted⟩

/-- An authenticated session holds a card that some line presented and that was admitted at that
moment; an attempt that is answered with an error leaves the session as it is. -/
theorem run_authenticated (config : Config) (inputs : List Input) :
    ((run config inputs).authenticated = true →
      ∃ before input after card, inputs = before ++ input :: after ∧
      Presents input card ∧ (run config inputs).agentCard = some card ∧
      Admitted config.requirePq config.scopes card input.moment) ∧
    ∀ state request moment, (handleAuthenticate state request moment).2.error ≠ none →
      (handleAuthenticate state request moment).1.authenticated = state.authenticated ∧
      (handleAuthenticate state request moment).1.agentCard = state.agentCard := by
  constructor
  · intro authenticated
    obtain ⟨card, held⟩ := (run_session config inputs).mp authenticated
    obtain ⟨before, input, after, same, presented, admitted⟩ := run_held config inputs held
    exact ⟨before, input, after, card, same, presented, held, admitted⟩
  · intro state request moment failed
    rcases handleAuthenticate_cases state request moment with
      ⟨_, _, _, kept⟩ | ⟨card, _, _, accepted⟩
    · rw [kept]
      exact ⟨rfl, rfl⟩
    · rw [accepted] at failed
      exact absurd rfl failed

end Line

section
open scoped Core.StandIn

namespace StandIn

def line (request : JsonRpcRequest) : String :=
  Json.render (.obj [("jsonrpc", .str request.jsonrpc), ("id", request.id), ("method", .str request.method),
    ("params", request.params)])

def blankVisitor : AgentCard where
  id := Uuid.nil
  name := "visitor"
  owner := "ops"
  scopes := ["read"]
  publicKey := encodePublicKey (Ed25519.verifyingKey Core.StandIn.seed)
  pqPublicKey := none
  signature := ""
  pqSignature := none
  cryptoScheme := .ed25519
  issuedAt := 0
  expiresAt := 10
  agentType := .instance
  parentId := none
  spiffeId := none

def visitor : AgentCard :=
  { blankVisitor with signature := sign Core.StandIn.seed (guardPayload blankVisitor).toUTF8 }

def authenticate : JsonRpcRequest where
  jsonrpc := "2.0"
  id := .num "1"
  method := "tools/call"
  params := .obj [("arguments", .obj [("agent_card", .str visitor.toStringPretty)]),
    ("name", .str "clawid_authenticate")]

def config : Config := ⟨"read", false, false⟩

def moment : Moment := ⟨0, 0, 1, .readable []⟩

theorem visitor_admitted : Admitted false config.scopes visitor moment where
  signed := ⟨verify_sign Core.StandIn.ed25519_correct Core.StandIn.seed (guardPayload blankVisitor).toUTF8,
    fun asked => by rcases asked with required | hybrid; cases required; cases hybrid⟩
  unexpired := by decide
  unrevoked := rfl
  covered := by decide

def visit : Input := ⟨line authenticate, moment⟩

theorem visit_solid : trim visit.line.toList ≠ [] :=
  trimMatches_ne_nil (c := '\x7b') (by simp [visit, line, Json.render]) (by decide)

theorem visit_presented [FromStr AgentCard]
    (read : FromStr.fromStr visitor.toStringPretty = .ok visitor) :
    presentedCard authenticate = .ok visitor := by
  have text : authenticate.agentCard = some visitor.toStringPretty := rfl
  simp only [presentedCard, text, read]

theorem visit_authenticated [FromStr AgentCard] [FromStr JsonRpcRequest]
    (read : FromStr.fromStr visitor.toStringPretty = .ok visitor)
    (parsed : FromStr.fromStr visit.line = .ok authenticate) :
    (run config [visit]).authenticated = true := by
  have presented := visit_presented read
  have accepted : handleAuthenticate { run config [] with requestCount := (run config []).requestCount + 1 }
      authenticate moment = (_, authenticatedResponse authenticate visitor) :=
    handleAuthenticate_accepts (show 0 < 10 by decide) presented visitor_admitted
  have succeeded : Succeeds (run config []) visit :=
    ⟨visit_solid, authenticate, parsed, rfl, by rw [visit, accepted]; rfl⟩
  rw [← List.nil_append [visit], run_snoc]
  rcases handleLine_cases config (run config []) visit with ⟨failed, _⟩ | ⟨_, _, _, _, adopted⟩
  · exact absurd succeeded failed
  · exact adopted.authenticated

end StandIn

theorem run_authenticated_visitor :
    letI := Core.StandIn.parser [(StandIn.visitor.toStringPretty, StandIn.visitor)]
    letI := Core.StandIn.parser [(StandIn.visit.line, StandIn.authenticate)]
    ∃ before input after card, [StandIn.visit] = before ++ input :: after ∧ Presents input card ∧
      (run StandIn.config [StandIn.visit]).agentCard = some card ∧
      Admitted false StandIn.config.scopes card input.moment :=
  letI := Core.StandIn.parser [(StandIn.visitor.toStringPretty, StandIn.visitor)]
  letI := Core.StandIn.parser [(StandIn.visit.line, StandIn.authenticate)]
  (run_authenticated StandIn.config [StandIn.visit]).1
    (StandIn.visit_authenticated (Core.StandIn.parser_head _ _ _) (Core.StandIn.parser_head _ _ _))

end

section Line
variable [Ed25519] [MlDsa65] [Chrono] [Unicode] [FromStr AgentCard] [FromStr JsonRpcRequest]

/-! ### Before the first success -/

/-- The line is one request of the initialization methods. -/
def InitRequest (line : String) : Prop :=
  ∃ request : JsonRpcRequest, FromStr.fromStr line = .ok request ∧ request.method ∈ initMethods

omit [Ed25519] [MlDsa65] [Chrono] [Unicode] [FromStr AgentCard] [FromStr JsonRpcRequest] in
/-- A request that is not about initialization does not pass while nobody is authenticated. -/
theorem handleOther_forward {config : Config} (closed : config.allowUnauthenticatedInit = false)
    {state : GuardState} (waiting : state.authenticated = false) {request : JsonRpcRequest}
    {text line : String} (forwarded : .forward line ∈ (handleOther config state request text).2) :
    line = text ∧ request.method ∈ initMethods := by
  unfold handleOther at forwarded
  split at forwarded
  · rename_i passes
    rcases passes with init | ⟨allowed, _⟩
    · exact ⟨by simpa using forwarded, init⟩
    · rw [closed] at allowed
      cases allowed
  · rw [if_pos (by simp [waiting])] at forwarded
    simp at forwarded

/-- What is written to the server while nobody is authenticated: lines that do not parse, and
initialization. -/
theorem handleLine_forward {config : Config} (closed : config.allowUnauthenticatedInit = false)
    {state : GuardState} (waiting : state.authenticated = false) {input : Input} {line : String}
    (forwarded : .forward line ∈ (handleLine config state input).2) : line = input.line ∧
      ∀ request : JsonRpcRequest, FromStr.fromStr input.line = .ok request →
        request.method ∈ initMethods := by
  unfold handleLine at forwarded
  split at forwarded
  · cases forwarded
  · split at forwarded
    · rename_i broken
      refine ⟨by simpa using forwarded, fun request parsed => ?_⟩
      rw [broken] at parsed
      cases parsed
    · rename_i request parsed
      unfold handleRequest at forwarded
      dsimp only at forwarded
      split at forwarded
      · simp at forwarded
      · split at forwarded
        · simp at forwarded
        · obtain ⟨same, init⟩ := handleOther_forward closed (by exact waiting) forwarded
          exact ⟨same, fun other read => (Except.ok.inj (read.symm.trans parsed)) ▸ init⟩

theorem handleLine_broken (config : Config) (state : GuardState) {input : Input} {e : String}
    (solid : trim input.line.toList ≠ [])
    (broken : (FromStr.fromStr input.line : Except String JsonRpcRequest) = .error e) :
    handleLine config state input = (state, [.forward input.line]) := by
  rw [handleLine, if_neg solid, broken]

theorem handleLine_init (config : Config) (state : GuardState) {input : Input}
    {request : JsonRpcRequest} (solid : trim input.line.toList ≠ [])
    (parsed : FromStr.fromStr input.line = .ok request) (init : request.method ∈ initMethods) :
    .forward input.line ∈ (handleLine config state input).2 := by
  have noTool : request.toolName = none := by
    apply if_neg
    intro call
    rw [call] at init
    exact absurd init (by decide)
  simp only [handleLine, if_neg solid, parsed, handleRequest, noTool, handleOther, init, true_or,
    if_true, reduceCtorEq, if_false, List.mem_singleton]

/-- Before the first success only initialization requests reach the server, exactly when every line
up to then is blank or one request. -/
theorem forwards_init_iff {config : Config} (closed : config.allowUnauthenticatedInit = false)
    (inputs : List Input) :
    (∀ before input after, inputs = before ++ input :: after → Waiting config before →
      ∀ line, .forward line ∈ (handleLine config (run config before) input).2 → InitRequest line) ↔
    ∀ before input after, inputs = before ++ input :: after → Waiting config before →
      trim input.line.toList = [] ∨
      ∃ request : JsonRpcRequest, FromStr.fromStr input.line = .ok request := by
  constructor
  · intro safe before input after same waiting
    by_cases blank : trim input.line.toList = []
    · exact .inl blank
    · cases read : (FromStr.fromStr input.line : Except String JsonRpcRequest) with
      | ok request => exact .inr ⟨request, rfl⟩
      | error e =>
        have passed : .forward input.line ∈ (handleLine config (run config before) input).2 := by
          rw [handleLine_broken config _ blank read]
          exact List.mem_singleton_self _
        obtain ⟨request, parsed, _⟩ := safe before input after same waiting input.line passed
        rw [read] at parsed
        cases parsed
  · intro readable before input after same waiting line forwarded
    have unauthenticated := (run_waiting_iff config before).mp waiting
    obtain ⟨rfl, init⟩ := handleLine_forward closed unauthenticated forwarded
    rcases readable before input after same waiting with blank | ⟨request, parsed⟩
    · simp [handleLine, blank] at forwarded
    · exact ⟨request, parsed, init request parsed⟩

end Line

section
open scoped Core.StandIn

namespace StandIn

def ping : JsonRpcRequest where
  jsonrpc := "2.0"
  id := .num "1"
  method := "ping"
  params := .null

def batch : String :=
  "[\x7b\"jsonrpc\":\"2.0\",\"id\":1,\"method\":\"tools/call\",\"params\":\x7b\"name\":\"delete_all\"\x7d\x7d]"

theorem config_closed : config.allowUnauthenticatedInit = false := rfl

theorem waiting_nil [FromStr AgentCard] [FromStr JsonRpcRequest] : Waiting config [] :=
  fun before input after empty => by simp at empty

end StandIn

theorem forwards_init_iff_ping :
    letI := Core.StandIn.parser ([] : List (String × AgentCard))
    letI := Core.StandIn.parser [(StandIn.line StandIn.ping, StandIn.ping)]
    .forward (StandIn.line StandIn.ping) ∈
        (handleLine StandIn.config (run StandIn.config []) ⟨StandIn.line StandIn.ping, StandIn.moment⟩).2 ∧
      InitRequest (StandIn.line StandIn.ping) := by
  let _ := Core.StandIn.parser ([] : List (String × AgentCard))
  let _ := Core.StandIn.parser [(StandIn.line StandIn.ping, StandIn.ping)]
  let input : Input := ⟨StandIn.line StandIn.ping, StandIn.moment⟩
  have parsed : FromStr.fromStr input.line = .ok StandIn.ping := Core.StandIn.parser_head _ _ _
  have solid : trim input.line.toList ≠ [] :=
    trimMatches_ne_nil (c := '\x7b') (by simp [input, StandIn.line, Json.render]) (by decide)
  have forwarded := handleLine_init StandIn.config (run StandIn.config []) solid parsed (by decide)
  refine ⟨forwarded, (forwards_init_iff StandIn.config_closed [input]).mpr ?_ [] input [] rfl
    StandIn.waiting_nil _ forwarded⟩
  intro before other after same _
  have member : other ∈ [input] := same ▸ by simp
  rw [List.mem_singleton.mp member]
  exact .inr ⟨StandIn.ping, parsed⟩

/-- A batch passes before anyone is authenticated. -/
theorem forwards_batch :
    letI := Core.StandIn.parser ([] : List (String × AgentCard))
    letI := Core.StandIn.parser [(StandIn.line StandIn.ping, StandIn.ping)]
    ¬ ∀ (config : Config) (inputs : List Input), config.allowUnauthenticatedInit = false →
      ∀ before input after, inputs = before ++ input :: after → Waiting config before →
        ∀ line, .forward line ∈ (handleLine config (run config before) input).2 →
          InitRequest line := by
  let _ := Core.StandIn.parser ([] : List (String × AgentCard))
  let _ := Core.StandIn.parser [(StandIn.line StandIn.ping, StandIn.ping)]
  intro safe
  let input : Input := ⟨StandIn.batch, StandIn.moment⟩
  have solid : trim input.line.toList ≠ [] := trimMatches_ne_nil (c := '[') (by decide) (by decide)
  have unread : (FromStr.fromStr input.line : Except String JsonRpcRequest) =
      .error "expected value" :=
    Core.StandIn.parser_other (by decide) StandIn.ping
  have forwarded : .forward StandIn.batch ∈ (handleLine StandIn.config (run StandIn.config []) input).2 := by
    rw [handleLine_broken StandIn.config _ solid unread]
    exact List.mem_singleton_self _
  obtain ⟨request, parsed, _⟩ :=
    safe StandIn.config [input] rfl [] input [] rfl StandIn.waiting_nil StandIn.batch forwarded
  rw [unread] at parsed
  cases parsed

end

end GrokingClawId.Cli.Guard
