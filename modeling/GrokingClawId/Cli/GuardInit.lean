import GrokingClawId.Cli.GuardSession

/-!
# Unauthenticated requests

With `--allow-init` the guard passes on what it does not answer itself until somebody has
authenticated, whatever the method.
-/

namespace GrokingClawId.Cli.Guard
open GrokingClawId.Core Text

/-- A call of a tool of the guard, which the guard answers. -/
def JsonRpcRequest.OwnTool (request : JsonRpcRequest) : Prop :=
  request.toolName = some "clawid_authenticate" ∨ request.toolName = some "clawid_guard_status"

section Open
variable [Ed25519] [MlDsa65] [Chrono] [Unicode] [FromStr AgentCard] [FromStr JsonRpcRequest]

theorem handleLine_own (config : Config) (state : GuardState) {input : Input}
    {request : JsonRpcRequest} (parsed : FromStr.fromStr input.line = .ok request)
    (own : request.OwnTool) (line : String) :
    .forward line ∉ (handleLine config state input).2 := by
  unfold handleLine
  split
  · exact List.not_mem_nil
  · rw [parsed]
    dsimp only [handleRequest]
    rcases own with authenticate | status
    · rw [if_pos authenticate]
      exact fun forwarded => by cases List.mem_singleton.mp forwarded
    · rw [if_neg (by rw [status]; decide), if_pos status]
      exact fun forwarded => by cases List.mem_singleton.mp forwarded

/-- A request for anything else passes while nobody is authenticated. -/
theorem handleLine_open {config : Config} (allowed : config.allowUnauthenticatedInit = true)
    {state : GuardState} (waiting : state.authenticated = false) {input : Input}
    {request : JsonRpcRequest} (solid : trim input.line.toList ≠ [])
    (parsed : FromStr.fromStr input.line = .ok request) (foreign : ¬ request.OwnTool) :
    handleLine config state input =
      ({ state with requestCount := state.requestCount + 1 }, [.forward input.line]) := by
  obtain ⟨noCard, noStatus⟩ := not_or.mp foreign
  rw [handleLine, if_neg solid, parsed]
  dsimp only [handleRequest]
  rw [if_neg noCard, if_neg noStatus]
  exact if_pos (.inr ⟨allowed, by rw [waiting]; rfl⟩)

/-- Before the first success only initialization requests reach the server, exactly when up to then
nothing else is sent but calls of the guard's own tools. -/
theorem forwards_open_iff {config : Config} (allowed : config.allowUnauthenticatedInit = true)
    (inputs : List Input) :
    (∀ before input after, inputs = before ++ input :: after →
      (run config before).authenticated = false →
      ∀ line, .forward line ∈ (handleLine config (run config before) input).2 → InitRequest line) ↔
    ∀ before input after, inputs = before ++ input :: after →
      (run config before).authenticated = false →
      trim input.line.toList = [] ∨
      ∃ request : JsonRpcRequest, FromStr.fromStr input.line = .ok request ∧
        (request.method ∈ initMethods ∨ request.OwnTool) := by
  constructor
  · intro safe before input after same waiting
    by_cases blank : trim input.line.toList = []
    · exact .inl blank
    · right
      have reaches := safe before input after same waiting input.line
      cases read : (FromStr.fromStr input.line : Except String JsonRpcRequest) with
      | error e =>
        rw [handleLine_broken config _ blank read] at reaches
        obtain ⟨request, parsed, _⟩ := reaches (List.mem_singleton_self _)
        cases read.symm.trans parsed
      | ok request =>
        refine ⟨request, rfl, or_iff_not_imp_right.mpr fun foreign => ?_⟩
        rw [handleLine_open allowed waiting blank read foreign] at reaches
        obtain ⟨other, parsed, init⟩ := reaches (List.mem_singleton_self _)
        obtain rfl := Except.ok.inj (read.symm.trans parsed)
        exact init
  · intro proper before input after same waiting line forwarded
    by_cases blank : trim input.line.toList = []
    · simp [handleLine, blank] at forwarded
    · obtain ⟨request, parsed, passes⟩ :=
        (proper before input after same waiting).resolve_left blank
      by_cases own : request.OwnTool
      · exact absurd forwarded (handleLine_own config _ parsed own line)
      · rw [handleLine_open allowed waiting blank parsed own] at forwarded
        obtain ⟨⟩ | ⟨_, ⟨⟩⟩ := forwarded
        exact ⟨request, parsed, passes.resolve_right own⟩

end Open

section
open scoped Core.StandIn

namespace StandIn

def deleteAll : JsonRpcRequest where
  jsonrpc := "2.0"
  id := .num "1"
  method := "tools/call"
  params := .obj [("name", .str "delete_all")]

def lenient : Config := ⟨"read", false, true⟩

def sent (request : JsonRpcRequest) : Input := ⟨line request, moment⟩

theorem sent_solid (request : JsonRpcRequest) : trim (sent request).line.toList ≠ [] :=
  trimMatches_ne_nil (c := '\x7b') (by simp [sent, line, Json.render]) (by decide)

theorem deleteAll_foreign : ¬ deleteAll.OwnTool := by
  rintro (own | own) <;> exact absurd own (by decide)

theorem ping_foreign : ¬ ping.OwnTool := by
  rintro (own | own) <;> exact absurd own (by decide)

theorem forwards_first [FromStr AgentCard] [FromStr JsonRpcRequest] {request : JsonRpcRequest}
    (parsed : FromStr.fromStr (sent request).line = .ok request) (foreign : ¬ request.OwnTool) :
    .forward (sent request).line ∈ (handleLine lenient (run lenient []) (sent request)).2 := by
  rw [handleLine_open rfl rfl (sent_solid _) parsed foreign]
  exact List.mem_singleton_self _

end StandIn

theorem forwards_open_iff_ping :
    letI := Core.StandIn.parser ([] : List (String × AgentCard))
    letI := Core.StandIn.parser [(StandIn.line StandIn.ping, StandIn.ping)]
    .forward (StandIn.sent StandIn.ping).line ∈
        (handleLine StandIn.lenient (run StandIn.lenient []) (StandIn.sent StandIn.ping)).2 ∧
      InitRequest (StandIn.sent StandIn.ping).line := by
  let _ := Core.StandIn.parser ([] : List (String × AgentCard))
  let _ := Core.StandIn.parser [(StandIn.line StandIn.ping, StandIn.ping)]
  let input := StandIn.sent StandIn.ping
  have parsed : FromStr.fromStr input.line = .ok StandIn.ping := Core.StandIn.parser_head _ _ _
  have passed := StandIn.forwards_first parsed StandIn.ping_foreign
  refine ⟨passed, (forwards_open_iff (rfl : StandIn.lenient.allowUnauthenticatedInit = true)
    [input]).mpr ?_ [] input [] rfl rfl _ passed⟩
  intro before other after same _
  have member : other ∈ [input] := same ▸ by simp
  rw [List.mem_singleton.mp member]
  exact .inr ⟨StandIn.ping, parsed, .inl (by decide)⟩

/-- A tool of the server is called before anyone is authenticated. -/
theorem forwards_deleteAll :
    letI := Core.StandIn.parser ([] : List (String × AgentCard))
    letI := Core.StandIn.parser [(StandIn.line StandIn.deleteAll, StandIn.deleteAll)]
    ¬ ∀ (config : Config) (inputs : List Input), config.allowUnauthenticatedInit = true →
      (∀ input ∈ inputs, ∃ request : JsonRpcRequest, FromStr.fromStr input.line = .ok request) →
      ∀ before input after, inputs = before ++ input :: after →
        (run config before).authenticated = false →
        ∀ line, .forward line ∈ (handleLine config (run config before) input).2 →
          InitRequest line := by
  let _ := Core.StandIn.parser ([] : List (String × AgentCard))
  let _ := Core.StandIn.parser [(StandIn.line StandIn.deleteAll, StandIn.deleteAll)]
  intro safe
  let input := StandIn.sent StandIn.deleteAll
  have parsed : FromStr.fromStr input.line = .ok StandIn.deleteAll := Core.StandIn.parser_head _ _ _
  have passed := StandIn.forwards_first parsed StandIn.deleteAll_foreign
  obtain ⟨request, read, init⟩ := safe StandIn.lenient [input] rfl
    (fun other member => ⟨StandIn.deleteAll, by rw [List.mem_singleton.mp member, parsed]⟩)
    [] input [] rfl rfl input.line passed
  obtain rfl := Except.ok.inj (parsed.symm.trans read)
  exact absurd init (by decide)

end

end GrokingClawId.Cli.Guard
