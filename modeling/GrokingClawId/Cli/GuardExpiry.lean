import GrokingClawId.Cli.GuardSession

/-!
# The end of a session

Authentication announces a session that is active until the card expires. The loop reads no clock
when it writes a request to the server, and an authenticated session has no end.
-/

namespace GrokingClawId.Cli.Guard
open GrokingClawId.Core Text

section Expiry
variable [Ed25519] [MlDsa65] [Chrono] [Unicode] [FromStr AgentCard] [FromStr JsonRpcRequest]

/-- The line is one request for the server: none of the initialization methods, and neither tool of
the guard. -/
structure Serves (input : Input) (request : JsonRpcRequest) : Prop where
  solid : trim input.line.toList ≠ []
  parsed : FromStr.fromStr input.line = .ok request
  later : request.method ∉ initMethods
  notAuthenticate : request.toolName ≠ some "clawid_authenticate"
  notStatus : request.toolName ≠ some "clawid_guard_status"

omit [Ed25519] [MlDsa65] [Chrono] [Unicode] [FromStr AgentCard] [FromStr JsonRpcRequest] in
theorem handleOther_authenticated (config : Config) (state : GuardState)
    (authenticated : state.authenticated = true) (request : JsonRpcRequest) (line : String) :
    (handleOther config state request line).2 = [.forward line] := by
  unfold handleOther
  split
  · rfl
  · rw [if_neg (by simp [authenticated])]
    split
    · rename_i name called
      rw [if_neg (by simp [checkScope, authenticated])]
    · rfl

/-- A request for the server is written to it exactly in an authenticated session. -/
theorem handleLine_serves_iff {config : Config} (closed : config.allowUnauthenticatedInit = false)
    (state : GuardState) {input : Input} {request : JsonRpcRequest}
    (parsed : FromStr.fromStr input.line = .ok request) (later : request.method ∉ initMethods) :
    (∃ line, .forward line ∈ (handleLine config state input).2) ↔
      Serves input request ∧ state.authenticated = true := by
  constructor
  · rintro ⟨line, forwarded⟩
    cases authenticated : state.authenticated with
    | false => exact absurd ((handleLine_forward closed authenticated forwarded).2 request parsed) later
    | true =>
      by_cases blank : trim input.line.toList = []
      · simp [handleLine, blank] at forwarded
      · simp only [handleLine, if_neg blank, parsed, handleRequest] at forwarded
        by_cases own : request.toolName = some "clawid_authenticate"
        · simp [own] at forwarded
        · by_cases status : request.toolName = some "clawid_guard_status"
          · simp [status] at forwarded
          · exact ⟨⟨blank, parsed, later, own, status⟩, rfl⟩
  · rintro ⟨serves, authenticated⟩
    have passed := handleOther_authenticated config
      { state with requestCount := state.requestCount + 1 } authenticated request input.line
    refine ⟨input.line, ?_⟩
    simp only [handleLine, if_neg serves.solid, parsed, handleRequest,
      if_neg serves.notAuthenticate, if_neg serves.notStatus, passed, List.mem_singleton]

/-- Every request written to the server in a run is written before the card of the session
expires. -/
def InTime (config : Config) (inputs : List Input) : Prop :=
  ∀ before input after, inputs = before ++ input :: after → ∀ request : JsonRpcRequest,
    FromStr.fromStr input.line = .ok request → request.method ∉ initMethods →
    (∃ line, .forward line ∈ (handleLine config (run config before) input).2) →
      ∃ card, (run config before).agentCard = some card ∧ input.moment.now < card.expiresAt

/-- A run is in time exactly when no request for the server arrives at an expired session. -/
theorem inTime_iff {config : Config} (closed : config.allowUnauthenticatedInit = false)
    (inputs : List Input) :
    InTime config inputs ↔
      ∀ before input after, inputs = before ++ input :: after →
        ∀ request card, Serves input request →
        (run config before).agentCard = some card → input.moment.now < card.expiresAt := by
  constructor
  · intro inTime before input after same request card serves held
    have authenticated := (run_session config before).mpr ⟨card, held⟩
    have forwarded := (handleLine_serves_iff closed (run config before) serves.parsed serves.later).mpr
      ⟨serves, authenticated⟩
    obtain ⟨found, again, early⟩ :=
      inTime before input after same request serves.parsed serves.later forwarded
    obtain rfl := Option.some.inj (again.symm.trans held)
    exact early
  · intro early before input after same request parsed later forwarded
    obtain ⟨serves, authenticated⟩ :=
      (handleLine_serves_iff closed (run config before) parsed later).mp forwarded
    obtain ⟨card, held⟩ := (run_session config before).mp authenticated
    exact ⟨card, held, early before input after same request card serves held⟩

end Expiry

section
open scoped Core.StandIn

namespace StandIn

def listResources : JsonRpcRequest where
  jsonrpc := "2.0"
  id := .num "2"
  method := "resources/list"
  params := .null

def listing : String := "\x7b\"id\":2,\"jsonrpc\":\"2.0\",\"method\":\"resources/list\",\"params\":null\x7d"

def listedAt (now : DateTime) : Input := ⟨listing, ⟨0, 0, now, .readable []⟩⟩

theorem listing_ne_visit : listing ≠ visit.line := by
  obtain ⟨rest, text⟩ := render_first "jsonrpc" (.str authenticate.jsonrpc)
    [("id", authenticate.id), ("method", .str authenticate.method), ("params", authenticate.params)]
  intro same
  have chars : listing.toList = ("\x7b" ++ (Json.quote "jsonrpc" ++ rest)).toList := by
    rw [same, ← text]
    rfl
  have start : "\x7b" ++ Json.quote "jsonrpc" = "\x7b\"jsonrpc\"" := by decide
  rw [← String.append_assoc, start, String.toList_append] at chars
  have third := congrArg (fun s : List Char => s[2]?) chars
  revert third
  simp [listing]

scoped instance VisitFiles.cards : FromStr AgentCard :=
  Core.StandIn.parser [(visitor.toStringPretty, visitor)]

scoped instance VisitFiles.requests : FromStr JsonRpcRequest :=
  Core.StandIn.parser [(visit.line, authenticate), (listing, listResources)]

open scoped VisitFiles

theorem visitor_read : FromStr.fromStr visitor.toStringPretty = .ok visitor :=
  Core.StandIn.parser_head _ _ _

theorem visit_read : FromStr.fromStr visit.line = .ok authenticate := Core.StandIn.parser_head _ _ _

theorem visit_held : (run config [visit]).agentCard = some visitor := by
  have authenticated := visit_authenticated visitor_read visit_read
  obtain ⟨card, held⟩ := (run_session config [visit]).mp authenticated
  obtain ⟨before, input, after, same, ⟨request, parsed, _, presented⟩, _⟩ :=
    run_held config [visit] held
  have member : input ∈ [visit] := same ▸ by simp
  rw [List.mem_singleton.mp member] at parsed
  obtain rfl : authenticate = request := Except.ok.inj (visit_read.symm.trans parsed)
  rw [held, Except.ok.inj (presented.symm.trans (visit_presented visitor_read))]

theorem listed_read (now : DateTime) : FromStr.fromStr (listedAt now).line = .ok listResources :=
  (Core.StandIn.parser_tail listing_ne_visit _ _).trans (Core.StandIn.parser_head _ _ _)

theorem listed_forwarded (now : DateTime) :
    ∃ line, .forward line ∈ (handleLine config (run config [visit]) (listedAt now)).2 := by
  have solid : trim (listedAt now).line.toList ≠ [] :=
    trimMatches_ne_nil (c := '\x7b') (by simp [listedAt, listing]) (by decide)
  apply (handleLine_serves_iff config_closed _ (listed_read now) (by decide)).mpr
  exact ⟨⟨solid, listed_read now, by decide, by decide, by decide⟩,
    (run_session config [visit]).mpr ⟨visitor, visit_held⟩⟩

end StandIn

open scoped StandIn.VisitFiles

theorem inTime_iff_listed :
    (∃ line, .forward line ∈
      (handleLine StandIn.config (run StandIn.config [StandIn.visit]) (StandIn.listedAt 5)).2) ∧
      InTime StandIn.config [StandIn.visit, StandIn.listedAt 5] := by
  refine ⟨StandIn.listed_forwarded 5, (inTime_iff StandIn.config_closed _).mpr ?_⟩
  intro before input after same request card serves held
  obtain _ | ⟨first, before⟩ := before
  · cases held
  · simp only [List.cons_append, List.cons.injEq] at same
    obtain ⟨rfl, same⟩ := same
    obtain _ | ⟨second, before⟩ := before
    · simp only [List.nil_append, List.cons.injEq] at same
      obtain ⟨rfl, _⟩ := same
      obtain rfl := Option.some.inj (StandIn.visit_held.symm.trans held)
      decide
    · simp at same

/-- The visitor's session goes on after its card has expired. -/
theorem not_inTime_listed :
    ¬ ∀ (config : Config) (inputs : List Input), config.allowUnauthenticatedInit = false →
      (inputs.map fun input => input.moment.now).Pairwise (· ≤ ·) → InTime config inputs := by
  intro inTime
  have early := inTime StandIn.config [StandIn.visit, StandIn.listedAt 20] rfl (by decide)
  obtain ⟨card, held, before⟩ := early [StandIn.visit] (StandIn.listedAt 20) [] rfl StandIn.listResources
    (StandIn.listed_read 20) (by decide) (StandIn.listed_forwarded 20)
  obtain rfl := Option.some.inj (StandIn.visit_held.symm.trans held)
  exact absurd before (by decide)

end

end GrokingClawId.Cli.Guard
