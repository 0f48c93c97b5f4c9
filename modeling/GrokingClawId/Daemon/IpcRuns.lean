import GrokingClawId.Daemon.Expiries
import GrokingClawId.Daemon.IpcAnswers

/-!
# Runs of the IPC server

Connections of clients that send requests in pieces and at any time, while the methods of the daemon
that their requests run take turns on its state. Each client gets its answers in the order of its
requests, each on a line of its own.
-/

namespace GrokingClawId.Daemon.Ipc
open GrokingClawId.Core Text Json LineFraming LineServer

/-- The identifiers that are read are JSON values. -/
def RequestsSound [FromStr JsonRpcRequest] : Prop :=
  ∀ text (request : JsonRpcRequest), FromStr.fromStr text = .ok request →
    ∀ v, request.id = some v → v.WellFormed

/-- What `from_str` is given for a line that is not skipped. -/
def requestText (line : List UInt8) : Option String :=
  match Utf8.decode line with
  | none => none
  | some line => if (trim line.toList).isEmpty then none else some (String.ofList (trim line.toList))

/-! ### What a client sends -/

def requestFields (method : String) (params : Json) : List (String × Json) :=
  [("id", .num "1"), ("jsonrpc", .str "2.0"), ("method", .str method), ("params", params)]

def requestValue (method : String) (params : Json) : Json := .obj (requestFields method params)

/-- What every client writes. -/
def message (method : String) (params : Json) : List UInt8 :=
  frame newlineByte (Utf8.encode (requestValue method params).render)

/-- The request is read as it was written. -/
def Parses [FromStr JsonRpcRequest] (method : String) (params : Json) : Prop :=
  (FromStr.fromStr (requestValue method params).render : Except String JsonRpcRequest) =
    .ok ⟨"2.0", some (.num "1"), method, params⟩

theorem decode_frame (text : String) :
    Utf8.decode (frame newlineByte (Utf8.encode text)) = some (text ++ "\n") := by
  have bytes : frame newlineByte (Utf8.encode text) = Utf8.encode (text ++ "\n") := by
    rw [Utf8.encode_append]
    rfl
  rw [bytes, Utf8.decode_encode]

theorem trim_obj_line (fields : List (String × Json)) :
    trim ((Json.obj fields).render ++ "\n").toList = (Json.obj fields).render.toList := by
  rw [String.toList_append]
  refine trim_render_obj fields fun c member => ?_
  rw [List.mem_singleton.mp (show c ∈ ['\n'] from member)]
  decide

variable {method : String} {params : Json}

theorem requestText_message :
    requestText (message method params) = some (requestValue method params).render := by
  rw [requestText, message, decode_frame]
  dsimp only
  rw [requestValue, trim_obj_line, List.isEmpty_eq_false_iff.mpr (render_obj_ne_nil _)]
  exact congrArg some String.ofList_toList

theorem message_line (plain : params.WellFormed) :
    Complete newlineByte (message method params) := by
  refine ⟨_, ?_, rfl⟩
  rw [Utf8.ascii_mem_encode (by decide)]
  refine WellFormed.one_line (wellFormed_obj (show ["id", "jsonrpc", "method", "params"].Nodup by decide) ?_)
  exact ⟨wellFormed_nat 1, .str _, .str _, plain⟩

/-! ### Answers -/

theorem failure_answers (message : String) :
    (JsonRpcResponse.failure none (-32700) message).Answers none :=
  respond_answers (show Reply.Sound (.error ⟨-32700, message⟩) from trivial)

section Runs
variable [Chrono] [FromValue (List String)] [FromValue ModelConfig] [FromValue ResourceConfig]
  [FromStr JsonRpcRequest] {D : Type} {handlers : Handlers (Task D)} {oauth : OAuthSection}

/-- A response is what the request on the line was answered: by its method over accesses among those
that were done, or because it could not be read, and then without an identifier. -/
def AnswersLine (handlers : Handlers (Task D)) (oauth : OAuthSection) (done : List (D × D))
    (line : List UInt8) (response : JsonRpcResponse) : Prop :=
  ∃ text, requestText line = some text ∧
    ((∃ (request : JsonRpcRequest) (along : List (D × D)), FromStr.fromStr text = .ok request ∧
        along.Sublist done ∧ (dispatch handlers oauth request).Returns along response ∧
        response.Answers request.id) ∨
      ∃ e, (FromStr.fromStr text : Except String JsonRpcRequest) = .error e ∧
        response = .failure none (-32700) s!"Parse error: {e}")

theorem asks_eq (line : List UInt8) :
    asks (handleConnection handlers oauth) line = (requestText line).map fun text =>
      match (FromStr.fromStr text : Except String JsonRpcRequest) with
      | .ok request => dispatch handlers oauth request
      | .error e => .done (.failure none (-32700) s!"Parse error: {e}") := by
  unfold asks requestText
  simp only [handleConnection, understand]
  cases Utf8.decode line with
  | none => rfl
  | some text =>
    dsimp only
    by_cases empty : (trim text.toList).isEmpty
    · rw [if_pos empty, if_pos empty]
      rfl
    · rw [if_neg empty, if_neg empty, Option.map_some]
      cases (FromStr.fromStr (String.ofList (trim text.toList)) : Except String JsonRpcRequest) <;> rfl

theorem answersLine_of_answers (sound : handlers.Sound) {done : List (D × D)} {line : List UInt8}
    {response : JsonRpcResponse}
    (answers : LineServer.Answers (handleConnection handlers oauth) done line response) :
    AnswersLine handlers oauth done line response := by
  obtain ⟨t, along, asked, among, returned⟩ := answers
  rw [asks_eq] at asked
  obtain ⟨text, requested, same⟩ := Option.map_eq_some_iff.mp asked
  refine ⟨text, requested, ?_⟩
  cases parsed : (FromStr.fromStr text : Except String JsonRpcRequest) with
  | ok request =>
    rw [parsed] at same
    subst same
    exact .inl ⟨request, along, rfl, among, returned,
      (dispatch_answers sound oauth request).returns returned⟩
  | error e =>
    rw [parsed] at same
    subst same
    cases returned
    exact .inr ⟨e, rfl, rfl⟩

theorem AnswersLine.one_line (ids : RequestsSound) {done : List (D × D)} {line : List UInt8}
    {response : JsonRpcResponse} (answers : AnswersLine handlers oauth done line response) :
    newlineByte ∉ Utf8.encode response.toValue.render := by
  have wellFormed : response.toValue.WellFormed := by
    obtain ⟨text, _, ⟨request, _, parsed, _, _, answers⟩ | ⟨e, _, rfl⟩⟩ := answers
    · exact answers.wellFormed (ids text request parsed)
    · exact (failure_answers _).wellFormed fun v absent => (by cases absent)
  rw [Utf8.ascii_mem_encode (by decide)]
  exact wellFormed.one_line

/-- Whatever happens on the other connections, a client gets one line for each of the first requests
it sent, in their order, and one for every complete line of what it sent that is a request when the
server has nothing left to do. -/
theorem served_in_order (sound : handlers.Sound) (ids : RequestsSound) {d : D}
    {s : Server D UInt8 JsonRpcResponse} {events : List (LineServer.Event UInt8)}
    (ran : Run (Server.step (handleConnection handlers oauth)) ⟨d, []⟩ events = some s) {i : Nat}
    {c : Connection D UInt8 JsonRpcResponse} (found : s.connections[i]? = some c) :
    ∃ answered : List (List UInt8 × JsonRpcResponse),
      answered.map Prod.fst <+:
        requests (handleConnection handlers oauth) (lines newlineByte (sent (movesOn i events))) ∧
      (∀ pair ∈ answered, AnswersLine handlers oauth
        (accesses (handleConnection handlers oauth) i ⟨d, []⟩ events) pair.1 pair.2) ∧
      lines newlineByte c.written =
        answered.map (fun pair => frame newlineByte (Utf8.encode pair.2.toValue.render)) ∧
      (c.ended = false → c.Quiet (handleConnection handlers oauth) s.state →
        newlineByte ∉ c.unread ∧ ∃ read,
          lines newlineByte (sent (movesOn i events)) = read ++ lines newlineByte c.unread ∧
          requests (handleConnection handlers oauth) read = answered.map Prod.fst) := by
  obtain ⟨taken, answered, talk⟩ := (connection_runs ran found).conversation
  have answers : ∀ pair ∈ answered, AnswersLine handlers oauth
      (accesses (handleConnection handlers oauth) i ⟨d, []⟩ events) pair.1 pair.2 :=
    fun pair member => answersLine_of_answers sound (talk.returned pair member)
  refine ⟨answered, talk.requests_sent, answers, ?_, fun going quiet => ?_⟩
  · exact talk.lines_written fun pair member => (answers pair member).one_line ids
  · obtain ⟨free, all⟩ := talk.answered_all going quiet
    exact ⟨free, taken, talk.cut, all⟩

/-! ### Requests that leave the daemon alone -/

/-- A line that is no request, or one that no method is called for. -/
def Aside (handlers : Handlers (Task D)) (oauth : OAuthSection) (line : List UInt8) : Prop :=
  ∀ text (request : JsonRpcRequest), requestText line = some text → FromStr.fromStr text = .ok request →
    Unserved handlers oauth request.params request.method

theorem Aside.settled {line : List UInt8} (aside : Aside handlers oauth line)
    {t : Task D JsonRpcResponse} (asked : asks (handleConnection handlers oauth) line = some t) :
    t.Settled := by
  rw [asks_eq] at asked
  obtain ⟨text, requested, same⟩ := Option.map_eq_some_iff.mp asked
  subst same
  cases parsed : (FromStr.fromStr text : Except String JsonRpcRequest) with
  | error e => trivial
  | ok request =>
    obtain ⟨reply, called⟩ := (aside text request requested parsed).call
    show (dispatch handlers oauth request).Settled
    rw [dispatch, called, map_pure]
    trivial

/-- A client whose lines are all set aside runs nothing in the daemon. -/
theorem aside_runs_nothing {d : D} {s : Server D UInt8 JsonRpcResponse}
    {events : List (LineServer.Event UInt8)}
    (ran : Run (Server.step (handleConnection handlers oauth)) ⟨d, []⟩ events = some s) {i : Nat}
    (aside : ∀ line ∈ lines newlineByte (sent (movesOn i events)), Aside handlers oauth line) :
    LineServer.Event.move i .run ∉ events := by
  intro member
  have moved : Move.run ∈ movesOn i events := List.mem_filterMap.mpr ⟨_, member, if_pos rfl⟩
  obtain ⟨c, found⟩ := moved_connection ran moved
  obtain ⟨_, _, talk⟩ := (connection_runs ran found).conversation
  exact talk.no_run (fun line inside t asked => (aside line inside).settled asked) moved

/-- While all that any number of clients send is set aside, the state of the daemon stays as it
is. -/
theorem aside_keeps_state {d : D} {s : Server D UInt8 JsonRpcResponse}
    {events : List (LineServer.Event UInt8)}
    (ran : Run (Server.step (handleConnection handlers oauth)) ⟨d, []⟩ events = some s)
    (aside : ∀ i, ∀ line ∈ lines newlineByte (sent (movesOn i events)), Aside handlers oauth line) :
    s.state = d :=
  state_kept ran fun i => aside_runs_nothing ran (aside i)

end Runs

/-! ### A daemon that can be shut down -/

namespace StandIn
open Core.StandIn

/-- Only the shutdown and the refresh of a token do something. -/
def handlers {D : Type} (requestShutdown : Task D Unit)
    (refresh : String → String → Task D (Except String Json)) : Handlers (Task D) where
  listAgents := .done []
  getAgent _ := .done none
  birthAgent _ := .done (.error "")
  startAgent _ := .done (.error "")
  stopAgent _ := .done (.error "")
  deleteAgent _ := .done (.error "")
  readAgentLogs _ _ := .done (.error "")
  queryAudit _ _ _ := .done (.error "")
  anchorStatus := .done none
  loadLicense := .done .free
  countAgents := .done 0
  uptimeSeconds := .done 0
  requestShutdown := requestShutdown
  mesh := none
  listLocal := .done (.error "")
  getTemplate _ := .done (.error "")
  installTemplate _ _ := .done (.error "")
  createFromLocal _ _ := .done (.error "")
  updateChecker := .done none
  oauth := {
    register _ _ := .done (.error "")
    authorize _ _ := .done (.error "")
    callback _ _ _ _ _ := .done (.error "")
    refresh := refresh
    revoke _ _ := .done (.error "")
    list _ := .done (.error "")
    status _ _ := .done (.error "")
    exchange _ _ := .done (.error "") }

theorem handlers_sound {D : Type} (requestShutdown : Task D Unit)
    {refresh : String → String → Task D (Except String Json)}
    (sound : ∀ agent id, (refresh agent id).Always fun r => ∀ v, r = .ok v → v.WellFormed) :
    (handlers requestShutdown refresh).Sound where
  anchorStatus _ same := by cases same
  queryAudit _ _ _ _ same := by cases same
  getTemplate _ _ same := by cases same
  ping _ same := by cases same
  updates _ same := by cases same
  oauthRegister _ _ _ same := by cases same
  oauthAuthorize _ _ _ same := by cases same
  oauthCallback _ _ _ _ _ _ same := by cases same
  oauthRefresh := sound
  oauthRevoke _ _ _ same := by cases same
  oauthList _ _ same := by cases same
  oauthStatus _ _ _ same := by cases same
  oauthExchange _ _ _ same := by cases same

def stoppable : Handlers (Task Bool) :=
  handlers (.access (fun _ => true) fun _ => .done ()) fun _ _ => .done (.error "")

theorem stoppable_sound : stoppable.Sound := handlers_sound _ fun _ _ _ same => (by cases same)

/-- A parser that knows one request. -/
@[reducible] def oneRequest (method : String) (params : Json) : FromStr JsonRpcRequest :=
  parser [((requestValue method params).render, ⟨"2.0", some (.num "1"), method, params⟩)]

theorem oneRequest_parses (method : String) (params : Json) :
    letI := oneRequest method params
    Parses method params :=
  parser_head _ _ _

theorem oneRequest_sound (method : String) (params : Json) :
    letI := oneRequest method params
    RequestsSound := by
  intro text request parsed v same
  by_cases known : text = (requestValue method params).render
  · subst known
    obtain rfl := Except.ok.inj ((parser_head _ _ _).symm.trans parsed)
    obtain rfl := Option.some.inj same
    exact wellFormed_nat 1
  · cases (parser_other known _).symm.trans parsed

/-- The bridge is on. -/
def bridge : OAuthSection := ⟨true, true⟩

/-- A client that is alone gets the answer of its method. -/
theorem call_alone [Chrono] [FromValue (List String)] [FromValue ModelConfig]
    [FromValue ResourceConfig] {D : Type} {handlers : Handlers (Task D)} {oauth : OAuthSection}
    {method : String} {params : Json} (plain : params.WellFormed) {reply : Reply} {d d' : D}
    (called : (call handlers oauth method params).exec d = (some reply, d')) :
    letI := oneRequest method params
    ∃ events, sent (movesOn 0 events) = message method params ∧
      Run (Server.step (handleConnection handlers oauth)) ⟨d, []⟩ events = some ⟨d',
        [⟨[], false, none,
          frame newlineByte (Utf8.encode (respond (some (.num "1")) reply).toValue.render), false⟩]⟩ := by
  let _ := oneRequest method params
  have asked : asks (handleConnection handlers oauth) (message method params) =
      some (dispatch handlers oauth ⟨"2.0", some (.num "1"), method, params⟩) := by
    have parsed : (FromStr.fromStr (requestValue method params).render : Except String JsonRpcRequest) = _ :=
      oneRequest_parses method params
    rw [asks_eq, requestText_message, Option.map_some, parsed]
  have ran : (dispatch handlers oauth ⟨"2.0", some (.num "1"), method, params⟩).exec d =
      (some (respond (some (.num "1")) reply), d') := by
    rw [dispatch, map_eq_pure_bind, Task.bind_eq, Task.exec_bind, called]
    rfl
  exact answered_alone (message_line plain) asked ran

theorem nothing_plain : (Json.obj []).WellFormed := wellFormed_obj List.nodup_nil trivial

open scoped Core.StandIn in
/-- A client asks for a shutdown. -/
theorem served_in_order_shutdown :
    letI := Daemon.StandIn.noValues
    letI := oneRequest "shutdown" (.obj [])
    ∃ events s c answered,
      Run (Server.step (handleConnection stoppable bridge)) ⟨false, []⟩ events = some s ∧
      s.state = true ∧
      s.connections[0]? = some c ∧ answered ≠ [] ∧
      answered.map Prod.fst <+:
        requests (handleConnection stoppable bridge) (lines newlineByte (sent (movesOn 0 events))) ∧
      (∀ pair ∈ answered, AnswersLine stoppable bridge
        (accesses (handleConnection stoppable bridge) 0 ⟨false, []⟩ events) pair.1 pair.2) ∧
      lines newlineByte c.written =
        answered.map fun pair => frame newlineByte (Utf8.encode pair.2.toValue.render) := by
  let _ := Daemon.StandIn.noValues
  let _ := oneRequest "shutdown" (.obj [])
  have called : (call stoppable bridge "shutdown" (.obj [])).exec false =
      (some (.ok (.obj [("status", .str "shutting_down")])), true) := rfl
  obtain ⟨events, _, ran⟩ := call_alone nothing_plain called
  obtain ⟨answered, order, answers, written, _⟩ :=
    served_in_order stoppable_sound (oneRequest_sound _ _) ran (i := 0) rfl
  refine ⟨events, _, _, answered, ran, rfl, rfl, ?_, order, answers, written⟩
  rintro rfl
  have empty := lines_eq_nil written
  exact List.append_ne_nil_of_right_ne_nil _ (List.cons_ne_nil _ _) empty

open scoped Core.StandIn in
/-- A client asks for what is not there. -/
theorem aside_keeps_state_unknown :
    letI := Daemon.StandIn.noValues
    letI := oneRequest "stop" (.obj [])
    ∃ events s, sent (movesOn 0 events) = message "stop" (.obj []) ∧
      Run (Server.step (handleConnection stoppable bridge)) ⟨false, []⟩ events = some s ∧
      s.state = false := by
  let _ := Daemon.StandIn.noValues
  let _ := oneRequest "stop" (.obj [])
  have called : (call stoppable bridge "stop" (.obj [])).exec false =
      (some (.error ⟨-32601, "Method not found: stop"⟩), false) := rfl
  obtain ⟨events, asked, ran⟩ := call_alone nothing_plain called
  refine ⟨events, _, asked, ran, aside_keeps_state ran fun i line member => ?_⟩
  intro text request requested parsed
  by_cases first : i = 0
  · subst first
    have single :=
      lines_complete (show Complete newlineByte (message "stop" _) from message_line nothing_plain) []
    rw [List.append_nil] at single
    rw [asked, single] at member
    obtain rfl := List.mem_singleton.mp member
    rw [requestText_message] at requested
    obtain rfl := Option.some.inj requested
    obtain rfl := Except.ok.inj ((parser_head _ _ _).symm.trans parsed)
    exact .unknown (by decide)
  · rw [((tracked_run ran).2 i (Nat.one_le_iff_ne_zero.mpr first)).1] at member
    cases member

end StandIn
end GrokingClawId.Daemon.Ipc
