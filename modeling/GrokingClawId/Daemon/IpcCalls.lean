import GrokingClawId.Daemon.IpcRuns
import GrokingClawId.Daemon.OauthReach
import GrokingClawId.Daemon.OauthRenewal

/-!
# Calls over the socket

The clients of the IPC server: `ipc_call` of the CLI and `refresh_token_via_ipc` of the proxies. Each sends
one request and reads one line, and gets what the daemon would have returned to a caller of its own.
-/

namespace GrokingClawId.Daemon.Ipc
open GrokingClawId.Core GrokingClawId.Proxy Text Json LineFraming LineServer

/-! ### Clients -/

/-- The line that it is answered with. -/
def responseLine (reply : Reply) : List UInt8 :=
  frame newlineByte (Utf8.encode (respond (some (.num "1")) reply).toValue.render)

section Clients
variable [FromStr Json]

/-- `from_str(line.trim())`, of what `read_line` has read. -/
def readResponse (line : List UInt8) : Except String Json := do
  let line ← orErr (Utf8.decode line) "stream did not contain valid UTF-8"
  FromStr.fromStr (String.ofList (trim line.toList))

/-- `error.get("message").and_then(as_str).unwrap_or(unknown)`. -/
def errorMessage (unknown : String) (error : Json) : String :=
  (strParam error "message").getD unknown

def ipcCall (line : List UInt8) : Except String Json := do
  let resp ← readResponse line
  match resp.get "error" with
  | some error => .error (errorMessage "unknown" error)
  | none => .ok ((resp.get "result").getD .null)

end Clients

/-! ### One request on a connection -/

variable {method : String} {params : Json}

section Calls
variable [Chrono] [FromValue (List String)] [FromValue ModelConfig] [FromValue ResourceConfig]
  [FromStr JsonRpcRequest] {D : Type} {handlers : Handlers (Task D)} {oauth : OAuthSection}

/-- The request of a client is answered by its method. -/
theorem AnswersLine.reply (parses : Parses method params) {done : List (D × D)}
    {response : JsonRpcResponse}
    (answers : AnswersLine handlers oauth done (message method params) response) :
    ∃ reply along, along.Sublist done ∧ (call handlers oauth method params).Returns along reply ∧
      response = respond (some (.num "1")) reply := by
  obtain ⟨text, requested, answered⟩ := answers
  rw [requestText_message] at requested
  obtain rfl := Option.some.inj requested
  rcases answered with ⟨request, along, parsed, among, returned, _⟩ | ⟨e, failed, _⟩
  · obtain rfl := Except.ok.inj (parses.symm.trans parsed)
    obtain ⟨reply, last, same⟩ := Task.returns_map returned
    exact ⟨reply, along, among, last, same⟩
  · rw [parses] at failed
    cases failed

/-- A client that has sent its request reads the answer of its method and nothing else, or the end
of the stream, whatever goes on on the other connections. -/
theorem remote_call (sound : handlers.Sound) (ids : RequestsSound) (plain : params.WellFormed)
    (parses : Parses method params) {d : D} {s : Server D UInt8 JsonRpcResponse}
    {events : List (LineServer.Event UInt8)}
    (ran : Run (Server.step (handleConnection handlers oauth)) ⟨d, []⟩ events = some s) {i : Nat}
    {c : Connection D UInt8 JsonRpcResponse} (found : s.connections[i]? = some c)
    (asked : sent (movesOn i events) = message method params) {line rest : List UInt8}
    (got : readLine newlineByte c.ended c.written = some (line, rest)) :
    (line = [] ∧ c.ended = true) ∨ ∃ reply along,
      along.Sublist (accesses (handleConnection handlers oauth) i ⟨d, []⟩ events) ∧
      (call handlers oauth method params).Returns along reply ∧
      line = responseLine reply ∧ rest = [] := by
  obtain ⟨answered, order, answers, written, _⟩ := served_in_order sound ids ran found
  obtain ⟨whole, first⟩ := readLine_lines got
  have one : lines newlineByte (sent (movesOn i events)) = [message method params] := by
    have single :=
      lines_complete (show Complete newlineByte (message method params) from message_line plain) []
    rw [List.append_nil] at single
    rw [asked, single]
    rfl
  rw [one] at order
  rcases first with cut | ⟨ended, _, empty⟩
  case inr => exact .inl ⟨empty, ended⟩
  right
  rw [written] at cut
  obtain ⟨pair, answered, rfl⟩ : ∃ pair tail, answered = pair :: tail := by
    cases answered with
    | nil => cases cut
    | cons pair tail => exact ⟨pair, tail, rfl⟩
  obtain ⟨rfl, lines_rest⟩ := List.cons.inj cut
  have length := order.length_le.trans (List.length_filter_le _ _)
  rw [List.length_map, List.length_cons, List.length_singleton] at length
  obtain rfl : answered = [] := List.eq_nil_of_length_eq_zero (by omega)
  have listed : pair.1 = message method params :=
    List.mem_singleton.mp (List.mem_filter.mp (order.subset List.mem_cons_self)).1
  have answer := answers pair List.mem_cons_self
  rw [listed] at answer
  obtain ⟨reply, along, among, returned, response⟩ := answer.reply parses
  exact ⟨reply, along, among, returned, by rw [responseLine, ← response], lines_eq_nil lines_rest.symm⟩

end Calls

/-! ### What the clients make of an answer -/

/-- A value is read back as it was written, with the keys in any order. -/
def ReadsBack [FromStr Json] (v : Json) : Prop :=
  ∃ w, FromStr.fromStr v.render = .ok w ∧ UpToKeyOrder v w

theorem get_some {v w x : Json} (key : String) (same : UpToKeyOrder v w)
    (found : v.get key = some x) :
    ∃ y, w.get key = some y ∧ UpToKeyOrder x y := by
  obtain ⟨missing, values⟩ := same.get key
  cases there : w.get key with
  | none =>
    rw [missing.mpr there] at found
    cases found
  | some y => exact ⟨y, rfl, values x y found there⟩

theorem strParam_eq {v w : Json} (key : String) {text : String} (same : UpToKeyOrder v w)
    (found : v.get key = some (.str text)) : strParam w key = some text := by
  obtain ⟨y, there, values⟩ := get_some key same found
  cases values
  rw [strParam, there]
  rfl

section Results
variable [FromStr Json] {reply : Reply}

theorem readResponse_line (back : ReadsBack (respond (some (.num "1")) reply).toValue) :
    ∃ w, readResponse (responseLine reply) = .ok w ∧
      UpToKeyOrder (respond (some (.num "1")) reply).toValue w := by
  obtain ⟨w, read, same⟩ := back
  refine ⟨w, ?_, same⟩
  rw [readResponse, responseLine, decode_frame]
  show FromStr.fromStr
    (String.ofList (trim ((respond (some (.num "1")) reply).toValue.render ++ "\n").toList)) = _
  rw [JsonRpcResponse.toValue, trim_obj_line, String.ofList_toList]
  exact read

omit [FromStr Json] in
theorem response_ok {v w : Json}
    (same : UpToKeyOrder (respond (some (.num "1")) (.ok v)).toValue w) :
    w.get "error" = none ∧ ∃ v', w.get "result" = some v' ∧ UpToKeyOrder v v' :=
  ⟨(same.get "error").1.mp rfl, get_some "result" same rfl⟩

omit [FromStr Json] in
theorem response_error {e : RpcError} {w : Json}
    (same : UpToKeyOrder (respond (some (.num "1")) (.error e)).toValue w) :
    ∃ error, w.get "error" = some error ∧ ∀ unknown, errorMessage unknown error = e.message := by
  obtain ⟨error, found, inner⟩ := get_some "error" same rfl
  refine ⟨error, found, fun unknown => ?_⟩
  rw [errorMessage, strParam_eq "message" inner rfl]
  rfl

theorem ipcCall_ok {v : Json} (back : ReadsBack (respond (some (.num "1")) (.ok v)).toValue) :
    ∃ v', ipcCall (responseLine (.ok v)) = .ok v' ∧ UpToKeyOrder v v' := by
  obtain ⟨w, read, same⟩ := readResponse_line back
  obtain ⟨no_error, v', found, inner⟩ := response_ok same
  refine ⟨v', ?_, inner⟩
  simp only [ipcCall, read, bind, Except.bind, no_error, found, Option.getD_some]

theorem ipcCall_error {e : RpcError}
    (back : ReadsBack (respond (some (.num "1")) (.error e)).toValue) :
    ipcCall (responseLine (.error e)) = .error e.message := by
  obtain ⟨w, read, same⟩ := readResponse_line back
  obtain ⟨error, found, told⟩ := response_error same
  simp only [ipcCall, read, bind, Except.bind, found, told]

end Results

/-! ### Whole calls -/

section Whole
variable [Chrono] [FromValue (List String)] [FromValue ModelConfig] [FromValue ResourceConfig]
  [FromStr JsonRpcRequest] [FromStr Json] {D : Type} {handlers : Handlers (Task D)} {oauth : OAuthSection}
  {method : String} {params : Json}

/-- What a call over the socket returns is what its method returned to the daemon over accesses that it
made in the run, in their order. -/
theorem ipcCall_remote (sound : handlers.Sound) (ids : RequestsSound) (plain : params.WellFormed)
    (parses : Parses method params)
    (back : ∀ along reply, (call handlers oauth method params).Returns along reply →
      ReadsBack (respond (some (.num "1")) reply).toValue)
    {d : D} {s : Server D UInt8 JsonRpcResponse} {events : List (LineServer.Event UInt8)}
    (ran : Run (Server.step (handleConnection handlers oauth)) ⟨d, []⟩ events = some s)
    {i : Nat} {c : Connection D UInt8 JsonRpcResponse} (found : s.connections[i]? = some c)
    (asked : sent (movesOn i events) = message method params) {line rest : List UInt8}
    (nonempty : line ≠ []) (got : readLine newlineByte c.ended c.written = some (line, rest)) :
    ∃ reply along, along.Sublist (accesses (handleConnection handlers oauth) i ⟨d, []⟩ events) ∧
      (call handlers oauth method params).Returns along reply ∧
      match reply with
      | .ok value => ∃ v, ipcCall line = .ok v ∧ UpToKeyOrder value v
      | .error e => ipcCall line = .error e.message := by
  rcases remote_call sound ids plain parses ran found asked got with
    ⟨empty, _⟩ | ⟨reply, along, among, returned, rfl, _⟩
  · exact absurd empty nonempty
  refine ⟨reply, along, among, returned, ?_⟩
  cases reply with
  | ok value => exact ipcCall_ok (back _ _ returned)
  | error e => exact ipcCall_error (back _ _ returned)

end Whole

/-! ### A refresh by a proxy -/

/-- A method of the bridge as a task of the server, on its part of the state; a panic ends the
connection. -/
def taskOf {C D A : Type} (get : D → C) (put : C → D → D) :
    Program C (Outcome A) → Task D (Except String A)
  | .done (.ok a) => .done (.ok a)
  | .done (.error (.error e)) => .done (.error e)
  | .done (.error (.panic _)) => .died
  | .load next => .access id fun d => taskOf get put (next (get d))
  | .wait next => .access id fun _ => taskOf get put next
  | .save content next => .access (put content) fun _ => taskOf get put next

section Refresh
variable [Aead] [Hkdf] [StoreFormat] [FromStr TokenResponse]

variable [Chrono] [FromValue (List String)] [FromValue ModelConfig] [FromValue ResourceConfig]
  {D : Type} {handlers : Handlers (Task D)} {oauth : OAuthSection}
  {agentId id : String} {dir : AgentDir} {io : OauthIo} {get : D → SealedFile} {put : SealedFile → D → D}

variable [FromStr JsonRpcRequest] [FromStr Json]

end Refresh

namespace StandIn
open Core.StandIn Daemon.StandIn

/-- A parser that reads back every value. -/
@[reducible] noncomputable def values : FromStr Json where
  fromStr text := by
    classical
    exact if written : ∃ v : Json, v.WellFormed ∧ v.render = text then .ok written.choose
      else .error "expected value"

theorem values_readsBack {v : Json} (plain : v.WellFormed) :
    letI := values
    ReadsBack v := by
  have written : ∃ w : Json, w.WellFormed ∧ w.render = v.render := ⟨v, plain, rfl⟩
  obtain ⟨plain', same⟩ := written.choose_spec
  refine ⟨written.choose, dif_pos written, ?_⟩
  rw [plain'.render_inj plain same]
  exact upToKeyOrder_of_sortKeys plain plain rfl

theorem replies_readBack [Chrono] [FromValue (List String)] [FromValue ModelConfig]
    [FromValue ResourceConfig] {D : Type} {handlers : Handlers (Task D)} (sound : handlers.Sound)
    {oauth : OAuthSection} {method : String} {params : Json} {along : List (D × D)} {reply : Reply}
    (returned : (call handlers oauth method params).Returns along reply) :
    letI := values
    ReadsBack (respond (some (.num "1")) reply).toValue :=
  values_readsBack ((respond_answers ((call_sound sound oauth method params).returns returned)).wellFormed
    fun v same => (by cases same; exact wellFormed_nat 1))

/-- The answer is all that has been written. -/
theorem readLine_response {reply : Reply} (sound : reply.Sound) :
    readLine newlineByte false (responseLine reply) = some (responseLine reply, []) := by
  have answers : (respond (some (.num "1")) reply).Answers (some (.num "1")) :=
    respond_answers sound
  have plain := answers.wellFormed fun v same => (by cases same; exact wellFormed_nat 1)
  have free : newlineByte ∉ Utf8.encode (respond (some (.num "1")) reply).toValue.render := by
    rw [Utf8.ascii_mem_encode (by decide)]
    exact plain.one_line
  have front := cut_frame free []
  rw [List.append_nil] at front
  rw [readLine, responseLine, front]

theorem responseLine_ne_nil (reply : Reply) : responseLine reply ≠ [] :=
  List.append_ne_nil_of_right_ne_nil _ (List.cons_ne_nil _ _)

/-- The command of a client that shuts the daemon down. -/
theorem ipcCall_remote_shutdown :
    letI := Daemon.StandIn.noValues
    letI := oneRequest "shutdown" (.obj [])
    letI := values
    ∃ events s c line v,
      Run (Server.step (handleConnection stoppable bridge)) ⟨false, []⟩ events = some s ∧
      s.state = true ∧
      s.connections[0]? = some c ∧ readLine newlineByte c.ended c.written = some (line, []) ∧
      ipcCall line = .ok v ∧ UpToKeyOrder (.obj [("status", .str "shutting_down")]) v := by
  let _ := Daemon.StandIn.noValues
  let _ := oneRequest "shutdown" (.obj [])
  let _ := values
  have called : (call stoppable bridge "shutdown" (.obj [])).exec false =
      (some (.ok (.obj [("status", .str "shutting_down")])), true) := rfl
  have always : (call stoppable bridge "shutdown" (.obj [])).Always
      (· = .ok (.obj [("status", .str "shutting_down")])) := fun _ => rfl
  obtain ⟨events, asked, ran⟩ := call_alone nothing_plain called
  have sound : Reply.Sound (.ok (.obj [("status", .str "shutting_down")])) :=
    wellFormed_obj (show ["status"].Nodup by decide) (.str _)
  have got := readLine_response sound
  obtain ⟨reply, along, _, returned, told⟩ :=
    ipcCall_remote stoppable_sound (oneRequest_sound _ _) nothing_plain
    (oneRequest_parses _ _) (fun along reply => replies_readBack stoppable_sound) ran (i := 0) rfl asked
    (responseLine_ne_nil _) got
  rw [always.returns returned] at told
  obtain ⟨v, told, same⟩ := told
  exact ⟨events, _, _, _, v, ran, rfl, rfl, got, told, same⟩

section Refresh

/-- The daemon of an agent with its store. -/
def refreshing [FromStr TokenResponse] (dir : AgentDir) : Handlers (Task SealedFile) :=
  handlers (.done ()) fun agent id =>
    taskOf (fun file => file) (fun content _ => content) (oauthRefresh dir agent id oauthIo)

end Refresh
end StandIn
end GrokingClawId.Daemon.Ipc
