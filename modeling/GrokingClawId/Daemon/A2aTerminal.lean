import GrokingClawId.Daemon.A2aRuns
import GrokingClawId.Lib.Run

/-!
# Finished tasks

What becomes of a task that is completed, canceled or failed while more requests arrive. Cancelling
leaves it alone, and a message that is sent under its id replaces it.
-/

namespace GrokingClawId.Daemon.A2a
open GrokingClawId.Core Text

/-- The states that `tasks/cancel` takes for terminal. -/
def TaskState.Terminal (state : TaskState) : Prop :=
  state = .completed ∨ state = .canceled ∨ state = .failed

/-- What must not change of a finished task. -/
structure SameContent (task task' : A2aTask) : Prop where
  messages : task'.messages = task.messages
  artifacts : task'.artifacts = task.artifacts
  contextId : task'.contextId = task.contextId
  state : task'.status.state = task.status.state

/-- The task is under its id with the content it had, and is given to who asks for it. -/
def Kept [Chrono] (tasks : Tasks) (id : String) (task : A2aTask) : Prop :=
  ∃ task', tasks.lookup id = some task' ∧ SameContent task task' ∧
    handleTasksGet tasks (.obj [("id", .str id)]) = .success none task'.toValue

theorem kept_of_lookup [Chrono] {tasks : Tasks} {id : String} {task : A2aTask}
    (stored : tasks.lookup id = some task) :
    Kept tasks id task := by
  refine ⟨task, stored, ⟨rfl, rfl, rfl, rfl⟩, ?_⟩
  have named : ((Json.obj [("id", .str id)]).get "id").bind Json.asStr = some id := rfl
  unfold handleTasksGet
  rw [named]
  simp only [stored]

/-! ### Sent messages -/

/-- The id that the message asks for, or a drawn one. -/
def sentId (params : Json) (draws : Draws) : String :=
  ((params.get "id").bind Json.asStr).getD draws.taskId.toText

/-- There is a message, and the agent that it is for is managed. -/
def Delivers (daemon : DaemonState) (params : Json) : Prop :=
  (params.get "message").isSome ∧
    ∀ name, targetAgent params = some name → (daemon.supervisor.getAgent name).isSome

section Methods
variable [Sha256] [Chrono] [Unicode]

theorem handleMessageSend_delivers {daemon : DaemonState} {params : Json}
    (delivers : Delivers daemon params) (tasks : Tasks) (callerVerified : Bool) (draws : Draws) :
    ∃ task, (handleMessageSend daemon tasks params callerVerified draws).1 =
      tasks.insert (sentId params draws) task ∧
      task.status.state = .completed ∧
      task.contextId = (params.get "contextId").bind Json.asStr := by
  obtain ⟨there, managed⟩ := delivers
  obtain ⟨message, present⟩ := Option.isSome_iff_exists.mp there
  have known : ((targetAgent params).filter fun name => (daemon.supervisor.getAgent name).isNone) =
      none := by
    cases targeted : targetAgent params with
    | none => rfl
    | some name =>
      have found := managed name targeted
      simp [Option.isSome_iff_ne_none.mp found]
  unfold handleMessageSend
  simp only [present, known]
  exact ⟨_, AList.insert_insert _, rfl, rfl⟩

theorem handleMessageSend_ignored {daemon : DaemonState} {params : Json}
    (ignored : ¬ Delivers daemon params) (tasks : Tasks) (callerVerified : Bool) (draws : Draws) :
    (handleMessageSend daemon tasks params callerVerified draws).1 = tasks := by
  unfold handleMessageSend
  cases present : params.get "message" with
  | none => rfl
  | some message =>
    cases targeted : (targetAgent params).filter fun name => (daemon.supervisor.getAgent name).isNone with
    | some name => simp only [targeted]
    | none =>
      apply absurd ?_ ignored
      refine ⟨by rw [present]; rfl, fun name named => ?_⟩
      rw [named] at targeted
      simpa [Option.filter, Option.isSome_iff_ne_none] using targeted

omit [Sha256] [Unicode] in
theorem handleTasksCancel_keeps (tasks : Tasks) (params : Json) (draws : Draws) {id : String}
    {task : A2aTask} (stored : tasks.lookup id = some task)
    (terminal : task.status.state.Terminal) :
    (handleTasksCancel tasks params draws).1.lookup id = some task := by
  unfold handleTasksCancel
  cases (params.get "id").bind Json.asStr with
  | none => exact stored
  | some taskId =>
    dsimp only
    cases found : tasks.lookup taskId with
    | none => exact stored
    | some target =>
      dsimp only
      by_cases same : taskId = id
      · obtain rfl := same
        obtain rfl := Option.some.inj (stored.symm.trans found)
        rcases terminal with completed | canceled | failed
        · rw [completed]
          exact stored
        · rw [canceled]
          exact stored
        · rw [failed]
          exact stored
      · split
        all_goals first
          | exact stored
          | exact (AList.lookup_insert_ne (Ne.symm same)).trans stored

/-! ### Runs -/

/-- A request with the state of the daemon that it meets. -/
structure Call where
  daemon : DaemonState
  request : JsonRpcRequest
  callerVerified : Bool
  draws : Draws

def Call.step (tasks : Tasks) (call : Call) : Option Tasks :=
  some (handleMethod call.daemon tasks call.request call.callerVerified call.draws).1

omit [Sha256] [Chrono] [Unicode] in
/-- No message that is delivered goes under the id of a finished task. -/
def Call.NewId (tasks : Tasks) (call : Call) : Prop :=
  call.request.method = "message/send" → Delivers call.daemon call.request.params →
    ∀ task, tasks.lookup (sentId call.request.params call.draws) = some task → ¬ task.status.state.Terminal

/-- A request that takes a new id leaves every finished task as it is. -/
theorem step_keeps {tasks tasks' : Tasks} {call : Call} (fresh : call.NewId tasks)
    (stepped : call.step tasks = some tasks') {id : String} {task : A2aTask}
    (stored : tasks.lookup id = some task) (terminal : task.status.state.Terminal) :
    tasks'.lookup id = some task := by
  cases stepped
  unfold handleMethod
  split
  · rename_i send
    by_cases delivers : Delivers call.daemon call.request.params
    · obtain ⟨sent, inserted, -⟩ :=
        handleMessageSend_delivers delivers tasks call.callerVerified call.draws
      rw [inserted]
      have other : id ≠ sentId call.request.params call.draws := by
        rintro rfl
        exact fresh send delivers task stored terminal
      rw [AList.lookup_insert_ne other]
      exact stored
    · rw [handleMessageSend_ignored delivers]
      exact stored
  · exact stored
  · exact stored
  · exact handleTasksCancel_keeps tasks call.request.params call.draws stored terminal
  · exact stored

variable [Ed25519] [MlDsa65] [FromStr AgentCard] [FromSlice RevokeRequest] [FromSlice JsonRpcRequest]

/-- The call that a request to the server comes to, if it is one to `/a2a/rpc` that is let in and read. -/
def A2aServer.call (server : A2aServer) (arrival : Arrival) : Option Call :=
  if arrival.request.isRpc ∧ (server.requireAuth && !signatureOk server.daemon arrival.request) = false then
    match arrival.request.body.bind fun bodyBytes =>
      (FromSlice.fromSlice bodyBytes : Except String JsonRpcRequest) with
    | .error _ => none
    | .ok rpcReq => some ⟨server.daemon, rpcReq, signatureOk server.daemon arrival.request, arrival.draws⟩
  else none

def A2aServer.calls (server : A2aServer) : List Arrival → List Call
  | [] => []
  | arrival :: arrivals => (server.call arrival).toList ++ (server.step arrival).calls arrivals

theorem A2aServer.step_tasks (server : A2aServer) (arrival : Arrival) :
    Run Call.step server.tasks (server.call arrival).toList = some (server.step arrival).tasks := by
  unfold A2aServer.step A2aServer.call
  by_cases rpc : arrival.request.isRpc
  · rw [if_pos rpc]
    unfold handleA2aRpc
    dsimp only
    cases refused : server.requireAuth && !signatureOk server.daemon arrival.request with
    | true =>
      rw [if_pos rfl, if_neg (by simp)]
      rfl
    | false =>
      rw [if_neg Bool.false_ne_true, if_pos ⟨rpc, rfl⟩]
      cases arrival.request.body with
      | error e => rfl
      | ok bodyBytes =>
        dsimp only [Except.bind]
        cases (FromSlice.fromSlice bodyBytes : Except String JsonRpcRequest) with
        | error e => rfl
        | ok rpcReq => rfl
  · rw [if_neg rpc, if_neg fun both => rpc both.1]
    split
    · refine congrArg some ?_
      rcases handleControlRevoke_cases server arrival.request with ⟨-, same⟩ | ⟨name, -, stops⟩
      · rw [same]
      · obtain ⟨supervisor, -, after⟩ := stops.agents
        rw [after]
    · rfl

/-- What the server does with its tasks is the run of its calls. -/
theorem A2aServer.run_tasks (server : A2aServer) (arrivals : List Arrival) :
    Run Call.step server.tasks (server.calls arrivals) = some (server.run arrivals).tasks := by
  induction arrivals generalizing server with
  | nil => rfl
  | cons arrival arrivals ih =>
    rw [A2aServer.calls, Run.append, server.step_tasks arrival, Option.bind_some]
    exact ih (server.step arrival)

/-- In every run in which no message is delivered under the id of a finished task, a finished task
keeps its content and stays where it is; and a server that receives these calls comes to these tasks. -/
theorem finished_kept {tasks tasks' : Tasks} {calls : List Call}
    (ran : Run Call.step tasks calls = some tasks')
    (fresh : Run.Each Call.step Call.NewId tasks calls) {id : String} {task : A2aTask}
    (stored : tasks.lookup id = some task) (terminal : task.status.state.Terminal) :
    Kept tasks' id task ∧ ∀ (server : A2aServer) (arrivals : List Arrival),
      server.tasks = tasks → server.calls arrivals = calls → (server.run arrivals).tasks = tasks' := by
  have keeps : ∀ tasks call tasks', AList.lookup id tasks = some task → Call.NewId tasks call →
      call.step tasks = some tasks' → tasks'.lookup id = some task :=
    fun _ _ _ stored fresh stepped => step_keeps fresh stepped stored terminal
  refine ⟨kept_of_lookup (Run.each_preserves keeps stored fresh ran), ?_⟩
  rintro server arrivals rfl rfl
  exact Option.some.inj ((server.run_tasks arrivals).symm.trans ran)

end Methods

section
open scoped Core.StandIn StandIn.Files

namespace StandIn

def sending (id contextId : String) : Call where
  daemon := server.daemon
  request := { jsonrpc := "2.0", id := none, method := "message/send"
               params := .obj [("id", .str id), ("contextId", .str contextId), ("message", .obj [])] }
  callerVerified := true
  draws := { now := 0, updated := 0, taskId := Uuid.nil, uptimeSeconds := 0 }

theorem sending_delivers (id contextId : String) :
    Delivers (sending id contextId).daemon (sending id contextId).request.params :=
  ⟨rfl, fun _ named => nomatch named⟩

theorem sending_stores (tasks : Tasks) (id contextId : String) : ∃ tasks' task,
    (sending id contextId).step tasks = some tasks' ∧ tasks'.lookup id = some task ∧
      task.status.state = .completed ∧ task.contextId = some contextId := by
  obtain ⟨task, inserted, completed, context⟩ := handleMessageSend_delivers
    (sending_delivers id contextId) tasks (sending id contextId).callerVerified (sending id contextId).draws
  refine ⟨_, task, rfl, ?_, completed, context⟩
  show (handleMessageSend _ _ _ _ _).1.lookup id = some task
  rw [inserted]
  exact AList.lookup_insert _

def cancelling (id : String) : Call :=
  { sending id "" with
    request := { jsonrpc := "2.0", id := none, method := "tasks/cancel", params := .obj [("id", .str id)] } }

def finished : A2aTask where
  id := "a"
  contextId := none
  status := { state := .failed, message := none }
  messages := []
  artifacts := []
  createdAt := 0
  updatedAt := 0

end StandIn

/-- A failed task is not cancelled, and a message under another id leaves it. -/
theorem finished_kept_cancelling :
    ∃ tasks', Run Call.step ((∅ : Tasks).insert "a" StandIn.finished)
      [StandIn.cancelling "a", StandIn.sending "b" "", StandIn.cancelling "a"] = some tasks' ∧
      Kept tasks' "a" StandIn.finished := by
  have fresh : Run.Each Call.step Call.NewId ((∅ : Tasks).insert "a" StandIn.finished)
      [StandIn.cancelling "a", StandIn.sending "b" "", StandIn.cancelling "a"] := by
    refine fun tasks stepped => ⟨fun send => absurd send (by decide), fun _ _ =>
      ⟨fun _ _ task stored _ => ?_, fun _ _ =>
      ⟨fun send => absurd send (by decide), trivial⟩⟩⟩
    obtain rfl := Option.some.inj stepped
    have absent : ((∅ : Tasks).insert "a" StandIn.finished).lookup "b" = none := rfl
    exact absurd (absent.symm.trans stored) (Option.some_ne_none task).symm
  exact ⟨_, rfl, (finished_kept rfl fresh (AList.lookup_insert _) (.inr (.inr rfl))).1⟩

/-- A message that is sent under the id of a completed task replaces it. -/
theorem finished_replaced : ¬ ∀ (tasks tasks' : Tasks) (calls : List Call) (id : String)
    (task : A2aTask),
    Run Call.step tasks calls = some tasks' → tasks.lookup id = some task →
    task.status.state.Terminal →
    Kept tasks' id task := by
  intro kept
  obtain ⟨tasks, task, _, stored, completed, context⟩ := StandIn.sending_stores ∅ "a" "first"
  obtain ⟨tasks', task', sent, replaced, _, context'⟩ := StandIn.sending_stores tasks "a" "second"
  obtain ⟨found, there, content, _⟩ := kept tasks tasks' [StandIn.sending "a" "second"] "a" task
    (Run.cons sent rfl) stored (.inl completed)
  obtain rfl := Option.some.inj (there.symm.trans replaced)
  have same := content.contextId
  rw [context, context', Option.some.injEq] at same
  exact absurd same (by decide)

end
end GrokingClawId.Daemon.A2a
