import GrokingClawId.Proxy.OauthExpiry
import GrokingClawId.Daemon.OauthAddress

/-!
# Revocation beside a running proxy

The store of an agent with the methods of the daemon that work on it, and the token cache of its
proxy, in any order of their steps. The answer to a refresh is all that the cache hears of the store.
-/

namespace GrokingClawId.Daemon
open GrokingClawId.Core GrokingClawId.Proxy Text

/-! ### The token in an answer -/

/-- What `refresh_token_via_ipc` reads from the result. -/
def tokenOf (result : Json) : Except String CachedOAuthToken :=
  orErr (do
    let accessToken ← strParam result "access_token"
    let expiresAt ← ((result.get "expires_at").bind asI64).map Int64.toInt
    let scopes ← ((result.get "scopes").bind Json.asArray).bind fun items => items.mapM Json.asStr
    let provider ← strParam result "provider"
    let registrationId ← strParam result "registration_id"
    some { accessToken, expiresAt, scopes, provider, registrationId })
    "Failed to parse refreshed token"

/-- The answer to the request for a refresh. -/
def answered : Outcome Json → Except String CachedOAuthToken
  | .ok value => tokenOf value
  | .error _ => .error "Daemon oauth.refresh failed"

/-! ### Steps -/

/-- The files of the agent besides its store, and what the directory under its identifier holds when
it is another one. -/
structure Quarters where
  dir : AgentDir
  agentName : String
  agentId : String
  other : Option AgentDir

/-- A method that the daemon runs, with the task of the proxy that waits for it. -/
structure Serving where
  call : OauthCall
  io : OauthIo
  program : OauthProgram
  task : Option Nat

structure Bridge where
  file : SealedFile
  methods : List Serving
  proxy : TokenTasks

inductive BridgeEvent where
  | request (e : TaskEvent)
  /-- Somebody else calls a method. -/
  | client (call : OauthCall) (io : OauthIo)
  /-- The daemon gets the request of a task. The store under the identifier is read when it is not
  the agent's. -/
  | serve (task : Nat) (io : OauthIo) (foreign : SealedFile)
  | work (method : Nat)
  | reply (method : Nat)
  /-- The connection fails. -/
  | lost (task : Nat) (e : String)

/-- Nothing calls `update_token` or `remove_token` of a running proxy. -/
def ofProxy : TaskEvent → Bool
  | .answer _ _ | .update _ _ | .remove _ => false
  | _ => true

def Bridge.start (file : SealedFile) (cache : OAuthTokenCache) : Bridge :=
  ⟨file, [], TokenTasks.start cache⟩

section Steps
variable [Aead] [Hkdf] [StoreFormat] [FromStr TokenResponse]

/-- The refresh that the daemon runs for a task. -/
def served (q : Quarters) (registrationId : String) (io : OauthIo) (foreign : SealedFile) :
    OauthProgram :=
  match q.other with
  | none => oauthRefresh q.dir q.agentId registrationId io
  | some dir => .done ((oauthRefresh dir q.agentId registrationId io).exec foreign).1

variable [Ed25519]

def Bridge.step (q : Quarters) (s : Bridge) : BridgeEvent → Option Bridge
  | .request e => if ofProxy e then (s.proxy.step e).map fun proxy => { s with proxy } else none
  | .client call io =>
    some { s with methods := s.methods ++ [⟨call, io, call.program q.dir q.agentName io, none⟩] }
  | .serve i io foreign =>
    match s.proxy.tasks[i]? with
    | some (.asks id _) =>
      some { s with methods := s.methods ++ [⟨.refresh id, io, served q id io foreign, some i⟩] }
    | _ => none
  | .work k =>
    match s.methods[k]? with
    | some m => (m.program.advance s.file).map fun (program, file) =>
      { s with file, methods := s.methods.set k { m with program } }
    | none => none
  | .reply k =>
    match s.methods[k]? with
    | some ⟨.refresh id, _, .done outcome, some i⟩ =>
      match s.proxy.tasks[i]? with
      | some (.asks asked _) =>
        if asked = id then (s.proxy.step (.answer i (answered outcome))).map fun proxy => { s with proxy }
        else none
      | _ => none
    | _ => none
  | .lost i e => (s.proxy.step (.answer i (.error e))).map fun proxy => { s with proxy }

/-- What each event can do. -/
inductive Bridge.Effect (q : Quarters) (s : Bridge) : BridgeEvent → Bridge → Prop where
  | request (e : TaskEvent) (proxy : TokenTasks) (own : ofProxy e = true)
    (stepped : s.proxy.step e = some proxy) : Effect q s (.request e) { s with proxy }
  | client (call : OauthCall) (io : OauthIo) : Effect q s (.client call io)
      { s with methods := s.methods ++ [⟨call, io, call.program q.dir q.agentName io, none⟩] }
  | serve (i : Nat) (io : OauthIo) (foreign : SealedFile) (id : String) : Effect q s (.serve i io foreign)
      { s with methods := s.methods ++ [⟨.refresh id, io, served q id io foreign, some i⟩] }
  | work (k : Nat) (m : Serving) (program : OauthProgram) (file : SealedFile)
    (at_ : s.methods[k]? = some m) (advanced : m.program.advance s.file = some (program, file)) :
    Effect q s (.work k) { s with file, methods := s.methods.set k { m with program } }
  | reply (k : Nat) (id : String) (io : OauthIo) (outcome : Outcome Json) (i : Nat) (blocking : Bool)
    (proxy : TokenTasks) (at_ : s.methods[k]? = some ⟨.refresh id, io, .done outcome, some i⟩)
    (asks : s.proxy.tasks[i]? = some (.asks id blocking))
    (stepped : s.proxy.step (.answer i (answered outcome)) = some proxy) :
    Effect q s (.reply k) { s with proxy }
  | lost (i : Nat) (e : String) (proxy : TokenTasks)
    (stepped : s.proxy.step (.answer i (.error e)) = some proxy) : Effect q s (.lost i e) { s with proxy }

theorem Bridge.step_effect {q : Quarters} {s s' : Bridge} {e : BridgeEvent}
    (stepped : s.step q e = some s') : s.Effect q e s' := by
  cases e with
  | request e =>
    dsimp only [step] at stepped
    split at stepped
    · rename_i own
      obtain ⟨proxy, tasks, rfl⟩ := Option.map_eq_some_iff.mp stepped
      exact .request e proxy own tasks
    · cases stepped
  | client call io =>
    obtain rfl := Option.some.inj stepped
    exact .client call io
  | serve i io foreign =>
    dsimp only [step] at stepped
    split at stepped
    · obtain rfl := Option.some.inj stepped
      exact .serve i io foreign _
    · cases stepped
  | work k =>
    dsimp only [step] at stepped
    split at stepped
    · rename_i m at_
      obtain ⟨⟨program, file⟩, advanced, rfl⟩ := Option.map_eq_some_iff.mp stepped
      exact .work k m program file at_ advanced
    · cases stepped
  | reply k =>
    dsimp only [step] at stepped
    split at stepped
    · rename_i id io outcome i at_
      split at stepped
      · rename_i asked blocking asks
        split at stepped
        · rename_i same
          obtain ⟨proxy, tasks, rfl⟩ := Option.map_eq_some_iff.mp stepped
          rw [same] at asks
          exact .reply k id io outcome i blocking proxy at_ asks tasks
        · cases stepped
      · cases stepped
    · cases stepped
  | lost i e =>
    obtain ⟨proxy, tasks, rfl⟩ := Option.map_eq_some_iff.mp stepped
    exact .lost i e proxy tasks

end Steps

/-- A request after the first `n` tasks returns a token of the registration. -/
def Bridge.Injects (s : Bridge) (n : Nat) (id : String) (e : BridgeEvent) : Prop :=
  ∃ i token, n ≤ i ∧ e = .request (.ret i) ∧ s.proxy.tasks[i]? = some (.holds id token)

/-! ### What the methods keep -/

section Keep
variable [Aead] [Hkdf] [StoreFormat]

theorem loadOauthStore_named {dir : AgentDir} {name : String} {file : SealedFile} {fresh : Uuid}
    {opened : OAuthStore × Core.Bytes 32} (loaded : loadOauthStore dir name file fresh = .ok opened)
    (name' : String) : loadOauthStore dir name' file fresh = .ok opened := by
  unfold loadOauthStore at loaded ⊢
  cases agentPem : dir.agentPem with
  | absent =>
    rw [agentPem] at loaded
    cases loaded
  | unreadable e =>
    rw [agentPem] at loaded
    cases loaded
  | content pem =>
    rw [agentPem] at loaded
    cases file with
    | absent => exact loaded
    | unreadable e =>
      obtain ⟨key, _, loaded⟩ := bind_ok loaded
      cases loaded
    | content bytes => exact loaded

theorem holds_named {dir : AgentDir} {P : OAuthStore → Prop} {file : SealedFile}
    (name name' : String) :
    Holds dir name P file ↔ Holds dir name' P file :=
  ⟨fun holds fresh store key loaded => holds fresh store key (loadOauthStore_named loaded name),
    fun holds fresh store key loaded => holds fresh store key (loadOauthStore_named loaded name')⟩

/-- The store of the agent registers no such identifier. -/
def Lacking (q : Quarters) (id : String) : SealedFile → Prop :=
  Holds q.dir q.agentName (OAuthStore.Lacks id)

/-- The outcome brings no token of the registration to a task. -/
def Withholds (call : OauthCall) (task : Option Nat) (id : String) (outcome : Outcome Json) :
    Prop :=
  call = .refresh id → task.isSome = true → ∀ value, outcome ≠ .ok value

/-- The program leaves out the registration when it comes upon a store without it. -/
def Spares (q : Quarters) (id : String) (call : OauthCall) (task : Option Nat) :
    OauthProgram → Prop :=
  Program.Under (Lacking q id) (Withholds call task id)

variable [FromStr TokenResponse] {q : Quarters} {id : String}

theorem refresh_refused {dir : AgentDir} {name : String} {io : OauthIo} {file : SealedFile}
    (lacks : Holds dir name (OAuthStore.Lacks id) file) :
    ∃ fault, (oauthRefresh dir name id io).exec file = (.error fault, file) := by
  unfold oauthRefresh
  cases loaded : loadOauthStore dir name file io.fresh with
  | error e =>
    rw [withStore_error loaded]
    exact ⟨_, rfl⟩
  | ok opened =>
    rw [withStore_ok loaded]
    have missing : opened.1.getRegistration id = none := by
      rw [OAuthStore.getRegistration_none]
      exact lacks _ _ _ loaded
    rw [registered, missing]
    exact ⟨_, rfl⟩

theorem refresh_unidentified {dir : AgentDir} (absent : dir.agentPem = .absent)
    (name registrationId : String) (io : OauthIo) (file : SealedFile) :
    ((oauthRefresh dir name registrationId io).exec file).1 =
      .error (.error s!"Agent '{name}' identity not found") := by
  have missing : loadOauthStore dir name file io.fresh =
      .error s!"Agent '{name}' identity not found" := by
    rw [loadOauthStore, absent]
  unfold oauthRefresh
  rw [withStore_error missing]

/-- What is left of a revocation: all of it, what follows its read, or nothing that matters. -/
def Serving.Revoking (q : Quarters) (id : String) (m : Serving) : Prop :=
  m.program = oauthRevoke q.dir q.agentName id m.io ∨
    (m.program.Tail ∧ ∃ file, m.program.exec file = (oauthRevoke q.dir q.agentName id m.io).exec file) ∨
    m.program.Quiet

/-- What every method in a run is like. -/
structure Serving.Sound (q : Quarters) (m : Serving) : Prop where
  spares : ∀ id, ¬ m.call.Registers m.io id → m.program.Loads (Spares q id m.call m.task)
  revokes : ∀ id, m.call = .revoke id → m.Revoking q id

variable [Ed25519] (correct : Aead.Correct) (format : StoreFormat.RoundTrip)
include correct format

omit [FromStr TokenResponse] [Ed25519] in
theorem lacking_kept {name : String} {io : OauthIo} {call : OauthCall}
    (other : ¬ call.Registers io id) {file after : SealedFile}
    (outcomes : Outcomes q.dir name io call file after) (lacks : Lacking q id file) :
    Lacking q id after := by
  have named := (holds_named name q.agentName).mpr lacks
  exact (holds_named name q.agentName).mp
    (outcomes.holds correct format (fun _ _ changes => changes.absent other) named)

theorem client_sound (call : OauthCall) (io : OauthIo) :
    Serving.Sound q ⟨call, io, call.program q.dir q.agentName io, none⟩ := by
  constructor
  · intro id other
    refine program_loads (fun outcome _ waits => ?_) fun file after outcomes lacks => ?_
    · cases waits
    · exact lacking_kept correct format other outcomes lacks
  · rintro id rfl
    exact .inl rfl

/-- The refresh of the registration itself fails, that of another leaves it out. -/
theorem served_spares (registrationId : String) (io : OauthIo) (foreign : SealedFile) (i : Nat) :
    (served q registrationId io foreign).Loads (Spares q id (.refresh registrationId) (some i)) := by
  unfold served
  cases q.other with
  | some dir => trivial
  | none =>
    have single : Single (oauthRefresh q.dir q.agentId registrationId io) :=
      (program_single q.dir q.agentId io (.refresh registrationId)).resolve_left (by simp)
    by_cases own : registrationId = id
    · refine single_loads single (single_under single fun file lacks => ?_)
      rw [own]
      have lacks' := (holds_named q.agentId q.agentName).mpr lacks
      obtain ⟨fault, ran⟩ := refresh_refused lacks'
      rw [ran]
      exact ⟨fun _ _ value same => (by cases same), lacks⟩
    · have other : ¬ (OauthCall.refresh registrationId).Registers io id := not_false
      show ((OauthCall.refresh registrationId).program q.dir q.agentId io).Loads _
      refine program_loads (fun outcome same => ?_) fun file after outcomes lacks => ?_
      · exact absurd (OauthCall.refresh.inj same) own
      · exact lacking_kept correct format other outcomes lacks

theorem served_sound (registrationId : String) (io : OauthIo) (foreign : SealedFile) (i : Nat) :
    Serving.Sound q ⟨.refresh registrationId, io, served q registrationId io foreign, some i⟩ :=
  ⟨fun _ _ => served_spares correct format registrationId io foreign i, fun _ same => (by cases same)⟩

omit correct format in
theorem advance_sound {m : Serving} (sound : m.Sound q) {program : OauthProgram}
    {file file' : SealedFile} (advanced : m.program.advance file = some (program, file')) :
    Serving.Sound q { m with program } := by
  refine ⟨fun id other => (sound.spares id other).advance advanced, fun id revoke => ?_⟩
  have single : Single (oauthRevoke q.dir q.agentName id m.io) :=
    (program_single q.dir q.agentName m.io (.revoke id)).resolve_left (by simp)
  obtain ⟨next, begins, tails⟩ := single
  have whole := sound.revokes id revoke
  unfold Serving.Revoking at whole ⊢
  rw [begins] at whole ⊢
  dsimp only
  generalize m.program = before at advanced whole
  rcases whole with rfl | ⟨tail, read, same⟩ | quiet
  · obtain ⟨rfl, rfl⟩ := Prod.mk.inj (Option.some.inj advanced)
    exact .inr (.inl ⟨tails file, file, rfl⟩)
  · cases before with
    | done a => cases advanced
    | load rest => exact tail.elim
    | wait rest =>
      obtain ⟨rfl, _⟩ := Prod.mk.inj (Option.some.inj advanced)
      exact .inr (.inl ⟨tail, read, same⟩)
    | save content rest =>
      obtain ⟨rfl, _⟩ := Prod.mk.inj (Option.some.inj advanced)
      exact .inr (.inr tail)
  · cases before with
    | done a => cases advanced
    | load rest => exact quiet.elim
    | wait rest =>
      obtain ⟨rfl, _⟩ := Prod.mk.inj (Option.some.inj advanced)
      exact .inr (.inr quiet)
    | save content rest => exact quiet.elim

omit [FromStr TokenResponse] [Ed25519] in
/-- The registration itself is missing in what a revocation writes. -/
theorem revoking_lacks {m : Serving} {r : String} (sound : m.Sound q) (revoke : m.call = .revoke r)
    {content : SealedFile} {value : Json} (saves : m.program = .save content (.done (.ok value))) :
    Lacking q r content := by
  rcases sound.revokes r revoke with original | ⟨_, read, same⟩ | quiet
  · rw [saves] at original
    cases original
  · rw [saves] at same
    exact revoke_ok correct format same.symm
  · rw [saves] at quiet
    exact quiet.elim

end Keep

/-! ### Every run -/

section Run
variable [Aead] [Hkdf] [StoreFormat] [FromStr TokenResponse] [Ed25519] {q : Quarters} {s s' : Bridge}
  {id : String} {time : DateTime} {n : Nat}

/-- What every state of a run is like. -/
structure Bridge.Sound (q : Quarters) (s : Bridge) : Prop where
  methods : ∀ m ∈ s.methods, m.Sound q
  bound : s.proxy.Bound

theorem Bridge.step_sound (correct : Aead.Correct) (format : StoreFormat.RoundTrip)
    {e : BridgeEvent} (sound : s.Sound q) (stepped : s.step q e = some s') : s'.Sound q := by
  obtain ⟨methods, bound⟩ := sound
  cases step_effect stepped with
  | request e proxy own tasks => exact ⟨methods, TokenTasks.step_bound bound tasks⟩
  | client call io =>
    refine ⟨fun m member => ?_, bound⟩
    rcases List.mem_append.mp member with old | new
    · exact methods m old
    · rw [List.mem_singleton.mp new]
      exact client_sound correct format call io
  | serve i io foreign id =>
    refine ⟨fun m member => ?_, bound⟩
    rcases List.mem_append.mp member with old | new
    · exact methods m old
    · rw [List.mem_singleton.mp new]
      exact served_sound correct format id io foreign i
  | work k m program file at_ advanced =>
    refine ⟨fun m' member => ?_, bound⟩
    rcases List.mem_or_eq_of_mem_set member with old | rfl
    · exact methods m' old
    · exact advance_sound (methods m (List.mem_of_getElem? at_)) advanced
  | reply k id io outcome i blocking proxy at_ asks tasks =>
    exact ⟨methods, TokenTasks.step_bound bound tasks⟩
  | lost i e proxy tasks => exact ⟨methods, TokenTasks.step_bound bound tasks⟩

theorem Bridge.run_sound (correct : Aead.Correct) (format : StoreFormat.RoundTrip)
    {file : SealedFile} {cache : OAuthTokenCache} {events : List BridgeEvent}
    (ran : Run (Bridge.step q) (Bridge.start file cache) events = some s) : s.Sound q := by
  have kept : ∀ (t : Bridge) (e : BridgeEvent) (t' : Bridge), t.Sound q → True →
      t.step q e = some t' →
      t'.Sound q :=
    fun _ _ _ sound _ stepped => step_sound correct format sound stepped
  have start : (Bridge.start file cache).Sound q :=
    ⟨fun m member => absurd member List.not_mem_nil, TokenTasks.start_bound cache⟩
  exact Run.preserves kept start (fun _ _ => trivial) ran

/-- From a time on, with the registration not made anew. -/
def BridgeEvent.After (id : String) (time : DateTime) : BridgeEvent → Prop
  | .request (.look _ now _) => time ≤ now
  | .client call io => ¬ call.Registers io id
  | _ => True

/-- The registration is gone, and so are its tokens but for those that requests among the first `n`
tasks hold. -/
structure Bridge.Spent (q : Quarters) (id : String) (time : DateTime) (n : Nat) (s : Bridge) :
    Prop where
  lacks : Lacking q id s.file
  methods : ∀ m ∈ s.methods, Spares q id m.call m.task m.program
  proxy : s.proxy.Spent id time n

/-- No other agent has its directory under the identifier. -/
def Quarters.Alone (q : Quarters) : Prop := ∀ dir, q.other = some dir → dir.agentPem = .absent

theorem served_idle (alone : q.Alone) (registrationId : String) (io : OauthIo)
    (foreign : SealedFile) (i : Nat) :
    (served q registrationId io foreign).Idle (Withholds (.refresh registrationId) (some i) id) := by
  unfold served
  cases there : q.other with
  | none => exact program_idle q.dir q.agentId io (.refresh registrationId) _
  | some dir =>
    dsimp only [Program.Idle]
    rw [refresh_unidentified (alone dir there)]
    exact fun _ _ value same => (by cases same)

theorem Bridge.step_spent (correct : Aead.Correct) (format : StoreFormat.RoundTrip)
    (alone : q.Alone) {e : BridgeEvent} (spent : s.Spent q id time n) (after : e.After id time)
    (stepped : s.step q e = some s') : s'.Spent q id time n := by
  obtain ⟨lacks, methods, proxy⟩ := spent
  cases step_effect stepped with
  | request e tokens own tasks =>
    refine ⟨lacks, methods, TokenTasks.step_spent proxy ?_ tasks⟩
    cases e with
    | look i now later => exact after
    | answer i result => cases own
    | update other token => cases own
    | _ => trivial
  | client call io =>
    refine ⟨lacks, fun m member => ?_, proxy⟩
    rcases List.mem_append.mp member with old | new
    · exact methods m old
    · rw [List.mem_singleton.mp new]
      exact ((client_sound correct format call io).spares id after).under (program_idle _ _ _ _ _)
  | serve i io foreign other =>
    refine ⟨lacks, fun m member => ?_, proxy⟩
    rcases List.mem_append.mp member with old | new
    · exact methods m old
    · rw [List.mem_singleton.mp new]
      exact (served_spares correct format other io foreign i).under (served_idle alone other io foreign i)
  | work k m program file at_ advanced =>
    obtain ⟨under, lacks'⟩ := (methods m (List.mem_of_getElem? at_)).advance lacks advanced
    refine ⟨lacks', fun m' member => ?_, proxy⟩
    rcases List.mem_or_eq_of_mem_set member with old | rfl
    · exact methods m' old
    · exact under
  | reply k other io outcome i blocking tokens at_ asks tasks =>
    refine ⟨lacks, methods, TokenTasks.step_spent proxy ?_ tasks⟩
    rintro ⟨blocking', at'⟩ token accepted
    obtain ⟨rfl, _⟩ := TokenTask.asks.inj (Option.some.inj (asks.symm.trans at'))
    have withholds : Withholds (.refresh other) (some i) other outcome :=
      methods _ (List.mem_of_getElem? at_)
    cases outcome with
    | ok value => exact withholds rfl rfl value rfl
    | error fault => cases accepted
  | lost i e tokens tasks =>
    refine ⟨lacks, methods, TokenTasks.step_spent proxy ?_ tasks⟩
    intro _ token same
    cases same

omit [FromStr TokenResponse] [Ed25519] in
/-- The requests that come later get none. -/
theorem Bridge.Spent.none_injected {s : Bridge} (spent : s.Spent q id time n) (e : BridgeEvent) :
    ¬ s.Injects n id e := by
  rintro ⟨i, token, late, _, at_⟩
  have early : i < n := spent.proxy.fine i _ at_ rfl
  omega

/-- How a revocation, the method `k`, has to find the rest: the cached tokens have expired, none is
on its way into the cache, and no method that has read the store is still to write it or to answer
the proxy. -/
structure Bridge.Settled (k : Nat) (id : String) (time : DateTime) (s : Bridge) : Prop where
  expired : s.proxy.Expired id time
  unrenewed : ∀ token blocking, .renews id token blocking ∉ s.proxy.tasks
  idle : ∀ j m, j ≠ k → s.methods[j]? = some m →
    ¬ m.call.Registers m.io id ∧ m.program.Idle (Withholds m.call m.task id)

omit [Aead] [Hkdf] [StoreFormat] [FromStr TokenResponse] [Ed25519] in
theorem Bridge.Settled.fine {k : Nat} (settled : s.Settled k id time) :
    s.proxy.AllFine id s.proxy.tasks.length := by
  intro i task at_
  cases task with
  | renews other token blocking =>
    rintro rfl
    exact settled.unrenewed token blocking (List.mem_of_getElem? at_)
  | holds other token => exact fun _ => (List.getElem?_eq_some_iff.mp at_).1
  | _ => trivial

omit [FromStr TokenResponse] [Ed25519] in
/-- A revocation that has written leaves out the registration. -/
theorem Bridge.Sound.revoked {k : Nat} {content : SealedFile} (sound : s.Sound q) (r : String)
    (io : OauthIo) (value : Json) (lacks : Lacking q id content)
    (settled : s.Settled k id time) :
    Bridge.Spent q id time s.proxy.tasks.length
      { s with file := content, methods := s.methods.set k ⟨.revoke r, io, .done (.ok value), none⟩ } := by
  refine ⟨lacks, fun m member => ?_, sound.bound, settled.expired, settled.fine⟩
  obtain ⟨j, at_⟩ := List.mem_iff_getElem?.mp member
  rw [List.getElem?_set] at at_
  split at at_
  · split at at_
    · obtain rfl := Option.some.inj at_
      exact fun same => (by cases same)
    · cases at_
  · rename_i other
    obtain ⟨new, idle⟩ := settled.idle j m (Ne.symm other) at_
    exact ((sound.methods m (List.mem_of_getElem? at_)).spares id new).under idle

/-- After a revocation that finds the rest settled no later request gets a token of the registration
or of one that the revocation has removed with it. -/
theorem revocation_reaches (correct : Aead.Correct) (format : StoreFormat.RoundTrip)
    (alone : q.Alone) {file content : SealedFile} {cache : OAuthTokenCache}
    {before events : List BridgeEvent} {k : Nat} {r : String} {io : OauthIo} {value : Json}
    (ran : Run (Bridge.step q) (Bridge.start file cache) before = some s)
    (saves : s.methods[k]? = some ⟨.revoke r, io, .save content (.done (.ok value)), none⟩)
    (returns : s.step q (.work k) = some s') (removed : id = r ∨ Lacking q id content)
    (settled : s.Settled k id time) (after : ∀ e ∈ events, e.After id time) :
    Run.Each (Bridge.step q) (fun t e => ¬ t.Injects s'.proxy.tasks.length id e) s' events := by
  have sound := Bridge.run_sound correct format ran
  have lacks : Lacking q id content := by
    rcases removed with rfl | removed
    · exact revoking_lacks correct format (sound.methods _ (List.mem_of_getElem? saves)) rfl rfl
    · exact removed
  have spent := sound.revoked r io value lacks settled
  simp only [Bridge.step, saves, Program.advance, Option.map_some, Option.some.injEq] at returns
  subst returns
  exact Run.each_of (fun t e spent _ => spent.none_injected e)
    (fun t e t' spent after stepped => Bridge.step_spent correct format alone spent after stepped) spent after

theorem Bridge.request_step {e : TaskEvent} {proxy : TokenTasks} (own : ofProxy e = true)
    (stepped : s.proxy.step e = some proxy) : s.step q (.request e) = some { s with proxy } := by
  dsimp only [step]
  rw [if_pos own, stepped, Option.map_some]

theorem Bridge.request_run {events : List TaskEvent} {proxy : TokenTasks}
    (own : ∀ e ∈ events, ofProxy e = true) (ran : Run TokenTasks.step s.proxy events = some proxy) :
    Run (Bridge.step q) s (events.map .request) = some { s with proxy } := by
  induction events generalizing s with
  | nil =>
    obtain rfl := Option.some.inj ran
    rfl
  | cons e events ih =>
    obtain ⟨next, stepped, rest⟩ := Run.cons_some ran
    refine Run.cons (request_step (own e List.mem_cons_self) stepped) ?_
    exact ih (s := { s with proxy := next }) (fun e member => own e (List.mem_cons_of_mem _ member)) rest

/-- As long as a cached token of a bound registration has not expired, the next request gets it. -/
theorem Bridge.cached_injected {domain : String} {binding : OAuthDomainBinding}
    {token : CachedOAuthToken} {refresh : Bool} {now later : DateTime}
    (found : s.proxy.cache.findBinding domain = some binding)
    (looked : s.proxy.cache.lookUp binding.registrationId now later = .found token refresh) :
    let i := s.proxy.tasks.length
    ¬ Run.Each (Bridge.step q) (fun t e => ¬ t.Injects i binding.registrationId e) s
      ([TaskEvent.call domain, .bind i, .look i now later, .ret i].map .request) := by
  intro i each
  obtain ⟨proxy, ran, holds⟩ := TokenTasks.run_call found looked
  have ran := request_run (q := q) (by simp [ofProxy]) ran
  have returns : proxy.step (.ret i) = some (proxy.put i .ended) := by
    simp only [TokenTasks.step, TokenTasks.finish, i, holds]
  have injects := Run.each_last each ran (request_step (s := { s with proxy }) rfl returns)
  exact injects ⟨i, token, Nat.le_refl i, rfl, holds⟩

end Run

/-! ### A revocation beside a cached token -/

section Started
variable [Aead] [Hkdf] [StoreFormat]

/-- The agent was started from its store with the cache. -/
def Quarters.Starts (q : Quarters) (file : SealedFile) (cache : OAuthTokenCache) : Prop :=
  ∃ (config : AgentConfig) (launch : Launch) (port : UInt16) (server : ProxyServer),
    config.name = q.agentName ∧ config.agentId.toText = q.agentId ∧
      launch.agentPem = q.dir.agentPem ∧ launch.oauthStore = file ∧
      startProxy config launch = .ok (some (port, server)) ∧ server.oauth = some cache

variable [FromStr TokenResponse] [Ed25519] {q : Quarters}

/-- A revocation alone in its run, up to its write. -/
theorem Bridge.revoke_run {file : SealedFile} {cache : OAuthTokenCache} {r : String} {io : OauthIo}
    {next : SealedFile → OauthProgram} {written : OauthProgram}
    (program : (OauthCall.revoke r).program q.dir q.agentName io = .load next)
    (reads : next file = .wait written) :
    Run (Bridge.step q) (Bridge.start file cache) [.client (.revoke r) io, .work 0, .work 0] =
      some ⟨file, [⟨.revoke r, io, written, none⟩], TokenTasks.start cache⟩ := by
  have begins : (Bridge.start file cache).step q (.client (.revoke r) io) =
      some ⟨file, [⟨.revoke r, io, .load next, none⟩], TokenTasks.start cache⟩ := by
    rw [← program]
    rfl
  refine Run.cons begins (Run.cons rfl ?_)
  rw [reads]
  rfl

end Started

namespace StandIn
open Core.StandIn

def scout : Quarters := ⟨agentDir, "scout", nilText, none⟩

/-- A started agent with a bound registration before and after the write of a revocation. -/
theorem scout_revokes (tokens : StoredOAuthTokens) (own : tokens.registrationId = "mail") :
    letI := tokenResponses
    ∃ file content value, ∃ s s' : Bridge, scout.Starts file (boundCache tokens "scout") ∧
      Run (Bridge.step scout) (Bridge.start file (boundCache tokens "scout"))
        [.client (.revoke "mail") oauthIo, .work 0, .work 0] = some s ∧
      s.methods = [⟨.revoke "mail", oauthIo, .save content (.done (.ok value)), none⟩] ∧
      s.step scout (.work 0) = some s' ∧ s.proxy = TokenTasks.start (boundCache tokens "scout") ∧
      s'.proxy = s.proxy := by
  let := tokenResponses
  obtain ⟨bytes, saved⟩ := boundStore_bytes tokens
  have started : scout.Starts (.content bytes) (boundCache tokens "scout") :=
    ⟨config "scout", boundLaunch bytes, 0, agentServer (config "scout") (boundLaunch bytes) seed,
      rfl, by decide,
      rfl, rfl, boundLaunch_starts "scout" bytes, boundCache_loaded tokens "scout" saved⟩
  have loaded : loadOauthStore agentDir "scout" (.content bytes) Uuid.nil =
      .ok (boundStore tokens, seed) :=
    loadOauthStore_save aead_correct storeFormat_roundTrip (agentDir_loads "scout") saved Uuid.nil
  have own : tokens.registrationId = boundMail.id := own
  obtain ⟨next, content, value, program, reads⟩ := lone_revoke own rfl loaded
  have ran : Run (Bridge.step scout) (Bridge.start (.content bytes) (boundCache tokens "scout")) _ = some _ :=
    Bridge.revoke_run program reads
  exact ⟨.content bytes, .content content, value, _, _, started, ran, rfl, rfl, rfl, rfl⟩

theorem scout_alone : scout.Alone := by
  intro dir there
  cases there

/-- The cached token has expired at the time of the revocation. -/
theorem revocation_reaches_scout :
    letI := tokenResponses
    ∃ s s' : Bridge, s.step scout (.work 0) = some s' ∧
      Run.Each (Bridge.step scout) (fun t e => ¬ t.Injects s'.proxy.tasks.length "mail" e) s'
        [.request (.call "mail.example"), .request (.bind 0), .request (.look 0 0 0), .lost 0 "refused"] := by
  let := tokenResponses
  obtain ⟨file, content, value, s, s', _, ran, methods, returns, proxy, _⟩ :=
    scout_revokes mailTokens rfl
  have saves : s.methods[0]? = some ⟨.revoke "mail", oauthIo, .save content (.done (.ok value)), none⟩ := by
    rw [methods]
    rfl
  have settled : s.Settled 0 "mail" 0 := by
    refine ⟨fun _ token held => ?_, fun token blocking member => ?_, fun j m other at_ => ?_⟩
    · rw [proxy] at held
      rw [← Option.some.inj held]
      decide
    · rw [proxy] at member
      cases member
    · rw [methods] at at_
      cases j with
      | zero => exact absurd rfl other
      | succ j => cases at_
  refine ⟨s, s', returns, ?_⟩
  refine revocation_reaches aead_correct storeFormat_roundTrip scout_alone ran saves returns
    (.inl rfl) settled ?_
  simp [BridgeEvent.After]

/-- A cached token that has not expired is still injected after the revocation. -/
theorem revoked_injected :
    letI := tokenResponses
    ¬ ∀ (q : Quarters) (file content : SealedFile) (cache : OAuthTokenCache)
      (before events : List BridgeEvent) (s s' : Bridge) (k : Nat) (r id : String) (io : OauthIo)
      (value : Json), q.Starts file cache →
      Run (Bridge.step q) (Bridge.start file cache) before = some s →
      s.methods[k]? = some ⟨.revoke r, io, .save content (.done (.ok value)), none⟩ →
      s.step q (.work k) = some s' → (id = r ∨ Lacking q id content) →
      Run.Each (Bridge.step q) (fun t e => ¬ t.Injects s'.proxy.tasks.length id e) s' events := by
  let := tokenResponses
  intro reaches
  obtain ⟨file, content, value, s, s', started, ran, methods, returns, proxy, kept⟩ :=
    scout_revokes renewed rfl
  have saves : s.methods[0]? = some ⟨.revoke "mail", oauthIo, .save content (.done (.ok value)), none⟩ := by
    rw [methods]
    rfl
  have each (events : List BridgeEvent) :=
    reaches scout file content _ _ events s s' 0 "mail" "mail" oauthIo value started ran saves
      returns (.inl rfl)
  have cache : s'.proxy.cache = boundCache renewed "scout" := by
    rw [kept, proxy]
    rfl
  have found : s'.proxy.cache.findBinding "mail.example" = some ⟨"mail.example", "mail", []⟩ := by
    rw [cache]
    rfl
  have looked : s'.proxy.cache.lookUp "mail" 0 0 = .found ⟨"new", 3600, [], "p", "mail"⟩ false := by
    rw [cache]
    rfl
  exact Bridge.cached_injected found looked (each _)

end StandIn
end GrokingClawId.Daemon
