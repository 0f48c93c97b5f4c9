import GrokingClawId.Daemon.Ipc
import GrokingClawId.Lib.JsonLine

/-!
# What the IPC server answers

Every answer carries the identifier of its request and either a result or an error, and is written on
one line. Requests that are refused reach no method of the daemon.
-/

namespace GrokingClawId.Daemon.Ipc
open GrokingClawId.Core Text Json

/-! ### Values -/

theorem agentInfo_wellFormed [Chrono] (info : AgentInfo) : info.toValue.WellFormed := by
  refine wellFormed_obj
    (show ["agent_id", "allowed_scopes", "created_at", "did", "name", "pid", "restart_count",
    "started_at", "status", "template"].Nodup by decide) ?_
  exact ⟨.str _, wellFormed_strings _, .str _, wellFormed_ofOption .str _, .str _,
    wellFormed_ofOption (fun pid : Nat => wellFormed_nat pid) _, wellFormed_nat _,
    wellFormed_ofOption (fun _ => .str _) _, .str _, .str _⟩

theorem agentList_wellFormed [Chrono] (agents : List AgentInfo) :
    (arr (agents.map AgentInfo.toValue)).WellFormed := by
  refine .arr fun v member => ?_
  obtain ⟨info, _, rfl⟩ := List.mem_map.mp member
  exact agentInfo_wellFormed info

theorem maxValue_wellFormed (max : Option UInt32) : (maxValue max).WellFormed :=
  wellFormed_ofOption (fun n : UInt32 => wellFormed_nat n.toNat) max

theorem meshValue_wellFormed [Chrono] (state : MeshState) : (meshValue state).WellFormed := by
  cases state with
  | disconnected => exact wellFormed_obj (show ["state"].Nodup by decide) (.str _)
  | connecting => exact wellFormed_obj (show ["state"].Nodup by decide) (.str _)
  | connected meshIp peers connectedAt =>
    refine wellFormed_obj (show ["connected_at", "mesh_ip", "peer_count", "state"].Nodup by decide) ?_
    exact ⟨.str _, .str _, wellFormed_nat _, .str _⟩

theorem peerValue_wellFormed [Chrono] (peer : MeshPeer) : (peerValue peer).WellFormed := by
  refine wellFormed_obj (show ["agent_count", "did", "last_seen", "mesh_ip", "name"].Nodup by decide) ?_
  exact ⟨wellFormed_nat peer.agentCount.toNat, .str _, .str _, .str _, .str _⟩

theorem templateValue_wellFormed (template : TemplateEntry) :
    (templateValue template).WellFormed := by
  refine wellFormed_obj (show ["description", "has_manifest", "name", "version"].Nodup by decide) ?_
  exact ⟨.str _, .bool _, .str _, .str _⟩

theorem birthValue_wellFormed [Chrono] (result : BirthResult) : (birthValue result).WellFormed := by
  have info := agentInfo_wellFormed result.agentInfo
  obtain ⟨fields, value, keys⟩ : ∃ fields, result.agentInfo.toValue = .obj fields ∧
      fields.map Prod.fst =
      ["agent_id", "allowed_scopes", "created_at", "did", "name", "pid", "restart_count", "started_at",
        "status", "template"] := ⟨_, rfl, rfl⟩
  rw [value] at info
  cases info with
  | obj _ values =>
    rw [birthValue, value]
    have sorted := sortByKey_perm (fields ++ [("birth_mode", .str (BirthMode.serialize result.birthMode))] ++
      (result.certificate.map fun certificate =>
        ("certificate_id", Json.str certificate.certificateId)).toList)
    refine .obj ?_ fun field member => ?_
    · rw [(sorted.map Prod.fst).nodup_iff, List.map_append, List.map_append, keys]
      cases result.certificate with
      | none => exact show (_ ++ ["birth_mode"] ++ []).Nodup by decide
      | some certificate => exact show (_ ++ ["birth_mode"] ++ ["certificate_id"]).Nodup by decide
    · rcases List.mem_append.mp ((sorted.mem_iff).mp member) with front | certificate
      · rcases List.mem_append.mp front with own | mode
        · exact values field own
        · rw [List.mem_singleton.mp mode]
          exact .str _
      · obtain ⟨_, _, rfl⟩ := Option.map_eq_some_iff.mp (Option.mem_toList.mp certificate)
        exact .str _

/-! ### Replies -/

def Reply.Sound : Reply → Prop
  | .ok value => value.WellFormed
  | .error _ => True

/-- The methods whose results are passed on return JSON values. -/
structure Handlers.Sound {D : Type} (handlers : Handlers (Task D)) : Prop where
  anchorStatus : handlers.anchorStatus.Always fun value => ∀ v, value = some v → v.WellFormed
  queryAudit : ∀ name last verify, (handlers.queryAudit name last verify).Always fun r =>
    ∀ v, r = .ok v → v.WellFormed
  getTemplate : ∀ name, (handlers.getTemplate name).Always fun r => ∀ v, r = .ok (some v) → v.WellFormed
  ping : ∀ mesh, handlers.mesh = some mesh → ∀ did, (mesh.ping did).Always fun r =>
    ∀ v, r = .ok v → v.WellFormed
  updates : handlers.updateChecker.Always fun found => ∀ checker, found = some checker →
    (checker.check.Always fun r => ∀ v, r = .ok v → v.WellFormed) ∧
      checker.getStatus.Always fun updates => ∀ v ∈ updates, v.WellFormed
  oauthRegister : ∀ agent params, (handlers.oauth.register agent params).Always fun r =>
    ∀ v, r = .ok v → v.WellFormed
  oauthAuthorize : ∀ agent id, (handlers.oauth.authorize agent id).Always fun r =>
    ∀ v, r = .ok v → v.WellFormed
  oauthCallback : ∀ agent id code verifier uri,
    (handlers.oauth.callback agent id code verifier uri).Always fun r => ∀ v, r = .ok v → v.WellFormed
  oauthRefresh : ∀ agent id, (handlers.oauth.refresh agent id).Always fun r => ∀ v, r = .ok v → v.WellFormed
  oauthRevoke : ∀ agent id, (handlers.oauth.revoke agent id).Always fun r => ∀ v, r = .ok v → v.WellFormed
  oauthList : ∀ agent, (handlers.oauth.list agent).Always fun r => ∀ v, r = .ok v → v.WellFormed
  oauthStatus : ∀ agent id, (handlers.oauth.status agent id).Always fun r => ∀ v, r = .ok v → v.WellFormed
  oauthExchange : ∀ agent id, (handlers.oauth.exchange agent id).Always fun r => ∀ v, r = .ok v → v.WellFormed

section Sound
variable {D : Type}

theorem answer_sound {α : Type} {label : String} {value : α → Json}
    (all : ∀ a, (value a).WellFormed) (t : Task D (Except String α)) :
    (answer label value <$> t).Always Reply.Sound := by
  rw [Task.always_map]
  refine Task.always_of_forall (fun result => ?_) t
  cases result with
  | ok a => exact all a
  | error e => trivial

theorem answer_passed {label : String} {t : Task D (Except String Json)}
    (always : t.Always fun r => ∀ v, r = .ok v → v.WellFormed) :
    (answer label (fun value => value) <$> t).Always Reply.Sound := by
  rw [Task.always_map]
  refine always.mono fun result passed => ?_
  cases result with
  | ok v => exact passed v rfl
  | error e => trivial

theorem bridged_sound {on : Bool} {refusal label : String} {t : Task D (Except String Json)}
    (always : t.Always fun r => ∀ v, r = .ok v → v.WellFormed) :
    (bridged on refusal label t).Always Reply.Sound := by
  unfold bridged
  split
  · trivial
  · exact answer_passed always

/-- A reply that depends on what a method of the daemon returned. -/
theorem then_sound {A : Type} {t : Task D A} {next : A → Task D Reply}
    (all : ∀ a, (next a).Always Reply.Sound) : (t >>= next).Always Reply.Sound :=
  Task.always_do.mpr (Task.always_of_forall all t)

variable [Chrono] {handlers : Handlers (Task D)}

theorem status_sound (sound : handlers.Sound) : (status handlers).Always Reply.Sound := by
  have assembled : ∀ agents : List AgentInfo, ∀ mesh : Json, mesh.WellFormed →
      ((handlers.anchorStatus >>= fun anchor => handlers.loadLicense >>= fun lic =>
        handlers.countAgents >>= fun count => handlers.uptimeSeconds >>= fun uptime =>
        pure (.ok (.obj
          [("agents", .arr (agents.map AgentInfo.toValue)), ("agents_count", .num (toString agents.length)),
            ("anchor", anchor.getD (.obj [("enabled", .bool false)])), ("daemon", .str "running"),
            ("license", .obj [("agent_count", .num (toString count)),
              ("max_agents", maxValue lic.limits.maxAgents),
              ("tier", .str lic.tier.display)]),
            ("mesh", mesh), ("uptime_seconds", .num (toString uptime)), ("version", .str "0.4.1")])))
        : Task D Reply).Always Reply.Sound := by
    intro agents mesh meshSound
    refine Task.always_do.mpr (sound.anchorStatus.mono fun anchor anchorSound => ?_)
    refine then_sound fun lic => then_sound fun count => then_sound fun uptime => ?_
    have anchorValue : (anchor.getD (.obj [("enabled", .bool false)])).WellFormed := by
      cases anchor with
      | none => exact wellFormed_obj (show ["enabled"].Nodup by decide) (.bool _)
      | some v => exact anchorSound v rfl
    have license :
        (Json.obj [("agent_count", .num (toString count)), ("max_agents", maxValue lic.limits.maxAgents),
        ("tier", .str lic.tier.display)]).WellFormed :=
      wellFormed_obj (show ["agent_count", "max_agents", "tier"].Nodup by decide)
        ⟨wellFormed_nat _, maxValue_wellFormed _, .str _⟩
    exact wellFormed_obj
      (show ["agents", "agents_count", "anchor", "daemon", "license", "mesh", "uptime_seconds",
      "version"].Nodup by decide)
      ⟨agentList_wellFormed agents, wellFormed_nat _, anchorValue, .str _, license, meshSound,
        wellFormed_nat _, .str _⟩
  refine then_sound fun agents => ?_
  cases handlers.mesh with
  | none => exact assembled agents _ (wellFormed_obj (show ["state"].Nodup by decide) (.str _))
  | some mesh =>
    refine Task.always_do.mpr (Task.always_map.mpr (Task.always_of_forall (fun state => ?_) mesh.status))
    exact assembled agents _ (meshValue_wellFormed state)

theorem agentsGet_sound (params : Json) : (agentsGet handlers params).Always Reply.Sound := by
  refine then_sound fun found => ?_
  cases found with
  | none => trivial
  | some info => exact agentInfo_wellFormed info

theorem birth_sound [FromValue (List String)] [FromValue ModelConfig] [FromValue ResourceConfig]
    (params : Json) :
    (birth handlers params).Always Reply.Sound := by
  unfold birth
  split
  · trivial
  · exact answer_sound birthValue_wellFormed _

theorem mesh_sound (sound : handlers.Sound) (params : Json) :
    (meshStatusCall handlers).Always Reply.Sound ∧ (meshConnect handlers).Always Reply.Sound ∧
      (meshDisconnect handlers).Always Reply.Sound ∧ (meshPeers handlers).Always Reply.Sound ∧
      (meshPing handlers params).Always Reply.Sound := by
  have word (text : String) : (Json.obj [("status", .str text)]).WellFormed :=
    wellFormed_obj (show ["status"].Nodup by decide) (.str _)
  have peers (peers : List MeshPeer) : (Json.obj [("peers", .arr (peers.map peerValue))]).WellFormed := by
    refine wellFormed_obj (show ["peers"].Nodup by decide) (.arr fun v member => ?_)
    obtain ⟨peer, _, rfl⟩ := List.mem_map.mp member
    exact peerValue_wellFormed peer
  have ping := sound.ping
  unfold meshStatusCall meshConnect meshDisconnect meshPeers meshPing
  cases found : handlers.mesh with
  | none =>
    refine ⟨?_, trivial, trivial, peers [], ?_⟩
    · exact wellFormed_obj (show ["message", "state"].Nodup by decide) ⟨.str _, .str _⟩
    · dsimp only
      split <;> trivial
  | some mesh =>
    refine ⟨?_, answer_sound (fun _ => word _) _, answer_sound (fun _ => word _) _, answer_sound peers _, ?_⟩
    · exact Task.always_map.mpr (Task.always_of_forall meshValue_wellFormed mesh.status)
    · dsimp only
      split
      · trivial
      · exact answer_passed (ping mesh found _)

omit [Chrono] in
theorem templates_sound (sound : handlers.Sound) (params : Json) :
    (templatesList handlers).Always Reply.Sound ∧
    (templatesInspect handlers params).Always Reply.Sound ∧
      (templatesInstall handlers params).Always Reply.Sound ∧
      (templatesCreate handlers params).Always Reply.Sound := by
  refine ⟨answer_sound (fun templates => ?_) _, ?_, ?_, ?_⟩
  · refine wellFormed_obj (show ["templates"].Nodup by decide) (.arr fun v member => ?_)
    obtain ⟨template, _, rfl⟩ := List.mem_map.mp member
    exact templateValue_wellFormed template
  · unfold templatesInspect
    dsimp only
    split
    · trivial
    · refine Task.always_do.mpr ((sound.getTemplate _).mono fun found passed => ?_)
      rcases found with _ | (_ | manifest)
      · trivial
      · trivial
      · exact passed manifest rfl
  · unfold templatesInstall
    dsimp only
    split
    · trivial
    · refine answer_sound (fun _ => ?_) _
      exact wellFormed_obj (show ["status", "template", "version"].Nodup by decide) ⟨.str _, .str _, .str _⟩
  · unfold templatesCreate
    dsimp only
    split
    · trivial
    · refine answer_sound (fun _ => ?_) _
      exact wellFormed_obj (show ["status", "template"].Nodup by decide) ⟨.str _, .str _⟩

omit [Chrono] in
theorem auditQuery_sound (sound : handlers.Sound) (params : Json) :
    (auditQuery handlers params).Always Reply.Sound := by
  unfold auditQuery
  dsimp only
  split
  · trivial
  · exact answer_passed (sound.queryAudit _ _ _)

omit [Chrono] in
theorem update_sound (sound : handlers.Sound) :
    (updateCheck handlers).Always Reply.Sound ∧ (updateApply handlers).Always Reply.Sound ∧
      (updateStatus handlers).Always Reply.Sound := by
  have empty : (Json.arr []).WellFormed := .arr fun v member => nomatch member
  refine ⟨Task.always_do.mpr (sound.updates.mono fun found checks => ?_), then_sound fun found => ?_,
    Task.always_do.mpr (sound.updates.mono fun found checks => ?_)⟩
  · cases found with
    | none => exact wellFormed_obj (show ["available_updates", "message"].Nodup by decide) ⟨empty, .str _⟩
    | some checker => exact answer_passed (checks checker rfl).1
  · cases found with
    | none => trivial
    | some checker =>
      refine answer_sound (fun applied => ?_) _
      exact wellFormed_obj (show ["applied", "count"].Nodup by decide)
        ⟨wellFormed_strings applied, wellFormed_nat _⟩
  · cases found with
    | none => exact wellFormed_obj (show ["available_updates"].Nodup by decide) empty
    | some checker =>
      refine Task.always_map.mpr ((checks checker rfl).2.mono fun updates passed => ?_)
      exact wellFormed_obj (show ["available_updates"].Nodup by decide) (.arr passed)

omit [Chrono] in
theorem licenseStatus_sound : (licenseStatus handlers).Always Reply.Sound := by
  refine then_sound fun lic => then_sound fun count => ?_
  have features : (Json.arr (lic.limits.features.map fun feature => .str feature.display)).WellFormed := by
    refine .arr fun v member => ?_
    obtain ⟨feature, _, rfl⟩ := List.mem_map.mp member
    exact .str _
  exact wellFormed_obj (show ["agent_count", "features", "licensee", "max_agents", "max_mesh_nodes",
    "max_proxies", "tier"].Nodup by decide)
    ⟨wellFormed_nat _, features, .str _, maxValue_wellFormed _, maxValue_wellFormed _,
      maxValue_wellFormed _, .str _⟩

theorem call_sound [FromValue (List String)] [FromValue ModelConfig] [FromValue ResourceConfig]
    (sound : handlers.Sound) (oauth : OAuthSection) (method : String) (params : Json) :
    (call handlers oauth method params).Always Reply.Sound := by
  have ended (status : String) (name : String) : (done status name).WellFormed :=
    wellFormed_obj (show ["agent", "status"].Nodup by decide) ⟨.str _, .str _⟩
  obtain ⟨meshStatus, meshConnects, meshDisconnects, meshLists, meshPings⟩ :=
    mesh_sound sound params
  obtain ⟨listed, inspected, installed, created⟩ := templates_sound sound params
  obtain ⟨checked, applied, updates⟩ := update_sound sound
  unfold call
  dsimp only
  split
  · exact status_sound sound
  · exact then_sound fun _ => wellFormed_obj (show ["status"].Nodup by decide) (.str _)
  · exact Task.always_map.mpr (Task.always_of_forall agentList_wellFormed handlers.listAgents)
  · exact agentsGet_sound params
  · exact birth_sound params
  · exact answer_sound (fun _ => ended _ _) _
  · exact answer_sound (fun _ => ended _ _) _
  · exact answer_sound (fun _ => ended _ _) _
  · refine answer_sound (fun logs => ?_) _
    exact wellFormed_obj (show ["logs"].Nodup by decide) (.str logs)
  · exact meshStatus
  · exact meshConnects
  · exact meshDisconnects
  · exact meshLists
  · exact meshPings
  · exact listed
  · exact inspected
  · exact installed
  · exact created
  · exact auditQuery_sound sound params
  · exact checked
  · exact applied
  · exact updates
  · exact licenseStatus_sound
  · exact bridged_sound (sound.oauthRegister _ _)
  · exact bridged_sound (sound.oauthAuthorize _ _)
  · exact bridged_sound (sound.oauthCallback _ _ _ _ _)
  · exact bridged_sound (sound.oauthRefresh _ _)
  · exact bridged_sound (sound.oauthRevoke _ _)
  · exact bridged_sound (sound.oauthList _)
  · exact bridged_sound (sound.oauthStatus _ _)
  · exact bridged_sound (sound.oauthExchange _ _)
  · trivial

/-! ### Responses -/

/-- A response to a request with this identifier: a result or an error, and not both. -/
structure JsonRpcResponse.Answers (response : JsonRpcResponse) (id : Option Json) : Prop where
  id_eq : response.id = id
  one : response.result.isSome = !response.error.isSome
  wellFormed : (∀ v, id = some v → v.WellFormed) → response.toValue.WellFormed

omit [Chrono] in
theorem respond_answers {id : Option Json} {reply : Reply} (sound : reply.Sound) :
    (respond id reply).Answers id := by
  have code (e : RpcError) :
      (Json.obj [("code", .num (toString e.code)), ("message", .str e.message)]).WellFormed :=
    wellFormed_obj (show ["code", "message"].Nodup by decide) ⟨wellFormed_int _, .str _⟩
  cases reply with
  | ok value =>
    refine ⟨rfl, rfl, fun idSound => ?_⟩
    cases id with
    | none => exact wellFormed_obj (show ["jsonrpc", "result"].Nodup by decide) ⟨.str _, sound⟩
    | some id =>
      exact wellFormed_obj (show ["jsonrpc", "id", "result"].Nodup by decide) ⟨.str _, idSound id rfl, sound⟩
  | error e =>
    refine ⟨rfl, rfl, fun idSound => ?_⟩
    cases id with
    | none => exact wellFormed_obj (show ["jsonrpc", "error"].Nodup by decide) ⟨.str _, code e⟩
    | some id =>
      exact wellFormed_obj (show ["jsonrpc", "id", "error"].Nodup by decide) ⟨.str _, idSound id rfl, code e⟩

theorem dispatch_answers [FromValue (List String)] [FromValue ModelConfig]
    [FromValue ResourceConfig] (sound : handlers.Sound) (oauth : OAuthSection)
    (request : JsonRpcRequest) :
    (dispatch handlers oauth request).Always fun response => response.Answers request.id :=
  Task.always_map.mpr ((call_sound sound oauth request.method request.params).mono fun _ reply =>
    respond_answers reply)

end Sound

/-! ### Requests that no method is called for -/

def oauthMethods : List String :=
  ["oauth.register", "oauth.authorize", "oauth.callback", "oauth.refresh", "oauth.revoke", "oauth.list",
    "oauth.status", "oauth.exchange"]

def methods : List String :=
  ["status", "shutdown", "agents.list", "agents.get", "birth", "agents.start", "agents.stop", "agents.delete",
    "agents.logs", "mesh.status", "mesh.connect", "mesh.disconnect", "mesh.peers", "mesh.ping",
      "templates.list",
    "templates.inspect", "templates.install", "templates.create", "audit.query", "update.check",
      "update.apply",
    "update.status", "license.status"] ++ oauthMethods

section Unserved
variable {m : Type → Type} [Monad m] [Chrono] [FromValue (List String)] [FromValue ModelConfig]
  [FromValue ResourceConfig] {handlers : Handlers m} {oauth : OAuthSection} {params : Json}

inductive Unserved (handlers : Handlers m) (oauth : OAuthSection) (params : Json) : String → Prop
  | unknown {method : String} (unlisted : method ∉ methods) : Unserved handlers oauth params method
  | bridgeOff {method : String} (listed : method ∈ oauthMethods) (off : oauth.enabled = false) :
    Unserved handlers oauth params method
  | exchangeOff (off : oauth.allowTokenExchange = false) : Unserved handlers oauth params "oauth.exchange"
  | meshOff {method : String}
    (listed : method ∈ ["mesh.status", "mesh.connect", "mesh.disconnect", "mesh.peers", "mesh.ping"])
    (off : handlers.mesh = none) : Unserved handlers oauth params method
  | undirected (empty : text params "did" = "") : Unserved handlers oauth params "mesh.ping"
  | unnamed {method : String}
    (listed : method ∈ ["templates.inspect", "templates.install", "templates.create", "audit.query"])
    (empty : text params "name" = "") : Unserved handlers oauth params method
  | sourceless (empty : text params "source" = "") : Unserved handlers oauth params "templates.create"
  | unborn {e : String} (failed : BirthParams.fromJson params = .error e) :
    Unserved handlers oauth params "birth"

theorem call_unknown {method : String} (unlisted : method ∉ methods) :
    call handlers oauth method params = pure (.error ⟨-32601, s!"Method not found: {method}"⟩) := by
  unfold call
  dsimp only
  split
  case h_32 => rfl
  all_goals exact absurd (by decide) unlisted

theorem Unserved.call {method : String} (unserved : Unserved handlers oauth params method) :
    ∃ reply, call handlers oauth method params = pure reply := by
  cases unserved with
  | unknown unlisted => exact ⟨_, call_unknown unlisted⟩
  | bridgeOff listed off =>
    have refused (label refusal : String) (run : m (Except String Json)) :
        ∃ reply, bridged oauth.enabled refusal label run = pure reply := by
      rw [off]
      exact ⟨_, rfl⟩
    simp only [oauthMethods, List.mem_cons, List.not_mem_nil, or_false] at listed
    rcases listed with rfl | rfl | rfl | rfl | rfl | rfl | rfl | rfl
    case inr.inr.inr.inr.inr.inr.inr =>
      refine ⟨.error ⟨-32000, "OAuth token exchange is disabled"⟩, ?_⟩
      show bridged (oauth.enabled && _) _ _ _ = _
      rw [off]
      rfl
    all_goals exact refused _ _ _
  | exchangeOff off =>
    refine ⟨.error ⟨-32000, "OAuth token exchange is disabled"⟩, ?_⟩
    show bridged (_ && oauth.allowTokenExchange) _ _ _ = _
    rw [off, Bool.and_false]
    rfl
  | meshOff listed off =>
    simp only [List.mem_cons, List.not_mem_nil, or_false] at listed
    rcases listed with rfl | rfl | rfl | rfl | rfl
    · exact ⟨_, by show meshStatusCall handlers = _; rw [meshStatusCall, off]⟩
    · exact ⟨_, by show meshConnect handlers = _; rw [meshConnect, off]⟩
    · exact ⟨_, by show meshDisconnect handlers = _; rw [meshDisconnect, off]⟩
    · exact ⟨_, by show meshPeers handlers = _; rw [meshPeers, off]⟩
    · show ∃ reply, meshPing handlers params = _
      unfold meshPing
      rw [off]
      dsimp only
      split <;> exact ⟨_, rfl⟩
  | undirected empty => exact ⟨_, by show meshPing handlers params = _; unfold meshPing; rw [empty]; rfl⟩
  | unnamed listed empty =>
    simp only [List.mem_cons, List.not_mem_nil, or_false] at listed
    rcases listed with rfl | rfl | rfl | rfl
    · exact ⟨_, by show templatesInspect handlers params = _; unfold templatesInspect; rw [empty]; rfl⟩
    · exact ⟨_, by show templatesInstall handlers params = _; unfold templatesInstall; rw [empty]; rfl⟩
    · exact ⟨_, by show templatesCreate handlers params = _; unfold templatesCreate; rw [empty]; rfl⟩
    · exact ⟨_, by show auditQuery handlers params = _; unfold auditQuery; rw [empty]; rfl⟩
  | sourceless empty =>
    refine ⟨missing "'name' or 'source'", ?_⟩
    show templatesCreate handlers params = _
    unfold templatesCreate
    rw [empty]
    exact if_pos (by simp)
  | unborn failed => exact ⟨_, by show birth handlers params = _; rw [birth, failed]⟩

end Unserved
end GrokingClawId.Daemon.Ipc
