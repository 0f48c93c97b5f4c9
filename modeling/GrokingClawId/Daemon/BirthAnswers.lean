import GrokingClawId.Daemon.BirthFailures

/-!
# Answers of the coordination server

What a birth makes of the answer to its request: a rejection, or a certificate with the scopes and the
domains that are approved. A rejection and every later failure lead to a local birth, which asks for
nobody's approval.
-/

namespace GrokingClawId.Daemon
open GrokingClawId.Core FileTree DiskM

def Rejects (answer : Except String HttpAnswer) : Prop :=
  ∃ found, answer = .ok found ∧ found.success = false

/-- The agent has what was approved, and nothing that was not requested. -/
structure Approves (certificate : BirthCertificate) (params : BirthParams) (config : AgentConfig) :
    Prop where
  scopes : config.allowedScopes = certificate.approvedScopes
  domains : config.allowedDomains = certificate.approvedDomains
  requestedScopes : config.allowedScopes ⊆ params.allowedScopes
  requestedDomains : config.allowedDomains ⊆ params.allowedDomains

section Answers
variable [Ed25519] [Chrono] [ConfigFormat] [FromStr TemplateManifest] [FromStr Json]
    [FromStr BirthCertificate]
variable {root : List String} {params : BirthParams} {io : BirthIo} {mesh : MeshIo} {request : BirthRequest}
  {d d₁ : Disk}

/-- A rejected birth leaves no agent of the name that was not there, and an approved one has what
the certificate says. -/
structure Honours (root : List String) (params : BirthParams) (answer : Except String HttpAnswer)
    (nursery nursery' : Nursery) : Prop where
  rejected : Rejects answer → nursery'.supervisor.getAgent params.name = none ∧
    (HasFile (configPlace root params.name) nursery'.disk.tree →
      HasFile (configPlace root params.name) nursery.disk.tree)
  approved : ∀ certificate, readCertificate answer = .ok certificate → ∀ agent,
    nursery'.supervisor.lookup params.name = some agent → Approves certificate params agent.config

omit [Ed25519] [Chrono] [ConfigFormat] [FromStr TemplateManifest] [FromStr Json] in
theorem readCertificate_rejected {answer : Except String HttpAnswer} (rejects : Rejects answer) :
    ∃ e, (readCertificate answer : Except String BirthCertificate) = .error e := by
  obtain ⟨found, rfl, failed⟩ := rejects
  unfold readCertificate
  simp only [Except.mapError, bind, Except.bind, failed]
  exact ⟨_, rfl⟩

omit [Chrono] [ConfigFormat] in
theorem Certified.same (asked : birthRequest root params mesh d = (.ok request, d₁))
    {certificate : BirthCertificate} {d₂ : Disk}
    (certified : Certified root params mesh d certificate d₂) :
    readCertificate (mesh.server request) = .ok certificate ∧ d₂ = d₁ := by
  obtain ⟨other, again, answered⟩ := certified
  obtain ⟨same, rfl⟩ := Prod.mk.inj (asked.symm.trans again)
  obtain rfl := Except.ok.inj same
  exact ⟨answered, rfl⟩

/-- After a rejection the local birth follows, on the disk as the request found it. -/
theorem rejected_fallback (tried : io.tried = some mesh)
    (asked : birthRequest root params mesh d = (.ok request, d₁)) (rejects : Rejects (mesh.server request)) :
    ¬ ViaMesh root params io d ∧ fallback root params io d = d₁ := by
  obtain ⟨e, refused⟩ := readCertificate_rejected rejects
  have failed : birthViaMesh root params mesh d = (.error e, d₁) := by
    rw [birthViaMesh, bind_run, asked]
    show (DiskM.ofExcept (readCertificate (mesh.server request)) >>= _) d₁ = _
    exact bind_error (by rw [refused]; rfl)
  constructor
  · rintro ⟨other, result, d₂, found, ran⟩
    obtain rfl := Option.some.inj (tried.symm.trans found)
    rw [failed] at ran
    cases ran
  · unfold fallback
    simp only [tried, failed]

theorem begun_rejected (tried : io.tried = some mesh)
    (asked : birthRequest root params mesh d = (.ok request, d₁)) (rejects : Rejects (mesh.server request)) :
    Begun root params io d ↔ LocalBegun root params io.onDisk d₁ := by
  obtain ⟨e, refused⟩ := readCertificate_rejected rejects
  obtain ⟨notMesh, start⟩ := rejected_fallback tried asked rejects
  unfold Begun
  rw [start]
  constructor
  · rintro (⟨other, found, certificate, d₂, certified, _⟩ | ⟨_, begun⟩)
    · obtain rfl := Option.some.inj (tried.symm.trans found)
      have granted := (certified.same asked).1
      rw [refused] at granted
      cases granted
    · exact begun
  · exact fun begun => .inr ⟨notMesh, begun⟩

variable {nursery nursery' : Nursery} {maxAgents : UInt32}

omit [Ed25519] [Chrono] [ConfigFormat] [FromStr TemplateManifest] [FromStr Json] in
theorem Honours.of_absent {answer : Except String HttpAnswer}
    (absent : nursery'.supervisor.getAgent params.name = none)
    (fresh : Rejects answer → HasFile (configPlace root params.name) nursery'.disk.tree →
      HasFile (configPlace root params.name) nursery.disk.tree) :
    Honours root params answer nursery nursery' := by
  refine ⟨fun rejects => ⟨absent, fresh rejects⟩, fun certificate _ agent found => ?_⟩
  rw [Supervisor.getAgent, found] at absent
  cases absent

/-- A failing call honours the answer when the local birth after a rejection does not come to an
`agent.toml` where there was none. -/
theorem birthAgent_error_honours (tried : io.tried = some mesh)
    (asked : birthRequest root params mesh nursery.disk = (.ok request, d₁)) {fault : Fault}
    (admitted : nursery.admission maxAgents params io = .ok ())
    (ran : nursery.birthAgent root maxAgents params io = (.error fault, nursery'))
    (heeds : Rejects (mesh.server request) → ¬ LocalReached root params io.onDisk d₁) :
    Honours root params (mesh.server request) nursery nursery' := by
  rcases Nursery.birthAgent_error ran with ⟨refused, _⟩ | ⟨_, same, birth⟩
  · exact absurd admitted refused
  have absent := Nursery.admit_absent admitted
  rw [← same] at absent
  refine .of_absent absent fun rejects left => ?_
  by_contra fresh
  have unmoved : d₁.tree = nursery.disk.tree := by
    have read := reads_birthRequest root params mesh nursery.disk
    rw [asked] at read
    exact read
  have early : ¬ LocalBegun root params io.onDisk d₁ :=
    (localBegun_iff (unmoved ▸ fresh)).not.mpr (heeds rejects)
  have quiet := birthRegistered_quiet ((begun_rejected tried asked rejects).not.mpr early)
  rw [birth] at quiet
  exact quiet.place fresh left

/-- What was granted and what was requested, as the birth that followed makes it matter. -/
structure Within (root : List String) (params : BirthParams) (io : BirthIo) (d : Disk)
    (certificate : BirthCertificate) :
    Prop where
  narrower : ViaMesh root params io d → certificate.approvedScopes ⊆ params.allowedScopes ∧
    certificate.approvedDomains ⊆ params.allowedDomains
  equal : ¬ ViaMesh root params io d → certificate.approvedScopes = params.allowedScopes ∧
    certificate.approvedDomains = params.allowedDomains

theorem Born.approves_iff (tried : io.tried = some mesh)
    (asked : birthRequest root params mesh d = (.ok request, d₁)) {config : AgentConfig}
    {seed : Core.Bytes 32} {card : String} (born : Born root params io d config seed card)
    {certificate : BirthCertificate}
    (granted : readCertificate (mesh.server request) = .ok certificate) :
    Approves certificate params config ↔ Within root params io d certificate := by
  cases born with
  | viaMesh found certified settled =>
    have viaMesh := viaMesh_of found certified settled
    obtain rfl := Option.some.inj (tried.symm.trans found)
    obtain rfl := Except.ok.inj (granted.symm.trans (certified.same asked).1)
    constructor
    · exact fun approves =>
        ⟨fun _ => ⟨approves.requestedScopes, approves.requestedDomains⟩, fun notMesh =>
          absurd viaMesh notMesh⟩
    · exact fun within => ⟨rfl, rfl, (within.narrower viaMesh).1, (within.narrower viaMesh).2⟩
  | locally notMesh _ =>
    constructor
    · exact fun approves =>
        ⟨fun viaMesh => absurd viaMesh notMesh, fun _ => ⟨approves.scopes.symm, approves.domains.symm⟩⟩
    · intro within
      obtain ⟨scopes, domains⟩ := within.equal notMesh
      exact ⟨scopes.symm, domains.symm, List.Subset.refl _, List.Subset.refl _⟩

theorem birthAgent_ok_honours (roundTrip : ConfigFormat.RoundTrip)
    (tamed : Tamed root params io nursery.disk.tree) (tried : io.tried = some mesh)
    (asked : birthRequest root params mesh nursery.disk = (.ok request, d₁)) {result : BirthResult}
    (ran : nursery.birthAgent root maxAgents params io = (.ok result, nursery')) :
    Honours root params (mesh.server request) nursery nursery' ↔ ¬ Rejects (mesh.server request) ∧
      ∀ certificate, readCertificate (mesh.server request) = .ok certificate →
        Within root params io nursery.disk certificate := by
  obtain ⟨_, config, seed, card, born, registered, _⟩ := Nursery.birthAgent_ok roundTrip tamed ran
  have found : nursery'.supervisor.lookup params.name =
      some (Supervisor.idle config .creating) := by
    rw [registered, Supervisor.register, ← born.name, AList.lookup_insert]
  constructor
  · intro honours
    refine ⟨fun rejects => ?_, fun certificate granted => ?_⟩
    · have absent := (honours.rejected rejects).1
      rw [Supervisor.getAgent, found] at absent
      cases absent
    · exact (born.approves_iff tried asked granted).mp (honours.approved certificate granted _ found)
  · rintro ⟨accepted, within⟩
    refine ⟨fun rejects => absurd rejects accepted, fun certificate granted agent managed => ?_⟩
    obtain rfl := Option.some.inj (found.symm.trans managed)
    exact (born.approves_iff tried asked granted).mpr (within certificate granted)

/-- After a rejection something stops the local birth before `agent.toml`, and a certificate is within
the request, or is the request. -/
structure Heeds (root : List String) (params : BirthParams) (io : BirthIo)
    (answer : Except String HttpAnswer) (d d₁ : Disk) : Prop where
  rejection : Rejects answer → ¬ LocalReached root params io.onDisk d₁
  certificate : ∀ certificate, readCertificate answer = .ok certificate → Within root params io d certificate

omit [FromStr Json] [FromStr BirthCertificate] in
theorem birthLocal_reached {io : LocalIo} {result : BirthResult} {d' : Disk}
    (ran : birthLocal root params io d = (.ok result, d')) : LocalReached root params io d := by
  obtain ⟨expiresAt, d₂, answered, rest⟩ := DiskM.bind_ok ran
  obtain ⟨timed, rfl⟩ := ofExcept_ok answered
  obtain ⟨_, d₃, begun, _⟩ := DiskM.bind_ok rest
  exact beginLocal_reached timed (mapError_ok begun)

theorem Nursery.birthAgent_registered {result : BirthResult}
    (ran : nursery.birthAgent root maxAgents params io = (.ok result, nursery')) :
    ∃ found, birthRegistered root params io nursery.disk = (.ok (result, found), nursery'.disk) := by
  unfold Nursery.birthAgent at ran
  split at ran
  · cases (Prod.mk.inj ran).1
  · split at ran
    · cases (Prod.mk.inj ran).1
    · rename_i birth
      obtain ⟨same, rfl⟩ := Prod.mk.inj ran
      obtain rfl := Except.ok.inj same
      exact ⟨_, birth⟩
    · rename_i birth
      obtain ⟨same, rfl⟩ := Prod.mk.inj ran
      obtain rfl := Except.ok.inj same
      exact ⟨_, birth⟩

/-- A birth that succeeds after a rejection has come to `agent.toml` locally. -/
theorem Nursery.birthAgent_reached (tried : io.tried = some mesh)
    (asked : birthRequest root params mesh nursery.disk = (.ok request, d₁))
    (rejects : Rejects (mesh.server request)) {result : BirthResult}
    (ran : nursery.birthAgent root maxAgents params io = (.ok result, nursery')) :
    LocalReached root params io.onDisk d₁ := by
  obtain ⟨notMesh, start⟩ := rejected_fallback tried asked rejects
  obtain ⟨found, birth⟩ := Nursery.birthAgent_registered ran
  obtain ⟨_, d₂, born, _⟩ := DiskM.bind_ok birth
  rw [birthAgent_local notMesh, start] at born
  exact birthLocal_reached born

/-- Where the birth comes to `agent.toml` after a rejection, the answer is not honoured. -/
theorem Honours.unreached (lasts : Lasts root params io) (tried : io.tried = some mesh)
    (asked : birthRequest root params mesh nursery.disk = (.ok request, d₁))
    (rejects : Rejects (mesh.server request))
    (fresh : ¬ HasFile (configPlace root params.name) nursery.disk.tree)
    (kept : nursery'.disk.tree = (birthRegistered root params io nursery.disk).2.tree)
    (honours : Honours root params (mesh.server request) nursery nursery') :
    ¬ LocalReached root params io.onDisk d₁ := by
  intro reached
  have unmoved : d₁.tree = nursery.disk.tree := by
    have read := reads_birthRequest root params mesh nursery.disk
    rw [asked] at read
    exact read
  have begun := (begun_rejected tried asked rejects).mpr ((localBegun_iff (unmoved ▸ fresh)).mpr reached)
  have left := birthRegistered_leads lasts (.inr begun)
  rw [← kept] at left
  exact fresh ((honours.rejected rejects).2 left)

/-- With a template that lists none of the agent's own files, the condition is enough for every birth
through the mesh. It is met by every successful one that honours the answer, and by every rejected one
that does, where there was no `agent.toml`. -/
theorem birthAgent_honours_iff (roundTrip : ConfigFormat.RoundTrip)
    (scripts : Scripts root params io nursery.disk.tree)
    (admitted : nursery.admission maxAgents params io = .ok ()) (tried : io.tried = some mesh)
    (asked : birthRequest root params mesh nursery.disk = (.ok request, d₁))
    {answer : Outcome BirthResult}
    (ran : nursery.birthAgent root maxAgents params io = (answer, nursery')) :
    (Listed root params.name params.template nursery.disk.tree →
      Heeds root params io (mesh.server request) nursery.disk d₁ →
      Honours root params (mesh.server request) nursery nursery') ∧
    ((∃ result, answer = .ok result) ∧ Listed root params.name params.template nursery.disk.tree ∨
        (Rejects (mesh.server request) ∧ Lasts root params io ∧
        ¬ HasFile (configPlace root params.name) nursery.disk.tree) →
      Honours root params (mesh.server request) nursery nursery' →
      Heeds root params io (mesh.server request) nursery.disk d₁) := by
  have rejected : Rejects (mesh.server request) → Lasts root params io →
      ¬ HasFile (configPlace root params.name) nursery.disk.tree →
      nursery'.disk.tree = (birthRegistered root params io nursery.disk).2.tree →
      Honours root params (mesh.server request) nursery nursery' →
      Heeds root params io (mesh.server request) nursery.disk d₁ := by
    intro rejects lasts fresh kept honours
    refine ⟨fun _ => honours.unreached lasts tried asked rejects fresh kept, fun certificate granted => ?_⟩
    obtain ⟨e, refused⟩ := readCertificate_rejected rejects
    rw [refused] at granted
    cases granted
  cases answer with
  | error fault =>
    refine ⟨fun _ heeds => birthAgent_error_honours tried asked admitted ran heeds.rejection, ?_⟩
    rintro (⟨⟨_, succeeded⟩, _⟩ | ⟨rejects, lasts, fresh⟩) honours
    · cases succeeded
    · rcases Nursery.birthAgent_error ran with ⟨refused, _⟩ | ⟨_, _, birth⟩
      · exact absurd admitted refused
      · exact rejected rejects lasts fresh (by rw [birth]) honours
  | ok result =>
    constructor
    · intro listed heeds
      have accepted : ¬ Rejects (mesh.server request) := fun rejects =>
        heeds.rejection rejects (Nursery.birthAgent_reached tried asked rejects ran)
      exact (birthAgent_ok_honours roundTrip (scripts.tamed listed) tried asked ran).mpr
        ⟨accepted, heeds.certificate⟩
    · rintro (⟨_, listed⟩ | ⟨rejects, lasts, fresh⟩) honours
      · obtain ⟨accepted, within⟩ :=
          (birthAgent_ok_honours roundTrip (scripts.tamed listed) tried asked ran).mp honours
        exact ⟨fun rejects => absurd rejects accepted, within⟩
      · obtain ⟨_, birth⟩ := Nursery.birthAgent_registered ran
        exact rejected rejects lasts fresh (by rw [birth]) honours

end Answers

/-! ### Concrete answers -/

open scoped Core.StandIn StandIn

namespace StandIn.Answers

scoped instance format : ConfigFormat := configs [bornConfig "scout", meshedConfig ["read"]]

def refused : HttpAnswer := ⟨"403 Forbidden", false, .ok "scope not allowed"⟩

theorem asked (answer : HttpAnswer) : ∃ request d₁,
    birthRequest [] (namedParams "scout") (meshIo answer) bareNursery.disk = (.ok request, d₁) :=
  run_ok (by rfl)

theorem born_approved : ∃ result nursery',
    bareNursery.birthAgent [] 10 (namedParams "scout") (meshed approved) = (.ok result, nursery') :=
  run_ok (by decide +kernel)

theorem granted {found : BirthCertificate} (granted : readCertificate (.ok approved) = .ok found) :
    found = certificate ["read"] := by
  have read : readCertificate (.ok approved) = .ok (certificate ["read"]) := by
    have parsed : FromStr.fromStr "certificate" = Except.ok (certificate ["read"]) :=
      Core.StandIn.parser_head _ _ _
    simp only [readCertificate, approved, Except.mapError, bind, Except.bind, parsed]
    rfl
  exact Except.ok.inj (granted.symm.trans read)

theorem born_refused : ∃ result nursery',
    bareNursery.birthAgent [] 10 (namedParams "scout") (meshed refused) = (.ok result, nursery') ∧
      nursery'.supervisor.getAgent "scout" ≠ none := by
  have born : (bareNursery.birthAgent [] 10 (namedParams "scout") (meshed refused)).1.toOption.isSome =
      true := by
    decide +kernel
  have managed : ((bareNursery.birthAgent [] 10 (namedParams "scout")
      (meshed refused)).2.supervisor.getAgent "scout").isSome = true := by decide +kernel
  obtain ⟨result, nursery', ran⟩ := run_ok born
  rw [ran] at managed
  exact ⟨result, nursery', ran, Option.isSome_iff_ne_none.mp managed⟩

end StandIn.Answers

open scoped StandIn.Answers

theorem StandIn.birthAgent_honours_approved : ∃ result nursery',
    bareNursery.birthAgent [] 10 (namedParams "scout") (meshed approved) = (.ok result, nursery') ∧
      Honours [] (namedParams "scout") (.ok approved) bareNursery nursery' := by
  obtain ⟨result, nursery', ran⟩ := Answers.born_approved
  obtain ⟨request, d₁, asked⟩ := Answers.asked approved
  refine ⟨result, nursery', ran,
    (birthAgent_honours_iff (configs_roundTrip (by decide)) (scripts_meshed _ _ _ _)
    (by decide) rfl asked ran).1 (listed_bare _ _ _ _) ⟨?_, fun found granted => ?_⟩⟩
  · rintro ⟨answer, same, refused⟩
    obtain rfl := Except.ok.inj same
    cases refused
  · obtain rfl := Answers.granted granted
    exact ⟨fun _ => ⟨List.Subset.refl _, List.Subset.refl _⟩, fun _ => ⟨rfl, rfl⟩⟩

/-- A rejected birth ends with an agent that has everything it asked for. -/
theorem birthAgent_defies : ¬ ∀ (root : List String) (nursery nursery' : Nursery)
    (maxAgents : UInt32) (params : BirthParams) (io : BirthIo) (mesh : MeshIo)
    (request : BirthRequest) (d₁ : Disk)
    (answer : Outcome BirthResult), Tamed root params io nursery.disk.tree →
    nursery.admission maxAgents params io = .ok () → io.tried = some mesh →
    birthRequest root params mesh nursery.disk = (.ok request, d₁) →
    nursery.birthAgent root maxAgents params io = (answer, nursery') →
    Honours root params (mesh.server request) nursery nursery' := by
  intro honours
  obtain ⟨result, nursery', ran, managed⟩ := StandIn.Answers.born_refused
  obtain ⟨request, d₁, asked⟩ := StandIn.Answers.asked StandIn.Answers.refused
  have heeded := honours [] StandIn.bareNursery nursery' 10 (StandIn.namedParams "scout")
    (StandIn.meshed StandIn.Answers.refused) _ request d₁ _ (StandIn.tamed_meshed _ _ _ _)
    (by decide) rfl asked ran
  exact managed (heeded.rejected ⟨_, rfl, rfl⟩).1

end GrokingClawId.Daemon
