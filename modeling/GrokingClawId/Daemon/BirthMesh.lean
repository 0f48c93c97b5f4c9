import GrokingClawId.Daemon.BirthFiles

/-!
# Birth via the mesh and its fallback

What a birth via the mesh does to the files, what follows when it fails, and what a successful call of
the daemon has come to: the files of one of the two ways, registered as they were written.
-/

namespace GrokingClawId.Daemon
open GrokingClawId.Core FileTree DiskM

def certificateFile : List String := ["identity", "birth.cert.json"]

section Mesh
variable [Ed25519] [Chrono] [ConfigFormat] [FromStr TemplateManifest] [FromStr Json]
    [FromStr BirthCertificate]
variable {root : List String} {params : BirthParams}

/-! ### The request -/

omit [Ed25519] [Chrono] [ConfigFormat] [FromStr TemplateManifest] [FromStr BirthCertificate] in
theorem reads_getDaemonDid (root : List String) : Reads (getDaemonDid root) := by
  refine reads_bind (reads_readToString _) fun answer => ?_
  cases answer with
  | error e => exact reads_pure _
  | ok content =>
    dsimp only
    split
    · exact reads_pure _
    · exact reads_pure _

omit [Chrono] [ConfigFormat] [FromStr TemplateManifest] [FromStr Json] [FromStr BirthCertificate] in
theorem reads_signRequest (root : List String) (payload : String) :
    Reads (signRequest root payload) := by
  refine reads_bind (reads_ask _) fun there => ?_
  cases there with
  | false => exact reads_pure _
  | true =>
    refine reads_bind (reads_readToString _) fun pem => ?_
    exact reads_bind (reads_ofExcept _) fun key => reads_pure _

omit [Ed25519] [Chrono] [ConfigFormat] [FromStr Json] [FromStr BirthCertificate] in
theorem reads_getTemplateVersion (root : List String) (template : String) :
    Reads (getTemplateVersion root template) := by
  refine reads_bind (reads_ask _) fun there => ?_
  cases there with
  | false => exact reads_pure _
  | true =>
    have parsed : Reads (parseManifest (templateDir root template ++ ["manifest.toml"])) :=
      reads_bind (reads_readToString _) fun _ => reads_ofExcept _
    refine reads_bind parsed fun answer => ?_
    cases answer with
    | error e => exact reads_pure _
    | ok manifest => exact reads_pure _

omit [Chrono] [ConfigFormat] [FromStr BirthCertificate] in
theorem reads_birthRequest (root : List String) (params : BirthParams) (io : MeshIo) :
    Reads (birthRequest root params io) := by
  refine reads_bind (reads_getDaemonDid root) fun did => ?_
  refine reads_bind (reads_signRequest root _) fun signature => ?_
  exact reads_bind (reads_getTemplateVersion root _) fun version => reads_pure _

/-! ### The files -/

omit [ConfigFormat] [FromStr TemplateManifest] [FromStr Json] [FromStr BirthCertificate] in
theorem writeMeshIdentity_works (root : List String) (params : BirthParams) (io : MeshIo)
    (certificate : BirthCertificate) :
    Works (agentDir root params.name) [certificateFile, keyFile, cardFile]
      (writeMeshIdentity root params io certificate) := by
  intro R refl trans dirs files
  refine relates_bind trans (dirs ["identity"] (by unfold Plain; decide)) fun _ => ?_
  refine relates_bind trans (files certificateFile (by decide) _) fun _ => ?_
  exact relates_bind trans (files keyFile (by decide) _) fun _ => files cardFile (by decide) _

omit [ConfigFormat] [FromStr TemplateManifest] [FromStr Json] [FromStr BirthCertificate] in
theorem writeMeshIdentity_ok {io : MeshIo} {certificate : BirthCertificate} {d d' : Disk}
    (ran : writeMeshIdentity root params io certificate d = (.ok (), d')) :
    d'.tree.Holds (agentDir root params.name ++ keyFile) (.text (encodePrivateKeyPem io.seed)) ∧
      d'.tree.Holds (agentDir root params.name ++ cardFile)
        (.text (Json.pretty 0 (meshCard params io certificate))) := by
  obtain ⟨_, d₁, _, ran⟩ := DiskM.bind_ok ran
  obtain ⟨_, d₂, _, ran⟩ := DiskM.bind_ok ran
  obtain ⟨_, d₃, wroteKey, wroteCard⟩ := DiskM.bind_ok ran
  have card := (write_ok wroteCard).2
  refine ⟨?_, card.holds⟩
  exact (card.elsewhere (ownFiles_plain cardFile (by decide)) (ownFiles_plain keyFile (by decide))
    (by decide)).trans (write_ok wroteKey).2.holds

omit [Ed25519] [Chrono] [FromStr TemplateManifest] [FromStr Json] [FromStr BirthCertificate] in
theorem writeMeshConfig_works (root : List String) (params : BirthParams) (io : MeshIo)
    (certificate : BirthCertificate) :
    Works (agentDir root params.name) [configFile] (writeMeshConfig root params io certificate) := by
  intro R refl trans dirs files
  refine relates_bind trans ?_ fun _ => writeConfig_works _ _ R refl trans dirs files
  exact makeDirs_works _ _ (by unfold Plain; decide) R refl trans dirs fun _ member => nomatch member

omit [FromStr Json] [FromStr BirthCertificate] in
theorem settleMesh_inside {io : MeshIo} {certificate : BirthCertificate} {d : Disk}
    (tame : Tame root params.name params.template d.tree io.install) :
    Inside (agentDir root params.name) d.tree (settleMesh root params io certificate d).2.tree := by
  have trans := Inside.trans (agentDir root params.name)
  have identity :=
    (writeMeshIdentity_works root params io certificate).inside (by unfold Plain; decide) (by decide) d
  refine bind_leads identity fun _ d₁ _ identity => ?_
  have config := trans _ _ _ identity ((writeMeshConfig_works root params io certificate).inside
    (by unfold Plain; decide) (by decide) d₁)
  refine bind_leads config fun _ d₂ _ config => ?_
  have installed := trans _ _ _ config (tame.install config.1).inside
  exact bind_leads installed fun _ d₃ _ installed => installed

/-- What a birth via the mesh reports. -/
def meshResult (params : BirthParams) (io : MeshIo) (certificate : BirthCertificate) :
    BirthResult where
  agentInfo := params.info (certificate.uuid io) (some certificate.agentDid) io.createdAt
    certificate.approvedScopes
  birthMode := .mesh
  certificate := some certificate

omit [FromStr Json] [FromStr BirthCertificate] in
theorem settleMesh_ok {io : MeshIo} {certificate : BirthCertificate} {d d' : Disk}
    {result : BirthResult} (tame : Tame root params.name params.template d.tree io.install)
    (ran : settleMesh root params io certificate d = (.ok result, d')) :
    Written (agentDir root params.name) (params.meshConfig io certificate) io.seed
      (Json.pretty 0 (meshCard params io certificate)) d'.tree ∧
      result = meshResult params io certificate := by
  obtain ⟨_, d₁, wrote, rest⟩ := DiskM.bind_ok ran
  obtain ⟨_, d₂, configured, rest⟩ := DiskM.bind_ok rest
  obtain ⟨_, d₃, installed, rest⟩ := DiskM.bind_ok rest
  obtain ⟨rfl, rfl⟩ := DiskM.pure_ok rest
  have works := writeMeshIdentity_works root params io certificate
  have works' := writeMeshConfig_works root params io certificate
  have first := works.near (by unfold Plain; decide) d
  have second := works'.near (by unfold Plain; decide) d₁
  rw [wrote] at first
  rw [configured] at second
  have leaves := (tame.install (Near.trans _ _ _ _ first second)).2
  rw [installed] at leaves
  obtain ⟨key, card⟩ := writeMeshIdentity_ok wrote
  have keyKept := works'.holds (by unfold Plain; decide) (show keyFile ∈ ownFiles by decide)
      (by decide) _ d₁ key
  have cardKept := works'.holds (by unfold Plain; decide) (show cardFile ∈ ownFiles by decide)
      (by decide) _ d₁ card
  rw [configured] at keyKept cardKept
  obtain ⟨_, _, _, wroteConfig⟩ := DiskM.bind_ok configured
  obtain ⟨legal, text, serialized, config⟩ := writeConfig_ok wroteConfig
  exact ⟨Written.leaves ⟨legal, ⟨text, serialized, config⟩, keyKept, cardKept⟩ leaves, rfl⟩

/-! ### The way through the server -/

/-- The server is asked and answers with a certificate. -/
structure Certified (root : List String) (params : BirthParams) (io : MeshIo) (d : Disk)
    (certificate : BirthCertificate) (d' : Disk) : Prop where
  asked : ∃ request, birthRequest root params io d = (.ok request, d') ∧
    readCertificate (io.server request) = .ok certificate

omit [Chrono] [ConfigFormat] in
theorem Certified.tree {io : MeshIo} {d d' : Disk} {certificate : BirthCertificate}
    (certified : Certified root params io d certificate d') : d'.tree = d.tree := by
  obtain ⟨request, asked, _⟩ := certified
  have same := reads_birthRequest root params io d
  rw [asked] at same
  exact same

theorem birthViaMesh_certified {io : MeshIo} {d d' : Disk} {certificate : BirthCertificate}
    (certified : Certified root params io d certificate d') :
    birthViaMesh root params io d = settleMesh root params io certificate d' := by
  obtain ⟨request, asked, answered⟩ := certified
  rw [birthViaMesh, bind_run, asked]
  simp only [bind_run, DiskM.ofExcept, answered]

theorem birthViaMesh_ok {io : MeshIo} {d d' : Disk} {result : BirthResult}
    (ran : birthViaMesh root params io d = (.ok result, d')) :
    ∃ certificate d₁, Certified root params io d certificate d₁ ∧
      settleMesh root params io certificate d₁ = (.ok result, d') := by
  obtain ⟨request, d₁, asked, rest⟩ := DiskM.bind_ok ran
  obtain ⟨certificate, d₂, answered, settled⟩ := DiskM.bind_ok rest
  obtain ⟨granted, rfl⟩ := ofExcept_ok answered
  exact ⟨certificate, d₂, ⟨request, asked, granted⟩, settled⟩

theorem birthViaMesh_inside {io : MeshIo} {d : Disk}
    (tame : Tame root params.name params.template d.tree io.install) :
    Inside (agentDir root params.name) d.tree (birthViaMesh root params io d).2.tree := by
  refine bind_leads (Reads.relates (Inside.refl _) (reads_birthRequest root params io) d) fun request d₁
    ran start => ?_
  refine bind_leads start fun certificate d₂ answered start => ?_
  exact Inside.trans _ _ _ _ start (settleMesh_inside (tame.near start.1))

/-! ### The fallback -/

/-- The mesh is tried when there is one and the license covers it. -/
def BirthIo.tried (io : BirthIo) : Option MeshIo :=
  match io.license.checkFeature .birthMesh with
  | .ok () => io.mesh
  | .error _ => none

def ViaMesh (root : List String) (params : BirthParams) (io : BirthIo) (d : Disk) : Prop :=
  ∃ mesh result d', io.tried = some mesh ∧ birthViaMesh root params mesh d = (.ok result, d')

/-- What a failed attempt via the mesh leaves to the local birth. -/
def fallback (root : List String) (params : BirthParams) (io : BirthIo) (d : Disk) : Disk :=
  match io.tried with
  | none => d
  | some mesh => (birthViaMesh root params mesh d).2

theorem birthAgent_eq (root : List String) (params : BirthParams) (io : BirthIo) (d : Disk) :
    birthAgent root params io d =
      match io.tried with
      | none => birthLocal root params io.onDisk d
      | some mesh =>
        match birthViaMesh root params mesh d with
        | (.ok result, d) => (.ok result, d)
        | (.error _, d) => birthLocal root params io.onDisk d := by
  unfold birthAgent BirthIo.tried
  cases io.mesh with
  | none => cases io.license.checkFeature .birthMesh <;> rfl
  | some mesh =>
    cases io.license.checkFeature .birthMesh with
    | error e => rfl
    | ok covered =>
      simp only [bind_run, attempt]
      rcases birthViaMesh root params mesh d with ⟨result | e, d'⟩ <;> rfl

variable {io : BirthIo} {d d' : Disk} {result : BirthResult}

theorem birthAgent_viaMesh {mesh : MeshIo} (tried : io.tried = some mesh)
    (ran : birthViaMesh root params mesh d = (.ok result, d')) :
    birthAgent root params io d = (.ok result, d') := by
  rw [birthAgent_eq, tried]
  simp only [ran]

theorem birthAgent_local (notMesh : ¬ ViaMesh root params io d) :
    birthAgent root params io d = birthLocal root params io.onDisk (fallback root params io d) := by
  rw [birthAgent_eq, fallback]
  cases tried : io.tried with
  | none => rfl
  | some mesh =>
    cases ran : birthViaMesh root params mesh d with
    | mk answer after =>
      cases answer with
      | ok result => exact absurd ⟨mesh, result, after, tried, ran⟩ notMesh
      | error e => simp only [ran]

/-- The script of the template keeps to the directory of the agent in both ways. -/
structure Scripts (root : List String) (params : BirthParams) (io : BirthIo) (tree : FileTree) : Prop where
  onDisk : Scripted root params.name tree io.onDisk.install
  mesh : ∀ mesh, io.tried = some mesh → Scripted root params.name tree mesh.install

/-- The template keeps to the directory of the agent in both ways. -/
structure Tamed (root : List String) (params : BirthParams) (io : BirthIo) (tree : FileTree) :
    Prop where
  onDisk : Tame root params.name params.template tree io.onDisk.install
  mesh : ∀ mesh, io.tried = some mesh → Tame root params.name params.template tree mesh.install

omit [Ed25519] [Chrono] [ConfigFormat] [FromStr Json] [FromStr BirthCertificate] in
theorem Scripts.tamed {tree : FileTree} (scripts : Scripts root params io tree)
    (listed : Listed root params.name params.template tree) : Tamed root params io tree :=
  ⟨⟨listed, scripts.onDisk⟩, fun mesh tried => ⟨listed, scripts.mesh mesh tried⟩⟩

theorem fallback_inside (tamed : Tamed root params io d.tree) :
    Inside (agentDir root params.name) d.tree (fallback root params io d).tree := by
  unfold fallback
  cases tried : io.tried with
  | none => exact Inside.refl _ _
  | some mesh => exact birthViaMesh_inside (tamed.mesh mesh tried)

/-- What a birth comes to: the configuration, the key and the card of one of the two ways. -/
inductive Born (root : List String) (params : BirthParams) (io : BirthIo) (d : Disk) :
    AgentConfig → Core.Bytes 32 → String → Prop where
  | viaMesh {mesh : MeshIo} {certificate : BirthCertificate} {d₁ d₂ : Disk} {result : BirthResult}
      (tried : io.tried = some mesh) (certified : Certified root params mesh d certificate d₁)
      (settled : settleMesh root params mesh certificate d₁ = (.ok result, d₂)) :
      Born root params io d (params.meshConfig mesh certificate) mesh.seed
        (Json.pretty 0 (meshCard params mesh certificate))
  | locally {expiresAt : DateTime} (notMesh : ¬ ViaMesh root params io d)
      (timed : localExpiry params io.onDisk = .ok expiresAt) :
      Born root params io d (params.localConfig io.onDisk expiresAt) io.onDisk.seed
        (params.localCard io.onDisk expiresAt).toStringPretty

theorem viaMesh_of {mesh : MeshIo} {certificate : BirthCertificate} {d₁ d₂ : Disk}
    (tried : io.tried = some mesh) (certified : Certified root params mesh d certificate d₁)
    (settled : settleMesh root params mesh certificate d₁ = (.ok result, d₂)) :
    ViaMesh root params io d :=
  ⟨mesh, result, d₂, tried, (birthViaMesh_certified certified).trans settled⟩

theorem Born.name {config : AgentConfig} {seed : Core.Bytes 32} {card : String}
    (born : Born root params io d config seed card) : config.name = params.name := by
  cases born <;> rfl

/-- A birth ends with the files of the way that it took. -/
theorem birthAgent_ok (tamed : Tamed root params io d.tree)
    (ran : birthAgent root params io d = (.ok result, d')) :
    ∃ config seed card, Born root params io d config seed card ∧
      Written (agentDir root params.name) config seed card d'.tree ∧
      result.agentInfo.name = params.name := by
  by_cases viaMesh : ViaMesh root params io d
  · obtain ⟨mesh, found, after, tried, passed⟩ := viaMesh
    rw [birthAgent_viaMesh tried passed] at ran
    obtain ⟨same, rfl⟩ := Prod.mk.inj ran
    obtain rfl := Except.ok.inj same
    obtain ⟨certificate, d₁, certified, settled⟩ := birthViaMesh_ok passed
    obtain ⟨written, rfl⟩ := settleMesh_ok (certified.tree ▸ tamed.mesh mesh tried) settled
    exact ⟨_, _, _, .viaMesh tried certified settled, written, rfl⟩
  · rw [birthAgent_local viaMesh] at ran
    have start := tamed.onDisk.near (fallback_inside tamed).1
    obtain ⟨⟨expiresAt, timed, written⟩, named⟩ := birthLocal_ok start ran
    exact ⟨_, _, _, .locally viaMesh timed, written, named⟩

theorem birthAgent_inside (tamed : Tamed root params io d.tree) :
    Inside (agentDir root params.name) d.tree (birthAgent root params io d).2.tree := by
  by_cases viaMesh : ViaMesh root params io d
  · obtain ⟨mesh, found, after, tried, passed⟩ := viaMesh
    have inside := birthViaMesh_inside (tamed.mesh mesh tried)
    rw [birthAgent_viaMesh tried passed]
    rw [passed] at inside
    exact inside
  · rw [birthAgent_local viaMesh]
    have start := fallback_inside tamed
    exact Inside.trans _ _ _ _ start (birthLocal_inside (tamed.onDisk.near start.1))

end Mesh

/-! ### Registration -/

section Register
variable [ConfigFormat] {root : List String} {name : String} {config : AgentConfig} {seed : Core.Bytes 32}
  {card : String} {d d' : Disk}

theorem reads_readConfig (root : List String) (name : String) : Reads (readConfig root name) := by
  refine reads_bind (reads_ask _) fun there => ?_
  cases there with
  | false => exact reads_pure _
  | true =>
    refine reads_bind (reads_readToString _) fun content => ?_
    exact reads_bind (reads_ofExcept _) fun config => reads_pure _

theorem readConfig_ok (roundTrip : ConfigFormat.RoundTrip)
    (written : Written (agentDir root name) config seed card d.tree) {found : Option AgentConfig}
    (ran : readConfig root name d = (.ok found, d')) : found = some config := by
  obtain ⟨legal, ⟨text, serialized, held⟩, _, _⟩ := written
  obtain ⟨there, d₀, asked, rest⟩ := DiskM.bind_ok ran
  obtain ⟨rfl, rfl⟩ := ask_ok asked
  have present : d₀.tree.exists (agentDir root name ++ ["agent.toml"]) = true := by
    rw [FileTree.exists, Bool.and_eq_true]
    exact ⟨legal, by rw [show d₀.tree.lookup (agentDir root name ++ ["agent.toml"]) = _ from held]; rfl⟩
  rw [if_pos present] at rest
  obtain ⟨content, d₁, read, rest⟩ := DiskM.bind_ok rest
  obtain ⟨parsed, d₂, parsing, rest⟩ := DiskM.bind_ok rest
  obtain ⟨rfl, rfl⟩ := DiskM.pure_ok rest
  obtain rfl := FileTree.holds_text (readToString_ok read).1 held
  have parses := (ofExcept_ok parsing).1
  rw [roundTrip config content serialized] at parses
  exact congrArg some (Except.ok.inj parses).symm

theorem registerFiles_works (root : List String) (config : AgentConfig) :
    Works (agentDir root config.name) [configFile] (registerFiles root config) := by
  intro R refl trans dirs files
  refine relates_bind trans ?_ fun _ => writeConfig_works _ _ R refl trans dirs files
  exact makeDirs_works _ _ (by unfold Plain; decide) R refl trans dirs fun _ member => nomatch member

/-- Registering what was born writes the same configuration once more. -/
theorem registerBorn_ok (roundTrip : ConfigFormat.RoundTrip) (named : config.name = name)
    (written : Written (agentDir root name) config seed card d.tree) {found : Option AgentConfig}
    (ran : registerBorn root name d = (.ok found, d')) :
    found = some config ∧ Written (agentDir root name) config seed card d'.tree := by
  subst named
  obtain ⟨read, d₀, reading, rest⟩ := DiskM.bind_ok ran
  obtain rfl := readConfig_ok roundTrip written reading
  have same := reads_readConfig root config.name d
  rw [reading] at same
  obtain ⟨_, d₁, wrote, rest⟩ := DiskM.bind_ok rest
  obtain ⟨rfl, rfl⟩ := DiskM.pure_ok rest
  obtain ⟨_, _, key, card⟩ := written
  rw [← same] at key card
  have works := registerFiles_works root config
  have keyKept := works.holds (by unfold Plain; decide) (show keyFile ∈ ownFiles by decide)
      (by decide) _ d₀ key
  have cardKept := works.holds (by unfold Plain; decide) (show cardFile ∈ ownFiles by decide)
      (by decide) _ d₀ card
  rw [wrote] at keyKept cardKept
  obtain ⟨_, _, _, wroteConfig⟩ := DiskM.bind_ok wrote
  obtain ⟨legal, config⟩ := writeConfig_ok wroteConfig
  exact ⟨rfl, legal, config, keyKept, cardKept⟩

theorem registerBorn_inside (roundTrip : ConfigFormat.RoundTrip) (named : config.name = name)
    (written : Written (agentDir root name) config seed card d.tree) :
    Inside (agentDir root name) d.tree (registerBorn root name d).2.tree := by
  subst named
  have read := (reads_readConfig root config.name).relates (Inside.refl (agentDir root config.name)) d
  refine bind_leads read fun found d₀ reading read => ?_
  obtain rfl := readConfig_ok roundTrip written reading
  have wrote := Inside.trans _ _ _ _ read ((registerFiles_works root config).inside (by unfold Plain; decide)
    (by decide) d₀)
  exact bind_leads wrote fun _ d₁ _ wrote => wrote

end Register

section Nursery
variable [Ed25519] [Chrono] [ConfigFormat] [FromStr TemplateManifest] [FromStr Json]
    [FromStr BirthCertificate]
variable {root : List String} {params : BirthParams} {io : BirthIo} {nursery nursery' : Nursery}
  {maxAgents : UInt32} {result : BirthResult}

theorem birthRegistered_ok (roundTrip : ConfigFormat.RoundTrip) {d d' : Disk}
    (tamed : Tamed root params io d.tree) {found : Option AgentConfig}
    (ran : birthRegistered root params io d = (.ok (result, found), d')) :
    ∃ config seed card, Born root params io d config seed card ∧ found = some config ∧
      Written (agentDir root params.name) config seed card d'.tree ∧
      Inside (agentDir root params.name) d.tree d'.tree := by
  obtain ⟨_, d₁, birth, rest⟩ := DiskM.bind_ok ran
  obtain ⟨_, d₂, registered, rest⟩ := DiskM.bind_ok rest
  obtain ⟨same, rfl⟩ := DiskM.pure_ok rest
  obtain ⟨rfl, rfl⟩ := Prod.mk.inj same
  replace registered := mapError_ok registered
  obtain ⟨config, seed, card, born, written, named⟩ := birthAgent_ok tamed birth
  rw [named] at registered
  have first := birthAgent_inside tamed
  have second := registerBorn_inside roundTrip born.name written
  rw [birth] at first
  rw [registered] at second
  obtain ⟨rfl, kept⟩ := registerBorn_ok roundTrip born.name written registered
  exact ⟨config, seed, card, born, rfl, kept, Inside.trans _ _ _ _ first second⟩

omit [Ed25519] [Chrono] [ConfigFormat] [FromStr TemplateManifest] [FromStr Json] [FromStr BirthCertificate] in
theorem Nursery.admit_absent (admitted : nursery.admission maxAgents params io = .ok ()) :
    nursery.supervisor.getAgent params.name = none := by
  obtain ⟨_, absent, _⟩ := Core.bind_ok admitted
  unfold checkAbsent at absent
  split at absent
  · cases absent
  · rename_i unmanaged
    simpa using unmanaged

/-- A successful call has passed the checks and leaves the agent registered with the files of the
way that the birth took. -/
theorem Nursery.birthAgent_ok (roundTrip : ConfigFormat.RoundTrip)
    (tamed : Tamed root params io nursery.disk.tree)
    (ran : nursery.birthAgent root maxAgents params io = (.ok result, nursery')) :
    nursery.supervisor.getAgent params.name = none ∧
      ∃ config seed card, Born root params io nursery.disk config seed card ∧
        nursery'.supervisor = nursery.supervisor.register config ∧
        Written (agentDir root params.name) config seed card nursery'.disk.tree ∧
        Inside (agentDir root params.name) nursery.disk.tree nursery'.disk.tree := by
  unfold Nursery.birthAgent at ran
  split at ran
  · cases (Prod.mk.inj ran).1
  · rename_i checked
    have absent := Nursery.admit_absent checked
    refine ⟨absent, ?_⟩
    split at ran
    · cases (Prod.mk.inj ran).1
    · rename_i disk birth
      obtain ⟨_, _, _, _, missing, _⟩ := birthRegistered_ok roundTrip tamed birth
      cases missing
    · rename_i config disk birth
      obtain ⟨_, rfl⟩ := Prod.mk.inj ran
      obtain ⟨config, seed, card, born, found, written, inside⟩ :=
        birthRegistered_ok roundTrip tamed birth
      obtain rfl := Option.some.inj found
      exact ⟨config, seed, card, born, rfl, written, inside⟩

end Nursery

/-! ### A daemon without a mesh -/

namespace StandIn

def configKey (config : AgentConfig) : String := config.name ++ " " ++ config.templateVersion

/-- A format that knows some configurations. -/
@[reducible] def configs (known : List AgentConfig) : ConfigFormat where
  toStringPretty config := if config ∈ known then .ok (configKey config) else .error "unsupported type"
  fromStr text := orErr (known.find? fun config => configKey config = text) "expected an equals"

theorem configs_roundTrip {known : List AgentConfig} (distinct : (known.map configKey).Nodup) :
    @ConfigFormat.RoundTrip (configs known) := by
  intro config text serialized
  replace serialized : (if config ∈ known then Except.ok (configKey config) else .error "unsupported type") =
    Except.ok text := serialized
  split at serialized
  · rename_i member
    obtain rfl := Except.ok.inj serialized
    show orErr (known.find? fun other => decide (configKey other = configKey config)) _ = _
    cases found : known.find? fun other => decide (configKey other = configKey config) with
    | none => exact absurd (decide_eq_true rfl) (List.find?_eq_none.mp found config member)
    | some other =>
      have same : configKey other = configKey config := by simpa using List.find?_some found
      rw [List.inj_on_of_nodup_map distinct (List.mem_of_find?_eq_some found) member same,
        orErr_some]
  · cases serialized

scoped instance manifests : FromStr TemplateManifest := Core.StandIn.parser []

/-- A template that is not installed, or has no manifest that can be read. -/
theorem listed_bare (root : List String) (name template : String) (tree : FileTree) :
    Listed root name template tree := by
  intro d manifest d' _ got
  have unread : ∀ path d, (parseManifest path d).1.toOption = none := by
    intro path d
    cases ran : parseManifest path d with
    | mk answer after =>
      cases answer with
      | error e => rfl
      | ok manifest =>
        obtain ⟨content, middle, _, parsed⟩ := DiskM.bind_ok ran
        cases (ofExcept_ok parsed).1
  unfold getTemplate at got
  obtain ⟨there, d₁, _, got⟩ := DiskM.bind_ok got
  split at got
  · cases (DiskM.pure_ok got).1
  · obtain ⟨listed, d₂, _, got⟩ := DiskM.bind_ok got
    split at got
    · cases (DiskM.pure_ok got).1
    · obtain ⟨found, d₃, parsed, _⟩ := DiskM.bind_ok got
      have none := unread (templateDir root template ++ ["manifest.toml"]) d₂
      rw [parsed] at none
      cases none

def namedParams (name : String) : BirthParams where
  template := "base"
  name := name
  allowedDomains := []
  allowedScopes := ["read"]
  ttlSeconds := 3600
  model := {}
  resources := {}

def localIo : LocalIo where
  agentId := Uuid.nil
  now := 0
  seed := ⟨List.replicate 32 7, by decide⟩
  install := ⟨.ok (), id⟩

def unmeshed : BirthIo := ⟨.free, .free, none, localIo⟩

theorem scripts_unmeshed (root : List String) (params : BirthParams) (tree : FileTree) :
    Scripts root params unmeshed tree where
  onDisk _ _ := Beside.refl _ _
  mesh _ tried := by cases tried

theorem tamed_unmeshed (root : List String) (params : BirthParams) (tree : FileTree) :
    Tamed root params unmeshed tree :=
  (scripts_unmeshed root params tree).tamed (listed_bare _ _ _ _)

theorem run_ok {ε α β : Type} {run : Except ε α × β} (ok : run.1.toOption.isSome = true) :
    ∃ a b, run = (.ok a, b) := by
  obtain ⟨answer, b⟩ := run
  cases answer with
  | error e => cases ok
  | ok a => exact ⟨a, b, rfl⟩

def bareNursery : Nursery := ⟨∅, ⟨bareTree, []⟩⟩

def bornConfig (name : String) : AgentConfig :=
  (namedParams name).localConfig localIo (3600 * 1000000000)

scoped instance values : FromStr Json := Core.StandIn.parser []

/-! ### A daemon with a mesh -/

def certificate (approvedScopes : List String) : BirthCertificate where
  certificateId := "cert-1"
  agentDid := "did:claw:scout"
  agentId := Uuid.nil.toText
  agentName := "scout"
  daemonDid := "local"
  template := "base"
  approvedScopes := approvedScopes
  approvedDomains := []
  issuedAt := 0
  expiresAt := 3600 * 1000000000
  issuerSignature := ""
  validatorRef := ""
  trustChain := []

scoped instance certificates : FromStr BirthCertificate :=
  Core.StandIn.parser [("certificate", certificate ["read"])]

def meshIo (answer : HttpAnswer) : MeshIo where
  seed := ⟨List.replicate 32 9, by decide⟩
  requestId := Uuid.nil
  hostname := some "host"
  requestedAt := 0
  server _ := .ok answer
  fallbackId := Uuid.nil
  createdAt := 0
  install := ⟨.ok (), id⟩

def meshed (answer : HttpAnswer) : BirthIo := ⟨.team, .team, some (meshIo answer), localIo⟩

theorem scripts_meshed (root : List String) (params : BirthParams) (answer : HttpAnswer)
    (tree : FileTree) : Scripts root params (meshed answer) tree where
  onDisk _ _ := Beside.refl _ _
  mesh mesh tried _ _ := by
    obtain rfl := Option.some.inj tried
    exact Beside.refl _ _

theorem tamed_meshed (root : List String) (params : BirthParams) (answer : HttpAnswer)
    (tree : FileTree) : Tamed root params (meshed answer) tree :=
  (scripts_meshed root params answer tree).tamed (listed_bare _ _ _ _)

def approved : HttpAnswer := ⟨"200 OK", true, .ok "certificate"⟩

def meshedConfig (approvedScopes : List String) : AgentConfig :=
  (namedParams "scout").meshConfig (meshIo approved) (certificate approvedScopes)

end StandIn
end GrokingClawId.Daemon
