import GrokingClawId.Daemon.BirthReached

/-!
# Failed births

What a birth that ends with an error leaves behind. Nothing is undone, so what is left depends on how
far it came: an `agent.toml` that was written stays, and the daemon loads it when it starts again.
-/

namespace GrokingClawId.Daemon
open GrokingClawId.Core FileTree DiskM

/-! ### The start of the daemon -/

section Init
variable [ConfigFormat]

/-- One round of the loop of `init`. -/
def loadEntry (root : List String) (agents : Supervisor) (entry : String) :
    DiskM String Supervisor := do
  let path := root ++ ["agents"] ++ [entry]
  if ← DiskM.ask fun tree => decide (tree.lookup path = some .dir) then
    if ← DiskM.ask (·.exists (path ++ ["agent.toml"])) then
      let configPath := path ++ ["agent.toml"]
      let content ← readToString configPath
      let config ← DiskM.ofExcept ((ConfigFormat.fromStr content).mapError fun _ =>
        s!"Failed to parse {Path.display configPath}")
      pure (agents.insert config.name (Supervisor.idle config .stopped))
    else pure agents
  else pure agents

/-- The loop of `init` over what `read_dir` gives. -/
def loadEntries (root : List String) : Supervisor → List String → DiskM String Supervisor
  | agents, [] => pure agents
  | agents, entry :: entries => loadEntry root agents entry >>= fun agents => loadEntries root agents entries

/-- An agent is loaded from the `agent.toml` in one of the directories. -/
theorem loadEntry_ok {root : List String} {agents loaded : Supervisor} {entry : String}
    {d d' : Disk} (ran : loadEntry root agents entry d = (.ok loaded, d')) :
    d'.tree = d.tree ∧ (loaded = agents ∨ ∃ text config,
      d.tree.Holds (root ++ ["agents"] ++ [entry] ++ configFile) (.text text) ∧
      ConfigFormat.fromStr text = .ok config ∧
      loaded = agents.insert config.name (Supervisor.idle config .stopped)) := by
  obtain ⟨isDir, d₁, asked, entered⟩ := DiskM.bind_ok ran
  obtain ⟨_, rfl⟩ := ask_ok asked
  split at entered
  · obtain ⟨there, d₂, looked, opened⟩ := DiskM.bind_ok entered
    obtain ⟨_, rfl⟩ := ask_ok looked
    split at opened
    · obtain ⟨content, d₃, read, rest⟩ := DiskM.bind_ok opened
      obtain ⟨config, d₄, parsing, ended⟩ := DiskM.bind_ok rest
      obtain ⟨rfl, rfl⟩ := DiskM.pure_ok ended
      obtain ⟨parsed, rfl⟩ := ofExcept_ok parsing
      obtain ⟨held, same⟩ := readToString_ok read
      refine ⟨same, .inr ⟨content, config, held, ?_, rfl⟩⟩
      cases parses : (ConfigFormat.fromStr content : Except String AgentConfig) with
      | error e =>
        rw [parses] at parsed
        cases parsed
      | ok found =>
        rw [parses] at parsed
        exact congrArg Except.ok (Except.ok.inj parsed)
    · obtain ⟨rfl, rfl⟩ := DiskM.pure_ok opened
      exact ⟨rfl, .inl rfl⟩
  · obtain ⟨rfl, rfl⟩ := DiskM.pure_ok entered
    exact ⟨rfl, .inl rfl⟩

theorem loadEntries_ok {root : List String} {agents loaded : Supervisor} {entries : List String}
    {d d' : Disk} (ran : loadEntries root agents entries d = (.ok loaded, d')) {name : String}
    {agent : AgentProcess} (found : loaded.lookup name = some agent) :
    agents.lookup name = some agent ∨ ∃ entry ∈ entries, ∃ text config,
      d.tree.Holds (root ++ ["agents"] ++ [entry] ++ configFile) (.text text) ∧
      ConfigFormat.fromStr text = .ok config ∧ config.name = name ∧
      agent = Supervisor.idle config .stopped := by
  induction entries generalizing agents d with
  | nil =>
    obtain ⟨rfl, rfl⟩ := DiskM.pure_ok ran
    exact .inl found
  | cons entry entries ih =>
    obtain ⟨next, middle, first, rest⟩ := DiskM.bind_ok ran
    obtain ⟨same, step⟩ := loadEntry_ok first
    rcases ih rest with before | ⟨other, member, text, config, held, later⟩
    · rcases step with rfl | ⟨text, config, held, parsed, rfl⟩
      · exact .inl before
      · by_cases named : config.name = name
        · subst named
          rw [AList.lookup_insert] at before
          exact .inr ⟨entry, List.mem_cons_self, text, config, held, parsed, rfl,
            (Option.some.inj before).symm⟩
        · rw [AList.lookup_insert_ne (Ne.symm named)] at before
          exact .inl before
    · rw [same] at held
      exact .inr ⟨other, List.mem_cons_of_mem _ member, text, config, held, later⟩

/-- `init`, with the entries of the directory of the agents as `read_dir` gives them. -/
def initAgents (root : List String) (listing : Except String (List String)) :
    DiskM String Supervisor := do
  if ← DiskM.ask (·.exists (root ++ ["agents"])) then
    let entries ← DiskM.ofExcept (listing.mapError fun _ => "Failed to read agents directory")
    loadEntries root ∅ entries
  else
    (createDirAll (root ++ ["agents"])).mapError fun _ => "Failed to create agents directory"
    pure ∅

theorem initAgents_ok {root : List String} {loaded : Supervisor}
    {listing : Except String (List String)} {d d' : Disk}
    (ran : initAgents root listing d = (.ok loaded, d')) {name : String} {agent : AgentProcess}
    (found : loaded.lookup name = some agent) : ∃ entry text config,
      d.tree.Holds (root ++ ["agents"] ++ [entry] ++ configFile) (.text text) ∧
      ConfigFormat.fromStr text = .ok config ∧ config.name = name ∧
      agent = Supervisor.idle config .stopped := by
  obtain ⟨there, d₁, asked, entered⟩ := DiskM.bind_ok ran
  obtain ⟨_, rfl⟩ := ask_ok asked
  split at entered
  · obtain ⟨entries, d₂, listed, read⟩ := DiskM.bind_ok entered
    obtain ⟨_, rfl⟩ := ofExcept_ok listed
    rcases loadEntries_ok read found with missing | ⟨entry, _, loadedFrom⟩
    · cases missing
    · exact ⟨entry, loadedFrom⟩
  · obtain ⟨_, d₂, _, ended⟩ := DiskM.bind_ok entered
    obtain ⟨rfl, rfl⟩ := DiskM.pure_ok ended
    cases found

end Init

/-! ### What has been written stays -/

section Begun
variable [Ed25519] [Chrono] [ConfigFormat] [FromStr TemplateManifest] [FromStr Json]
    [FromStr BirthCertificate]
variable {root : List String} {params : BirthParams}

section Stays
variable {d : Disk}

omit [FromStr Json] [FromStr BirthCertificate] in
theorem settleMesh_leads {io : MeshIo} {certificate : BirthCertificate}
    (lasting : Lasting (configPlace root params.name) io.install)
    (begun : HasFile (configPlace root params.name) (beginMesh root params io certificate d).2.tree) :
    HasFile (configPlace root params.name) (settleMesh root params io certificate d).2.tree := by
  rw [settleMesh_eq]
  refine bind_leads begun fun _ d₁ _ begun => ?_
  exact bind_leads (lasting.install _ _ _ d₁ begun) fun _ d₂ _ installed => installed

omit [FromStr Json] [FromStr BirthCertificate] in
theorem birthLocal_eq {io : LocalIo} {expiresAt : DateTime}
    (timed : localExpiry params io = .ok expiresAt) (d : Disk) :
    birthLocal root params io d = (liftIo (beginLocal root params io expiresAt) >>= fun _ =>
      liftIo (writeLocalIdentity root params io expiresAt) >>= fun _ =>
        liftIo (installForAgent root params.template (agentDir root params.name) io.install) >>= fun _ =>
          pure { agentInfo := params.info io.agentId none io.now params.allowedScopes, birthMode := .local,
                 certificate := none }) d := by
  rw [birthLocal, bind_run, timed]
  rfl

omit [FromStr Json] [FromStr BirthCertificate] in
theorem birthLocal_untimed {io : LocalIo} {fault : Fault}
    (timed : localExpiry params io = .error fault) (d : Disk) :
    birthLocal root params io d = (.error fault, d) := by
  rw [birthLocal, bind_run, timed]
  rfl

omit [FromStr Json] [FromStr BirthCertificate] in
theorem birthLocal_leads {io : LocalIo} (lasting : Lasting (configPlace root params.name) io.install)
    (left : HasFile (configPlace root params.name) d.tree ∨ LocalBegun root params io d) :
    HasFile (configPlace root params.name) (birthLocal root params io d).2.tree := by
  cases timed : localExpiry params io with
  | error fault =>
    rw [birthLocal_untimed timed]
    rcases left with there | ⟨expiresAt, other, _⟩
    · exact there
    · rw [timed] at other
      cases other
  | ok expiresAt =>
    have works := beginLocal_works root params io expiresAt
    have works' := writeLocalIdentity_works root params io expiresAt
    have begun : HasFile (configPlace root params.name) (beginLocal root params io expiresAt d).2.tree := by
      rcases left with there | ⟨other, same, begun⟩
      · exact works.persists _ d there
      · obtain rfl := Except.ok.inj (timed.symm.trans same)
        exact begun
    rw [birthLocal_eq timed]
    refine bind_leads begun fun _ d₁ _ begun => ?_
    refine bind_leads (works'.persists _ d₁ begun) fun _ d₂ _ wrote => ?_
    exact bind_leads (lasting.install _ _ _ d₂ wrote) fun _ d₃ _ installed => installed

theorem birthViaMesh_leads {io : MeshIo} (lasting : Lasting (configPlace root params.name) io.install)
    (left : HasFile (configPlace root params.name) d.tree ∨ MeshBegun root params io d) :
    HasFile (configPlace root params.name) (birthViaMesh root params io d).2.tree := by
  rcases left with there | ⟨certificate, d₁, certified, begun⟩
  · refine bind_leads ((reads_birthRequest root params io).relates (Persists.refl _) d there) fun request
      d₁ _ there => ?_
    refine bind_leads there fun certificate d₂ _ there => ?_
    exact settleMesh_leads lasting ((beginMesh_works root params io certificate).persists _ _ there)
  · rw [birthViaMesh_certified certified]
    exact settleMesh_leads lasting begun

end Stays

/-- The script of the template leaves `agent.toml` in both ways. -/
structure Lasts (root : List String) (params : BirthParams) (io : BirthIo) : Prop where
  onDisk : Lasting (configPlace root params.name) io.onDisk.install
  mesh : ∀ mesh, io.tried = some mesh → Lasting (configPlace root params.name) mesh.install

/-- What is there before a birth, or is left when it comes to writing it, is there in the end. -/
theorem birthAgent_leads {io : BirthIo} {d : Disk} (lasts : Lasts root params io)
    (left : HasFile (configPlace root params.name) d.tree ∨ Begun root params io d) :
    HasFile (configPlace root params.name) (birthAgent root params io d).2.tree := by
  have tried : ∀ mesh, io.tried = some mesh →
      HasFile (configPlace root params.name) d.tree ∨ MeshBegun root params mesh d →
      HasFile (configPlace root params.name) (birthViaMesh root params mesh d).2.tree :=
    fun mesh tried left => birthViaMesh_leads (lasts.mesh mesh tried) left
  by_cases viaMesh : ViaMesh root params io d
  · obtain ⟨mesh, result, d', found, ran⟩ := viaMesh
    have leads := tried mesh found
    rw [birthAgent_viaMesh found ran]
    rw [ran] at leads
    refine leads (left.imp_right ?_)
    rintro (⟨other, same, begun⟩ | ⟨notMesh, _⟩)
    · obtain rfl := Option.some.inj (found.symm.trans same)
      exact begun
    · exact absurd ⟨mesh, result, d', found, ran⟩ notMesh
  · rw [birthAgent_local viaMesh]
    refine birthLocal_leads lasts.onDisk ?_
    have before : HasFile (configPlace root params.name) d.tree ∨
        (∃ mesh, io.tried = some mesh ∧ MeshBegun root params mesh d) →
        HasFile (configPlace root params.name) (fallback root params io d).tree := by
      unfold fallback
      cases found : io.tried with
      | none =>
        rintro (there | ⟨mesh, same, _⟩)
        · exact there
        · cases same
      | some mesh =>
        intro left
        refine tried mesh found (left.imp_right ?_)
        rintro ⟨other, same, begun⟩
        obtain rfl := Option.some.inj same
        exact begun
    rcases left with there | begun | ⟨_, begun⟩
    · exact .inl (before (.inl there))
    · exact .inl (before (.inr begun))
    · exact .inr begun

theorem birthRegistered_leads {io : BirthIo} {d : Disk} (lasts : Lasts root params io)
    (left : HasFile (configPlace root params.name) d.tree ∨ Begun root params io d) :
    HasFile (configPlace root params.name) (birthRegistered root params io d).2.tree := by
  have persists : ∀ name, Relates (Persists (configPlace root params.name)) (registerBorn root name) := by
    intro name
    refine relates_bind (Persists.trans _) ((reads_readConfig root name).relates (Persists.refl _))
      fun found => ?_
    cases found with
    | none => exact relates_pure (Persists.refl _) _
    | some config =>
      refine relates_bind (Persists.trans _) ((registerFiles_works root config).persists _) fun _ => ?_
      exact relates_pure (Persists.refl _) _
  refine bind_leads (birthAgent_leads lasts left) fun result d₁ _ there => ?_
  exact bind_leads (persists _ d₁ there) fun _ d₂ _ there => there

/-! ### A birth that does not come to `agent.toml` -/

/-- No other `agent.toml` is changed, and none is left at the place. -/
structure Quiet (place : Location) (tree tree' : FileTree) : Prop where
  others : ∀ loc, loc.getLast? = some "agent.toml" → loc ≠ place → KeepsFile loc tree tree'
  place : ¬ HasFile place tree → ¬ HasFile place tree'

omit [Ed25519] [Chrono] [ConfigFormat] [FromStr TemplateManifest] [FromStr Json] [FromStr BirthCertificate] in
theorem Quiet.refl (place : Location) (tree : FileTree) : Quiet place tree tree :=
  ⟨fun loc _ _ => KeepsFile.refl loc tree, id⟩

omit [Ed25519] [Chrono] [ConfigFormat] [FromStr TemplateManifest] [FromStr Json] [FromStr BirthCertificate] in
theorem Quiet.trans {place : Location} {t t' t'' : FileTree} (first : Quiet place t t')
    (second : Quiet place t' t'') :
    Quiet place t t'' :=
  ⟨fun loc last away => KeepsFile.trans _ _ _ _ (first.others loc last away) (second.others loc last away),
    fun absent => second.place (first.place absent)⟩

omit [Ed25519] [Chrono] [ConfigFormat] [FromStr TemplateManifest] [FromStr Json] [FromStr BirthCertificate] in
/-- A program that writes the files of an agent, when it has left none at the place. -/
theorem Works.quiet {ε α : Type} {name : String} {tails : List (List String)} {m : DiskM ε α}
    (works : Works (agentDir root name) tails m)
    (own : ∀ tail ∈ tails, tail ∈ [certificateFile, keyFile, cardFile, configFile]) {d : Disk}
    (absent : ¬ HasFile (configPlace root name) (m d).2.tree) :
    Quiet (configPlace root name) d.tree (m d).2.tree := by
  refine ⟨fun loc last away => works.keepsFile (fun tail member => ?_) (fun tail member => ?_) d,
    fun _ => absent⟩
  · have plain : ∀ tail ∈ [certificateFile, keyFile, cardFile, configFile], ∀ name ∈ tail,
        Plain name := by
      unfold Plain
      decide
    exact plain tail (own tail member)
  · rintro rfl
    have ends : ∀ tail ∈ [certificateFile, keyFile, cardFile, configFile],
        tail.getLast? = some "agent.toml" → tail = configFile := by decide
    have nonempty : ∀ tail ∈ [certificateFile, keyFile, cardFile, configFile],
        tail ≠ [] := by decide
    rw [List.getLast?_append_of_ne_nil _ (nonempty tail (own tail member))] at last
    exact away (by rw [ends tail (own tail member) last, configPlace])

theorem birthViaMesh_quiet {io : MeshIo} {d : Disk} (early : ¬ MeshBegun root params io d) :
    (∃ e, (birthViaMesh root params io d).1 = .error e) ∧
      Quiet (configPlace root params.name) d.tree (birthViaMesh root params io d).2.tree := by
  have asked := reads_birthRequest root params io d
  cases ran : birthRequest root params io d with
  | mk answer d₁ =>
    rw [ran] at asked
    cases answer with
    | error e =>
      rw [birthViaMesh, bind_error ran, asked]
      exact ⟨⟨e, rfl⟩, Quiet.refl _ _⟩
    | ok request =>
      cases answered : readCertificate (io.server request) with
      | error e =>
        have failed : birthViaMesh root params io d = (.error e, d₁) := by
          rw [birthViaMesh, bind_run, ran]
          show (DiskM.ofExcept (readCertificate (io.server request)) >>= _) d₁ = _
          exact bind_error (by rw [answered]; rfl)
        rw [failed, asked]
        exact ⟨⟨e, rfl⟩, Quiet.refl _ _⟩
      | ok certificate =>
        have certified : Certified root params io d certificate d₁ := ⟨request, ran, answered⟩
        have absent : ¬ HasFile (configPlace root params.name)
            (beginMesh root params io certificate d₁).2.tree :=
          fun left => early ⟨certificate, d₁, certified, left⟩
        have quiet := (beginMesh_works root params io certificate).quiet (by decide) absent
        rw [birthViaMesh_certified certified, settleMesh_eq, ← certified.tree]
        cases begun : beginMesh root params io certificate d₁ with
        | mk answer d₂ =>
          rw [begun] at absent quiet
          cases answer with
          | ok done => exact absurd (beginMesh_ok begun) absent
          | error e =>
            rw [bind_error begun]
            exact ⟨⟨e, rfl⟩, quiet⟩

omit [FromStr Json] [FromStr BirthCertificate] in
theorem birthLocal_quiet {io : LocalIo} {d : Disk} (early : ¬ LocalBegun root params io d) :
    (∃ e, (birthLocal root params io d).1 = .error e) ∧
      Quiet (configPlace root params.name) d.tree (birthLocal root params io d).2.tree := by
  cases timed : localExpiry params io with
  | error fault =>
    rw [birthLocal_untimed timed]
    exact ⟨⟨fault, rfl⟩, Quiet.refl _ _⟩
  | ok expiresAt =>
    have absent : ¬ HasFile (configPlace root params.name) (beginLocal root params io expiresAt d).2.tree :=
      fun left => early ⟨expiresAt, timed, left⟩
    have quiet := (beginLocal_works root params io expiresAt).quiet (by decide) absent
    rw [birthLocal_eq timed]
    cases ran : beginLocal root params io expiresAt d with
    | mk answer d₁ =>
      rw [ran] at absent quiet
      cases answer with
      | ok done =>
        obtain ⟨_, text, _, held⟩ := beginLocal_ok ran
        exact absurd (hasFile_config held) absent
      | error e =>
        have lifted : liftIo (beginLocal root params io expiresAt) d = (.error (.error e), d₁) := by
          rw [liftIo, mapError, ran]
          rfl
        rw [bind_error lifted]
        exact ⟨⟨_, rfl⟩, quiet⟩

/-- A birth that leaves nothing where `agent.toml` lies has failed in both ways. -/
theorem birthAgent_quiet {io : BirthIo} {d : Disk} (early : ¬ Begun root params io d) :
    (∃ e, (birthAgent root params io d).1 = .error e) ∧
      Quiet (configPlace root params.name) d.tree (birthAgent root params io d).2.tree := by
  have mesh : ∀ mesh, io.tried = some mesh → ¬ MeshBegun root params mesh d :=
    fun mesh tried begun => early (.inl ⟨mesh, tried, begun⟩)
  have notMesh : ¬ ViaMesh root params io d := by
    rintro ⟨tried, result, d', found, ran⟩
    obtain ⟨e, failed⟩ := (birthViaMesh_quiet (mesh tried found)).1
    rw [ran] at failed
    cases failed
  have before : Quiet (configPlace root params.name) d.tree (fallback root params io d).tree := by
    unfold fallback
    cases found : io.tried with
    | none => exact Quiet.refl _ _
    | some tried => exact (birthViaMesh_quiet (mesh tried found)).2
  obtain ⟨failed, quiet⟩ := birthLocal_quiet fun begun => early (.inr ⟨notMesh, begun⟩)
  rw [birthAgent_local notMesh]
  exact ⟨failed, before.trans quiet⟩

theorem birthRegistered_quiet {io : BirthIo} {d : Disk} (early : ¬ Begun root params io d) :
    Quiet (configPlace root params.name) d.tree (birthRegistered root params io d).2.tree := by
  obtain ⟨⟨e, failed⟩, quiet⟩ := birthAgent_quiet early
  have ended : birthAgent root params io d = (.error e, (birthAgent root params io d).2) :=
    Prod.ext failed rfl
  rw [birthRegistered, bind_error ended]
  exact quiet

/-! ### A call that fails -/

/-- The name is free and nothing lies where its `agent.toml` will. -/
structure Unborn (root : List String) (name : String) (nursery : Nursery) : Prop where
  unregistered : nursery.supervisor.getAgent name = none
  unconfigured : ¬ HasFile (configPlace root name) nursery.disk.tree

/-- No agent of the name is left: none is registered, it has no `agent.toml`, and a daemon that
starts loads one only from a file that was there before. -/
structure Vanishes (root : List String) (name : String) (nursery nursery' : Nursery) : Prop where
  unborn : Unborn root name nursery'
  unloaded : ∀ listing d loaded d', d.tree = nursery'.disk.tree →
    initAgents root listing d = (.ok loaded, d') → ∀ agent, loaded.lookup name = some agent →
    ∃ entry text config,
      nursery.disk.tree.node (target (root ++ ["agents"] ++ [entry]) ++ configFile) =
        some (.file (.text text)) ∧
      ConfigFormat.fromStr text = .ok config ∧ config.name = name

omit [Ed25519] [Chrono] [FromStr TemplateManifest] [FromStr Json] [FromStr BirthCertificate] in
theorem Vanishes.of_quiet {nursery nursery' : Nursery} {name : String}
    (unborn : Unborn root name nursery) (same : nursery'.supervisor = nursery.supervisor)
    (quiet : Quiet (configPlace root name) nursery.disk.tree nursery'.disk.tree) :
    Vanishes root name nursery nursery' := by
  refine ⟨⟨same ▸ unborn.unregistered, quiet.place unborn.unconfigured⟩, ?_⟩
  intro listing d loaded d' tree ran agent found
  obtain ⟨entry, text, config, held, parsed, named, _⟩ := initAgents_ok ran found
  obtain ⟨loc, walked, file⟩ := Option.bind_eq_some_iff.mp held
  obtain rfl := walk_target walked
  rw [tree, target_append_plain _ (ownFiles_plain configFile (by decide))] at file
  refine ⟨entry, text, config, (quiet.others _ ?_ ?_ _).mp file, parsed, named⟩
  · rw [configFile, List.getLast?_concat]
  · intro here
    rw [here] at file
    exact quiet.place unborn.unconfigured ⟨_, file⟩

/-- A call fails at the checks, or afterwards with the agents as they were. -/
theorem Nursery.birthAgent_error {nursery nursery' : Nursery} {maxAgents : UInt32} {io : BirthIo}
    {fault : Fault} (ran : nursery.birthAgent root maxAgents params io = (.error fault, nursery')) :
    (nursery.admission maxAgents params io ≠ .ok () ∧ nursery' = nursery) ∨
      (nursery.admission maxAgents params io = .ok () ∧ nursery'.supervisor = nursery.supervisor ∧
        birthRegistered root params io nursery.disk = (.error fault, nursery'.disk)) := by
  unfold Nursery.birthAgent at ran
  split at ran
  · rename_i e refused
    obtain ⟨_, rfl⟩ := Prod.mk.inj ran
    exact .inl ⟨by simp [refused], rfl⟩
  · rename_i admitted
    split at ran
    · rename_i birth
      obtain ⟨same, rfl⟩ := Prod.mk.inj ran
      obtain rfl := Except.error.inj same
      exact .inr ⟨admitted, rfl, birth⟩
    · cases (Prod.mk.inj ran).1
    · cases (Prod.mk.inj ran).1

/-- A birth comes to `agent.toml` in one of the two ways when the attempt via the mesh does, or the local
birth does from what the attempt has left. -/
theorem begun_iff {io : BirthIo} {d : Disk} (absent : ¬ HasFile (configPlace root params.name) d.tree) :
    Begun root params io d ↔ (∃ mesh, io.tried = some mesh ∧ MeshReached root params mesh d) ∨
      ((∀ mesh, io.tried = some mesh → ¬ MeshReached root params mesh d) ∧
        LocalReached root params io.onDisk (fallback root params io d)) := by
  have mesh : ∀ mesh, MeshBegun root params mesh d ↔ MeshReached root params mesh d :=
    fun _ => meshBegun_iff absent
  have onDisk : (∀ mesh, io.tried = some mesh → ¬ MeshReached root params mesh d) →
      (LocalBegun root params io.onDisk (fallback root params io d) ↔
        LocalReached root params io.onDisk (fallback root params io d)) ∧ ¬ ViaMesh root params io d := by
    intro unreached
    refine ⟨localBegun_iff ?_, ?_⟩
    · unfold fallback
      cases found : io.tried with
      | none => exact absent
      | some tried =>
        exact (birthViaMesh_quiet fun begun => unreached tried found ((mesh tried).mp begun)).2.place absent
    · rintro ⟨tried, result, d', found, ran⟩
      obtain ⟨e, failed⟩ := (birthViaMesh_quiet fun begun => unreached tried found ((mesh tried).mp begun)).1
      rw [ran] at failed
      cases failed
  constructor
  · intro begun
    by_cases reached : ∃ mesh, io.tried = some mesh ∧ MeshReached root params mesh d
    · exact .inl reached
    · have unreached : ∀ mesh, io.tried = some mesh → ¬ MeshReached root params mesh d :=
        fun tried found there => reached ⟨tried, found, there⟩
      rcases begun with ⟨tried, found, there⟩ | ⟨_, there⟩
      · exact absurd ((mesh tried).mp there) (unreached tried found)
      · exact .inr ⟨unreached, (onDisk unreached).1.mp there⟩
  · rintro (⟨tried, found, reached⟩ | ⟨unreached, reached⟩)
    · exact .inl ⟨tried, found, (mesh tried).mpr reached⟩
    · exact .inr ⟨(onDisk unreached).2, (onDisk unreached).1.mpr reached⟩

/-- Something stops the attempt via the mesh before `agent.toml`, and then the local birth. -/
structure Stopped (root : List String) (params : BirthParams) (io : BirthIo) (d : Disk) : Prop where
  mesh : ∀ mesh, io.tried = some mesh → ¬ MeshReached root params mesh d
  onDisk : ¬ LocalReached root params io.onDisk (fallback root params io d)

theorem stopped_iff {io : BirthIo} {d : Disk} (absent : ¬ HasFile (configPlace root params.name) d.tree) :
    Stopped root params io d ↔ ¬ Begun root params io d := by
  rw [begun_iff absent]
  constructor
  · rintro ⟨mesh, onDisk⟩ (⟨tried, found, reached⟩ | ⟨_, reached⟩)
    · exact mesh tried found reached
    · exact onDisk reached
  · intro early
    have mesh : ∀ mesh, io.tried = some mesh → ¬ MeshReached root params mesh d :=
      fun tried found reached => early (.inl ⟨tried, found, reached⟩)
    exact ⟨mesh, fun reached => early (.inr ⟨mesh, reached⟩)⟩

/-- A failing call leaves no agent behind when there was none and both ways were stopped before
`agent.toml`; and only then, where the template's script does not remove that file. -/
theorem birthAgent_vanishes_iff {nursery nursery' : Nursery} {maxAgents : UInt32} {io : BirthIo}
    {fault : Fault} (ran : nursery.birthAgent root maxAgents params io = (.error fault, nursery')) :
    (Unborn root params.name nursery ∧
        (nursery.admission maxAgents params io = .ok () → Stopped root params io nursery.disk) →
      Vanishes root params.name nursery nursery') ∧
    (Lasts root params io → Vanishes root params.name nursery nursery' →
      Unborn root params.name nursery ∧
        (nursery.admission maxAgents params io = .ok () → Stopped root params io nursery.disk)) := by
  rcases Nursery.birthAgent_error ran with ⟨refused, rfl⟩ | ⟨admitted, same, birth⟩
  · constructor
    · exact fun ⟨unborn, _⟩ => .of_quiet unborn rfl (Quiet.refl _ _)
    · exact fun _ vanishes => ⟨vanishes.unborn, fun admitted => absurd admitted refused⟩
  · constructor
    · rintro ⟨unborn, stopped⟩
      have quiet := birthRegistered_quiet ((stopped_iff unborn.unconfigured).mp (stopped admitted))
      rw [birth] at quiet
      exact .of_quiet unborn same quiet
    · intro lasts vanishes
      have leads : HasFile (configPlace root params.name) nursery.disk.tree ∨
          Begun root params io nursery.disk →
          HasFile (configPlace root params.name) (birthRegistered root params io nursery.disk).2.tree :=
        birthRegistered_leads lasts
      rw [birth] at leads
      have fresh : ¬ HasFile (configPlace root params.name) nursery.disk.tree :=
        fun there => vanishes.unborn.unconfigured (leads (.inl there))
      refine ⟨⟨same ▸ vanishes.unborn.unregistered, fresh⟩, fun _ => (stopped_iff fresh).mpr fun begun => ?_⟩
      exact vanishes.unborn.unconfigured (leads (.inr begun))

end Begun

/-! ### Concrete failures -/

open scoped Core.StandIn StandIn

theorem run_error {ε α β : Type} {run : Except ε α × β} (failed : run.1.toOption.isSome = false) :
    ∃ e b, run = (.error e, b) := by
  obtain ⟨answer, b⟩ := run
  cases answer with
  | error e => exact ⟨e, b, rfl⟩
  | ok a => cases failed

theorem StandIn.lasts_unmeshed (root : List String) (params : BirthParams) : Lasts root params unmeshed where
  onDisk tree := Persists.refl _ tree
  mesh _ tried := by cases tried

namespace StandIn.Failures

scoped instance format : ConfigFormat := configs [bornConfig "scout"]

/-- The first directory cannot be made. -/
def locked : Nursery := ⟨∅, ⟨bareTree, [.fails "Permission denied"]⟩⟩

/-- The disk is full when the key is written. -/
def full : Nursery := ⟨∅, ⟨bareTree, List.replicate 8 .none ++ [.fails "No space left on device"]⟩⟩

theorem unborn (trouble : List Trouble) : Unborn [] "scout" ⟨∅, ⟨bareTree, trouble⟩⟩ where
  unregistered := rfl
  unconfigured := by
    rintro ⟨content, there⟩
    revert there
    simp [configPlace, configFile, bareTree]

theorem full_left : ∃ fault nursery',
    full.birthAgent [] 10 (namedParams "scout") unmeshed = (.error fault, nursery') ∧
    HasFile (configPlace [] "scout") nursery'.disk.tree := by
  have failed : (full.birthAgent [] 10 (namedParams "scout") unmeshed).1.toOption.isSome =
      false := by decide +kernel
  obtain ⟨fault, nursery', ran⟩ := run_error failed
  have file : (full.birthAgent [] 10 (namedParams "scout") unmeshed).2.disk.tree.node
      (configPlace [] "scout") =
      some (.file (.text "scout local")) := by decide +kernel
  rw [ran] at file
  exact ⟨fault, nursery', ran, _, file⟩

/-- The directories of a local birth cannot be made. -/
theorem stopped : Stopped [] (namedParams "scout") unmeshed locked.disk where
  mesh mesh tried := by cases tried
  onDisk := by
    rintro ⟨expiresAt, text, _, _, attains⟩
    obtain ⟨d', made⟩ := ((makeDirs_prepares _).succeeds _).mpr attains.prepared
    have failed : (makeDirs (Daemon.agentDir [] "scout")
        ["identity", "audit", "data", "logs", "breadcrumbs"] locked.disk).1.toOption.isSome = false := by
      decide +kernel
    rw [show makeDirs (Daemon.agentDir [] "scout") _ locked.disk = _ from made] at failed
    cases failed

end StandIn.Failures

open scoped StandIn.Failures

theorem StandIn.birthAgent_vanishes_locked : ∃ fault nursery',
    Failures.locked.birthAgent [] 10 (namedParams "scout") unmeshed = (.error fault, nursery') ∧
      Vanishes [] "scout" Failures.locked nursery' ∧ Unborn [] "scout" Failures.locked := by
  have failed : (Failures.locked.birthAgent [] 10 (namedParams "scout") unmeshed).1.toOption.isSome =
      false := by
    decide +kernel
  obtain ⟨fault, nursery', ran⟩ := run_error failed
  have exactly := birthAgent_vanishes_iff ran
  have vanishes := exactly.1 ⟨Failures.unborn _, fun _ => Failures.stopped⟩
  exact ⟨fault, nursery', ran, vanishes, (exactly.2 (lasts_unmeshed _ _) vanishes).1⟩

/-- The `agent.toml` of a birth that could not write the key is still there. -/
theorem birthAgent_halfway : ¬ ∀ (root : List String) (nursery nursery' : Nursery)
    (maxAgents : UInt32) (params : BirthParams) (io : BirthIo)
    (fault : Fault), Unborn root params.name nursery →
    Tamed root params io nursery.disk.tree →
    nursery.birthAgent root maxAgents params io = (.error fault, nursery') →
    Vanishes root params.name nursery nursery' := by
  intro vanishes
  obtain ⟨fault, nursery', ran, left⟩ := StandIn.Failures.full_left
  have gone := vanishes [] StandIn.Failures.full nursery' 10 (StandIn.namedParams "scout")
      StandIn.unmeshed fault
    (StandIn.Failures.unborn _) (StandIn.tamed_unmeshed _ _ _) ran
  exact gone.unborn.unconfigured left

end GrokingClawId.Daemon
