import GrokingClawId.Daemon.BirthMesh
import GrokingClawId.Lib.MissingDirs

/-!
# How far a birth comes

Whether a birth comes to `agent.toml` is read off the tree, the answer of the server and the trouble to
come: no file is in the way of a directory, no directory in the place of a file, and each missing directory
and each file before `agent.toml` costs one operation.
-/

namespace GrokingClawId.Daemon
open GrokingClawId.Core FileTree DiskM

/-! ### Files that stay -/

def HasFile (loc : Location) (tree : FileTree) : Prop :=
  ∃ content, tree.node loc = some (.file content)

/-- A file that is there stays, with whatever it then holds. -/
def Persists (loc : Location) (tree tree' : FileTree) : Prop := HasFile loc tree → HasFile loc tree'

theorem Persists.refl (loc : Location) (tree : FileTree) : Persists loc tree tree := id

theorem Persists.trans (loc : Location) (t t' t'' : FileTree) (first : Persists loc t t')
    (second : Persists loc t' t'') : Persists loc t t'' := fun there => second (first there)

theorem KeepsFile.persists {loc : Location} {tree tree' : FileTree}
    (keeps : KeepsFile loc tree tree') :
    Persists loc tree tree' := fun ⟨content, there⟩ => ⟨content, (keeps content).mpr there⟩

theorem KeepsFile.absent {loc : Location} {tree tree' : FileTree} (keeps : KeepsFile loc tree tree')
    (absent : ¬ HasFile loc tree) : ¬ HasFile loc tree' :=
  fun ⟨content, there⟩ => absent ⟨content, (keeps content).mp there⟩

theorem createDirAll_persists (path : List String) (loc : Location) :
    Relates (Persists loc) (createDirAll path) :=
  fun d => KeepsFile.persists ((createDirAll_addsDirs path d).file loc)

theorem write_persists (path : List String) (content : Content) (loc : Location) :
    Relates (Persists loc) (write path content) := by
  intro d
  have kept : ∀ written, Writes path written d.tree (write path content d).2.tree →
      Persists loc d.tree (write path content d).2.tree := by
    rintro written writes ⟨old, there⟩
    obtain ⟨place, walked⟩ := writes.walk
    unfold HasFile
    rw [writes.node walked]
    split
    · exact ⟨written, rfl⟩
    · exact ⟨old, there⟩
  rcases write_tree path content d with ⟨_, same | ⟨left, writes⟩⟩ | ⟨_, _, writes⟩
  · rw [same]
    exact Persists.refl _ _
  · exact kept left writes
  · exact kept content writes

/-- No program of this kind takes a file away. -/
theorem Works.persists {ε α : Type} {base : List String} {tails : List (List String)}
    {m : DiskM ε α} (works : Works base tails m) (loc : Location) : Relates (Persists loc) m :=
  works _ (Persists.refl loc) (Persists.trans loc) (fun _ _ => createDirAll_persists _ loc)
    fun _ _ content => write_persists _ content loc

/-- What `install.sh` does leaves the file there. -/
def Lasting (loc : Location) (run : InstallRun) : Prop := ∀ tree, Persists loc tree (run.script tree)

/-- Installing a template takes no file away, whatever its manifest lists, unless its script does. -/
theorem Lasting.install [FromStr TemplateManifest] {loc : Location} {run : InstallRun}
    (lasting : Lasting loc run)
    (root : List String) (template : String) (dir : List String) :
    Relates (Persists loc) (installForAgent root template dir run) := by
  have refl := Persists.refl loc
  have trans := Persists.trans loc
  have copies : ∀ src dest, Relates (Persists loc) (copy src dest) := fun src dest =>
    relates_bind trans (Reads.relates refl fun d => (read_tree _ d).1) fun content =>
      relates_bind trans (relates_ask refl _) fun _ => write_persists dest _ loc
  refine relates_bind trans (relates_ask refl _) fun there => ?_
  cases there with
  | false => exact relates_bind trans (write_persists _ _ loc) fun _ => Reads.relates refl setPermissions_tree
  | true =>
    refine relates_bind trans (relates_each refl trans fun file _ => ?_) fun _ => ?_
    · refine relates_bind trans (relates_ask refl _) fun there => ?_
      cases there with
      | false => exact relates_pure refl ()
      | true => exact copies _ _
    refine relates_bind trans (Reads.relates refl fun d => reads_getTemplate root template d) fun answer => ?_
    have script : Relates (Persists loc) (runInstall dir run) := by
      refine relates_bind trans (relates_ask refl _) fun there => ?_
      cases there with
      | false => exact relates_pure refl ()
      | true => exact relates_bind trans (relates_ofExcept refl _) fun _ d => lasting d.tree
    split
    · refine relates_bind trans (relates_each refl trans fun file _ => ?_) fun _ => script
      refine relates_bind trans (relates_ask refl _) fun there => ?_
      cases there with
      | false => exact relates_pure refl ()
      | true => exact relates_bind trans (createDirAll_persists _ loc) fun _ => copies _ _
    · exact script

/-- Where `agent.toml` lies. -/
def configPlace (root : List String) (name : String) : Location :=
  target (agentDir root name) ++ configFile

theorem Beside.persists {root : List String} {name : String} {tree tree' : FileTree}
    (beside : Beside (agentDir root name) tree tree') :
    Persists (configPlace root name) tree tree' :=
  (beside.2 configFile (by decide)).1.persists

theorem hasFile_config {root : List String} {name text : String} {tree : FileTree}
    (held : tree.Holds (agentDir root name ++ configFile) (.text text)) :
    HasFile (configPlace root name) tree := by
  obtain ⟨loc, walked, file⟩ := Option.bind_eq_some_iff.mp held
  rw [walk_target walked, target_append_plain _ (ownFiles_plain configFile (by decide))] at file
  exact ⟨_, file⟩

/-! ### What stands in the way -/

/-- The directories of an agent. -/
def agentDirs (dir : List String) : List (List String) :=
  ["identity", "audit", "data", "logs", "breadcrumbs"].map fun name => dir ++ [name]

/-- A file can be put there: no directory is in its place, and none is going to be made there. -/
def Free (tree : FileTree) (dir tail : List String) : Prop :=
  tree.node (target dir ++ tail) ≠ some .dir ∧ target dir ++ tail ∉ tree.missing [dir]

/-- How many operations come before `agent.toml`: one for each missing directory and each file. -/
def before (tree : FileTree) (dir : List String) (files : List (List String)) : Nat :=
  (tree.missing (agentDirs dir)).card + files.length

/-- The directories and the files before `agent.toml` can be made. -/
structure Preparable (d : Disk) (dir : List String) (files : List (List String)) : Prop where
  dirs : ∀ path ∈ agentDirs dir, d.tree.Makeable path
  free : ∀ tail ∈ files, Free d.tree dir tail
  calm : Calm d.trouble (before d.tree dir files)

/-- Nothing stops the birth before the write of `agent.toml`, which at least begins. -/
structure Attains (d : Disk) (dir : List String) (files : List (List String)) : Prop where
  prepared : Preparable d dir files
  place : Free d.tree dir configFile
  begins : ∀ e, (d.trouble.drop (before d.tree dir files)).head? ≠ some (.fails e)

/-- A program that makes the directories and these files, and what it leaves. -/
structure Prepares (m : DiskM String Unit) (dir : List String) (files : List (List String)) : Prop where
  succeeds : ∀ d, (∃ d', m d = (.ok (), d')) ↔ Preparable d dir files
  leaves : ∀ d d', m d = (.ok (), d') → d'.trouble = d.trouble.drop (before d.tree dir files) ∧
    ∀ loc, (∀ tail ∈ files, loc ≠ target dir ++ tail) →
      d'.tree.node loc = if loc ∈ d.tree.missing (agentDirs dir) then some .dir else d.tree.node loc

theorem mem_agentDirs {tree : FileTree} {dir tail : List String}
    (other : ∀ name ∈ ["identity", "audit", "data", "logs", "breadcrumbs"], tail ≠ [name]) :
    target dir ++ tail ∈ tree.missing (agentDirs dir) ↔ target dir ++ tail ∈ tree.missing [dir] :=
  mem_missing_below (by unfold Plain; decide) (List.cons_ne_nil _ _) other

theorem makeDirs_prepares (dir : List String) :
    Prepares (makeDirs dir ["identity", "audit", "data", "logs", "breadcrumbs"]) dir [] where
  succeeds d := by
    refine makeAll_calm.trans ⟨fun ⟨makeable, calm⟩ => ⟨?_, fun _ member => (nomatch member), calm⟩, ?_⟩
    · exact List.forall_mem_map.mpr makeable
    · exact fun ⟨makeable, _, calm⟩ => ⟨List.forall_mem_map.mp makeable, calm⟩
  leaves d d' ran := by
    obtain ⟨made, left⟩ := makeAll_missing ran
    exact ⟨left, fun loc _ => made loc⟩

theorem Preparable.legal {d : Disk} {dir : List String} {files : List (List String)}
    (prepared : Preparable d dir files) : legal dir = true := by
  have first := (prepared.dirs (dir ++ ["identity"]) List.mem_cons_self).1
  rw [legal_append, Bool.and_eq_true] at first
  exact first.1

/-- What a directory on the way is before they are made. -/
theorem Preparable.way {d : Disk} {dir : List String} {files : List (List String)}
    (prepared : Preparable d dir files) {way : List String} (initial : way <+: dir) :
    d.tree.node (target way) = some .dir ∨ target way ∈ d.tree.missing [dir] := by
  have here : dir ++ ["identity"] ∈ agentDirs dir := List.mem_cons_self
  cases found : d.tree.node (target way) with
  | none => exact .inr (mem_missing.mpr ⟨⟨dir, List.mem_singleton_self dir, way, initial, rfl⟩, found⟩)
  | some node =>
    cases node with
    | dir => exact .inl rfl
    | file content =>
      exact absurd found
        ((prepared.dirs _ here).2 way (initial.trans (List.prefix_append dir ["identity"])) content)

theorem Preparable.apart {d : Disk} {dir : List String} {files : List (List String)}
    (prepared : Preparable d dir files) {way tail : List String} (initial : way <+: dir)
    (member : tail ∈ files) :
    target way ≠ target dir ++ tail := by
  intro same
  obtain ⟨notDir, present⟩ := prepared.free tail member
  rw [← same] at notDir present
  exact (prepared.way initial).elim notDir present

/-- Once the directories are made, the agent's is there. -/
theorem Prepares.dir {m : DiskM String Unit} {dir : List String} {files : List (List String)}
    (prepares : Prepares m dir files) {d d' : Disk} (ran : m d = (.ok (), d')) :
    d'.tree.walk [] dir = some (target dir) ∧ d'.tree.node (target dir) = some .dir := by
  have prepared := (prepares.succeeds d).mp ⟨d', ran⟩
  have here : dir ++ ["identity"] ∈ agentDirs dir := List.mem_cons_self
  have dirs : ∀ way, way <+: dir → d'.tree.node (target way) = some .dir := by
    intro way initial
    rw [(prepares.leaves d d' ran).2 (target way) fun tail member => prepared.apart initial member]
    rcases prepared.way initial with isDir | absent
    · rw [isDir, ite_self]
    · have below : way <+: dir ++ ["identity"] := initial.trans (List.prefix_append dir ["identity"])
      exact if_pos (mem_missing.mpr ⟨⟨_, here, way, below, rfl⟩, (mem_missing.mp absent).2⟩)
  exact ⟨walk_dirs dirs, dirs dir (List.prefix_refl dir)⟩

theorem Prepares.place {m : DiskM String Unit} {root : List String} {files : List (List String)}
    {name : String}
    (prepares : Prepares m (agentDir root name) files) (other : configFile ∉ files) {d d' : Disk}
    (ran : m d = (.ok (), d')) :
    d'.tree.node (configPlace root name) ≠ some .dir ↔ Free d.tree (agentDir root name) configFile := by
  have node := (prepares.leaves d d' ran).2 (configPlace root name) fun tail member same =>
    other (by rw [List.append_cancel_left same]; exact member)
  rw [Free, ← mem_agentDirs (by decide), node]
  split
  · rename_i member
    exact ⟨fun notDir => absurd rfl notDir, fun free => absurd member free.2⟩
  · rename_i present
    exact ⟨fun notDir => ⟨notDir, present⟩, And.left⟩

theorem legal_config {dir : List String} (legal_ : legal dir = true) :
    legal (dir ++ ["agent.toml"]) = true := by
  rw [legal_append, legal_]
  decide

section Config
variable [ConfigFormat]

theorem writeConfig_text {dir : List String} {config : AgentConfig} {text : String}
    (serialized : ConfigFormat.toStringPretty config = .ok text) (d : Disk) :
    writeConfig dir config d = write (dir ++ ["agent.toml"]) (.text text) d :=
  bind_of_ok (by rw [serialized]; rfl)

variable {m : DiskM String Unit} {root : List String} {files : List (List String)}
    {name : String} {d d' : Disk}
  {config : AgentConfig}

/-- After them, `agent.toml` is left where there was none when its place is free and the write begins. -/
theorem Prepares.config_iff (prepares : Prepares m (agentDir root name) files) (other : configFile ∉ files)
    (keeps : Relates (KeepsFile (configPlace root name)) m)
    (absent : ¬ HasFile (configPlace root name) d.tree) :
    HasFile (configPlace root name) ((m >>= fun _ => writeConfig (agentDir root name) config) d).2.tree ↔
      (∃ text, ConfigFormat.toStringPretty config = .ok text) ∧ Attains d (agentDir root name) files := by
  have fresh := (keeps d).absent absent
  cases ran : m d with
  | mk answer d₁ =>
    rw [ran] at fresh
    cases answer with
    | error e =>
      rw [bind_error ran]
      refine ⟨fun left => absurd left fresh, fun ⟨_, attains⟩ => ?_⟩
      obtain ⟨_, succeeded⟩ := (prepares.succeeds d).mpr attains.prepared
      rw [ran] at succeeded
      cases succeeded
    | ok done =>
      have prepared := (prepares.succeeds d).mp ⟨d₁, ran⟩
      obtain ⟨walked, isDir⟩ := prepares.dir ran
      rw [bind_of_ok ran]
      cases serialized : ConfigFormat.toStringPretty config with
      | error e =>
        have failed : writeConfig (agentDir root name) config d₁ = (.error e, d₁) :=
          bind_error (by rw [serialized]; rfl)
        rw [failed]
        refine ⟨fun left => absurd left fresh, ?_⟩
        rintro ⟨⟨_, same⟩, _⟩
        cases same
      | ok text =>
        have place := prepares.place other ran
        rw [writeConfig_text serialized]
        refine (write_leaves_iff (.text text) (by unfold Plain; decide)
          (legal_config prepared.legal) walked isDir
          fresh).trans ?_
        rw [(prepares.leaves d d₁ ran).1]
        exact ⟨fun ⟨notDir, begins⟩ => ⟨⟨text, rfl⟩, prepared, place.mp notDir, begins⟩,
          fun ⟨_, attains⟩ => ⟨place.mpr attains.place, attains.begins⟩⟩

/-- What has been written was come to. -/
theorem Prepares.config_ok (prepares : Prepares m (agentDir root name) files) (other : configFile ∉ files)
    (ran : (m >>= fun _ => writeConfig (agentDir root name) config) d = (.ok (), d')) :
    (∃ text, ConfigFormat.toStringPretty config = .ok text) ∧ Attains d (agentDir root name) files := by
  obtain ⟨_, d₁, first, wrote⟩ := DiskM.bind_ok ran
  obtain ⟨text, _, serialized, _⟩ := DiskM.bind_ok wrote
  replace serialized := (ofExcept_ok serialized).1
  rw [writeConfig_text serialized] at wrote
  have prepared := (prepares.succeeds d).mp ⟨d₁, first⟩
  obtain ⟨walked, isDir⟩ := prepares.dir first
  obtain ⟨notDir, calm⟩ :=
    (write_calm (.text text) (by unfold Plain; decide) (legal_config prepared.legal) walked
    isDir).1.mp ⟨d', wrote⟩
  rw [(prepares.leaves d d₁ first).1] at calm
  exact ⟨⟨text, serialized⟩, prepared, (prepares.place other first).mp notDir, calm_head calm⟩

end Config

/-! ### How far a birth comes -/

section Begun
variable [Ed25519] [Chrono] [ConfigFormat] [FromStr TemplateManifest] [FromStr Json]
    [FromStr BirthCertificate]
variable {root : List String} {params : BirthParams}

/-- The files of an attempt via the mesh, up to `agent.toml`. -/
def beginMesh (root : List String) (params : BirthParams) (io : MeshIo)
    (certificate : BirthCertificate) :
    DiskM String Unit := do
  writeMeshIdentity root params io certificate
  writeMeshConfig root params io certificate

/-- An attempt via the mesh comes to writing `agent.toml` and leaves a file there. -/
def MeshBegun (root : List String) (params : BirthParams) (io : MeshIo) (d : Disk) : Prop :=
  ∃ certificate d₁, Certified root params io d certificate d₁ ∧
    HasFile (configPlace root params.name) (beginMesh root params io certificate d₁).2.tree

def LocalBegun (root : List String) (params : BirthParams) (io : LocalIo) (d : Disk) : Prop :=
  ∃ expiresAt, localExpiry params io = .ok expiresAt ∧
    HasFile (configPlace root params.name) (beginLocal root params io expiresAt d).2.tree

/-- The birth comes to writing `agent.toml`, in one of the two ways, and leaves a file there. -/
def Begun (root : List String) (params : BirthParams) (io : BirthIo) (d : Disk) : Prop :=
  (∃ mesh, io.tried = some mesh ∧ MeshBegun root params mesh d) ∨
    (¬ ViaMesh root params io d ∧ LocalBegun root params io.onDisk (fallback root params io d))

omit [FromStr Json] [FromStr BirthCertificate] in
theorem settleMesh_eq (root : List String) (params : BirthParams) (io : MeshIo)
    (certificate : BirthCertificate) :
    settleMesh root params io certificate = beginMesh root params io certificate >>= fun _ =>
      installForAgent root params.template (agentDir root params.name) io.install >>= fun _ =>
        pure (meshResult params io certificate) := by
  rw [beginMesh, DiskM.bind_assoc]
  rfl

omit [FromStr TemplateManifest] [FromStr Json] [FromStr BirthCertificate] in
theorem beginMesh_works (root : List String) (params : BirthParams) (io : MeshIo)
    (certificate : BirthCertificate) :
    Works (agentDir root params.name) [certificateFile, keyFile, cardFile, configFile]
      (beginMesh root params io certificate) := by
  intro R refl trans dirs files
  refine relates_bind trans ?_ fun _ => ?_
  · refine writeMeshIdentity_works _ _ _ _ R refl trans dirs fun tail member => files tail ?_
    exact List.mem_of_mem_dropLast member
  · refine writeMeshConfig_works _ _ _ _ R refl trans dirs fun tail member => files tail ?_
    exact List.mem_of_mem_getLast? (by simpa using (List.mem_singleton.mp member).symm)

omit [FromStr TemplateManifest] [FromStr Json] [FromStr BirthCertificate] in
theorem beginMesh_ok {io : MeshIo} {certificate : BirthCertificate} {d d' : Disk}
    (ran : beginMesh root params io certificate d = (.ok (), d')) :
    HasFile (configPlace root params.name) d'.tree := by
  obtain ⟨_, d₁, _, configured⟩ := DiskM.bind_ok ran
  obtain ⟨_, d₂, _, wrote⟩ := DiskM.bind_ok configured
  obtain ⟨_, text, _, held⟩ := writeConfig_ok wrote
  exact hasFile_config held

/-! ### The two ways -/

omit [Ed25519] [Chrono] [ConfigFormat] [FromStr TemplateManifest] [FromStr Json] [FromStr BirthCertificate] in
theorem bind_done (m : DiskM String Unit) : (m >>= fun _ => pure ()) = m := by
  funext d
  rw [bind_run]
  rcases m d with ⟨_ | _, _⟩ <;> rfl

def writeIdentity (dir : List String) (files : List (String × Content)) : DiskM String Unit :=
  DiskM.each files fun file => write (dir ++ ["identity"] ++ [file.1]) file.2

section Identity
omit [Ed25519] [Chrono] [ConfigFormat] [FromStr TemplateManifest] [FromStr Json] [FromStr BirthCertificate]
variable {dir : List String} {files : List (String × Content)} {d d₁ d₂ : Disk}

/-- The directories other than that of the identity. -/
def otherDirs (dir : List String) : List (List String) :=
  ["audit", "data", "logs", "breadcrumbs"].map fun name => dir ++ [name]

theorem missing_identity (tree : FileTree) (dir : List String) (name : String) :
    target dir ++ ["identity", name] ∈ tree.missing [dir ++ ["identity"]] ↔
      target dir ++ ["identity", name] ∈ tree.missing [dir] :=
  show _ ∈ tree.missing (["identity"].map fun name => dir ++ [name]) ↔ _ from
    mem_missing_below (by unfold Plain; decide) (List.cons_ne_nil _ _) (by simp)

theorem agentDirs_eq (dir : List String) : agentDirs dir = (dir ++ ["identity"]) :: otherDirs dir := rfl

/-- The files of the identity, once their directory has been made. -/
theorem writeIdentity_calm (plain : ∀ file ∈ files, Plain file.1 ∧ legal [file.1] = true)
    (first : createDirAll (dir ++ ["identity"]) d = (.ok (), d₁)) :
    ((∃ d₂, writeIdentity dir files d₁ = (.ok (), d₂)) ↔
      (∀ file ∈ files, Free d.tree dir ["identity", file.1]) ∧ Calm d₁.trouble files.length) ∧
    ∀ d₂, writeIdentity dir files d₁ = (.ok (), d₂) → d₂.trouble = d₁.trouble.drop files.length ∧
      ∀ loc, (∀ file ∈ files, loc ≠ target dir ++ ["identity", file.1]) →
        d₂.tree.node loc = d₁.tree.node loc := by
  obtain ⟨makeable, walked, isDir, _⟩ := createDirAll_made first
  obtain ⟨made, _⟩ := createDirAll_missing first
  have reached : target (dir ++ ["identity"]) = target dir ++ ["identity"] :=
    target_append_plain dir (by unfold Plain; decide)
  rw [reached] at walked isDir
  have place : ∀ file ∈ files, d₁.tree.node (target dir ++ ["identity"] ++ [file.1]) ≠ some .dir ↔
      Free d.tree dir ["identity", file.1] := by
    intro file member
    rw [Free, ← missing_identity, List.append_assoc, made]
    split
    · rename_i member
      exact ⟨fun notDir => absurd rfl notDir, fun free => absurd member free.2⟩
    · rename_i present
      exact ⟨fun notDir => ⟨notDir, present⟩, And.left⟩
  obtain ⟨succeeds, leaves⟩ := writeAll_calm (d := d₁) (fun file (member : file ∈ files) =>
    ⟨(plain file member).1, by rw [legal_append, makeable.1, (plain file member).2]; rfl⟩) walked isDir
  refine ⟨succeeds.trans (and_congr_left fun _ => forall_congr' fun file => forall_congr' (place file)), ?_⟩
  intro d₂ ran
  obtain ⟨left, _, changes⟩ := leaves d₂ ran
  refine ⟨left, fun loc away => changes loc fun file member => ?_⟩
  rw [List.append_assoc]
  exact away file member

/-- What the other directories find. -/
theorem identity_found (plain : ∀ file ∈ files, Plain file.1 ∧ legal [file.1] = true)
    (first : createDirAll (dir ++ ["identity"]) d = (.ok (), d₁))
    (second : writeIdentity dir files d₁ = (.ok (), d₂)) :
    (∀ path ∈ otherDirs dir, d₂.tree.Makeable path ↔ d.tree.Makeable path) ∧
      d₂.tree.missing (otherDirs dir) = d.tree.missing (otherDirs dir) \
        d.tree.missing [dir ++ ["identity"]] ∧
      d₂.trouble = d.trouble.drop ((d.tree.missing [dir ++ ["identity"]]).card + files.length) := by
  obtain ⟨made, left⟩ := createDirAll_missing first
  obtain ⟨makeable, walked, isDir, _⟩ := createDirAll_made first
  obtain ⟨wrote, after⟩ := writeIdentity_calm plain first
  obtain ⟨left', changes⟩ := after d₂ second
  have free := (wrote.mp ⟨d₂, second⟩).1
  have same : ∀ path ∈ otherDirs dir, ∀ way, way <+: path →
      d₂.tree.node (target way) = d₁.tree.node (target way) := by
    intro path member way initial
    refine changes _ fun file listed here => ?_
    obtain ⟨name, named, rfl⟩ := List.mem_map.mp member
    rcases List.prefix_concat_iff.mp initial with rfl | early
    · have ordinary : ∀ name ∈ ["audit", "data", "logs", "breadcrumbs"], Plain name := by unfold Plain; decide
      rw [target_append_plain dir (List.forall_mem_singleton.mpr (ordinary name named))] at here
      cases List.append_cancel_left here
    · -- a directory on the way is there by now
      have isDir' := (walk_lead (early.trans (List.prefix_append dir ["identity"])) walked isDir).2
      obtain ⟨notDir, present⟩ := free file listed
      rw [here, made, if_neg ((missing_identity _ _ _).not.mpr present)] at isDir'
      exact notDir isDir'
  refine ⟨fun path member => ?_, ?_, ?_⟩
  · exact (makeable_congr (same path member)).trans (makeable_after made path)
  · rw [missing_congr same, missing_after made]
  · rw [left', left, List.drop_drop]

/-- Files of the identity are written after its directory and before the other directories. -/
theorem identity_prepares (plain : ∀ file ∈ files, Plain file.1 ∧ legal [file.1] = true) :
    Prepares (createDirAll (dir ++ ["identity"]) >>= fun _ => writeIdentity dir files >>= fun _ =>
      makeDirs dir ["audit", "data", "logs", "breadcrumbs"]) dir
        (files.map fun file => ["identity", file.1]) := by
  have count : ∀ tree : FileTree, before tree dir (files.map fun file => ["identity", file.1]) =
      (tree.missing [dir ++ ["identity"]]).card + (files.length +
        (tree.missing (otherDirs dir) \ tree.missing [dir ++ ["identity"]]).card) := by
    intro tree
    rw [before, agentDirs_eq, card_missing_cons, List.length_map]
    omega
  refine ⟨fun d => ⟨?_, ?_⟩, fun d d' ran => ?_⟩
  · rintro ⟨d', ran⟩
    obtain ⟨_, d₁, first, ran⟩ := DiskM.bind_ok ran
    obtain ⟨_, d₂, second, third⟩ := DiskM.bind_ok ran
    obtain ⟨makeable, calm⟩ := createDirAll_calm.mp ⟨d₁, first⟩
    obtain ⟨free, calm'⟩ := (writeIdentity_calm plain first).1.mp ⟨d₂, second⟩
    obtain ⟨others, missing, left⟩ := identity_found plain first second
    obtain ⟨makeable', calm''⟩ := makeAll_calm.mp ⟨d', third⟩
    refine ⟨List.forall_mem_cons.mpr ⟨makeable, fun path member => ?_⟩, ?_, ?_⟩
    · exact (others path member).mp (List.forall_mem_map.mpr makeable' path member)
    · exact List.forall_mem_map.mpr free
    · rw [count, calm_add, calm_add, List.drop_drop]
      rw [(createDirAll_missing first).2] at calm'
      rw [left] at calm''
      exact ⟨calm, calm', missing ▸ calm''⟩
  · rintro ⟨makeable, free, calm⟩
    rw [count, calm_add, calm_add, List.drop_drop] at calm
    obtain ⟨calm, calm', calm''⟩ := calm
    obtain ⟨makeable, makeable'⟩ := List.forall_mem_cons.mp makeable
    obtain ⟨d₁, first⟩ := createDirAll_calm.mpr ⟨makeable, calm⟩
    rw [← (createDirAll_missing first).2] at calm'
    obtain ⟨d₂, second⟩ := (writeIdentity_calm plain first).1.mpr ⟨List.forall_mem_map.mp free, calm'⟩
    obtain ⟨others, missing, left⟩ := identity_found plain first second
    rw [← left, ← missing] at calm''
    have third : ∃ d', makeDirs dir ["audit", "data", "logs", "breadcrumbs"] d₂ = (.ok (), d') :=
      makeAll_calm.mpr
        ⟨List.forall_mem_map.mp fun path member => (others path member).mpr (makeable' path member), calm''⟩
    obtain ⟨d', third⟩ := third
    exact ⟨d', by rw [bind_of_ok first, bind_of_ok second]; exact third⟩
  · obtain ⟨_, d₁, first, ran⟩ := DiskM.bind_ok ran
    obtain ⟨_, d₂, second, third⟩ := DiskM.bind_ok ran
    obtain ⟨made, _⟩ := createDirAll_missing first
    obtain ⟨_, changes⟩ := (writeIdentity_calm plain first).2 d₂ second
    obtain ⟨_, missing, left⟩ := identity_found plain first second
    obtain ⟨made', left'⟩ := makeAll_missing third
    change d₂.tree.missing (["audit", "data", "logs", "breadcrumbs"].map fun name => dir ++ [name]) = _
      at missing
    refine ⟨?_, fun loc away => ?_⟩
    · rw [left', left, List.drop_drop, count, missing, Nat.add_assoc]
    · rw [made', missing, changes loc fun file member => away _ (List.mem_map.mpr ⟨file, member, rfl⟩),
        made]
      rw [agentDirs_eq, missing_cons _ (dir ++ ["identity"]) (otherDirs dir)]
      simp only [Finset.mem_sdiff, Finset.mem_union]
      by_cases here : loc ∈ d.tree.missing [dir ++ ["identity"]]
      · simp [here]
      · simp [here]

theorem identity_works : Works dir (files.map fun file => ["identity", file.1])
    (createDirAll (dir ++ ["identity"]) >>= fun _ => writeIdentity dir files >>= fun _ =>
      makeDirs dir ["audit", "data", "logs", "breadcrumbs"]) := by
  intro R refl trans dirs writes
  refine relates_bind trans (dirs ["identity"] (by unfold Plain; decide)) fun _ => ?_
  refine relates_bind trans (relates_each refl trans fun file member => ?_) fun _ => ?_
  · rw [List.append_assoc]
    exact writes _ (List.mem_map.mpr ⟨file, member, rfl⟩) file.2
  · exact makeDirs_works _ _ (by unfold Plain; decide) R refl trans dirs fun _ member => nomatch member

end Identity

/-- A local birth comes to `agent.toml`. -/
def LocalReached (root : List String) (params : BirthParams) (io : LocalIo) (d : Disk) : Prop :=
  ∃ expiresAt text, localExpiry params io = .ok expiresAt ∧
    ConfigFormat.toStringPretty (params.localConfig io expiresAt) = .ok text ∧
    Attains d (agentDir root params.name) []

/-- An attempt via the mesh is answered with a certificate and comes to `agent.toml`. -/
def MeshReached (root : List String) (params : BirthParams) (io : MeshIo) (d : Disk) : Prop :=
  ∃ certificate d₁ text, Certified root params io d certificate d₁ ∧
    ConfigFormat.toStringPretty (params.meshConfig io certificate) = .ok text ∧
    Attains d₁ (agentDir root params.name) [certificateFile, keyFile, cardFile]

omit [FromStr TemplateManifest] [FromStr Json] [FromStr BirthCertificate] [Ed25519] [Chrono] in
theorem localBegun_iff {io : LocalIo} {d : Disk} (absent : ¬ HasFile (configPlace root params.name) d.tree) :
    LocalBegun root params io d ↔ LocalReached root params io d := by
  have prepares := makeDirs_prepares (agentDir root params.name)
  have keeps : Relates (KeepsFile (configPlace root params.name))
      (makeDirs (agentDir root params.name) ["identity", "audit", "data", "logs", "breadcrumbs"]) :=
    (makeDirs_works _ _ (by unfold Plain; decide)).keepsFile (fun _ member => nomatch member)
      fun _ member => nomatch member
  unfold LocalBegun LocalReached
  refine exists_congr fun expiresAt => ?_
  rw [exists_and_left, exists_and_right]
  exact and_congr_right fun _ => prepares.config_iff (fun member => nomatch member) keeps absent

omit [FromStr TemplateManifest] [FromStr Json] [FromStr BirthCertificate] [Ed25519] [Chrono] in
theorem beginLocal_reached {io : LocalIo} {expiresAt : DateTime} {d d' : Disk}
    (timed : localExpiry params io = .ok expiresAt)
    (ran : beginLocal root params io expiresAt d = (.ok (), d')) : LocalReached root params io d := by
  obtain ⟨⟨text, serialized⟩, attains⟩ :=
    (makeDirs_prepares (agentDir root params.name)).config_ok (fun member => nomatch member) ran
  exact ⟨expiresAt, text, timed, serialized, attains⟩

/-- The files of the identity of an agent that is born via the mesh. -/
def meshFiles (params : BirthParams) (io : MeshIo) (certificate : BirthCertificate) :
    List (String × Content) :=
  [("birth.cert.json", .text (Json.pretty 0 certificate.toValue)),
    ("agent.pem", .text (encodePrivateKeyPem io.seed)),
    ("agent.card.json", .text (Json.pretty 0 (meshCard params io certificate)))]

omit [FromStr TemplateManifest] [FromStr Json] [FromStr BirthCertificate] in
theorem beginMesh_eq (root : List String) (params : BirthParams) (io : MeshIo)
    (certificate : BirthCertificate) :
    beginMesh root params io certificate =
      (createDirAll (agentDir root params.name ++ ["identity"]) >>= fun _ =>
        writeIdentity (agentDir root params.name) (meshFiles params io certificate) >>= fun _ =>
        makeDirs (agentDir root params.name) ["audit", "data", "logs", "breadcrumbs"]) >>= fun _ =>
      writeConfig (agentDir root params.name) (params.meshConfig io certificate) := by
  unfold beginMesh writeMeshIdentity writeMeshConfig writeIdentity meshFiles
  simp only [DiskM.each, bind_done, DiskM.bind_assoc, List.append_assoc, List.cons_append, List.nil_append]

theorem meshBegun_iff {io : MeshIo} {d : Disk} (absent : ¬ HasFile (configPlace root params.name) d.tree) :
    MeshBegun root params io d ↔ MeshReached root params io d := by
  unfold MeshBegun MeshReached
  refine exists_congr fun certificate => exists_congr fun d₁ => ?_
  rw [exists_and_left, exists_and_right]
  refine and_congr_right fun certified => ?_
  have ordinary : ∀ file ∈ meshFiles params io certificate, Plain file.1 ∧ legal [file.1] = true := by
    unfold meshFiles Plain
    simp only [List.forall_mem_cons]
    decide
  have other : configFile ∉ (meshFiles params io certificate).map fun file => ["identity", file.1] :=
    show configFile ∉ [certificateFile, keyFile, cardFile] by decide
  have plain : ∀ tail ∈ (meshFiles params io certificate).map fun file => ["identity", file.1],
      ∀ name ∈ tail, Plain name :=
    show ∀ tail ∈ [certificateFile, keyFile, cardFile], ∀ name ∈ tail, Plain name by unfold Plain; decide
  have keeps : Relates (KeepsFile (configPlace root params.name)) _ :=
    identity_works.keepsFile plain fun tail member same => other (List.append_cancel_left same ▸ member)
  rw [beginMesh_eq]
  exact (identity_prepares ordinary).config_iff other keeps (certified.tree ▸ absent)

end Begun
end GrokingClawId.Daemon
