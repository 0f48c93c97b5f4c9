import GrokingClawId.Daemon.Birth

/-!
# Files of a birth

What a birth does to the files: everything lies in the directory of the agent, as long as the template
keeps to it, and what a successful birth has written is there when it ends.
-/

namespace GrokingClawId.Daemon
open GrokingClawId.Core FileTree DiskM

/-! ### The files of the agent -/

def configFile : List String := ["agent.toml"]
def keyFile : List String := ["identity", "agent.pem"]
def cardFile : List String := ["identity", "agent.card.json"]
/-- The card that the token exchange reads. -/
def exchangeFile : List String := ["identity", "agent-card.json"]

def ownFiles : List (List String) := [configFile, keyFile, cardFile, exchangeFile]

theorem ownFiles_plain : ∀ tail ∈ ownFiles, ∀ name ∈ tail, Plain name := by
  unfold Plain
  decide

/-- The same file is at the location, or none. -/
def KeepsFile (loc : Location) (tree tree' : FileTree) : Prop :=
  ∀ content, tree'.node loc = some (.file content) ↔ tree.node loc = some (.file content)

theorem KeepsFile.refl (loc : Location) (tree : FileTree) : KeepsFile loc tree tree :=
  fun _ => Iff.rfl

theorem KeepsFile.trans (loc : Location) (t t' t'' : FileTree) (first : KeepsFile loc t t')
    (second : KeepsFile loc t' t'') :
    KeepsFile loc t t'' := fun content => (second content).trans (first content)

/-- When the key file is there, the card for the token exchange is looked for where it lies. -/
theorem exchange_lookup {base : List String} {tree : FileTree} {content : Content}
    (key : tree.Holds (base ++ keyFile) content) :
    tree.lookup (base ++ exchangeFile) = tree.node (target base ++ exchangeFile) := by
  obtain ⟨loc, walked, _⟩ := Option.bind_eq_some_iff.mp key
  have shape : ∀ name, base ++ ["identity", name] = (base ++ ["identity"]) ++ [name] := by simp
  rw [keyFile, shape, walk_append] at walked
  obtain ⟨dir, reached, last⟩ := Option.bind_eq_some_iff.mp walked
  rw [walk] at last
  split at last
  · rename_i isDir
    rw [lookup, exchangeFile, shape, walk_append, reached, Option.bind_some, walk, if_pos isDir,
      walk, descend_plain (by unfold Plain; decide), Option.bind_some, walk_target reached,
      target_append_plain base (by unfold Plain; decide), List.append_assoc]
    rfl
  · cases last

/-- The files of the agent are as they were, and those that a path led to are still found by it. -/
def KeepsOwn (base : List String) (tree tree' : FileTree) : Prop :=
  ∀ tail ∈ ownFiles, KeepsFile (target base ++ tail) tree tree' ∧
    ∀ content, tree.Holds (base ++ tail) content → tree'.Holds (base ++ tail) content

theorem KeepsOwn.refl (base : List String) (tree : FileTree) : KeepsOwn base tree tree :=
  fun _ _ => ⟨KeepsFile.refl _ _, fun _ held => held⟩

theorem KeepsOwn.trans (base : List String) (t t' t'' : FileTree) (first : KeepsOwn base t t')
    (second : KeepsOwn base t' t'') : KeepsOwn base t t'' :=
  fun tail own => ⟨KeepsFile.trans _ _ _ _ (first tail own).1 (second tail own).1,
    fun content held => (second tail own).2 content ((first tail own).2 content held)⟩

theorem KeepsOwn.holds {base tail : List String} {tree tree' : FileTree}
    (leaves : KeepsOwn base tree tree') (own : tail ∈ ownFiles) {content : Content}
    (held : tree.Holds (base ++ tail) content) :
    tree'.Holds (base ++ tail) content := (leaves tail own).2 content held

/-- Changes in the directory of the agent that leave its files. -/
def Beside (base : List String) (tree tree' : FileTree) : Prop :=
  Near base tree tree' ∧ KeepsOwn base tree tree'

theorem Beside.refl (base : List String) (tree : FileTree) : Beside base tree tree :=
  ⟨Near.refl _ _, KeepsOwn.refl _ _⟩

theorem Beside.trans (base : List String) (t t' t'' : FileTree) (first : Beside base t t')
    (second : Beside base t' t'') : Beside base t t'' :=
  ⟨Near.trans _ _ _ _ first.1 second.1, KeepsOwn.trans _ _ _ _ first.2 second.2⟩

/-- Changes in the directory of the agent that leave the card for the token exchange. -/
def Inside (base : List String) (tree tree' : FileTree) : Prop :=
  Near base tree tree' ∧ KeepsFile (target base ++ exchangeFile) tree tree'

theorem Inside.refl (base : List String) (tree : FileTree) : Inside base tree tree :=
  ⟨Near.refl _ _, KeepsFile.refl _ _⟩

theorem Inside.trans (base : List String) (t t' t'' : FileTree) (first : Inside base t t')
    (second : Inside base t' t'') : Inside base t t'' :=
  ⟨Near.trans _ _ _ _ first.1 second.1, KeepsFile.trans _ _ _ _ first.2 second.2⟩

theorem Beside.inside {base : List String} {tree tree' : FileTree}
    (beside : Beside base tree tree') :
    Inside base tree tree' := ⟨beside.1, (beside.2 exchangeFile (by decide)).1⟩

/-! ### Programs that write files of a directory -/

/-- The program makes directories in the directory of the agent and writes some of its files. -/
def Works {ε α : Type} (base : List String) (tails : List (List String)) (m : DiskM ε α) : Prop :=
  ∀ R : FileTree → FileTree → Prop, (∀ tree, R tree tree) → (∀ t t' t'', R t t' → R t' t'' → R t t'') →
    (∀ dirs, (∀ name ∈ dirs, Plain name) → Relates R (createDirAll (base ++ dirs))) →
    (∀ tail ∈ tails, ∀ content, Relates R (write (base ++ tail) content)) → Relates R m

section Works
variable {ε α : Type} {base other : List String} {tails : List (List String)} {m : DiskM ε α}

theorem Works.near (works : Works base tails m)
    (plain : ∀ tail ∈ tails, ∀ name ∈ tail, Plain name) :
    Relates (Near base) m :=
  works _ (Near.refl base) (Near.trans base) (fun _ single => createDirAll_near single)
    fun tail member content => write_near (plain tail member) content

theorem write_keepsFile {tail : List String} (plain : ∀ name ∈ tail, Plain name) {loc : Location}
    (away : loc ≠ target base ++ tail) (content : Content) :
    Relates (KeepsFile loc) (write (base ++ tail) content) := by
  intro d
  have kept : ∀ written, Writes (base ++ tail) written d.tree (write (base ++ tail) content d).2.tree →
      KeepsFile loc d.tree (write (base ++ tail) content d).2.tree := by
    intro written writes found
    obtain ⟨place, walked⟩ := writes.walk
    rw [writes.node walked, if_neg]
    rw [walk_target walked, target_append_plain base plain]
    exact away
  rcases write_tree (base ++ tail) content d with
    ⟨_, same | ⟨left, writes⟩⟩ | ⟨_, _, writes⟩
  · rw [same]
    exact KeepsFile.refl _ _
  · exact kept left writes
  · exact kept content writes

theorem Works.keepsFile (works : Works base tails m)
    (plain : ∀ tail ∈ tails, ∀ name ∈ tail, Plain name) {loc : Location}
    (away : ∀ tail ∈ tails, loc ≠ target base ++ tail) : Relates (KeepsFile loc) m :=
  works _ (KeepsFile.refl _) (KeepsFile.trans _)
    (fun dirs _ d => (createDirAll_addsDirs (base ++ dirs) d).file _)
    fun tail member content => write_keepsFile (plain tail member) (away tail member) content

theorem Works.keepsOther (works : Works base tails m)
    (plain : ∀ tail ∈ tails, ∀ name ∈ tail, Plain name) (different : other ∉ tails) :
    Relates (KeepsFile (target base ++ other)) m :=
  works.keepsFile plain fun _ member same =>
    ne_of_mem_of_not_mem member different (List.append_cancel_left same).symm

theorem Works.holds (works : Works base tails m) (plain : ∀ tail ∈ tails, ∀ name ∈ tail, Plain name)
    (own : other ∈ ownFiles) (different : other ∉ tails) (content : Content) :
    Relates (fun tree tree' => tree.Holds (base ++ other) content →
    tree'.Holds (base ++ other) content) m := by
  refine works _ (fun _ held => held) (fun _ _ _ first second held => second (first held))
    (fun dirs _ d held => (createDirAll_addsDirs (base ++ dirs) d).holds held) fun tail member
    written d held => ?_
  have away := (ne_of_mem_of_not_mem member different).symm
  rcases write_tree (base ++ tail) written d with
    ⟨_, same | ⟨left, writes⟩⟩ | ⟨_, _, writes⟩
  · rw [same]
    exact held
  · exact (writes.elsewhere (plain tail member) (ownFiles_plain other own) away).trans held
  · exact (writes.elsewhere (plain tail member) (ownFiles_plain other own) away).trans held

theorem Works.inside (works : Works base tails m)
    (plain : ∀ tail ∈ tails, ∀ name ∈ tail, Plain name) (different : exchangeFile ∉ tails) :
    Relates (Inside base) m :=
  fun d => ⟨works.near plain d, works.keepsOther plain different d⟩

theorem Works.beside (works : Works base tails m)
    (plain : ∀ tail ∈ tails, ∀ name ∈ tail, Plain name)
    (foreign : ∀ tail ∈ tails, tail ∉ ownFiles) : Relates (Beside base) m := by
  have different : ∀ own ∈ ownFiles, own ∉ tails :=
    fun own member written => foreign own written member
  intro d
  refine ⟨works.near plain d, fun own member =>
    ⟨works.keepsOther plain (different own member) d, fun content => ?_⟩⟩
  exact works.holds plain member (different own member) content d

end Works

/-! ### Installing a template -/

section Install
variable [FromStr TemplateManifest]

/-- A file of a manifest that lies in the directory and is not one of the agent's own. -/
structure Listable (file : String) : Prop where
  relative : file.toList.head? ≠ some '/'
  plain : ∀ name ∈ Path.components file, Plain name
  named : Path.components file ≠ []
  foreign : Path.components file ∉ ownFiles

/-- The files that the manifest lists and the template has lie in the directory of the agent and are none
of its own, as manifest and template are found in any tree that differs from this one near that directory
only. -/
def Listed (root : List String) (name template : String) (tree : FileTree) : Prop :=
  ∀ d manifest d', Near (agentDir root name) tree d.tree →
    getTemplate root template d = (.ok (some manifest), d') → ∀ file ∈ manifest.files, ∀ tree',
      Near (agentDir root name) tree tree' →
      tree'.exists (Path.join (templateDir root template) file) = true → Listable file

/-- What `install.sh` does stays in the directory of the agent and leaves its files. -/
def Scripted (root : List String) (name : String) (tree : FileTree) (run : InstallRun) : Prop :=
  ∀ tree', Near (agentDir root name) tree tree' → Beside (agentDir root name) tree' (run.script tree')

/-- The template keeps to the directory of the agent and leaves its files. -/
structure Tame (root : List String) (name template : String) (tree : FileTree) (run : InstallRun) :
    Prop where
  listed : Listed root name template tree
  script : Scripted root name tree run

theorem Tame.near {root : List String} {name template : String} {tree tree' : FileTree}
    {run : InstallRun} (tame : Tame root name template tree run)
    (near : Near (agentDir root name) tree tree') :
    Tame root name template tree' run where
  listed d manifest d' later got file member tree'' there :=
    tame.listed d manifest d' (Near.trans _ _ _ _ near later) got file member tree''
      (Near.trans _ _ _ _ near there)
  script tree'' later := tame.script tree'' (Near.trans _ _ _ _ near later)

omit [FromStr TemplateManifest] in
theorem copy_works {base tail : List String} (src : List String) :
    Works base [tail] (copy src (base ++ tail)) := by
  intro R refl trans _ files
  refine relates_bind trans (Reads.relates refl fun d => (read_tree _ d).1) fun content => ?_
  exact relates_bind trans (relates_ask refl _) fun _ => files tail (List.mem_singleton_self tail) _

omit [FromStr TemplateManifest] in
theorem installStandard_works (dir base : List String) (file : String) :
    Works base [[file]] (installStandard dir base file) := by
  intro R refl trans dirs files
  refine relates_bind trans (relates_ask refl _) fun there => ?_
  cases there with
  | false => exact relates_pure refl ()
  | true => exact copy_works (dir ++ [file]) R refl trans dirs files

omit [FromStr TemplateManifest] in
theorem parent_listable {file : String} (listable : Listable file) (base : List String) :
    Path.parent (base ++ Path.components file) = base ++ (Path.components file).dropLast := by
  obtain ⟨init, last, shape⟩ : ∃ init last, Path.components file = init ++ [last] := by
    rcases List.eq_nil_or_concat (Path.components file) with none | ⟨init, last, shape⟩
    · exact absurd none listable.named
    · exact ⟨init, last, shape.trans (List.concat_eq_append ..)⟩
  have plain := listable.plain last (by simp [shape])
  rw [Path.parent, shape, ← List.append_assoc, List.rdropWhile_concat_neg _ _ _ (by simpa using plain.2),
    List.dropLast_concat, List.dropLast_concat]

omit [FromStr TemplateManifest] in
theorem installListed_works {file : String} (listable : Listable file) (dir base : List String) :
    Works base [Path.components file] (installListed dir base file) := by
  intro R refl trans dirs files
  refine relates_bind trans (relates_ask refl _) fun there => ?_
  cases there with
  | false => exact relates_pure refl ()
  | true =>
    have dest : Path.join base file = base ++ Path.components file := if_neg listable.relative
    show Relates R (createDirAll (Path.parent (Path.join base file)) >>= fun _ =>
      copy (Path.join dir file) (Path.join base file))
    rw [dest, parent_listable listable base]
    refine relates_bind trans (dirs _ fun name member => ?_) fun _ => copy_works _ R refl trans dirs files
    exact listable.plain name (List.dropLast_subset _ member)

theorem reads_getTemplate (root : List String) (template : String) :
    Reads (getTemplate root template) := by
  refine reads_bind (reads_ask _) fun there => ?_
  cases there with
  | false => exact reads_pure _
  | true =>
    refine reads_bind (reads_ask _) fun listed => ?_
    cases listed with
    | false => exact reads_pure _
    | true =>
      refine reads_bind ?_ fun _ => reads_pure _
      exact reads_bind (reads_readToString _) fun _ => reads_ofExcept _

variable {root : List String} {name template : String} {tree : FileTree} {run : InstallRun}

omit [FromStr TemplateManifest] in
theorem installStandard_beside (dir base : List String) :
    Relates (Beside base) (DiskM.each ["run.sh", "install.sh", "health.sh"] (installStandard dir base)) := by
  refine relates_each (Beside.refl base) (Beside.trans base) fun file member => ?_
  have ordinary : Plain file ∧ [file] ∉ ownFiles := by
    revert file
    unfold Plain
    decide
  refine (installStandard_works dir base file).beside ?_ ?_
  · simpa using ordinary.1
  · simpa using ordinary.2

/-- Each file is looked at in the tree that the ones before it have left, which is still near the first. -/
theorem Tame.installManifest (tame : Tame root name template tree run) {d d' : Disk}
    (start : Near (agentDir root name) tree d.tree) {manifest : TemplateManifest}
    (got : getTemplate root template d = (.ok (some manifest), d')) :
    Relates (fun before after => Near (agentDir root name) tree before →
      Beside (agentDir root name) before after)
      (DiskM.each manifest.files (installListed (templateDir root template) (agentDir root name))) := by
  refine relates_each (fun before _ => Beside.refl _ before) (fun t t' t'' first second near => ?_) ?_
  · have step := first near
    exact Beside.trans _ _ _ _ step (second (Near.trans _ _ _ _ near step.1))
  · intro file member d₁ near
    cases there : d₁.tree.exists (Path.join (templateDir root template) file) with
    | false =>
      have skipped : (installListed (templateDir root template) (agentDir root name) file d₁).2 = d₁ := by
        simp only [installListed, bind_run, DiskM.ask, there]
        rfl
      rw [skipped]
      exact Beside.refl _ _
    | true =>
      have listable := tame.listed d manifest d' start got file member d₁.tree near there
      refine (installListed_works listable (templateDir root template) _).beside ?_ ?_ d₁
      · simpa using listable.plain
      · simpa using listable.foreign

theorem Tame.runInstall (tame : Tame root name template tree run) {d : Disk}
    (start : Near (agentDir root name) tree d.tree) :
    Beside (agentDir root name) d.tree (runInstall (agentDir root name) run d).2.tree := by
  have refl := Beside.refl (agentDir root name) d.tree
  refine bind_leads refl fun there d₁ asked _ => ?_
  obtain ⟨_, rfl⟩ := ask_ok asked
  cases there with
  | false => exact refl
  | true =>
    refine bind_leads refl fun _ d₂ started _ => ?_
    obtain ⟨_, rfl⟩ := ofExcept_ok started
    exact tame.script _ start

/-- A tame template is installed in the directory of the agent and leaves its files. -/
theorem Tame.install (tame : Tame root name template tree run) {d : Disk}
    (start : Near (agentDir root name) tree d.tree) :
    Beside (agentDir root name) d.tree (installForAgent root template (agentDir root name) run d).2.tree := by
  have refl := Beside.refl (agentDir root name)
  have trans := Beside.trans (agentDir root name)
  refine bind_leads (refl _) fun there d₀ asked _ => ?_
  obtain ⟨_, rfl⟩ := ask_ok asked
  cases there with
  | false =>
    have stub : Works (agentDir root name) [["run.sh"]]
        (write (agentDir root name ++ ["run.sh"]) (.text (stubScript template))) :=
      fun _ _ _ _ files => files _ (List.mem_singleton_self _) _
    refine relates_bind trans (stub.beside ?_ ?_) (fun _ => Reads.relates refl setPermissions_tree) d₀
    · unfold Plain
      decide
    · decide
  | true =>
    refine bind_leads (installStandard_beside _ _ d₀) fun _ d₁ _ standard => ?_
    have near := Near.trans _ _ _ _ start standard.1
    refine bind_leads (trans _ _ _ standard ?_) fun answer d₂ got read => ?_
    · exact (reads_getTemplate root template).relates refl d₁
    have ending : ∀ {d₃ : Disk}, Beside (agentDir root name) d₀.tree d₃.tree →
        Beside (agentDir root name) d₀.tree (Daemon.runInstall (agentDir root name) run d₃).2.tree :=
      fun copied => trans _ _ _ copied (tame.runInstall (Near.trans _ _ _ _ start copied.1))
    obtain ⟨answered, rfl⟩ := Prod.mk.inj got
    split
    · rename_i manifest
      have listed := tame.installManifest near (Prod.ext (Except.ok.inj answered) rfl)
      have found := Near.trans _ _ _ _ start read.1
      exact bind_leads (trans _ _ _ read (listed _ found)) fun _ d₃ _ copied => ending copied
    · exact ending read

end Install

section Births
variable [Ed25519] [Chrono] [ConfigFormat] [FromStr TemplateManifest]

/-! ### The steps -/

omit [Ed25519] [Chrono] [ConfigFormat] [FromStr TemplateManifest] in
theorem makeDirs_works (base names : List String) (plain : ∀ name ∈ names, Plain name) :
    Works base [] (makeDirs base names) :=
  fun _ refl trans dirs _ => relates_each refl trans fun name member =>
    dirs [name] (List.forall_mem_singleton.mpr (plain name member))

omit [Ed25519] [Chrono] [FromStr TemplateManifest] in
theorem writeConfig_works (base : List String) (config : AgentConfig) :
    Works base [configFile] (writeConfig base config) := by
  intro R refl trans _ files
  refine relates_bind trans (relates_ofExcept refl _) fun text => ?_
  exact files configFile (List.mem_singleton_self _) _

omit [Ed25519] [Chrono] [FromStr TemplateManifest] in
theorem writeConfig_ok {base : List String} {config : AgentConfig} {d d' : Disk}
    (ran : writeConfig base config d = (.ok (), d')) :
    FileTree.legal (base ++ configFile) = true ∧
    ∃ text, ConfigFormat.toStringPretty config = .ok text ∧
      d'.tree.Holds (base ++ configFile) (.text text) := by
  obtain ⟨text, middle, serialized, wrote⟩ := DiskM.bind_ok ran
  obtain ⟨same, rfl⟩ := ofExcept_ok serialized
  exact ⟨(write_ok wrote).1, text, same, (write_ok wrote).2.holds⟩

omit [Ed25519] [Chrono] [FromStr TemplateManifest] in
theorem beginLocal_works (root : List String) (params : BirthParams) (io : LocalIo)
    (expiresAt : DateTime) :
    Works (agentDir root params.name) [configFile] (beginLocal root params io expiresAt) := by
  intro R refl trans dirs files
  refine relates_bind trans ?_ fun _ => writeConfig_works _ _ R refl trans dirs files
  exact makeDirs_works _ _ (by unfold Plain; decide) R refl trans dirs fun _ member => nomatch member

omit [Ed25519] [Chrono] [FromStr TemplateManifest] in
theorem beginLocal_ok {root : List String} {params : BirthParams} {io : LocalIo}
    {expiresAt : DateTime} {d d' : Disk}
    (ran : beginLocal root params io expiresAt d = (.ok (), d')) :
    FileTree.legal (agentDir root params.name ++ configFile) = true ∧
      ∃ text, ConfigFormat.toStringPretty (params.localConfig io expiresAt) = .ok text ∧
        d'.tree.Holds (agentDir root params.name ++ configFile) (.text text) := by
  obtain ⟨_, middle, _, wrote⟩ := DiskM.bind_ok ran
  exact writeConfig_ok wrote

omit [ConfigFormat] [FromStr TemplateManifest] in
theorem writeLocalIdentity_works (root : List String) (params : BirthParams) (io : LocalIo)
    (expiresAt : DateTime) :
    Works (agentDir root params.name) [keyFile, cardFile] (writeLocalIdentity root params io expiresAt) := by
  intro R refl trans _ files
  refine relates_bind trans (files keyFile (by decide) _) fun _ => ?_
  exact relates_bind trans (Reads.relates refl setPermissions_tree) fun _ => files cardFile (by decide) _

omit [ConfigFormat] [FromStr TemplateManifest] in
theorem writeLocalIdentity_ok {root : List String} {params : BirthParams} {io : LocalIo}
    {expiresAt : DateTime} {d d' : Disk}
    (ran : writeLocalIdentity root params io expiresAt d = (.ok (), d')) :
    d'.tree.Holds (agentDir root params.name ++ keyFile) (.text (encodePrivateKeyPem io.seed)) ∧
      d'.tree.Holds (agentDir root params.name ++ cardFile)
        (.text (params.localCard io expiresAt).toStringPretty) := by
  obtain ⟨_, afterKey, wroteKey, ran⟩ := DiskM.bind_ok ran
  obtain ⟨_, afterMode, mode, wroteCard⟩ := DiskM.bind_ok ran
  have held := (write_ok wroteKey).2.holds
  have same := setPermissions_tree afterKey
  rw [mode] at same
  rw [← same] at held
  have card := (write_ok wroteCard).2
  refine ⟨?_, card.holds⟩
  exact (card.elsewhere (ownFiles_plain cardFile (by decide)) (ownFiles_plain keyFile (by decide))
    (by decide)).trans held

/-- The files of an agent that is born, as they are read later. -/
structure Written (base : List String) (config : AgentConfig) (seed : Core.Bytes 32) (card : String)
    (tree : FileTree) : Prop where
  legal : FileTree.legal (base ++ configFile) = true
  config : ∃ text, ConfigFormat.toStringPretty config = .ok text ∧
    tree.Holds (base ++ configFile) (.text text)
  key : tree.Holds (base ++ keyFile) (.text (encodePrivateKeyPem seed))
  card : tree.Holds (base ++ cardFile) (.text card)

omit [Ed25519] [Chrono] [FromStr TemplateManifest] in
theorem Written.leaves {base : List String} {config : AgentConfig} {seed : Core.Bytes 32}
    {card : String} {tree tree' : FileTree} (written : Written base config seed card tree)
    (leaves : KeepsOwn base tree tree') :
    Written base config seed card tree' := by
  obtain ⟨legal, ⟨text, serialized, config⟩, key, card⟩ := written
  exact ⟨legal, ⟨text, serialized, leaves.holds (by decide) config⟩, leaves.holds (by decide) key,
    leaves.holds (by decide) card⟩

/-! ### Local birth -/

omit [FromStr TemplateManifest] in
/-- The tree before the template is installed. -/
theorem birthLocal_before {root : List String} {params : BirthParams} {io : LocalIo}
    {d d₁ d₂ : Disk} {expiresAt : DateTime}
    (begun : beginLocal root params io expiresAt d = (.ok (), d₁))
    (wrote : writeLocalIdentity root params io expiresAt d₁ = (.ok (), d₂)) :
    Written (agentDir root params.name) (params.localConfig io expiresAt) io.seed
      (params.localCard io expiresAt).toStringPretty d₂.tree := by
  obtain ⟨legal, text, serialized, config⟩ := beginLocal_ok begun
  obtain ⟨key, card⟩ := writeLocalIdentity_ok wrote
  have kept := (writeLocalIdentity_works root params io expiresAt).holds (by unfold Plain; decide)
    (show configFile ∈ ownFiles by decide) (by decide) (.text text) d₁ config
  rw [wrote] at kept
  exact ⟨legal, ⟨text, serialized, kept⟩, key, card⟩

theorem birthLocal_inside {root : List String} {params : BirthParams} {io : LocalIo} {d : Disk}
    (tame : Tame root params.name params.template d.tree io.install) :
    Inside (agentDir root params.name) d.tree (birthLocal root params io d).2.tree := by
  have trans := Inside.trans (agentDir root params.name)
  refine bind_leads (Inside.refl _ _) fun expiresAt d₁ _ start => ?_
  have begun := trans _ _ _ start ((beginLocal_works root params io expiresAt).inside
    (by unfold Plain; decide) (by decide) d₁)
  refine bind_leads begun fun _ d₂ _ begun => ?_
  have wrote := trans _ _ _ begun ((writeLocalIdentity_works root params io expiresAt).inside
    (by unfold Plain; decide) (by decide) d₂)
  refine bind_leads wrote fun _ d₃ _ wrote => ?_
  have installed := trans _ _ _ wrote (tame.install wrote.1).inside
  exact bind_leads installed fun _ d₄ _ installed => installed

theorem birthLocal_steps {root : List String} {params : BirthParams} {io : LocalIo} {d d' : Disk}
    {result : BirthResult} (ran : birthLocal root params io d = (.ok result, d')) :
    ∃ expiresAt d₁ d₂, localExpiry params io = .ok expiresAt ∧
      beginLocal root params io expiresAt d = (.ok (), d₁) ∧
      writeLocalIdentity root params io expiresAt d₁ = (.ok (), d₂) ∧
      installForAgent root params.template (agentDir root params.name) io.install d₂ =
        (.ok (), d') ∧
      result.agentInfo.name = params.name := by
  obtain ⟨expiresAt, d₀, expiry, rest⟩ := DiskM.bind_ok ran
  obtain ⟨timed, rfl⟩ := ofExcept_ok expiry
  obtain ⟨_, d₁, begun, rest⟩ := DiskM.bind_ok rest
  obtain ⟨_, d₂, wrote, rest⟩ := DiskM.bind_ok rest
  obtain ⟨_, d₃, installed, rest⟩ := DiskM.bind_ok rest
  obtain ⟨rfl, rfl⟩ := DiskM.pure_ok rest
  exact ⟨expiresAt, d₁, d₂, timed, mapError_ok begun, mapError_ok wrote, mapError_ok installed, rfl⟩

theorem birthLocal_ok {root : List String} {params : BirthParams} {io : LocalIo} {d d' : Disk}
    {result : BirthResult} (tame : Tame root params.name params.template d.tree io.install)
    (ran : birthLocal root params io d = (.ok result, d')) :
    (∃ expiresAt, localExpiry params io = .ok expiresAt ∧
      Written (agentDir root params.name) (params.localConfig io expiresAt) io.seed
        (params.localCard io expiresAt).toStringPretty d'.tree) ∧
        result.agentInfo.name = params.name := by
  obtain ⟨expiresAt, d₁, d₂, timed, begun, wrote, installed, named⟩ := birthLocal_steps ran
  have first := (beginLocal_works root params io expiresAt).near (by unfold Plain; decide) d
  have second := (writeLocalIdentity_works root params io expiresAt).near (by unfold Plain; decide) d₁
  rw [begun] at first
  rw [wrote] at second
  have leaves := (tame.install (Near.trans _ _ _ _ first second)).2
  rw [installed] at leaves
  exact ⟨⟨expiresAt, timed, (birthLocal_before begun wrote).leaves leaves⟩, named⟩

end Births
end GrokingClawId.Daemon
