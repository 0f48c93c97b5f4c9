import GrokingClawId.Lib.AccessLog
import GrokingClawId.Daemon.AgentFiles
import GrokingClawId.Daemon.Templates

/-!
# What the installation of a template opens

The installation again, with a log of the files that it opens before it runs the install script. It reads
in the template's directory and writes in the directory of the agent as long as the listed files stay there.
-/

namespace GrokingClawId.Daemon
open GrokingClawId.Core FileTree DiskM

section Logged
variable [FromStr TemplateManifest]

def parseManifestLogged (path : List String) : LogM String TemplateManifest := do
  let content ← (readToStringLogged path).mapError fun _ =>
    s!"Failed to read manifest: {Path.display path}"
  LogM.silent (DiskM.ofExcept ((FromStr.fromStr content : Except String TemplateManifest).mapError fun _ =>
    s!"Failed to parse manifest: {Path.display path}"))

def getTemplateLogged (root : List String) (template : String) :
    LogM String (Option TemplateManifest) := do
  let dir := templateDir root template
  if !(← LogM.silent (DiskM.ask (·.exists dir))) then pure none
  else if !(← LogM.silent (DiskM.ask (·.exists (dir ++ ["manifest.toml"])))) then pure none
  else
    let manifest ← parseManifestLogged (dir ++ ["manifest.toml"])
    pure (some manifest)

def installStandardLogged (dir agentDir : List String) (file : String) : LogM String Unit := do
  if ← LogM.silent (DiskM.ask (·.exists (dir ++ [file]))) then
    (copyLogged (dir ++ [file]) (agentDir ++ [file])).mapError fun _ => s!"Failed to copy {file} to agent dir"
  else pure ()

def installListedLogged (dir agentDir : List String) (file : String) : LogM String Unit := do
  let src := Path.join dir file
  if ← LogM.silent (DiskM.ask (·.exists src)) then
    let dest := Path.join agentDir file
    LogM.silent (createDirAll (Path.parent dest))
    copyLogged src dest
  else pure ()

/-- The additional files and the install script. -/
def installRestLogged (root : List String) (template : String) (agentDir : List String)
    (run : InstallRun) :
    LogM String Unit := do
  match ← (getTemplateLogged root template).attempt with
  | .ok (some manifest) => LogM.each manifest.files (installListedLogged (templateDir root template) agentDir)
  | _ => pure ()
  LogM.silent (runInstall agentDir run)

def installForAgentLogged (root : List String) (template : String) (agentDir : List String)
    (run : InstallRun) :
    LogM String Unit := do
  let dir := templateDir root template
  if ← LogM.silent (DiskM.ask (·.exists dir)) then
    LogM.each ["run.sh", "install.sh", "health.sh"] (installStandardLogged dir agentDir)
    installRestLogged root template agentDir run
  else
    writeLogged (agentDir ++ ["run.sh"]) (.text (stubScript template))
    LogM.silent setPermissions

/-! ### The same installation -/

@[simp] theorem erase_parseManifestLogged (path : List String) :
    (parseManifestLogged path).erase = parseManifest path := by
  rw [parseManifestLogged, LogM.erase_bind, LogM.erase_mapError, erase_readToStringLogged]
  rfl

@[simp] theorem erase_getTemplateLogged (root : List String) (template : String) :
    (getTemplateLogged root template).erase = getTemplate root template := by
  rw [getTemplateLogged, LogM.erase_bind, getTemplate]
  congr 1
  funext there
  rw [LogM.erase_ite, LogM.erase_bind]
  congr 1
  congr 1
  funext manifest
  rw [LogM.erase_ite, LogM.erase_bind, erase_parseManifestLogged]
  rfl

omit [FromStr TemplateManifest] in
@[simp] theorem erase_installStandardLogged (dir agentDir : List String) (file : String) :
    (installStandardLogged dir agentDir file).erase = installStandard dir agentDir file := by
  rw [installStandardLogged, LogM.erase_bind]
  congr 1
  funext there
  rw [LogM.erase_ite, LogM.erase_mapError, erase_copyLogged]
  rfl

omit [FromStr TemplateManifest] in
@[simp] theorem erase_installListedLogged (dir agentDir : List String) (file : String) :
    (installListedLogged dir agentDir file).erase = installListed dir agentDir file := by
  rw [installListedLogged, LogM.erase_bind]
  congr 1
  funext there
  rw [LogM.erase_ite, LogM.erase_bind, LogM.erase_silent]
  congr 1
  congr 1
  funext made
  rw [erase_copyLogged]

/-- The log is all that is added. -/
theorem erase_installForAgentLogged (root : List String) (template : String)
    (agentDir : List String) (run : InstallRun) :
    (installForAgentLogged root template agentDir run).erase =
      installForAgent root template agentDir run := by
  have standard : (fun file => (installStandardLogged (templateDir root template) agentDir file).erase) =
      installStandard (templateDir root template) agentDir :=
        funext fun file => erase_installStandardLogged _ _ file
  have listed : (fun file => (installListedLogged (templateDir root template) agentDir file).erase) =
      installListed (templateDir root template) agentDir :=
        funext fun file => erase_installListedLogged _ _ file
  rw [installForAgentLogged, LogM.erase_bind, installForAgent]
  congr 1
  funext there
  cases there with
  | false =>
    show (writeLogged _ _ >>= fun _ => LogM.silent setPermissions).erase = _
    rw [LogM.erase_bind]
    rfl
  | true =>
    show (LogM.each _ _ >>= fun _ => installRestLogged root template agentDir run).erase = _
    rw [LogM.erase_bind, LogM.erase_each, standard]
    refine congrArg _ (funext fun _ => ?_)
    rw [installRestLogged, LogM.erase_bind, LogM.erase_attempt, erase_getTemplateLogged]
    refine congrArg _ (funext fun found => ?_)
    rcases found with e | _ | manifest
    · rfl
    · rfl
    · show (LogM.each _ _ >>= fun _ => LogM.silent (runInstall agentDir run)).erase = _
      rw [LogM.erase_bind, LogM.erase_each, listed]
      rfl

/-! ### Where files are opened -/

/-- The template has a directory of its own below the registry. -/
def Under (root : List String) (template : String) : Prop :=
  target (root ++ ["templates"]) <+: target (templateDir root template) ∧
    target (templateDir root template) ≠ target (root ++ ["templates"])

/-- Read in the template's directory under the registry, or written in the directory of the
agent. -/
def Inward (root : List String) (template : String) (agentDir : List String) : Access → Prop
  | .reads loc => Under root template ∧ target (templateDir root template) <+: loc
  | .writes loc => target agentDir <+: loc

/-- Whatever fails, the installation keeps to the two directories until it runs the install
script. -/
def InstallConfined (root : List String) (template : String) (agentDir : List String)
    (run : InstallRun) (tree : FileTree) : Prop :=
  ∀ trouble, LogM.Opens (Inward root template agentDir) (installForAgentLogged root template agentDir run)
    ⟨tree, trouble⟩

/-- If the listed file is a file that can be copied, it is one of the template and is copied to the
agent. -/
def Stays (dir agentDir : List String) (file : String) (tree : FileTree) : Prop :=
  ∀ loc, tree.opensRead (Path.join dir file) = some loc →
    ∀ d, createDirAll (Path.parent (Path.join agentDir file)) ⟨tree, []⟩ = (.ok (), d) →
      target dir <+: loc ∧ ∀ place, d.tree.opensWrite (Path.join agentDir file) = some place →
        target agentDir <+: place

def Lists (tree : FileTree) (dir : List String) (manifest : TemplateManifest) : Prop :=
  legal dir = true ∧ ∃ text, tree.Holds (dir ++ ["manifest.toml"]) (.text text) ∧
    FromStr.fromStr text = .ok manifest

def standardFiles : List String := ["run.sh", "install.sh", "health.sh"]

/-- There is no such template; or its directory lies below the registry, and every listed file that
the loop comes to stays in the two directories; or it does not, and nothing in it can be read. -/
def StaysInside (root : List String) (template : String) (agentDir : List String)
    (tree : FileTree) : Prop :=
  let dir := templateDir root template
  tree.exists dir = false ∨
    (Under root template ∧ ∀ manifest before file after d d', Lists tree dir manifest →
      manifest.files = before ++ file :: after →
      DiskM.each standardFiles (installStandard dir agentDir) ⟨tree, []⟩ = (.ok (), d) →
      DiskM.each before (installListed dir agentDir) d = (.ok (), d') → Stays dir agentDir file d'.tree) ∨
    ¬ Under root template ∧ ∀ file, (standardFiles ++ ["manifest.toml"]).find?
      (fun file => tree.exists (dir ++ [file])) = some file →
      tree.opensRead (dir ++ [file]) = none

section Steps
variable {root : List String} {template : String} {agentDir : List String} {tree : FileTree}

omit [FromStr TemplateManifest] in
theorem smooth_installStandard (dir agentDir : List String) (file : String) :
    Smooth (installStandard dir agentDir file) := by
  refine smooth_bind (smooth_ask _) fun there => ?_
  cases there with
  | false => exact smooth_pure ()
  | true => exact smooth_mapError (smooth_copy _ _) _

omit [FromStr TemplateManifest] in
theorem smooth_installListed (dir agentDir : List String) (file : String) :
    Smooth (installListed dir agentDir file) := by
  refine smooth_bind (smooth_ask _) fun there => ?_
  cases there with
  | false => exact smooth_pure ()
  | true => exact smooth_bind (smooth_createDirAll _) fun _ => smooth_copy _ _

theorem smooth_parseManifest (path : List String) : Smooth (parseManifest path) :=
  smooth_bind (smooth_mapError (smooth_readToString path) _) fun _ => smooth_ofExcept _

theorem smooth_getTemplate (root : List String) (template : String) :
    Smooth (getTemplate root template) := by
  refine smooth_bind (smooth_ask _) fun there => ?_
  cases there with
  | false => exact smooth_pure none
  | true =>
    refine smooth_bind (smooth_ask _) fun manifest => ?_
    cases manifest with
    | false => exact smooth_pure none
    | true => exact smooth_bind (smooth_parseManifest _) fun _ => smooth_pure _

variable {P : Access → Prop}

omit [FromStr TemplateManifest] in
theorem calms_installStandardLogged (dir agentDir : List String) (file : String) :
    LogM.Calms P (installStandardLogged dir agentDir file) := by
  refine LogM.calms_ask _ fun there => ?_
  cases there with
  | false => exact fun d _ => LogM.opens_pure () d
  | true => exact calms_copyLogged _ _

omit [FromStr TemplateManifest] in
theorem calms_installListedLogged (dir agentDir : List String) (file : String) :
    LogM.Calms P (installListedLogged dir agentDir file) := by
  refine LogM.calms_ask _ fun there => ?_
  cases there with
  | false => exact fun d _ => LogM.opens_pure () d
  | true => exact LogM.calms_bind (LogM.calms_silent _) (smooth_createDirAll _) fun _ => calms_copyLogged _ _

theorem calms_getTemplateLogged (root : List String) (template : String) :
    LogM.Calms P (getTemplateLogged root template) := by
  refine LogM.calms_ask _ fun there => ?_
  cases there with
  | false => exact fun d _ => LogM.opens_pure none d
  | true =>
    refine LogM.calms_ask _ fun manifest => ?_
    cases manifest with
    | false => exact fun d _ => LogM.opens_pure none d
    | true =>
      refine LogM.calms_bind ?_ (by rw [erase_parseManifestLogged]; exact smooth_parseManifest _)
        fun manifest d _ => LogM.opens_pure (some manifest) d
      refine LogM.calms_bind (LogM.calms_mapError (calms_readToStringLogged _) _) ?_ fun _ =>
        LogM.calms_silent _
      rw [LogM.erase_mapError, erase_readToStringLogged]
      exact smooth_mapError (smooth_readToString _) _

/-- What failing operations leave out is not opened. -/
theorem calms_installForAgentLogged (root : List String) (template : String)
    (agentDir : List String) (run : InstallRun) :
    LogM.Calms P (installForAgentLogged root template agentDir run) := by
  refine LogM.calms_ask _ fun there => ?_
  cases there with
  | false => exact LogM.calms_bind (calms_writeLogged _ _) (smooth_write _ _) fun _ => LogM.calms_silent _
  | true =>
    refine LogM.calms_bind (LogM.calms_each (calms_installStandardLogged _ _) fun file => ?_) ?_ fun _ => ?_
    · rw [erase_installStandardLogged]
      exact smooth_installStandard _ _ file
    · rw [LogM.erase_each]
      refine smooth_each fun file => ?_
      rw [erase_installStandardLogged]
      exact smooth_installStandard _ _ file
    · refine LogM.calms_attempt (calms_getTemplateLogged root template)
        (by rw [erase_getTemplateLogged]; exact smooth_getTemplate _ _)
        (fun found => ?_) fun e d => LogM.opens_silent _ d
      cases found with
      | none => exact LogM.calms_silent _
      | some manifest =>
        refine LogM.calms_bind (LogM.calms_each (calms_installListedLogged _ _) fun file => ?_) ?_ fun _ =>
          LogM.calms_silent _
        · rw [erase_installListedLogged]
          exact smooth_installListed _ _ file
        · rw [LogM.erase_each]
          refine smooth_each fun file => ?_
          rw [erase_installListedLogged]
          exact smooth_installListed _ _ file

omit [FromStr TemplateManifest] in
theorem opens_installStandardLogged (dir agentDir : List String) (file : String) :
    LogM.Opens P (installStandardLogged dir agentDir file) ⟨tree, []⟩ ↔
      ∀ loc, tree.opensRead (dir ++ [file]) = some loc →
        P (.reads loc) ∧ ∀ place, tree.opensWrite (agentDir ++ [file]) = some place →
        P (.writes place) := by
  rw [installStandardLogged, LogM.opens_ask]
  dsimp only
  split
  · rw [LogM.opens_mapError, opens_copyLogged]
  · rename_i missing
    refine ⟨fun _ loc opens => absurd (exists_of_opensRead opens) missing, fun _ => LogM.opens_pure () _⟩

omit [FromStr TemplateManifest] in
/-- A listed file is copied within the two directories where it stays there. -/
theorem opens_installListedLogged (under : Under root template) (file : String) :
    LogM.Opens (Inward root template agentDir)
      (installListedLogged (templateDir root template) agentDir file) ⟨tree, []⟩ ↔
      Stays (templateDir root template) agentDir file tree := by
  rw [installListedLogged, LogM.opens_ask]
  dsimp only
  split
  · rename_i there
    rw [LogM.opens_bind, LogM.erase_silent]
    have copied : ∀ d, createDirAll (Path.parent (Path.join agentDir file)) ⟨tree, []⟩ =
        (.ok (), d) →
        (LogM.Opens (Inward root template agentDir)
          (copyLogged (Path.join (templateDir root template) file) (Path.join agentDir file)) d ↔
        ∀ loc, tree.opensRead (Path.join (templateDir root template) file) = some loc →
          target (templateDir root template) <+: loc ∧
            ∀ place, d.tree.opensWrite (Path.join agentDir file) = some place →
              target agentDir <+: place) := by
      intro d made
      have adds := createDirAll_addsDirs (Path.parent (Path.join agentDir file)) ⟨tree, []⟩
      rw [made] at adds
      have free := (smooth_createDirAll _).free made
      rw [free, opens_copyLogged, adds.opensRead there]
      simp only [Inward, under, true_and]
    constructor
    · rintro ⟨_, all⟩ loc opens d made
      exact (copied d made).mp (all () d made) loc opens
    · refine fun stays => ⟨LogM.opens_silent _ _, fun _ d made => (copied d made).mpr fun loc opens => ?_⟩
      exact stays loc opens d made
  · rename_i missing
    exact ⟨fun _ loc opens => absurd (exists_of_opensRead opens) missing, fun _ => LogM.opens_pure () _⟩

omit [FromStr TemplateManifest] in
theorem plain_standard {file : String} (standard : file ∈ standardFiles) :
    ∀ name ∈ [file], Plain name := by
  intro name member
  rw [List.mem_singleton.mp member]
  simp only [standardFiles, List.mem_cons, List.not_mem_nil, or_false] at standard
  rcases standard with rfl | rfl | rfl <;> exact ⟨by decide, by decide⟩

omit [FromStr TemplateManifest] in
theorem opens_standard_under (under : Under root template) {file : String}
    (standard : file ∈ standardFiles) :
    LogM.Opens (Inward root template agentDir)
      (installStandardLogged (templateDir root template) agentDir file) ⟨tree, []⟩ := by
  rw [opens_installStandardLogged]
  intro loc opens
  obtain ⟨_, rfl, _⟩ := opensRead_some opens
  refine ⟨⟨under, ?_⟩, fun place opened => ?_⟩
  · rw [target_append_plain _ (plain_standard standard)]
    exact List.prefix_append _ _
  · rw [opensWrite_some opened, target_append_plain _ (plain_standard standard)]
    exact List.prefix_append _ _

omit [FromStr TemplateManifest] in
theorem confined_reads (outside : ¬ Under root template) (loc : Location) :
    ¬ Inward root template agentDir (.reads loc) :=
  fun confined => outside confined.1

omit [FromStr TemplateManifest] in
/-- Outside the registry nothing may be read: the loop over the standard files comes to none of
them, or to a directory, where it ends. -/
theorem opens_standard_outside (outside : ¬ Under root template) (names : List String)
    {Q : Disk → Prop} :
    (LogM.Opens (Inward root template agentDir)
      (LogM.each names (installStandardLogged (templateDir root template) agentDir))
        ⟨tree, []⟩ ∧
      ∀ d, DiskM.each names (installStandard (templateDir root template) agentDir) ⟨tree, []⟩ =
        (.ok (), d) → Q d) ↔
    match names.find? fun file => tree.exists (templateDir root template ++ [file]) with
    | some file => tree.opensRead (templateDir root template ++ [file]) = none
    | none => Q ⟨tree, []⟩ := by
  induction names with
  | nil =>
    refine ⟨fun all => all.2 _ rfl, fun held => ⟨LogM.opens_pure () _, fun d ran => ?_⟩⟩
    obtain ⟨_, rfl⟩ := DiskM.pure_ok ran
    exact held
  | cons file names ih =>
    rw [List.find?_cons]
    show LogM.Opens _ (installStandardLogged _ _ file >>= fun _ => LogM.each names _) _ ∧ _ ↔ _
    rw [LogM.opens_bind, erase_installStandardLogged, opens_installStandardLogged]
    cases there : tree.exists (templateDir root template ++ [file]) with
    | true =>
      dsimp only
      constructor
      · rintro ⟨⟨opened, _⟩, _⟩
        by_contra opens
        obtain ⟨loc, opens⟩ := Option.ne_none_iff_exists'.mp opens
        exact confined_reads outside loc (opened loc opens).1
      · intro closed
        have stuck : ∀ a d, installStandard (templateDir root template) agentDir file ⟨tree, []⟩ ≠
            (.ok a, d) := by
          intro a d ran
          obtain ⟨_, _, asked, copied⟩ := DiskM.bind_ok ran
          obtain ⟨rfl, rfl⟩ := ask_ok asked
          rw [there] at copied
          obtain ⟨content, middle, ranRead, _⟩ := DiskM.bind_ok (mapError_ok copied)
          obtain ⟨loc, opens⟩ := opensRead_of_read ranRead
          rw [closed] at opens
          cases opens
        refine ⟨⟨fun loc opens => ?_, fun a d ran => absurd ran (stuck a d)⟩, fun d ran => ?_⟩
        · rw [closed] at opens
          cases opens
        · obtain ⟨a, middle, ranFirst, _⟩ := DiskM.bind_ok ran
          exact absurd ranFirst (stuck a middle)
    | false =>
      dsimp only
      have skip : installStandard (templateDir root template) agentDir file ⟨tree, []⟩ =
          (.ok (), ⟨tree, []⟩) := by
        show (if tree.exists (templateDir root template ++ [file]) then _ else _ : DiskM String Unit) _ = _
        rw [there]
        rfl
      have onward :
          DiskM.each (file :: names) (installStandard (templateDir root template) agentDir) ⟨tree, []⟩ =
          DiskM.each names (installStandard (templateDir root template) agentDir) ⟨tree, []⟩ :=
            DiskM.bind_of_ok skip
      rw [← ih, onward]
      constructor
      · rintro ⟨⟨_, rest⟩, last⟩
        exact ⟨rest () _ skip, last⟩
      · rintro ⟨rest, last⟩
        refine ⟨⟨fun loc opens => ?_, fun a d ran => ?_⟩, last⟩
        · rw [exists_of_opensRead opens] at there
          cases there
        · rw [skip] at ran
          obtain ⟨_, rfl⟩ := Prod.mk.inj ran
          exact rest

/-! ### The manifest -/

omit [FromStr TemplateManifest] in
theorem plain_manifest : ∀ name ∈ ["manifest.toml"], Plain name := by
  intro name member
  rw [List.mem_singleton.mp member]
  exact ⟨by decide, by decide⟩

omit [FromStr TemplateManifest] in
theorem legal_manifest {dir : List String} : legal (dir ++ ["manifest.toml"]) = legal dir := by
  rw [legal_append, show legal ["manifest.toml"] = true by decide, Bool.and_true]

theorem opens_getTemplateLogged : LogM.Opens P (getTemplateLogged root template) ⟨tree, []⟩ ↔
    ∀ loc, tree.opensRead (templateDir root template ++ ["manifest.toml"]) = some loc →
      P (.reads loc) := by
  rw [getTemplateLogged, LogM.opens_ask]
  dsimp only
  have absent : ∀ {loc}, ¬ tree.exists (templateDir root template ++ ["manifest.toml"]) = true →
      tree.opensRead (templateDir root template ++ ["manifest.toml"]) ≠ some loc :=
    fun missing opens => missing (exists_of_opensRead opens)
  split
  · rename_i missing
    have missing : ¬ tree.exists (templateDir root template) = true := by simpa using missing
    exact ⟨fun _ loc opens => absurd opens (absent fun there => missing (exists_front there)), fun _ =>
      LogM.opens_pure none _⟩
  · rw [LogM.opens_ask]
    dsimp only
    split
    · rename_i missing
      exact ⟨fun _ loc opens => absurd opens (absent (by simpa using missing)), fun _ =>
        LogM.opens_pure none _⟩
    · rw [LogM.opens_bind, parseManifestLogged, LogM.opens_before_silent, LogM.opens_mapError,
        readToStringLogged, LogM.opens_bind, opens_readLogged]
      constructor
      · exact fun all => all.1.1
      · refine fun all => ⟨⟨all, fun content d _ => ?_⟩, fun manifest d _ => LogM.opens_pure _ d⟩
        cases content with
        | text s => exact LogM.opens_pure s d
        | binary bytes => exact LogM.opens_silent _ d

theorem getTemplate_lists {manifest : TemplateManifest} {d : Disk}
    (ran : getTemplate root template ⟨tree, []⟩ = (.ok (some manifest), d)) :
    Lists tree (templateDir root template) manifest := by
  obtain ⟨_, _, asked, ran⟩ := DiskM.bind_ok ran
  obtain ⟨rfl, rfl⟩ := ask_ok asked
  split at ran
  · obtain ⟨same, _⟩ := DiskM.pure_ok ran
    cases same
  · obtain ⟨_, _, asked, ran⟩ := DiskM.bind_ok ran
    obtain ⟨rfl, rfl⟩ := ask_ok asked
    split at ran
    · obtain ⟨same, _⟩ := DiskM.pure_ok ran
      cases same
    · rename_i there
      have there : tree.exists (templateDir root template ++ ["manifest.toml"]) =
          true := by simpa using there
      obtain ⟨parsed, _, ranParse, given⟩ := DiskM.bind_ok ran
      obtain ⟨same, _⟩ := DiskM.pure_ok given
      obtain rfl := Option.some.inj same
      obtain ⟨text, middle, ranRead, ofText⟩ := DiskM.bind_ok ranParse
      obtain ⟨holds, _⟩ := readToString_ok (mapError_ok ranRead)
      refine ⟨legal_manifest.symm.trans (exists_iff.mp there).1, text, holds, ?_⟩
      obtain ⟨result, _⟩ := ofExcept_ok ofText
      cases parse : (FromStr.fromStr text : Except String TemplateManifest) with
      | error e =>
        rw [parse] at result
        cases result
      | ok found =>
        rw [parse] at result
        obtain rfl := Except.ok.inj result
        rfl

theorem getTemplate_of_lists {manifest : TemplateManifest}
    (lists : Lists tree (templateDir root template) manifest) :
    getTemplate root template ⟨tree, []⟩ = (.ok (some manifest), ⟨tree, []⟩) := by
  obtain ⟨legal_, text, holds, parsed⟩ := lists
  have legal' : legal (templateDir root template ++ ["manifest.toml"]) = true :=
    legal_manifest.trans legal_
  have there := exists_of_opensRead (opensRead_of_holds legal' holds)
  have front := exists_front there
  have start : getTemplate root template ⟨tree, []⟩ =
      (parseManifest (templateDir root template ++ ["manifest.toml"]) >>= fun manifest =>
        pure (some manifest)) ⟨tree, []⟩ := by
    show (if !tree.exists (templateDir root template) then _
      else _ : DiskM String (Option TemplateManifest)) _ = _
    rw [front]
    show (if !tree.exists (templateDir root template ++ ["manifest.toml"]) then _
      else _ : DiskM String (Option TemplateManifest)) _ = _
    rw [there]
    rfl
  rw [start]
  have given : parseManifest (templateDir root template ++ ["manifest.toml"]) ⟨tree, []⟩ =
      (.ok manifest, ⟨tree, []⟩) := by
    refine (bind_of_ok (mapError_of_ok (readToString_free legal' holds))).trans ?_
    show (((FromStr.fromStr text : Except String TemplateManifest).mapError _, _) :
      Except String TemplateManifest × Disk) = _
    rw [parsed]
    rfl
  rw [bind_of_ok given]
  rfl

def KeepsManifest (dir : List String) (tree tree' : FileTree) : Prop :=
  tree'.lookup (dir ++ ["manifest.toml"]) = tree.lookup (dir ++ ["manifest.toml"])

omit [FromStr TemplateManifest] in
theorem KeepsManifest.refl (dir : List String) (tree : FileTree) :
    KeepsManifest dir tree tree := rfl

omit [FromStr TemplateManifest] in
theorem KeepsManifest.trans (dir : List String) (tree middle tree' : FileTree)
    (first : KeepsManifest dir tree middle) (second : KeepsManifest dir middle tree') :
    KeepsManifest dir tree tree' := Eq.trans second first

omit [FromStr TemplateManifest] in
/-- The standard files are not the manifest. -/
theorem write_keepsManifest (dir agentDir : List String) {file : String}
    (standard : file ∈ standardFiles) (content : Content) :
    Relates (KeepsManifest dir) (write (agentDir ++ [file]) content) := by
  intro d
  have other : ∀ {left tree'}, Writes (agentDir ++ [file]) left d.tree tree' →
      KeepsManifest dir d.tree tree' := by
    intro left tree' writes
    refine writes.lookup fun same => ?_
    obtain ⟨loc, walked⟩ := writes.walk
    have here := walk_target walked
    have there := walk_target (same.trans walked)
    rw [here, target_append_plain _ (plain_standard standard),
      target_append_plain _ plain_manifest] at there
    have names := (List.append_inj' there rfl).2
    rw [List.singleton_inj] at names
    rw [names] at standard
    exact absurd standard (by decide)
  rcases write_tree (agentDir ++ [file]) content d with ⟨_, same | ⟨left, writes⟩⟩ | ⟨_, _, writes⟩
  · rw [same]
    exact KeepsManifest.refl dir d.tree
  · exact other writes
  · exact other writes

omit [FromStr TemplateManifest] in
theorem installStandard_keepsManifest (dir agentDir : List String) {file : String}
    (standard : file ∈ standardFiles) :
    Relates (KeepsManifest dir) (installStandard dir agentDir file) := by
  have reads : Relates (KeepsManifest dir) (read (dir ++ [file])) := by
    intro d
    rw [(read_tree (dir ++ [file]) d).1]
    exact KeepsManifest.refl dir d.tree
  have copies : Relates (KeepsManifest dir) (copy (dir ++ [file]) (agentDir ++ [file])) :=
    relates_bind (KeepsManifest.trans dir) reads fun _ =>
      relates_bind (KeepsManifest.trans dir) (relates_ask (KeepsManifest.refl dir) _) fun _ =>
        write_keepsManifest dir agentDir standard _
  refine relates_bind (KeepsManifest.trans dir) (relates_ask (KeepsManifest.refl dir) _) fun there => ?_
  cases there with
  | false => exact relates_pure (KeepsManifest.refl dir) ()
  | true => exact fun d => copies d

theorem lists_after {d : Disk} {manifest : TemplateManifest} (dir agentDir : List String)
    (ran : DiskM.each standardFiles (installStandard dir agentDir) ⟨tree, []⟩ = (.ok (), d)) :
    Lists d.tree dir manifest ↔ Lists tree dir manifest := by
  have same := relates_each (KeepsManifest.refl dir) (KeepsManifest.trans dir)
    (fun file member => installStandard_keepsManifest dir agentDir member) ⟨tree, []⟩
  rw [ran] at same
  simp only [Lists, FileTree.Holds,
    show d.tree.lookup (dir ++ ["manifest.toml"]) = tree.lookup (dir ++ ["manifest.toml"]) from same]

/-! ### The whole installation -/

theorem opens_installRestLogged (run : InstallRun) :
    LogM.Opens P (installRestLogged root template agentDir run) ⟨tree, []⟩ ↔
    LogM.Opens P (getTemplateLogged root template) ⟨tree, []⟩ ∧
    ∀ manifest, Lists tree (templateDir root template) manifest →
      LogM.Opens P (LogM.each manifest.files (installListedLogged (templateDir root template) agentDir))
        ⟨tree, []⟩ := by
  rw [installRestLogged, LogM.opens_bind, LogM.opens_attempt]
  refine and_congr_right fun _ => ⟨fun all manifest lists => ?_, fun all found d ran => ?_⟩
  · have tried : (getTemplateLogged root template).attempt.erase ⟨tree, []⟩ =
        ((.ok (.ok (some manifest)), ⟨tree, []⟩) : Except String _ × Disk) := by
      rw [LogM.erase_attempt, erase_getTemplateLogged, DiskM.attempt, getTemplate_of_lists lists]
    exact (LogM.opens_before_silent _ (fun _ => runInstall agentDir run) _).mp (all _ _ tried)
  · rcases found with e | _ | manifest
    · exact LogM.opens_silent _ _
    · exact LogM.opens_silent _ _
    · rw [LogM.erase_attempt, erase_getTemplateLogged] at ran
      obtain ⟨given, same⟩ := Prod.mk.inj ran
      have tried : getTemplate root template ⟨tree, []⟩ = (.ok (some manifest), d) :=
        Prod.ext (Except.ok.inj given) same
      have free := (smooth_getTemplate root template).free tried
      have lists := getTemplate_lists tried
      have again := getTemplate_of_lists lists
      rw [tried] at again
      obtain rfl := (Prod.mk.inj again).2
      exact (LogM.opens_before_silent _ (fun _ => runInstall agentDir run) _).mpr (all manifest lists)

omit [FromStr TemplateManifest] in
theorem opens_each_listed (under : Under root template) (files : List String) :
    LogM.Opens (Inward root template agentDir)
      (LogM.each files (installListedLogged (templateDir root template) agentDir))
        ⟨tree, []⟩ ↔
      ∀ before file after d, files = before ++ file :: after →
        DiskM.each before (installListed (templateDir root template) agentDir) ⟨tree, []⟩ =
          (.ok (), d) →
        Stays (templateDir root template) agentDir file d.tree := by
  have listed : (fun file => (installListedLogged (templateDir root template) agentDir file).erase) =
      installListed (templateDir root template) agentDir :=
        funext fun file => erase_installListedLogged _ _ file
  rw [LogM.opens_each, listed]
  have each_ : ∀ before file d, DiskM.each before (installListed (templateDir root template) agentDir)
      ⟨tree, []⟩ = (.ok (), d) →
      (LogM.Opens (Inward root template agentDir)
        (installListedLogged (templateDir root template) agentDir file) d ↔
        Stays (templateDir root template) agentDir file d.tree) := by
    intro before file d ran
    rw [(smooth_each (smooth_installListed _ _)).free ran]
    exact opens_installListedLogged under file
  constructor
  · exact fun all before file after d split ran =>
      (each_ before file d ran).mp (all before file after d split ran)
  · exact fun all before file after d split ran =>
      (each_ before file d ran).mpr (all before file after d split ran)

theorem opens_under (under : Under root template) (run : InstallRun) :
    LogM.Opens (Inward root template agentDir)
      (LogM.each standardFiles (installStandardLogged (templateDir root template) agentDir) >>=
        fun _ => installRestLogged root template agentDir run) ⟨tree, []⟩ ↔
      ∀ manifest before file after d d', Lists tree (templateDir root template) manifest →
        manifest.files = before ++ file :: after →
        DiskM.each standardFiles (installStandard (templateDir root template) agentDir) ⟨tree, []⟩ =
          (.ok (), d) →
        DiskM.each before (installListed (templateDir root template) agentDir) d = (.ok (), d') →
        Stays (templateDir root template) agentDir file d'.tree := by
  have standard : (fun file => (installStandardLogged (templateDir root template) agentDir file).erase) =
      installStandard (templateDir root template) agentDir :=
        funext fun file => erase_installStandardLogged _ _ file
  have first : LogM.Opens (Inward root template agentDir)
      (LogM.each standardFiles (installStandardLogged (templateDir root template) agentDir)) ⟨tree, []⟩ := by
    refine (LogM.opens_each _ _ _).mpr fun before file after d split ran => ?_
    rw [standard] at ran
    rw [(smooth_each (smooth_installStandard _ _)).free ran]
    exact opens_standard_under under (split ▸ List.mem_append_right before List.mem_cons_self)
  have manifest_ : ∀ tree', LogM.Opens (Inward root template agentDir) (getTemplateLogged root template)
      ⟨tree', []⟩ := by
    intro tree'
    refine opens_getTemplateLogged.mpr fun loc opens => ⟨under, ?_⟩
    rw [(opensRead_some opens).2.1, target_append_plain _ plain_manifest]
    exact List.prefix_append _ _
  rw [LogM.opens_bind, LogM.erase_each, standard]
  constructor
  · rintro ⟨_, rest⟩ manifest before file after d d' lists split ran listed
    have opened := rest () d ran
    have free := (smooth_each (smooth_installStandard _ _)).free ran
    rw [free, opens_installRestLogged] at opened
    rw [free] at listed
    exact (opens_each_listed under _).mp (opened.2 manifest ((lists_after _ agentDir ran).mpr lists)) before
      file after d' split listed
  · refine fun all => ⟨first, fun _ d ran => ?_⟩
    have free := (smooth_each (smooth_installStandard _ _)).free ran
    rw [free, opens_installRestLogged]
    refine ⟨manifest_ d.tree, fun manifest lists =>
      (opens_each_listed under _).mpr fun before file after d' split listed => ?_⟩
    rw [← free] at listed
    exact all manifest before file after d d' ((lists_after _ agentDir ran).mp lists) split ran listed

theorem opens_outside (outside : ¬ Under root template) (run : InstallRun) :
    LogM.Opens (Inward root template agentDir)
      (LogM.each standardFiles (installStandardLogged (templateDir root template) agentDir) >>=
        fun _ => installRestLogged root template agentDir run) ⟨tree, []⟩ ↔
      ∀ file, (standardFiles ++ ["manifest.toml"]).find? (fun file =>
        tree.exists (templateDir root template ++ [file])) = some file →
        tree.opensRead (templateDir root template ++ [file]) = none := by
  have standard : (fun file => (installStandardLogged (templateDir root template) agentDir file).erase) =
      installStandard (templateDir root template) agentDir :=
        funext fun file => erase_installStandardLogged _ _ file
  have rest : LogM.Opens (Inward root template agentDir)
      (installRestLogged root template agentDir run) ⟨tree, []⟩ ↔
      tree.opensRead (templateDir root template ++ ["manifest.toml"]) = none := by
    rw [opens_installRestLogged, opens_getTemplateLogged]
    constructor
    · rintro ⟨opened, _⟩
      by_contra opens
      obtain ⟨loc, opens⟩ := Option.ne_none_iff_exists'.mp opens
      exact confined_reads outside loc (opened loc opens)
    · intro closed
      refine ⟨fun loc opens => ?_, fun manifest lists => ?_⟩
      · rw [closed] at opens
        cases opens
      · obtain ⟨legal_, text, holds, _⟩ := lists
        rw [opensRead_of_holds (legal_manifest.trans legal_) holds] at closed
        cases closed
  rw [LogM.opens_bind, LogM.erase_each, standard, List.find?_append]
  refine Iff.trans ⟨fun all => ⟨all.1, fun d ran => all.2 () d ran⟩, fun all =>
    ⟨all.1, fun _ d ran => all.2 d ran⟩⟩
    ((opens_standard_outside outside standardFiles (Q := fun d =>
      LogM.Opens (Inward root template agentDir) (installRestLogged root template agentDir run) d)).trans ?_)
  cases standardFiles.find? fun file => tree.exists (templateDir root template ++ [file]) with
  | some file => simp
  | none =>
    dsimp only
    rw [rest]
    cases there : tree.exists (templateDir root template ++ ["manifest.toml"]) with
    | true => simp [there]
    | false =>
      refine iff_of_true ?_ fun file found => ?_
      · by_contra opens
        obtain ⟨loc, opens⟩ := Option.ne_none_iff_exists'.mp opens
        rw [exists_of_opensRead opens] at there
        cases there
      · simp [there] at found

end Steps

/-- The installation keeps to the two directories exactly where every listed file that it comes to
does. -/
theorem installConfined_iff_stays (root : List String) (template : String) (agentDir : List String)
    (run : InstallRun) (tree : FileTree) :
    InstallConfined root template agentDir run tree ↔ StaysInside root template agentDir tree := by
  -- without trouble the most is opened
  have calm : InstallConfined root template agentDir run tree ↔
      LogM.Opens (Inward root template agentDir)
        (installForAgentLogged root template agentDir run) ⟨tree, []⟩ :=
    ⟨fun all => all [], fun opens trouble => calms_installForAgentLogged root template agentDir run
      ⟨tree, trouble⟩ opens⟩
  rw [calm, installForAgentLogged, LogM.opens_ask, StaysInside]
  dsimp only
  cases there : tree.exists (templateDir root template) with
  | false =>
    refine iff_of_true ?_ (.inl rfl)
    refine (LogM.opens_before_silent _ _ _).mpr ((opens_writeLogged _ _ _).mpr fun place opens => ?_)
    rw [opensWrite_some opens, target_append_plain _ (plain_standard (by decide : "run.sh" ∈ standardFiles))]
    exact List.prefix_append _ _
  | true =>
    by_cases under : Under root template
    · refine (opens_under under run).trans ⟨fun all => .inr (.inl ⟨under, all⟩), ?_⟩
      rintro (missing | ⟨_, all⟩ | ⟨outside, _⟩)
      · cases missing
      · exact all
      · exact absurd under outside
    · refine (opens_outside under run).trans ⟨fun all => .inr (.inr ⟨under, all⟩), ?_⟩
      rintro (missing | ⟨inside, _⟩ | ⟨_, all⟩)
      · cases missing
      · exact absurd inside under
      · exact all

end Logged

end GrokingClawId.Daemon
