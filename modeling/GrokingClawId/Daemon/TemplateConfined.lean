import GrokingClawId.Daemon.TemplateAccess
import GrokingClawId.Lib.Spreading

/-!
# Templates that keep to their directories

The installation keeps to the directory of the template and to that of the agent where every listed file that
it may come to leads into both, as far as the tree before the installation tells. The trees have no symbolic
links, which a copy would follow.
-/

namespace GrokingClawId.Daemon
open GrokingClawId.Core FileTree DiskM

/-- Where the copies may put a file. -/
def InAgent (agentDir : List String) (loc : Location) : Prop := target agentDir <+: loc

/-- Where a directory may be made for a copy. -/
def OnWay (agentDir : List String) (files : List String) (loc : Location) : Prop :=
  ∃ file ∈ files, ∃ way, way <+: Path.parent (Path.join agentDir file) ∧ target way = loc

/-- The installation does not end at this file: it is not there, or it is a file and nothing is in the way
of its copy. -/
def Passes (tree : FileTree) (src dest : List String) : Prop :=
  tree.exists src = true → tree.opensRead src ≠ none ∧ ¬ tree.Shut dest

/-- Each listed file that the loop may come to and that may be there leads into the template's directory,
and its copy, unless it never can be opened, into the agent's. -/
def ListsInside (dir agentDir : List String) (files : List String) (tree : FileTree) : Prop :=
  (∀ file ∈ standardFiles, Passes tree (dir ++ [file]) (agentDir ++ [file])) →
    ∀ before file after, files = before ++ file :: after →
      (∀ other ∈ before, Passes tree (Path.join dir other) (Path.join agentDir other)) →
      MayRead (InAgent agentDir) (OnWay agentDir files) tree (Path.join dir file) →
        target dir <+: target (Path.join dir file) ∧
          (¬ tree.Shut (Path.join agentDir file) → target agentDir <+: target (Path.join agentDir file))

section Confined
variable {dir agentDir : List String} {files : List String} {tree : FileTree}

/-- What the installation has changed by then. -/
abbrev Installs (agentDir : List String) (files : List String) : FileTree → FileTree → Prop :=
  FileTree.Spreads (InAgent agentDir) (OnWay agentDir files)

theorem installStandard_installs {file : String} (standard : file ∈ standardFiles) :
    Relates (Installs agentDir files) (installStandard dir agentDir file) := by
  refine relates_bind FileTree.Spreads.trans (relates_ask FileTree.Spreads.refl _) fun there => ?_
  cases there with
  | false => exact relates_pure FileTree.Spreads.refl ()
  | true =>
    refine fun d => copy_spreads fun _ _ _ => ?_
    unfold InAgent
    rw [target_append_plain _ (plain_standard standard)]
    exact List.prefix_append _ _

/-- What has been copied was not shut off before either. -/
theorem passes_of_copy {d d' : Disk} {src dest : List String} (installs : Installs agentDir files tree d.tree)
    (ran : copy src dest d = (.ok (), d')) : Passes tree src dest := by
  intro there
  obtain ⟨readable, writable⟩ := copy_opens ran
  refine ⟨fun closed => ?_, fun shut => writable (installs.shut shut).closed⟩
  have isDir := installs.lookup_dir (exists_dir there closed)
  obtain ⟨loc, opens⟩ := Option.ne_none_iff_exists'.mp readable
  obtain ⟨_, _, content, holds⟩ := opensRead_some opens
  rw [FileTree.Holds, isDir] at holds
  cases holds

theorem createDirAll_installs {file : String} (listed : file ∈ files) :
    Relates (Installs agentDir files) (createDirAll (Path.parent (Path.join agentDir file))) :=
  createDirAll_spreads fun way initial => ⟨file, listed, way, initial, rfl⟩

/-- One more listed file, where its copy goes to one of the places. -/
theorem installListed_spreads {places ways : Location → Prop} {file : String} {d : Disk}
    (spreads : FileTree.Spreads places ways tree d.tree)
    (onWay : ∀ way, way <+: Path.parent (Path.join agentDir file) → ways (target way))
    (inside : MayRead places ways tree (Path.join dir file) →
      ¬ tree.Shut (Path.join agentDir file) → places (target (Path.join agentDir file))) :
    FileTree.Spreads places ways tree (installListed dir agentDir file d).2.tree := by
  show FileTree.Spreads places ways tree
    ((if d.tree.exists (Path.join dir file) then _ else _ : DiskM String Unit) d).2.tree
  split
  · cases ran : createDirAll (Path.parent (Path.join agentDir file)) d with
    | mk result d' =>
      have later := FileTree.Spreads.trans _ _ _ spreads (createDirAll_spreads onWay d)
      rw [ran] at later
      cases result with
      | error e =>
        rw [bind_error ran]
        exact later
      | ok _ =>
        rw [bind_of_ok ran]
        exact FileTree.Spreads.trans _ _ _ later (copy_spreads fun loc opens open_ =>
          inside (later.mayRead opens) fun shut => open_ (later.shut shut))
  · exact spreads

theorem installListed_passes {file : String} {d d' : Disk} (listed : file ∈ files)
    (installs : Installs agentDir files tree d.tree)
    (ran : installListed dir agentDir file d = (.ok (), d')) :
    Passes tree (Path.join dir file) (Path.join agentDir file) := by
  intro there
  obtain ⟨_, _, asked, rest⟩ := bind_ok ran
  obtain ⟨same, other⟩ := ask_ok asked
  rw [same, other, if_pos (installs.exists there)] at rest
  obtain ⟨_, middle, made, copied⟩ := bind_ok rest
  have adds := (createDirAll_installs listed : Relates (Installs agentDir files) _) d
  rw [made] at adds
  exact passes_of_copy (FileTree.Spreads.trans _ _ _ installs adds) copied there

theorem installStandard_passes {file : String} {d d' : Disk} (installs : Installs agentDir files tree d.tree)
    (ran : installStandard dir agentDir file d = (.ok (), d')) :
    Passes tree (dir ++ [file]) (agentDir ++ [file]) := by
  intro there
  obtain ⟨_, _, asked, rest⟩ := bind_ok ran
  obtain ⟨same, other⟩ := ask_ok asked
  rw [same, other, if_pos (installs.exists there)] at rest
  exact passes_of_copy installs (mapError_ok rest) there

/-- What the standard files come to. -/
theorem standard_installs {d : Disk}
    (ran : DiskM.each standardFiles (installStandard dir agentDir) ⟨tree, []⟩ = (.ok (), d)) :
    Installs agentDir files tree d.tree ∧ ∀ file ∈ standardFiles,
      Passes tree (dir ++ [file]) (agentDir ++ [file]) := by
  refine each_keeps (fun before file after split _ d installs =>
    ⟨?_, fun d' ran => installStandard_passes installs ran⟩)
    (FileTree.Spreads.refl tree) ran
  have member : file ∈ standardFiles := split ▸ List.mem_append_right before List.mem_cons_self
  exact FileTree.Spreads.trans _ _ _ installs (installStandard_installs member d)

/-- What some of the listed files come to. -/
theorem listed_installs {before rest : List String} {d d' : Disk} (split : files = before ++ rest)
    (inside : ListsInside dir agentDir files tree)
    (passed : ∀ file ∈ standardFiles, Passes tree (dir ++ [file]) (agentDir ++ [file]))
    (installs : Installs agentDir files tree d.tree)
    (ran : DiskM.each before (installListed dir agentDir) d = (.ok (), d')) :
    Installs agentDir files tree d'.tree ∧
      ∀ other ∈ before, Passes tree (Path.join dir other) (Path.join agentDir other) := by
  refine each_keeps (fun front file back whole earlier d installs => ?_) installs ran
  have sides : files = front ++ file :: (back ++ rest) := by
    rw [split, whole, List.append_assoc, List.cons_append]
  have member : file ∈ files := sides ▸ List.mem_append_right front List.mem_cons_self
  refine ⟨?_, fun d' ran => installListed_passes member installs ran⟩
  exact installListed_spreads installs (fun way initial => ⟨file, member, way, initial, rfl⟩)
    fun may open_ => (inside passed front file _ sides earlier may).2 open_

/-- Where the listed files lead inside, the copies stay there. -/
theorem staysInside_of_lists [FromStr TemplateManifest] {root : List String} {template : String}
    (under : Under root template)
    (inside : ∀ manifest, Lists tree (templateDir root template) manifest →
      ListsInside (templateDir root template) agentDir manifest.files tree) :
    StaysInside root template agentDir tree := by
  refine .inr (.inl ⟨under, fun manifest before file after d d' lists split standard listed loc opens made
    making => ?_⟩)
  have here : file ∈ manifest.files := split ▸ List.mem_append_right before List.mem_cons_self
  have start : Installs agentDir manifest.files tree d.tree ∧ _ := standard_installs standard
  obtain ⟨installs, others⟩ := listed_installs split (inside manifest lists) start.2 start.1 listed
  obtain ⟨reads, writes⟩ :=
    inside manifest lists start.2 before file after split others (installs.mayRead opens)
  have adds := (createDirAll_installs here : Relates (Installs agentDir manifest.files) _) ⟨d'.tree, []⟩
  rw [making] at adds
  refine ⟨(opensRead_some opens).2.1 ▸ reads, fun place opened => ?_⟩
  rw [opensWrite_some opened]
  refine writes fun shut => ?_
  have closed := (adds.shut (installs.shut shut)).closed
  rw [opened] at closed
  cases closed

/-- Both loops come to their ends, and a listed file that may come to be there is there before. -/
def Settled (dir agentDir : List String) (files : List String) (tree : FileTree) : Prop :=
  (∃ d d', DiskM.each standardFiles (installStandard dir agentDir) ⟨tree, []⟩ = (.ok (), d) ∧
    DiskM.each files (installListed dir agentDir) d = (.ok (), d')) ∧
  ∀ file ∈ files, MayRead (InAgent agentDir) (OnWay agentDir files) tree (Path.join dir file) →
    tree.opensRead (Path.join dir file) ≠ none

/-- No copy takes a file away. -/
theorem opensRead_later {before : List String} {src : List String} {d d' : Disk}
    (standard : DiskM.each standardFiles (installStandard dir agentDir) ⟨tree, []⟩ = (.ok (), d))
    (ran : DiskM.each before (installListed dir agentDir) d = (.ok (), d'))
    (opens : tree.opensRead src ≠ none) :
    d'.tree.opensRead src ≠ none := by
  have start : Installs agentDir [] tree d.tree ∧ _ := standard_installs standard
  have anywhere : ∀ file (d' : Disk), FileTree.Spreads (fun _ => True) (fun _ => True) d.tree d'.tree →
      FileTree.Spreads (fun _ => True) (fun _ => True) d.tree (installListed dir agentDir file d').2.tree :=
    fun file d' spreads => installListed_spreads spreads (fun _ _ => trivial) fun _ _ => trivial
  have later := (each_keeps (P := fun _ => True) (fun front file back _ _ d' spreads =>
    ⟨anywhere file d' spreads, fun _ _ => trivial⟩) (FileTree.Spreads.refl d.tree) ran).1
  exact later.opensRead (start.1.opensRead opens)

/-- A listed file that is installed stays inside only if it leads inside. -/
theorem inside_of_stays {file : String} {d : Disk} (stays : Stays dir agentDir file tree)
    (opens : tree.opensRead (Path.join dir file) ≠ none)
    (ran : installListed dir agentDir file ⟨tree, []⟩ = (.ok (), d)) :
    target dir <+: target (Path.join dir file) ∧ target agentDir <+: target (Path.join agentDir file) := by
  obtain ⟨loc, opens⟩ := Option.ne_none_iff_exists'.mp opens
  obtain ⟨_, _, asked, rest⟩ := bind_ok ran
  obtain ⟨same, other⟩ := ask_ok asked
  rw [same, other, if_pos (exists_of_opensRead opens)] at rest
  obtain ⟨_, middle, made, copied⟩ := bind_ok rest
  obtain ⟨reads, writes⟩ := stays loc opens middle made
  obtain ⟨place, opened⟩ := Option.ne_none_iff_exists'.mp (copy_opens copied).2
  rw [(opensRead_some opens).2.1] at reads
  exact ⟨reads, opensWrite_some opened ▸ writes place opened⟩

variable [FromStr TemplateManifest] {root : List String} {template : String}

/-- Where nothing settles otherwise, the copies stay inside only if the listed files lead there. -/
theorem lists_of_staysInside (under : Under root template) (stays : StaysInside root template agentDir tree)
    {manifest : TemplateManifest} (lists : Lists tree (templateDir root template) manifest)
    (settled : Settled (templateDir root template) agentDir manifest.files tree) :
    ListsInside (templateDir root template) agentDir manifest.files tree := by
  intro _ before file after split _ may
  have member : file ∈ manifest.files := split ▸ List.mem_append_right before List.mem_cons_self
  have opens := settled.2 file member may
  obtain ⟨d, d', standard, listed⟩ := settled.1
  rw [split] at listed
  obtain ⟨d₁, d₂, front, here⟩ := each_reaches listed
  have all := stays.resolve_left fun missing => by
    obtain ⟨legal_, text, holds, _⟩ := lists
    rw [exists_front (exists_of_opensRead (opensRead_of_holds (legal_manifest.trans legal_) holds))]
      at missing
    cases missing
  rcases all with ⟨_, all⟩ | ⟨outside, _⟩
  · have inside := all manifest before file after d d₁ lists split standard front
    have free := (smooth_each (smooth_installStandard _ _)).free standard
    rw [free] at front
    have free₁ := (smooth_each (smooth_installListed _ _)).free front
    rw [← free] at front
    rw [free₁] at here
    obtain ⟨reads, writes⟩ := inside_of_stays inside (opensRead_later standard front opens) here
    exact ⟨reads, fun _ => writes⟩
  · exact absurd under outside

end Confined

section Installation
variable [FromStr TemplateManifest]

/-- There is no such template; or its directory lies below the registry, and the listed files lead inside;
or it does not, and the first of its files that is there is none that can be read. -/
def KeepsInside (root : List String) (template : String) (agentDir : List String) (tree : FileTree) : Prop :=
  let dir := templateDir root template
  tree.exists dir = false ∨
    (Under root template ∧ ∀ manifest, Lists tree dir manifest →
      ListsInside dir agentDir manifest.files tree) ∨
    ¬ Under root template ∧ ∀ file, (standardFiles ++ ["manifest.toml"]).find?
      (fun file => tree.exists (dir ++ [file])) = some file →
      tree.opensRead (dir ++ [file]) = none

/-- The installation keeps to the two directories where the listed files lead inside; and where they do
not, it does not, unless it ends before or a listed file comes to be there only by the copies. -/
theorem installConfined_of_inside (root : List String) (template : String) (agentDir : List String)
    (run : InstallRun) (tree : FileTree) :
    (KeepsInside root template agentDir tree → InstallConfined root template agentDir run tree) ∧
    ((∀ manifest, Under root template → Lists tree (templateDir root template) manifest →
        Settled (templateDir root template) agentDir manifest.files tree) →
      InstallConfined root template agentDir run tree → KeepsInside root template agentDir tree) := by
  rw [installConfined_iff_stays]
  constructor
  · rintro (missing | ⟨under, inside⟩ | outside)
    · exact .inl missing
    · exact staysInside_of_lists under inside
    · exact .inr (.inr outside)
  · intro settled stays
    rcases stays with missing | ⟨under, all⟩ | outside
    · exact .inl missing
    · refine .inr (.inl ⟨under, fun manifest lists => ?_⟩)
      exact lists_of_staysInside under (.inr (.inl ⟨under, all⟩)) lists (settled manifest under lists)
    · exact .inr (.inr outside)

end Installation

namespace StandIn

/-- The templates `web`, which lists a file of the other one, and `other`, and an agent. -/
def sharedTree : FileTree :=
  let templates :=
    ((bareTree.put [] "templates" .dir bareTree.root (by decide)).put ["templates"] "web" .dir (by decide)
    (by decide)).put
    ["templates"] "other" .dir (by decide) (by decide)
  let filled :=
    (templates.put ["templates", "web"] "manifest.toml" (.file (.text "files")) (by decide) (by decide)).put
    ["templates", "other"] "run.sh" (.file (.text "exit 0")) (by decide) (by decide)
  (filled.put [] "agents" .dir (by decide) (by decide)).put ["agents"] "scout" .dir (by decide) (by decide)

@[reducible] def listsOwn : FromStr TemplateManifest :=
  Core.StandIn.parser [("files", ⟨"1.0.0", ["lib/../data/seed.json"]⟩)]

@[reducible] def listsOther : FromStr TemplateManifest :=
  Core.StandIn.parser [("files", ⟨"1.0.0", ["../other/run.sh"]⟩)]

end StandIn

theorem installConfined_of_inside_web :
    @InstallConfined StandIn.listsOwn [] "web" ["agents", "scout"] ⟨.ok (), id⟩ StandIn.sharedTree := by
  refine (@installConfined_of_inside StandIn.listsOwn [] "web" ["agents", "scout"] ⟨.ok (), id⟩
    StandIn.sharedTree).1 ?_
  refine .inr (.inl ⟨⟨by decide, by decide⟩, fun manifest lists _ before file after split _ _ => ?_⟩)
  obtain ⟨_, text, holds, parsed⟩ := lists
  obtain rfl : text = "files" := holds_text holds (show _ = _ by decide)
  obtain rfl : (⟨"1.0.0", ["lib/../data/seed.json"]⟩ : TemplateManifest) = manifest := Except.ok.inj parsed
  have listed : ["lib/../data/seed.json"] = before ++ file :: after := split
  have member : file ∈ ["lib/../data/seed.json"] := listed ▸ List.mem_append_right before List.mem_cons_self
  obtain rfl := List.mem_singleton.mp member
  exact ⟨by decide, fun _ => by decide⟩

/-- A listed `..` leads out of the template and out of the agent's directory. -/
theorem installListed_leaves :
    ¬ ∀ run, @InstallConfined StandIn.listsOther [] "web" ["agents", "scout"] run StandIn.sharedTree := by
  intro confined
  have opened := confined ⟨.ok (), id⟩ []
  have read_ := opened (.reads ["templates", "other", "run.sh"]) (by decide +kernel)
  exact absurd read_.2 (by decide)

end GrokingClawId.Daemon
