import GrokingClawId.Daemon.TemplateOverlap
import GrokingClawId.Lib.MissingDirs

/-!
# Templates that are not finished

Nothing that an installation or a copy has made is taken back when a later step fails. The registry is as
before only when the call is turned down before its first change.
-/

namespace GrokingClawId.Daemon
open GrokingClawId.Core FileTree DiskM

/-- The registry and the template are as before. -/
def Untouched (registry : List String) (name : String) (tree tree' : FileTree) : Prop :=
  ∀ place ∈ [target registry, target (Path.join registry name)], ∀ rel,
    tree'.node (place ++ rel) = tree.node (place ++ rel)

/-- No directory that is missing on the way to the template, before any file in the way, lies in the
registry or in the template. -/
def LeavesFree (registry : List String) (name : String) (tree : FileTree) : Prop :=
  ∀ place ∈ [target registry, target (Path.join registry name)], ∀ loc,
    tree.Made (Path.join registry name) loc → ¬ place <+: loc

theorem Untouched.refl (registry : List String) (name : String) (tree : FileTree) :
    Untouched registry name tree tree :=
  fun _ _ _ => rfl

section Atomic
variable {registry : List String} {name : String} {tree : FileTree}

theorem Untouched.template {tree' : FileTree} (untouched : Untouched registry name tree tree')
    (rel : Location) :
    tree'.node (target (Path.join registry name) ++ rel) =
      tree.node (target (Path.join registry name) ++ rel) :=
  untouched _ (List.mem_cons_of_mem _ List.mem_cons_self) rel

/-- These are the directories that would be made. -/
theorem leavesFree_iff : LeavesFree registry name tree ↔
    Untouched registry name tree (createDirAll (Path.join registry name) ⟨tree, []⟩).2.tree := by
  constructor
  · intro free place member rel
    by_contra changed
    exact free place member _ ((createDirAll_changes _ _ _).mp changed) (List.prefix_append place rel)
  · rintro untouched place member _ made ⟨rel, rfl⟩
    exact (createDirAll_changes _ _ _).mpr made (untouched place member rel)

/-- Trouble changes nothing that is not changed without it. -/
theorem LeavesFree.part (free : LeavesFree registry name tree) (trouble : List Trouble) :
    Untouched registry name tree (createDirAll (Path.join registry name) ⟨tree, trouble⟩).2.tree := by
  intro place member rel
  rcases createDirAll_part (Path.join registry name) tree trouble (place ++ rel) with same | same
  · exact same
  · exact same.trans (leavesFree_iff.mp free place member rel)

end Atomic

/-! ### From the registry server -/

section Install
variable (registry : List String) (registryUrl : Option String) (name version : String)
    (get : String → Download) (tar : TarRun)
  (tree : FileTree)

/-- Whatever fails, an installation that fails leaves the registry as it was. -/
def InstallAtomic : Prop :=
  ∀ trouble e d', installTemplate registry registryUrl name version get tar ⟨tree, trouble⟩ = (.error e, d') →
    Untouched registry name tree d'.tree

/-- There is no archive, or no directory to put it into, or a directory in its place; no directory
is made in the registry before that is found. -/
def InstallRejected : Prop :=
  (∃ e, downloadArchive registryUrl name version get = .error e) ∨
    LeavesFree registry name tree ∧
      (¬ tree.Makeable (Path.join registry name) ∨
        tree.node (target (Path.join registry name) ++ ["archive.tar.gz"]) = some .dir)

theorem installTemplate_run {bytes : List UInt8}
    (got : downloadArchive registryUrl name version get = .ok bytes) (d : Disk) :
    installTemplate registry registryUrl name version get tar d =
      (createDirAll (Path.join registry name) >>= fun _ =>
        write (Path.join registry name ++ ["archive.tar.gz"]) (.binary bytes) >>= fun _ =>
        DiskM.ofExcept (tar.started.mapError fun _ => "Failed to extract template archive") >>= fun _ =>
        DiskM.modify tar.extract >>= fun _ =>
        (if !tar.succeeded then DiskM.fail s!"Archive extraction failed: {tar.stderr}"
          else (removeFile (Path.join registry name ++ ["archive.tar.gz"])).attempt >>= fun _ => pure () :
            DiskM String Unit)) d := by
  show (DiskM.ofExcept (downloadArchive registryUrl name version get) >>= _) d = _
  rw [got]
  rfl

variable {registry registryUrl name version get tar tree}

theorem plain_archive : Plain "archive.tar.gz" := ⟨by decide, by decide⟩

theorem legal_archive {path : List String} (legal_ : legal path = true) :
    legal (path ++ ["archive.tar.gz"]) = true := by
  rw [legal_append, legal_]
  decide

theorem installAtomic_of_rejected
    (rejected : InstallRejected registry registryUrl name version get tree) :
    InstallAtomic registry registryUrl name version get tar tree := by
  intro trouble e d' ran
  cases got : downloadArchive registryUrl name version get with
  | error failure =>
    have stopped : installTemplate registry registryUrl name version get tar ⟨tree, trouble⟩ =
        (.error failure, ⟨tree, trouble⟩) := by
      show (DiskM.ofExcept (downloadArchive registryUrl name version get) >>= _) _ = _
      rw [got]
      rfl
    rw [stopped] at ran
    obtain ⟨_, rfl⟩ := Prod.mk.inj ran
    exact Untouched.refl registry name tree
  | ok bytes =>
    rcases rejected with ⟨failure, failed⟩ | ⟨free, blocked⟩
    · rw [got] at failed
      cases failed
    · rw [installTemplate_run _ _ _ _ _ _ got] at ran
      have part := free.part trouble
      cases making : createDirAll (Path.join registry name) ⟨tree, trouble⟩ with
      | mk result d₁ =>
        rw [making] at part
        cases result with
        | error failure =>
          rw [bind_error making] at ran
          obtain ⟨_, rfl⟩ := Prod.mk.inj ran
          exact part
        | ok _ =>
          obtain ⟨makeable, walked, _, _⟩ := createDirAll_made making
          have inPlace := blocked.resolve_left (not_not_intro makeable)
          rw [← part.template] at inPlace
          obtain ⟨failure, d₂, wrote, same⟩ :=
            write_over (.binary bytes) plain_archive (legal_archive makeable.1) walked inPlace
          rw [bind_of_ok making, bind_error wrote] at ran
          obtain ⟨_, rfl⟩ := Prod.mk.inj ran
          exact same ▸ part

/-- A write of the archive that is cut short leaves its part. -/
theorem installTemplate_cut {bytes : List UInt8}
    (got : downloadArchive registryUrl name version get = .ok bytes) {met : List Trouble}
    {tree₁ : FileTree} {left : Content}
    (made : createDirAll (Path.join registry name) ⟨tree, met ++ [.cuts "" left]⟩ =
      (.ok (), ⟨tree₁, [.cuts "" left]⟩))
    (legal_ : legal (Path.join registry name ++ ["archive.tar.gz"]) = true)
    (walked : tree₁.walk [] (Path.join registry name) = some (target (Path.join registry name)))
    (isDir : tree₁.node (target (Path.join registry name)) = some .dir)
    (free : tree₁.node (target (Path.join registry name) ++ ["archive.tar.gz"]) ≠ some .dir) :
    installTemplate registry registryUrl name version get tar ⟨tree, met ++ [.cuts "" left]⟩ =
      (.error "", ⟨tree₁.put _ "archive.tar.gz" (.file left) isDir free, []⟩) := by
  have wrote : write (Path.join registry name ++ ["archive.tar.gz"]) (.binary bytes)
      ⟨tree₁, [.cuts "" left]⟩ =
      (.error "", ⟨tree₁.put _ "archive.tar.gz" (.file left) isDir free, []⟩) := by
    rw [write_at (d := ⟨tree₁, [.cuts "" left]⟩) _ plain_archive legal_ walked]
    show ((Except.error "", (Disk.store ⟨tree₁, []⟩ _ _ _).2) : Except String Unit × Disk) = _
    rw [Disk.store, dif_pos ⟨isDir, free⟩]
  rw [installTemplate_run registry registryUrl name version get tar got, bind_of_ok made,
    bind_error wrote]

/-- Once bytes are there and a directory for them, a write that is cut short changes the
registry. -/
theorem rejected_of_installAtomic
    (atomic : InstallAtomic registry registryUrl name version get tar tree) :
    InstallRejected registry registryUrl name version get tree := by
  cases got : downloadArchive registryUrl name version get with
  | error failure => exact .inl ⟨failure, got⟩
  | ok bytes =>
    right
    cases making : createDirAll (Path.join registry name) ⟨tree, []⟩ with
    | mk result d₁ =>
      cases result with
      | error failure =>
        have ran := (installTemplate_run registry registryUrl name version get tar got ⟨tree, []⟩).trans
            (bind_error making)
        refine ⟨leavesFree_iff.mpr (by rw [making]; exact atomic [] failure d₁ ran), .inl fun makeable => ?_⟩
        obtain ⟨tree', made⟩ := createDirAll_free makeable
        rw [made] at making
        cases making
      | ok _ =>
        obtain ⟨tree₁, trouble₁⟩ := d₁
        obtain ⟨makeable, walked, isDir, _⟩ := createDirAll_made making
        obtain ⟨met, again⟩ := resumable_createDirAll _ _ () _ making
        have legal_ := legal_archive makeable.1
        have cut : ∀ (free : tree₁.node (target (Path.join registry name) ++ ["archive.tar.gz"]) ≠
            some .dir) left,
            Untouched registry name tree (tree₁.put _ "archive.tar.gz" (.file left) isDir free) :=
          fun free left => atomic _ _ _
            (installTemplate_cut got (again _) legal_ walked isDir free)
        by_cases inPlace : tree₁.node (target (Path.join registry name) ++ ["archive.tar.gz"]) = some .dir
        · obtain ⟨failure, d₂, wrote, same⟩ :=
            write_over (d := ⟨tree₁, trouble₁⟩) (.binary bytes) plain_archive legal_ walked inPlace
          have ran := installTemplate_run registry registryUrl name version get tar got ⟨tree, []⟩
          rw [bind_of_ok making, bind_error wrote] at ran
          have untouched := atomic _ _ _ ran
          rw [same] at untouched
          refine ⟨leavesFree_iff.mpr ?_, .inr ((untouched.template _).symm.trans inPlace)⟩
          rw [making]
          exact untouched
        · exfalso
          have one := (cut inPlace (.text "")).template ["archive.tar.gz"]
          have other := (cut inPlace (.text "x")).template ["archive.tar.gz"]
          rw [node_put, if_pos rfl] at one other
          rw [← one] at other
          revert other
          decide

end Install

/-! ### From a directory -/

section Create
variable [ReadDir] [ManifestFormat] (registry : List String) (name : String) (source : List String)
    (tree : FileTree)

/-- Whatever fails, a call that fails leaves the registry as it was. -/
def CreateAtomic : Prop :=
  ∀ frames trouble e d', createFromLocal frames registry name source ⟨tree, trouble⟩ =
    (.error (.error e), d') →
    Untouched registry name tree d'.tree

/-- There is no source, or a template already, or the directory cannot be made, and none is made in
the registry before that is found. -/
def CreateRejected : Prop :=
  tree.exists source = false ∨ tree.exists (Path.join registry name) = true ∨
    ¬ tree.Makeable (Path.join registry name) ∧ LeavesFree registry name tree

variable {registry name source tree}

theorem createAtomic_of_rejected (rejected : CreateRejected registry name source tree) :
    CreateAtomic registry name source tree := by
  intro frames trouble e d' ran
  rw [createFromLocal_run] at ran
  split at ran
  · obtain ⟨_, rfl⟩ := Prod.mk.inj ran
    exact Untouched.refl registry name tree
  · rename_i there
    split at ran
    · obtain ⟨_, rfl⟩ := Prod.mk.inj ran
      exact Untouched.refl registry name tree
    · rename_i absent
      obtain ⟨stuck, free⟩ := (rejected.resolve_left there).resolve_left absent
      have part := free.part trouble
      cases frames with
      | zero => cases ran
      | succ frames =>
        cases making : createDirAll (Path.join registry name) ⟨tree, trouble⟩ with
        | mk result d₁ =>
          rw [making] at part
          cases result with
          | error failure =>
            have stopped : copyDirRecursive (frames + 1) source (Path.join registry name) ⟨tree, trouble⟩ =
                (.error (.error failure), d₁) := bind_error (mapError_of_error making)
            rw [bind_error stopped] at ran
            obtain ⟨_, rfl⟩ := Prod.mk.inj ran
            exact part
          | ok _ => exact absurd (createDirAll_made making).1 stuck

theorem rejected_of_createAtomic
    (new : tree.exists (Path.join registry name) = false →
    tree.node (target (Path.join registry name)) = none)
    (atomic : CreateAtomic registry name source tree) :
    CreateRejected registry name source tree := by
  by_cases missing : tree.exists source = false
  · exact .inl missing
  · by_cases present : tree.exists (Path.join registry name) = true
    · exact .inr (.inl present)
    · refine .inr (.inr ?_)
      have start := createFromLocal_run 1 registry name source
      by_cases makeable : tree.Makeable (Path.join registry name)
      · exfalso
        obtain ⟨tree', making⟩ := createDirAll_free makeable
        obtain ⟨met, again⟩ := resumable_createDirAll _ _ () _ making
        obtain ⟨failure, d', failed, same⟩ := readDir_fails source tree' ""
        have stopped : copyDirRecursive 1 source (Path.join registry name) ⟨tree, met ++ [.fails ""]⟩ =
            (.error (.error failure), d') :=
          (bind_of_ok (mapError_of_ok (again _))).trans (bind_error (mapError_of_error failed))
        have ran := start ⟨tree, met ++ [.fails ""]⟩
        rw [if_neg missing, if_neg present, bind_error stopped] at ran
        have untouched := (atomic _ _ _ _ ran).template []
        rw [same, List.append_nil, new (Bool.eq_false_iff.mpr present),
          (createDirAll_made making).2.2.1] at untouched
        cases untouched
      · refine ⟨makeable, leavesFree_iff.mpr ?_⟩
        cases making : createDirAll (Path.join registry name) ⟨tree, []⟩ with
        | mk result d₁ =>
          cases result with
          | ok _ => exact absurd (createDirAll_made making).1 makeable
          | error failure =>
            have stopped : copyDirRecursive 1 source (Path.join registry name) ⟨tree, []⟩ =
                (.error (.error failure), d₁) :=
              bind_error (mapError_of_error making)
            have ran := start ⟨tree, []⟩
            rw [if_neg missing, if_neg present, bind_error stopped] at ran
            exact atomic _ _ _ _ ran

/-- A failed call leaves the registry as it was exactly when it is turned down before its first
change. For a template from a directory, the place that is found absent is then supposed to be
so. -/
theorem atomic_iff_rejected (registryUrl : Option String) (version : String)
    (get : String → Download) (tar : TarRun) :
    (InstallAtomic registry registryUrl name version get tar tree ↔
        InstallRejected registry registryUrl name version get tree) ∧
      (CreateRejected registry name source tree → CreateAtomic registry name source tree) ∧
      ((tree.exists (Path.join registry name) = false → tree.node (target (Path.join registry name)) = none) →
        CreateAtomic registry name source tree → CreateRejected registry name source tree) :=
  ⟨⟨rejected_of_installAtomic, installAtomic_of_rejected⟩, createAtomic_of_rejected, rejected_of_createAtomic⟩

end Create

namespace StandIn

def failingTar : TarRun where
  started := .ok ()
  succeeded := false
  stderr := "not in gzip format"
  extract tree := tree

/-- A script is given for the source directory. -/
noncomputable def createFromScript (d : Disk) : Except Stop Unit × Disk :=
  @createFromLocal ReadDir.unordered nameFormat 1 ["templates"] "web" ["src", "run.sh"] d

theorem createFromScript_tree : (createFromScript ⟨projectTree, []⟩).2.tree =
    (createDirAll ["templates", "web"] ⟨projectTree, []⟩).2.tree :=
  @readDir_tree ReadDir.unordered ["src", "run.sh"] (createDirAll ["templates", "web"] ⟨projectTree, []⟩).2

end StandIn

/-- What has been made for a source that is a file, or for a broken archive, stays and counts as a
template. -/
theorem failed_stays :
    ¬ @CreateAtomic ReadDir.unordered StandIn.nameFormat ["templates"] "web" ["src", "run.sh"]
      StandIn.projectTree ∧
      (StandIn.createFromScript ⟨(StandIn.createFromScript ⟨StandIn.projectTree, []⟩).2.tree, []⟩).1 =
        .error (.error "Template 'web' already exists. Remove it first.") ∧
      ¬ InstallAtomic ["templates"] (some "https://templates.example") "web" "1.0.0" (fun _ => .archive [0])
        StandIn.failingTar StandIn.projectTree := by
  refine ⟨fun atomic => ?_, ?_, fun atomic => ?_⟩
  · have kept :=
      (atomic 1 [] "Not a directory" (StandIn.createFromScript ⟨StandIn.projectTree, []⟩).2 rfl).template []
    rw [StandIn.createFromScript_tree] at kept
    revert kept
    decide
  · rw [StandIn.createFromScript_tree]
    rfl
  · have kept := (atomic [] "Archive extraction failed: not in gzip format" _ rfl).template []
    revert kept
    decide

end GrokingClawId.Daemon
