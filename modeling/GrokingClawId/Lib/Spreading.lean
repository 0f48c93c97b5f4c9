import GrokingClawId.Lib.AccessLog
import GrokingClawId.Lib.Listing

/-!
# What copies can have made

Which paths can be opened once some directories are made and some files written is bounded by the tree
before, the places of the files and the ways of the directories.
-/

namespace GrokingClawId
open DiskM

namespace FileTree

/-- New files lie in the places for files and new directories in those for directories; what was there is
still there, a file with whatever it now holds. -/
structure Spreads (files dirs : Location → Prop) (tree tree' : FileTree) : Prop where
  grows : tree.Grows tree'
  keeps : ∀ {loc content}, tree.node loc = some (.file content) → ∃ later, tree'.node loc = some (.file later)
  filed : ∀ {loc content}, tree'.node loc = some (.file content) →
    files loc ∨ ∃ old, tree.node loc = some (.file old)
  added : ∀ {loc}, tree'.node loc = some .dir → dirs loc ∨ tree.node loc = some .dir

variable {files dirs : Location → Prop} {tree tree' : FileTree}

theorem Spreads.refl (tree : FileTree) : Spreads files dirs tree tree where
  grows _ isDir := isDir
  keeps held := ⟨_, held⟩
  filed held := .inr ⟨_, held⟩
  added isDir := .inr isDir

theorem Spreads.trans (tree middle tree' : FileTree) (first : Spreads files dirs tree middle)
    (second : Spreads files dirs middle tree') : Spreads files dirs tree tree' where
  grows loc isDir := second.grows loc (first.grows loc isDir)
  keeps held := by
    obtain ⟨_, kept⟩ := first.keeps held
    exact second.keeps kept
  filed held := by
    rcases second.filed held with new | ⟨_, there⟩
    · exact .inl new
    · exact first.filed there
  added isDir := (second.added isDir).elim .inl first.added

theorem Spreads.node_dir (spreads : Spreads files dirs tree tree') {loc : Location}
    (isDir : tree.node loc = some .dir) :
    tree'.node loc = some .dir :=
  isDir_iff.mp (spreads.grows loc (isDir_iff.mpr isDir))

/-! ### Paths that are shut -/

/-- It never can be opened for writing: it is a directory, or there is a file on its way. -/
def Shut (tree : FileTree) (path : List String) : Prop :=
  tree.lookup path = some .dir ∨
    ∃ way content, way <+: path ∧ way ≠ path ∧ tree.node (target way) = some (.file content)

theorem Shut.closed {path : List String} (shut : tree.Shut path) : tree.opensWrite path = none := by
  by_contra opens
  obtain ⟨loc, opens⟩ := Option.ne_none_iff_exists'.mp opens
  have place := opensWrite_some opens
  unfold opensWrite at opens
  split at opens
  · cases opens
  · rename_i name last
    have shape : path.dropLast ++ [name] = path := List.dropLast_append_getLast? name last
    split at opens
    · cases opens
    · split at opens
      · cases opens
      · split at opens
        · cases opens
        · rename_i found walked
          split at opens
          · rename_i able
            obtain rfl := Option.some.inj opens
            rcases shut with isDir | ⟨way, content, initial, proper, file⟩
            · obtain ⟨there, reached, isDir⟩ := Option.bind_eq_some_iff.mp isDir
              rw [walk_target reached, ← place] at isDir
              exact able.2 isDir
            · rw [← shape, List.prefix_concat_iff, shape] at initial
              have front := initial.resolve_left proper
              have isDir : tree.node (target way) = some .dir := (walk_lead front walked able.1).2
              rw [file] at isDir
              cases isDir
          · cases opens

end FileTree

open FileTree

section Operations
variable {files dirs : Location → Prop} {tree tree' : FileTree}

theorem Writes.not_shut {path : List String} {content : Content} (writes : Writes path content tree tree') :
    ¬ tree.Shut path := by
  obtain ⟨init, name, place, rfl, plain, reached, isDir, free, _⟩ := writes
  rintro (there | ⟨way, other, initial, proper, file⟩)
  · obtain ⟨found, walked, there⟩ := Option.bind_eq_some_iff.mp there
    rw [walk_append, reached, Option.bind_some, FileTree.walk, if_pos (isDir_iff.mpr isDir), FileTree.walk,
      descend_plain plain] at walked
    exact free (Option.some.inj walked ▸ there)
  · have front := (List.prefix_concat_iff.mp initial).resolve_left proper
    rw [(walk_lead front reached isDir).2] at file
    cases file

/-! ### What one operation adds -/

theorem createDirAll_spreads {path : List String} (ways : ∀ way, way <+: path → dirs (target way)) :
    Relates (Spreads files dirs) (createDirAll path) := by
  intro d
  have adds := createDirAll_addsDirs path d
  refine ⟨adds.grows, fun held => ⟨_, (adds.file _ _).mpr held⟩, fun held =>
    .inr ⟨_, (adds.file _ _).mp held⟩, ?_⟩
  intro loc isDir
  rcases adds loc with same | ⟨missing, _⟩
  · exact .inr (same ▸ isDir)
  · have changed : (createDirAll path d).2.tree.node loc ≠ d.tree.node loc := by
      rw [isDir, missing]
      exact Option.some_ne_none _
    unfold createDirAll at changed
    split at changed
    · obtain ⟨way, initial, rfl⟩ := createDirs_way [] path d loc changed
      exact .inl (ways way initial)
    · exact absurd rfl changed

theorem Writes.spreads {path : List String} {content : Content} (place : files (target path))
    (writes : Writes path content tree tree') : Spreads files dirs tree tree' := by
  obtain ⟨loc, walked⟩ := writes.walk
  have node := writes.node walked
  obtain rfl := walk_target walked
  refine ⟨fun other isDir => (writes.sameDirs other).trans isDir, fun held => ?_, fun held =>
    ?_, fun isDir => ?_⟩
  · rw [node]
    split
    · exact ⟨content, rfl⟩
    · exact ⟨_, held⟩
  · rw [node] at held
    split at held
    · rename_i here
      exact .inl (here ▸ place)
    · exact .inr ⟨_, held⟩
  · exact .inr (isDir_iff.mp ((writes.sameDirs _).symm.trans (isDir_iff.mpr isDir)))

theorem write_spreads {path : List String} {d : Disk} (place : ¬ d.tree.Shut path → files (target path))
    (content : Content) :
    Spreads files dirs d.tree (write path content d).2.tree := by
  rcases write_tree path content d with ⟨_, same | ⟨left, writes⟩⟩ | ⟨_, _, writes⟩
  · rw [same]
    exact Spreads.refl d.tree
  · exact Writes.spreads (place writes.not_shut) writes
  · exact Writes.spreads (place writes.not_shut) writes

/-- A copy of what cannot be read, or to where nothing can be written, leaves the tree as it is. -/
theorem copy_spreads {src dest : List String} {d : Disk}
    (place : ∀ loc, d.tree.opensRead src = some loc → ¬ d.tree.Shut dest → files (target dest)) :
    Spreads files dirs d.tree (copy src dest d).2.tree := by
  cases ran : read src d with
  | mk result d' =>
    have same := (read_tree src d).1
    rw [ran] at same
    have same : d'.tree = d.tree := same
    cases result with
    | error e =>
      rw [copy, DiskM.bind_error ran]
      dsimp only
      rw [same]
      exact Spreads.refl d.tree
    | ok content =>
      obtain ⟨loc, opens⟩ := opensRead_of_read ran
      rw [copy, DiskM.bind_of_ok ran, ← same]
      exact write_spreads (d := d') (fun open_ => place loc opens (same ▸ open_)) _

theorem opensWrite_of_writes {path : List String} {content : Content} (legal_ : legal path = true)
    (writes : Writes path content tree tree') : tree.opensWrite path ≠ none := by
  obtain ⟨init, name, place, rfl, plain, reached, isDir, free, _⟩ := writes
  unfold opensWrite
  rw [List.getLast?_concat, List.dropLast_concat]
  dsimp only
  rw [if_neg (not_or.mpr plain), legal_, reached]
  simp [isDir, free]

/-- A copy that succeeds opens both files. -/
theorem copy_opens {src dest : List String} {d d' : Disk} (ran : copy src dest d = (.ok (), d')) :
    d.tree.opensRead src ≠ none ∧ d.tree.opensWrite dest ≠ none := by
  obtain ⟨content, middle, ranRead, rest⟩ := bind_ok ran
  obtain ⟨_, after, asked, written⟩ := bind_ok rest
  obtain ⟨_, rfl⟩ := ask_ok asked
  have same := (read_tree src d).1
  rw [ranRead] at same
  obtain ⟨loc, opens⟩ := opensRead_of_read ranRead
  obtain ⟨legal_, writes⟩ := write_ok written
  refine ⟨by rw [opens]; exact Option.some_ne_none _, ?_⟩
  rw [← same]
  exact opensWrite_of_writes legal_ writes

/-! ### Loops -/

/-- What a loop keeps when each item, coming after others, keeps it and shows itself by succeeding. -/
theorem each_keeps {ε β : Type} {I : FileTree → Prop} {P : β → Prop} {items : List β} {f : β → DiskM ε Unit}
    (step : ∀ before item after, items = before ++ item :: after → (∀ other ∈ before, P other) →
      ∀ d, I d.tree → I (f item d).2.tree ∧ ∀ d', f item d = (.ok (), d') → P item)
    {d d' : Disk} (start : I d.tree) (ran : DiskM.each items f d = (.ok (), d')) :
    I d'.tree ∧ ∀ item ∈ items, P item := by
  induction items generalizing d with
  | nil =>
    obtain ⟨_, rfl⟩ := pure_ok ran
    exact ⟨start, fun _ member => (nomatch member)⟩
  | cons first items ih =>
    obtain ⟨_, middle, ranFirst, ranRest⟩ := bind_ok ran
    obtain ⟨kept, shown⟩ := step [] first items rfl (fun _ member => (nomatch member)) d start
    rw [ranFirst] at kept
    have here : P first := shown middle ranFirst
    have later : ∀ before item after, items = before ++ item :: after → (∀ other ∈ before, P other) →
        ∀ d, I d.tree → I (f item d).2.tree ∧ ∀ d', f item d = (.ok (), d') → P item := by
      intro before item after split passed
      refine step (first :: before) item after (split ▸ rfl) fun other member => ?_
      rcases List.mem_cons.mp member with rfl | member
      · exact here
      · exact passed other member
    obtain ⟨kept, others⟩ := ih later kept ranRest
    exact ⟨kept, List.forall_mem_cons.mpr ⟨here, others⟩⟩

/-- A loop that ends well has come to each of its items. -/
theorem each_reaches {ε β : Type} {before after : List β} {item : β} {f : β → DiskM ε Unit} {d d' : Disk}
    (ran : DiskM.each (before ++ item :: after) f d = (.ok (), d')) :
    ∃ d₁ d₂, DiskM.each before f d = (.ok (), d₁) ∧ f item d₁ = (.ok (), d₂) := by
  induction before generalizing d with
  | nil =>
    obtain ⟨_, middle, ranFirst, _⟩ := bind_ok ran
    exact ⟨d, middle, rfl, ranFirst⟩
  | cons first before ih =>
    obtain ⟨_, middle, ranFirst, ranRest⟩ := bind_ok ran
    obtain ⟨d₁, d₂, front, here⟩ := ih ranRest
    refine ⟨d₁, d₂, ?_, here⟩
    rw [DiskM.each, bind_of_ok ranFirst]
    exact front

end Operations

/-! ### What can be opened then -/

namespace FileTree
variable {files dirs : Location → Prop} {tree tree' : FileTree}

theorem walk_before {path way : List String} {loc : Location} (walked : tree.walk [] path = some loc)
    (initial : way <+: path) (proper : way ≠ path) : tree.node (target way) = some .dir := by
  obtain ⟨rest, rfl⟩ := initial
  rw [walk_append] at walked
  obtain ⟨middle, first, later⟩ := Option.bind_eq_some_iff.mp walked
  cases rest with
  | nil => exact absurd (List.append_nil way).symm proper
  | cons name rest =>
    unfold FileTree.walk at later
    split at later
    · rename_i isDir
      rw [← walk_target first]
      exact isDir_iff.mp isDir
    · cases later

/-- The path may come to be a file: there is one, or one may be put there, and the directories on its way
are there or may be made. -/
def MayRead (files dirs : Location → Prop) (tree : FileTree) (path : List String) : Prop :=
  legal path = true ∧ (files (target path) ∨ ∃ content, tree.node (target path) = some (.file content)) ∧
    ∀ way, way <+: path → way ≠ path → dirs (target way) ∨ tree.node (target way) = some .dir

theorem exists_dir {path : List String} (there : tree.exists path = true)
    (closed : tree.opensRead path = none) :
    tree.lookup path = some .dir := by
  obtain ⟨legal_, loc, walked, present⟩ := exists_iff.mp there
  rw [lookup, walked, Option.bind_some]
  cases found : tree.node loc with
  | none => exact absurd found present
  | some node =>
    cases node with
    | dir => rfl
    | file content =>
      have holds : tree.Holds path content := by rw [Holds, lookup, walked, Option.bind_some, found]
      rw [opensRead_of_holds legal_ holds] at closed
      cases closed

namespace Spreads
variable (spreads : Spreads files dirs tree tree') {path : List String}
include spreads

theorem lookup_dir (isDir : tree.lookup path = some .dir) : tree'.lookup path = some .dir := by
  obtain ⟨loc, walked, found⟩ := Option.bind_eq_some_iff.mp isDir
  rw [lookup, spreads.grows.walk walked, Option.bind_some]
  exact spreads.node_dir found

theorem shut (shut_ : tree.Shut path) : tree'.Shut path := by
  rcases shut_ with isDir | ⟨way, content, initial, proper, file⟩
  · exact .inl (spreads.lookup_dir isDir)
  · obtain ⟨later, kept⟩ := spreads.keeps file
    exact .inr ⟨way, later, initial, proper, kept⟩

theorem «exists» (there : tree.exists path = true) : tree'.exists path = true := by
  obtain ⟨legal_, loc, walked, present⟩ := exists_iff.mp there
  refine exists_iff.mpr ⟨legal_, loc, spreads.grows.walk walked, ?_⟩
  cases found : tree.node loc with
  | none => exact absurd found present
  | some node =>
    cases node with
    | dir =>
      rw [spreads.node_dir found]
      exact Option.some_ne_none _
    | file content =>
      obtain ⟨later, kept⟩ := spreads.keeps found
      rw [kept]
      exact Option.some_ne_none _

theorem opensRead (opens : tree.opensRead path ≠ none) : tree'.opensRead path ≠ none := by
  obtain ⟨loc, opens⟩ := Option.ne_none_iff_exists'.mp opens
  obtain ⟨legal_, _, content, holds⟩ := opensRead_some opens
  obtain ⟨place, walked, file⟩ := Option.bind_eq_some_iff.mp holds
  obtain ⟨later, kept⟩ := spreads.keeps file
  have held : tree'.Holds path later :=
    by rw [Holds, lookup, spreads.grows.walk walked, Option.bind_some, kept]
  rw [opensRead_of_holds legal_ held]
  exact Option.some_ne_none _

theorem mayRead {loc : Location} (opens : tree'.opensRead path = some loc) :
    MayRead files dirs tree path := by
  obtain ⟨legal_, _, content, holds⟩ := opensRead_some opens
  obtain ⟨place, walked, file⟩ := Option.bind_eq_some_iff.mp holds
  refine ⟨legal_, ?_, fun way initial proper => spreads.added (walk_before walked initial proper)⟩
  rw [walk_target walked] at file
  exact spreads.filed file

end Spreads

end FileTree
end GrokingClawId
