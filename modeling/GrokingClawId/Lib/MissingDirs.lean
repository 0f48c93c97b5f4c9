import Mathlib.Data.Finset.Card
import GrokingClawId.Lib.Listing

/-!
# Missing directories

Which directories `create_dir_all` will make is read off the tree before it runs, and so is, with the
trouble to come, whether it succeeds: each missing one costs one operation.
-/

namespace GrokingClawId

/-- The next operations that many all meet no trouble. -/
def Calm (trouble : List Trouble) (n : Nat) : Prop := ∀ t ∈ trouble.take n, t = .none

theorem calm_zero (trouble : List Trouble) : Calm trouble 0 := fun t member => by
  rw [List.take_zero] at member
  cases member

theorem calm_add (trouble : List Trouble) (m n : Nat) :
    Calm trouble (m + n) ↔ Calm trouble m ∧ Calm (trouble.drop m) n := by
  simp only [Calm, List.take_add, List.mem_append, or_imp, forall_and]

/-- What an operation meets, by whether the next ones are calm. -/
theorem next_calm (tree : FileTree) {trouble : List Trouble} :
    Calm trouble 1 ↔ (⟨tree, trouble⟩ : Disk).next = (.none, ⟨tree, trouble.drop 1⟩) := by
  cases trouble with
  | nil => simp [Calm, Disk.next]
  | cons t rest => simp [Calm, Disk.next]

namespace FileTree

/-- The directories that are missing on the ways to the paths. -/
def missing (tree : FileTree) (paths : List (List String)) : Finset Location :=
  (paths.flatMap fun path => path.inits.map target).toFinset.filter fun loc => tree.node loc = none

theorem mem_missing {tree : FileTree} {paths : List (List String)} {loc : Location} :
    loc ∈ tree.missing paths ↔ (∃ path ∈ paths, ∃ way, way <+: path ∧ target way = loc) ∧
      tree.node loc = none := by
  simp only [missing, Finset.mem_filter, List.mem_toFinset, List.mem_flatMap, List.mem_map, List.mem_inits]

theorem missing_cons (tree : FileTree) (path : List String) (paths : List (List String)) :
    tree.missing (path :: paths) = tree.missing [path] ∪ tree.missing paths := by
  ext loc
  simp only [Finset.mem_union, mem_missing, List.mem_cons, List.not_mem_nil, or_false]
  constructor
  · rintro ⟨⟨_, rfl | member, way⟩, absent⟩
    · exact .inl ⟨⟨_, rfl, way⟩, absent⟩
    · exact .inr ⟨⟨_, member, way⟩, absent⟩
  · rintro (⟨⟨_, rfl, way⟩, absent⟩ | ⟨⟨_, member, way⟩, absent⟩)
    · exact ⟨⟨_, .inl rfl, way⟩, absent⟩
    · exact ⟨⟨_, .inr member, way⟩, absent⟩

/-- The missing ones on the way from a location on. -/
def missingFrom (tree : FileTree) (loc : Location) (path : List String) : Finset Location :=
  (path.inits.map fun way => way.foldl descend loc).toFinset.filter fun other => tree.node other = none

theorem missing_single (tree : FileTree) (path : List String) :
    tree.missing [path] = tree.missingFrom [] path := by
  unfold missing missingFrom
  rw [List.flatMap_singleton]
  rfl

theorem missingFrom_cons {tree : FileTree} {loc : Location} (isDir : tree.node loc = some .dir)
    (name : String) (path : List String) :
    tree.missingFrom loc (name :: path) = tree.missingFrom (descend loc name) path := by
  ext other
  simp only [missingFrom, Finset.mem_filter, List.mem_toFinset, List.mem_map, List.mem_inits]
  constructor
  · rintro ⟨⟨way, initial, rfl⟩, absent⟩
    cases way with
    | nil =>
      rw [List.foldl_nil, isDir] at absent
      cases absent
    | cons first way =>
      obtain ⟨rfl, rest⟩ := List.cons_prefix_cons.mp initial
      exact ⟨⟨way, rest, rfl⟩, absent⟩
  · rintro ⟨⟨way, initial, rfl⟩, absent⟩
    exact ⟨⟨name :: way, List.cons_prefix_cons.mpr ⟨rfl, initial⟩, rfl⟩, absent⟩

/-- Making the first of them leaves the others. -/
theorem missingFrom_put {tree : FileTree} {loc : Location} {name : String}
    (parent : tree.node loc = some .dir)
    (free : tree.node (loc ++ [name]) ≠ some .dir) (start : Location) (path : List String) :
    (tree.put loc name .dir parent free).missingFrom start path =
      (tree.missingFrom start path).erase (loc ++ [name]) := by
  ext other
  rw [missingFrom, missingFrom, Finset.mem_erase, Finset.mem_filter, Finset.mem_filter, node_put]
  split
  · rename_i here
    exact ⟨fun ⟨_, absent⟩ => (nomatch absent), fun ⟨elsewhere, _⟩ => absurd here elsewhere⟩
  · rename_i elsewhere
    exact ⟨fun found => ⟨elsewhere, found⟩, fun found => found.2⟩

/-- A missing start of the way is one of them. -/
theorem card_missingFrom {tree : FileTree} {loc : Location} {path : List String}
    (absent : tree.node loc = none) :
    (tree.missingFrom loc path).card = 1 + ((tree.missingFrom loc path).erase loc).card := by
  have present : loc ∈ tree.missingFrom loc path := by
    simp only [missingFrom, Finset.mem_filter, List.mem_toFinset, List.mem_map, List.mem_inits]
    exact ⟨⟨[], List.nil_prefix, rfl⟩, absent⟩
  rw [Finset.card_erase_of_mem present]
  have := Finset.card_pos.mpr ⟨_, present⟩
  omega

/-- From a directory on no file is in the way when none is from the next location on. -/
theorem clear_cons {tree : FileTree} {loc : Location} {name : String} {path : List String}
    (isDir : tree.node loc = some .dir) :
    (∀ way, way <+: name :: path → ∀ content, tree.node (way.foldl descend loc) ≠ some (.file content)) ↔
      ∀ way, way <+: path → ∀ content,
        tree.node (way.foldl descend (descend loc name)) ≠ some (.file content) := by
  constructor
  · exact fun clear way initial => clear (name :: way) (List.cons_prefix_cons.mpr ⟨rfl, initial⟩)
  · intro clear way initial content
    cases way with
    | nil =>
      rw [List.foldl_nil, isDir]
      exact fun same => (nomatch same)
    | cons first way =>
      obtain ⟨rfl, rest⟩ := List.cons_prefix_cons.mp initial
      exact clear way rest content

end FileTree

open FileTree DiskM

/-- A directory is made where there is none, unless the operation meets trouble. -/
theorem mkdir_calm {loc : Location} {name : String} {tree : FileTree} (trouble : List Trouble)
    (parent : tree.node loc = some .dir) (free : tree.node (loc ++ [name]) ≠ some .dir) :
    (Calm trouble 1 → mkdir loc name ⟨tree, trouble⟩ =
      (.ok (), ⟨tree.put loc name .dir parent free, trouble.drop 1⟩)) ∧
    (¬ Calm trouble 1 → ∃ e d', mkdir loc name ⟨tree, trouble⟩ = (.error e, d')) := by
  constructor
  · intro calm
    rw [mkdir, (next_calm tree).mp calm]
    exact dif_pos ⟨parent, free⟩
  · intro rough
    unfold mkdir
    cases trouble with
    | nil => exact absurd (fun t member => by cases member) rough
    | cons t rest =>
      cases t with
      | none => exact absurd ((next_calm tree).mpr rfl) rough
      | fails e => exact ⟨e, _, rfl⟩
      | cuts e left => exact ⟨e, _, rfl⟩

/-- `create_dir_all` succeeds when no file is in the way and as many operations as directories are missing
meet no trouble. -/
theorem createDirs_calm {loc : Location} {path : List String} {tree : FileTree} {trouble : List Trouble}
    (isDir : tree.node loc = some .dir) :
    ((∃ d', createDirs loc path ⟨tree, trouble⟩ = (.ok (), d')) ↔
      (∀ way, way <+: path → ∀ content, tree.node (way.foldl descend loc) ≠ some (.file content)) ∧
        Calm trouble (tree.missingFrom loc path).card) ∧
    ∀ d', createDirs loc path ⟨tree, trouble⟩ = (.ok (), d') →
      d'.trouble = trouble.drop (tree.missingFrom loc path).card := by
  induction path generalizing loc tree trouble with
  | nil =>
    have nothing : tree.missingFrom loc [] = ∅ := by
      simp [missingFrom, Finset.filter_singleton, isDir]
    rw [nothing, Finset.card_empty]
    refine ⟨⟨fun _ => ⟨fun way initial content => ?_, calm_zero _⟩, fun _ => ⟨_, rfl⟩⟩, fun d' ran => ?_⟩
    · rw [List.prefix_nil.mp initial, List.foldl_nil, isDir]
      intro same
      cases same
    · obtain ⟨_, rfl⟩ := Prod.mk.inj ran
      rfl
  | cons name path ih =>
    rw [clear_cons isDir, missingFrom_cons isDir, createDirs_cons]
    split
    · rename_i dots
      exact ih (isDir_iff.mp (isDir_dots (isDir_iff.mpr isDir) dots))
    · rename_i dots
      have down : descend loc name = loc ++ [name] := descend_plain (not_or.mp dots)
      rw [down]
      cases found : tree.node (loc ++ [name]) with
      | some node =>
        cases node with
        | dir => exact ih found
        | file content =>
          refine ⟨⟨?_, fun clear => ?_⟩, fun d' ran => ?_⟩
          · rintro ⟨d', ran⟩
            cases ran
          · exact absurd found (clear.1 [] List.nil_prefix content)
          · cases ran
      | none =>
        have free : tree.node (loc ++ [name]) ≠ some .dir := by
          rw [found]
          intro same
          cases same
        obtain ⟨made, unmade⟩ := mkdir_calm trouble isDir free
        dsimp only
        rw [card_missingFrom found, calm_add, ← List.drop_drop]
        by_cases calm : Calm trouble 1
        · have rest := @ih (loc ++ [name]) _ (trouble.drop 1)
            (show (tree.put loc name .dir isDir free).node (loc ++ [name]) = some .dir from if_pos rfl)
          rw [missingFrom_put] at rest
          rw [bind_of_ok (made calm)]
          have files : ∀ way : List String, (∀ content, (tree.put loc name .dir isDir free).node
              (way.foldl descend (loc ++ [name])) ≠ some (.file content)) ↔
              ∀ content, tree.node (way.foldl descend (loc ++ [name])) ≠ some (.file content) := by
            intro way
            refine forall_congr' fun content => not_congr ?_
            exact (addsDirs_put isDir found free).file _ content
          simp only [files] at rest
          refine ⟨?_, rest.2⟩
          rw [rest.1, and_iff_right calm]
        · obtain ⟨e, d', failed⟩ := unmade calm
          rw [bind_error failed]
          refine ⟨⟨?_, fun early => absurd early.2.1 calm⟩, fun d' ran => ?_⟩
          · rintro ⟨d', ran⟩
            cases ran
          · cases ran

theorem createDirAll_calm {path : List String} {d : Disk} :
    (∃ d', createDirAll path d = (.ok (), d')) ↔
      d.tree.Makeable path ∧ Calm d.trouble (d.tree.missing [path]).card := by
  rw [createDirAll, missing_single]
  by_cases legal_ : legal path = true
  · rw [if_pos legal_, Makeable, and_iff_right legal_]
    exact (createDirs_calm d.tree.root).1
  · rw [if_neg legal_]
    constructor
    · rintro ⟨d', ran⟩
      cases ran
    · exact fun both => absurd both.1.1 legal_

/-- Exactly the missing directories have been made. -/
theorem createDirAll_missing {path : List String} {d d' : Disk} (ran : createDirAll path d = (.ok (), d')) :
    (∀ loc, d'.tree.node loc = if loc ∈ d.tree.missing [path] then some .dir else d.tree.node loc) ∧
      d'.trouble = d.trouble.drop (d.tree.missing [path]).card := by
  obtain ⟨makeable, walked, isDir, changes⟩ := createDirAll_made ran
  constructor
  · intro loc
    split
    · rename_i member
      obtain ⟨⟨_, single, way, initial, rfl⟩, _⟩ := mem_missing.mp member
      rw [List.mem_singleton.mp single] at initial
      exact (walk_lead initial walked isDir).2
    · rename_i outside
      rcases changes loc with same | ⟨absent, way, initial, rfl⟩
      · exact same
      · exact absurd (mem_missing.mpr ⟨⟨path, List.mem_singleton_self path, way, initial, rfl⟩, absent⟩)
          outside
  · rw [createDirAll, if_pos makeable.1] at ran
    rw [missing_single]
    exact (createDirs_calm d.tree.root).2 d' ran

/-! ### What is left when a file is in the way -/

/-- A missing directory on the way, before any file that is in the way. -/
def FileTree.Made (tree : FileTree) (path : List String) (loc : Location) : Prop :=
  legal path = true ∧ tree.node loc = none ∧ ∃ way, way <+: path ∧ target way = loc ∧
    ∀ front, front <+: way → ∀ content, tree.node (target front) ≠ some (.file content)

/-- The ways from the next location on. -/
theorem way_cons {tree : FileTree} {loc : Location} {name : String} {path : List String} {other : Location}
    (isDir : tree.node loc = some .dir) (absent : tree.node other = none) :
    (∃ way, way <+: name :: path ∧ way.foldl descend loc = other ∧
        ∀ front, front <+: way → ∀ content, tree.node (front.foldl descend loc) ≠ some (.file content)) ↔
      ∃ way, way <+: path ∧ way.foldl descend (descend loc name) = other ∧
        ∀ front, front <+: way → ∀ content, tree.node (front.foldl descend (descend loc name)) ≠
          some (.file content) := by
  constructor
  · rintro ⟨way, initial, rfl, clear⟩
    cases way with
    | nil =>
      rw [List.foldl_nil, isDir] at absent
      cases absent
    | cons first way =>
      obtain ⟨rfl, rest⟩ := List.cons_prefix_cons.mp initial
      exact ⟨way, rest, rfl, (clear_cons isDir).mp clear⟩
  · rintro ⟨way, initial, rfl, clear⟩
    exact ⟨name :: way, List.cons_prefix_cons.mpr ⟨rfl, initial⟩, rfl, (clear_cons isDir).mpr clear⟩

theorem createDirs_changes {loc : Location} {path : List String} {tree : FileTree}
    (isDir : tree.node loc = some .dir) (other : Location) :
    (createDirs loc path ⟨tree, []⟩).2.tree.node other ≠ tree.node other ↔
      tree.node other = none ∧ ∃ way, way <+: path ∧ way.foldl descend loc = other ∧
        ∀ front, front <+: way → ∀ content, tree.node (front.foldl descend loc) ≠ some (.file content) := by
  induction path generalizing loc tree with
  | nil =>
    refine ⟨fun changed => absurd rfl changed, fun ⟨absent, way, initial, place, _⟩ => ?_⟩
    rw [List.prefix_nil.mp initial, List.foldl_nil] at place
    rw [← place, isDir] at absent
    cases absent
  | cons name path ih =>
    rw [and_congr_right fun absent => way_cons isDir absent, createDirs_cons]
    split
    · rename_i dots
      exact ih (isDir_iff.mp (isDir_dots (isDir_iff.mpr isDir) dots))
    · rename_i dots
      rw [descend_plain (not_or.mp dots)]
      cases found : tree.node (loc ++ [name]) with
      | some node =>
        cases node with
        | dir => exact ih found
        | file content =>
          refine ⟨fun changed => absurd rfl changed, fun ⟨_, way, _, _, clear⟩ => ?_⟩
          exact absurd found (clear [] List.nil_prefix content)
      | none =>
        have free : tree.node (loc ++ [name]) ≠ some .dir := by
          rw [found]
          exact (Option.some_ne_none _).symm
        have adds := addsDirs_put isDir found free
        have made := (mkdir_calm [] isDir free).1 fun t member => (nomatch member)
        have here : (tree.put loc name .dir isDir free).node (loc ++ [name]) = some .dir := if_pos rfl
        dsimp only
        rw [bind_of_ok made]
        by_cases same : other = loc ++ [name]
        · subst same
          have later := (createDirs_tree (loc ++ [name]) path ⟨tree.put loc name .dir isDir free, []⟩
            (isDir_iff.mpr here)).1.grows _ (isDir_iff.mpr here)
          refine iff_of_true ?_ ⟨found, [], List.nil_prefix, rfl, fun front early content => ?_⟩
          · rw [List.drop_nil, isDir_iff.mp later, found]
            exact Option.some_ne_none _
          · rw [List.prefix_nil.mp early, List.foldl_nil, found]
            exact (Option.some_ne_none _).symm
        · have kept : (tree.put loc name .dir isDir free).node other = tree.node other :=
            by rw [node_put, if_neg same]
          have rest := @ih (loc ++ [name]) _ here
          rw [kept] at rest
          rw [List.drop_nil, rest]
          refine and_congr_right fun _ => exists_congr fun way => and_congr_right fun _ =>
            and_congr_right fun _ =>
            forall_congr' fun front => imp_congr_right fun _ => forall_congr' fun content => not_congr ?_
          exact adds.file _ content

/-- Without trouble exactly those directories are made, whether `create_dir_all` succeeds or not. -/
theorem createDirAll_changes (path : List String) (tree : FileTree) (loc : Location) :
    (createDirAll path ⟨tree, []⟩).2.tree.node loc ≠ tree.node loc ↔ tree.Made path loc := by
  rw [createDirAll, FileTree.Made]
  by_cases legal_ : legal path = true
  · rw [if_pos legal_, and_iff_right legal_]
    exact createDirs_changes tree.root loc
  · rw [if_neg legal_]
    exact ⟨fun changed => absurd rfl changed, fun made => absurd made.1 legal_⟩

/-! ### Several paths -/

/-- With some directories made, what is missing for other paths. -/
theorem missing_after {tree tree' : FileTree} {path : List String}
    (made : ∀ loc, tree'.node loc = if loc ∈ tree.missing [path] then some .dir else tree.node loc)
    (paths : List (List String)) : tree'.missing paths = tree.missing paths \ tree.missing [path] := by
  ext loc
  rw [Finset.mem_sdiff, mem_missing, mem_missing, made loc]
  split
  · rename_i member
    exact ⟨fun ⟨_, absent⟩ => (nomatch absent), fun ⟨_, other⟩ => absurd member other⟩
  · rename_i outside
    exact ⟨fun found => ⟨found, outside⟩, fun ⟨found, _⟩ => found⟩

theorem makeable_after {tree tree' : FileTree} {path : List String}
    (made : ∀ loc, tree'.node loc = if loc ∈ tree.missing [path] then some .dir else tree.node loc)
    (other : List String) : tree'.Makeable other ↔ tree.Makeable other := by
  refine and_congr_right fun _ => forall_congr' fun way => imp_congr_right fun _ =>
    forall_congr' fun content => ?_
  rw [made]
  split
  · rename_i member
    rw [(mem_missing.mp member).2]
    simp
  · exact Iff.rfl

theorem card_missing_cons (tree : FileTree) (path : List String) (paths : List (List String)) :
    (tree.missing (path :: paths)).card =
      (tree.missing [path]).card + (tree.missing paths \ tree.missing [path]).card := by
  rw [missing_cons, ← Finset.card_union_of_disjoint Finset.disjoint_sdiff, Finset.union_sdiff_self_eq_union]

variable {α : Type} {items : List α} {path : α → List String}

/-- Several directories are made, one after the other, when nothing is in the way of any and as many
operations as are missing for all of them meet no trouble. -/
theorem makeAll_calm {d : Disk} :
    (∃ d', DiskM.each items (fun item => createDirAll (path item)) d = (.ok (), d')) ↔
      (∀ item ∈ items, d.tree.Makeable (path item)) ∧
        Calm d.trouble (d.tree.missing (items.map path)).card := by
  induction items generalizing d with
  | nil =>
    refine ⟨fun _ => ⟨fun _ member => (nomatch member), ?_⟩, fun _ => ⟨d, rfl⟩⟩
    exact calm_zero _
  | cons item items ih =>
    rw [List.map_cons, card_missing_cons, calm_add, List.forall_mem_cons]
    constructor
    · rintro ⟨d', ran⟩
      obtain ⟨_, d₁, first, rest⟩ := DiskM.bind_ok ran
      obtain ⟨makeable, calm⟩ := createDirAll_calm.mp ⟨d₁, first⟩
      obtain ⟨made, left⟩ := createDirAll_missing first
      obtain ⟨others, later⟩ := ih.mp ⟨d', rest⟩
      rw [missing_after made, left] at later
      exact ⟨⟨makeable, fun other member => (makeable_after made _).mp (others other member)⟩, calm, later⟩
    · rintro ⟨⟨makeable, others⟩, calm, later⟩
      obtain ⟨d₁, first⟩ := createDirAll_calm.mpr ⟨makeable, calm⟩
      obtain ⟨made, left⟩ := createDirAll_missing first
      have rest := ih.mpr ⟨fun other member => (makeable_after made _).mpr (others other member),
        show Calm d₁.trouble (d₁.tree.missing (items.map path)).card by
          rw [missing_after made, left]; exact later⟩
      obtain ⟨d', rest⟩ := rest
      exact ⟨d', by rw [DiskM.each, bind_of_ok first]; exact rest⟩

theorem makeAll_missing {d d' : Disk}
    (ran : DiskM.each items (fun item => createDirAll (path item)) d = (.ok (), d')) :
    (∀ loc, d'.tree.node loc =
      if loc ∈ d.tree.missing (items.map path) then some .dir else d.tree.node loc) ∧
      d'.trouble = d.trouble.drop (d.tree.missing (items.map path)).card := by
  induction items generalizing d with
  | nil =>
    obtain ⟨_, rfl⟩ := DiskM.pure_ok ran
    simp [missing]
  | cons item items ih =>
    obtain ⟨_, d₁, first, rest⟩ := DiskM.bind_ok ran
    obtain ⟨made, left⟩ := createDirAll_missing first
    obtain ⟨later, after⟩ := ih rest
    rw [missing_after made] at later after
    constructor
    · intro loc
      rw [later, made, List.map_cons, missing_cons _ (path item) (items.map path)]
      simp only [Finset.mem_sdiff, Finset.mem_union]
      by_cases here : loc ∈ d.tree.missing [path item]
      · simp [here]
      · simp [here]
    · rw [after, left, List.drop_drop, List.map_cons, card_missing_cons _ (path item) (items.map path)]

/-! ### Files in a directory -/

theorem missing_congr {tree tree' : FileTree} {paths : List (List String)}
    (same : ∀ path ∈ paths, ∀ way, way <+: path → tree'.node (target way) = tree.node (target way)) :
    tree'.missing paths = tree.missing paths := by
  ext loc
  rw [mem_missing, mem_missing]
  refine and_congr_right fun ⟨path, member, way, initial, place⟩ => ?_
  rw [← place, same path member way initial]

theorem makeable_congr {tree tree' : FileTree} {path : List String}
    (same : ∀ way, way <+: path → tree'.node (target way) = tree.node (target way)) :
    tree'.Makeable path ↔ tree.Makeable path := by
  refine and_congr_right fun _ => forall_congr' fun way => imp_congr_right fun initial => ?_
  rw [same way initial]

theorem calm_head {trouble : List Trouble} (calm : Calm trouble 1) (e : String) :
    trouble.head? ≠ some (.fails e) := by
  intro met
  cases trouble with
  | nil => cases met
  | cons t rest =>
    obtain rfl := Option.some.inj met
    cases calm (.fails e) List.mem_cons_self

/-- What an operation that meets trouble meets. -/
theorem next_rough {d : Disk} (rough : ¬ Calm d.trouble 1) :
    (∃ e, d.trouble.head? = some (.fails e) ∧ d.next = (.fails e, ⟨d.tree, d.trouble.drop 1⟩)) ∨
      ∃ e left, d.trouble.head? = some (.cuts e left) ∧
        d.next = (.cuts e left, ⟨d.tree, d.trouble.drop 1⟩) := by
  obtain ⟨tree, trouble⟩ := d
  cases trouble with
  | nil => exact absurd (fun t member => by cases member) rough
  | cons t rest =>
    cases t with
    | none => exact absurd ((next_calm tree).mpr rfl) rough
    | fails e => exact .inl ⟨e, rfl, rfl⟩
    | cuts e left => exact .inr ⟨e, left, rfl, rfl⟩

section Write
variable {base : List String} {name : String} {loc : Location} {d : Disk}

theorem write_calm (content : Content) (plain : Plain name) (legal_ : legal (base ++ [name]) = true)
    (walked : d.tree.walk [] base = some loc) (isDir : d.tree.node loc = some .dir) :
    ((∃ d', write (base ++ [name]) content d = (.ok (), d')) ↔
      d.tree.node (loc ++ [name]) ≠ some .dir ∧ Calm d.trouble 1) ∧
    ∀ d', write (base ++ [name]) content d = (.ok (), d') →
      d'.trouble = d.trouble.drop 1 ∧ d.tree.SameDirs d'.tree ∧
        ∀ other, other ≠ loc ++ [name] → d'.tree.node other = d.tree.node other := by
  rw [write_at content plain legal_ walked]
  by_cases calm : Calm d.trouble 1
  · rw [(next_calm d.tree).mp calm]
    dsimp only
    unfold Disk.store
    by_cases free : d.tree.node (loc ++ [name]) = some .dir
    · rw [dif_neg fun able => able.2 free]
      exact ⟨⟨fun ⟨_, ran⟩ => (nomatch ran), fun ⟨able, _⟩ => absurd free able⟩, fun _ ran => nomatch ran⟩
    · rw [dif_pos ⟨isDir, free⟩]
      refine ⟨⟨fun _ => ⟨free, calm⟩, fun _ => ⟨_, rfl⟩⟩, fun d' ran => ?_⟩
      obtain ⟨_, rfl⟩ := Prod.mk.inj ran
      exact ⟨rfl, sameDirs_put_file isDir free, fun other away => if_neg away⟩
  · rcases next_rough calm with ⟨e, _, met⟩ | ⟨e, left, _, met⟩
    · rw [met]
      exact ⟨⟨fun ⟨_, ran⟩ => (nomatch ran), fun ⟨_, other⟩ => absurd other calm⟩, fun _ ran => nomatch ran⟩
    · rw [met]
      exact ⟨⟨fun ⟨_, ran⟩ => (nomatch ran), fun ⟨_, other⟩ => absurd other calm⟩, fun _ ran => nomatch ran⟩

/-- A write leaves a file where there was none unless a directory is there or nothing of it is done. -/
theorem write_leaves_iff (content : Content) (plain : Plain name) (legal_ : legal (base ++ [name]) = true)
    (walked : d.tree.walk [] base = some loc) (isDir : d.tree.node loc = some .dir)
    (absent : ¬ ∃ content, d.tree.node (loc ++ [name]) = some (.file content)) :
    (∃ left, (write (base ++ [name]) content d).2.tree.node (loc ++ [name]) = some (.file left)) ↔
      d.tree.node (loc ++ [name]) ≠ some .dir ∧ ∀ e, d.trouble.head? ≠ some (.fails e) := by
  rw [write_at content plain legal_ walked]
  have stored :
      ∀ left, (∃ found, ((⟨d.tree, d.trouble.drop 1⟩ : Disk).store loc name (.file left)).2.tree.node
      (loc ++ [name]) = some (.file found)) ↔ d.tree.node (loc ++ [name]) ≠ some .dir := by
    intro left
    unfold Disk.store
    by_cases free : d.tree.node (loc ++ [name]) = some .dir
    · rw [dif_neg fun able => able.2 free]
      exact ⟨fun found => absurd found absent, fun other => absurd free other⟩
    · rw [dif_pos ⟨isDir, free⟩]
      exact ⟨fun _ => free, fun _ => ⟨left, if_pos rfl⟩⟩
  by_cases calm : Calm d.trouble 1
  · rw [(next_calm d.tree).mp calm]
    exact (stored content).trans ⟨fun free => ⟨free, calm_head calm⟩, And.left⟩
  · rcases next_rough calm with ⟨e, head, met⟩ | ⟨e, left, head, met⟩
    · rw [met]
      exact ⟨fun found => absurd found absent, fun ⟨_, never⟩ => absurd head (never e)⟩
    · rw [met, head]
      refine (stored left).trans ⟨fun free => ⟨free, fun other same => ?_⟩, And.left⟩
      cases same

end Write

/-- Several files are written into a directory when no directory is in their place and as many operations
meet no trouble. -/
theorem writeAll_calm {base : List String} {loc : Location} {files : List (String × Content)} {d : Disk}
    (plain : ∀ file ∈ files, Plain file.1 ∧ legal (base ++ [file.1]) = true)
    (walked : d.tree.walk [] base = some loc) (isDir : d.tree.node loc = some .dir) :
    ((∃ d', DiskM.each files (fun file => write (base ++ [file.1]) file.2) d = (.ok (), d')) ↔
      (∀ file ∈ files, d.tree.node (loc ++ [file.1]) ≠ some .dir) ∧ Calm d.trouble files.length) ∧
    ∀ d', DiskM.each files (fun file => write (base ++ [file.1]) file.2) d = (.ok (), d') →
      d'.trouble = d.trouble.drop files.length ∧ d.tree.SameDirs d'.tree ∧
        ∀ other, (∀ file ∈ files, other ≠ loc ++ [file.1]) → d'.tree.node other = d.tree.node other := by
  induction files generalizing d with
  | nil =>
    refine ⟨⟨fun _ => ⟨fun _ member => (nomatch member), calm_zero _⟩, fun _ => ⟨d, rfl⟩⟩, fun d' ran => ?_⟩
    obtain ⟨_, rfl⟩ := DiskM.pure_ok ran
    exact ⟨rfl, fun _ => rfl, fun _ _ => rfl⟩
  | cons file files ih =>
    obtain ⟨named, front⟩ := plain file List.mem_cons_self
    obtain ⟨wrote, after⟩ := write_calm file.2 named front walked isDir
    have onward : ∀ d₁ : Disk, d.tree.SameDirs d₁.tree → d₁.tree.walk [] base = some loc ∧
        d₁.tree.node loc = some .dir := fun d₁ same =>
      ⟨by rw [same.walk, walked], isDir_iff.mp (by rw [same loc]; exact isDir_iff.mpr isDir)⟩
    have places : ∀ {d₁ : Disk}, d.tree.SameDirs d₁.tree →
        ((∀ file ∈ files, d₁.tree.node (loc ++ [file.1]) ≠ some .dir) ↔
          ∀ file ∈ files, d.tree.node (loc ++ [file.1]) ≠ some .dir) := by
      intro d₁ same
      refine forall_congr' fun other => imp_congr_right fun _ => not_congr ?_
      rw [← isDir_iff, ← isDir_iff, same]
    rw [List.forall_mem_cons, List.length_cons, Nat.add_comm files.length 1, calm_add]
    refine ⟨⟨?_, ?_⟩, fun d' ran => ?_⟩
    · rintro ⟨d', ran⟩
      obtain ⟨_, d₁, first, rest⟩ := DiskM.bind_ok ran
      obtain ⟨free, calm⟩ := wrote.mp ⟨d₁, first⟩
      obtain ⟨left, same, _⟩ := after d₁ first
      obtain ⟨others, later⟩ := (ih (fun other member => plain other (List.mem_cons_of_mem _ member))
        (onward d₁ same).1 (onward d₁ same).2).1.mp ⟨d', rest⟩
      exact ⟨⟨free, (places same).mp others⟩, calm, left ▸ later⟩
    · rintro ⟨⟨free, others⟩, calm, later⟩
      obtain ⟨d₁, first⟩ := wrote.mpr ⟨free, calm⟩
      obtain ⟨left, same, _⟩ := after d₁ first
      obtain ⟨d', rest⟩ := (ih (fun other member => plain other (List.mem_cons_of_mem _ member))
        (onward d₁ same).1 (onward d₁ same).2).1.mpr ⟨(places same).mpr others, left ▸ later⟩
      exact ⟨d', by rw [DiskM.each, bind_of_ok first]; exact rest⟩
    · obtain ⟨_, d₁, first, rest⟩ := DiskM.bind_ok ran
      obtain ⟨left, same, changes⟩ := after d₁ first
      obtain ⟨left', same', changes'⟩ := (ih (fun other member => plain other (List.mem_cons_of_mem _ member))
        (onward d₁ same).1 (onward d₁ same).2).2 d' rest
      refine ⟨by rw [left', left, List.drop_drop], fun place => (same' place).trans (same place),
        fun other away => ?_⟩
      rw [changes' other fun file member => away file (List.mem_cons_of_mem _ member),
        changes other (away file List.mem_cons_self)]

/-- The places below a directory that are missing on the ways to its subdirectories are those that are
missing on the way to itself. -/
theorem mem_missing_below {tree : FileTree} {base names tail : List String}
    (plain : ∀ name ∈ names, Plain name)
    (nonempty : names ≠ []) (other : ∀ name ∈ names, tail ≠ [name]) :
    target base ++ tail ∈ tree.missing (names.map fun name => base ++ [name]) ↔
      target base ++ tail ∈ tree.missing [base] := by
  simp only [mem_missing, List.mem_map, List.mem_singleton, exists_eq_left, exists_exists_and_eq_and]
  refine and_congr_left fun _ => ⟨?_, ?_⟩
  · rintro ⟨name, member, way, initial, place⟩
    rcases List.prefix_concat_iff.mp initial with rfl | early
    · rw [target_append_plain base (List.forall_mem_singleton.mpr (plain name member))] at place
      exact absurd (List.append_cancel_left place).symm (other name member)
    · exact ⟨way, early, place⟩
  · rintro ⟨way, early, place⟩
    obtain ⟨name, member⟩ := List.exists_mem_of_ne_nil names nonempty
    exact ⟨name, member, way, early.trans (List.prefix_append base [name]), place⟩

end GrokingClawId
