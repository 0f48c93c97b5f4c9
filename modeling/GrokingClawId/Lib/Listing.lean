import Mathlib.Data.Set.Finite.Lattice
import GrokingClawId.Lib.Interrupted

/-!
# Directories and their entries

What a directory holds, in the order in which the system lists it, and which directories
`create_dir_all` makes. A listing is that of the moment at which the directory is opened.
-/

namespace GrokingClawId

/-- The names in a directory, in some order. -/
class ReadDir where
  entries : FileTree → Location → List String

namespace FileTree

/-- There are finitely many nodes, and each has a name that leads to it. -/
structure Regular (tree : FileTree) : Prop where
  finite : {loc | tree.node loc ≠ none}.Finite
  names : ∀ loc name, tree.node (loc ++ [name]) ≠ none → Plain name ∧ legal [name] = true

def isDirAt (tree : FileTree) (path : List String) : Bool :=
  legal path && tree.lookup path = some .dir

theorem Regular.put {tree : FileTree} (regular : tree.Regular) {loc : Location} {name : String}
    {node : Node} (parent : tree.node loc = some .dir)
    (free : tree.node (loc ++ [name]) ≠ some .dir) (plain : Plain name)
    (legal_ : legal [name] = true) : (tree.put loc name node parent free).Regular where
  finite := by
    refine (regular.finite.insert (loc ++ [name])).subset fun other present => ?_
    by_cases same : other = loc ++ [name]
    · exact .inl same
    · refine .inr ?_
      change (if other = loc ++ [name] then some node else tree.node other) ≠ none at present
      rw [if_neg same] at present
      exact present
  names other below present := by
    rw [node_put] at present
    split at present
    · rename_i same
      obtain ⟨_, single⟩ := List.append_inj' same rfl
      obtain rfl := List.singleton_inj.mp single
      exact ⟨plain, legal_⟩
    · exact regular.names other below present

/-- Nothing lies below what is no directory. -/
theorem absent_below {tree : FileTree} {loc below : Location} (notDir : tree.node loc ≠ some .dir)
    (proper : below ≠ []) : tree.node (loc ++ below) = none := by
  by_contra present
  exact notDir (above present proper)

theorem Regular.bounded {tree : FileTree} (regular : tree.Regular) :
    ∃ depth, ∀ loc, tree.node loc ≠ none → loc.length < depth := by
  obtain ⟨depth, bound⟩ := (regular.finite.image List.length).bddAbove
  exact ⟨depth + 1, fun loc present => Nat.lt_succ_of_le (bound ⟨loc, present, rfl⟩)⟩

theorem legal_append (path path' : List String) :
    legal (path ++ path') = (legal path && legal path') := by
  rw [legal, List.all_append, legal, legal]

theorem walk_down {tree : FileTree} {path : List String} {loc : Location} {name : String}
    (walked : tree.walk [] path = some loc) (isDir : tree.node loc = some .dir)
    (plain : Plain name) :
    tree.walk [] (path ++ [name]) = some (loc ++ [name]) := by
  rw [walk_append, walked, Option.bind_some, walk, if_pos (isDir_iff.mpr isDir), walk,
    descend_plain plain]

theorem Regular.walk_below {tree : FileTree} (regular : tree.Regular) {path : List String}
    {loc : Location} (legal_ : legal path = true) (walked : tree.walk [] path = some loc)
    {rel : Location} (present : tree.node (loc ++ rel) ≠ none) :
    legal (path ++ rel) = true ∧ tree.walk [] (path ++ rel) = some (loc ++ rel) := by
  induction rel using List.reverseRecOn with
  | nil =>
    rw [List.append_nil, List.append_nil]
    exact ⟨legal_, walked⟩
  | append_singleton rel name ih =>
    rw [← List.append_assoc] at present
    obtain ⟨plain, single⟩ := regular.names _ _ present
    have parent := tree.parents _ _ present
    obtain ⟨front, reached⟩ := ih (by rw [parent]; exact Option.some_ne_none _)
    rw [← List.append_assoc, ← List.append_assoc]
    exact ⟨by rw [legal_append, front, single]; rfl, walk_down reached parent plain⟩

theorem isDirAt_iff {tree : FileTree} {path : List String} {loc : Location}
    (legal_ : legal path = true) (walked : tree.walk [] path = some loc) :
    tree.isDirAt path = true ↔ tree.node loc = some .dir := by
  rw [isDirAt, legal_, lookup, walked, Option.bind_some, Bool.true_and, decide_eq_true_iff]

end FileTree

open FileTree

/-- The listing of a directory of a disk holds every name in it once. -/
structure ReadDir.Lawful [ReadDir] : Prop where
  nodup : ∀ tree : FileTree, tree.Regular → ∀ loc, (entries tree loc).Nodup
  mem_iff : ∀ tree : FileTree, tree.Regular → ∀ loc name,
    name ∈ entries tree loc ↔ tree.node (loc ++ [name]) ≠ none

theorem FileTree.Regular.entries_finite {tree : FileTree} (regular : tree.Regular)
    (loc : Location) :
    {name | tree.node (loc ++ [name]) ≠ none}.Finite := by
  refine regular.finite.preimage (f := fun name => loc ++ [name]) fun one _ other _ same => ?_
  exact List.singleton_inj.mp (List.append_cancel_left same)

open Classical in
/-- A listing of every directory, in no order of note. -/
@[reducible] noncomputable def ReadDir.unordered : ReadDir where
  entries tree loc := if regular : tree.Regular then (regular.entries_finite loc).toFinset.toList else []

theorem ReadDir.unordered_entries {tree : FileTree} (regular : tree.Regular) (loc : Location) :
    @entries ReadDir.unordered tree loc =
      (regular.entries_finite loc).toFinset.toList := dif_pos regular

theorem ReadDir.unordered_lawful : @ReadDir.Lawful ReadDir.unordered := by
  refine @ReadDir.Lawful.mk ReadDir.unordered (fun tree regular loc => ?_) fun tree regular loc name => ?_
  · rw [unordered_entries regular]
    exact Finset.nodup_toList _
  · rw [unordered_entries regular, Finset.mem_toList, Set.Finite.mem_toFinset, Set.mem_ofPred_eq]

/-! ### Operations -/

def readDir [ReadDir] (path : List String) : DiskM String (List String) := fun d =>
  if !legal path then (.error "file name contained an unexpected NUL byte", d)
  else
    match d.tree.walk [] path with
    | none => (.error "No such file or directory", d)
    | some loc =>
      match d.tree.node loc with
      | none => (.error "No such file or directory", d)
      | some (.file _) => (.error "Not a directory", d)
      | some .dir =>
        match d.next with
        | (.none, d) => (.ok (ReadDir.entries d.tree loc), d)
        | (.fails e, d) => (.error e, d)
        | (.cuts e _, d) => (.error e, d)

/-- The next entry of a listing. -/
def nextEntry : DiskM String Unit := fun d =>
  match d.next with
  | (.none, d) => (.ok (), d)
  | (.fails e, d) => (.error e, d)
  | (.cuts e _, d) => (.error e, d)

/-- What is removed is a file. -/
def removeFile (path : List String) : DiskM String Unit := fun d =>
  if !legal path then (.error "file name contained an unexpected NUL byte", d)
  else
    match d.tree.walk [] path with
    | none => (.error "No such file or directory", d)
    | some loc =>
      match d.tree.node loc with
      | some (.file _) =>
        match d.next with
        | (.none, d) =>
          if proper : loc ≠ [] then (.ok (), { d with tree := d.tree.prune loc proper }) else (.ok (), d)
        | (.fails e, d) => (.error e, d)
        | (.cuts e _, d) => (.error e, d)
      | some .dir => (.error "Is a directory", d)
      | none => (.error "No such file or directory", d)

theorem nextEntry_tree (d : Disk) : (nextEntry d).2.tree = d.tree := by
  unfold nextEntry
  have same := d.next_tree
  split <;> (rename_i met; rw [met] at same; exact same)

theorem readDir_tree [ReadDir] (path : List String) (d : Disk) :
    (readDir path d).2.tree = d.tree := by
  unfold readDir
  split
  · rfl
  · split
    · rfl
    · split
      · rfl
      · rfl
      · have same := d.next_tree
        split <;> (rename_i met; rw [met] at same; exact same)

theorem readDir_fails [ReadDir] (path : List String) (tree : FileTree) (e : String) :
    ∃ failure d', readDir path ⟨tree, [.fails e]⟩ = (.error failure, d') ∧ d'.tree = tree := by
  have same := readDir_tree path ⟨tree, [.fails e]⟩
  cases ran : readDir path ⟨tree, [.fails e]⟩ with
  | mk result d' =>
    rw [ran] at same
    cases result with
    | error failure => exact ⟨failure, d', rfl, same⟩
    | ok names =>
      exfalso
      unfold readDir at ran
      split at ran
      · cases ran
      · split at ran
        · cases ran
        · split at ran
          · cases ran
          · cases ran
          · cases ran

theorem readDir_ok [ReadDir] {path : List String} {d d' : Disk} {names : List String}
    {loc : Location} (walked : d.tree.walk [] path = some loc)
    (ran : readDir path d = (.ok names, d')) :
    d.tree.node loc = some .dir ∧ names = ReadDir.entries d.tree loc := by
  unfold readDir at ran
  split at ran
  · cases ran
  · rw [walked] at ran
    dsimp only at ran
    split at ran
    · cases ran
    · cases ran
    · rename_i isDir
      have same := d.next_tree
      split at ran
      · rename_i met
        rw [met] at same
        obtain ⟨listed, _⟩ := Prod.mk.inj ran
        rw [← Except.ok.inj listed, same]
        exact ⟨isDir, rfl⟩
      · cases ran
      · cases ran

/-! ### The directories on the way -/

namespace FileTree

/-- No file is in the way of the directories of the path. -/
def Makeable (tree : FileTree) (path : List String) : Prop :=
  legal path = true ∧ ∀ way, way <+: path → ∀ content, tree.node (target way) ≠ some (.file content)

/-- The directories that are missing on the way lie above the place that the path leads to. -/
def Descends (tree : FileTree) (path : List String) : Prop :=
  ∀ way, way <+: path → tree.node (target way) = none → target way <+: target path

theorem walk_lead {tree : FileTree} {path way : List String} {loc : Location}
    (initial : way <+: path) (walked : tree.walk [] path = some loc)
    (isDir : tree.node loc = some .dir) :
    tree.walk [] way = some (target way) ∧ tree.node (target way) = some .dir := by
  obtain ⟨rest, rfl⟩ := initial
  rw [walk_append] at walked
  obtain ⟨middle, first, later⟩ := Option.bind_eq_some_iff.mp walked
  rw [← walk_target first]
  refine ⟨first, ?_⟩
  cases rest with
  | nil =>
    obtain rfl := Option.some.inj later
    exact isDir
  | cons name rest =>
    rw [walk] at later
    split at later
    · exact isDir_iff.mp (by assumption)
    · cases later

/-- Names that lead down from a directory that is there. -/
theorem descends_plain {tree : FileTree} {base names : List String} {loc : Location}
    (walked : tree.walk [] base = some loc) (isDir : tree.node loc = some .dir)
    (plain : ∀ name ∈ names, Plain name) : tree.Descends (base ++ names) := by
  intro way initial missing
  rcases List.prefix_or_prefix_of_prefix initial (List.prefix_append base names) with
    early | ⟨rest, rfl⟩
  · rw [(walk_lead early walked isDir).2] at missing
    cases missing
  · have deep : rest <+: names := (List.prefix_append_right_inj base).mp initial
    rw [target_append_plain base plain, target_append_plain base fun name member =>
      plain name (deep.subset member)]
    exact (List.prefix_append_right_inj _).mpr deep

theorem walk_dirs {tree : FileTree} {path : List String}
    (dirs : ∀ way, way <+: path → tree.node (target way) = some .dir) :
    tree.walk [] path = some (target path) := by
  induction path using List.reverseRecOn with
  | nil => rfl
  | append_singleton path name ih =>
    have front := ih fun way initial => dirs way (initial.trans (List.prefix_append path [name]))
    have last := isDir_iff.mpr (dirs path (List.prefix_append path [name]))
    rw [walk_append, front, Option.bind_some, walk, if_pos last, walk, target, target,
      List.foldl_append]
    rfl

end FileTree

open DiskM

theorem createDirs_cons (loc : Location) (name : String) (rest : List String) (d : Disk) :
    createDirs loc (name :: rest) d =
      if name = ".." ∨ name = "." then createDirs (descend loc name) rest d
      else
        match d.tree.node (loc ++ [name]) with
        | some .dir => createDirs (loc ++ [name]) rest d
        | some (.file _) => (.error "File exists", d)
        | none => (mkdir loc name >>= fun _ => createDirs (loc ++ [name]) rest) d := rfl

/-- The directories on the way to a directory that is there are left alone. -/
theorem createDirs_append {loc found : Location} {first : List String} {d : Disk}
    (walked : d.tree.walk loc first = some found) (isDir : d.tree.node found = some .dir)
    (rest : List String) :
    createDirs loc (first ++ rest) d = createDirs found rest d := by
  induction first generalizing loc with
  | nil =>
    obtain rfl := Option.some.inj walked
    rfl
  | cons name first ih =>
    rw [walk] at walked
    split at walked
    · rw [List.cons_append, createDirs_cons]
      split
      · exact ih walked
      · rename_i dots
        have down : descend loc name = loc ++ [name] := descend_plain (not_or.mp dots)
        rw [down] at walked
        have there : d.tree.node (loc ++ [name]) = some .dir := by
          cases first with
          | nil =>
            obtain rfl := Option.some.inj walked
            exact isDir
          | cons next first =>
            rw [walk] at walked
            split at walked
            · exact isDir_iff.mp (by assumption)
            · cases walked
        rw [there]
        exact ih walked
    · cases walked

theorem createDirAll_there {path : List String} {loc : Location} {d : Disk}
    (legal_ : legal path = true) (walked : d.tree.walk [] path = some loc)
    (isDir : d.tree.node loc = some .dir) :
    createDirAll path d = (.ok (), d) := by
  have same := createDirs_append walked isDir []
  rw [List.append_nil] at same
  rw [createDirAll, if_pos legal_, same]
  rfl

theorem createDirAll_down {path : List String} {name : String} {loc : Location} {d : Disk}
    (legal_ : legal (path ++ [name]) = true) (walked : d.tree.walk [] path = some loc)
    (isDir : d.tree.node loc = some .dir) (plain : Plain name) :
    createDirAll (path ++ [name]) d =
      match d.tree.node (loc ++ [name]) with
      | some .dir => (.ok (), d)
      | some (.file _) => (.error "File exists", d)
      | none => mkdir loc name d := by
  rw [createDirAll, if_pos legal_, createDirs_append walked isDir, createDirs_cons,
    if_neg (not_or.mpr plain)]
  cases d.tree.node (loc ++ [name]) with
  | none =>
    dsimp only
    rw [bind_run]
    rcases mkdir loc name d with ⟨e | _, d'⟩ <;> rfl
  | some node =>
    cases node with
    | dir => rfl
    | file content => rfl

theorem createDirs_free {loc : Location} {path : List String} {tree : FileTree}
    (isDir : tree.node loc = some .dir)
    (clear : ∀ way, way <+: path →
    ∀ content, tree.node (way.foldl descend loc) ≠ some (.file content)) :
    ∃ tree', createDirs loc path ⟨tree, []⟩ = (.ok (), ⟨tree', []⟩) := by
  induction path generalizing loc tree with
  | nil => exact ⟨tree, rfl⟩
  | cons name path ih =>
    have onward : ∀ {tree' : FileTree}, tree.AddsDirs tree' →
        tree'.node (descend loc name) = some .dir →
        ∃ tree'', createDirs (descend loc name) path ⟨tree', []⟩ = (.ok (), ⟨tree'', []⟩) := by
      intro tree' adds there
      refine ih there fun way initial content file => ?_
      exact clear (name :: way) (List.cons_prefix_cons.mpr ⟨rfl, initial⟩) content
        ((adds.file _ content).mp file)
    rw [createDirs_cons]
    split
    · rename_i dots
      exact onward (AddsDirs.refl tree) (isDir_iff.mp (isDir_dots (isDir_iff.mpr isDir) dots))
    · rename_i dots
      have down : descend loc name = loc ++ [name] := descend_plain (not_or.mp dots)
      rw [down] at onward
      cases found : tree.node (loc ++ [name]) with
      | none =>
        have free : tree.node (loc ++ [name]) ≠ some .dir := by
          rw [found]
          intro same
          cases same
        have made : mkdir loc name ⟨tree, []⟩ =
            (.ok (), ⟨tree.put loc name .dir isDir free, []⟩) := by
          show Disk.store _ _ _ _ = _
          rw [Disk.store, dif_pos ⟨isDir, free⟩]
        dsimp only
        rw [bind_of_ok made]
        exact onward (addsDirs_put isDir found free) (if_pos rfl)
      | some node =>
        cases node with
        | dir => exact onward (AddsDirs.refl tree) found
        | file content =>
          refine absurd found (down ▸ clear [name] (List.cons_prefix_cons.mpr ⟨rfl, List.nil_prefix⟩) content)

theorem createDirAll_free {path : List String} {tree : FileTree} (makeable : tree.Makeable path) :
    ∃ tree', createDirAll path ⟨tree, []⟩ = (.ok (), ⟨tree', []⟩) := by
  rw [createDirAll, if_pos makeable.1]
  exact createDirs_free tree.root makeable.2

theorem mkdir_cases {loc : Location} {name : String} {d : Disk}
    (parent : d.tree.node loc = some .dir) (free : d.tree.node (loc ++ [name]) ≠ some .dir) :
    (∃ e d', mkdir loc name d = (.error e, d') ∧ d'.tree = d.tree) ∨
      ∃ d', mkdir loc name d = (.ok (), d') ∧ d'.tree = d.tree.put loc name .dir parent free := by
  obtain ⟨tree, trouble⟩ := d
  unfold mkdir
  cases trouble with
  | nil => exact .inr ⟨_, dif_pos ⟨parent, free⟩, rfl⟩
  | cons met rest =>
    cases met with
    | none => exact .inr ⟨_, dif_pos ⟨parent, free⟩, rfl⟩
    | fails e => exact .inl ⟨e, _, rfl, rfl⟩
    | cuts e left => exact .inl ⟨e, _, rfl, rfl⟩

theorem mkdir_regular (loc : Location) {name : String} (plain : Plain name)
    (single : legal [name] = true) :
    Relates (fun tree tree' => tree.Regular → tree'.Regular) (mkdir loc name) := by
  intro d regular
  unfold mkdir
  have same := d.next_tree
  split
  · rename_i after met
    rw [met] at same
    rcases store_tree after loc name .dir with ⟨e, failed⟩ | ⟨able, stored⟩
    · rw [failed]
      exact same ▸ regular
    · rw [stored]
      exact (same ▸ regular : after.tree.Regular).put able.1 able.2 plain single
  · rename_i met
    rw [met] at same
    exact same ▸ regular
  · rename_i met
    rw [met] at same
    exact same ▸ regular

theorem createDirs_regular (loc : Location) {path : List String} (legal_ : legal path = true) :
    Relates (fun tree tree' => tree.Regular → tree'.Regular) (createDirs loc path) := by
  induction path generalizing loc with
  | nil => exact fun _ regular => regular
  | cons name path ih =>
    have parts := legal_append [name] path
    rw [List.singleton_append, legal_, eq_comm, Bool.and_eq_true] at parts
    obtain ⟨single, rest⟩ := parts
    intro d regular
    rw [createDirs_cons]
    split
    · exact ih _ rest d regular
    · rename_i dots
      split
      · exact ih _ rest d regular
      · exact regular
      · have first := mkdir_regular loc (not_or.mp dots) single
        exact relates_bind (fun _ _ _ one two regular => two (one regular)) first
          (fun _ => ih _ rest) d regular

theorem createDirAll_regular (path : List String) :
    Relates (fun tree tree' => tree.Regular → tree'.Regular) (createDirAll path) := by
  unfold createDirAll
  split
  · exact createDirs_regular [] ‹_›
  · exact fun _ regular => regular

/-- The directories that have been made were missing on the way. -/
theorem createDirAll_made {path : List String} {d d' : Disk}
    (ran : createDirAll path d = (.ok (), d')) :
    d.tree.Makeable path ∧ d'.tree.walk [] path = some (target path) ∧
    d'.tree.node (target path) = some .dir ∧
      ∀ loc, d'.tree.node loc = d.tree.node loc ∨ d.tree.node loc = none ∧ ∃ way, way <+: path ∧
        loc = target way := by
  obtain ⟨legal_, adds, found, walked, isDir⟩ := createDirAll_ok ran
  have place := walk_target walked
  rw [place] at walked isDir
  refine ⟨⟨legal_, fun way initial content file => ?_⟩, walked, isDir_iff.mp isDir, fun loc => ?_⟩
  · have kept := (adds.file (target way) content).mpr file
    rw [(walk_lead initial walked (isDir_iff.mp isDir)).2] at kept
    cases kept
  · rcases adds loc with same | ⟨missing, made⟩
    · exact .inl same
    · have changed : (createDirs [] path d).2.tree.node loc ≠ d.tree.node loc := by
        rw [createDirAll, if_pos legal_] at ran
        rw [ran, missing, made]
        exact Option.some_ne_none _
      obtain ⟨way, initial, same⟩ := createDirs_way [] path d loc changed
      exact .inr ⟨missing, way, initial, same.symm⟩

/-- Where the path descends and leads to nothing, there is nothing at the place either. -/
theorem FileTree.Descends.new {tree : FileTree} {path : List String} (descends : tree.Descends path)
    (makeable : tree.Makeable path) (absent : tree.exists path = false) :
    tree.node (target path) = none := by
  by_contra present
  have dirs : ∀ way, way <+: path → tree.node (target way) = some .dir := by
    intro way initial
    cases found : tree.node (target way) with
    | none =>
      obtain ⟨rest, whole⟩ := descends way initial found
      rw [← whole] at present
      cases rest with
      | nil =>
        rw [List.append_nil] at present
        exact absurd found present
      | cons name rest =>
        rw [above present (List.cons_ne_nil _ _)] at found
        cases found
    | some node =>
      cases node with
      | dir => rfl
      | file content => exact absurd found (makeable.2 way initial content)
  have exists_ := exists_iff.mpr ⟨makeable.1, _, walk_dirs dirs, present⟩
  rw [absent] at exists_
  cases exists_

/-! ### Changes by location -/

namespace FileTree

/-- Only at or below the location has anything changed. -/
def SameOutside (place : Location) (tree tree' : FileTree) : Prop :=
  ∀ loc, ¬ place <+: loc → tree'.node loc = tree.node loc

theorem SameOutside.refl (place : Location) (tree : FileTree) : SameOutside place tree tree :=
  fun _ _ => rfl

theorem SameOutside.trans {place : Location} {tree middle tree' : FileTree}
    (first : SameOutside place tree middle) (second : SameOutside place middle tree') :
    SameOutside place tree tree' :=
  fun loc outside => (second loc outside).trans (first loc outside)

theorem SameOutside.above {place below : Location} {tree tree' : FileTree} (inner : place <+: below)
    (same : SameOutside below tree tree') : SameOutside place tree tree' :=
  fun loc outside => same loc fun deep => outside (inner.trans deep)

theorem sameOutside_put (tree : FileTree) (loc : Location) (name : String) (node : Node)
    (parent : tree.node loc = some .dir) (free : tree.node (loc ++ [name]) ≠ some .dir) :
    SameOutside (loc ++ [name]) tree (tree.put loc name node parent free) := by
  intro other outside
  rw [node_put, if_neg]
  rintro rfl
  exact outside (List.prefix_refl _)

/-- What is empty and stays a directory may be filled. -/
theorem SameOutside.grows {place : Location} {tree tree' : FileTree}
    (outside : SameOutside place tree tree') (isDir : tree'.node place = some .dir)
    (empty : ∀ rel, rel ≠ [] → tree.node (place ++ rel) = none) :
    tree.Grows tree' := by
  intro loc dir
  rw [isDir_iff] at dir ⊢
  by_cases inside : place <+: loc
  · obtain ⟨rel, rfl⟩ := inside
    cases rel with
    | nil =>
      rw [List.append_nil]
      exact isDir
    | cons name rel =>
      rw [empty _ (List.cons_ne_nil _ _)] at dir
      cases dir
  · rw [outside loc inside, dir]

end FileTree

theorem write_cases {base : List String} {name : String} {loc : Location} {d : Disk}
    (content : Content) (plain : Plain name) (legal_ : legal (base ++ [name]) = true)
    (walked : d.tree.walk [] base = some loc) (parent : d.tree.node loc = some .dir)
    (free : d.tree.node (loc ++ [name]) ≠ some .dir) :
    (∃ e d', write (base ++ [name]) content d = (.error e, d') ∧
      (d'.tree = d.tree ∨ ∃ left, d'.tree = d.tree.put loc name (.file left) parent free)) ∨
    ∃ d', write (base ++ [name]) content d = (.ok (), d') ∧
      d'.tree = d.tree.put loc name (.file content) parent free := by
  rw [write_at content plain legal_ walked]
  obtain ⟨tree, trouble⟩ := d
  have stored : ∀ left rest, (⟨tree, rest⟩ : Disk).store loc name (.file left) =
      (.ok (), ⟨tree.put loc name (.file left) parent free, rest⟩) := fun left rest => dif_pos ⟨parent, free⟩
  cases trouble with
  | nil => exact .inr ⟨_, stored content [], rfl⟩
  | cons met rest =>
    cases met with
    | none => exact .inr ⟨_, stored content rest, rfl⟩
    | fails e => exact .inl ⟨e, _, rfl, .inl rfl⟩
    | cuts e left => exact .inl ⟨e, _, rfl, .inr ⟨left, by rw [stored left rest]⟩⟩

/-- No file can be written where a directory is. -/
theorem write_over {base : List String} {name : String} {loc : Location} (content : Content)
    {d : Disk} (plain : Plain name) (legal_ : legal (base ++ [name]) = true)
    (walked : d.tree.walk [] base = some loc) (isDir : d.tree.node (loc ++ [name]) = some .dir) :
    ∃ e d', write (base ++ [name]) content d = (.error e, d') ∧ d'.tree = d.tree := by
  rw [write_at content plain legal_ walked]
  have same := d.next_tree
  have stuck : ∀ (after : Disk) node, after.tree = d.tree →
      after.store loc name node = (.error "Not a directory", after) := by
    intro after node equal
    rw [Disk.store, dif_neg]
    rintro ⟨_, free⟩
    exact free (equal ▸ isDir)
  split
  · rename_i after met
    rw [met] at same
    exact ⟨_, _, stuck after _ same, same⟩
  · rename_i met
    rw [met] at same
    exact ⟨_, _, rfl, same⟩
  · rename_i after met
    rw [met] at same
    exact ⟨_, _, rfl, by rw [stuck after _ same]; exact same⟩

/-- A file is copied to another place. -/
theorem copy_cases {src base : List String} {name : String} {place loc : Location}
    {content : Content} {d : Disk} (held : d.tree.node place = some (.file content))
    (source : d.tree.walk [] src = some place) (plain : Plain name)
    (legal_ : legal (base ++ [name]) = true) (walked : d.tree.walk [] base = some loc)
    (parent : d.tree.node loc = some .dir) (free : d.tree.node (loc ++ [name]) ≠ some .dir)
    (other : place ≠ loc ++ [name]) :
    (∃ e d', copy src (base ++ [name]) d = (.error e, d') ∧
      (d'.tree = d.tree ∨ ∃ left, d'.tree = d.tree.put loc name (.file left) parent free)) ∨
    ∃ d', copy src (base ++ [name]) d = (.ok (), d') ∧
      d'.tree = d.tree.put loc name (.file content) parent free := by
  have kept := read_tree src d
  cases ran : read src d with
  | mk result d₁ =>
    rw [ran] at kept
    obtain ⟨same, holds⟩ := kept
    dsimp only at same
    cases result with
    | error e => exact .inl ⟨e, d₁, bind_error ran, .inl same⟩
    | ok found =>
      have is := holds found d₁ rfl
      rw [Holds, lookup, source, Option.bind_some, held] at is
      obtain rfl : content = found := by simpa using is
      obtain ⟨tree, trouble⟩ := d₁
      obtain rfl : tree = d.tree := same
      have unlike : decide (d.tree.walk [] src = d.tree.walk [] (base ++ [name])) = false := by
        rw [source, walk_down walked parent plain]
        exact decide_eq_false fun equal => other (Option.some.inj equal)
      have copied : copy src (base ++ [name]) d =
          write (base ++ [name]) content ⟨d.tree, trouble⟩ := by
        show (read src >>= _) d = _
        rw [bind_of_ok ran]
        show write _ (if decide (d.tree.walk [] src = d.tree.walk [] (base ++ [name])) =
          true then _ else _) _ = _
        rw [unlike]
        rfl
      rw [copied]
      exact write_cases (d := ⟨d.tree, trouble⟩) content plain legal_ walked parent free

theorem write_free {base : List String} {name : String} {loc : Location} {tree : FileTree}
    (content : Content) (plain : Plain name) (legal_ : legal (base ++ [name]) = true)
    (walked : tree.walk [] base = some loc) (parent : tree.node loc = some .dir)
    (free : tree.node (loc ++ [name]) ≠ some .dir) :
    write (base ++ [name]) content ⟨tree, []⟩ =
      (.ok (), ⟨tree.put loc name (.file content) parent free, []⟩) := by
  rw [write_at content plain legal_ walked]
  exact dif_pos ⟨parent, free⟩

theorem read_free {path : List String} {tree : FileTree} {content : Content}
    (legal_ : legal path = true) (held : tree.Holds path content) :
    read path ⟨tree, []⟩ = (.ok content, ⟨tree, []⟩) := by
  unfold read
  rw [legal_, held]
  rfl

theorem readToString_free {path : List String} {tree : FileTree} {text : String}
    (legal_ : legal path = true) (held : tree.Holds path (.text text)) :
    readToString path ⟨tree, []⟩ = (.ok text, ⟨tree, []⟩) :=
  bind_of_ok (read_free legal_ held)

theorem readDir_free [ReadDir] {path : List String} {tree : FileTree} {loc : Location}
    (legal_ : legal path = true) (walked : tree.walk [] path = some loc)
    (isDir : tree.node loc = some .dir) :
    readDir path ⟨tree, []⟩ = (.ok (ReadDir.entries tree loc), ⟨tree, []⟩) := by
  unfold readDir
  rw [legal_, walked]
  dsimp only
  rw [isDir]
  rfl

theorem bind_fails {ε α β : Type} {m : DiskM ε α} {f : α → DiskM ε β} {d : Disk} {e : ε}
    (failed : (m d).1 = .error e) :
    ((m >>= f) d).1 = .error e := by
  cases ran : m d with
  | mk result d' =>
    rw [ran] at failed
    subst failed
    rw [bind_error ran]

/-- A list is given up for the reason that is the only one for its items, or what holds at each item
holds in the end. -/
theorem each_goes {ε β : Type} {items : List β} {f : β → DiskM ε Unit} {P : Disk → Prop} {e : ε}
    (one : ∀ item ∈ items, ∀ d, P d → (f item d).1 = .error e ∨ ∃ d', f item d = (.ok (), d') ∧
    P d') {d : Disk}
    (start : P d) : (DiskM.each items f d).1 = .error e ∨
    ∃ d', DiskM.each items f d = (.ok (), d') ∧ P d' := by
  induction items generalizing d with
  | nil => exact .inr ⟨d, rfl, start⟩
  | cons item items ih =>
    show ((f item >>= fun _ => DiskM.each items f) d).1 = _ ∨ ∃ d',
      (f item >>= fun _ => DiskM.each items f) d = _ ∧ _
    rcases one item List.mem_cons_self d start with failed | ⟨d', ran, held⟩
    · exact .inl (bind_fails failed)
    · rw [bind_of_ok ran]
      exact ih (fun other inside => one other (List.mem_cons_of_mem _ inside)) held

/-- One item at which a list is given up for a reason that is the only one for its other items. -/
theorem each_stops {ε β : Type} {items : List β} {f : β → DiskM ε Unit} {P : Disk → Prop} {e : ε}
    {last : β} (one : ∀ item ∈ items, ∀ d, P d → (f item d).1 = .error e ∨
    ∃ d', f item d = (.ok (), d') ∧ P d')
    (stops : ∀ d, P d → (f last d).1 = .error e) (member : last ∈ items) {d : Disk} (start : P d) :
    (DiskM.each items f d).1 = .error e := by
  induction items generalizing d with
  | nil => cases member
  | cons item items ih =>
    show ((f item >>= fun _ => DiskM.each items f) d).1 = _
    rcases List.mem_cons.mp member with rfl | later
    · exact bind_fails (stops d start)
    · rcases one item List.mem_cons_self d start with failed | ⟨d', ran, held⟩
      · exact bind_fails failed
      · rw [bind_of_ok ran]
        exact ih (fun other inside => one other (List.mem_cons_of_mem _ inside)) later held

/-- What holds at each item of a list without repetitions, up to the first error, and of all items
in the end. -/
theorem each_over {ε β : Type} {items : List β} {f : β → DiskM ε Unit} {P : List β → Disk → Prop}
    {Q : Except ε Unit × Disk → Prop} (nodup : items.Nodup)
    (rest : ∀ done d, P done d → Q (.ok (), d))
    (one : ∀ done item d, P done d → item ∉ done → item ∈ items →
      Q (f item d) ∧ ∀ d', f item d = (.ok (), d') → P (item :: done) d')
    {d : Disk} (start : P [] d) :
    Q (DiskM.each items f d) ∧
      ∀ d', DiskM.each items f d = (.ok (), d') →
        ∃ done, P done d' ∧ ∀ item, item ∈ done ↔ item ∈ items := by
  have onward : ∀ (todo done : List β) (d : Disk), todo.Nodup →
      (∀ item ∈ todo, item ∉ done ∧ item ∈ items) →
      P done d → Q (DiskM.each todo f d) ∧ ∀ d', DiskM.each todo f d = (.ok (), d') →
        ∃ done', P done' d' ∧ ∀ item, item ∈ done' ↔ item ∈ done ∨ item ∈ todo := by
    intro todo
    induction todo with
    | nil =>
      intro done d _ _ held
      refine ⟨rest done d held, fun d' ran => ?_⟩
      obtain ⟨_, rfl⟩ := DiskM.pure_ok ran
      exact ⟨done, held, fun item => by simp⟩
    | cons item todo ih =>
      intro done d distinct fresh held
      obtain ⟨new, distinct⟩ := List.nodup_cons.mp distinct
      obtain ⟨absent, listed⟩ := fresh item List.mem_cons_self
      obtain ⟨here, next⟩ := one done item d held absent listed
      show Q ((f item >>= fun _ => DiskM.each todo f) d) ∧
        ∀ d', (f item >>= fun _ => DiskM.each todo f) d = (.ok (), d') → _
      cases ran : f item d with
      | mk result middle =>
        cases result with
        | error e =>
          rw [bind_error ran]
          refine ⟨ran ▸ here, fun d' ended => ?_⟩
          cases ended
        | ok _ =>
          rw [bind_of_ok ran]
          obtain ⟨all, ends⟩ := ih (item :: done) middle distinct (fun other member => by
            obtain ⟨unseen, known⟩ := fresh other (List.mem_cons_of_mem _ member)
            refine ⟨fun seen => ?_, known⟩
            rcases List.mem_cons.mp seen with rfl | before
            · exact new member
            · exact unseen before) (next middle ran)
          refine ⟨all, fun d' ended => ?_⟩
          obtain ⟨done', held', members⟩ := ends d' ended
          exact ⟨done', held', fun other => by rw [members, List.mem_cons, List.mem_cons]; tauto⟩
  obtain ⟨all, ends⟩ := onward items [] d nodup (fun item member => ⟨List.not_mem_nil, member⟩) start
  refine ⟨all, fun d' ran => ?_⟩
  obtain ⟨done, held, members⟩ := ends d' ran
  exact ⟨done, held, fun item => by simp [members]⟩

/-! ### Directories that are made in part -/

/-- What has been made when trouble comes is part of what is made without trouble. -/
theorem createDirs_part {loc : Location} {tree : FileTree} (isDir : tree.node loc = some .dir)
    (path : List String) (trouble : List Trouble) (other : Location) :
    (createDirs loc path ⟨tree, trouble⟩).2.tree.node other = tree.node other ∨
      (createDirs loc path ⟨tree, trouble⟩).2.tree.node other =
        (createDirs loc path ⟨tree, []⟩).2.tree.node other := by
  induction path generalizing loc tree trouble with
  | nil => exact .inl rfl
  | cons name path ih =>
    rw [createDirs_cons, createDirs_cons]
    dsimp only
    split
    · rename_i dots
      exact ih (isDir_iff.mp (isDir_dots (isDir_iff.mpr isDir) dots)) trouble
    · split
      · exact ih ‹_› trouble
      · exact .inl rfl
      · rename_i absent
        have free : tree.node (loc ++ [name]) ≠ some .dir := by
          rw [absent]
          intro same
          cases same
        have made : mkdir loc name ⟨tree, []⟩ = (.ok (), ⟨tree.put loc name .dir isDir free, []⟩) :=
          dif_pos ⟨isDir, free⟩
        rw [bind_of_ok made]
        rcases mkdir_cases (d := ⟨tree, trouble⟩) isDir free with
          ⟨e, d', ran, same⟩ | ⟨⟨tree', trouble'⟩, ran, put⟩
        · rw [bind_error ran]
          exact .inl (by rw [same])
        · rw [bind_of_ok ran]
          obtain rfl : tree' = tree.put loc name .dir isDir free := put
          have deeper : (tree.put loc name .dir isDir free).node (loc ++ [name]) = some .dir :=
            if_pos rfl
          rcases ih deeper trouble' with same | same
          · by_cases here : other = loc ++ [name]
            · -- the new directory stays
              have new : (tree.put loc name .dir isDir free).node other = some .dir := if_pos here
              have adds := (createDirs_tree (loc ++ [name]) path ⟨tree.put loc name .dir isDir free, []⟩
                (isDir_iff.mpr deeper)).1
              exact .inr (by rw [same, new, isDir_iff.mp (adds.grows other (isDir_iff.mpr new))])
            · exact .inl (by rw [same, node_put, if_neg here])
          · exact .inr same

theorem createDirAll_part (path : List String) (tree : FileTree) (trouble : List Trouble)
    (other : Location) :
    (createDirAll path ⟨tree, trouble⟩).2.tree.node other = tree.node other ∨
      (createDirAll path ⟨tree, trouble⟩).2.tree.node other =
        (createDirAll path ⟨tree, []⟩).2.tree.node other := by
  rw [createDirAll]
  split
  · exact createDirs_part tree.root path trouble other
  · exact .inl rfl

end GrokingClawId
