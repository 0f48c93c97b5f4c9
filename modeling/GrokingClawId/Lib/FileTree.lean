import Mathlib.Data.List.DropRight
import Mathlib.Data.List.Induction
import GrokingClawId.Lib.Text

/-!
# File trees

A tree of directories and files, without links, and the resolution of paths in it. A path is a list
of components, in which `..` leads to the directory above and `.` to the directory itself.
-/

namespace GrokingClawId

/-- The names from the root down. -/
abbrev Location := List String

inductive Content where
  | text (s : String)
  | binary (bytes : List UInt8)
  deriving DecidableEq

inductive Node where
  | dir
  | file (content : Content)
  deriving DecidableEq

/-- Whatever exists lies in a directory. -/
structure FileTree where
  node : Location → Option Node
  root : node [] = some .dir
  parents : ∀ loc name, node (loc ++ [name]) ≠ none → node loc = some .dir

namespace FileTree

def isDir (tree : FileTree) (loc : Location) : Bool := tree.node loc = some .dir

theorem isDir_iff {tree : FileTree} {loc : Location} :
    tree.isDir loc = true ↔ tree.node loc = some .dir :=
  decide_eq_true_iff

/-- Everything above an existing location is a directory. -/
theorem above {tree : FileTree} {loc below : Location} (present : tree.node (loc ++ below) ≠ none)
    (proper : below ≠ []) : tree.node loc = some .dir := by
  induction below using List.reverseRecOn with
  | nil => exact absurd rfl proper
  | append_singleton below name ih =>
    rw [← List.append_assoc] at present
    have parent := tree.parents _ _ present
    cases below with
    | nil =>
      rw [List.append_nil] at parent
      exact parent
    | cons first below =>
      refine ih ?_ (List.cons_ne_nil _ _)
      rw [parent]
      exact Option.some_ne_none _

/-- A new node, or a file in the place of another. -/
def put (tree : FileTree) (loc : Location) (name : String) (node : Node)
    (parent : tree.node loc = some .dir) (free : tree.node (loc ++ [name]) ≠ some .dir) :
    FileTree where
  node other := if other = loc ++ [name] then some node else tree.node other
  root := by
    rw [if_neg (by simp)]
    exact tree.root
  parents other below present := by
    by_cases same : other ++ [below] = loc ++ [name]
    · obtain ⟨rfl, _⟩ := List.append_inj' same rfl
      rw [if_neg (fun equal => by simpa using congrArg List.length equal)]
      exact parent
    · rw [if_neg same] at present
      have above := tree.parents other below present
      rw [if_neg]
      · exact above
      · rintro rfl
        exact free above

theorem node_put (tree : FileTree) (loc : Location) (name : String) (node : Node)
    (parent : tree.node loc = some .dir) (free : tree.node (loc ++ [name]) ≠ some .dir)
    (other : Location) :
    (tree.put loc name node parent free).node other =
      if other = loc ++ [name] then some node else tree.node other := rfl

/-- What lies strictly below a location goes, but for some locations and what is above them. -/
def clear (tree : FileTree) (loc : Location) (left : List Location) : FileTree where
  node other := if loc <+: other ∧ other ≠ loc ∧ ¬ ∃ kept ∈ left,
    other <+: kept then none else tree.node other
  root := by
    rw [if_neg]
    · exact tree.root
    · rintro ⟨below, different, _⟩
      exact different (List.prefix_nil.mp below).symm
  parents other name present := by
    by_cases gone : loc <+: other ++ [name] ∧ other ++ [name] ≠ loc ∧
        ¬ ∃ kept ∈ left, other ++ [name] <+: kept
    · rw [if_pos gone] at present
      exact absurd rfl present
    · rw [if_neg gone] at present
      rw [if_neg]
      · exact tree.parents other name present
      · rintro ⟨below, different, none⟩
        refine gone ⟨below.trans (List.prefix_append _ _), ?_, ?_⟩
        · rintro rfl
          exact absurd below.length_le (by simp)
        · rintro ⟨kept, member, longer⟩
          exact none ⟨kept, member, (List.prefix_append _ _).trans longer⟩

theorem node_clear (tree : FileTree) (loc : Location) (left : List Location) (other : Location) :
    (tree.clear loc left).node other =
      if loc <+: other ∧ other ≠ loc ∧
      ¬ ∃ kept ∈ left, other <+: kept then none else tree.node other := rfl

/-- A location goes with everything below it. -/
def prune (tree : FileTree) (loc : Location) (proper : loc ≠ []) : FileTree where
  node other := if loc <+: other then none else tree.node other
  root := by
    rw [if_neg]
    · exact tree.root
    · exact fun below => proper (List.prefix_nil.mp below)
  parents other name present := by
    by_cases below : loc <+: other ++ [name]
    · rw [if_pos below] at present
      exact absurd rfl present
    · rw [if_neg below] at present
      rw [if_neg]
      · exact tree.parents other name present
      · exact fun above => below (above.trans (List.prefix_append _ _))

theorem node_prune (tree : FileTree) (loc : Location) (proper : loc ≠ []) (other : Location) :
    (tree.prune loc proper).node other = if loc <+: other then none else tree.node other := rfl

/-! ### Paths -/

def descend (loc : Location) (name : String) : Location :=
  if name = ".." then loc.dropLast else if name = "." then loc else loc ++ [name]

/-- The location a path leads to from a directory; the last component may not exist. -/
def walk (tree : FileTree) : Location → List String → Option Location
  | loc, [] => some loc
  | loc, name :: rest => if tree.isDir loc then tree.walk (descend loc name) rest else none

theorem walk_append (tree : FileTree) (loc : Location) (first rest : List String) :
    tree.walk loc (first ++ rest) = (tree.walk loc first).bind fun loc => tree.walk loc rest := by
  induction first generalizing loc with
  | nil => rfl
  | cons name first ih =>
    simp only [List.cons_append, walk]
    split
    · exact ih _
    · rfl

def lookup (tree : FileTree) (path : List String) : Option Node :=
  (tree.walk [] path).bind tree.node

/-- No name contains a zero character. -/
def legal (path : List String) : Bool := path.all fun name => !name.toList.contains '\x00'

def «exists» (tree : FileTree) (path : List String) : Bool :=
  legal path && (tree.lookup path).isSome

theorem exists_iff {tree : FileTree} {path : List String} : tree.exists path = true ↔
    legal path = true ∧ ∃ loc, tree.walk [] path = some loc ∧ tree.node loc ≠ none := by
  rw [FileTree.exists, Bool.and_eq_true, lookup, Option.isSome_iff_ne_none, Ne,
    Option.bind_eq_none_iff]
  simp

/-- A name that leads down. -/
def Plain (name : String) : Prop := name ≠ ".." ∧ name ≠ "."

theorem descend_plain {loc : Location} {name : String} (plain : Plain name) :
    descend loc name = loc ++ [name] := by
  rw [descend, if_neg plain.1, if_neg plain.2]

/-- The dots lead from a directory to a directory. -/
theorem isDir_dots {tree : FileTree} {loc : Location} {name : String} (dir : tree.isDir loc = true)
    (dots : name = ".." ∨ name = ".") : tree.isDir (descend loc name) = true := by
  rw [isDir_iff] at dir ⊢
  unfold descend
  split
  · rcases List.eq_nil_or_concat loc with rfl | ⟨above, last, rfl⟩
    · exact dir
    · rw [List.concat_eq_append] at dir ⊢
      rw [List.dropLast_concat]
      exact tree.parents above last (by rw [dir]; exact Option.some_ne_none _)
  · rw [if_pos (dots.resolve_left ‹_›)]
    exact dir

/-- Where a path leads in any tree in which it leads somewhere. -/
def target (path : List String) : Location := path.foldl descend []

theorem foldl_descend_plain {names : List String} (plain : ∀ name ∈ names, Plain name)
    (loc : Location) : names.foldl descend loc = loc ++ names := by
  induction names generalizing loc with
  | nil => exact (List.append_nil loc).symm
  | cons name names ih =>
    have rest : ∀ other ∈ names, Plain other :=
      fun other member => plain other (List.mem_cons_of_mem _ member)
    rw [List.foldl_cons, descend_plain (plain name List.mem_cons_self), ih rest, List.append_assoc,
      List.singleton_append]

theorem target_append_plain (path : List String) {names : List String}
    (plain : ∀ name ∈ names, Plain name) : target (path ++ names) = target path ++ names := by
  rw [target, List.foldl_append, foldl_descend_plain plain]
  rfl

theorem walk_foldl {tree : FileTree} {loc found : Location} {path : List String}
    (walked : tree.walk loc path = some found) : found = path.foldl descend loc := by
  induction path generalizing loc with
  | nil => exact (Option.some.inj walked).symm
  | cons name path ih =>
    unfold walk at walked
    split at walked
    · exact ih walked
    · cases walked

theorem walk_target {tree : FileTree} {found : Location} {path : List String}
    (walked : tree.walk [] path = some found) : found = target path := walk_foldl walked

theorem walk_plain {tree : FileTree} {loc found : Location} {names : List String}
    (plain : ∀ name ∈ names, Plain name) (walked : tree.walk loc names = some found) :
    found = loc ++ names :=
  (walk_foldl walked).trans (foldl_descend_plain plain loc)

/-- Two paths with the same names at the end that lead to the same place lead there through the same
directory. -/
theorem walk_front {tree : FileTree} {path path' names : List String} {found : Location}
    (plain : ∀ name ∈ names, Plain name) (walked : tree.walk [] (path ++ names) = some found)
    (walked' : tree.walk [] (path' ++ names) = some found) :
    tree.walk [] path = tree.walk [] path' := by
  rw [walk_append] at walked walked'
  obtain ⟨loc, front, below⟩ := Option.bind_eq_some_iff.mp walked
  obtain ⟨loc', front', below'⟩ := Option.bind_eq_some_iff.mp walked'
  have same : loc ++ names = loc' ++ names :=
    (walk_plain plain below).symm.trans (walk_plain plain below')
  rw [front, front', List.append_cancel_right same]

/-- Every directory of the first tree is one of the second. -/
def Grows (tree tree' : FileTree) : Prop := ∀ loc, tree.isDir loc = true → tree'.isDir loc = true

/-- A path leads to the same place when directories are added. -/
theorem Grows.walk {tree tree' : FileTree} (grows : tree.Grows tree') {loc found : Location}
    {path : List String} (walked : tree.walk loc path = some found) :
    tree'.walk loc path = some found := by
  induction path generalizing loc with
  | nil => exact walked
  | cons name path ih =>
    unfold FileTree.walk at walked ⊢
    split at walked
    · rename_i dir
      rw [if_pos (grows loc dir)]
      exact ih walked
    · cases walked

/-- Directories appear where there was nothing. -/
def AddsDirs (tree tree' : FileTree) : Prop :=
  ∀ loc, tree'.node loc = tree.node loc ∨ (tree.node loc = none ∧ tree'.node loc = some .dir)

theorem AddsDirs.refl (tree : FileTree) : tree.AddsDirs tree := fun _ => .inl rfl

theorem AddsDirs.trans {tree middle tree' : FileTree} (first : tree.AddsDirs middle)
    (second : middle.AddsDirs tree') :
    tree.AddsDirs tree' := by
  intro loc
  rcases first loc with same | ⟨missing, made⟩
  · rw [← same]
    exact second loc
  · rcases second loc with same | ⟨absent, _⟩
    · exact .inr ⟨missing, same.trans made⟩
    · rw [absent] at made
      cases made

theorem AddsDirs.grows {tree tree' : FileTree} (adds : tree.AddsDirs tree') : tree.Grows tree' := by
  intro loc dir
  rw [isDir_iff] at dir ⊢
  rcases adds loc with same | ⟨_, made⟩
  · rw [same, dir]
  · exact made

theorem AddsDirs.file {tree tree' : FileTree} (adds : tree.AddsDirs tree') (loc : Location)
    (content : Content) :
    tree'.node loc = some (.file content) ↔ tree.node loc = some (.file content) := by
  rcases adds loc with same | ⟨missing, made⟩
  · rw [same]
  · rw [missing, made]
    simp

theorem addsDirs_put {tree : FileTree} {loc : Location} {name : String}
    (parent : tree.node loc = some .dir) (absent : tree.node (loc ++ [name]) = none)
    (free : tree.node (loc ++ [name]) ≠ some .dir) :
    tree.AddsDirs (tree.put loc name .dir parent free) := by
  intro other
  rw [node_put]
  split
  · rename_i same
    rw [same]
    exact .inr ⟨absent, rfl⟩
  · exact .inl rfl

/-- The directories are those of the other tree. -/
def SameDirs (tree tree' : FileTree) : Prop := ∀ loc, tree'.isDir loc = tree.isDir loc

theorem SameDirs.walk {tree tree' : FileTree} (same : tree.SameDirs tree') (loc : Location)
    (path : List String) :
    tree'.walk loc path = tree.walk loc path := by
  induction path generalizing loc with
  | nil => rfl
  | cons name path ih =>
    unfold FileTree.walk
    rw [same loc, ih]

theorem sameDirs_put_file {tree : FileTree} {loc : Location} {name : String} {content : Content}
    (parent : tree.node loc = some .dir) (free : tree.node (loc ++ [name]) ≠ some .dir) :
    tree.SameDirs (tree.put loc name (.file content) parent free) := by
  intro other
  rw [Bool.eq_iff_iff, isDir_iff, isDir_iff, node_put]
  split
  · rename_i same
    rw [same]
    simp [free]
  · exact Iff.rfl

/-- The path leads to a file with the content. -/
def Holds (tree : FileTree) (path : List String) (content : Content) : Prop :=
  tree.lookup path = some (.file content)

theorem holds_text {tree : FileTree} {path : List String} {s t : String}
    (first : tree.Holds path (.text s)) (second : tree.Holds path (.text t)) : s = t := by
  simpa using first.symm.trans second

theorem AddsDirs.holds {tree tree' : FileTree} (adds : tree.AddsDirs tree') {path : List String}
    {content : Content} (held : tree.Holds path content) : tree'.Holds path content := by
  obtain ⟨loc, walked, file⟩ := Option.bind_eq_some_iff.mp held
  rw [Holds, lookup, adds.grows.walk walked]
  exact (adds.file loc content).mpr file

end FileTree

/-! ### Path texts -/

namespace Path

/-- The names between the separators. -/
def segments (text : String) : List String :=
  ((text.toList.splitOn '/').map String.ofList).filter (· ≠ "")

/-- A separator at the end asks for a directory. -/
def components (text : String) : List String :=
  segments text ++ if text.toList.getLast? = some '/' then ["."] else []

/-- A path that begins with a separator replaces the one it is joined to. -/
def join (base : List String) (text : String) : List String :=
  if text.toList.head? = some '/' then components text else base ++ components text

/-- What `Path::parent` gives, without the dots at the end. -/
def parent (path : List String) : List String := (path.rdropWhile (· = ".")).dropLast

def display (path : List String) : String := "/" ++ "/".intercalate path

/-- Not empty, without separators, and neither `.` nor `..`. -/
def Ordinary (name : String) : Prop := name ≠ "" ∧ '/' ∉ name.toList ∧ FileTree.Plain name

theorem segments_ordinary {name : String} (ordinary : Ordinary name) : segments name = [name] := by
  have whole : name.toList.splitOn '/' = [name.toList] :=
    List.splitOn_eq_singleton_of_beq_eq_false fun c member =>
      beq_eq_false_iff_ne.mpr fun same => ordinary.2.1 (same ▸ member)
  rw [segments, whole, List.map_singleton, String.ofList_toList, List.filter_cons_of_pos,
    List.filter_nil]
  exact decide_eq_true ordinary.1

theorem join_ordinary (base : List String) {name : String} (ordinary : Ordinary name) :
    join base name = base ++ [name] := by
  have unled : name.toList.head? ≠ some '/' := fun led => ordinary.2.1 (List.mem_of_head? led)
  have unended : name.toList.getLast? ≠ some '/' :=
    fun ended => ordinary.2.1 (List.mem_of_getLast? ended)
  rw [join, if_neg unled, components, if_neg unended, segments_ordinary ordinary, List.append_nil]

theorem mem_segments {text name : String} (member : name ∈ segments text) :
    name ≠ "" ∧ '/' ∉ name.toList := by
  obtain ⟨piece, nonempty⟩ := List.mem_filter.mp member
  obtain ⟨part, inside, rfl⟩ := List.mem_map.mp piece
  refine ⟨of_decide_eq_true nonempty, fun separator => ?_⟩
  rw [String.toList_ofList] at separator
  have plain := (Text.splitOnP_plain part inside '/' separator).1
  simp at plain

theorem join_single_iff (base : List String) (name : String) :
    join base name = base ++ [name] ∧ FileTree.Plain name ↔ Ordinary name := by
  constructor
  · rintro ⟨joined, plain⟩
    have listed : name ∈ components name := by
      rw [join] at joined
      split at joined
      · rw [joined]
        exact List.mem_append_right _ (List.mem_singleton_self name)
      · rw [List.append_cancel_left joined]
        exact List.mem_singleton_self name
    have segment : name ∈ segments name := by
      rcases List.mem_append.mp listed with segment | dot
      · exact segment
      · split at dot
        · exact absurd (List.mem_singleton.mp dot) plain.2
        · cases dot
    obtain ⟨nonempty, free⟩ := mem_segments segment
    exact ⟨nonempty, free, plain⟩
  · exact fun ordinary => ⟨join_ordinary base ordinary, ordinary.2.2⟩

end Path
end GrokingClawId
