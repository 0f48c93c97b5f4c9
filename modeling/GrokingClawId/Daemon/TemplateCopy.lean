import GrokingClawId.Daemon.TemplateStore

/-!
# Templates from directories

The copy of a directory to a place outside it ends and is exact. A copy to a place inside the
directory never ends, since it keeps finding the directories that it has just made.
-/

namespace GrokingClawId.Daemon
open GrokingClawId.Core FileTree DiskM

/-! ### A copy to a place outside -/

/-- Neither of two places lies below the other. -/
def Aside (a b : Location) : Prop := ¬ a <+: b ∧ ¬ b <+: a

theorem Aside.below {a b : Location} (aside : Aside a b) (rel : Location) : ¬ b <+: a ++ rel := by
  intro below
  rcases List.prefix_or_prefix_of_prefix below (List.prefix_append a rel) with up | down
  · exact aside.2 up
  · exact aside.1 down

theorem Aside.down {a b : Location} (aside : Aside a b) (name : String) :
    Aside (a ++ [name]) (b ++ [name]) := by
  refine ⟨fun below => ?_, aside.below [name] ∘ (List.prefix_append b [name]).trans⟩
  rcases List.prefix_or_prefix_of_prefix ((List.prefix_append a [name]).trans below)
    (List.prefix_append b [name])
    with up | down
  · exact aside.1 up
  · exact aside.2 down

/-- A directory to copy from. -/
structure Source (tree : FileTree) (src : List String) (a : Location) : Prop where
  legal : legal src = true
  walked : tree.walk [] src = some a
  isDir : tree.node a = some .dir

/-- The place to copy to can be made as an empty directory, and nothing else changes. -/
structure Opens (dst : List String) (b : Location) (d : Disk) : Prop where
  legal : legal dst = true
  outside : SameOutside b d.tree (createDirAll dst d).2.tree
  regular : (createDirAll dst d).2.tree.Regular
  made : ∀ d', createDirAll dst d = (.ok (), d') → d'.tree.walk [] dst = some b ∧ d'.tree.node b = some .dir ∧
    ∀ rel, rel ≠ [] → d'.tree.node (b ++ rel) = none

theorem opens_down {path : List String} {loc : Location} {name : String} {d : Disk}
    (regular : d.tree.Regular) (legal_ : FileTree.legal (path ++ [name]) = true)
    (walked : d.tree.walk [] path = some loc) (isDir : d.tree.node loc = some .dir)
    (plain : Plain name) (absent : d.tree.node (loc ++ [name]) = none) :
    Opens (path ++ [name]) (loc ++ [name]) d := by
  have free : d.tree.node (loc ++ [name]) ≠ some .dir := by
    rw [absent]
    intro same
    cases same
  have single : FileTree.legal [name] = true := by
    rw [legal_append, Bool.and_eq_true] at legal_
    exact legal_.2
  have making : createDirAll (path ++ [name]) d = mkdir loc name d := by
    rw [createDirAll_down legal_ walked isDir plain, absent]
  rcases mkdir_cases isDir free with ⟨e, d', ran, same⟩ | ⟨d', ran, put⟩
  · refine ⟨legal_, ?_, ?_, fun d'' ended => ?_⟩
    · rw [making, ran, same]
      exact SameOutside.refl _ _
    · rw [making, ran, same]
      exact regular
    · rw [making, ran] at ended
      cases ended
  · refine ⟨legal_, ?_, ?_, fun d'' ended => ?_⟩
    · rw [making, ran, put]
      exact sameOutside_put _ _ _ _ isDir free
    · rw [making, ran, put]
      exact regular.put isDir free plain single
    · rw [making, ran] at ended
      obtain ⟨_, rfl⟩ := Prod.mk.inj ended
      have adds := addsDirs_put isDir absent free
      rw [put]
      refine ⟨walk_down (adds.grows.walk walked) (isDir_iff.mp (adds.grows loc (isDir_iff.mpr isDir))) plain,
        if_pos rfl, fun rel proper => ?_⟩
      rw [node_put, if_neg (by simpa using proper)]
      exact absent_below free proper

theorem opens_there {path : List String} {loc : Location} {d : Disk} (regular : d.tree.Regular)
    (legal_ : FileTree.legal path = true) (walked : d.tree.walk [] path = some loc)
    (isDir : d.tree.node loc = some .dir)
    (empty : ∀ rel, rel ≠ [] → d.tree.node (loc ++ rel) = none) :
    Opens path loc d := by
  have making := createDirAll_there legal_ walked isDir
  refine ⟨legal_, ?_, ?_, fun d' ran => ?_⟩
  · rw [making]
    exact SameOutside.refl _ _
  · rw [making]
    exact regular
  · rw [making] at ran
    obtain ⟨_, rfl⟩ := Prod.mk.inj ran
    exact ⟨walked, isDir, empty⟩

/-- The copies of the names that are done are exact, and the others are not there yet. -/
structure Partial (before tree : FileTree) (a b : Location) (done : List String) : Prop where
  regular : tree.Regular
  outside : SameOutside b before tree
  isDir : tree.node b = some .dir
  copied : ∀ name rel, tree.node (b ++ name :: rel) =
    if name ∈ done then before.node (a ++ name :: rel) else none

theorem not_prefix_down (b : Location) (name : String) : ¬ b ++ [name] <+: b := by
  intro below
  exact absurd below.length_le (by simp)

theorem not_prefix_other {b : Location} {name other : String} (different : other ≠ name)
    (rel : Location) :
    ¬ b ++ [name] <+: b ++ other :: rel := by
  intro below
  have tail := (List.prefix_append_right_inj b).mp below
  exact different (List.cons_prefix_cons.mp tail).1.symm

section Partial
variable {before tree tree' : FileTree} {a b : Location} {done : List String}

theorem Partial.grows (partially : Partial before tree a b done)
    (empty : ∀ rel, rel ≠ [] → before.node (b ++ rel) = none) : before.Grows tree :=
  partially.outside.grows partially.isDir empty

theorem Partial.more (partially : Partial before tree a b done) {name : String}
    (regular : tree'.Regular) (outside : SameOutside (b ++ [name]) tree tree')
    (exact_ : ∀ rel, tree'.node (b ++ name :: rel) = before.node (a ++ name :: rel)) :
    Partial before tree' a b (name :: done) where
  regular := regular
  outside := partially.outside.trans (outside.above (List.prefix_append b [name]))
  isDir := (outside b (not_prefix_down b name)).trans partially.isDir
  copied other rel := by
    by_cases same : other = name
    · rw [same, exact_, if_pos List.mem_cons_self]
    · rw [outside _ (not_prefix_other same rel), partially.copied]
      simp [same]

end Partial

/-- How a copy ends. -/
structure CopyEnds (before : FileTree) (b : Location) (r : Except Stop Unit × Disk) : Prop where
  ends : r.1 ≠ .error .deeper
  outside : SameOutside b before r.2.tree
  regular : r.2.tree.Regular

section Copy
variable [ReadDir]

/-- Enough nested calls for what lies below the location. -/
def Fits (frames : Nat) (tree : FileTree) (a : Location) : Prop :=
  ∀ rel, tree.node (a ++ rel) ≠ none → rel.length < frames

/-- A copy with so many nested calls ends and is exact. -/
def Copies (frames : Nat) : Prop :=
  ∀ src dst a b d, Source d.tree src a → Aside a b → d.tree.Regular → Opens dst b d → Fits frames d.tree a →
    CopyEnds d.tree b (copyDirRecursive frames src dst d) ∧
      ∀ d', copyDirRecursive frames src dst d = (.ok (), d') →
      ∀ rel, d'.tree.node (b ++ rel) = d.tree.node (a ++ rel)

/-- An entry of the source that is not copied yet. -/
structure Uncopied (before tree : FileTree) (src dst : List String) (a b : Location)
    (done : List String) (name : String) :
    Prop where
  partially : Partial before tree a b done
  fresh : name ∉ done
  aside : Aside a b
  plain : Plain name
  single : legal [name] = true
  legalFrom : legal (src ++ [name]) = true
  legalTo : legal (dst ++ [name]) = true
  source : tree.walk [] (src ++ [name]) = some (a ++ [name])
  dest : tree.walk [] dst = some b
  same : ∀ rel, tree.node (a ++ rel) = before.node (a ++ rel)
  listed : tree.node (a ++ [name]) ≠ none

section Uncopied
variable {before tree : FileTree} {src dst : List String} {a b : Location} {done : List String}
    {name : String}

omit [ReadDir] in
theorem Partial.entry (partially : Partial before tree a b done) (source : Source before src a)
    (regular : before.Regular) (aside : Aside a b) (legal_ : legal dst = true)
    (dest : before.walk [] dst = some b) (empty : ∀ rel, rel ≠ [] → before.node (b ++ rel) = none)
    (fresh : name ∉ done) (listed : before.node (a ++ [name]) ≠ none) :
    Uncopied before tree src dst a b done name := by
  obtain ⟨plain, single⟩ := regular.names a name listed
  have grows := partially.grows empty
  have same : ∀ rel, tree.node (a ++ rel) = before.node (a ++ rel) :=
    fun rel => partially.outside _ (aside.below rel)
  have isDir : tree.node a = some .dir := by
    have here := same []
    rw [List.append_nil] at here
    rw [here, source.isDir]
  exact { partially, fresh, aside, plain, single, same
          legalFrom := by rw [legal_append, source.legal, single]; rfl
          legalTo := by rw [legal_append, legal_, single]; rfl
          source := walk_down (grows.walk source.walked) isDir plain
          dest := grows.walk dest
          listed := by rw [same]; exact listed }

omit [ReadDir] in
theorem Uncopied.absent (entry : Uncopied before tree src dst a b done name) :
    tree.node (b ++ [name]) = none := by
  rw [entry.partially.copied name [], if_neg entry.fresh]

omit [ReadDir] in
theorem Uncopied.free (entry : Uncopied before tree src dst a b done name) :
    tree.node (b ++ [name]) ≠ some .dir := by
  rw [entry.absent]
  intro same
  cases same

omit [ReadDir] in
theorem Partial.stuck (partially : Partial before tree a b done) {e : String}
    {trouble : List Trouble} :
    CopyEnds before b (.error (.error e), ⟨tree, trouble⟩) :=
  ⟨(fun same => by cases same), partially.outside, partially.regular⟩

theorem Uncopied.directory (entry : Uncopied before tree src dst a b done name) {frames : Nat}
    (copies : Copies frames) (fits : Fits (frames + 1) before a)
    (isDir : tree.node (a ++ [name]) = some .dir) (trouble : List Trouble) :
    CopyEnds before b (copyDirRecursive frames (src ++ [name]) (dst ++ [name]) ⟨tree, trouble⟩) ∧
      ∀ d', copyDirRecursive frames (src ++ [name]) (dst ++ [name]) ⟨tree, trouble⟩ = (.ok (), d') →
        Partial before d'.tree a b (name :: done) := by
  have partially := entry.partially
  have source : Source tree (src ++ [name]) (a ++ [name]) := ⟨entry.legalFrom, entry.source, isDir⟩
  have opens := opens_down (d := ⟨tree, trouble⟩) partially.regular entry.legalTo entry.dest partially.isDir
    entry.plain entry.absent
  have fitsBelow : Fits frames tree (a ++ [name]) := by
    intro rel present
    rw [List.append_assoc, entry.same] at present
    exact Nat.lt_of_succ_lt_succ (fits ([name] ++ rel) present)
  obtain ⟨⟨ends, outside, kept⟩, exact_⟩ :=
    copies _ _ _ _ ⟨tree, trouble⟩ source (entry.aside.down name) partially.regular opens fitsBelow
  refine ⟨⟨ends, partially.outside.trans (outside.above (List.prefix_append b [name])), kept⟩,
    fun d' ended => ?_⟩
  rw [ended] at outside kept
  refine partially.more kept outside fun rel => ?_
  have equal := exact_ d' ended rel
  rw [List.append_assoc, List.append_assoc, entry.same] at equal
  exact equal

omit [ReadDir] in
theorem Uncopied.put (entry : Uncopied before tree src dst a b done name) (content : Content) :
    SameOutside b before (tree.put b name (.file content) entry.partially.isDir entry.free) ∧
      (tree.put b name (.file content) entry.partially.isDir entry.free).Regular := by
  have changed := sameOutside_put tree b name (.file content) entry.partially.isDir entry.free
  exact ⟨entry.partially.outside.trans (changed.above (List.prefix_append b [name])),
    entry.partially.regular.put _ _ entry.plain entry.single⟩

omit [ReadDir] in
theorem Uncopied.file (entry : Uncopied before tree src dst a b done name) {content : Content}
    (held : tree.node (a ++ [name]) = some (.file content)) (trouble : List Trouble) :
    CopyEnds before b ((copy (src ++ [name]) (dst ++ [name])).mapError .error ⟨tree, trouble⟩) ∧
      ∀ d', ((copy (src ++ [name]) (dst ++ [name])).mapError .error ⟨tree, trouble⟩ :
          Except Stop Unit × Disk) = (.ok (), d') →
        Partial before d'.tree a b (name :: done) := by
  have partially := entry.partially
  have other : a ++ [name] ≠ b ++ [name] :=
    fun equal => (entry.aside.down name).1 (equal ▸ List.prefix_refl _)
  rcases copy_cases (d := ⟨tree, trouble⟩) held entry.source entry.plain entry.legalTo entry.dest
    partially.isDir
      entry.free other with
    ⟨e, ⟨tree', rest⟩, failed, unchanged | ⟨left, cut⟩⟩ | ⟨⟨tree', rest⟩, copied, put⟩
  · obtain rfl : tree' = tree := unchanged
    rw [mapError_of_error failed]
    refine ⟨partially.stuck, fun d'' ended => ?_⟩
    cases ended
  · obtain rfl : tree' = _ := cut
    rw [mapError_of_error failed]
    obtain ⟨outside, regular⟩ := entry.put left
    refine ⟨⟨(fun equal => by cases equal), outside, regular⟩, fun d'' ended => ?_⟩
    cases ended
  · obtain rfl : tree' = _ := put
    rw [mapError_of_ok copied]
    obtain ⟨outside, regular⟩ := entry.put content
    refine ⟨⟨(fun equal => by cases equal), outside, regular⟩, fun d'' ended => ?_⟩
    obtain ⟨_, rfl⟩ := Prod.mk.inj ended
    refine partially.more regular (sameOutside_put tree b name _ partially.isDir entry.free) fun rel => ?_
    rw [node_put]
    cases rel with
    | nil => rw [if_pos rfl, ← held, entry.same]
    | cons next rel =>
      rw [if_neg (by simp), partially.copied name, if_neg entry.fresh]
      have none_ := absent_below (by rw [held]; exact fun equal => by cases equal) (List.cons_ne_nil next rel)
      rw [List.append_assoc, entry.same] at none_
      exact none_.symm

theorem Uncopied.copied {frames : Nat} (copies : Copies frames) (fits : Fits (frames + 1) before a)
    {d : Disk} (entry : Uncopied before d.tree src dst a b done name) :
    CopyEnds before b (copyEntry (copyDirRecursive frames) src dst name d) ∧
      ∀ d', copyEntry (copyDirRecursive frames) src dst name d = (.ok (), d') →
        Partial before d'.tree a b (name :: done) := by
  have met := nextEntry_tree d
  cases next : nextEntry d with
  | mk result d₁ =>
    rw [next] at met
    obtain ⟨tree, trouble⟩ := d₁
    obtain rfl : tree = d.tree := met
    cases result with
    | error e =>
      have ran : copyEntry (copyDirRecursive frames) src dst name d =
          (.error (.error e), ⟨d.tree, trouble⟩) :=
        bind_error (mapError_of_error next)
      rw [ran]
      refine ⟨entry.partially.stuck, fun d' ended => ?_⟩
      cases ended
    | ok _ =>
      have ran : copyEntry (copyDirRecursive frames) src dst name d =
          (if d.tree.isDirAt (src ++ [name]) then copyDirRecursive frames (src ++ [name]) (dst ++ [name])
            else (copy (src ++ [name]) (dst ++ [name])).mapError .error : DiskM Stop Unit)
              ⟨d.tree, trouble⟩ :=
        bind_of_ok (mapError_of_ok next)
      rw [ran]
      have kind := isDirAt_iff entry.legalFrom entry.source
      split
      · exact entry.directory copies fits (kind.mp ‹_›) trouble
      · rename_i notDir
        cases found : d.tree.node (a ++ [name]) with
        | none => exact absurd found entry.listed
        | some node =>
          cases node with
          | dir => exact absurd (kind.mpr found) notDir
          | file content => exact entry.file found trouble

end Uncopied

/-- Enough nested calls make a copy that ends and is exact. -/
theorem copies_all (lawful : ReadDir.Lawful) (frames : Nat) : Copies frames := by
  induction frames with
  | zero =>
    intro src dst a b d source _ _ _ fits
    have here := fits [] (by rw [List.append_nil, source.isDir]; exact Option.some_ne_none _)
    cases here
  | succ frames ih =>
    intro src dst a b d source aside regular opens fits
    have stuck : ∀ {e : String} {d' : Disk}, SameOutside b d.tree d'.tree → d'.tree.Regular →
        CopyEnds d.tree b (.error (.error e), d') := fun outside regular =>
      ⟨(fun same => by cases same), outside, regular⟩
    obtain ⟨legal_, outside, kept, made⟩ := opens
    cases making : createDirAll dst d with
    | mk result d₁ =>
      rw [making] at outside kept
      cases result with
      | error e =>
        have ran : copyDirRecursive (frames + 1) src dst d = (.error (.error e), d₁) :=
          bind_error (mapError_of_error making)
        rw [ran]
        refine ⟨stuck outside kept, fun d' ended => ?_⟩
        cases ended
      | ok _ =>
        obtain ⟨dest, isDir, empty⟩ := made d₁ making
        have grows := (createDirAll_addsDirs dst d).grows
        rw [making] at grows
        have same : ∀ rel, d₁.tree.node (a ++ rel) = d.tree.node (a ++ rel) :=
          fun rel => outside _ (aside.below rel)
        have source₁ : Source d₁.tree src a :=
          ⟨source.legal, grows.walk source.walked, isDir_iff.mp (grows a (isDir_iff.mpr source.isDir))⟩
        have fits₁ : Fits (frames + 1) d₁.tree a := fun rel present => fits rel (same rel ▸ present)
        have ran : copyDirRecursive (frames + 1) src dst d =
            ((readDir src).mapError .error >>= fun names =>
            DiskM.each names (copyEntry (copyDirRecursive frames) src dst)) d₁ :=
          bind_of_ok (mapError_of_ok making)
        rw [ran]
        have still := readDir_tree src d₁
        cases listing : readDir src d₁ with
        | mk result d₂ =>
          rw [listing] at still
          obtain ⟨tree, trouble⟩ := d₂
          obtain rfl : tree = d₁.tree := still
          cases result with
          | error e =>
            rw [bind_error (mapError_of_error listing)]
            refine ⟨stuck outside kept, fun d' ended => ?_⟩
            cases ended
          | ok names =>
            obtain ⟨_, rfl⟩ := readDir_ok source₁.walked listing
            rw [bind_of_ok (mapError_of_ok listing)]
            have start : Partial d₁.tree d₁.tree a b [] :=
              ⟨kept, SameOutside.refl _ _, isDir, fun name rel => empty _ (List.cons_ne_nil _ _)⟩
            obtain ⟨⟨ends, around, regular₂⟩, finish⟩ :=
              each_over (P := fun done d' => Partial d₁.tree d'.tree a b done)
              (Q := CopyEnds d₁.tree b) (d := ⟨d₁.tree, trouble⟩) (lawful.nodup d₁.tree kept a)
              (fun done d' partially => ⟨(fun equal => by cases equal), partially.outside, partially.regular⟩)
              (fun done name d' partially fresh member =>
                (partially.entry source₁ kept aside legal_ dest empty fresh
                ((lawful.mem_iff d₁.tree kept a name).mp member)).copied ih fits₁) start
            refine ⟨⟨ends, outside.trans around, regular₂⟩, fun d' ended rel => ?_⟩
            obtain ⟨done, partially, members⟩ := finish d' ended
            cases rel with
            | nil => rw [List.append_nil, List.append_nil, partially.isDir, source.isDir]
            | cons name rel =>
              rw [partially.copied, same]
              split
              · rfl
              · rename_i unlisted
                rw [members, lawful.mem_iff d₁.tree kept, not_not, same] at unlisted
                cases rel with
                | nil => exact unlisted.symm
                | cons next rel =>
                  have none_ :=
                    absent_below (by rw [unlisted]; exact fun equal => by cases equal)
                    (List.cons_ne_nil next rel)
                  rw [List.append_assoc] at none_
                  exact none_.symm

/-! ### A new template -/

/-- The template holds what the source held before, and a manifest where the source had none. -/
def Copied (tree tree' : FileTree) (source template : List String) : Prop :=
  ∃ s t manifest, tree.walk [] source = some s ∧ tree'.walk [] template = some t ∧ ∀ rel,
    tree'.node (t ++ rel) =
      if rel = ["manifest.toml"] ∧ tree.node (s ++ rel) =
        none then some (.file manifest) else tree.node (s ++ rel)

/-- A new place for the template, with nothing in it once the way to it is made, and none of that
way inside the source. -/
structure Outside (tree : FileTree) (s : Location) (template : List String) : Prop where
  new : tree.node (target template) = none
  empty : ∀ way, way <+: template → tree.node (target way) = none → ∀ rel, rel ≠ [] →
    target way ≠ target template ++ rel
  outside : ∀ way, way <+: template → tree.node (target way) = none → ¬ s <+: target way

/-- A new template whose place, or whose way there, lies in the directory that is to be copied. -/
structure Overlaps (tree : FileTree) (source template : List String) : Prop where
  there : tree.exists source = true
  inside : ∃ s, tree.walk [] source = some s ∧ tree.node s = some .dir ∧ ¬ Outside tree s template
  absent : tree.exists template = false
  makeable : tree.Makeable template

/-- What has been made is not made again. -/
theorem copyDirRecursive_made {dst : List String} {loc : Location} {d d' : Disk}
    (making : createDirAll dst d = (.ok (), d')) (walked : d'.tree.walk [] dst = some loc)
    (isDir : d'.tree.node loc = some .dir) (frames : Nat) (src : List String) :
    copyDirRecursive frames src dst d = copyDirRecursive frames src dst d' ∨ frames = 0 := by
  cases frames with
  | zero => exact .inr rfl
  | succ frames =>
    left
    have again := createDirAll_there (createDirAll_ok making).1 walked isDir
    have first : copyDirRecursive (frames + 1) src dst d = _ := bind_of_ok (mapError_of_ok making)
    have second : copyDirRecursive (frames + 1) src dst d' = _ := bind_of_ok (mapError_of_ok again)
    rw [first, second]

omit [ReadDir] in
/-- The new place is empty once it is made, and the source is as before. -/
theorem Outside.made {d d' : Disk} {s : Location} {template : List String}
    (outside : Outside d.tree s template) (isDir : d.tree.node s = some .dir)
    (making : createDirAll template d = (.ok (), d')) :
    Aside s (target template) ∧ (∀ rel, d'.tree.node (s ++ rel) = d.tree.node (s ++ rel)) ∧
      ∀ rel, rel ≠ [] → d'.tree.node (target template ++ rel) = none := by
  obtain ⟨_, _, _, changes⟩ := createDirAll_made making
  have missing : d.tree.node (target template) ≠ some .dir := by
    rw [outside.new]
    intro same
    cases same
  refine ⟨⟨outside.outside template (List.prefix_refl _) outside.new, ?_⟩, fun rel =>
    ?_, fun rel proper => ?_⟩
  · rintro ⟨rest, rfl⟩
    cases rest with
    | nil =>
      rw [List.append_nil] at isDir
      exact missing isDir
    | cons name rest =>
      rw [absent_below missing (List.cons_ne_nil _ _)] at isDir
      cases isDir
  · rcases changes (s ++ rel) with same | ⟨none_, way, initial, is⟩
    · exact same
    · exact absurd (is ▸ List.prefix_append s rel) (outside.outside way initial (is ▸ none_))
  · rcases changes (target template ++ rel) with same | ⟨none_, way, initial, is⟩
    · rw [same]
      exact absent_below missing proper
    · exact absurd is.symm (outside.empty way initial (is ▸ none_) rel proper)

theorem copyDirRecursive_file {tree : FileTree} {s : Location} {content : Content}
    {source template : List String} (reached : tree.walk [] source = some s)
    (file : tree.node s = some (.file content)) {d d₁ : Disk}
    (making : createDirAll template d = (.ok (), d₁)) (adds : tree.AddsDirs d₁.tree)
    (frames : Nat) :
    ∃ e d₂, copyDirRecursive (frames + 1) source template d = (.error (.error e), d₂) := by
  cases listing : readDir source d₁ with
  | mk result d₂ =>
    cases result with
    | error e =>
      exact ⟨e, d₂, (bind_of_ok (mapError_of_ok making)).trans (bind_error (mapError_of_error listing))⟩
    | ok names =>
      have isDir := (readDir_ok (adds.grows.walk reached) listing).1
      rw [(adds.file s content).mpr file] at isDir
      cases isDir

/-- The copy to a new place outside ends, and leaves there what the source holds. -/
theorem copyDirRecursive_apart (lawful : ReadDir.Lawful) {d : Disk} (regular : d.tree.Regular)
    {source template : List String} (there : d.tree.exists source = true)
    (absent : d.tree.exists template = false) (clear : ¬ Overlaps d.tree source template)
    {depth : Nat} (bound : ∀ loc, d.tree.node loc ≠ none → loc.length < depth) :
    (copyDirRecursive (depth + 1) source template d).1 ≠ .error .deeper ∧
      ∀ d', copyDirRecursive (depth + 1) source template d = (.ok (), d') →
        ∃ s t, d.tree.walk [] source = some s ∧ d.tree.node s = some .dir ∧ legal template = true ∧
          d'.tree.walk [] template = some t ∧
          ∀ rel, d'.tree.node (t ++ rel) = d.tree.node (s ++ rel) := by
  obtain ⟨legalSource, s, reached, present⟩ := exists_iff.mp there
  have stuck : ∀ {e d₁} {P : Disk → Prop}, copyDirRecursive (depth + 1) source template d =
      (.error (.error e), d₁) →
      (copyDirRecursive (depth + 1) source template d).1 ≠ .error .deeper ∧
        ∀ d', copyDirRecursive (depth + 1) source template d = (.ok (), d') → P d' := by
    intro e d₁ P ran
    rw [ran]
    exact ⟨(fun same => by cases same), (fun d' ended => by cases ended)⟩
  cases making : createDirAll template d with
  | mk result d₁ =>
    cases result with
    | error e => exact stuck (bind_error (mapError_of_error making))
    | ok _ =>
      obtain ⟨makeable, walked, isDir, _⟩ := createDirAll_made making
      have regular₁ := createDirAll_regular template d regular
      have adds := createDirAll_addsDirs template d
      rw [making] at regular₁ adds
      cases kind : d.tree.node s with
      | none => exact absurd kind present
      | some node =>
        cases node with
        | file content =>
          obtain ⟨e, d₂, ran⟩ := copyDirRecursive_file reached kind making adds depth
          exact stuck ran
        | dir =>
          have outside : Outside d.tree s template := by
            by_contra inside
            exact clear ⟨there, ⟨s, reached, kind, inside⟩, absent, makeable⟩
          obtain ⟨aside, same, empty⟩ := outside.made kind making
          have source₁ : Source d₁.tree source s :=
            ⟨legalSource, adds.grows.walk reached, isDir_iff.mp (adds.grows s (isDir_iff.mpr kind))⟩
          have fits : Fits (depth + 1) d₁.tree s := by
            intro rel deep
            rw [same] at deep
            have short := bound _ deep
            rw [List.length_append] at short
            omega
          have opens := opens_there regular₁ makeable.1 walked isDir empty
          obtain ⟨⟨ends, changed, _⟩, exact_⟩ :=
            copies_all lawful (depth + 1) _ _ _ _ d₁ source₁ aside regular₁ opens fits
          rw [(copyDirRecursive_made making walked isDir (depth + 1) source).resolve_right
            (Nat.succ_ne_zero depth)]
          refine ⟨ends, fun d' ran => ⟨s, target template, reached, kind, makeable.1, ?_, fun rel => ?_⟩⟩
          · have top := exact_ d' ran []
            rw [List.append_nil, List.append_nil, source₁.isDir] at top
            rw [ran] at changed
            exact (changed.grows top empty).walk walked
          · rw [exact_ d' ran, same]

variable [ManifestFormat]

omit [ReadDir] in
theorem addManifest_copied (name : String) {tree : FileTree} {source dir : List String}
    {s t : Location} {d : Disk} (reached : tree.walk [] source = some s) (legal_ : legal dir = true)
    (walked : d.tree.walk [] dir = some t) (isDir : tree.node s = some .dir)
    (copied : ∀ rel, d.tree.node (t ++ rel) = tree.node (s ++ rel)) :
    ∀ d', addManifest dir name source d = (.ok (), d') → Copied tree d'.tree source dir := by
  intro d' ran
  obtain ⟨there, d₁, asked, added⟩ := DiskM.bind_ok ran
  obtain ⟨rfl, same⟩ := ask_ok asked
  subst d₁
  have plain : Plain "manifest.toml" := by unfold Plain; decide
  have isDir' : d.tree.node t = some .dir := by
    have here := copied []
    rw [List.append_nil, List.append_nil] at here
    rw [here, isDir]
  have legal' : legal (dir ++ ["manifest.toml"]) = true := by rw [legal_append, legal_]; decide
  have place := walk_down walked isDir' plain
  split at added
  · rename_i present
    obtain ⟨_, rfl⟩ := DiskM.pure_ok added
    refine ⟨s, t, .text "", reached, walked, fun rel => ?_⟩
    obtain ⟨_, loc, walked', present⟩ := exists_iff.mp present
    obtain rfl := Option.some.inj (place.symm.trans walked')
    rw [if_neg, copied]
    rintro ⟨rfl, none_⟩
    exact present ((copied _).trans none_)
  · rename_i absent
    obtain ⟨text, d₂, formatted, wrote⟩ := DiskM.bind_ok added
    obtain ⟨_, same⟩ := ofExcept_ok formatted
    subst d₂
    have none_ : d.tree.node (t ++ ["manifest.toml"]) = none := by
      by_contra present
      exact absent (exists_iff.mpr ⟨legal', _, place, present⟩)
    have free : d.tree.node (t ++ ["manifest.toml"]) ≠ some .dir := by
      rw [none_]
      intro same
      cases same
    rcases write_cases (.text text) plain legal' walked isDir' free with
      ⟨e, d₃, failed, _⟩ | ⟨d₃, written, put⟩
    · rw [failed] at wrote
      cases wrote
    · rw [written] at wrote
      obtain ⟨_, rfl⟩ := Prod.mk.inj wrote
      have grows :=
        (sameDirs_put_file isDir' free : d.tree.SameDirs
        (d.tree.put t _ (.file (.text text)) isDir' free)).walk [] dir
      refine ⟨s, t, .text text, reached, by rw [put, grows, walked], fun rel => ?_⟩
      rw [put, node_put]
      by_cases manifest : rel = ["manifest.toml"]
      · subst manifest
        rw [if_pos rfl, if_pos ⟨rfl, (copied _).symm.trans none_⟩]
      · rw [if_neg (fun same => manifest (List.append_cancel_left same)),
          if_neg (fun same => manifest same.1), copied]

/-- The call ends, and a new template is an exact copy. -/
def Finishes (tree : FileTree) (registry : List String) (name : String) (source : List String) :
    Prop :=
  ∀ trouble, ∃ frames, (createFromLocal frames registry name source ⟨tree, trouble⟩).1 ≠ .error .deeper ∧
    ∀ d', createFromLocal frames registry name source ⟨tree, trouble⟩ = (.ok (), d') →
      Copied tree d'.tree source (Path.join registry name)

theorem createFromLocal_run (frames : Nat) (registry : List String) (name : String)
    (source : List String) (d : Disk) :
    createFromLocal frames registry name source d =
      if d.tree.exists source = false then
        (.error (.error s!"Source directory does not exist: {Path.display source}"), d)
      else if d.tree.exists (Path.join registry name) = true then
        (.error (.error s!"Template '{name}' already exists. Remove it first."), d)
      else
        (copyDirRecursive frames source (Path.join registry name) >>= fun _ =>
          (addManifest (Path.join registry name) name source).mapError .error) d := by
  show (if !d.tree.exists source then _ else _ : DiskM Stop Unit) d = _
  cases d.tree.exists source with
  | false => rfl
  | true =>
    show (if d.tree.exists (Path.join registry name) then _ else _ : DiskM Stop Unit) d = _
    cases d.tree.exists (Path.join registry name) with
    | false => rfl
    | true => rfl

theorem finishes_apart (lawful : ReadDir.Lawful) {tree : FileTree} (regular : tree.Regular)
    {registry : List String} {name : String} {source : List String}
    (clear : ¬ Overlaps tree source (Path.join registry name)) :
    Finishes tree registry name source := by
  intro trouble
  obtain ⟨depth, bound⟩ := regular.bounded
  refine ⟨depth + 1, ?_⟩
  rw [createFromLocal_run]
  split
  · exact ⟨(fun same => by cases same), (fun d' ran => by cases ran)⟩
  · rename_i there
    split
    · exact ⟨(fun same => by cases same), (fun d' ran => by cases ran)⟩
    · rename_i absent
      obtain ⟨ends, copied⟩ := copyDirRecursive_apart lawful (d := ⟨tree, trouble⟩) regular
        (Bool.eq_true_of_not_eq_false there) (Bool.eq_false_iff.mpr absent) clear bound
      cases copying : copyDirRecursive (depth + 1) source (Path.join registry name) ⟨tree, trouble⟩ with
      | mk result d₁ =>
        cases result with
        | error stop =>
          rw [copying] at ends
          rw [bind_error copying]
          exact ⟨ends, (fun d' ran => by cases ran)⟩
        | ok _ =>
          rw [bind_of_ok copying]
          obtain ⟨s, t, reached, isDir, legal_, walked, same⟩ := copied d₁ copying
          have manifest := addManifest_copied name reached legal_ walked isDir same
          refine ⟨?_, fun d' ran => manifest d' (mapError_ok ran)⟩
          show ((addManifest _ _ _ d₁).1.mapError Stop.error) ≠ _
          cases (addManifest (Path.join registry name) name source d₁).1 with
          | error e => exact fun same => by cases same
          | ok _ => exact fun same => by cases same

end Copy

end GrokingClawId.Daemon
