import GrokingClawId.Daemon.AgentFiles
import GrokingClawId.Daemon.TemplateCopy

/-!
# Templates inside their source

A directory is copied to a place inside it. The copy comes to the place that it has made, and goes on
below it for ever: the directories that it makes repeat the way from the source to the template.
-/

namespace GrokingClawId.Daemon
open GrokingClawId.Core FileTree DiskM

/-! ### The way that repeats -/

/-- The first names of the way, over and over. -/
def round (way : List String) (k : Nat) : List String :=
  (List.range k).map fun i => way.getD (i % way.length) ""

theorem round_succ (way : List String) (k : Nat) :
    round way (k + 1) = round way k ++ [way.getD (k % way.length) ""] := by
  rw [round, List.range_succ, List.map_append]
  rfl

theorem round_lead {way : List String} {k : Nat} (short : k ≤ way.length) :
    round way k = way.take k := by
  induction k with
  | zero => rfl
  | succ k ih =>
    have inside : k < way.length := short
    have name : way.getD k "" = way[k] := by simp [List.getD, inside]
    rw [round_succ, ih inside.le, Nat.mod_eq_of_lt inside, List.take_add_one,
      List.getElem?_eq_getElem inside, name]
    rfl

theorem round_again (way : List String) (k : Nat) :
    round way (way.length + k) = way ++ round way k := by
  induction k with
  | zero =>
    rw [Nat.add_zero, round_lead le_rfl, List.take_length]
    exact (List.append_nil way).symm
  | succ k ih =>
    rw [← Nat.add_assoc, round_succ, ih, round_succ, Nat.add_mod_left, List.append_assoc]

/-! ### What a copy into itself leaves -/

def isDirectory : Node → Bool
  | .dir => true
  | .file _ => false

/-- Whatever is there stays, of its kind. -/
def Keeps (tree tree' : FileTree) : Prop :=
  ∀ loc node, tree.node loc = some node →
    ∃ node', tree'.node loc = some node' ∧ isDirectory node' = isDirectory node

theorem Keeps.refl (tree : FileTree) : Keeps tree tree := fun _ node there => ⟨node, there, rfl⟩

theorem Keeps.trans {tree middle tree' : FileTree} (first : Keeps tree middle)
    (second : Keeps middle tree') :
    Keeps tree tree' := by
  intro loc node there
  obtain ⟨node', there', kind⟩ := first loc node there
  obtain ⟨node'', there'', kind'⟩ := second loc node' there'
  exact ⟨node'', there'', kind'.trans kind⟩

theorem isDirectory_iff {node : Node} : isDirectory node = true ↔ node = .dir := by
  cases node <;> simp [isDirectory]

theorem Keeps.isDir {tree tree' : FileTree} (keeps : Keeps tree tree') {loc : Location}
    (isDir : tree.node loc = some .dir) : tree'.node loc = some .dir := by
  obtain ⟨node, there, kind⟩ := keeps loc .dir isDir
  rw [there, isDirectory_iff.mp kind]

theorem Keeps.grows {tree tree' : FileTree} (keeps : Keeps tree tree') : tree.Grows tree' := by
  intro loc isDir
  rw [isDir_iff] at isDir ⊢
  exact keeps.isDir isDir

theorem keeps_put {tree : FileTree} {loc : Location} {name : String} {node : Node}
    (parent : tree.node loc = some .dir) (free : tree.node (loc ++ [name]) ≠ some .dir)
    (kind : ∀ old, tree.node (loc ++ [name]) = some old → isDirectory node = isDirectory old) :
    Keeps tree (tree.put loc name node parent free) := by
  intro other old there
  rw [node_put]
  split
  · rename_i same
    exact ⟨node, rfl, kind old (same ▸ there)⟩
  · exact ⟨old, there, rfl⟩

/-- What lies in the template lies in the source, of the same kind, and there is no trouble. -/
structure Mirrors (src dst : List String) (s t : Location) (d : Disk) : Prop where
  regular : d.tree.Regular
  calm : d.trouble = []
  legalSrc : legal src = true
  legalDst : legal dst = true
  source : d.tree.walk [] src = some s
  template : d.tree.walk [] dst = some t
  isDir : d.tree.node t = some .dir
  mirror : ∀ rel node, d.tree.node (t ++ rel) = some node →
    ∃ node', d.tree.node (s ++ rel) = some node' ∧ isDirectory node' = isDirectory node

section Mirrors
variable {src dst : List String} {s t : Location} {d : Disk}

theorem Mirrors.source_below (mirrors : Mirrors src dst s t d) {rel : Location}
    (present : d.tree.node (s ++ rel) ≠ none) :
    legal (src ++ rel) = true ∧ d.tree.walk [] (src ++ rel) = some (s ++ rel) :=
  mirrors.regular.walk_below mirrors.legalSrc mirrors.source present

theorem Mirrors.template_below (mirrors : Mirrors src dst s t d) {rel : Location}
    (present : d.tree.node (t ++ rel) ≠ none) :
    legal (dst ++ rel) = true ∧ d.tree.walk [] (dst ++ rel) = some (t ++ rel) :=
  mirrors.regular.walk_below mirrors.legalDst mirrors.template present

theorem Mirrors.put (mirrors : Mirrors src dst s t d) {rel : Location} {name : String}
    {node node' : Node} (parent : d.tree.node (t ++ rel) = some .dir)
    (free : d.tree.node (t ++ rel ++ [name]) ≠ some .dir)
    (held : d.tree.node (s ++ rel ++ [name]) = some node')
    (kind : isDirectory node = isDirectory node') :
    Mirrors src dst s t ⟨d.tree.put (t ++ rel) name node parent free, []⟩ ∧
      Keeps d.tree (d.tree.put (t ++ rel) name node parent free) := by
  have keeps : Keeps d.tree (d.tree.put (t ++ rel) name node parent free) := by
    refine keeps_put parent free fun old there => ?_
    rw [List.append_assoc] at there held
    obtain ⟨other, found, same⟩ := mirrors.mirror _ _ there
    rw [held] at found
    rw [kind, ← same, Option.some.inj found]
  obtain ⟨plain, single⟩ := mirrors.regular.names _ _ (held ▸ Option.some_ne_none node')
  have grows := keeps.grows
  refine ⟨⟨mirrors.regular.put parent free plain single, rfl, mirrors.legalSrc, mirrors.legalDst,
    grows.walk mirrors.source, grows.walk mirrors.template, keeps.isDir mirrors.isDir,
      fun below new there => ?_⟩, keeps⟩
  rw [node_put] at there
  split at there
  · rename_i same
    rw [List.append_assoc] at same held
    obtain rfl := List.append_cancel_left same
    obtain rfl := Option.some.inj there
    obtain ⟨after, found, still⟩ := keeps _ _ held
    exact ⟨after, found, still.trans kind.symm⟩
  · obtain ⟨before, found, same⟩ := mirrors.mirror below new there
    obtain ⟨after, found', still⟩ := keeps _ _ found
    exact ⟨after, found', still.trans same⟩

theorem Mirrors.make (mirrors : Mirrors src dst s t d) {rel : Location}
    (isDir : d.tree.node (s ++ rel) = some .dir)
    (parent : ∀ up name, rel = up ++ [name] → d.tree.node (t ++ up) = some .dir) :
    ∃ d', createDirAll (dst ++ rel) d = (.ok (), d') ∧ Mirrors src dst s t d' ∧
      Keeps d.tree d'.tree ∧
      d'.tree.node (t ++ rel) = some .dir := by
  have already : d.tree.node (t ++ rel) = some .dir →
      ∃ d', createDirAll (dst ++ rel) d = (.ok (), d') ∧
      Mirrors src dst s t d' ∧ Keeps d.tree d'.tree ∧ d'.tree.node (t ++ rel) = some .dir := by
    intro there
    obtain ⟨legal_, walked⟩ := mirrors.template_below (there ▸ Option.some_ne_none _)
    exact ⟨d, createDirAll_there legal_ walked there, mirrors, Keeps.refl d.tree, there⟩
  cases rel using List.reverseRecOn with
  | nil => exact already (by rw [List.append_nil, mirrors.isDir])
  | append_singleton up name =>
    have inside := parent up name rfl
    obtain ⟨legalUp, walked⟩ := mirrors.template_below (inside ▸ Option.some_ne_none _)
    rw [← List.append_assoc] at isDir
    obtain ⟨plain, single⟩ := mirrors.regular.names _ _ (isDir ▸ Option.some_ne_none _)
    have legal_ : legal (dst ++ up ++ [name]) = true := by rw [legal_append, legalUp, single]; rfl
    rw [← List.append_assoc, ← List.append_assoc] at *
    cases found : d.tree.node (t ++ up ++ [name]) with
    | some node =>
      rw [List.append_assoc] at found isDir
      obtain ⟨other, held, kind⟩ := mirrors.mirror _ _ found
      rw [isDir] at held
      obtain rfl := Option.some.inj held
      rw [isDirectory_iff.mp kind.symm] at found
      rw [List.append_assoc t]
      rw [List.append_assoc t] at already
      exact already found
    | none =>
      have free : d.tree.node (t ++ up ++ [name]) ≠ some .dir := by
        rw [found]
        intro same
        cases same
      have making : createDirAll (dst ++ up ++ [name]) d =
          (.ok (), ⟨d.tree.put (t ++ up) name .dir inside free, []⟩) := by
        rw [createDirAll_down legal_ walked inside plain, found]
        obtain ⟨tree, trouble⟩ := d
        obtain rfl : trouble = [] := mirrors.calm
        exact dif_pos ⟨inside, free⟩
      obtain ⟨mirrors', keeps⟩ := mirrors.put inside free isDir rfl
      exact ⟨_, making, mirrors', keeps, if_pos rfl⟩

end Mirrors

section Overlap
variable [ReadDir]

/-- A copy that stops for want of nested calls, or has the template repeat the source a little
further. -/
def Repeats (src dst : List String) (s t : Location) (d : Disk) (r : Except Stop Unit × Disk) :
    Prop :=
  r.1 = .error .deeper ∨ ∃ d', r = (.ok (), d') ∧ Mirrors src dst s t d' ∧ Keeps d.tree d'.tree

/-- With so many nested calls, every directory of the source is copied so. -/
def Spreads (frames : Nat) (src dst : List String) (s t : Location) : Prop :=
  ∀ rel d, Mirrors src dst s t d → d.tree.node (s ++ rel) = some .dir →
    (∀ up name, rel = up ++ [name] → d.tree.node (t ++ up) = some .dir) →
    Repeats src dst s t d (copyDirRecursive frames (src ++ rel) (dst ++ rel) d)

section Entries
variable {frames : Nat} {src dst : List String} {s t : Location} {rel : Location} {name : String} {d : Disk}

omit [ReadDir] in
theorem copyEntry_calm (copyDir : List String → List String → DiskM Stop Unit)
    (calm : d.trouble = []) :
    copyEntry copyDir src dst name d =
      (if d.tree.isDirAt (src ++ [name]) then copyDir (src ++ [name]) (dst ++ [name])
        else (copy (src ++ [name]) (dst ++ [name])).mapError .error : DiskM Stop Unit) d := by
  obtain ⟨tree, trouble⟩ := d
  obtain rfl : trouble = [] := calm
  rfl

theorem Spreads.entry (spreads : Spreads frames src dst s t) (mirrors : Mirrors src dst s t d)
    (isDir : d.tree.node (t ++ rel) = some .dir)
    (present : d.tree.node (s ++ rel ++ [name]) ≠ none) :
    Repeats src dst s t d (copyEntry (copyDirRecursive frames) (src ++ rel) (dst ++ rel) name d) := by
  obtain ⟨plain, single⟩ := mirrors.regular.names _ _ present
  obtain ⟨legalTo, walkedTo⟩ := mirrors.template_below (isDir ▸ Option.some_ne_none _)
  have legal_ : legal (dst ++ rel ++ [name]) = true := by rw [legal_append, legalTo, single]; rfl
  rw [List.append_assoc] at present
  obtain ⟨legalFrom, walkedFrom⟩ := mirrors.source_below present
  rw [copyEntry_calm _ mirrors.calm, List.append_assoc]
  split
  · rename_i directory
    rw [List.append_assoc]
    refine spreads _ d mirrors ((isDirAt_iff legalFrom walkedFrom).mp directory) fun up last same => ?_
    obtain ⟨rfl, _⟩ := List.append_inj' same rfl
    exact isDir
  · rename_i notDir
    obtain ⟨content, held⟩ : ∃ content, d.tree.node (s ++ (rel ++ [name])) =
        some (.file content) := by
      cases found : d.tree.node (s ++ (rel ++ [name])) with
      | none => exact absurd found present
      | some node =>
        cases node with
        | dir => exact absurd ((isDirAt_iff legalFrom walkedFrom).mpr found) notDir
        | file content => exact ⟨content, rfl⟩
    have free : d.tree.node (t ++ rel ++ [name]) ≠ some .dir := by
      intro there
      rw [List.append_assoc] at there
      obtain ⟨other, found, kind⟩ := mirrors.mirror _ _ there
      rw [held] at found
      obtain rfl := Option.some.inj found
      cases kind
    have holds : d.tree.Holds (src ++ (rel ++ [name])) content := by
      rw [FileTree.Holds, lookup, walkedFrom, Option.bind_some, held]
    obtain ⟨left, copied⟩ : ∃ left, copy (src ++ (rel ++ [name])) (dst ++ rel ++ [name]) d =
        (.ok (), ⟨d.tree.put (t ++ rel) name (.file left) isDir free, []⟩) := by
      obtain ⟨tree, trouble⟩ := d
      obtain rfl : trouble = [] := mirrors.calm
      show ∃ left, (read _ >>= _) _ = _
      rw [bind_of_ok (read_free legalFrom holds)]
      exact ⟨_, write_free _ plain legal_ walkedTo isDir free⟩
    rw [mapError_of_ok copied]
    rw [← List.append_assoc] at held
    exact .inr ⟨_, rfl, mirrors.put isDir free held rfl⟩

theorem Spreads.listed (spreads : Spreads frames src dst s t) (lawful : ReadDir.Lawful)
    (mirrors : Mirrors src dst s t d) (isDir : d.tree.node (t ++ rel) = some .dir)
    (member : name ∈ ReadDir.entries d.tree (s ++ rel)) {d' : Disk}
    (held : Mirrors src dst s t d' ∧ Keeps d.tree d'.tree) :
    (copyEntry (copyDirRecursive frames) (src ++ rel) (dst ++ rel) name d').1 = .error .deeper ∨
      ∃ d'', copyEntry (copyDirRecursive frames) (src ++ rel) (dst ++ rel) name d' = (.ok (), d'') ∧
        Mirrors src dst s t d'' ∧ Keeps d.tree d''.tree := by
  obtain ⟨mirrors', keeps'⟩ := held
  rw [lawful.mem_iff _ mirrors.regular] at member
  obtain ⟨node, there⟩ := Option.ne_none_iff_exists'.mp member
  obtain ⟨node', there', _⟩ := keeps' _ _ there
  rcases spreads.entry mirrors' (keeps'.isDir isDir) (there' ▸ Option.some_ne_none node') with
    stopped | ⟨d'', ended, next, keeps⟩
  · exact .inl stopped
  · exact .inr ⟨d'', ended, next, keeps'.trans keeps⟩

/-- What the copy of a directory comes to, from the copies of its entries. -/
theorem Mirrors.copy_run (mirrors : Mirrors src dst s t d)
    (isDir : d.tree.node (s ++ rel) = some .dir)
    (parent : ∀ up name, rel = up ++ [name] → d.tree.node (t ++ up) = some .dir) :
    ∃ d', Mirrors src dst s t d' ∧ Keeps d.tree d'.tree ∧ d'.tree.node (t ++ rel) = some .dir ∧
      ∀ frames,
      copyDirRecursive (frames + 1) (src ++ rel) (dst ++ rel) d =
        DiskM.each (ReadDir.entries d'.tree (s ++ rel))
          (copyEntry (copyDirRecursive frames) (src ++ rel) (dst ++ rel)) d' := by
  obtain ⟨d', making, mirrors', keeps, made⟩ := mirrors.make isDir parent
  refine ⟨d', mirrors', keeps, made, fun frames => ?_⟩
  have still := keeps.isDir isDir
  obtain ⟨legal_, walked⟩ := mirrors'.source_below (still ▸ Option.some_ne_none _)
  obtain ⟨tree, trouble⟩ := d'
  obtain rfl : trouble = [] := mirrors'.calm
  have first : copyDirRecursive (frames + 1) (src ++ rel) (dst ++ rel) d = _ :=
    bind_of_ok (mapError_of_ok making)
  rw [first, bind_of_ok (mapError_of_ok (readDir_free legal_ walked still))]

end Entries

theorem spreads_all (lawful : ReadDir.Lawful) (frames : Nat) (src dst : List String)
    (s t : Location) :
    Spreads frames src dst s t := by
  induction frames with
  | zero => exact fun rel d mirrors isDir parent => .inl rfl
  | succ frames ih =>
    intro rel d mirrors isDir parent
    obtain ⟨d₁, mirrors₁, keeps₁, made, ran⟩ := mirrors.copy_run isDir parent
    rw [ran]
    rcases each_goes (fun name member d' held => ih.listed lawful mirrors₁ made member held)
      ⟨mirrors₁, Keeps.refl d₁.tree⟩ with stopped | ⟨d', ended, mirrors', keeps'⟩
    · exact .inl stopped
    · exact .inr ⟨d', ended, mirrors', keeps₁.trans keeps'⟩

/-- However many nested calls are made, they do not suffice: each finds a directory that the one
before has made, one step further on the way that repeats. -/
theorem copyDirRecursive_endless (lawful : ReadDir.Lawful) {src dst : List String}
    {s way : Location} (proper : way ≠ []) (frames k : Nat) (d : Disk)
    (mirrors : Mirrors src dst s (s ++ way) d) (isDir : d.tree.node (s ++ round way k) = some .dir)
    (chain : ∀ j < k, d.tree.node (s ++ way ++ round way j) = some .dir) :
    (copyDirRecursive frames (src ++ round way k) (dst ++ round way k) d).1 = .error .deeper := by
  induction frames generalizing k d with
  | zero => rfl
  | succ frames ih =>
    have parent : ∀ up name, round way k = up ++ [name] →
        d.tree.node (s ++ way ++ up) = some .dir := by
      intro up name same
      cases k with
      | zero => exact absurd same.symm (List.append_ne_nil_of_right_ne_nil _ (List.cons_ne_nil _ _))
      | succ k =>
        rw [round_succ] at same
        obtain ⟨rfl, _⟩ := List.append_inj' same rfl
        exact chain k (Nat.lt_succ_self k)
    obtain ⟨d₁, mirrors₁, keeps₁, made, ran⟩ := mirrors.copy_run isDir parent
    have chain₁ : ∀ j < k + 1, d₁.tree.node (s ++ way ++ round way j) = some .dir := by
      intro j early
      rcases Nat.lt_succ_iff_lt_or_eq.mp early with before | rfl
      · exact keeps₁.isDir (chain j before)
      · exact made
    have next : d₁.tree.node (s ++ round way (k + 1)) = some .dir := by
      have long := List.length_pos_of_ne_nil proper
      rcases Nat.lt_or_ge way.length (k + 1) with far | near
      · obtain ⟨j, sum⟩ : ∃ j, k + 1 = way.length + j := ⟨k + 1 - way.length, by omega⟩
        rw [sum, round_again, ← List.append_assoc]
        exact chain₁ j (by omega)
      · rw [round_lead near]
        obtain ⟨rest, whole⟩ := List.take_prefix (k + 1) way
        have top := mirrors₁.isDir
        rw [← whole, ← List.append_assoc] at top
        cases rest with
        | nil => rwa [List.append_nil] at top
        | cons name rest => exact above (top ▸ Option.some_ne_none _) (List.cons_ne_nil _ _)
    rw [ran]
    have listed := next
    rw [round_succ, ← List.append_assoc] at listed
    refine each_stops (P := fun d' => Mirrors src dst s (s ++ way) d' ∧ Keeps d₁.tree d'.tree)
      (fun name member d' held => ?_)
      (fun d' held => ?_) ((lawful.mem_iff _ mirrors₁.regular _ _).mpr (listed ▸ Option.some_ne_none _))
        ⟨mirrors₁, Keeps.refl _⟩
    · exact (spreads_all lawful frames src dst s (s ++ way)).listed lawful mirrors₁ made member held
    · obtain ⟨mirrors', keeps'⟩ := held
      have deep := keeps'.isDir next
      have chain' := fun j early => keeps'.isDir (chain₁ j early)
      have stopped := ih (k + 1) d' mirrors' deep chain'
      obtain ⟨legal_, walked⟩ := mirrors'.source_below (deep ▸ Option.some_ne_none _)
      rw [round_succ, ← List.append_assoc] at legal_ walked
      rw [round_succ, ← List.append_assoc, ← List.append_assoc] at stopped
      rw [round_succ] at deep
      rw [copyEntry_calm _ mirrors'.calm, if_pos ((isDirAt_iff legal_ walked).mpr deep)]
      exact stopped

omit [ReadDir] in
/-- Where the way to the template descends, what overlaps lies below the source. -/
theorem Overlaps.below {tree : FileTree} {source template : List String}
    (overlaps : Overlaps tree source template) (descends : tree.Descends template) :
    ∃ s, tree.walk [] source = some s ∧ tree.node s = some .dir ∧ s <+: target template := by
  obtain ⟨_, ⟨s, reached, isDir, inside⟩, absent, makeable⟩ := overlaps
  refine ⟨s, reached, isDir, by_contra fun outside => inside ⟨descends.new makeable absent, ?_, ?_⟩⟩
  · intro way initial missing rel proper same
    have short := (descends way initial missing).length_le
    rw [same, List.length_append] at short
    exact proper (List.eq_nil_of_length_eq_zero (by omega))
  · exact fun way initial missing up => outside (up.trans (descends way initial missing))

omit [ReadDir] in
/-- An empty template mirrors any directory. -/
theorem mirrors_made {tree tree' : FileTree} {source template : List String} {s : Location}
    (regular : tree.Regular) (there : tree.exists source = true)
    (reached : tree.walk [] source = some s) (isDir : tree.node s = some .dir)
    (descends : tree.Descends template) (new : tree.node (target template) = none)
    (making : createDirAll template ⟨tree, []⟩ = (.ok (), ⟨tree', []⟩)) :
    Mirrors source template s (target template) ⟨tree', []⟩ := by
  obtain ⟨makeable, walked, made, changes⟩ := createDirAll_made making
  have regular' := createDirAll_regular template ⟨tree, []⟩ regular
  have adds := createDirAll_addsDirs template ⟨tree, []⟩
  rw [making] at regular' adds
  have isDir' := isDir_iff.mp (adds.grows s (isDir_iff.mpr isDir))
  refine ⟨regular', rfl, (exists_iff.mp there).1, makeable.1, adds.grows.walk reached, walked, made,
    fun rel node held => ?_⟩
  cases rel with
  | nil =>
    rw [List.append_nil] at held ⊢
    rw [made] at held
    obtain rfl := Option.some.inj held
    exact ⟨.dir, isDir', rfl⟩
  | cons name rel =>
    exfalso
    rcases changes (target template ++ name :: rel) with same | ⟨none_, way, initial, is⟩
    · rw [same, absent_below (by rw [new]; exact fun same => by cases same) (List.cons_ne_nil _ _)] at held
      cases held
    · have short := (descends way initial (is ▸ none_)).length_le
      rw [← is, List.length_append, List.length_cons] at short
      omega

variable [ManifestFormat]

/-- A template inside its source is never done. -/
theorem createFromLocal_deeper (lawful : ReadDir.Lawful) {tree : FileTree} (regular : tree.Regular)
    {registry : List String} {name : String} {source : List String}
    (descends : tree.Descends (Path.join registry name))
    (overlaps : Overlaps tree source (Path.join registry name)) (frames : Nat) :
    (createFromLocal frames registry name source ⟨tree, []⟩).1 = .error .deeper := by
  obtain ⟨s, reached, isDir, way, along⟩ := overlaps.below descends
  have new := descends.new overlaps.makeable overlaps.absent
  obtain ⟨tree', making⟩ := createDirAll_free overlaps.makeable
  have mirrors := mirrors_made regular overlaps.there reached isDir descends new making
  have still : tree'.node s = some .dir := by
    have adds := createDirAll_addsDirs (Path.join registry name) ⟨tree, []⟩
    rw [making] at adds
    exact isDir_iff.mp (adds.grows s (isDir_iff.mpr isDir))
  have proper : way ≠ [] := by
    rintro rfl
    rw [List.append_nil] at along
    rw [← along, isDir] at new
    cases new
  rw [createFromLocal_run, if_neg (by rw [overlaps.there]; decide),
    if_neg (by rw [overlaps.absent]; decide)]
  refine bind_fails ?_
  rcases copyDirRecursive_made making mirrors.template mirrors.isDir frames source with same | rfl
  · rw [same]
    rw [← along] at mirrors
    have endless := copyDirRecursive_endless lawful proper frames 0 ⟨tree', []⟩ mirrors
      (by rw [round_lead (Nat.zero_le _), List.take_zero, List.append_nil]; exact still)
      (fun j early => absurd early (Nat.not_lt_zero j))
    rw [round_lead (Nat.zero_le _), List.take_zero, List.append_nil, List.append_nil] at endless
    exact endless
  · rfl

/-- A template is made, and is an exact copy, where it lies outside its source. Where the way to the
template only descends, it is never done anywhere else. -/
theorem finishes_iff_outside (lawful : ReadDir.Lawful) {tree : FileTree} (regular : tree.Regular)
    (registry : List String) (name : String) (source : List String) :
    (¬ Overlaps tree source (Path.join registry name) → Finishes tree registry name source) ∧
      (tree.Descends (Path.join registry name) → Finishes tree registry name source →
        ¬ Overlaps tree source (Path.join registry name)) := by
  refine ⟨finishes_apart lawful regular, fun descends finishes overlaps => ?_⟩
  obtain ⟨frames, ends, _⟩ := finishes []
  exact ends (createFromLocal_deeper lawful regular descends overlaps frames)

end Overlap

namespace StandIn

/-- `/src` with a script and a registry in it. -/
def projectTree : FileTree :=
  ((bareTree.put [] "src" .dir bareTree.root (by decide)).put ["src"] "run.sh" (.file (.text "exit 0"))
    (by decide) (by decide)).put
    ["src"] "templates" .dir (by decide) (by decide)

theorem bareTree_regular : bareTree.Regular where
  finite := by
    refine (Set.finite_singleton []).subset fun loc present => ?_
    by_contra other
    exact present (if_neg other)
  names loc name present := absurd (if_neg (by simp)) present

theorem projectTree_regular : projectTree.Regular :=
  ((bareTree_regular.put _ _ ⟨by decide, by decide⟩ (by decide)).put _ _ ⟨by decide, by decide⟩
    (by decide)).put _ _
    ⟨by decide, by decide⟩ (by decide)

@[reducible] def nameFormat : ManifestFormat := ⟨fun manifest => .ok manifest.template.name⟩

theorem projectTree_descends : projectTree.Descends ["src", "templates", "web"] :=
  descends_plain
    (by decide : projectTree.walk [] ["src", "templates"] = some ["src", "templates"]) (by decide)
    (by simp [Plain] : ∀ name ∈ ["web"], Plain name)

theorem projectTree_overlaps : Overlaps projectTree ["src"] ["src", "templates", "web"] where
  there := by decide
  inside := ⟨["src"], by decide, by decide, fun outside =>
    outside.outside ["src", "templates", "web"] (List.prefix_refl _) (by decide) (by decide)⟩
  absent := by decide
  makeable := by
    have kinds : ∀ way ∈ ["src", "templates", "web"].inits,
        projectTree.node (target way) = some .dir ∨ projectTree.node (target way) = none := by decide
    refine ⟨by decide, fun way initial content file => ?_⟩
    rcases kinds way ((List.mem_inits _ _).mpr initial) with isDir | missing
    · rw [isDir] at file
      cases file
    · rw [missing] at file
      cases file

theorem projectTree_apart : ¬ Overlaps projectTree ["src"] ["templates", "web"] := by
  rintro ⟨_, ⟨s, reached, _, inside⟩, _, _⟩
  obtain rfl : s = ["src"] := Option.some.inj (reached.symm.trans (by decide))
  have ways : ∀ way ∈ ["templates", "web"].inits, projectTree.node (target way) = none →
      ¬ ["src"] <+: target way ∧ (target way).length ≤ 2 := by decide
  refine inside ⟨by decide, fun way initial missing rel proper same => ?_, fun way initial missing => ?_⟩
  · have short := (ways way ((List.mem_inits _ _).mpr initial) missing).2
    rw [same, List.length_append] at short
    have long := List.length_pos_of_ne_nil proper
    have two : (target ["templates", "web"]).length = 2 := by decide
    omega
  · exact (ways way ((List.mem_inits _ _).mpr initial) missing).1

end StandIn

theorem finishes_iff_outside_project :
    @Finishes ReadDir.unordered StandIn.nameFormat StandIn.projectTree ["templates"] "web" ["src"] ∧
      ¬ @Finishes ReadDir.unordered StandIn.nameFormat StandIn.projectTree ["src", "templates"]
        "web" ["src"] :=
  ⟨(@finishes_iff_outside ReadDir.unordered StandIn.nameFormat ReadDir.unordered_lawful StandIn.projectTree
      StandIn.projectTree_regular ["templates"] "web" ["src"]).1 StandIn.projectTree_apart,
    fun finishes => (@finishes_iff_outside ReadDir.unordered StandIn.nameFormat ReadDir.unordered_lawful
      StandIn.projectTree StandIn.projectTree_regular ["src", "templates"] "web" ["src"]).2
        StandIn.projectTree_descends
      finishes StandIn.projectTree_overlaps⟩

/-- The directory that holds the registry is copied for ever. -/
theorem createFromLocal_endless :
    ¬ ∃ frames, (@createFromLocal ReadDir.unordered StandIn.nameFormat frames
    ["src", "templates"] "web" ["src"] ⟨StandIn.projectTree, []⟩).1 ≠ .error .deeper := by
  rintro ⟨frames, ends⟩
  exact ends (@createFromLocal_deeper ReadDir.unordered StandIn.nameFormat ReadDir.unordered_lawful
    StandIn.projectTree
    StandIn.projectTree_regular ["src", "templates"] "web" ["src"] StandIn.projectTree_descends
    StandIn.projectTree_overlaps frames)

end GrokingClawId.Daemon
