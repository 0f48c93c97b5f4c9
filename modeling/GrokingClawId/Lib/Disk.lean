import GrokingClawId.Lib.FileTree

/-!
# Operations on files

Programs that work on a file tree and stop at their first error, with the tree as they left it. Each
operation may meet trouble of its own, which comes with the tree.
-/

namespace GrokingClawId

/-- What an operation meets besides the tree. -/
inductive Trouble where
  | none
  | fails (e : String)
  /-- A write ends in the middle. -/
  | cuts (e : String) (left : Content)

/-- The tree and what the operations to come will meet. -/
structure Disk where
  tree : FileTree
  trouble : List Trouble

namespace Disk

def next (d : Disk) : Trouble × Disk :=
  match d.trouble with
  | [] => (.none, d)
  | t :: rest => (t, { d with trouble := rest })

@[simp] theorem next_tree (d : Disk) : d.next.2.tree = d.tree := by
  unfold next
  cases d.trouble with
  | nil => rfl
  | cons t rest => rfl

end Disk

def DiskM (ε α : Type) : Type := Disk → Except ε α × Disk

namespace DiskM
variable {ε ε' α β : Type}

def fail (e : ε) : DiskM ε α := fun d => (.error e, d)

def ofExcept (result : Except ε α) : DiskM ε α := fun d => (result, d)

instance : Monad (DiskM ε) where
  pure a := fun d => (.ok a, d)
  bind m f := fun d =>
    match m d with
    | (.ok a, d) => f a d
    | (.error e, d) => (.error e, d)

def mapError (m : DiskM ε α) (f : ε → ε') : DiskM ε' α := fun d => ((m d).1.mapError f, (m d).2)

/-- The error is a result. -/
def attempt (m : DiskM ε α) : DiskM ε' (Except ε α) := fun d => (.ok (m d).1, (m d).2)

/-- A question to the tree. -/
def ask (f : FileTree → α) : DiskM ε α := fun d => (.ok (f d.tree), d)

def modify (f : FileTree → FileTree) : DiskM ε Unit :=
  fun d => (.ok (), { d with tree := f d.tree })

/-- One after the other, up to the first error. -/
def each (items : List β) (f : β → DiskM ε Unit) : DiskM ε Unit :=
  match items with
  | [] => pure ()
  | item :: items => f item >>= fun _ => each items f

theorem bind_run (m : DiskM ε α) (f : α → DiskM ε β) (d : Disk) : (m >>= f) d =
    match m d with
    | (.ok a, d) => f a d
    | (.error e, d) => (.error e, d) := rfl

theorem bind_assoc {γ : Type} (m : DiskM ε α) (f : α → DiskM ε β) (g : β → DiskM ε γ) :
    (m >>= f) >>= g = m >>= fun a => f a >>= g := by
  funext d
  simp only [bind_run]
  rcases m d with ⟨e | a, middle⟩ <;> rfl

theorem bind_ok {m : DiskM ε α} {f : α → DiskM ε β} {d d' : Disk} {b : β}
    (ran : (m >>= f) d = (.ok b, d')) :
    ∃ a middle, m d = (.ok a, middle) ∧ f a middle = (.ok b, d') := by
  rw [bind_run] at ran
  split at ran
  · rename_i a middle first
    exact ⟨a, middle, first, ran⟩
  · cases ran

theorem bind_error {m : DiskM ε α} {f : α → DiskM ε β} {d d' : Disk} {e : ε}
    (ran : m d = (.error e, d')) :
    (m >>= f) d = (.error e, d') := by
  rw [bind_run, ran]

/-- What holds of the tree after the first program, however it ends, and after the rest. -/
theorem bind_leads {P : FileTree → Prop} {m : DiskM ε α} {f : α → DiskM ε β} {d : Disk}
    (first : P (m d).2.tree)
    (rest : ∀ a middle, m d = (.ok a, middle) → P middle.tree → P (f a middle).2.tree) :
    P ((m >>= f) d).2.tree := by
  rw [bind_run]
  split
  · rename_i a middle ran
    rw [ran] at first
    exact rest a middle ran first
  · rename_i e middle ran
    rw [ran] at first
    exact first

theorem mapError_ok {m : DiskM ε α} {f : ε → ε'} {d d' : Disk} {a : α}
    (ran : m.mapError f d = (.ok a, d')) : m d = (.ok a, d') := by
  obtain ⟨result, rfl⟩ := Prod.mk.inj ran
  cases first : (m d).1 with
  | error e =>
    rw [first] at result
    cases result
  | ok b =>
    rw [first] at result
    rw [← Except.ok.inj result, ← first]

theorem ofExcept_ok {result : Except ε α} {d d' : Disk} {a : α}
    (ran : ofExcept result d = (.ok a, d')) :
    result = .ok a ∧ d' = d := by
  obtain ⟨same, rfl⟩ := Prod.mk.inj ran
  exact ⟨same, rfl⟩

theorem ask_ok {f : FileTree → α} {d d' : Disk} {a : α}
    (ran : (ask f : DiskM ε α) d = (.ok a, d')) :
    a = f d.tree ∧ d' = d := by
  obtain ⟨same, rfl⟩ := Prod.mk.inj ran
  exact ⟨(Except.ok.inj same).symm, rfl⟩

theorem pure_ok {a b : α} {d d' : Disk} (ran : (pure a : DiskM ε α) d = (.ok b, d')) :
    a = b ∧ d = d' := by
  obtain ⟨same, rfl⟩ := Prod.mk.inj ran
  exact ⟨Except.ok.inj same, rfl⟩

/-! ### What a program does to the tree -/

/-- However the program ends, the tree before and the tree after are related. -/
def Relates (R : FileTree → FileTree → Prop) (m : DiskM ε α) : Prop := ∀ d, R d.tree (m d).2.tree

section Relates
variable {R : FileTree → FileTree → Prop}

theorem relates_pure (refl : ∀ tree, R tree tree) (a : α) : Relates R (pure a : DiskM ε α) :=
  fun d => refl d.tree

theorem relates_ofExcept (refl : ∀ tree, R tree tree) (result : Except ε α) :
    Relates R (ofExcept result) :=
  fun d => refl d.tree

theorem relates_ask (refl : ∀ tree, R tree tree) (f : FileTree → α) : Relates R
    (ask f : DiskM ε α) :=
  fun d => refl d.tree

theorem relates_bind (trans : ∀ t t' t'', R t t' → R t' t'' → R t t'') {m : DiskM ε α}
    {f : α → DiskM ε β} (first : Relates R m) (rest : ∀ a, Relates R (f a)) :
    Relates R (m >>= f) := by
  intro d
  rw [bind_run]
  have before := first d
  split
  · rename_i a middle ran
    rw [ran] at before
    exact trans _ _ _ before (rest a middle)
  · rename_i e middle ran
    rw [ran] at before
    exact before

theorem relates_each (refl : ∀ tree, R tree tree) (trans : ∀ t t' t'', R t t' → R t' t'' → R t t'')
    {items : List β} {f : β → DiskM ε Unit} (one : ∀ item ∈ items, Relates R (f item)) :
    Relates R (each items f) := by
  induction items with
  | nil => exact relates_pure refl ()
  | cons item items ih =>
    refine relates_bind trans (one item List.mem_cons_self) fun _ => ih fun other member => ?_
    exact one other (List.mem_cons_of_mem _ member)

end Relates

/-- The program leaves the tree as it is. -/
def Reads (m : DiskM ε α) : Prop := ∀ d, (m d).2.tree = d.tree

theorem reads_pure (a : α) : Reads (pure a : DiskM ε α) := fun _ => rfl

theorem reads_ofExcept (result : Except ε α) : Reads (ofExcept result) := fun _ => rfl

theorem reads_ask (f : FileTree → α) : Reads (ask f : DiskM ε α) := fun _ => rfl

theorem reads_bind {m : DiskM ε α} {f : α → DiskM ε β} (first : Reads m) (rest : ∀ a, Reads (f a)) :
    Reads (m >>= f) :=
  relates_bind (R := fun tree tree' => tree' = tree) (fun _ _ _ before after => after.trans before) first rest

theorem Reads.relates {R : FileTree → FileTree → Prop} (refl : ∀ tree, R tree tree) {m : DiskM ε α}
    (reads : Reads m) : Relates R m := by
  intro d
  rw [reads d]
  exact refl d.tree

end DiskM

/-! ### The operations -/

namespace Disk

/-- The node is put into a directory, where no directory has its name. -/
def store (d : Disk) (loc : Location) (name : String) (node : Node) : Except String Unit × Disk :=
  if able : d.tree.node loc = some .dir ∧ d.tree.node (loc ++ [name]) ≠ some .dir then
    (.ok (), { d with tree := d.tree.put loc name node able.1 able.2 })
  else (.error "Not a directory", d)

end Disk

def mkdir (loc : Location) (name : String) : DiskM String Unit := fun d =>
  match d.next with
  | (.none, d) => d.store loc name .dir
  | (.fails e, d) => (.error e, d)
  | (.cuts e _, d) => (.error e, d)

/-- Each directory on the way is made when it is missing. -/
def createDirs : Location → List String → DiskM String Unit
  | _, [] => pure ()
  | loc, name :: rest => fun d =>
    if name = ".." ∨ name = "." then createDirs (FileTree.descend loc name) rest d
    else
      match d.tree.node (loc ++ [name]) with
      | some .dir => createDirs (loc ++ [name]) rest d
      | some (.file _) => (.error "File exists", d)
      | none => (mkdir loc name >>= fun _ => createDirs (loc ++ [name]) rest) d

def createDirAll (path : List String) : DiskM String Unit :=
  if FileTree.legal path then createDirs [] path
  else DiskM.fail "file name contained an unexpected NUL byte"

def write (path : List String) (content : Content) : DiskM String Unit := fun d =>
  match path.getLast? with
  | none => (.error "Is a directory", d)
  | some name =>
    if name = ".." ∨ name = "." then (.error "Is a directory", d)
    else if !FileTree.legal path then (.error "file name contained an unexpected NUL byte", d)
    else
      match d.tree.walk [] path.dropLast with
      | none => (.error "No such file or directory", d)
      | some loc =>
        match d.next with
        | (.none, d) => d.store loc name (.file content)
        | (.fails e, d) => (.error e, d)
        | (.cuts e left, d) => (.error e, (d.store loc name (.file left)).2)

def read (path : List String) : DiskM String Content := fun d =>
  if !FileTree.legal path then (.error "file name contained an unexpected NUL byte", d)
  else
    match d.tree.lookup path with
    | none => (.error "No such file or directory", d)
    | some .dir => (.error "Is a directory", d)
    | some (.file content) =>
      match d.next with
      | (.none, d) => (.ok content, d)
      | (.fails e, d) => (.error e, d)
      | (.cuts e _, d) => (.error e, d)

def readToString (path : List String) : DiskM String String := do
  match ← read path with
  | .text s => pure s
  | .binary _ => DiskM.fail "stream did not contain valid UTF-8"

/-- The destination is emptied before anything is read, which leaves nothing of a file that is
copied to itself. -/
def copy (src dest : List String) : DiskM String Unit := do
  let content ← read src
  let itself ← DiskM.ask fun tree => decide (tree.walk [] src = tree.walk [] dest)
  write dest (if itself then .text "" else content)

/-- An operation that changes neither names nor contents. -/
def setPermissions : DiskM String Unit := fun d =>
  match d.next with
  | (.none, d) => (.ok (), d)
  | (.fails e, d) => (.error e, d)
  | (.cuts e _, d) => (.error e, d)

/-! ### What an operation does to the tree -/

open DiskM

theorem store_tree (d : Disk) (loc : Location) (name : String) (node : Node) :
    (∃ e, d.store loc name node = (.error e, d)) ∨ ∃ able : d.tree.node loc = some .dir ∧
      d.tree.node (loc ++ [name]) ≠ some .dir,
      d.store loc name node =
        (.ok (), { d with tree := d.tree.put loc name node able.1 able.2 }) := by
  unfold Disk.store
  split
  · rename_i able
    exact .inr ⟨able, rfl⟩
  · exact .inl ⟨_, rfl⟩

theorem mkdir_tree {d : Disk} {loc : Location} {name : String}
    (absent : d.tree.node (loc ++ [name]) = none) :
    d.tree.AddsDirs (mkdir loc name d).2.tree ∧
      ∀ d', mkdir loc name d = (.ok (), d') → d'.tree.node (loc ++ [name]) = some .dir := by
  unfold mkdir
  have same := d.next_tree
  split
  · rename_i after met
    rw [met] at same
    rw [← same] at absent ⊢
    rcases store_tree after loc name .dir with ⟨e, failed⟩ | ⟨able, stored⟩
    · rw [failed]
      exact ⟨FileTree.AddsDirs.refl _, fun _ ran => nomatch ran⟩
    · rw [stored]
      refine ⟨FileTree.addsDirs_put able.1 absent able.2, ?_⟩
      rintro d' ran
      obtain ⟨_, rfl⟩ := Prod.mk.inj ran
      exact if_pos rfl
  · rename_i e after met
    rw [met] at same
    exact ⟨same ▸ FileTree.AddsDirs.refl _, fun _ ran => nomatch ran⟩
  · rename_i e left after met
    rw [met] at same
    exact ⟨same ▸ FileTree.AddsDirs.refl _, fun _ ran => nomatch ran⟩

theorem createDirs_tree (loc : Location) (path : List String) (d : Disk)
    (dir : d.tree.isDir loc = true) :
    d.tree.AddsDirs (createDirs loc path d).2.tree ∧ ∀ d', createDirs loc path d = (.ok (), d') →
      ∃ found, d'.tree.walk loc path = some found ∧ d'.tree.isDir found = true := by
  induction path generalizing loc d with
  | nil =>
    refine ⟨FileTree.AddsDirs.refl _, fun d' ran => ?_⟩
    obtain ⟨_, rfl⟩ := Prod.mk.inj ran
    exact ⟨loc, rfl, dir⟩
  | cons name path ih =>
    have onward : ∀ {next : Location} {start : Disk}, FileTree.descend loc name = next →
        d.tree.AddsDirs start.tree → start.tree.isDir next = true →
        d.tree.AddsDirs (createDirs next path start).2.tree ∧
          ∀ d', createDirs next path start = (.ok (), d') →
            ∃ found, d'.tree.walk loc (name :: path) = some found ∧ d'.tree.isDir found = true := by
      intro next start down adds there
      obtain ⟨more, found⟩ := ih next start there
      refine ⟨adds.trans more, fun d' ran => ?_⟩
      obtain ⟨place, walked, isDir⟩ := found d' ran
      rw [ran] at more
      refine ⟨place, ?_, isDir⟩
      rw [FileTree.walk, if_pos ((adds.trans more).grows loc dir), down]
      exact walked
    unfold createDirs
    by_cases dots : name = ".." ∨ name = "."
    · rw [if_pos dots]
      exact onward rfl (FileTree.AddsDirs.refl _) (FileTree.isDir_dots dir dots)
    · rw [if_neg dots]
      obtain ⟨up, stay⟩ := not_or.mp dots
      have down : FileTree.descend loc name = loc ++ [name] := FileTree.descend_plain ⟨up, stay⟩
      split
      · rename_i isDir
        exact onward down (FileTree.AddsDirs.refl _) (FileTree.isDir_iff.mpr isDir)
      · refine ⟨FileTree.AddsDirs.refl _, fun d' ran => ?_⟩
        cases ran
      · rename_i absent
        obtain ⟨adds, made⟩ := mkdir_tree absent
        rw [bind_run]
        split
        · rename_i middle ran
          rw [ran] at adds
          exact onward down adds (FileTree.isDir_iff.mpr (made middle ran))
        · rename_i e middle ran
          rw [ran] at adds
          refine ⟨adds, fun d' ended => ?_⟩
          cases ended

theorem isDir_root (tree : FileTree) : tree.isDir [] = true := FileTree.isDir_iff.mpr tree.root

theorem createDirAll_addsDirs (path : List String) :
    Relates FileTree.AddsDirs (createDirAll path) := by
  intro d
  unfold createDirAll
  split
  · exact (createDirs_tree [] path d (isDir_root _)).1
  · exact FileTree.AddsDirs.refl _

theorem createDirAll_ok {path : List String} {d d' : Disk}
    (ran : createDirAll path d = (.ok (), d')) :
    FileTree.legal path = true ∧ d.tree.AddsDirs d'.tree ∧
      ∃ found, d'.tree.walk [] path = some found ∧ d'.tree.isDir found = true := by
  have adds := createDirAll_addsDirs path d
  rw [ran] at adds
  unfold createDirAll at ran
  split at ran
  · rename_i legal
    exact ⟨legal, adds, (createDirs_tree [] path d (isDir_root _)).2 d' ran⟩
  · cases ran

/-- A write changes one location, which the path leads to, into a file. -/
def Writes (path : List String) (content : Content) (tree tree' : FileTree) : Prop :=
  ∃ init name loc, path = init ++ [name] ∧ FileTree.Plain name ∧ tree.walk [] init = some loc ∧
    ∃ parent free, tree' = tree.put loc name (.file content) parent free

theorem write_tree (path : List String) (content : Content) (d : Disk) :
    ((∃ e, (write path content d).1 = .error e) ∧ ((write path content d).2.tree = d.tree ∨
      ∃ left, Writes path left d.tree (write path content d).2.tree)) ∨
    ((write path content d).1 = .ok () ∧ FileTree.legal path = true ∧
      Writes path content d.tree (write path content d).2.tree) := by
  unfold write
  split
  · exact .inl ⟨⟨_, rfl⟩, .inl rfl⟩
  · rename_i name last
    have shape : path = path.dropLast ++ [name] := by
      obtain ⟨init, rfl⟩ := List.getLast?_eq_some_iff.mp last
      rw [List.dropLast_concat]
    split
    · exact .inl ⟨⟨_, rfl⟩, .inl rfl⟩
    · rename_i dots
      split
      · exact .inl ⟨⟨_, rfl⟩, .inl rfl⟩
      · rename_i legal
        split
        · exact .inl ⟨⟨_, rfl⟩, .inl rfl⟩
        · rename_i loc walked
          have same := d.next_tree
          split
          · rename_i after met
            rw [met] at same
            rw [← same] at walked ⊢
            rcases store_tree after loc name (.file content) with ⟨e, failed⟩ | ⟨able, stored⟩
            · rw [failed]
              exact .inl ⟨⟨_, rfl⟩, .inl rfl⟩
            · rw [stored]
              refine .inr ⟨rfl, by simpa using legal, _, name, loc, shape, not_or.mp dots, walked,
                able.1, able.2, rfl⟩
          · rename_i e after met
            rw [met] at same
            exact .inl ⟨⟨_, rfl⟩, .inl same⟩
          · rename_i e left after met
            rw [met] at same
            rw [← same] at walked ⊢
            rcases store_tree after loc name (.file left) with ⟨e, failed⟩ | ⟨able, stored⟩
            · rw [failed]
              exact .inl ⟨⟨_, rfl⟩, .inl rfl⟩
            · rw [stored]
              exact .inl ⟨⟨_, rfl⟩,
                .inr ⟨left, _, name, loc, shape, not_or.mp dots, walked, able.1, able.2, rfl⟩⟩

theorem write_ok {path : List String} {content : Content} {d d' : Disk}
    (ran : write path content d = (.ok (), d')) :
    FileTree.legal path = true ∧ Writes path content d.tree d'.tree := by
  rcases write_tree path content d with ⟨⟨e, failed⟩, _⟩ | ⟨_, legal, writes⟩
  · rw [ran] at failed
    cases failed
  · rw [ran] at writes
    exact ⟨legal, writes⟩

theorem Writes.sameDirs {path : List String} {content : Content} {tree tree' : FileTree}
    (writes : Writes path content tree tree') : tree.SameDirs tree' := by
  obtain ⟨init, name, loc, _, _, _, parent, free, rfl⟩ := writes
  exact FileTree.sameDirs_put_file parent free

theorem Writes.node {path : List String} {content : Content} {tree tree' : FileTree}
    {loc : Location} (writes : Writes path content tree tree')
    (walked : tree.walk [] path = some loc) (other : Location) :
    tree'.node other = if other = loc then some (.file content) else tree.node other := by
  obtain ⟨init, name, parent, rfl, plain, reached, dir, free, rfl⟩ := writes
  rw [FileTree.walk_append, reached, Option.bind_some, FileTree.walk,
    if_pos (FileTree.isDir_iff.mpr dir), FileTree.walk, FileTree.descend_plain plain] at walked
  rw [FileTree.node_put, Option.some.inj walked]

theorem Writes.walk {path : List String} {content : Content} {tree tree' : FileTree}
    (writes : Writes path content tree tree') : ∃ loc, tree.walk [] path = some loc := by
  obtain ⟨init, name, parent, rfl, plain, reached, dir, _, _⟩ := writes
  refine ⟨parent ++ [name], ?_⟩
  rw [FileTree.walk_append, reached, Option.bind_some, FileTree.walk,
    if_pos (FileTree.isDir_iff.mpr dir), FileTree.walk, FileTree.descend_plain plain]

theorem Writes.holds {path : List String} {content : Content} {tree tree' : FileTree}
    (writes : Writes path content tree tree') : tree'.Holds path content := by
  obtain ⟨loc, walked⟩ := writes.walk
  rw [FileTree.Holds, FileTree.lookup, writes.sameDirs.walk, walked, Option.bind_some,
    writes.node walked, if_pos rfl]

theorem Writes.lookup {path other : List String} {content : Content} {tree tree' : FileTree}
    (writes : Writes path content tree tree') (different : tree.walk [] other ≠ tree.walk [] path) :
    tree'.lookup other = tree.lookup other := by
  obtain ⟨loc, walked⟩ := writes.walk
  rw [FileTree.lookup, FileTree.lookup, writes.sameDirs.walk]
  cases reached : tree.walk [] other with
  | none => rfl
  | some place =>
    rw [Option.bind_some, Option.bind_some, writes.node walked, if_neg]
    rintro rfl
    exact different (reached.trans walked.symm)

theorem read_tree (path : List String) (d : Disk) : (read path d).2.tree = d.tree ∧
    ∀ content d', read path d = (.ok content, d') → d.tree.Holds path content := by
  unfold read
  split
  · exact ⟨rfl, fun _ _ ran => nomatch ran⟩
  · split
    · exact ⟨rfl, fun _ _ ran => nomatch ran⟩
    · exact ⟨rfl, fun _ _ ran => nomatch ran⟩
    · rename_i content held
      have same := d.next_tree
      split
      · rename_i after met
        rw [met] at same
        refine ⟨same, fun other d' ran => ?_⟩
        rw [← Except.ok.inj (Prod.mk.inj ran).1]
        exact held
      · rename_i e after met
        rw [met] at same
        exact ⟨same, fun _ _ ran => nomatch ran⟩
      · rename_i e left after met
        rw [met] at same
        exact ⟨same, fun _ _ ran => nomatch ran⟩

theorem setPermissions_tree (d : Disk) : (setPermissions d).2.tree = d.tree := by
  unfold setPermissions
  have same := d.next_tree
  split <;> (rename_i met; rw [met] at same; exact same)

theorem reads_readToString (path : List String) : Reads (readToString path) := by
  refine reads_bind (fun d => (read_tree path d).1) fun content => ?_
  cases content with
  | text s => exact reads_pure s
  | binary bytes => exact fun _ => rfl

theorem readToString_ok {path : List String} {d d' : Disk} {s : String}
    (ran : readToString path d = (.ok s, d')) : d.tree.Holds path (.text s) ∧ d'.tree = d.tree := by
  obtain ⟨content, middle, first, rest⟩ := bind_ok ran
  have same := read_tree path d
  cases content with
  | text t =>
    obtain ⟨rfl, rfl⟩ := pure_ok rest
    rw [first] at same
    exact ⟨same.2 _ _ rfl, same.1⟩
  | binary bytes => cases (Prod.mk.inj rest).1

/-! ### Changes near a path -/

namespace FileTree

/-- Whatever has changed lies at or below what the path leads to, or is a new directory on the
way. -/
def Near (path : List String) (tree tree' : FileTree) : Prop :=
  ∀ loc, tree'.node loc = tree.node loc ∨ target path <+: loc ∨
    (tree.node loc = none ∧ tree'.node loc = some .dir ∧ ∃ way, way <+: path ∧ target way = loc)

theorem Near.refl (path : List String) (tree : FileTree) : Near path tree tree := fun _ => .inl rfl

theorem Near.trans (path : List String) (tree middle tree' : FileTree)
    (first : Near path tree middle) (second : Near path middle tree') : Near path tree tree' := by
  intro loc
  rcases first loc with same | below | ⟨missing, made, way⟩
  · rw [← same]
    exact second loc
  · exact .inr (.inl below)
  · rcases second loc with same | below | ⟨absent, _⟩
    · exact .inr (.inr ⟨missing, same.trans made, way⟩)
    · exact .inr (.inl below)
    · rw [absent] at made
      cases made

theorem Near.file {path : List String} {tree tree' : FileTree} (near : Near path tree tree')
    {loc : Location} (away : ¬ target path <+: loc) (content : Content) :
    tree'.node loc = some (.file content) ↔ tree.node loc = some (.file content) := by
  rcases near loc with same | below | ⟨missing, made, _⟩
  · rw [same]
  · exact absurd below away
  · rw [missing, made]
    simp

end FileTree

open FileTree (Near target)

theorem FileTree.Near.after {ε α : Type} {path : List String} {tree : FileTree} {m : DiskM ε α}
    {d : Disk} (near : Near path tree d.tree) (relates : Relates (Near path) m) :
    Near path tree (m d).2.tree :=
  Near.trans _ _ _ _ near (relates d)

theorem createDirs_way (loc : Location) (path : List String) (d : Disk) (other : Location)
    (changed : (createDirs loc path d).2.tree.node other ≠ d.tree.node other) :
    ∃ way, way <+: path ∧ way.foldl FileTree.descend loc = other := by
  induction path generalizing loc d with
  | nil => exact absurd rfl changed
  | cons name path ih =>
    have onward : ∀ {next : Location} {start : Disk}, FileTree.descend loc name = next →
        (createDirs next path start).2.tree.node other ≠ start.tree.node other →
        ∃ way, way <+: name :: path ∧ way.foldl FileTree.descend loc = other := by
      intro next start down changed
      obtain ⟨way, initial, same⟩ := ih next start changed
      refine ⟨name :: way, List.cons_prefix_cons.mpr ⟨rfl, initial⟩, ?_⟩
      rw [List.foldl_cons, down]
      exact same
    unfold createDirs at changed
    split at changed
    · exact onward rfl changed
    · rename_i dots
      have down : FileTree.descend loc name = loc ++ [name] :=
        FileTree.descend_plain (not_or.mp dots)
      split at changed
      · exact onward down changed
      · exact absurd rfl changed
      · rename_i absent
        by_cases here : other = loc ++ [name]
        · refine ⟨[name], List.cons_prefix_cons.mpr ⟨rfl, List.nil_prefix⟩, ?_⟩
          rw [here, List.foldl_cons, down]
          rfl
        · have kept : (mkdir loc name d).2.tree.node other = d.tree.node other := by
            unfold mkdir
            have same := d.next_tree
            split
            · rename_i after met
              rw [met] at same
              rcases store_tree after loc name .dir with ⟨e, failed⟩ | ⟨able, stored⟩
              · rw [failed]
                exact congrArg (·.node other) same
              · rw [stored]
                exact (if_neg here).trans (congrArg (·.node other) same)
            · rename_i e after met
              rw [met] at same
              exact congrArg (·.node other) same
            · rename_i e left after met
              rw [met] at same
              exact congrArg (·.node other) same
          rw [bind_run] at changed
          split at changed
          · rename_i middle ran
            rw [ran] at kept
            rw [← kept] at changed
            exact onward down changed
          · rename_i e middle ran
            rw [ran] at kept
            exact absurd kept changed

theorem way_near {base way tail : List String} (plain : ∀ name ∈ tail, FileTree.Plain name)
    (initial : way <+: base ++ tail) : target base <+: target way ∨ way <+: base := by
  rcases List.prefix_or_prefix_of_prefix initial (List.prefix_append base tail) with
    early | ⟨rest, rfl⟩
  · exact .inr early
  · left
    have deep : rest <+: tail := (List.prefix_append_right_inj base).mp initial
    rw [FileTree.target_append_plain base fun name member => plain name (deep.subset member)]
    exact List.prefix_append _ _

theorem createDirAll_near {base tail : List String} (plain : ∀ name ∈ tail, FileTree.Plain name) :
    Relates (Near base) (createDirAll (base ++ tail)) := by
  intro d loc
  rcases createDirAll_addsDirs (base ++ tail) d loc with same | ⟨missing, made⟩
  · exact .inl same
  · right
    have changed : (createDirAll (base ++ tail) d).2.tree.node loc ≠ d.tree.node loc := by
      rw [missing, made]
      exact Option.some_ne_none _
    unfold createDirAll at changed
    split at changed
    · obtain ⟨way, initial, rfl⟩ := createDirs_way [] (base ++ tail) d loc changed
      rcases way_near plain initial with below | early
      · exact .inl below
      · exact .inr ⟨missing, made, way, early, rfl⟩
    · exact absurd rfl changed

theorem Writes.near {base tail : List String} (plain : ∀ name ∈ tail, FileTree.Plain name)
    {content : Content} {tree tree' : FileTree}
    (writes : Writes (base ++ tail) content tree tree') : Near base tree tree' := by
  obtain ⟨loc, walked⟩ := writes.walk
  intro other
  rw [writes.node walked]
  split
  · rename_i same
    rw [same, FileTree.walk_target walked, FileTree.target_append_plain base plain]
    exact .inr (.inl (List.prefix_append _ _))
  · exact .inl rfl

theorem write_near {base tail : List String} (plain : ∀ name ∈ tail, FileTree.Plain name)
    (content : Content) :
    Relates (Near base) (write (base ++ tail) content) := by
  intro d
  rcases write_tree (base ++ tail) content d with ⟨_, same | ⟨left, writes⟩⟩ | ⟨_, _, writes⟩
  · rw [same]
    exact Near.refl _ _
  · exact writes.near plain
  · exact writes.near plain

/-- A write below a path leaves what lies elsewhere below it. -/
theorem Writes.elsewhere {base tail other : List String}
    (plain : ∀ name ∈ tail, FileTree.Plain name) (plain' : ∀ name ∈ other, FileTree.Plain name)
    (different : other ≠ tail) {content : Content} {tree tree' : FileTree}
    (writes : Writes (base ++ tail) content tree tree') :
    tree'.lookup (base ++ other) = tree.lookup (base ++ other) := by
  refine writes.lookup fun same => different ?_
  obtain ⟨loc, walked⟩ := writes.walk
  have here := FileTree.walk_target walked
  have there := FileTree.walk_target (same.trans walked)
  rw [FileTree.target_append_plain base plain] at here
  rw [FileTree.target_append_plain base plain'] at there
  exact List.append_cancel_left (there.symm.trans here)

end GrokingClawId
