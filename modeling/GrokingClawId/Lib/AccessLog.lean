import GrokingClawId.Lib.Listing

/-!
# Files that a program opens

Programs that keep a log of the files they open. Without the log such a program is one on a disk, and what
it opens when operations fail is part of what it opens when none does.
-/

namespace GrokingClawId

inductive Access where
  | reads (loc : Location)
  | writes (loc : Location)
  deriving DecidableEq

namespace FileTree

/-- The file that is opened for reading. -/
def opensRead (tree : FileTree) (path : List String) : Option Location :=
  if !legal path then none
  else
    match tree.walk [] path with
    | none => none
    | some loc =>
      match tree.node loc with
      | some (.file _) => some loc
      | _ => none

/-- The file that is opened for writing, or made. -/
def opensWrite (tree : FileTree) (path : List String) : Option Location :=
  match path.getLast? with
  | none => none
  | some name =>
    if name = ".." ∨ name = "." then none
    else if !legal path then none
    else
      match tree.walk [] path.dropLast with
      | none => none
      | some loc =>
        if tree.node loc = some .dir ∧ tree.node (loc ++ [name]) ≠ some .dir then
          some (loc ++ [name])
        else none

theorem opensRead_some {tree : FileTree} {path : List String} {loc : Location}
    (opens : tree.opensRead path = some loc) :
    legal path = true ∧ loc = target path ∧ ∃ content, tree.Holds path content := by
  unfold opensRead at opens
  split at opens
  · cases opens
  · rename_i legal_
    split at opens
    · cases opens
    · rename_i found walked
      split at opens
      · rename_i content held
        obtain rfl := Option.some.inj opens
        exact ⟨by simpa using legal_, walk_target walked,
          content, by rw [Holds, lookup, walked, Option.bind_some, held]⟩
      · cases opens

theorem opensRead_of_holds {tree : FileTree} {path : List String} {content : Content}
    (legal_ : legal path = true) (holds : tree.Holds path content) :
    tree.opensRead path = some (target path) := by
  obtain ⟨loc, walked, held⟩ := Option.bind_eq_some_iff.mp holds
  unfold opensRead
  rw [legal_, walked, ← walk_target walked]
  dsimp only
  rw [held]
  rfl

theorem exists_of_opensRead {tree : FileTree} {path : List String} {loc : Location}
    (opens : tree.opensRead path = some loc) :
    tree.exists path = true := by
  obtain ⟨legal_, _, content, holds⟩ := opensRead_some opens
  rw [FileTree.exists, legal_, holds]
  rfl

theorem exists_front {tree : FileTree} {path : List String} {name : String}
    (there : tree.exists (path ++ [name]) = true) :
    tree.exists path = true := by
  obtain ⟨legal_, loc, walked, _⟩ := exists_iff.mp there
  rw [legal_append, Bool.and_eq_true] at legal_
  rw [walk_append] at walked
  obtain ⟨middle, first, last⟩ := Option.bind_eq_some_iff.mp walked
  rw [walk] at last
  split at last
  · rename_i isDir
    exact exists_iff.mpr ⟨legal_.1, middle, first, isDir_iff.mp isDir ▸ Option.some_ne_none _⟩
  · cases last

theorem AddsDirs.opensRead {tree tree' : FileTree} (adds : tree.AddsDirs tree') {path : List String}
    (there : tree.exists path = true) : tree'.opensRead path = tree.opensRead path := by
  obtain ⟨legal_, loc, walked, present⟩ := exists_iff.mp there
  unfold FileTree.opensRead
  rw [legal_, walked, adds.grows.walk walked]
  dsimp only
  rcases adds loc with same | ⟨missing, _⟩
  · rw [same]
  · exact absurd missing present

theorem opensWrite_some {tree : FileTree} {path : List String} {loc : Location}
    (opens : tree.opensWrite path = some loc) : loc = target path := by
  unfold opensWrite at opens
  split at opens
  · cases opens
  · rename_i name last
    split at opens
    · cases opens
    · rename_i dots
      split at opens
      · cases opens
      · split at opens
        · cases opens
        · rename_i found walked
          split at opens
          · obtain rfl := Option.some.inj opens
            obtain rfl := walk_target walked
            have plain : ∀ other ∈ [name], Plain other :=
              fun other member => List.mem_singleton.mp member ▸ not_or.mp dots
            rw [← target_append_plain _ plain, List.dropLast_append_getLast? name last]
          · cases opens

end FileTree

open FileTree

/-- A program that logs what it opens. -/
def LogM (ε α : Type) : Type := Disk → (Except ε α × Disk) × List Access

namespace LogM
variable {ε ε' α β : Type}

instance : Monad (LogM ε) where
  pure a := fun d => ((.ok a, d), [])
  bind m f := fun d =>
    match m d with
    | ((.ok a, d), log) => ((f a d).1, log ++ (f a d).2)
    | ((.error e, d), log) => ((.error e, d), log)

/-- A program that opens no file. -/
def silent (m : DiskM ε α) : LogM ε α := fun d => (m d, [])

def mapError (m : LogM ε α) (f : ε → ε') : LogM ε' α :=
  fun d => (((m d).1.1.mapError f, (m d).1.2), (m d).2)

def attempt (m : LogM ε α) : LogM ε' (Except ε α) := fun d => ((.ok (m d).1.1, (m d).1.2), (m d).2)

def each (items : List β) (f : β → LogM ε Unit) : LogM ε Unit :=
  match items with
  | [] => pure ()
  | item :: items => f item >>= fun _ => each items f

/-- The program without its log. -/
def erase (m : LogM ε α) : DiskM ε α := fun d => (m d).1

def log (m : LogM ε α) (d : Disk) : List Access := (m d).2

/-! ### Without the log -/

@[simp] theorem erase_pure (a : α) : (pure a : LogM ε α).erase = pure a := rfl

@[simp] theorem erase_silent (m : DiskM ε α) : (silent m).erase = m := rfl

@[simp] theorem erase_bind (m : LogM ε α) (f : α → LogM ε β) :
    (m >>= f).erase = m.erase >>= fun a => (f a).erase := by
  funext d
  show (match m d with | ((.ok a, d), log) => _ | ((.error e, d), log) => _ : (Except ε β × Disk) × List Access).1 = _
  rw [DiskM.bind_run, erase]
  rcases m d with ⟨⟨e | a, d'⟩, log⟩ <;> rfl

@[simp] theorem erase_mapError (m : LogM ε α) (f : ε → ε') :
    (m.mapError f).erase = m.erase.mapError f := rfl

@[simp] theorem erase_attempt (m : LogM ε α) :
    (m.attempt : LogM ε' _).erase = m.erase.attempt := rfl

@[simp] theorem erase_ite (c : Prop) [Decidable c] (m m' : LogM ε α) :
    (if c then m else m').erase = if c then m.erase else m'.erase := by
  split <;> rfl

@[simp] theorem erase_each (items : List β) (f : β → LogM ε Unit) :
    (each items f).erase = DiskM.each items fun item => (f item).erase := by
  induction items with
  | nil => rfl
  | cons item items ih =>
    show (f item >>= fun _ => each items f).erase = _
    rw [erase_bind, ih]
    rfl

/-! ### What is opened -/

/-- Whatever the program opens on the disk is so. -/
def Opens (P : Access → Prop) (m : LogM ε α) (d : Disk) : Prop := ∀ access ∈ m.log d, P access

variable {P : Access → Prop}

theorem opens_silent (m : DiskM ε α) (d : Disk) : Opens P (silent m) d :=
  fun _ member => absurd member List.not_mem_nil

theorem opens_pure (a : α) (d : Disk) : Opens P (pure a : LogM ε α) d :=
  fun _ member => absurd member List.not_mem_nil

theorem opens_mapError (m : LogM ε α) (f : ε → ε') (d : Disk) :
    Opens P (m.mapError f) d ↔ Opens P m d := Iff.rfl

theorem opens_attempt (m : LogM ε α) (d : Disk) : Opens P (m.attempt : LogM ε' _) d ↔ Opens P m d :=
  Iff.rfl

theorem log_bind_ok {m : LogM ε α} {f : α → LogM ε β} {d d' : Disk} {a : α}
    (ran : m.erase d = (.ok a, d')) :
    (m >>= f).log d = m.log d ++ (f a).log d' := by
  show (match m d with | ((.ok a, d), log) => _ | ((.error e, d), log) => _ : (Except ε β × Disk) × List Access).2 = _
  rw [log]
  rcases found : m d with ⟨result, log⟩
  rw [erase, found] at ran
  obtain rfl : result = _ := ran
  rfl

theorem log_bind_error {m : LogM ε α} {f : α → LogM ε β} {d d' : Disk} {e : ε}
    (ran : m.erase d = (.error e, d')) :
    (m >>= f).log d = m.log d := by
  show (match m d with | ((.ok a, d), log) => _ | ((.error e, d), log) => _ : (Except ε β × Disk) × List Access).2 = _
  rw [log]
  rcases found : m d with ⟨result, log⟩
  rw [erase, found] at ran
  obtain rfl : result = _ := ran
  rfl

theorem opens_bind (m : LogM ε α) (f : α → LogM ε β) (d : Disk) :
    Opens P (m >>= f) d ↔ Opens P m d ∧ ∀ a d', m.erase d = (.ok a, d') → Opens P (f a) d' := by
  cases ran : m.erase d with
  | mk result d' =>
    cases result with
    | error e =>
      rw [Opens, log_bind_error ran]
      exact ⟨fun all => ⟨all, fun a d'' ended => by cases ended⟩, And.left⟩
    | ok a =>
      rw [Opens, log_bind_ok ran]
      constructor
      · intro all
        refine ⟨fun access member => all access (List.mem_append_left _ member),
          fun b d'' ended access member => ?_⟩
        obtain ⟨same, rfl⟩ := Prod.mk.inj ended
        obtain rfl := Except.ok.inj same
        exact all access (List.mem_append_right _ member)
      · rintro ⟨first, next⟩ access member
        rcases List.mem_append.mp member with early | late
        · exact first access early
        · exact next a d' rfl access late

theorem opens_ask (f : FileTree → α) (next : α → LogM ε β) (d : Disk) :
    Opens P (silent (DiskM.ask f) >>= next) d ↔ Opens P (next (f d.tree)) d := by
  rw [opens_bind, erase_silent]
  constructor
  · exact fun all => all.2 _ _ rfl
  · refine fun all => ⟨opens_silent _ d, fun a d' ran => ?_⟩
    obtain ⟨rfl, rfl⟩ := DiskM.ask_ok ran
    exact all

theorem opens_before_silent (m : LogM ε α) (rest : α → DiskM ε β) (d : Disk) :
    Opens P (m >>= fun a => silent (rest a)) d ↔ Opens P m d := by
  rw [opens_bind]
  exact and_iff_left fun a d' _ => opens_silent (rest a) d'

/-- What a loop opens, item by item. -/
theorem opens_each (items : List β) (f : β → LogM ε Unit) (d : Disk) :
    Opens P (each items f) d ↔ ∀ before item after d', items = before ++ item :: after →
      DiskM.each before (fun item => (f item).erase) d = (.ok (), d') → Opens P (f item) d' := by
  induction items generalizing d with
  | nil =>
    refine ⟨fun _ before item after d' split => ?_, fun _ => opens_pure () d⟩
    exact absurd split.symm (List.append_ne_nil_of_right_ne_nil _ (List.cons_ne_nil _ _))
  | cons first items ih =>
    show Opens P (f first >>= fun _ => each items f) d ↔ _
    rw [opens_bind]
    constructor
    · rintro ⟨here, rest⟩ before item after d' split ran
      cases before with
      | nil =>
        obtain ⟨rfl, rfl⟩ := List.cons.inj split
        obtain ⟨_, rfl⟩ := DiskM.pure_ok ran
        exact here
      | cons head before =>
        obtain ⟨rfl, rest_⟩ := List.cons.inj split
        obtain ⟨_, middle, ranFirst, ranRest⟩ := DiskM.bind_ok ran
        exact (ih middle).mp (rest _ middle ranFirst) before item after d' rest_ ranRest
    · intro all
      refine ⟨all [] first items d rfl rfl, fun _ middle ran =>
        (ih middle).mpr fun before item after d' split ranRest => ?_⟩
      refine all (first :: before) item after d' (split ▸ rfl) ?_
      show ((f first).erase >>= fun _ => DiskM.each before _) d = _
      rw [DiskM.bind_of_ok ran]
      exact ranRest

end LogM

/-! ### Failing operations -/

namespace DiskM
variable {ε ε' α β : Type}

/-- What has succeeded would have done the same if nothing could fail. -/
def Smooth (m : DiskM ε α) :
    Prop := ∀ d a d', m d = (.ok a, d') → m ⟨d.tree, []⟩ = (.ok a, ⟨d'.tree, []⟩)

theorem Smooth.free {m : DiskM ε α} (smooth : Smooth m) {tree : FileTree} {a : α} {d : Disk}
    (ran : m ⟨tree, []⟩ = (.ok a, d)) : d = ⟨d.tree, []⟩ := by
  have again := smooth _ _ _ ran
  rw [ran] at again
  exact (Prod.mk.inj again).2

theorem smooth_pure (a : α) : Smooth (pure a : DiskM ε α) := by
  intro d b d' ran
  obtain ⟨rfl, rfl⟩ := pure_ok ran
  rfl

theorem smooth_ofExcept (result : Except ε α) : Smooth (ofExcept result) := by
  intro d a d' ran
  obtain ⟨rfl, rfl⟩ := ofExcept_ok ran
  rfl

theorem smooth_ask (f : FileTree → α) : Smooth (ask f : DiskM ε α) := by
  intro d a d' ran
  obtain ⟨rfl, rfl⟩ := ask_ok ran
  rfl

theorem smooth_fail (e : ε) : Smooth (fail e : DiskM ε α) := by
  intro d a d' ran
  cases ran

theorem smooth_mapError {m : DiskM ε α} (smooth : Smooth m) (f : ε → ε') : Smooth (m.mapError f) :=
  fun d a d' ran => mapError_of_ok (smooth d a d' (mapError_ok ran))

theorem smooth_bind {m : DiskM ε α} {f : α → DiskM ε β} (first : Smooth m)
    (next : ∀ a, Smooth (f a)) :
    Smooth (m >>= f) := by
  intro d b d' ran
  obtain ⟨a, middle, ranFirst, ranNext⟩ := bind_ok ran
  rw [bind_of_ok (first d a middle ranFirst)]
  exact next a middle b d' ranNext

theorem smooth_each {items : List β} {f : β → DiskM ε Unit} (one : ∀ item, Smooth (f item)) :
    Smooth (DiskM.each items f) := by
  induction items with
  | nil => exact smooth_pure ()
  | cons item items ih => exact smooth_bind (one item) fun _ => ih

end DiskM

open DiskM

theorem OneOperation.smooth {ε α : Type} {m : DiskM ε α} (one : OneOperation m) : Smooth m :=
  fun d a d' ran => one d a d' ran [] [] rfl

theorem smooth_createDirs (loc : Location) (path : List String) : Smooth (createDirs loc path) := by
  induction path generalizing loc with
  | nil => exact smooth_pure ()
  | cons name path ih =>
    intro d a d' ran
    unfold createDirs at ran ⊢
    split at ran
    · rename_i dots
      rw [if_pos dots]
      exact ih _ d a d' ran
    · rename_i dots
      rw [if_neg dots]
      split at ran
      · rename_i isDir
        rw [isDir]
        exact ih _ d a d' ran
      · cases ran
      · rename_i absent
        rw [absent]
        exact smooth_bind (mkdir_one loc name).smooth (fun _ => ih _) d a d' ran

theorem smooth_createDirAll (path : List String) : Smooth (createDirAll path) := by
  unfold createDirAll
  split
  · exact smooth_createDirs [] path
  · exact smooth_fail _

theorem smooth_read (path : List String) : Smooth (read path) := (read_one path).smooth

theorem smooth_readToString (path : List String) : Smooth (readToString path) := by
  refine smooth_bind (smooth_read path) fun content => ?_
  cases content with
  | text s => exact smooth_pure s
  | binary bytes => exact smooth_fail _

theorem smooth_write (path : List String) (content : Content) : Smooth (write path content) :=
  (write_one path content).smooth

theorem smooth_copy (src dest : List String) : Smooth (copy src dest) :=
  smooth_bind (smooth_read src) fun _ => smooth_bind (smooth_ask _) fun _ => smooth_write dest _

namespace LogM
variable {ε ε' α β : Type} {P : Access → Prop}

/-- What is opened when operations fail is so if what is opened without failures is. -/
def Calms (P : Access → Prop) (m : LogM ε α) : Prop := ∀ d, Opens P m ⟨d.tree, []⟩ → Opens P m d

theorem calms_silent (m : DiskM ε α) : Calms P (silent m) := fun d _ => opens_silent m d

theorem calms_bind {m : LogM ε α} {f : α → LogM ε β} (first : Calms P m) (smooth : Smooth m.erase)
    (next : ∀ a, Calms P (f a)) : Calms P (m >>= f) := by
  intro d calm
  obtain ⟨here, rest⟩ := (opens_bind m f _).mp calm
  exact (opens_bind m f d).mpr ⟨first d here, fun a d' ran => next a d' (rest a _ (smooth d a d' ran))⟩

theorem calms_ask (f : FileTree → α) {next : α → LogM ε β} (calms : ∀ a, Calms P (next a)) :
    Calms P (silent (ask f) >>= next) := by
  refine calms_bind (calms_silent _) ?_ calms
  rw [erase_silent]
  exact smooth_ask f

theorem calms_mapError {m : LogM ε α} (calms : Calms P m) (f : ε → ε') : Calms P (m.mapError f) :=
  fun d calm => calms d calm

theorem calms_each {items : List β} {f : β → LogM ε Unit} (one : ∀ item, Calms P (f item))
    (smooth : ∀ item, Smooth (f item).erase) : Calms P (each items f) := by
  induction items with
  | nil => exact fun d _ => opens_pure () d
  | cons item items ih => exact calms_bind (one item) (smooth item) fun _ => ih

theorem calms_attempt {m : LogM ε α} {f : Except ε α → LogM ε' β} (first : Calms P m)
    (smooth : Smooth m.erase) (next : ∀ a, Calms P (f (.ok a)))
    (failed : ∀ e d, Opens P (f (.error e)) d) :
    Calms P (m.attempt >>= f : LogM ε' β) := by
  intro d calm
  obtain ⟨here, rest⟩ := (opens_bind _ f _).mp calm
  refine (opens_bind _ f d).mpr ⟨first d here, fun result d' ran => ?_⟩
  obtain ⟨same, rfl⟩ := Prod.mk.inj ran
  obtain rfl := Except.ok.inj same
  cases tried : m.erase d with
  | mk result d' =>
    have found : (m d).1 = (result, d') := tried
    rw [found]
    cases result with
    | error e => exact failed e d'
    | ok a =>
      have again := smooth d a d' tried
      refine next a d' (rest (.ok a) ⟨d'.tree, []⟩ ?_)
      show ((Except.ok (m.erase ⟨d.tree, []⟩).1, (m.erase ⟨d.tree, []⟩).2) : Except ε'
        (Except ε α) × Disk) = _
      rw [again]

end LogM

theorem opensRead_of_read {path : List String} {d d' : Disk} {content : Content}
    (ran : read path d = (.ok content, d')) : ∃ loc, d.tree.opensRead path = some loc := by
  have holds := (read_tree path d).2 content d' ran
  unfold read at ran
  split at ran
  · cases ran
  · rename_i legal_
    exact ⟨_, opensRead_of_holds (by simpa using legal_) holds⟩

/-! ### Operations that open files -/

def readLogged (path : List String) : LogM String Content := fun d =>
  (read path d, (d.tree.opensRead path).toList.map .reads)

def readToStringLogged (path : List String) : LogM String String := do
  match ← readLogged path with
  | .text s => pure s
  | .binary _ => LogM.silent (DiskM.fail "stream did not contain valid UTF-8")

def writeLogged (path : List String) (content : Content) : LogM String Unit := fun d =>
  (write path content d, (d.tree.opensWrite path).toList.map .writes)

def copyLogged (src dest : List String) : LogM String Unit := do
  let content ← readLogged src
  let itself ← LogM.silent (DiskM.ask fun tree => decide (tree.walk [] src = tree.walk [] dest))
  writeLogged dest (if itself then .text "" else content)

open LogM

@[simp] theorem erase_readLogged (path : List String) : (readLogged path).erase = read path := rfl

@[simp] theorem erase_writeLogged (path : List String) (content : Content) :
    (writeLogged path content).erase = write path content := rfl

@[simp] theorem erase_readToStringLogged (path : List String) :
    (readToStringLogged path).erase = readToString path := by
  rw [readToStringLogged, erase_bind]
  congr 1
  funext content
  cases content <;> rfl

@[simp] theorem erase_copyLogged (src dest : List String) :
    (copyLogged src dest).erase = copy src dest := by
  rw [copyLogged, erase_bind]
  congr 1

section Opened
variable {P : Access → Prop}

theorem opens_readLogged (path : List String) (d : Disk) :
    Opens P (readLogged path) d ↔ ∀ loc, d.tree.opensRead path = some loc → P (.reads loc) := by
  simp [Opens, log, readLogged]

theorem opens_writeLogged (path : List String) (content : Content) (d : Disk) :
    Opens P (writeLogged path content) d ↔ ∀ loc, d.tree.opensWrite path = some loc →
    P (.writes loc) := by
  simp [Opens, log, writeLogged]

theorem calms_readLogged (path : List String) : Calms P (readLogged path) := fun _ calm => calm

theorem calms_writeLogged (path : List String) (content : Content) :
    Calms P (writeLogged path content) := fun _ calm => calm

theorem calms_readToStringLogged (path : List String) : Calms P (readToStringLogged path) := by
  refine calms_bind (calms_readLogged path) (smooth_read path) fun content => ?_
  cases content with
  | text s => exact fun d _ => opens_pure s d
  | binary bytes => exact calms_silent _

theorem calms_copyLogged (src dest : List String) : Calms P (copyLogged src dest) :=
  calms_bind (calms_readLogged src) (smooth_read src) fun _ =>
    calms_ask _ fun _ => calms_writeLogged dest _

/-- Without trouble a copy opens its source, if that is a file, and then its destination. -/
theorem opens_copyLogged (src dest : List String) (tree : FileTree) :
    Opens P (copyLogged src dest) ⟨tree, []⟩ ↔ ∀ loc, tree.opensRead src = some loc →
      P (.reads loc) ∧ ∀ place, tree.opensWrite dest = some place → P (.writes place) := by
  have written : ∀ content,
      Opens P (LogM.silent (DiskM.ask fun tree => decide (tree.walk [] src = tree.walk [] dest)) >>=
      fun itself => writeLogged dest (if itself then .text "" else content)) ⟨tree, []⟩ ↔
        ∀ place, tree.opensWrite dest = some place → P (.writes place) := by
    intro content
    rw [opens_bind, erase_silent]
    constructor
    · rintro ⟨_, next⟩
      exact (opens_writeLogged dest _ _).mp (next _ _ rfl)
    · refine fun all => ⟨opens_silent _ _, fun itself d' ran => ?_⟩
      obtain ⟨_, rfl⟩ := ask_ok ran
      exact (opens_writeLogged dest _ _).mpr all
  rw [copyLogged, opens_bind, opens_readLogged, erase_readLogged]
  constructor
  · rintro ⟨opened, next⟩ loc opens
    obtain ⟨legal_, _, content, holds⟩ := opensRead_some opens
    exact ⟨opened loc opens, (written content).mp (next content _ (read_free legal_ holds))⟩
  · intro all
    refine ⟨fun loc opens => (all loc opens).1, fun content d' ran => ?_⟩
    obtain ⟨loc, opens⟩ := opensRead_of_read ran
    have holds := (read_tree src ⟨tree, []⟩).2 content d' ran
    have free := read_free (opensRead_some opens).1 holds
    rw [free] at ran
    obtain ⟨_, rfl⟩ := Prod.mk.inj ran
    exact (written content).mpr (all loc opens).2

end Opened

end GrokingClawId
