import GrokingClawId.Lib.Disk

/-!
# Programs that are interrupted

What a program has done when one of its operations fails, or the process dies there, is what it does
with trouble at that operation. A part of a program that has succeeded leaves the trouble that the
next part will meet open.
-/

namespace GrokingClawId
namespace DiskM
variable {ε ε' α β : Type}

theorem bind_of_ok {m : DiskM ε α} {f : α → DiskM ε β} {d d' : Disk} {a : α}
    (ran : m d = (.ok a, d')) :
    (m >>= f) d = f a d' := by
  rw [bind_run, ran]

theorem mapError_of_ok {m : DiskM ε α} {f : ε → ε'} {d d' : Disk} {a : α}
    (ran : m d = (.ok a, d')) :
    m.mapError f d = (.ok a, d') := by
  rw [mapError, ran]
  rfl

theorem mapError_of_error {m : DiskM ε α} {f : ε → ε'} {d d' : Disk} {e : ε}
    (ran : m d = (.error e, d')) :
    m.mapError f d = (.error (f e), d') := by
  rw [mapError, ran]
  rfl

/-- After a success, anything may happen to what comes next. -/
def Resumable (m : DiskM ε α) : Prop :=
  ∀ d a d', m d = (.ok a, d') →
    ∃ met, ∀ rest, m ⟨d.tree, met ++ rest⟩ = (.ok a, ⟨d'.tree, rest⟩)

theorem resumable_pure (a : α) : Resumable (pure a : DiskM ε α) := by
  intro d b d' ran
  obtain ⟨rfl, rfl⟩ := pure_ok ran
  exact ⟨[], fun rest => rfl⟩

theorem resumable_ofExcept (result : Except ε α) : Resumable (ofExcept result) := by
  intro d a d' ran
  obtain ⟨rfl, rfl⟩ := ofExcept_ok ran
  exact ⟨[], fun rest => rfl⟩

theorem resumable_ask (f : FileTree → α) : Resumable (ask f : DiskM ε α) := by
  intro d a d' ran
  obtain ⟨rfl, rfl⟩ := ask_ok ran
  exact ⟨[], fun rest => rfl⟩

theorem resumable_fail (e : ε) : Resumable (fail e : DiskM ε α) := fun _ _ _ ran => nomatch ran

theorem resumable_mapError {m : DiskM ε α} (resumable : Resumable m) (f : ε → ε') :
    Resumable (m.mapError f) := by
  intro d a d' ran
  obtain ⟨met, again⟩ := resumable d a d' (mapError_ok ran)
  exact ⟨met, fun rest => mapError_of_ok (again rest)⟩

theorem resumable_bind {m : DiskM ε α} {f : α → DiskM ε β} (first : Resumable m)
    (next : ∀ a, Resumable (f a)) : Resumable (m >>= f) := by
  intro d b d' ran
  obtain ⟨a, middle, ranFirst, ranNext⟩ := bind_ok ran
  obtain ⟨met, again⟩ := first d a middle ranFirst
  obtain ⟨met', again'⟩ := next a middle b d' ranNext
  refine ⟨met ++ met', fun rest => ?_⟩
  rw [List.append_assoc, bind_of_ok (again _)]
  exact again' rest

end DiskM

open DiskM

/-- One operation, which the tree alone decides when nothing interferes. -/
def OneOperation {ε α : Type} (m : DiskM ε α) : Prop :=
  ∀ d a d', m d = (.ok a, d') → ∀ trouble rest, (⟨d.tree, trouble⟩ : Disk).next = (.none, ⟨d.tree, rest⟩) →
    m ⟨d.tree, trouble⟩ = (.ok a, ⟨d'.tree, rest⟩)

theorem OneOperation.resumable {ε α : Type} {m : DiskM ε α} (one : OneOperation m) : Resumable m :=
  fun d a d' ran => ⟨[.none], fun rest => one d a d' ran _ rest rfl⟩

theorem store_ok {d d' : Disk} {loc : Location} {name : String} {node : Node}
    (ran : d.store loc name node = (.ok (), d')) (trouble : List Trouble) :
    (⟨d.tree, trouble⟩ : Disk).store loc name node = (.ok (), ⟨d'.tree, trouble⟩) := by
  unfold Disk.store at ran ⊢
  split at ran
  · rename_i able
    obtain ⟨_, rfl⟩ := Prod.mk.inj ran
    rw [dif_pos able]
  · cases ran

theorem mkdir_one (loc : Location) (name : String) : OneOperation (mkdir loc name) := by
  intro d a d' ran trouble rest nothing
  unfold mkdir at ran ⊢
  rw [nothing]
  have same := d.next_tree
  split at ran
  · rename_i after met
    rw [met] at same
    have stored := store_ok ran rest
    rw [same] at stored
    exact stored
  · cases ran
  · cases ran

theorem resumable_createDirs (loc : Location) (path : List String) :
    Resumable (createDirs loc path) := by
  induction path generalizing loc with
  | nil => exact resumable_pure ()
  | cons name path ih =>
    intro d a d' ran
    unfold createDirs at ran
    split at ran
    · rename_i dots
      obtain ⟨met, again⟩ := ih _ d a d' ran
      refine ⟨met, fun rest => ?_⟩
      unfold createDirs
      rw [if_pos dots]
      exact again rest
    · rename_i dots
      split at ran
      · rename_i isDir
        obtain ⟨met, again⟩ := ih _ d a d' ran
        refine ⟨met, fun rest => ?_⟩
        unfold createDirs
        rw [if_neg dots, isDir]
        exact again rest
      · cases ran
      · rename_i absent
        obtain ⟨met, again⟩ := resumable_bind (mkdir_one loc name).resumable (fun _ => ih _) d a d' ran
        refine ⟨met, fun rest => ?_⟩
        unfold createDirs
        rw [if_neg dots, absent]
        exact again rest

theorem resumable_createDirAll (path : List String) : Resumable (createDirAll path) := by
  unfold createDirAll
  split
  · exact resumable_createDirs [] path
  · exact resumable_fail _

theorem read_one (path : List String) : OneOperation (read path) := by
  intro d a d' ran trouble rest nothing
  unfold read at ran ⊢
  have same := d.next_tree
  split at ran
  · cases ran
  · rename_i legal
    rw [if_neg legal]
    split at ran
    · cases ran
    · cases ran
    · rename_i content held
      rw [held, nothing]
      split at ran
      · rename_i after met
        rw [met] at same
        obtain ⟨result, rfl⟩ := Prod.mk.inj ran
        rw [same, ← Except.ok.inj result]
      · cases ran
      · cases ran

theorem resumable_readToString (path : List String) : Resumable (readToString path) := by
  refine resumable_bind (read_one path).resumable fun content => ?_
  cases content with
  | text s => exact resumable_pure s
  | binary bytes => exact resumable_fail _

theorem write_one (path : List String) (content : Content) : OneOperation (write path content) := by
  intro d a d' ran trouble rest nothing
  unfold write at ran ⊢
  have same := d.next_tree
  split at ran
  · cases ran
  · split at ran
    · cases ran
    · rename_i name last dots
      rw [if_neg dots]
      split at ran
      · cases ran
      · rename_i legal
        rw [if_neg legal]
        split at ran
        · cases ran
        · rename_i loc walked
          rw [walked, nothing]
          split at ran
          · rename_i after met
            rw [met] at same
            have stored := store_ok ran rest
            rw [same] at stored
            exact stored
          · cases ran
          · cases ran

theorem resumable_copy (src dest : List String) : Resumable (copy src dest) :=
  resumable_bind (read_one src).resumable fun _ => resumable_bind (resumable_ask _) fun _ =>
    (write_one dest _).resumable

/-- A write to a name in a directory, by what it meets. -/
theorem write_at {base : List String} {name : String} {loc : Location} {d : Disk}
    (content : Content) (plain : FileTree.Plain name)
    (legal : FileTree.legal (base ++ [name]) = true) (walked : d.tree.walk [] base = some loc) :
    write (base ++ [name]) content d =
      match d.next with
      | (.none, d) => d.store loc name (.file content)
      | (.fails e, d) => (.error e, d)
      | (.cuts e left, d) => (.error e, (d.store loc name (.file left)).2) := by
  have dots : ¬(name = ".." ∨ name = ".") := not_or.mpr plain
  unfold write
  rw [List.getLast?_concat]
  rcases d.next with ⟨_ | e | ⟨e, left⟩, after⟩ <;>
    simp only [if_neg dots, legal, Bool.not_true, Bool.false_eq_true, if_false, List.dropLast_concat, walked]

end GrokingClawId
