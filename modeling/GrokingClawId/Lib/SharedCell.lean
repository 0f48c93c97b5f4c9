import GrokingClawId.Lib.Run

/-!
# Programs that share a cell

A program reads a cell, waits, writes the cell or ends with a result; the programs considered here
write at most once, as their last access. Two of them take turns in any order. When none writes over
what the other has written since its own last read, what they return and what they leave behind is
what they would have done one after the other.
-/

namespace GrokingClawId

inductive Program (C A : Type) where
  | done (a : A)
  | load (next : C → Program C A)
  | wait (next : Program C A)
  | save (content : C) (next : Program C A)

namespace Program
variable {C A : Type}

/-- Run alone. -/
def exec : Program C A → C → A × C
  | done a, c => (a, c)
  | load next, c => (next c).exec c
  | wait next, c => next.exec c
  | save content next, _ => next.exec content

/-- The cell is not looked at any more. -/
def Quiet : Program C A → Prop
  | done _ => True
  | load _ => False
  | wait next => next.Quiet
  | save _ _ => False

/-- The cell is written at most once, and not read after that. -/
def OneSave : Program C A → Prop
  | done _ => True
  | load next => ∀ c, (next c).OneSave
  | wait next => next.OneSave
  | save _ next => next.Quiet

/-- There is no read any more, and at most one write. -/
def Tail : Program C A → Prop
  | done _ => True
  | load _ => False
  | wait next => next.Tail
  | save _ next => next.Quiet

/-- `P` holds of every read that comes up when the cell contains `c`. -/
def Reads (P : (C → Program C A) → Prop) (c : C) : Program C A → Prop
  | done _ => True
  | load next => P next ∧ (next c).Reads P c
  | wait next => next.Reads P c
  | save _ _ => True

/-- What a program that began on `old` and reads `new` from some point on does is what it does on
`new`. -/
def Steady (program : Program C A) (old new : C) : Prop :=
  program.Reads (fun next => (next new).exec new = program.exec new) old

/-- What is written has the property when all that is read has it. -/
def Keeps (P : C → Prop) : Program C A → Prop
  | done _ => True
  | load next => ∀ c, P c → (next c).Keeps P
  | wait next => next.Keeps P
  | save content next => P content ∧ next.Keeps P

/-- One access to the cell. -/
def advance : Program C A → C → Option (Program C A × C)
  | done _, _ => none
  | load next, c => some (next c, c)
  | wait next, c => some (next, c)
  | save content next, _ => some (next, content)

/-- When all that is read has `P`, what is written has it too, and the result has `Q`. -/
def Under (P : C → Prop) (Q : A → Prop) : Program C A → Prop
  | done a => Q a
  | load next => ∀ c, P c → (next c).Under P Q
  | wait next => next.Under P Q
  | save content next => P content ∧ next.Under P Q

/-- Every read, now or later, begins a program with the property. -/
def Loads (R : Program C A → Prop) : Program C A → Prop
  | done _ => True
  | load next => R (load next) ∧ ∀ c, (next c).Loads R
  | wait next => next.Loads R
  | save _ next => next.Loads R

/-- Nothing is written before the next read, and a result that comes before it has `Q`. -/
def Idle (Q : A → Prop) : Program C A → Prop
  | done a => Q a
  | load _ => True
  | wait next => next.Idle Q
  | save _ _ => False

/-- `p` comes first, then `q`: what they return, and what is left in the cell. -/
structure InOrder (p q : Program C A) (c : C) (a b : A) (left : C) : Prop where
  first : (p.exec c).1 = a
  second : q.exec (p.exec c).2 = (b, left)

theorem exec_quiet {program : Program C A} (quiet : program.Quiet) :
    ∃ a, ∀ c, program.exec c = (a, c) := by
  induction program with
  | done a => exact ⟨a, fun _ => rfl⟩
  | load next ih => exact quiet.elim
  | wait next ih => exact ih quiet
  | save content next ih => exact quiet.elim

theorem Tail.oneSave {program : Program C A} (tail : program.Tail) : program.OneSave := by
  induction program with
  | done a => trivial
  | load next ih => exact tail.elim
  | wait next ih => exact ih tail
  | save content next ih => exact tail

theorem Tail.reads {program : Program C A} (tail : program.Tail) (P : (C → Program C A) → Prop)
    (c : C) :
    program.Reads P c := by
  induction program with
  | done a => trivial
  | load next ih => exact tail.elim
  | wait next ih => exact ih tail
  | save content next ih => trivial

theorem Quiet.under {program : Program C A} (quiet : program.Quiet) {P : C → Prop} {Q : A → Prop}
    {c : C} (result : Q (program.exec c).1) : program.Under P Q := by
  induction program with
  | done a => exact result
  | load next ih => exact quiet.elim
  | wait next ih => exact ih quiet result
  | save content next ih => exact quiet.elim

/-- After the last read it is enough to know the result and what is left in the cell. -/
theorem Tail.under {program : Program C A} (tail : program.Tail) {P : C → Prop} {Q : A → Prop}
    {c : C} (result : Q (program.exec c).1) (left : P (program.exec c).2) : program.Under P Q := by
  induction program with
  | done a => exact result
  | load next ih => exact tail.elim
  | wait next ih => exact ih tail result left
  | save content next ih =>
    obtain ⟨a, alone⟩ := exec_quiet tail
    rw [exec, alone] at left result
    refine ⟨left, Quiet.under (c := content) tail ?_⟩
    rw [alone]
    exact result

theorem Under.keeps {P : C → Prop} {Q : A → Prop} {program : Program C A}
    (under : program.Under P Q) :
    program.Keeps P := by
  induction program with
  | done a => trivial
  | load next ih => exact fun c holds => ih c (under c holds)
  | wait next ih => exact ih under
  | save content next ih => exact ⟨under.1, ih under.2⟩

theorem Tail.keeps {program : Program C A} (tail : program.Tail) {P : C → Prop} {c : C}
    (holds : P (program.exec c).2) : program.Keeps P :=
  Under.keeps (tail.under (Q := fun _ => True) trivial holds)

theorem Under.advance {P : C → Prop} {Q : A → Prop} {program next : Program C A} {c c' : C}
    (under : program.Under P Q) (cell : P c) (advanced : program.advance c = some (next, c')) :
    next.Under P Q ∧ P c' := by
  cases program with
  | done a => cases advanced
  | load rest =>
    obtain ⟨rfl, rfl⟩ := Prod.mk.inj (Option.some.inj advanced)
    exact ⟨under c cell, cell⟩
  | wait rest =>
    obtain ⟨rfl, rfl⟩ := Prod.mk.inj (Option.some.inj advanced)
    exact ⟨under, cell⟩
  | save content rest =>
    obtain ⟨rfl, rfl⟩ := Prod.mk.inj (Option.some.inj advanced)
    exact ⟨under.2, under.1⟩

theorem Loads.advance {R : Program C A → Prop} {program next : Program C A} {c c' : C}
    (loads : program.Loads R) (advanced : program.advance c = some (next, c')) : next.Loads R := by
  cases program with
  | done a => cases advanced
  | load rest =>
    obtain ⟨rfl, _⟩ := Prod.mk.inj (Option.some.inj advanced)
    exact loads.2 c
  | wait rest =>
    obtain ⟨rfl, _⟩ := Prod.mk.inj (Option.some.inj advanced)
    exact loads
  | save content rest =>
    obtain ⟨rfl, _⟩ := Prod.mk.inj (Option.some.inj advanced)
    exact loads

/-- What has been read before does not matter for a program that is idle. -/
theorem Loads.under {P : C → Prop} {Q : A → Prop} {program : Program C A}
    (loads : program.Loads (Under P Q)) (idle : program.Idle Q) : program.Under P Q := by
  induction program with
  | done a => exact idle
  | load next ih => exact loads.1
  | wait next ih => exact ih loads idle
  | save content next ih => exact idle.elim

theorem Quiet.loads {program : Program C A} (quiet : program.Quiet) (R : Program C A → Prop) :
    program.Loads R := by
  induction program with
  | done a => trivial
  | load next ih => exact quiet.elim
  | wait next ih => exact ih quiet
  | save content next ih => exact quiet.elim

theorem Tail.loads {program : Program C A} (tail : program.Tail) (R : Program C A → Prop) :
    program.Loads R := by
  induction program with
  | done a => trivial
  | load next ih => exact tail.elim
  | wait next ih => exact ih tail
  | save content next ih => exact Quiet.loads tail R

/-- A program that reads once is steady. -/
theorem steady_load {next : C → Program C A} (tail : ∀ c, (next c).Tail) (old new : C) :
    (load next).Steady old new :=
  ⟨rfl, (tail old).reads _ old⟩

end Program

/-- Two programs, the cell, and of each whether the other has written since it last read. -/
structure Turns (C A : Type) where
  left : Program C A
  right : Program C A
  cell : C
  leftStale : Bool := false
  rightStale : Bool := false

inductive Side where
  | left | right

namespace Turns
variable {C A : Type}

def swap (s : Turns C A) : Turns C A := ⟨s.right, s.left, s.cell, s.rightStale, s.leftStale⟩

def stepLeft (s : Turns C A) : Option (Turns C A) :=
  match s.left with
  | .done _ => none
  | .load next => some { s with left := next s.cell, leftStale := false }
  | .wait next => some { s with left := next }
  | .save content next => some { s with left := next, cell := content, rightStale := true }

def step (s : Turns C A) : Side → Option (Turns C A)
  | .left => s.stepLeft
  | .right => s.swap.stepLeft.map swap

def FreshLeft (s : Turns C A) : Prop :=
  ∀ content next, s.left = .save content next → s.leftStale = false

/-- A write only follows when the other has not written since the last read. -/
def Fresh (s : Turns C A) : Side → Prop
  | .left => s.FreshLeft
  | .right => s.swap.FreshLeft

/-- Between the read and the write of the left program the right one runs as a whole. -/
theorem run_overtaken {p q : C → Program C A} {c x y : C} {a b : A}
    (left : p c = .wait (.save x (.done a))) (right : q c = .wait (.save y (.done b))) :
    Run step ⟨.load p, .load q, c, false, false⟩ [.left, .right, .right, .right, .left, .left] =
      some ⟨.done a, .done b, x, true, true⟩ := by
  simp only [Run, step, stepLeft, swap, left, right, Option.bind_some, Option.map_some]

/-- While the left program waits the right one runs as a whole, and the left one reads again before it
writes. -/
theorem run_reread {p q again : C → Program C A} {c x y : C} {a b : A} (left : p c = .wait (.load again))
    (right : q c = .wait (.save x (.done b))) (later : again x = .save y (.done a)) :
    Run step ⟨.load p, .load q, c, false, false⟩ [.left, .right, .left, .right, .right, .left, .left] =
        some ⟨.done a, .done b, y, false, true⟩ ∧
      Run.Each step Fresh ⟨.load p, .load q, c, false, false⟩
        [.left, .right, .left, .right, .right, .left, .left] := by
  constructor
  · simp only [Run, step, stepLeft, swap, left, right, later, Option.bind_some, Option.map_some]
  · simp [Run.Each, step, stepLeft, swap, left, right, later, Fresh, FreshLeft]

/-- Both programs keep the property, and the cell has it. -/
structure Kept (P : C → Prop) (s : Turns C A) : Prop where
  cell : P s.cell
  left : s.left.Keeps P
  right : s.right.Keeps P

theorem Kept.swap {P : C → Prop} {s : Turns C A} (kept : Kept P s) : Kept P s.swap :=
  ⟨kept.cell, kept.right, kept.left⟩

theorem Kept.stepLeft {P : C → Prop} {s s' : Turns C A} (kept : Kept P s)
    (stepped : s.stepLeft = some s') : Kept P s' := by
  obtain ⟨cell, left, right⟩ := kept
  unfold Turns.stepLeft at stepped
  cases program : s.left with
  | done a =>
    rw [program] at stepped
    cases stepped
  | load next =>
    rw [program] at stepped left
    obtain rfl := Option.some.inj stepped
    exact ⟨cell, left s.cell cell, right⟩
  | wait next =>
    rw [program] at stepped left
    obtain rfl := Option.some.inj stepped
    exact ⟨cell, left, right⟩
  | save content next =>
    rw [program] at stepped left
    obtain rfl := Option.some.inj stepped
    exact ⟨left.1, left.2, right⟩

theorem Kept.step {P : C → Prop} {s s' : Turns C A} {side : Side} (kept : Kept P s)
    (stepped : s.step side = some s') : Kept P s' := by
  cases side with
  | left => exact kept.stepLeft stepped
  | right =>
    obtain ⟨t, other, rfl⟩ := Option.map_eq_some_iff.mp stepped
    exact (kept.swap.stepLeft other).swap

theorem Kept.run {P : C → Prop} {s s' : Turns C A} {sides : List Side} (kept : Kept P s)
    (ran : Run Turns.step s sides = some s') : Kept P s' := by
  have each : ∀ (s : Turns C A) side s', Kept P s → True → Turns.step s side = some s' →
      Kept P s' :=
    fun _ _ _ current _ stepped => current.step stepped
  exact Run.preserves each kept (fun _ _ => trivial) ran

/-- Neither has written. -/
structure Apart (p q : Program C A) (c : C) (s : Turns C A) : Prop where
  cell : s.cell = c
  left : s.left.exec c = p.exec c
  right : s.right.exec c = q.exec c
  leftOnce : s.left.OneSave
  rightOnce : s.right.OneSave
  leftReads : s.left.Reads (fun next => (next (q.exec c).2).exec (q.exec c).2 = p.exec (q.exec c).2) c
  rightReads : s.right.Reads (fun next => (next (p.exec c).2).exec (p.exec c).2 = q.exec (p.exec c).2) c

/-- The left program has written and the right one has not read since. -/
structure Behind (p q : Program C A) (c : C) (s : Turns C A) : Prop where
  stale : s.rightStale = true
  cell : s.cell = (p.exec c).2
  right : s.right.exec c = q.exec c
  reads : s.right.Reads (fun next => (next (p.exec c).2).exec (p.exec c).2 = q.exec (p.exec c).2) c

/-- The left program has written. -/
structure Ahead (p q : Program C A) (c : C) (s : Turns C A) : Prop where
  quiet : s.left.Quiet
  result : ∀ d, (s.left.exec d).1 = (p.exec c).1
  other : Behind p q c s ∨ s.right.exec s.cell = q.exec (p.exec c).2

def Inv (p q : Program C A) (c : C) (s : Turns C A) : Prop :=
  Apart p q c s ∨ Ahead p q c s ∨ Ahead q p c s.swap

theorem Inv.swap {p q : Program C A} {c : C} {s : Turns C A} (inv : Inv p q c s) :
    Inv q p c s.swap := by
  rcases inv with apart | ahead | ahead
  · exact .inl ⟨apart.cell, apart.right, apart.left, apart.rightOnce, apart.leftOnce, apart.rightReads,
      apart.leftReads⟩
  · exact .inr (.inr ahead)
  · exact .inr (.inl ahead)

theorem Apart.stepLeft {p q : Program C A} {c : C} {s s' : Turns C A} (apart : Apart p q c s)
    (stepped : s.stepLeft = some s') : Inv p q c s' := by
  obtain ⟨same, left, right, leftOnce, rightOnce, leftReads, rightReads⟩ := apart
  unfold Turns.stepLeft at stepped
  cases program : s.left with
  | done a =>
    rw [program] at stepped
    cases stepped
  | load next =>
    rw [program] at stepped left leftOnce leftReads
    obtain rfl := Option.some.inj stepped
    refine .inl ⟨same, ?_, right, leftOnce s.cell, rightOnce, ?_, rightReads⟩
    · dsimp only
      rw [same]
      exact left
    · dsimp only
      rw [same]
      exact leftReads.2
  | wait next =>
    rw [program] at stepped left leftOnce leftReads
    obtain rfl := Option.some.inj stepped
    exact .inl ⟨same, left, right, leftOnce, rightOnce, leftReads, rightReads⟩
  | save content next =>
    rw [program] at stepped left leftOnce
    obtain rfl := Option.some.inj stepped
    obtain ⟨a, alone⟩ := Program.exec_quiet leftOnce
    have outcome : p.exec c = (a, content) := left.symm.trans (alone content)
    refine .inr (.inl ⟨leftOnce, fun d => ?_, .inl ⟨rfl, ?_, right, rightReads⟩⟩)
    · rw [alone d, outcome]
    · rw [outcome]

theorem Ahead.stepLeft {p q : Program C A} {c : C} {s s' : Turns C A} (ahead : Ahead p q c s)
    (stepped : s.stepLeft = some s') : Ahead p q c s' := by
  obtain ⟨quiet, result, other⟩ := ahead
  unfold Turns.stepLeft at stepped
  cases program : s.left with
  | done a =>
    rw [program] at stepped
    cases stepped
  | load next =>
    rw [program] at quiet
    exact quiet.elim
  | wait next =>
    rw [program] at stepped quiet result
    obtain rfl := Option.some.inj stepped
    exact ⟨quiet, result,
      other.imp (fun behind => ⟨behind.stale, behind.cell, behind.right, behind.reads⟩) id⟩
  | save content next =>
    rw [program] at quiet
    exact quiet.elim

theorem Ahead.stepOther {p q : Program C A} {c : C} {s s' : Turns C A} (ahead : Ahead q p c s.swap)
    (fresh : s.FreshLeft) (stepped : s.stepLeft = some s') : Ahead q p c s'.swap := by
  obtain ⟨quiet, result, other⟩ := ahead
  unfold Turns.stepLeft at stepped
  cases program : s.left with
  | done a =>
    rw [program] at stepped
    cases stepped
  | load next =>
    rw [program] at stepped
    obtain rfl := Option.some.inj stepped
    refine ⟨quiet, result, .inr ?_⟩
    rcases other with ⟨_, cell, _, reads⟩ | same
    · -- What it began on the old content does not matter.
      have read : s.left.Reads _ c := reads
      rw [program] at read
      have cell' : s.cell = (q.exec c).2 := cell
      show (next s.cell).exec s.cell = _
      rw [cell']
      exact read.1
    · have same' : s.left.exec s.cell = _ := same
      rw [program] at same'
      exact same'
  | wait next =>
    rw [program] at stepped
    obtain rfl := Option.some.inj stepped
    refine ⟨quiet, result, ?_⟩
    rcases other with ⟨stale, cell, right, reads⟩ | same
    · have right' : s.left.exec c = _ := right
      have read : s.left.Reads _ c := reads
      rw [program] at right' read
      exact .inl ⟨stale, cell, right', read⟩
    · have same' : s.left.exec s.cell = _ := same
      rw [program] at same'
      exact .inr same'
  | save content next =>
    have current := fresh content next program
    rw [program] at stepped
    obtain rfl := Option.some.inj stepped
    refine ⟨quiet, result, .inr ?_⟩
    rcases other with ⟨stale, _⟩ | same
    · have stale' : s.leftStale = true := stale
      rw [current] at stale'
      cases stale'
    · have same' : s.left.exec s.cell = _ := same
      rw [program] at same'
      exact same'

theorem Inv.stepLeft {p q : Program C A} {c : C} {s s' : Turns C A} (inv : Inv p q c s)
    (fresh : s.FreshLeft) (stepped : s.stepLeft = some s') : Inv p q c s' := by
  rcases inv with apart | ahead | ahead
  · exact apart.stepLeft stepped
  · exact .inr (.inl (ahead.stepLeft stepped))
  · exact .inr (.inr (ahead.stepOther fresh stepped))

theorem Inv.step {p q : Program C A} {c : C} {s s' : Turns C A} {side : Side} (inv : Inv p q c s)
    (fresh : s.Fresh side) (stepped : s.step side = some s') : Inv p q c s' := by
  cases side with
  | left => exact inv.stepLeft fresh stepped
  | right =>
    obtain ⟨t, other, rfl⟩ := Option.map_eq_some_iff.mp stepped
    exact (inv.swap.stepLeft fresh other).swap

theorem Inv.run {p q : Program C A} {c : C} {s s' : Turns C A} {sides : List Side}
    (inv : Inv p q c s) (fresh : Run.Each Turns.step Fresh s sides)
    (ran : Run Turns.step s sides = some s') :
    Inv p q c s' := by
  induction sides generalizing s with
  | nil =>
    rw [← Option.some.inj ran]
    exact inv
  | cons side sides ih =>
    obtain ⟨next, stepped, rest⟩ := Run.cons_some ran
    obtain ⟨now, later⟩ := fresh next stepped
    exact ih (inv.step now stepped) later rest

theorem Inv.inOrder {p q : Program C A} {c : C} {s : Turns C A} (inv : Inv p q c s) {a b : A}
    (left : s.left = .done a) (right : s.right = .done b) :
    Program.InOrder p q c a b s.cell ∨ Program.InOrder q p c b a s.cell := by
  -- The program that wrote first is followed by the other, or preceded by it when it wrote nothing.
  have ahead : ∀ {p q : Program C A} {s : Turns C A} {a b : A}, Ahead p q c s → s.left = .done a →
      s.right = .done b → Program.InOrder p q c a b s.cell ∨ Program.InOrder q p c b a s.cell := by
    intro p q s a b ⟨_, result, other⟩ left right
    have first : a = (p.exec c).1 := by
      have := result c
      rw [left] at this
      exact this
    rcases other with ⟨_, cell, alone, _⟩ | after
    · rw [right] at alone
      refine .inr ⟨by rw [← alone]; rfl, ?_⟩
      rw [← alone, first, cell]
      rfl
    · rw [right] at after
      exact .inl ⟨first.symm, after.symm⟩
  rcases inv with ⟨cell, leftAlone, rightAlone, _⟩ | first | second
  · rw [left] at leftAlone
    rw [right] at rightAlone
    refine .inl ⟨by rw [← leftAlone]; rfl, ?_⟩
    rw [← leftAlone, cell]
    exact rightAlone.symm
  · exact ahead first left right
  · exact (ahead second right left).symm

/-- Programs that write over nothing they have not read do what they would do one after the
other. -/
theorem inOrder_of_fresh {p q : Program C A} {c : C} (leftOnce : p.OneSave) (rightOnce : q.OneSave)
    (leftSteady : p.Steady c (q.exec c).2) (rightSteady : q.Steady c (p.exec c).2)
    {sides : List Side} {s : Turns C A} {a b : A}
    (ran : Run step ⟨p, q, c, false, false⟩ sides = some s)
    (fresh : Run.Each step Fresh ⟨p, q, c, false, false⟩ sides) (left : s.left = .done a)
    (right : s.right = .done b) :
    Program.InOrder p q c a b s.cell ∨ Program.InOrder q p c b a s.cell := by
  have start : Inv p q c ⟨p, q, c, false, false⟩ :=
    .inl ⟨rfl, rfl, rfl, leftOnce, rightOnce, leftSteady, rightSteady⟩
  exact (start.run fresh ran).inOrder left right

end Turns
end GrokingClawId
