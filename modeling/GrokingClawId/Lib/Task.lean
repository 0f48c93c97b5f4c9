import Mathlib.Data.List.Basic

/-!
# Tasks on a shared state

A task goes from one access of a state it shares with others to the next and ends with a result, or
dies. What it returns is looked at for all that the others may do to the state in between.
-/

namespace GrokingClawId

inductive Task (D A : Type) where
  | done (a : A)
  | died
  | access (change : D → D) (next : D → Task D A)

namespace Task
variable {D A B C : Type}

def bind : Task D A → (A → Task D B) → Task D B
  | done a, f => f a
  | died, _ => died
  | access change next, f => access change fun d => (next d).bind f

instance : Monad (Task D) where
  pure := done
  bind := bind

theorem bind_eq (t : Task D A) (f : A → Task D B) : t >>= f = t.bind f := rfl

theorem bind_done (t : Task D A) : t.bind done = t := by
  induction t with
  | done a => rfl
  | died => rfl
  | access change next ih => exact congrArg (access change) (funext ih)

theorem bind_assoc (t : Task D A) (f : A → Task D B) (g : B → Task D C) :
    (t.bind f).bind g = t.bind fun a => (f a).bind g := by
  induction t with
  | done a => rfl
  | died => rfl
  | access change next ih => exact congrArg (access change) (funext ih)

instance : LawfulMonad (Task D) := LawfulMonad.mk' (Task D) bind_done (fun _ _ => rfl) bind_assoc

/-- What is left of the task after some of its accesses, each with the state it found and the one it
left. -/
inductive Reaches : Task D A → List (D × D) → Task D A → Prop
  | refl (t : Task D A) : Reaches t [] t
  | access {change : D → D} {next : D → Task D A} (d : D) {along : List (D × D)} {t : Task D A}
    (later : Reaches (next d) along t) : Reaches (access change next) ((d, change d) :: along) t

def Returns (t : Task D A) (along : List (D × D)) (a : A) : Prop := t.Reaches along (done a)

theorem Reaches.trans {t u v : Task D A} {along along' : List (D × D)} (first : t.Reaches along u)
    (second : u.Reaches along' v) : t.Reaches (along ++ along') v := by
  induction first with
  | refl t => exact second
  | access d later ih => exact .access d (ih second)

theorem Reaches.next {t : Task D A} {along : List (D × D)} {change : D → D} {next : D → Task D A}
    (reached : t.Reaches along (Task.access change next)) (d : D) :
    t.Reaches (along ++ [(d, change d)]) (next d) :=
  reached.trans (.access d (.refl _))

theorem returns_bind {t : Task D A} {f : A → Task D B} {along : List (D × D)} {b : B}
    (returned : (t.bind f).Returns along b) :
    ∃ a before after, along = before ++ after ∧ t.Returns before a ∧ (f a).Returns after b := by
  induction t generalizing along with
  | done a => exact ⟨a, [], along, rfl, .refl _, returned⟩
  | died => cases returned
  | access change next ih =>
    cases returned with
    | access d later =>
      obtain ⟨a, before, after, rfl, first, second⟩ := ih d later
      exact ⟨a, _, after, rfl, .access d first, second⟩

theorem returns_map {t : Task D A} {f : A → B} {along : List (D × D)} {b : B}
    (returned : (f <$> t).Returns along b) : ∃ a, t.Returns along a ∧ b = f a := by
  rw [map_eq_pure_bind] at returned
  obtain ⟨a, before, after, rfl, first, last⟩ := returns_bind returned
  cases last
  exact ⟨a, by rwa [List.append_nil], rfl⟩

/-- Every result has the property. -/
def Always (P : A → Prop) : Task D A → Prop
  | done a => P a
  | died => True
  | access _ next => ∀ d, (next d).Always P

theorem Always.reaches {P : A → Prop} {t u : Task D A} {along : List (D × D)} (always : t.Always P)
    (reached : t.Reaches along u) : u.Always P := by
  induction reached with
  | refl t => exact always
  | access d later ih => exact ih (always d)

theorem Always.returns {P : A → Prop} {t : Task D A} (always : t.Always P) {along : List (D × D)}
    {a : A} (returned : t.Returns along a) : P a :=
  always.reaches returned

theorem always_bind {P : B → Prop} {t : Task D A} {f : A → Task D B} :
    (t.bind f).Always P ↔ t.Always fun a => (f a).Always P := by
  induction t with
  | done a => exact Iff.rfl
  | died => exact Iff.rfl
  | access change next ih => exact forall_congr' ih

theorem always_do {P : B → Prop} {t : Task D A} {f : A → Task D B} :
    (t >>= f).Always P ↔ t.Always fun a => (f a).Always P :=
  always_bind

theorem always_map {P : B → Prop} {t : Task D A} {f : A → B} :
    (f <$> t).Always P ↔ t.Always fun a => P (f a) := by
  rw [map_eq_pure_bind]
  exact always_bind

theorem Always.mono {P Q : A → Prop} {t : Task D A} (always : t.Always P) (implies : ∀ a, P a → Q a) :
    t.Always Q := by
  induction t with
  | done a => exact implies a always
  | died => trivial
  | access change next ih => exact fun d => ih d (always d)

theorem always_of_forall {P : A → Prop} (all : ∀ a, P a) (t : Task D A) : t.Always P := by
  induction t with
  | done a => exact all a
  | died => trivial
  | access change next ih => exact fun d => ih d

/-- Ended before any access. -/
def Settled : Task D A → Prop
  | done _ => True
  | died => False
  | access _ _ => False

theorem Settled.reaches {t u : Task D A} {along : List (D × D)} (settled : t.Settled)
    (reached : t.Reaches along u) : u = t := by
  cases reached with
  | refl t => rfl
  | access d later => exact settled.elim

/-- Run alone. -/
def exec : Task D A → D → Option A × D
  | done a, d => (some a, d)
  | died, d => (none, d)
  | access change next, d => (next d).exec (change d)

theorem exec_bind (t : Task D A) (f : A → Task D B) (d : D) :
    (t.bind f).exec d = match t.exec d with
      | (some a, d) => (f a).exec d
      | (none, d) => (none, d) := by
  induction t generalizing d with
  | done a => rfl
  | died => rfl
  | access change next ih => exact ih d (change d)

end Task
end GrokingClawId
