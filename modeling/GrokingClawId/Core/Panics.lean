import GrokingClawId.Core.Crypto

/-!
# Panics

Which calls panic, read off the steps of a function. A release build is compiled with
`panic = "abort"`, so that a panic ends the process.
-/

namespace GrokingClawId.Core

variable {α β : Type}

def Panics (x : Outcome α) : Prop := ∃ reason, x = .error (.panic reason)

@[simp] theorem not_panics_ok (a : α) : ¬ Panics (.ok a : Outcome α) := by
  rintro ⟨reason, same⟩
  cases same

@[simp] theorem not_panics_error (message : String) :
    ¬ Panics (.error (.error message) : Outcome α) := by
  rintro ⟨reason, same⟩
  cases same

@[simp] theorem panics_panic (reason : String) : Panics (.error (.panic reason) : Outcome α) :=
  ⟨reason, rfl⟩

@[simp] theorem not_panics_orFault (x : Except String α) : ¬ Panics (orFault x) := by
  cases x with
  | error message => exact not_panics_error message
  | ok a => exact not_panics_ok a

theorem panics_error {fault : Fault} :
    Panics (.error fault : Outcome α) ↔ ∃ reason, fault = .panic reason := by
  simp [Panics]

theorem bind_eq_ok {x : Outcome α} {f : α → Outcome β} {b : β} :
    (x >>= f) = .ok b ↔ ∃ a, x = .ok a ∧ f a = .ok b := by
  constructor
  · exact bind_ok
  · rintro ⟨a, rfl, done⟩
    exact done

theorem panics_bind {x : Outcome α} {f : α → Outcome β} :
    Panics (x >>= f) ↔ Panics x ∨ ∃ a, x = .ok a ∧ Panics (f a) := by
  cases x with
  | error fault =>
    have stops : ((.error fault : Outcome α) >>= f) = .error fault := rfl
    rw [stops, panics_error, panics_error]
    simp
  | ok a =>
    refine ⟨fun panics => .inr ⟨a, rfl, panics⟩, ?_⟩
    rintro (panics | ⟨_, same, panics⟩)
    · exact absurd panics (not_panics_ok a)
    · rw [← Except.ok.inj same] at panics
      exact panics

theorem panics_ite {c : Prop} [Decidable c] {x y : Outcome α} :
    Panics (if c then x else y) ↔ c ∧ Panics x ∨ ¬ c ∧ Panics y := by
  by_cases here : c <;> simp [here]

theorem checked_eq_ok {c : Prop} [Decidable c] {a b : α} {reason : String} :
    (if c then .ok a else .error (.panic reason) : Outcome α) = .ok b ↔ c ∧ b = a := by
  by_cases here : c <;> simp [here, eq_comm]

theorem panics_checked {c : Prop} [Decidable c] {a : α} {reason : String} :
    Panics (if c then .ok a else .error (.panic reason) : Outcome α) ↔ ¬ c := by
  simp [panics_ite]

theorem orFault_eq {x : Except String α} {a : α} : orFault x = .ok a ↔ x = .ok a := by
  constructor
  · exact orFault_eq_ok
  · rintro rfl
    rfl

theorem mapError_eq {x : Except String α} {f : String → String} {a : α} :
    x.mapError f = .ok a ↔ x = .ok a := by
  constructor
  · exact mapError_eq_ok
  · rintro rfl
    rfl

theorem orErr_eq {o : Option α} {message : String} {a : α} :
    orErr o message = .ok a ↔ o = some a := by
  constructor
  · exact orErr_ok
  · rintro rfl
    rfl

end GrokingClawId.Core
