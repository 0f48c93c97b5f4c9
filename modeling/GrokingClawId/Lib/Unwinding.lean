import Mathlib.Data.List.Basic

/-!
# What some inputs show of the others

A machine that answers each of its inputs. When the inputs of one kind keep a relation between states
that the answers to the other kind respect, those answers are what they are without the first kind.
-/

namespace GrokingClawId.Unwinding
variable {S I O : Type}

/-- The state after the inputs, and each of them with its answer. -/
def exchange (step : S → I → S × O) : S → List I → S × List (I × O)
  | s, [] => (s, [])
  | s, i :: inputs =>
    let after := exchange step (step s i).1 inputs
    (after.1, (i, (step s i).2) :: after.2)

variable {step : S → I → S × O} {same : S → S → Prop} {seen : I → Bool}

/-- The inputs that are not seen leave a state related, and those that are seen are answered alike. -/
structure Unwinds (step : S → I → S × O) (same : S → S → Prop) (seen : I → Bool) : Prop where
  unseen : ∀ s t i, same s t → seen i = false → same (step s i).1 t
  state : ∀ s t i, same s t → seen i = true → same (step s i).1 (step t i).1
  answer : ∀ s t i, same s t → seen i = true → (step s i).2 = (step t i).2

theorem exchange_purged (unwinds : Unwinds step same seen) {s t : S} (related : same s t) (inputs : List I) :
    same (exchange step s inputs).1 (exchange step t (inputs.filter seen)).1 ∧
      (exchange step s inputs).2.filter (fun pair => seen pair.1) =
        (exchange step t (inputs.filter seen)).2 := by
  induction inputs generalizing s t with
  | nil => exact ⟨related, rfl⟩
  | cons i inputs ih =>
    cases shown : seen i with
    | false =>
      obtain ⟨states, answers⟩ := ih (unwinds.unseen s t i related shown)
      rw [List.filter_cons_of_neg (by simp [shown]), exchange]
      refine ⟨states, ?_⟩
      rw [List.filter_cons_of_neg (by simp [shown])]
      exact answers
    | true =>
      obtain ⟨states, answers⟩ := ih (unwinds.state s t i related shown)
      rw [List.filter_cons_of_pos shown, exchange, exchange]
      refine ⟨states, ?_⟩
      rw [List.filter_cons_of_pos (by exact shown), answers, unwinds.answer s t i related shown]

/-- Inputs that leave the state as it is are each answered as if they came first. -/
theorem exchange_idle {s : S} {inputs : List I} (idle : ∀ i ∈ inputs, (step s i).1 = s) :
    exchange step s inputs = (s, inputs.map fun i => (i, (step s i).2)) := by
  induction inputs with
  | nil => rfl
  | cons i inputs ih =>
    have first := idle i List.mem_cons_self
    rw [exchange, first, ih fun j member => idle j (List.mem_cons_of_mem _ member)]
    rfl

end GrokingClawId.Unwinding
