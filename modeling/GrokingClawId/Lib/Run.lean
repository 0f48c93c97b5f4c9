import Mathlib.Data.List.Basic

/-!
# Runs of a partial step function

A run is a list of events, and a step that gives no state ends it. A statement about every step of
a run is taken from the state before each step.
-/

namespace GrokingClawId

def Run {S E : Type} (step : S → E → Option S) : S → List E → Option S
  | s, [] => some s
  | s, e :: events => (step s e).bind fun s' => Run step s' events

namespace Run
variable {S E : Type} {step : S → E → Option S}

/-- `Q` holds of every step that is taken and the state before it. -/
def Each (step : S → E → Option S) (Q : S → E → Prop) : S → List E → Prop
  | _, [] => True
  | s, e :: events => ∀ s', step s e = some s' → Q s e ∧ Each step Q s' events

theorem cons {s s' s'' : S} {e : E} {events : List E} (first : step s e = some s')
    (rest : Run step s' events = some s'') : Run step s (e :: events) = some s'' := by
  simp only [Run, first, Option.bind_some, rest]

theorem cons_some {s s'' : S} {e : E} {events : List E}
    (ran : Run step s (e :: events) = some s'') :
    ∃ s', step s e = some s' ∧ Run step s' events = some s'' :=
  Option.bind_eq_some_iff.mp ran

theorem append (s : S) (before after : List E) :
    Run step s (before ++ after) = (Run step s before).bind fun s' => Run step s' after := by
  induction before generalizing s with
  | nil => rfl
  | cons e before ih =>
    rw [List.cons_append, Run, Run, Option.bind_assoc]
    congr 1
    funext s'
    exact ih s'

/-- What every step under a condition on its event preserves, a run of such events does. -/
theorem preserves {inv : S → Prop} {allowed : E → Prop}
    (kept : ∀ s e s', inv s → allowed e → step s e = some s' → inv s') {s s' : S} {events : List E}
    (start : inv s) (meets : ∀ e ∈ events, allowed e) (ran : Run step s events = some s') :
    inv s' := by
  induction events generalizing s with
  | nil =>
    rw [← Option.some.inj ran]
    exact start
  | cons e events ih =>
    obtain ⟨next, stepped, rest⟩ := cons_some ran
    have current := kept s e next start (meets e List.mem_cons_self) stepped
    exact ih current (fun e member => meets e (List.mem_cons_of_mem _ member)) rest

/-- What every step that meets `C` preserves, a run of such steps does. -/
theorem each_preserves {inv : S → Prop} {C : S → E → Prop}
    (kept : ∀ s e s', inv s → C s e → step s e = some s' → inv s') {s s' : S} {events : List E}
    (start : inv s) (each : Each step C s events) (ran : Run step s events = some s') : inv s' := by
  induction events generalizing s with
  | nil =>
    rw [← Option.some.inj ran]
    exact start
  | cons e events ih =>
    obtain ⟨next, stepped, rest⟩ := cons_some ran
    obtain ⟨met, later⟩ := each next stepped
    exact ih (kept s e next start met stepped) later rest

theorem each_last {Q : S → E → Prop} {s s' s'' : S} {events : List E} {e : E}
    (each : Each step Q s (events ++ [e])) (ran : Run step s events = some s')
    (stepped : step s' e = some s'') : Q s' e := by
  induction events generalizing s with
  | nil =>
    obtain rfl := Option.some.inj ran
    exact (each s'' stepped).1
  | cons first events ih =>
    obtain ⟨next, begins, rest⟩ := cons_some ran
    exact ih (each next begins).2 rest

/-- A statement that follows from an invariant holds of every step of a run. -/
theorem each_of {I : S → Prop} {A : E → Prop} {Q : S → E → Prop}
    (holds : ∀ s e, I s → A e → Q s e) (kept : ∀ s e s', I s → A e → step s e = some s' → I s')
    {s : S} {events : List E} (start : I s) (meets : ∀ e ∈ events, A e) : Each step Q s events := by
  induction events generalizing s with
  | nil => trivial
  | cons e events ih =>
    intro s' stepped
    have first := meets e List.mem_cons_self
    exact ⟨holds s e start first,
      ih (kept s e s' start first stepped) fun e member => meets e (List.mem_cons_of_mem _ member)⟩

/-- Under an invariant that each step keeps when it meets `C`, a step statement that is equivalent
to `C` there holds along a run exactly when `C` does. -/
theorem each_iff {inv : S → Prop} {C Q : S → E → Prop}
    (kept : ∀ s e s', inv s → C s e → step s e = some s' → inv s')
    (exact : ∀ s e s', inv s → step s e = some s' → (Q s e ↔ C s e))
    {s : S} (start : inv s) (events : List E) :
    Each step Q s events ↔ Each step C s events := by
  induction events generalizing s with
  | nil => exact Iff.rfl
  | cons e events ih =>
    constructor
    · intro each s' stepped
      obtain ⟨holds, rest⟩ := each s' stepped
      have met := (exact s e s' start stepped).mp holds
      exact ⟨met, (ih (kept s e s' start met stepped)).mp rest⟩
    · intro each s' stepped
      obtain ⟨met, rest⟩ := each s' stepped
      exact ⟨(exact s e s' start stepped).mpr met, (ih (kept s e s' start met stepped)).mpr rest⟩

/-- What follows from an invariant and a condition holds along a run that meets the condition. -/
theorem each_imp {inv : S → Prop} {C Q : S → E → Prop}
    (kept : ∀ s e s', inv s → C s e → step s e = some s' → inv s') (holds : ∀ s e, inv s → C s e → Q s e)
    {s : S} {events : List E} (start : inv s) (each : Each step C s events) : Each step Q s events := by
  induction events generalizing s with
  | nil => trivial
  | cons e events ih =>
    intro s' stepped
    obtain ⟨met, later⟩ := each s' stepped
    exact ⟨holds s e start met, ih (kept s e s' start met stepped) later⟩

/-- The state after the step has the property. -/
def Leads (step : S → E → Option S) (P : S → Prop) (s : S) (e : E) : Prop :=
  ∀ s', step s e = some s' → P s'

/-- A property of every state on the way is one of the first state and of what each step leads
to. -/
theorem reached_iff {P : S → Prop} {s : S} {events : List E} :
    (∀ before s', before <+: events → Run step s before = some s' → P s') ↔
      P s ∧ Each step (Leads step P) s events := by
  induction events generalizing s with
  | nil =>
    constructor
    · intro reached
      exact ⟨reached [] s (List.prefix_refl _) rfl, trivial⟩
    · rintro ⟨first, _⟩ before s' initial ran
      obtain rfl := List.prefix_nil.mp initial
      rw [← Option.some.inj ran]
      exact first
  | cons e events ih =>
    constructor
    · intro reached
      refine ⟨reached [] s List.nil_prefix rfl, fun s' stepped => ?_⟩
      have later := ih.mp fun before t initial ran =>
        reached (e :: before) t (List.cons_prefix_cons.mpr ⟨rfl, initial⟩) (cons stepped ran)
      refine ⟨fun t other => ?_, later.2⟩
      obtain rfl := Option.some.inj (stepped.symm.trans other)
      exact later.1
    · rintro ⟨first, each⟩ before s' initial ran
      cases before with
      | nil =>
        rw [← Option.some.inj ran]
        exact first
      | cons e' before =>
        obtain ⟨rfl, front⟩ := List.cons_prefix_cons.mp initial
        obtain ⟨next, stepped, rest⟩ := cons_some ran
        obtain ⟨leads, later⟩ := each next stepped
        exact ih.mpr ⟨leads next stepped, later⟩ before s' front rest

end Run
end GrokingClawId
