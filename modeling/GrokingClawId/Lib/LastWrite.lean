import Mathlib.Data.List.Induction

/-!
# The last write of a key

A table that is changed by events, each of which writes one key, erases one or touches none. After any
events a key has what the last event that touched it left.
-/

namespace GrokingClawId.LastWrite
variable {E K V : Type}

def Touches (effect : E → Option (K × Option V)) (k : K) (e : E) : Prop :=
  ∃ w, effect e = some (k, w)

/-- The value was written last of all that touched the key, or was there and nothing touched it. -/
def Stored (effect : E → Option (K × Option V)) (start : Option V) (events : List E) (k : K)
    (v : V) :
    Prop :=
  (∃ before e after, events = before ++ e :: after ∧ effect e = some (k, some v) ∧
      ∀ later ∈ after, ¬ Touches effect k later) ∨
    start = some v ∧ ∀ e ∈ events, ¬ Touches effect k e

variable {effect : E → Option (K × Option V)} {start : Option V} {events : List E} {e : E} {k : K} {v : V}

theorem stored_nil : Stored effect start [] k v ↔ start = some v := by
  simp [Stored]

/-- An event of a longer sequence is the last one or stands before it. -/
theorem split_snoc {before after : List E} {last : E}
    (split : events ++ [e] = before ++ last :: after) :
    (after = [] ∧ last = e) ∨ ∃ front, after = front ++ [e] ∧ events = before ++ last :: front := by
  rcases List.eq_nil_or_concat after with rfl | ⟨front, final, rfl⟩
  · obtain ⟨_, same⟩ := List.append_inj' split rfl
    exact .inl ⟨rfl, (List.cons.inj same).1.symm⟩
  · have same : events ++ [e] = (before ++ last :: front) ++ [final] := by
      rw [split]
      simp
    obtain ⟨begins, ends⟩ := List.append_inj' same rfl
    obtain rfl := (List.cons.inj ends).1
    exact .inr ⟨front, List.concat_eq_append .., begins⟩

theorem stored_snoc_touch {w : Option V} (touched : effect e = some (k, w)) :
    Stored effect start (events ++ [e]) k v ↔ w = some v := by
  constructor
  · rintro (⟨before, last, after, split, written, quiet⟩ | ⟨_, quiet⟩)
    · rcases split_snoc split with ⟨rfl, rfl⟩ | ⟨front, rfl, _⟩
      · exact congrArg Prod.snd (Option.some.inj (touched.symm.trans written))
      · exact absurd ⟨w, touched⟩ (quiet e (by simp))
    · exact absurd ⟨w, touched⟩ (quiet e (by simp))
  · rintro rfl
    exact .inl ⟨events, e, [], rfl, touched, by simp⟩

theorem stored_snoc_other (other : ¬ Touches effect k e) :
    Stored effect start (events ++ [e]) k v ↔ Stored effect start events k v := by
  have both {rest : List E} : (∀ later ∈ rest ++ [e], ¬ Touches effect k later) ↔
      ∀ later ∈ rest, ¬ Touches effect k later := by
    rw [List.forall_mem_append]
    exact and_iff_left (List.forall_mem_singleton.mpr other)
  constructor
  · rintro (⟨before, last, after, split, written, quiet⟩ | ⟨there, quiet⟩)
    · rcases split_snoc split with ⟨rfl, rfl⟩ | ⟨front, rfl, begins⟩
      · exact absurd ⟨_, written⟩ other
      · exact .inl ⟨before, last, front, begins, written, both.mp quiet⟩
    · exact .inr ⟨there, both.mp quiet⟩
  · rintro (⟨before, last, after, rfl, written, quiet⟩ | ⟨there, quiet⟩)
    · exact .inl ⟨before, last, after ++ [e], by simp, written, both.mpr quiet⟩
    · exact .inr ⟨there, both.mpr quiet⟩

/-- A table that the events change as they say has what was stored last. -/
theorem lookup_iff {S : Type} (step : S → E → S) (lookup : S → K → Option V)
    (touch : ∀ e ∈ events, ∀ s k w, effect e = some (k, w) → lookup (step s e) k = w)
    (frame : ∀ e ∈ events, ∀ s k, ¬ Touches effect k e → lookup (step s e) k = lookup s k) (s : S) :
    lookup (events.foldl step s) k = some v ↔ Stored effect (lookup s k) events k v := by
  induction events using List.reverseRecOn with
  | nil => exact stored_nil.symm
  | append_singleton events e ih =>
    have last : e ∈ events ++ [e] := List.mem_append_right _ (List.mem_singleton_self e)
    have before := ih (fun e' member => touch e' (List.mem_append_left _ member))
      (fun e' member => frame e' (List.mem_append_left _ member))
    rw [List.foldl_append, List.foldl_cons, List.foldl_nil]
    by_cases touched : Touches effect k e
    · obtain ⟨w, written⟩ := touched
      rw [touch e last _ k w written, stored_snoc_touch written]
    · rw [frame e last _ k touched, before, stored_snoc_other touched]

end GrokingClawId.LastWrite
