import Mathlib.Data.Char
import Mathlib.Data.List.Lex
import Mathlib.Data.Nat.Basic
import Mathlib.Data.Prod.Lex
import Mathlib.Data.Sum.Order
import Mathlib.Order.WithBot
import GrokingClawId.Lib.Text

/-!
# Semantic versions

Versions `MAJOR.MINOR.PATCH` with an optional pre-release and optional build metadata, and their
precedence. Build metadata has no part in the precedence and is not kept.
-/

namespace GrokingClawId

namespace Semver

/-- A numeric identifier comes before any other. -/
abbrev Identifier := ℕ ⊕ₗ List Char

end Semver

structure Semver where
  major : Nat
  minor : Nat
  patch : Nat
  prerelease : Option (List Semver.Identifier)

namespace Semver
open Text

/-! ### Precedence -/

/-- A version without a pre-release comes after its pre-releases. -/
def precedence (v : Semver) : ℕ ×ₗ ℕ ×ₗ ℕ ×ₗ WithTop (List Identifier) :=
  toLex (v.major, toLex (v.minor, toLex (v.patch, v.prerelease)))

def Newer (new old : Semver) : Prop := old.precedence < new.precedence

instance (new old : Semver) : Decidable (Newer new old) :=
  inferInstanceAs (Decidable (old.precedence < new.precedence))

theorem newer_iff {new old : Semver} :
    Newer new old ↔ old.major < new.major ∨ old.major = new.major ∧
    (old.minor < new.minor ∨ old.minor = new.minor ∧
    (old.patch < new.patch ∨ old.patch = new.patch ∧
      (show WithTop (List Identifier) from old.prerelease) < new.prerelease)) := by
  simp only [Newer, precedence, Prod.Lex.toLex_lt_toLex]

theorem Newer.major_le {new old : Semver} (newer : Newer new old) : old.major ≤ new.major := by
  rcases newer_iff.mp newer with later | ⟨same, _⟩
  · exact later.le
  · exact same.le

/-! ### Texts -/

/-- The text up to a separator, and what follows it. -/
def cut (sep : Char) (s : List Char) : List Char × Option (List Char) :=
  match splitOnce sep s with
  | some (front, back) => (front, some back)
  | none => (s, none)

/-- A number without leading zeros. -/
def number (s : List Char) : Option Nat :=
  if s.head? = some '0' ∧ s ≠ ['0'] then none else parseDigits s

def legal (s : List Char) : Bool := s ≠ [] && s.all fun c => c.isAlphanum || c == '-'

def identifier (s : List Char) : Option Identifier :=
  if legal s then if s.all Char.isDigit then (number s).map fun n => toLex (.inl n) else some (toLex (.inr s))
  else none

/-- The identifiers of a pre-release, when there is one. -/
def identifiers : Option (List Char) → Option (Option (List Identifier))
  | some s => ((s.splitOn '.').mapM identifier).map some
  | none => some none

def parse (text : String) : Option Semver := do
  let (major, rest) ← splitOnce '.' text.toList
  let (minor, rest) ← splitOnce '.' rest
  let (rest, build) := cut '+' rest
  let (patch, prerelease) := cut '-' rest
  if (build.map fun s => (s.splitOn '.').all legal).getD true then
    some ⟨← number major, ← number minor, ← number patch, ← identifiers prerelease⟩
  else none

theorem number_digits {s : List Char} {n : Nat} (read : number s = some n) :
    parseDigits s = some n := by
  unfold number at read
  split at read
  · cases read
  · exact read

/-- A version starts with its major number and a dot. -/
theorem parse_major {text : String} {v : Semver} (read : parse text = some v) :
    ∃ major rest, text.toList = major ++ '.' :: rest ∧ '.' ∉ major ∧
      number major = some v.major := by
  unfold parse at read
  obtain ⟨⟨major, rest⟩, first, read⟩ := Option.bind_eq_some_iff.mp read
  obtain ⟨free, whole⟩ := splitOnce_eq_some first
  obtain ⟨⟨minor, rest'⟩, _, read⟩ := Option.bind_eq_some_iff.mp read
  refine ⟨major, rest, whole, free, ?_⟩
  dsimp only at read
  split at read
  · obtain ⟨n, number, read⟩ := Option.bind_eq_some_iff.mp read
    obtain ⟨_, _, read⟩ := Option.bind_eq_some_iff.mp read
    obtain ⟨_, _, read⟩ := Option.bind_eq_some_iff.mp read
    obtain ⟨_, _, read⟩ := Option.bind_eq_some_iff.mp read
    obtain rfl := Option.some.inj read
    exact number
  · cases read

end Semver
end GrokingClawId
