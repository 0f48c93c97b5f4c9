import GrokingClawId.Cli.Issue
import GrokingClawId.Core.HttpSig
import GrokingClawId.Core.Panics
import GrokingClawId.Lib.Slices

/-!
# The two readings of a TTL

`parse_ttl` of the daemon's `main.rs` beside that of `issue.rs`. The one multiplies in 64 bits, the
other in `chrono`, whose range is smaller; each of them splits off the last byte.
-/

namespace GrokingClawId.Daemon
open GrokingClawId.Core Text

/-- The products wrap around in a release build. -/
def ttlSeconds (num : Int64) (unit : Char) : Outcome Int64 :=
  if unit = 's' then .ok num
  else if unit = 'm' then .ok (num * 60)
  else if unit = 'h' then .ok (num * 3600)
  else if unit = 'd' then .ok (num * 86400)
  else if unit = 'w' then .ok (num * 604800)
  else .error (.error s!"Invalid TTL unit: '{unit}'. Expected: s, m, h, d, w")

/-- Thirty days when there is no text. -/
def parseTtl (ttl : String) : Outcome Int64 :=
  let ttl := trim ttl.toList
  match ttl.getLast? with
  | none => .ok (30 * 24 * 3600)
  | some unit =>
    if unit.utf8Size ≠ 1 then .error (.panic "byte index is not a char boundary")
    else
      let numStr := ttl.dropLast
      match parseI64 numStr with
      | none => .error (.error s!"Invalid TTL number: '{String.ofList numStr}'")
      | some num => ttlSeconds num unit

example : parseTtl "30d" = .ok 2592000 := by decide

/-! ### What a TTL means -/

def unitSeconds (unit : Char) : Option Int :=
  if unit = 's' then some 1
  else if unit = 'm' then some 60
  else if unit = 'h' then some 3600
  else if unit = 'd' then some 86400
  else if unit = 'w' then some 604800
  else none

/-- A number of 64 bits and a unit, blanks around them aside. -/
def Denotes (ttl : String) (seconds : Int) : Prop :=
  ∃ number unit num k, trim ttl.toList = number ++ [unit] ∧ parseI64 number = some num ∧
    unitSeconds unit = some k ∧ seconds = num.toInt * k

/-- Both parsers return, what either accepts is what the text means, and they agree. -/
structure ReadsTtl (ttl : String) : Prop where
  cliReturns : ¬ Panics (Cli.parseTtl ttl)
  returns : ¬ Panics (parseTtl ttl)
  cliExact : ∀ seconds, Cli.parseTtl ttl = .ok seconds → Denotes ttl seconds
  exact : ∀ seconds, parseTtl ttl = .ok seconds → trim ttl.toList = [] ∨ Denotes ttl seconds.toInt
  agree : ∀ a b, Cli.parseTtl ttl = .ok a → parseTtl ttl = .ok b → a = b.toInt

def CliUnit (unit : Char) : Prop := unit = 'm' ∨ unit = 'h' ∨ unit = 'd'

/-- The range of `TimeDelta` in seconds. -/
def ChronoRange (seconds : Int) : Prop := -9223372036854775 ≤ seconds ∧ seconds ≤ 9223372036854775

/-- The last character is one byte, and the product of a number and its unit is within the range of
the type that it is computed in. -/
def TtlInRange (ttl : String) : Prop :=
  ∀ number unit, trim ttl.toList = number ++ [unit] → unit.utf8Size = 1 ∧
    ∀ num k, parseI64 number = some num → unitSeconds unit = some k →
      (CliUnit unit → ChronoRange (num.toInt * k)) ∧
      -9223372036854775808 ≤ num.toInt * k ∧ num.toInt * k ≤ 9223372036854775807

/-! ### Numbers -/

theorem parseI64_toInt {s : List Char} {num : Int64} (read : parseI64 s = some num) :
    parseInt (-9223372036854775808) 9223372036854775807 s = some num.toInt := by
  obtain ⟨n, inner, rfl⟩ := Option.map_eq_some_iff.mp
    (show (parseInt (-9223372036854775808) 9223372036854775807 s).map Int64.ofInt = some num from read)
  obtain ⟨low, high⟩ := parseInt_bounds inner
  rw [inner, Int64.toInt_ofInt_of_le (by omega) (by omega)]

theorem parseI64_none {s : List Char} (refused : parseI64 s = none) :
    parseInt (-9223372036854775808) 9223372036854775807 s = none :=
  Option.map_eq_none_iff.mp refused

/-- A product does not wrap around exactly when it is in range. -/
theorem toInt_mul_eq_iff (a b : Int64) : (a * b).toInt = a.toInt * b.toInt ↔
    -9223372036854775808 ≤ a.toInt * b.toInt ∧ a.toInt * b.toInt ≤ 9223372036854775807 := by
  constructor
  · intro same
    have low := (a * b).le_toInt
    have high := (a * b).toInt_lt
    omega
  · rintro ⟨low, high⟩
    rw [Int64.toInt_mul, Int.bmod_eq_of_le (by omega) (by omega)]

theorem ttlSeconds_eq_ok {num seconds : Int64} {unit : Char} :
    ttlSeconds num unit = .ok seconds ↔
      ∃ k, unitSeconds unit = some k ∧ seconds = num * Int64.ofInt k := by
  unfold ttlSeconds unitSeconds
  split_ifs <;> simp [eq_comm]

theorem not_panics_ttlSeconds (num : Int64) (unit : Char) : ¬ Panics (ttlSeconds num unit) := by
  unfold ttlSeconds
  split_ifs <;> simp

/-! ### The parsers in their steps -/

/-- What `issue.rs` does with a number. -/
def chronoSeconds (num : Int) (unit : Char) : Outcome Int :=
  if unit = 'm' then Cli.timeDelta num 60
  else if unit = 'h' then Cli.timeDelta num 3600
  else if unit = 'd' then Cli.timeDelta num 86400
  else .error (.error
    s!"Unknown TTL unit: '{unit}'. Use 'm' (minutes), 'h' (hours), or 'd' (days)")

theorem timeDelta_eq_ok {num unit seconds : Int} :
    Cli.timeDelta num unit = .ok seconds ↔ ChronoRange (num * unit) ∧ seconds = num * unit :=
  checked_eq_ok

theorem panics_timeDelta {num unit : Int} :
    Panics (Cli.timeDelta num unit) ↔ ¬ ChronoRange (num * unit) :=
  panics_checked

theorem chronoSeconds_eq_ok {num seconds : Int} {unit : Char} :
    chronoSeconds num unit = .ok seconds ↔
      CliUnit unit ∧ ∃ k, unitSeconds unit = some k ∧ ChronoRange (num * k) ∧
      seconds = num * k := by
  unfold chronoSeconds unitSeconds CliUnit
  split_ifs <;> simp_all [timeDelta_eq_ok]

theorem panics_chronoSeconds {num : Int} {unit : Char} :
    Panics (chronoSeconds num unit) ↔
      CliUnit unit ∧ ∃ k, unitSeconds unit = some k ∧ ¬ ChronoRange (num * k) := by
  unfold chronoSeconds unitSeconds CliUnit
  split_ifs <;> simp_all [panics_timeDelta]

section Split
variable {ttl : String} {number : List Char} {unit : Char}
  (split : trim ttl.toList = number ++ [unit])
include split

theorem parseTtl_split : parseTtl ttl =
    if unit.utf8Size ≠ 1 then .error (.panic "byte index is not a char boundary")
    else match parseI64 number with
      | none => .error (.error s!"Invalid TTL number: '{String.ofList number}'")
      | some num => ttlSeconds num unit := by
  simp only [parseTtl, split, List.getLast?_concat, List.dropLast_concat]

theorem cliParseTtl_split : Cli.parseTtl ttl =
    if unit.utf8Size ≠ 1 then .error (.panic "byte index is not a char boundary")
    else match parseI64 number with
      | none => .error (.error s!"Invalid TTL number: '{String.ofList number}'")
      | some num => chronoSeconds num.toInt unit := by
  simp only [Cli.parseTtl, split, List.getLast?_concat, List.dropLast_concat]
  cases read : parseI64 number with
  | none => rw [parseI64_none read]
  | some num =>
    rw [parseI64_toInt read]
    rfl

theorem parseTtl_eq_ok {seconds : Int64} : parseTtl ttl = .ok seconds ↔
    unit.utf8Size = 1 ∧ ∃ num k, parseI64 number = some num ∧ unitSeconds unit = some k ∧
      seconds = num * Int64.ofInt k := by
  rw [parseTtl_split split]
  by_cases narrow : unit.utf8Size = 1
  · cases read : parseI64 number <;> simp [narrow, ttlSeconds_eq_ok]
  · simp [narrow]

theorem panics_parseTtl : Panics (parseTtl ttl) ↔ unit.utf8Size ≠ 1 := by
  rw [parseTtl_split split]
  by_cases narrow : unit.utf8Size = 1
  · cases read : parseI64 number <;> simp [narrow, not_panics_ttlSeconds]
  · simp [narrow]

theorem cliParseTtl_eq_ok {seconds : Int} : Cli.parseTtl ttl = .ok seconds ↔
    unit.utf8Size = 1 ∧ CliUnit unit ∧ ∃ num k, parseI64 number = some num ∧
      unitSeconds unit = some k ∧ ChronoRange (num.toInt * k) ∧ seconds = num.toInt * k := by
  rw [cliParseTtl_split split]
  by_cases narrow : unit.utf8Size = 1
  · cases read : parseI64 number <;> simp [narrow, chronoSeconds_eq_ok]
  · simp [narrow]

theorem panics_cliParseTtl : Panics (Cli.parseTtl ttl) ↔
    unit.utf8Size ≠ 1 ∨ CliUnit unit ∧ ∃ num k, parseI64 number = some num ∧
      unitSeconds unit = some k ∧ ¬ ChronoRange (num.toInt * k) := by
  rw [cliParseTtl_split split]
  by_cases narrow : unit.utf8Size = 1
  · cases read : parseI64 number <;> simp [narrow, panics_chronoSeconds]
  · simp [narrow]

end Split

/-! ### Exactly the texts that are read well -/

theorem unitSeconds_toInt {unit : Char} {k : Int} (known : unitSeconds unit = some k) :
    (Int64.ofInt k).toInt = k := by
  have units : ∀ k ∈ ([1, 60, 3600, 86400, 604800] : List Int),
      (Int64.ofInt k).toInt = k := by decide
  apply units
  unfold unitSeconds at known
  split_ifs at known <;> simp_all

theorem Denotes.unique {ttl : String} {number : List Char} {unit : Char} {num : Int64}
    {k seconds : Int} (split : trim ttl.toList = number ++ [unit])
    (read : parseI64 number = some num) (known : unitSeconds unit = some k)
    (meant : Denotes ttl seconds) : seconds = num.toInt * k := by
  obtain ⟨number', unit', num', k', split', read', known', rfl⟩ := meant
  obtain ⟨rfl, same⟩ := List.append_inj' (split'.symm.trans split) rfl
  obtain rfl := List.singleton_inj.mp same
  obtain rfl := Option.some.inj (read'.symm.trans read)
  rw [Option.some.inj (known'.symm.trans known)]

theorem TtlInRange.reads {ttl : String} (inRange : TtlInRange ttl) : ReadsTtl ttl := by
  rcases List.eq_nil_or_concat (trim ttl.toList) with empty | ⟨number, unit, split⟩
  · have cli : Cli.parseTtl ttl = .error (.error "TTL cannot be empty") := by
      rw [Cli.parseTtl, empty]
      rfl
    have daemon : parseTtl ttl = .ok (30 * 24 * 3600) := by
      rw [parseTtl, empty]
      rfl
    constructor <;> simp [cli, daemon, empty]
  · rw [List.concat_eq_append] at split
    obtain ⟨narrow, bounded⟩ := inRange number unit split
    have exact : ∀ {num : Int64} {k : Int}, parseI64 number = some num → unitSeconds unit = some k →
        (num * Int64.ofInt k).toInt = num.toInt * k := by
      intro num k read known
      have product := toInt_mul_eq_iff num (Int64.ofInt k)
      rw [unitSeconds_toInt known] at product
      exact product.mpr (bounded num k read known).2
    constructor
    · rw [panics_cliParseTtl split]
      rintro (wide | ⟨cliUnit, num, k, read, known, out⟩)
      · exact wide narrow
      · exact out ((bounded num k read known).1 cliUnit)
    · rw [panics_parseTtl split]
      exact fun wide => wide narrow
    · intro seconds accepted
      obtain ⟨_, _, num, k, read, known, _, rfl⟩ := (cliParseTtl_eq_ok split).mp accepted
      exact ⟨number, unit, num, k, split, read, known, rfl⟩
    · intro seconds accepted
      obtain ⟨_, num, k, read, known, rfl⟩ := (parseTtl_eq_ok split).mp accepted
      exact .inr ⟨number, unit, num, k, split, read, known, exact read known⟩
    · intro a b cli daemon
      obtain ⟨_, _, num, k, read, known, _, rfl⟩ := (cliParseTtl_eq_ok split).mp cli
      obtain ⟨_, num', k', read', known', rfl⟩ := (parseTtl_eq_ok split).mp daemon
      obtain rfl := Option.some.inj (read'.symm.trans read)
      obtain rfl := Option.some.inj (known'.symm.trans known)
      exact (exact read known).symm

theorem ReadsTtl.inRange {ttl : String} (reads : ReadsTtl ttl) : TtlInRange ttl := by
  intro number unit split
  have narrow : unit.utf8Size = 1 := by
    by_contra wide
    exact reads.returns ((panics_parseTtl split).mpr wide)
  refine ⟨narrow, fun num k read known => ⟨fun cliUnit => ?_, ?_⟩⟩
  · by_contra out
    exact reads.cliReturns ((panics_cliParseTtl split).mpr (.inr ⟨cliUnit, num, k, read, known, out⟩))
  · have accepted : parseTtl ttl = .ok (num * Int64.ofInt k) :=
      (parseTtl_eq_ok split).mpr ⟨narrow, num, k, read, known, rfl⟩
    have product := toInt_mul_eq_iff num (Int64.ofInt k)
    rw [unitSeconds_toInt known] at product
    rcases reads.exact _ accepted with empty | meant
    · rw [empty] at split
      exact absurd split.symm (by simp)
    · exact product.mp (meant.unique split read known)

theorem readsTtl_iff_inRange (ttl : String) : ReadsTtl ttl ↔ TtlInRange ttl :=
  ⟨ReadsTtl.inRange, TtlInRange.reads⟩

/-- The last byte of this text is inside a character. -/
theorem not_readsTtl : ¬ ∀ ttl, ReadsTtl ttl := by
  intro all
  exact (all "30é").returns ⟨"byte index is not a char boundary", by decide⟩

/-- Weeks that wrap around to the past. -/
example : parseTtl "15250284452472w" = .ok (-9223372036854486016) := by decide

end GrokingClawId.Daemon
