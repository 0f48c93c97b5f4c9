import GrokingClawId.Cli.Issue
import GrokingClawId.Core.Panics
import GrokingClawId.Lib.Slices

/-!
# Listing the audit log

`audit.rs` of the command line: the rows that are printed of the log, with targets and hashes cut to
the width of a column. Lengths and cuts are in bytes; the widths are in characters.
-/

namespace GrokingClawId.Cli.Audit
open GrokingClawId.Core Text Codec

/-! ### Rows -/

/-- `&s[..n]`. -/
def startOf (s : String) (n : Nat) : Outcome String :=
  match sliceBytes s.toList 0 n with
  | some start => .ok (String.ofList start)
  | none => .error (.panic "byte index is not a char boundary")

/-- With a length of 0 the end of the slice wraps around to the largest index. -/
def truncate (s : String) (maxLen : Nat) : Outcome String :=
  if byteLen s.toList ≤ maxLen then .ok s
  else if maxLen = 0 then .error (.panic "byte index is out of bounds")
  else do
    let start ← startOf s (maxLen - 1)
    .ok s!"{start}…"

def hashShort (entry : AuditEntry) : Outcome String :=
  if 16 ≤ byteLen entry.entryHash.toList then startOf entry.entryHash 16 else .ok entry.entryHash

/-- `{:<width}`. -/
def pad (width : Nat) (s : String) : String :=
  s ++ String.ofList (List.replicate (width - s.toList.length) ' ')

/-- `DateTime::from_timestamp` with no nanoseconds. -/
def fromTimestamp (secs : Int) : Option DateTime :=
  let t := secs * DateTime.nanosPerSecond
  if DateTime.min ≤ t ∧ t ≤ DateTime.max then some t else none

/-- `dt.format("%Y-%m-%d %H:%M:%S")`. -/
class TimeFormat where
  format : DateTime → String

section Listing
variable [TimeFormat]

def rowText (entry : AuditEntry) (target hash : String) : String :=
  let timeStr := ((fromTimestamp entry.timestamp).map TimeFormat.format).getD (toString entry.timestamp)
  s!"{pad 5 (toString entry.id)} {pad 36 entry.agentId.toText} {pad 12 entry.action} {pad 24 target} {pad 20 timeStr} {hash}…"

def renderRow (entry : AuditEntry) : Outcome String := do
  let hash ← hashShort entry
  let target ← truncate entry.target 24
  .ok (rowText entry target hash)

def renderRows (entries : List AuditEntry) : Outcome (List String) := entries.mapM renderRow

def header : String :=
  " ".intercalate [pad 5 "ID", pad 36 "Agent ID", pad 12 "Action", pad 24 "Target", pad 20 "Timestamp",
    pad 16 "Hash (first 16)"]

def window (last : Option String) : Outcome (Option Int) :=
  match last with
  | some ttl => do
    let duration ← parseTtl ttl
    .ok (some duration)
  | none => .ok none

/-- The lines that are printed; `now` is the second at which the log is queried. -/
def execute (db : Except String AuditDb) (agentId last : Option String) (now : Int) :
    Outcome (List String) := do
  let conn ← orFault db
  let duration ← window last
  let entries := queryEntries conn agentId duration now
  if entries.isEmpty then .ok ["No audit entries found."]
  else do
    let rows ← renderRows entries
    .ok ([header, String.ofList (List.replicate 120 '─')] ++ rows ++
      ["", s!"Total: {entries.length} entries"])

end Listing

/-! ### What a reader sees -/

/-- The text itself or the start of it, in whole characters, with a mark. -/
def ShowsStart (s shown : String) : Prop :=
  shown = s ∨ ∃ start rest, s.toList = start ++ rest ∧ shown = s!"{String.ofList start}…"

def Truncates (s : String) (maxLen : Nat) : Prop :=
  ∃ shown, truncate s maxLen = .ok shown ∧ ShowsStart s shown

/-- A row with the start of the target and the start of the hash. -/
def ShowsRow [TimeFormat] (entry : AuditEntry) (row : String) : Prop :=
  ∃ target hash, ShowsStart entry.target target ∧ hash.toList <+: entry.entryHash.toList ∧
    row = rowText entry target hash

/-- All rows are printed. -/
def Renders [TimeFormat] (entries : List AuditEntry) : Prop :=
  ∃ rows, renderRows entries = .ok rows ∧ List.Forall₂ ShowsRow entries rows

/-- A cut one byte before the end of the column is between characters, or not made. -/
def Fits (s : String) (maxLen : Nat) : Prop :=
  byteLen s.toList ≤ maxLen ∨ Boundary (maxLen - 1) s.toList

def HashFits (hash : String) : Prop := byteLen hash.toList < 16 ∨ Boundary 16 hash.toList

/-! ### Cuts -/

theorem startOf_ok {s start : String} {n : Nat} (cut : startOf s n = .ok start) :
    Boundary n s.toList ∧ start.toList <+: s.toList := by
  unfold startOf at cut
  split at cut
  · rename_i front sliced
    obtain rfl := Except.ok.inj cut
    obtain ⟨before, after, whole, empty, size⟩ := sliceBytes_eq_some.mp sliced
    obtain rfl := byteLen_eq_zero.mp empty
    rw [List.nil_append] at whole
    rw [Nat.zero_add] at size
    refine ⟨⟨front, after, whole, size⟩, ?_⟩
    rw [String.toList_ofList, whole]
    exact List.prefix_append _ _
  · cases cut

theorem startOf_boundary {s : String} {n : Nat} (boundary : Boundary n s.toList) :
    ∃ start, startOf s n = .ok start := by
  obtain ⟨front, after, whole, size⟩ := boundary
  have sliced : sliceBytes s.toList 0 n = some front :=
    sliceBytes_eq_some.mpr ⟨[], after, whole, rfl, by rw [Nat.zero_add, size]⟩
  exact ⟨String.ofList front, by rw [startOf, sliced]⟩

theorem truncate_shows {s shown : String} {maxLen : Nat} (cut : truncate s maxLen = .ok shown) :
    ShowsStart s shown := by
  unfold truncate at cut
  split at cut
  · exact .inl (Except.ok.inj cut).symm
  · split at cut
    · cases cut
    · obtain ⟨start, sliced, done⟩ := bind_eq_ok.mp cut
      obtain ⟨rest, whole⟩ := (startOf_ok sliced).2
      refine .inr ⟨start.toList, rest, whole.symm, ?_⟩
      rw [String.ofList_toList, ← Except.ok.inj done]

theorem truncate_iff (s : String) (n : Nat) :
    (∃ shown, truncate s (n + 1) = .ok shown) ↔ Fits s (n + 1) := by
  unfold truncate Fits
  by_cases short : byteLen s.toList ≤ n + 1
  · rw [if_pos short]
    exact ⟨fun _ => .inl short, fun _ => ⟨s, rfl⟩⟩
  · rw [if_neg short, if_neg (Nat.succ_ne_zero n), Nat.add_sub_cancel]
    constructor
    · rintro ⟨shown, cut⟩
      obtain ⟨start, sliced, _⟩ := bind_eq_ok.mp cut
      exact .inr (startOf_ok sliced).1
    · rintro (fits | boundary)
      · exact absurd fits short
      · obtain ⟨start, sliced⟩ := startOf_boundary boundary
        exact ⟨s!"{start}…", bind_eq_ok.mpr ⟨start, sliced, rfl⟩⟩

theorem truncates_iff (s : String) (n : Nat) : Truncates s (n + 1) ↔ Fits s (n + 1) := by
  rw [← truncate_iff]
  constructor
  · rintro ⟨shown, cut, _⟩
    exact ⟨shown, cut⟩
  · rintro ⟨shown, cut⟩
    exact ⟨shown, cut, truncate_shows cut⟩

theorem hashShort_iff (entry : AuditEntry) :
    (∃ hash, hashShort entry = .ok hash) ↔ HashFits entry.entryHash := by
  unfold hashShort HashFits
  by_cases long : 16 ≤ byteLen entry.entryHash.toList
  · rw [if_pos long]
    constructor
    · rintro ⟨hash, cut⟩
      exact .inr (startOf_ok cut).1
    · rintro (short | boundary)
      · exact absurd long (Nat.not_le.mpr short)
      · exact startOf_boundary boundary
  · rw [if_neg long]
    exact ⟨fun _ => .inl (Nat.lt_of_not_le long), fun _ => ⟨_, rfl⟩⟩

theorem hashShort_prefix {entry : AuditEntry} {hash : String} (cut : hashShort entry = .ok hash) :
    hash.toList <+: entry.entryHash.toList := by
  unfold hashShort at cut
  split at cut
  · exact (startOf_ok cut).2
  · rw [← Except.ok.inj cut]

/-! ### Rows of a log -/

theorem mapM_eq_ok {α β : Type} {f : α → Outcome β} {as : List α} {bs : List β} :
    as.mapM f = .ok bs ↔ List.Forall₂ (fun a b => f a = .ok b) as bs := by
  induction as generalizing bs with
  | nil =>
    rw [List.mapM_nil, List.forall₂_nil_left_iff]
    exact ⟨fun same => (Except.ok.inj same).symm, fun empty => empty ▸ rfl⟩
  | cons a as ih =>
    rw [List.mapM_cons, List.forall₂_cons_left_iff, bind_eq_ok]
    constructor
    · rintro ⟨b, here, rest⟩
      obtain ⟨later, there, done⟩ := bind_eq_ok.mp rest
      exact ⟨b, later, here, ih.mp there, (Except.ok.inj done).symm⟩
    · rintro ⟨b, later, here, there, rfl⟩
      exact ⟨b, here, bind_eq_ok.mpr ⟨later, ih.mpr there, rfl⟩⟩

theorem exists_forall₂_iff {α β : Type} {R : α → β → Prop} {as : List α} :
    (∃ bs, List.Forall₂ R as bs) ↔ ∀ a ∈ as, ∃ b, R a b := by
  induction as with
  | nil => exact ⟨fun _ _ absent => absurd absent List.not_mem_nil, fun _ => ⟨[], .nil⟩⟩
  | cons a as ih =>
    rw [List.forall_mem_cons, ← ih]
    constructor
    · rintro ⟨_, here | ⟨here, later⟩⟩
      exact ⟨⟨_, here⟩, _, later⟩
    · rintro ⟨⟨b, here⟩, bs, later⟩
      exact ⟨b :: bs, .cons here later⟩

/-! ### Recorded logs -/

theorem sha256Hex_fits [Sha256] (data : ByteArray) : HashFits (sha256Hex data) := by
  have ascii : ∀ c ∈ (sha256Hex data).toList, c.toNat < 128 := by
    intro c member
    rw [sha256Hex, String.toList_ofList] at member
    obtain ⟨n, small, rfl⟩ := hexEncode_chars member
    exact (by decide : ∀ n < 16, (Nat.digitChar n).toNat < 128) n small
  rcases Nat.lt_or_ge (byteLen (sha256Hex data).toList) 16 with short | long
  · exact .inl short
  · exact .inr (boundary_ascii ascii long)

section Recorded
variable [Ed25519] [Sha256]

theorem recordAll_targets (calls : List RecordCall) :
    (recordAll calls).entries.map AuditEntry.target = calls.map RecordCall.target := by
  induction calls using List.reverseRecOn with
  | nil => rfl
  | append_singleton calls call ih =>
    rw [recordAll_snoc, recordEntry, RecordCall.entries_insert, List.map_append, List.map_append,
      ih]
    rfl

theorem recordAll_hashes (calls : List RecordCall) :
    ∀ entry ∈ (recordAll calls).entries, HashFits entry.entryHash := by
  induction calls using List.reverseRecOn with
  | nil => exact fun _ absent => absurd absent List.not_mem_nil
  | append_singleton calls call ih =>
    intro entry member
    rw [recordAll_snoc, recordEntry, RecordCall.entries_insert, List.mem_append,
      List.mem_singleton] at member
    rcases member with earlier | rfl
    · exact ih entry earlier
    · exact sha256Hex_fits _

end Recorded

/-! ### Every log -/

section Rows
variable [TimeFormat]

theorem renderRow_shows {entry : AuditEntry} {row : String} (rendered : renderRow entry = .ok row) :
    ShowsRow entry row := by
  obtain ⟨hash, hashed, rest⟩ := bind_eq_ok.mp rendered
  obtain ⟨target, cut, done⟩ := bind_eq_ok.mp rest
  exact ⟨target, hash, truncate_shows cut, hashShort_prefix hashed, (Except.ok.inj done).symm⟩

theorem renderRow_iff (entry : AuditEntry) :
    (∃ row, renderRow entry = .ok row) ↔ Fits entry.target 24 ∧ HashFits entry.entryHash := by
  rw [← hashShort_iff, ← truncate_iff]
  constructor
  · rintro ⟨row, rendered⟩
    obtain ⟨hash, hashed, rest⟩ := bind_eq_ok.mp rendered
    obtain ⟨target, cut, _⟩ := bind_eq_ok.mp rest
    exact ⟨⟨target, cut⟩, hash, hashed⟩
  · rintro ⟨⟨target, cut⟩, hash, hashed⟩
    exact ⟨rowText entry target hash, bind_eq_ok.mpr ⟨hash, hashed, bind_eq_ok.mpr ⟨target, cut, rfl⟩⟩⟩

theorem renders_iff_ok (entries : List AuditEntry) :
    Renders entries ↔ ∃ rows, renderRows entries = .ok rows := by
  constructor
  · rintro ⟨rows, done, _⟩
    exact ⟨rows, done⟩
  · rintro ⟨rows, done⟩
    exact ⟨rows, done, (mapM_eq_ok.mp done).imp fun _ _ => renderRow_shows⟩

theorem renders_iff (entries : List AuditEntry) :
    Renders entries ↔ ∀ entry ∈ entries, Fits entry.target 24 ∧ HashFits entry.entryHash := by
  simp only [renders_iff_ok, renderRows, mapM_eq_ok, exists_forall₂_iff, renderRow_iff]

/-- The hashes of a log are hexadecimal, so that only the targets decide. -/
theorem renders_recorded [Ed25519] [Sha256] (calls : List RecordCall) :
    Renders (recordAll calls).entries ↔ ∀ call ∈ calls, Fits call.target 24 := by
  have targets : (∀ target ∈ (recordAll calls).entries.map AuditEntry.target, Fits target 24) ↔
      ∀ target ∈ calls.map RecordCall.target, Fits target 24 := by
    rw [recordAll_targets]
  rw [List.forall_mem_map, List.forall_mem_map] at targets
  rw [renders_iff, ← targets]
  exact forall₂_congr fun entry member => and_iff_left (recordAll_hashes calls entry member)

/-- Any length of a column, every list of entries, and every log, of which only the targets count. -/
theorem lists_iff_fits [Ed25519] [Sha256] : (∀ s n, Truncates s (n + 1) ↔ Fits s (n + 1)) ∧
    (∀ entries, Renders entries ↔ ∀ entry ∈ entries, Fits entry.target 24 ∧
      HashFits entry.entryHash) ∧
    ∀ calls, Renders (recordAll calls).entries ↔ ∀ call ∈ calls, Fits call.target 24 :=
  ⟨truncates_iff, renders_iff, renders_recorded⟩

end Rows

namespace StandIn

@[reducible] def timeFormat : TimeFormat where
  format t := toString t

/-- A target of 32 bytes, with one character on the bytes 22 and 23. -/
def revoked : AuditEntry where
  id := 1
  agentId := Uuid.nil
  action := "revoke"
  target := "reason=lost at the café, stolen"
  timestamp := 0
  prevHash := "genesis"
  entryHash := ""
  signature := ""

end StandIn

theorem not_lists : letI := StandIn.timeFormat
    ¬ ((∀ s n, Truncates s (n + 1)) ∧ ∀ entries, Renders entries) := by
  let _ := StandIn.timeFormat
  rintro ⟨_, all⟩
  have fits := ((renders_iff [StandIn.revoked]).mp (all _) _ List.mem_cons_self).1
  have wide : ¬ byteLen StandIn.revoked.target.toList ≤ 24 := by decide
  have inside : ¬ Boundary 23 StandIn.revoked.target.toList := by decide
  exact fits.elim wide inside

/-! ### The command -/

section Command
variable [TimeFormat]

theorem execute_iff {conn : AuditDb} {agentId last : Option String} {duration : Option Int}
    {now : Int} (read : window last = .ok duration) :
    (∃ printed, execute (.ok conn) agentId last now = .ok printed) ↔
      Renders (queryEntries conn agentId duration now) := by
  rw [renders_iff_ok]
  simp only [execute, read, orFault_ok, bind, Except.bind]
  by_cases empty : (queryEntries conn agentId duration now).isEmpty = true
  · rw [if_pos empty, List.isEmpty_iff.mp empty]
    exact ⟨fun _ => ⟨[], rfl⟩, fun _ => ⟨_, rfl⟩⟩
  · rw [if_neg empty]
    constructor
    · rintro ⟨printed, done⟩
      obtain ⟨rows, rendered, _⟩ := bind_eq_ok.mp done
      exact ⟨rows, rendered⟩
    · rintro ⟨rows, rendered⟩
      exact ⟨_, bind_eq_ok.mpr ⟨rows, rendered, rfl⟩⟩

end Command

end GrokingClawId.Cli.Audit
