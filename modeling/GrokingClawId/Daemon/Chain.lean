import GrokingClawId.Core.Audit
import GrokingClawId.Lib.HashChain

/-!
# Verification of the audit chain

`verify_chain` of `daemon.rs`, as an instance of the hash-chain checker: what a recorded log
commits to, and which edits of it are caught. The loop starts at the second entry, so the hash
of the first entry is never recomputed.
-/

namespace GrokingClawId.Daemon
open GrokingClawId.Core

section Check
variable [Sha256]

def checkLinks (previous : AuditEntry) : List AuditEntry → Bool
  | [] => true
  | entry :: rest =>
    if entry.prevHash ≠ previous.entryHash then false
    else
      let expected :=
        computeChainHash entry.prevHash entry.agentId.toText entry.action entry.target entry.timestamp
      if entry.entryHash ≠ expected then false
      else checkLinks entry rest

def verifyChain : List AuditEntry → Bool
  | [] => true
  | first :: rest =>
    if first.prevHash ≠ "genesis" then false
    else checkLinks first rest

/-! ### The chain of audit entries -/

def fields (entry : AuditEntry) : ChainFields where
  prevHash := entry.prevHash
  agentId := entry.agentId.toText
  action := entry.action
  target := entry.target
  timestamp := entry.timestamp

def auditChain : HashChain AuditEntry String where
  prev := AuditEntry.prevHash
  hash := AuditEntry.entryHash
  digest entry := (fields entry).hash
  genesis := "genesis"

theorem checkLinks_iff {previous : AuditEntry} {rest : List AuditEntry} :
    checkLinks previous rest = true ↔
      (∀ (i : Nat) (e f : AuditEntry), (previous :: rest)[i]? = some e → rest[i]? = some f →
        f.prevHash = e.entryHash) ∧
      ∀ (i : Nat) (e : AuditEntry), rest[i]? = some e → e.entryHash = (fields e).hash := by
  induction rest generalizing previous with
  | nil => simp [checkLinks]
  | cons entry rest ih =>
    rw [checkLinks]
    by_cases linked : entry.prevHash = previous.entryHash
    · by_cases fresh : entry.entryHash = (fields entry).hash
      · have expected : entry.entryHash = computeChainHash entry.prevHash entry.agentId.toText entry.action
          entry.target entry.timestamp := fresh
        rw [if_neg (not_not_intro linked), if_neg (not_not_intro expected), ih]
        constructor
        · rintro ⟨links, seals⟩
          refine ⟨fun i e f ate atf => ?_, fun i e ate => ?_⟩
          · cases i with
            | zero =>
              obtain rfl : previous = e := by simpa using ate
              obtain rfl : entry = f := by simpa using atf
              exact linked
            | succ i => exact links i e f (by simpa using ate) (by simpa using atf)
          · cases i with
            | zero =>
              obtain rfl : entry = e := by simpa using ate
              exact fresh
            | succ i => exact seals i e (by simpa using ate)
        · rintro ⟨links, seals⟩
          exact ⟨fun i e f ate atf => links (i + 1) e f (by simpa using ate) (by simpa using atf),
            fun i e ate => seals (i + 1) e (by simpa using ate)⟩
      · have expected : ¬ entry.entryHash = computeChainHash entry.prevHash entry.agentId.toText entry.action
          entry.target entry.timestamp := fresh
        rw [if_neg (not_not_intro linked), if_pos expected]
        exact ⟨fun impossible => (Bool.noConfusion impossible),
          fun ⟨_, seals⟩ => absurd (seals 0 entry (by simp)) fresh⟩
    · rw [if_pos linked]
      exact ⟨fun impossible => (Bool.noConfusion impossible),
        fun ⟨links, _⟩ => absurd (links 0 previous entry (by simp) (by simp)) linked⟩

theorem verifyChain_iff {entries : List AuditEntry} :
    verifyChain entries = true ↔ auditChain.Accepts entries := by
  cases entries with
  | nil => exact ⟨fun _ => HashChain.accepts_nil, fun _ => rfl⟩
  | cons first rest =>
    rw [verifyChain]
    by_cases head : first.prevHash = "genesis"
    · rw [if_neg (not_not_intro head), checkLinks_iff]
      constructor
      · rintro ⟨links, seals⟩
        refine ⟨fun e at0 => ?_, fun i e f ate atf => links i e f ate (by simpa using atf),
          fun i e ate => seals i e (by simpa using ate)⟩
        obtain rfl : first = e := by simpa using at0
        exact head
      · intro accepted
        exact ⟨fun i e f ate atf => accepted.link i e f ate (by simpa using atf),
          fun i e ate => accepted.sealed i e (by simpa using ate)⟩
    · rw [if_pos head]
      exact ⟨fun impossible => (Bool.noConfusion impossible),
        fun accepted => absurd (accepted.head first (by simp)) head⟩

theorem verifyChain_eq_false {entries : List AuditEntry} :
    verifyChain entries = false ↔ ¬ auditChain.Accepts entries := by
  rw [← verifyChain_iff, Bool.not_eq_true]

/-! ### Recorded logs -/

theorem lastHash_entries (db : AuditDb) : auditChain.lastHash db.entries = db.getLastHash := by
  rcases List.eq_nil_or_concat db with rfl | ⟨rows, row, rfl⟩
  · rfl
  · simp [HashChain.lastHash, AuditDb.getLastHash, auditChain, AuditRow.toEntry]

theorem insert_sealed [Ed25519] (call : RecordCall) (prevHash : String) (db : AuditDb) :
    auditChain.hash (call.insert prevHash db).2 =
      auditChain.digest (call.insert prevHash db).2 := rfl

theorem recordAll_recorded [Ed25519] (calls : List RecordCall) :
    auditChain.Recorded (recordAll calls).entries := by
  induction calls using List.reverseRecOn with
  | nil => exact HashChain.recorded_nil
  | append_singleton calls call ih =>
    rw [recordAll_snoc, recordEntry, RecordCall.entries_insert]
    exact HashChain.recorded_snoc ih (lastHash_entries _).symm (insert_sealed call _ _)

omit [Sha256] in
theorem nul_ne_digit : ∀ n < 16, '\x00' ≠ Nat.digitChar n := by decide

/-- The hashes that a recorded log stores are free of the separator. -/
theorem prevHash_free {log : List AuditEntry} (recorded : auditChain.Recorded log) :
    ∀ e ∈ log, '\x00' ∉ e.prevHash.toList := by
  intro e member
  obtain ⟨i, ate⟩ := List.mem_iff_getElem?.mp member
  cases i with
  | zero =>
    have start : e.prevHash = "genesis" := recorded.head e ate
    rw [start]
    decide
  | succ i =>
    obtain ⟨d, atd⟩ : ∃ d, log[i]? = some d :=
      ⟨_, List.getElem?_eq_getElem (Nat.lt_of_succ_lt (List.getElem?_eq_some_iff.mp ate).1)⟩
    have linked : e.prevHash = d.entryHash := recorded.link i d e atd ate
    have fresh : d.entryHash = (fields d).hash := recorded.written d (List.mem_of_getElem? atd)
    rw [linked, fresh]
    exact not_mem_sha256Hex nul_ne_digit _

/-- Of a recorded log only the texts of the callers matter. -/
theorem nulFree_of_recorded {log : List AuditEntry} (recorded : auditChain.Recorded log)
    (texts : ∀ e ∈ log, '\x00' ∉ e.action.toList ∧ '\x00' ∉ e.target.toList) :
    ∀ e ∈ log, (fields e).NulFree := by
  intro e member
  have prev := prevHash_free recorded e member
  exact ⟨prev, Uuid.not_mem_toText nul_ne_digit (by decide) _, texts e member⟩

theorem recordAll_texts [Ed25519] (calls : List RecordCall)
    (free : ∀ call ∈ calls, '\x00' ∉ call.action.toList ∧ '\x00' ∉ call.target.toList) :
    ∀ e ∈ (recordAll calls).entries, '\x00' ∉ e.action.toList ∧ '\x00' ∉ e.target.toList := by
  induction calls using List.reverseRecOn with
  | nil => simp
  | append_singleton calls call ih =>
    rw [recordAll_snoc, recordEntry, RecordCall.entries_insert]
    intro e member
    rcases List.mem_append.mp member with old | new
    · exact ih (fun c present => free c (List.mem_append_left _ present)) e old
    · rw [List.mem_singleton.mp new]
      exact free call (by simp)

theorem hash_ne_genesis (f : ChainFields) : f.hash ≠ "genesis" := by
  intro same
  have free : 'g' ∉ f.hash.toList := not_mem_sha256Hex (by decide) _
  rw [same] at free
  exact absurd free (by decide)

/-- Equal digests have equal predecessors, as soon as the fields on one side are free of the
separator. -/
theorem prev_of_digest (injective : Function.Injective Sha256.digest) {e f : AuditEntry}
    (free : (fields e).NulFree) (same : auditChain.digest e = auditChain.digest f) :
    auditChain.prev e = auditChain.prev f :=
  congrArg ChainFields.prevHash (ChainFields.hash_inj injective free same)

theorem binding_of_recorded (injective : Function.Injective Sha256.digest) {log : List AuditEntry}
    (free : ∀ e ∈ log, (fields e).NulFree) : auditChain.Binding log :=
  ⟨fun e member _ _ same => prev_of_digest injective (free e member) same,
    fun e _ => hash_ne_genesis (fields e)⟩

/-! ### Completeness and commitment -/

/-- No stored text of the entry contains the separator. -/
def NulFree (entry : AuditEntry) : Prop :=
  '\x00' ∉ entry.prevHash.toList ∧ '\x00' ∉ entry.action.toList ∧ '\x00' ∉ entry.target.toList

omit [Sha256] in
theorem NulFree.fields {entry : AuditEntry} (free : NulFree entry) : (fields entry).NulFree :=
  ⟨free.1, Uuid.not_mem_toText nul_ne_digit (by decide) _, free.2⟩

omit [Sha256] in
theorem fields_inj {e f : AuditEntry} (same : Daemon.fields e = Daemon.fields f) :
    e.agentId = f.agentId ∧ e.action = f.action ∧ e.target = f.target ∧ e.timestamp = f.timestamp ∧
      e.prevHash = f.prevHash := by
  simp only [Daemon.fields, ChainFields.mk.injEq] at same
  obtain ⟨prev, agent, action, target, time⟩ := same
  have parsed := congrArg Uuid.parseStr agent
  rw [Uuid.parseStr_toText, Uuid.parseStr_toText] at parsed
  exact ⟨Option.some.inj parsed, action, target, time, prev⟩

/-- Recorded logs are accepted, and the last hash of an accepted log commits to all its entries,
except for what the first entry says beside its own hash. -/
theorem verifyChain_complete_commits [Ed25519] (injective : Function.Injective Sha256.digest) :
    (∀ (calls : List RecordCall) (now : Int),
      verifyChain (queryEntries (recordAll calls) none none now) = true) ∧
    ∀ xs ys : List AuditEntry, xs.length = ys.length → (∀ e ∈ xs, NulFree e) →
      verifyChain xs = true → verifyChain ys = true →
      xs.getLast?.map AuditEntry.entryHash = ys.getLast?.map AuditEntry.entryHash →
      ∀ (i : Nat) (e f : AuditEntry), xs[i]? = some e → ys[i]? = some f →
        e.entryHash = f.entryHash ∧
        (0 < i → e.agentId = f.agentId ∧ e.action = f.action ∧ e.target = f.target ∧
          e.timestamp = f.timestamp ∧ e.prevHash = f.prevHash) := by
  constructor
  · intro calls now
    have whole : queryEntries (recordAll calls) none none now = (recordAll calls).entries := by
      rw [AuditDb.entries, queryEntries_all, queryEntries_all]
    rw [whole, verifyChain_iff]
    exact (recordAll_recorded calls).toAccepts
  · intro xs ys length free left right last i e f ate atf
    have same : auditChain.lastHash xs = auditChain.lastHash ys := congrArg (·.getD "genesis") last
    have committed :=
      HashChain.accepts_commit (verifyChain_iff.mp left) (verifyChain_iff.mp right) length same
      (fun x member _ _ digests => prev_of_digest injective (free x member).fields digests) ate atf
    refine ⟨committed.1, fun positive => fields_inj ?_⟩
    exact ChainFields.hash_inj injective (free e (List.mem_of_getElem? ate)).fields (committed.2 positive)

end Check

section
open scoped StandIn

/-- A log of two entries, and the same log with another action in the first of them. -/
theorem verifyChain_complete_commits_pair :
    let issue := (recordEntry [] (StandIn.call "issue" 1)).2
    let rotate := (recordEntry (recordAll [StandIn.call "issue" 1]) (StandIn.call "rotate" 2)).2
    let renamed : AuditEntry := { issue with action := "revoke" }
    verifyChain (queryEntries (recordAll [StandIn.call "issue" 1, StandIn.call "rotate" 2]) none none 3) =
      true ∧
      verifyChain [renamed, rotate] = true ∧ issue.entryHash = renamed.entryHash := by
  intro issue rotate renamed
  have written : (recordAll [StandIn.call "issue" 1, StandIn.call "rotate" 2]).entries =
      [issue, rotate] := by
    simp [recordAll, recordEntry, RecordCall.entries_insert, issue, rotate]
  have recorded := recordAll_recorded [StandIn.call "issue" 1, StandIn.call "rotate" 2]
  rw [written] at recorded
  have replaced : auditChain.Accepts ([issue, rotate].set 0 renamed) ↔
      (0 < 0 → auditChain.digest renamed = auditChain.digest issue) :=
    HashChain.accepts_set recorded rfl rfl rfl
  have accepted : auditChain.Accepts [renamed, rotate] := replaced.mpr (by simp)
  have free := nulFree_of_recorded recorded
      (by simp [issue, rotate, recordEntry, RecordCall.insert, StandIn.call])
  have plain : ∀ e ∈ [issue, rotate], NulFree e := fun e member =>
    ⟨(free e member).1, (free e member).2.2⟩
  have result := verifyChain_complete_commits StandIn.sha256_injective
  exact ⟨result.1 _ 3, verifyChain_iff.mpr accepted,
    (result.2 [issue, rotate] [renamed, rotate] rfl plain (verifyChain_iff.mpr recorded.toAccepts)
      (verifyChain_iff.mpr accepted) rfl 0 issue renamed rfl rfl).1⟩

end
end GrokingClawId.Daemon
