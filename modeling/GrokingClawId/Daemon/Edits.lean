import GrokingClawId.Daemon.Chain

/-!
# Edits of a recorded log

What someone with write access to the table can do to a log in one edit, and which of these
edits the chain check misses: those that touch what is only stored in front of the second entry.
-/

namespace GrokingClawId.Daemon
open GrokingClawId.Core

/-- One edit of a log. The fields of an entry are changed under its stored hashes. -/
inductive Edit where
  | modify (i : Nat) (agentId : Uuid) (action target : String) (timestamp : Int)
  | insert (i : Nat) (entry : AuditEntry)
  | delete (i : Nat)
  | swap (i j : Nat)

namespace Edit

def apply : Edit → List AuditEntry → List AuditEntry
  | modify i agentId action target timestamp, log =>
    log.modify i fun e => { e with agentId := agentId, action := action, target := target,
                                   timestamp := timestamp }
  | insert i entry, log => log.insertIdx i entry
  | delete i, log => log.eraseIdx i
  | swap i j, log =>
    match log[i]?, log[j]? with
    | some a, some b => (log.set i b).set j a
    | _, _ => log

/-- The edit changes the log, at a position the check can speak about: the end of a log can be cut
or extended by whoever can write entries. -/
def Tampers (log : List AuditEntry) : Edit → Prop
  | modify i agentId action target timestamp => ∃ e, log[i]? = some e ∧
      ¬ (agentId = e.agentId ∧ action = e.action ∧ target = e.target ∧ timestamp = e.timestamp)
  | insert i _ => i < log.length
  | delete i => i + 1 < log.length
  | swap i j => i ≠ j ∧ i < log.length ∧ j < log.length

/-- The edit rewrites the first entry, or puts one before it that points and hashes to the start. -/
def AtGenesis : Edit → Prop
  | modify i _ _ _ _ => i = 0
  | insert i entry => i = 0 ∧ entry.prevHash = "genesis" ∧ entry.entryHash = "genesis"
  | delete _ => False
  | swap _ _ => False

end Edit

section Check
variable [Sha256]

theorem accepts_modify (injective : Function.Injective Sha256.digest) {log : List AuditEntry}
    (recorded : auditChain.Recorded log) (free : ∀ e ∈ log, (fields e).NulFree) {i : Nat}
    {agentId : Uuid} {action target : String} {timestamp : Int}
    (tampers : (Edit.modify i agentId action target timestamp).Tampers log) :
    auditChain.Accepts ((Edit.modify i agentId action target timestamp).apply log) ↔ i = 0 := by
  obtain ⟨e, ate, changed⟩ := tampers
  let changedEntry : AuditEntry :=
    { e with agentId := agentId, action := action, target := target, timestamp := timestamp }
  have replaced : (Edit.modify i agentId action target timestamp).apply log =
      log.set i changedEntry := by
    rw [Edit.apply, List.modify_eq_set_getElem?, ate]
    rfl
  have accepted : auditChain.Accepts (log.set i changedEntry) ↔
      (0 < i → auditChain.digest changedEntry = auditChain.digest e) :=
    HashChain.accepts_set recorded ate rfl rfl
  rw [replaced]
  refine accepted.trans ⟨fun digests => ?_, ?_⟩
  · by_contra later
    have same := ChainFields.hash_inj injective (free e (List.mem_of_getElem? ate)) (digests (by omega)).symm
    obtain ⟨agent, action', target', time, _⟩ := fields_inj same
    exact changed ⟨agent.symm, action'.symm, target'.symm, time.symm⟩
  · rintro rfl positive
    exact absurd positive (Nat.lt_irrefl 0)

theorem accepts_insert (injective : Function.Injective Sha256.digest) {log : List AuditEntry}
    (recorded : auditChain.Recorded log) (free : ∀ e ∈ log, (fields e).NulFree) {i : Nat}
    {entry : AuditEntry} (bound : i < log.length) :
    auditChain.Accepts (log.insertIdx i entry) ↔
      i = 0 ∧ entry.prevHash = "genesis" ∧ entry.entryHash = "genesis" := by
  cases i with
  | zero =>
    have nonempty : log ≠ [] := List.ne_nil_of_length_pos bound
    rw [List.insertIdx_zero, HashChain.accepts_cons recorded nonempty]
    simp [auditChain]
  | succ i =>
    refine ⟨fun accepted => ?_, fun start => absurd start.1 (Nat.succ_ne_zero i)⟩
    refine absurd accepted
      (HashChain.not_accepts_insert recorded (binding_of_recorded injective free) bound ?_)
    exact fun a member digests => (prev_of_digest injective (free a member) digests.symm).symm

theorem not_accepts_swapped {log : List AuditEntry} (recorded : auditChain.Recorded log)
    (binding : auditChain.Binding log) {i j : Nat} (tampers : (Edit.swap i j).Tampers log) :
    ¬ auditChain.Accepts ((Edit.swap i j).apply log) := by
  obtain ⟨apart, boundI, boundJ⟩ := tampers
  have ati := List.getElem?_eq_getElem boundI
  have atj := List.getElem?_eq_getElem boundJ
  simp only [Edit.apply, ati, atj]
  rcases Nat.lt_or_gt_of_ne apart with before | after
  · exact HashChain.not_accepts_swap recorded binding before ati atj
  · rw [List.set_comm _ _ apart]
    exact HashChain.not_accepts_swap recorded binding after atj ati

/-- An edit of a recorded log is caught unless it is one of those at the start. -/
theorem verifyChain_edit [Ed25519] (injective : Function.Injective Sha256.digest)
    (calls : List RecordCall)
    (free : ∀ call ∈ calls, '\x00' ∉ call.action.toList ∧ '\x00' ∉ call.target.toList) (edit : Edit)
    (tampers : edit.Tampers (recordAll calls).entries) :
    verifyChain (edit.apply (recordAll calls).entries) = false ↔ ¬ edit.AtGenesis := by
  have recorded := recordAll_recorded calls
  have plain := nulFree_of_recorded recorded (recordAll_texts calls free)
  have binding := binding_of_recorded injective plain
  rw [verifyChain_eq_false, not_iff_not]
  cases edit with
  | modify i agentId action target timestamp => exact accepts_modify injective recorded plain tampers
  | insert i entry => exact accepts_insert injective recorded plain tampers
  | delete i => exact iff_of_false (HashChain.not_accepts_eraseIdx recorded binding tampers) id
  | swap i j => exact iff_of_false (not_accepts_swapped recorded binding tampers) id

end Check

section
open scoped StandIn

theorem verifyChain_edit_second :
    verifyChain ((Edit.modify 1 Uuid.nil "issue" "scout" 2).apply
      (recordAll [StandIn.call "issue" 1, StandIn.call "rotate" 2]).entries) = false := by
  refine (verifyChain_edit StandIn.sha256_injective _ ?_ (.modify 1 Uuid.nil "issue" "scout" 2) ?_).mpr ?_
  · simp [StandIn.call]
  · exact ⟨_, rfl, fun same => absurd same.2.1 (by decide)⟩
  · exact Nat.one_ne_zero

/-- The only entry of a log gets another action under its stored hashes, and the check does not
notice. -/
theorem verifyChain_misses_first :
    Function.Injective Sha256.digest ∧
      ¬ ∀ (calls : List RecordCall) (edit : Edit),
        (∀ call ∈ calls, '\x00' ∉ call.action.toList ∧ '\x00' ∉ call.target.toList) →
        edit.Tampers (recordAll calls).entries →
        verifyChain (edit.apply (recordAll calls).entries) = false := by
  refine ⟨StandIn.sha256_injective, fun caught => ?_⟩
  have reported := caught [StandIn.call "issue" 1] (.modify 0 Uuid.nil "revoke" "scout" 1)
    (by simp [StandIn.call]) ⟨_, rfl, fun same => absurd same.2.1 (by decide)⟩
  have missed : verifyChain ((Edit.modify 0 Uuid.nil "revoke" "scout" 1).apply
      (recordAll [StandIn.call "issue" 1]).entries) = true := rfl
  exact Bool.noConfusion (reported.symm.trans missed)

end
end GrokingClawId.Daemon
