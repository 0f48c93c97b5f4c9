import GrokingClawId.Daemon.Chain
import GrokingClawId.Daemon.Supervisor

/-!
# Audit queries of the daemon

`query_audit` of `daemon.rs`: the last entries of an agent and, if asked for, whether its chain is
valid. The chain is checked over the hashes; the signatures of the entries are listed and not read.
-/

namespace GrokingClawId.Daemon
open GrokingClawId.Core

structure AuditReply where
  entries : List AuditEntry
  total : Option Nat
  message : Option String
  chainValid : Option Bool

/-- The entries of the agent, all rows of the database when the agent is not managed. -/
def DaemonState.auditEntries (daemon : DaemonState) (agentName : String) :
    Option (List AuditEntry) :=
  let agentIdStr := (daemon.supervisor.getAgent agentName).map fun info => info.agentId.toText
  (daemon.auditDb agentName).map fun db => queryEntries db agentIdStr none 0

def lastEntries (last : Nat) (entries : List AuditEntry) : List AuditEntry :=
  let start := if last < entries.length then entries.length - last else 0
  entries.drop start

theorem lastEntries_map (last : Nat) (f : AuditEntry → AuditEntry) (entries : List AuditEntry) :
    lastEntries last (entries.map f) = (lastEntries last entries).map f := by
  simp only [lastEntries, List.length_map, List.map_drop]

theorem lastEntries_eq_nil {last : Nat} {entries : List AuditEntry} :
    lastEntries last entries = [] ↔ last = 0 ∨ entries = [] := by
  unfold lastEntries
  rw [List.drop_eq_nil_iff, ← List.length_eq_zero_iff]
  split <;> omega

def resign (signature : AuditEntry → String) (entry : AuditEntry) : AuditEntry :=
  { entry with signature := signature entry }

/-- The daemon with other texts in the signature column of its databases. -/
def DaemonState.resigned (daemon : DaemonState) (signature : AuditEntry → String) : DaemonState :=
  { daemon with
    auditDb := fun name => (daemon.auditDb name).map fun db =>
      db.map fun row => { row with signature := signature row.toEntry } }

theorem auditEntries_resigned (daemon : DaemonState) (signature : AuditEntry → String) (agentName : String) :
    (daemon.resigned signature).auditEntries agentName =
      (daemon.auditEntries agentName).map (List.map (resign signature)) := by
  simp only [DaemonState.auditEntries, DaemonState.resigned, Option.map_map]
  congr 1
  funext db
  simp only [Function.comp_apply, queryEntries, List.filter_map, List.map_map]
  rfl

section Query
variable [Sha256]

def queryAudit (daemon : DaemonState) (agentName : String) (last : Nat) (verify : Bool) :
    AuditReply :=
  match daemon.auditEntries agentName with
  | none =>
    { entries := [], total := none, message := some "No audit database found for this agent"
      chainValid := none }
  | some entries =>
    let recent := lastEntries last entries
    { entries := recent, total := some entries.length, message := none
      chainValid := if verify then some (verifyChain entries) else none }

theorem queryAudit_found {daemon : DaemonState} {agentName : String} {entries : List AuditEntry}
    (found : daemon.auditEntries agentName = some entries) (last : Nat) :
    (queryAudit daemon agentName last true).entries = lastEntries last entries ∧
      ((queryAudit daemon agentName last true).chainValid = some true ↔
        auditChain.Accepts entries) := by
  unfold queryAudit
  rw [found]
  exact ⟨rfl, Option.some_inj.trans verifyChain_iff⟩

/-! ### What the signatures have to do with it -/

/-- Other signatures on the entries do not change whether the chain is valid. -/
theorem verifyChain_resign (signature : AuditEntry → String) (entries : List AuditEntry) :
    verifyChain (entries.map (resign signature)) = verifyChain entries := by
  apply Bool.eq_iff_iff.mpr
  rw [verifyChain_iff, verifyChain_iff]
  exact HashChain.accepts_map (C := auditChain) (f := resign signature) (fun _ => rfl) (fun _ => rfl)
    (fun _ => rfl) entries

variable [Ed25519]

/-- Whoever writes a log from scratch gets it reported valid, whatever stands for the signatures. -/
theorem verifyChain_rewritten (calls : List RecordCall) (signature : AuditEntry → String) :
    verifyChain ((recordAll calls).entries.map (resign signature)) = true := by
  rw [verifyChain_resign]
  exact verifyChain_iff.mpr (recordAll_recorded calls).toAccepts

/-- The signature of the entry is one over its hash. -/
def SignedBy (publicKey : String) (entry : AuditEntry) : Prop :=
  verify publicKey entry.entryHash.toUTF8 entry.signature = .ok true

/-- Entries recorded with one key are signed by it. -/
theorem recordAll_signed (correct : Ed25519.Correct) (seed : Bytes 32) {calls : List RecordCall}
    (own : ∀ call ∈ calls, call.signingKey = seed) :
    ∀ entry ∈ (recordAll calls).entries,
      SignedBy (encodePublicKey (Ed25519.verifyingKey seed)) entry := by
  induction calls using List.reverseRecOn with
  | nil => simp
  | append_singleton calls call ih =>
    rw [recordAll_snoc, recordEntry, RecordCall.entries_insert]
    intro entry member
    rcases List.mem_append.mp member with old | new
    · exact ih (fun c present => own c (List.mem_append_left _ present)) entry old
    · rw [List.mem_singleton.mp new, ← own call (by simp)]
      exact verify_sign correct call.signingKey _

/-- A valid chain proves who recorded the listed entries, whatever stands in the signature column, exactly
when there is no database, the chain is not accepted without looking at that column, or nothing is listed.
-/
theorem queryAudit_provenance_iff (daemon : DaemonState) (agentName : String) (last : Nat)
    (publicKey : String) :
    (∀ signature, (queryAudit (daemon.resigned signature) agentName last true).chainValid = some true →
      ∀ entry ∈ (queryAudit (daemon.resigned signature) agentName last true).entries,
        SignedBy publicKey entry) ↔
    ∀ entries, daemon.auditEntries agentName = some entries → auditChain.Accepts entries →
      last = 0 ∨ entries = [] := by
  cases found : daemon.auditEntries agentName with
  | none =>
    refine ⟨fun _ entries absent => (by cases absent), fun _ signature valid => ?_⟩
    have none : (daemon.resigned signature).auditEntries agentName = none := by
      rw [auditEntries_resigned, found]
      rfl
    rw [queryAudit, none] at valid
    cases valid
  | some entries =>
    have resigned : ∀ signature, (daemon.resigned signature).auditEntries agentName =
        some (entries.map (resign signature)) := by
      intro signature
      rw [auditEntries_resigned, found]
      rfl
    have kept : ∀ signature, auditChain.Accepts (entries.map (resign signature)) ↔
        auditChain.Accepts entries := by
      intro signature
      rw [← verifyChain_iff, verifyChain_resign, verifyChain_iff]
    constructor
    · rintro proves _ same accepted
      obtain rfl := Option.some.inj same
      obtain ⟨listed, valid⟩ := queryAudit_found (resigned fun _ => "") last
      have signed := proves (fun _ => "") (valid.mpr ((kept _).mpr accepted))
      rw [listed, lastEntries_map] at signed
      rw [← lastEntries_eq_nil, List.eq_nil_iff_forall_not_mem]
      intro entry member
      exact verify_empty _ _ (signed _ (List.mem_map_of_mem member))
    · intro nothing signature reported entry member
      obtain ⟨listed, valid⟩ := queryAudit_found (resigned signature) last
      have empty := lastEntries_eq_nil.mpr (nothing entries rfl ((kept _).mp (valid.mp reported)))
      rw [listed, lastEntries_map, empty] at member
      cases member

end Query

section
open scoped StandIn

/-- A log with the hashes of a recorded one and no signatures. -/
def StandIn.rewritten : AuditDb :=
  (recordAll [Core.StandIn.call "issue" 1]).map fun row => { row with signature := "" }

def StandIn.rewrittenDaemon : DaemonState where
  supervisor := Supervisor.register ∅ (StandIn.config "scout")
  auditDb name := if name = "scout" then some StandIn.rewritten else none
  cardFile _ := .absent
  logFile _ := .absent

theorem queryAudit_rewritten :
    ¬ ∀ (daemon : DaemonState) (agentName : String) (last : Nat) (publicKey : String),
      (queryAudit daemon agentName last true).chainValid = some true →
        ∀ entry ∈ (queryAudit daemon agentName last true).entries, SignedBy publicKey entry := by
  intro provenance
  have found : StandIn.rewrittenDaemon.auditEntries "scout" =
      some ((recordAll [Core.StandIn.call "issue" 1]).entries.map (resign fun _ => "")) := by
    decide
  obtain ⟨listed, valid⟩ := queryAudit_found found 10
  have accepted := verifyChain_iff.mp (verifyChain_rewritten [Core.StandIn.call "issue" 1] fun _ => "")
  let publicKey := encodePublicKey (Ed25519.verifyingKey Core.StandIn.seed)
  have signed := provenance StandIn.rewrittenDaemon "scout" 10 publicKey (valid.mpr accepted)
  rw [listed, lastEntries_map] at signed
  obtain ⟨entry, member⟩ : ∃ entry, entry ∈
    lastEntries 10 (recordAll [Core.StandIn.call "issue" 1]).entries :=
    ⟨_, List.mem_cons_self⟩
  exact verify_empty _ _ (signed _ (List.mem_map_of_mem member))

end
end GrokingClawId.Daemon
