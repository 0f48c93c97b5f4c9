import GrokingClawId.Daemon.AuditQuery

/-!
# The chain of a selection

`query_audit` selects the rows of the agent and checks the chain over the selection. The rows of a
database are one chain, whoever recorded them, and so a row of somebody else between two rows of the
agent breaks what is checked.
-/

namespace GrokingClawId

/-- What is selected comes first when nothing that is selected follows anything else. -/
theorem filter_prefix_iff {α : Type} {p : α → Bool} {l : List α} :
    l.filter p <+: l ↔ l.Pairwise fun a b => p b = true → p a = true := by
  induction l with
  | nil => simp
  | cons a l ih =>
    rw [List.pairwise_cons]
    by_cases selected : p a = true
    · rw [List.filter_cons_of_pos selected, List.prefix_cons_inj, ih]
      exact ⟨fun rest => ⟨fun _ _ _ => selected, rest⟩, And.right⟩
    · rw [List.filter_cons_of_neg selected]
      constructor
      · intro initial
        have empty : l.filter p = [] := by
          cases h : l.filter p with
          | nil => rfl
          | cons b rest =>
            rw [h] at initial
            obtain ⟨rfl, -⟩ := List.cons_prefix_cons.mp initial
            have member : b ∈ l.filter p := by rw [h]; exact List.mem_cons_self
            exact absurd (List.mem_filter.mp member).2 selected
        have free : ∀ b ∈ l, ¬ p b = true := List.filter_eq_nil_iff.mp empty
        refine ⟨fun b member picked => absurd picked (free b member), ?_⟩
        exact ih.mp (empty ▸ List.nil_prefix)
      · rintro ⟨free, -⟩
        have empty : l.filter p = [] :=
          List.filter_eq_nil_iff.mpr fun b member picked => selected (free b member picked)
        rw [empty]
        exact List.nil_prefix

namespace Daemon
open GrokingClawId.Core Text

section Filter
variable [Sha256]

/-- The predecessor is the first text that is hashed. It is free of the separator, and so a hash
determines it, whatever the other texts are. -/
theorem prevHash_of_hash (injective : Function.Injective Sha256.digest) {f g : ChainFields}
    (freeF : '\x00' ∉ f.prevHash.toList) (freeG : '\x00' ∉ g.prevHash.toList)
    (same : f.hash = g.hash) :
    f.prevHash = g.prevHash := by
  have bytes := congrArg String.toList (String.toByteArray_inj.mp (sha256Hex_inj injective same))
  have texts : f.prevHash.toList ++ '\x00' :: (f.agentId.toList ++ '\x00' :: (f.action.toList ++ '\x00' ::
      (f.target.toList ++ '\x00' :: (toString f.timestamp).toList))) =
      g.prevHash.toList ++ '\x00' :: (g.agentId.toList ++ '\x00' :: (g.action.toList ++ '\x00' ::
      (g.target.toList ++ '\x00' :: (toString g.timestamp).toList))) := by
    simpa [toString] using bytes
  have cut := congrArg (splitOnce '\x00') texts
  rw [splitOnce_append freeF, splitOnce_append freeG] at cut
  exact String.toList_inj.mp (Prod.mk.inj (Option.some.inj cut)).1

theorem binding_of_prev (injective : Function.Injective Sha256.digest) {log : List AuditEntry}
    (recorded : auditChain.Recorded log) : auditChain.Binding log where
  prev_eq e memberE f memberF same :=
    prevHash_of_hash injective (prevHash_free recorded e memberE) (prevHash_free recorded f memberF) same
  ne_genesis e _ := hash_ne_genesis (fields e)

/-! ### Selections of the daemon -/

variable [Ed25519]

theorem recordAll_agents (calls : List RecordCall) :
    (recordAll calls).entries.map AuditEntry.agentId = calls.map RecordCall.agentId := by
  induction calls using List.reverseRecOn with
  | nil => rfl
  | append_singleton calls call ih =>
    rw [recordAll_snoc, recordEntry, RecordCall.entries_insert, List.map_append, List.map_append,
      ih]
    rfl

theorem recordAll_agentText (calls : List RecordCall) :
    ∀ row ∈ recordAll calls, row.agentId = row.toEntry.agentId.toText := by
  induction calls using List.reverseRecOn with
  | nil => simp
  | append_singleton calls call ih =>
    rw [recordAll_snoc]
    intro row member
    rcases List.mem_append.mp member with old | new
    · exact ih row old
    · obtain rfl := List.mem_singleton.mp new
      show call.agentId.toText = ((Uuid.parseStr call.agentId.toText).getD Uuid.nil).toText
      rw [Uuid.parseStr_toText, Option.getD_some]

/-- A selection from a recorded log passes exactly when nothing selected follows anything else. -/
theorem verifyChain_selected (injective : Function.Injective Sha256.digest)
    (calls : List RecordCall) (select : Uuid → Bool) :
    verifyChain ((recordAll calls).entries.filter fun entry => select entry.agentId) = true ↔
      calls.Pairwise fun a b => select b.agentId = true → select a.agentId = true := by
  have recorded := recordAll_recorded calls
  have binding := binding_of_prev injective recorded
  have members : ∀ entry ∈ (recordAll calls).entries.filter (fun entry => select entry.agentId),
      entry ∈ (recordAll calls).entries := fun entry member => (List.mem_filter.mp member).1
  rw [verifyChain_iff, HashChain.accepts_selected recorded binding members, filter_prefix_iff]
  have left := List.pairwise_map (f := AuditEntry.agentId) (l := (recordAll calls).entries)
    (R := fun a b => select b = true → select a = true)
  have right := List.pairwise_map (f := RecordCall.agentId) (l := calls)
    (R := fun a b => select b = true → select a = true)
  rw [← left, ← right, recordAll_agents]

/-- Whose rows the daemon selects: those of the agent, and all when the agent is not managed. -/
def DaemonState.selects (daemon : DaemonState) (agentName : String) (agentId : Uuid) : Bool :=
  match daemon.supervisor.getAgent agentName with
  | some info => decide (agentId = info.agentId)
  | none => true

theorem auditEntries_recorded {daemon : DaemonState} {agentName : String} {calls : List RecordCall}
    (written : daemon.auditDb agentName = some (recordAll calls)) : daemon.auditEntries agentName =
      some ((recordAll calls).entries.filter fun entry => daemon.selects agentName entry.agentId) := by
  unfold DaemonState.auditEntries
  rw [written, Option.map_some, AuditDb.entries, queryEntries_all, List.filter_map]
  show some (List.map AuditRow.toEntry (List.filter _ _)) = _
  congr 2
  apply List.filter_congr
  intro row member
  have text := recordAll_agentText calls row member
  unfold DaemonState.selects
  cases managed : daemon.supervisor.getAgent agentName with
  | none => simp [Function.comp]
  | some info =>
    have same : row.agentId = info.agentId.toText ↔ row.toEntry.agentId = info.agentId := by
      rw [text]
      constructor
      · intro equal
        have parsed := congrArg Uuid.parseStr equal
        rw [Uuid.parseStr_toText, Uuid.parseStr_toText] at parsed
        exact Option.some.inj parsed
      · exact congrArg Uuid.toText
    simp [Function.comp, same]

/-- The chain of a database that was written call by call is reported valid exactly when no entry of
the agent follows one of another agent. -/
theorem queryAudit_filtered (injective : Function.Injective Sha256.digest) {daemon : DaemonState}
    {agentName : String} {calls : List RecordCall}
    (written : daemon.auditDb agentName = some (recordAll calls)) (last : Nat) :
    (queryAudit daemon agentName last true).chainValid = some true ↔
      calls.Pairwise fun a b =>
        daemon.selects agentName b.agentId = true → daemon.selects agentName a.agentId = true := by
  rw [(queryAudit_found (auditEntries_recorded written) last).2, ← verifyChain_iff]
  exact verifyChain_selected injective calls _

end Filter

section
open scoped StandIn

namespace StandIn

def otherAgent : Uuid := ⟨List.replicate 16 7, by decide⟩

/-- An entry of another agent and then one of the agent. -/
def mixedCalls : List RecordCall :=
  [{ Core.StandIn.call "issue" 1 with agentId := otherAgent }, Core.StandIn.call "issue" 2]

def mixedDaemon : DaemonState := { rewrittenDaemon with
  auditDb := fun name => if name = "scout" then some (recordAll mixedCalls) else none }

theorem mixedDaemon_written : mixedDaemon.auditDb "scout" = some (recordAll mixedCalls) := by
  simp [mixedDaemon]

theorem mixedDaemon_mixes : ¬ mixedCalls.Pairwise fun a b =>
    mixedDaemon.selects "scout" b.agentId = true →
    mixedDaemon.selects "scout" a.agentId = true := by
  intro apart
  have first := (List.pairwise_cons.mp apart).1 (Core.StandIn.call "issue" 2) (List.mem_singleton.mpr rfl)
  exact absurd (first (by decide)) (by decide)

end StandIn

theorem queryAudit_filtered_mixed :
    (queryAudit StandIn.mixedDaemon "scout" 10 true).chainValid ≠ some true := by
  intro valid
  have apart := (queryAudit_filtered StandIn.sha256_injective StandIn.mixedDaemon_written 10).mp valid
  exact StandIn.mixedDaemon_mixes apart

/-- The log is untampered and reported as broken. -/
theorem queryAudit_broken : ¬ ∀ (daemon : DaemonState) (agentName : String)
    (calls : List RecordCall) (last : Nat), daemon.auditDb agentName = some (recordAll calls) →
    (queryAudit daemon agentName last true).chainValid = some true := by
  intro valid
  have reported := valid _ _ _ 10 StandIn.mixedDaemon_written
  rw [(queryAudit_found (auditEntries_recorded StandIn.mixedDaemon_written) 10).2,
    ← verifyChain_iff] at reported
  exact StandIn.mixedDaemon_mixes ((verifyChain_selected StandIn.sha256_injective _ _).mp reported)

end
end Daemon
end GrokingClawId
