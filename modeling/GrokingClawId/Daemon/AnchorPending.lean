import GrokingClawId.Daemon.Anchor
import GrokingClawId.Lib.Run
import Std.Data.String.ToNat

/-!
# Pending anchors

The counter that `status` reports beside the table that it counts, over runs of cycles and restarts of
the daemon. The counter lives in memory only. A restart makes a worker over the same table and counts
from zero.
-/

namespace GrokingClawId.Daemon
open GrokingClawId.Core

/-- Still to be submitted: `status = 'pending' OR status = 'failed'`. -/
def AnchorStatus.Awaits (status : AnchorStatus) : Prop := status = .pending ∨ status = .failed

instance : DecidablePred AnchorStatus.Awaits := fun _ => inferInstanceAs (Decidable (_ ∨ _))

namespace AnchorDb

/-- The rows that are pending or failed. -/
def awaiting (db : AnchorDb) : Nat := db.countP fun saved => saved.anchor.status.Awaits

def ids (db : AnchorDb) : List Nat := db.map (·.anchor.id)

theorem awaiting_saveAnchor (db : AnchorDb) (anchor : BreadcrumbAnchor) (covers : AgentLogs)
    (pending : anchor.status = .pending) :
    (db.saveAnchor anchor covers).awaiting = db.awaiting + 1 := by
  simp [saveAnchor, awaiting, AnchorStatus.Awaits, pending]

theorem ids_saveAnchor {db : AnchorDb} (increasing : db.ids.Pairwise (· < ·))
    (anchor : BreadcrumbAnchor) (covers : AgentLogs) :
    (db.saveAnchor anchor covers).ids.Pairwise (· < ·) := by
  unfold saveAnchor ids
  rw [List.map_append, List.pairwise_append]
  refine ⟨increasing, List.pairwise_singleton _ _, ?_⟩
  intro id member last here
  obtain rfl := List.mem_singleton.mp here
  show id < (db.getLast?.map (·.anchor.id)).getD 0 + 1
  induction db using List.reverseRecOn with
  | nil => cases member
  | append_singleton db saved _ =>
    rw [List.getLast?_concat, Option.map_some, Option.getD_some]
    rw [List.map_append, List.mem_append] at member
    rcases member with before | final
    · unfold ids at increasing
      rw [List.map_append, List.pairwise_append] at increasing
      have below : id < saved.anchor.id := increasing.2.2 id before _ (List.mem_singleton.mpr rfl)
      omega
    · obtain rfl := List.mem_singleton.mp final
      exact Nat.lt_succ_self _

theorem ids_updateAnchorStatus (db : AnchorDb) (id : Nat) (status : AnchorStatus)
    (txDigest : Option String) :
    (db.updateAnchorStatus id status txDigest).ids = db.ids := by
  unfold ids updateAnchorStatus
  rw [List.map_map]
  refine List.map_congr_left fun saved _ => ?_
  show (if saved.anchor.id = id then _ else saved).anchor.id = saved.anchor.id
  split <;> rfl

theorem updateAnchorStatus_absent {db : AnchorDb} {id : Nat} (absent : id ∉ db.ids)
    (status : AnchorStatus) (txDigest : Option String) :
    db.updateAnchorStatus id status txDigest = db := by
  unfold updateAnchorStatus
  conv_rhs => rw [← List.map_id db]
  apply List.map_congr_left
  intro saved member
  have other : saved.anchor.id ≠ id := fun same => absent (same ▸ List.mem_map_of_mem member)
  exact if_neg other

/-- The row of a submission is counted no more once it is submitted, and still when it failed. -/
theorem awaiting_updateAnchorStatus {db : AnchorDb} (distinct : db.ids.Nodup) {saved : SavedAnchor}
    (member : saved ∈ db) (awaits : saved.anchor.status.Awaits) (status : AnchorStatus)
    (txDigest : Option String) :
    (db.updateAnchorStatus saved.anchor.id status txDigest).awaiting + 1 =
      db.awaiting + if status.Awaits then 1 else 0 := by
  induction db with
  | nil => cases member
  | cons first db ih =>
    obtain ⟨new, distinct⟩ := List.nodup_cons.mp distinct
    have unfolds (id : Nat) : updateAnchorStatus (first :: db) id status txDigest =
        (if first.anchor.id = id then
          { first with anchor := { first.anchor with status := status, iotaTxDigest := txDigest } }
        else first) :: updateAnchorStatus db id status txDigest := rfl
    rw [unfolds]
    rcases List.mem_cons.mp member with here | later
    · subst here
      rw [if_pos rfl, updateAnchorStatus_absent new]
      simp only [awaiting, List.countP_cons, decide_eq_true_eq, awaits, if_true]
      omega
    · have other : first.anchor.id ≠ saved.anchor.id := by
        intro same
        apply new
        show first.anchor.id ∈ ids db
        rw [same]
        exact List.mem_map_of_mem later
      rw [if_neg other]
      have rest := ih distinct later
      simp only [awaiting, List.countP_cons] at rest ⊢
      omega

theorem mem_updateAnchorStatus {db : AnchorDb} {id : Nat} {saved : SavedAnchor}
    (member : saved ∈ db) (other : saved.anchor.id ≠ id) (status : AnchorStatus)
    (txDigest : Option String) :
    saved ∈ db.updateAnchorStatus id status txDigest :=
  List.mem_map.mpr ⟨saved, member, if_neg other⟩

/-- Each row to be submitted is one of the table that awaits. -/
theorem mem_getPendingAnchors {db : AnchorDb} {anchor : BreadcrumbAnchor}
    (member : anchor ∈ db.getPendingAnchors) :
    ∃ saved ∈ db, saved.anchor = anchor ∧ anchor.status.Awaits := by
  obtain ⟨listed, awaits⟩ := List.mem_filter.mp (List.mem_of_mem_take member)
  obtain ⟨saved, present, same⟩ := List.mem_map.mp listed
  exact ⟨saved, present, same, of_decide_eq_true awaits⟩

theorem getPendingAnchors_distinct {db : AnchorDb} (distinct : db.ids.Nodup) :
    (db.getPendingAnchors.map BreadcrumbAnchor.id).Nodup := by
  have taken : db.getPendingAnchors.Sublist (db.map SavedAnchor.anchor) :=
    (List.take_sublist _ _).trans List.filter_sublist
  apply (taken.map BreadcrumbAnchor.id).nodup
  rw [List.map_map]
  exact distinct

end AnchorDb

namespace AnchorWorker

/-- The table has its rows in the order of their ids, and the counter counts those that await. -/
structure Counts (w : AnchorWorker) : Prop where
  increasing : w.anchors.ids.Pairwise (· < ·)
  counted : w.state.pendingCount.toNat = w.anchors.awaiting

theorem Counts.distinct {w : AnchorWorker} (counts : w.Counts) : w.anchors.ids.Nodup :=
  counts.increasing.imp Nat.ne_of_lt

/-! ### Submissions -/

/-- One attempt of `submit_pending`. -/
def attempt (w : AnchorWorker) : BreadcrumbAnchor × Option String → AnchorWorker
  | (anchor, some txDigest) =>
    { w with anchors := w.anchors.updateAnchorStatus anchor.id .submitted (some txDigest)
             state := { w.state with
                        pendingCount := if w.state.pendingCount > 0 then w.state.pendingCount - 1
                                        else w.state.pendingCount } }
  | (anchor, none) => { w with anchors := w.anchors.updateAnchorStatus anchor.id .failed none }

theorem submitPending_eq (w : AnchorWorker) (submissions : List (Option String)) :
    w.submitPending submissions =
      (w.anchors.getPendingAnchors.zip submissions).foldl attempt w := by
  unfold submitPending
  congr 1

theorem decremented {count : UInt32} {n : Nat} (counted : count.toNat = n + 1) :
    (if count > 0 then count - 1 else count).toNat = n := by
  have positive : count > 0 := by
    rw [gt_iff_lt, UInt32.lt_iff_toNat_lt, counted]
    exact Nat.succ_pos n
  have one : (1 : UInt32) ≤ count := by
    rw [UInt32.le_iff_toNat_le, counted]
    exact Nat.succ_le_succ (Nat.zero_le n)
  rw [if_pos positive, UInt32.toNat_sub_of_le _ _ one, counted, UInt32.toNat_one,
    Nat.add_sub_cancel]

theorem attempt_counts {w : AnchorWorker} (counts : w.Counts) {saved : SavedAnchor}
    (member : saved ∈ w.anchors) (awaits : saved.anchor.status.Awaits) (outcome : Option String) :
    (w.attempt (saved.anchor, outcome)).Counts := by
  have count := AnchorDb.awaiting_updateAnchorStatus counts.distinct member awaits
  cases outcome with
  | none =>
    have still := count .failed none
    rw [if_pos (.inr rfl)] at still
    refine ⟨?_, ?_⟩
    · show (w.anchors.updateAnchorStatus _ _ _).ids.Pairwise (· < ·)
      rw [AnchorDb.ids_updateAnchorStatus]
      exact counts.increasing
    · show w.state.pendingCount.toNat = (w.anchors.updateAnchorStatus _ _ _).awaiting
      have before := counts.counted
      omega
  | some txDigest =>
    have fewer := count .submitted (some txDigest)
    rw [if_neg (by simp [AnchorStatus.Awaits]), Nat.add_zero] at fewer
    refine ⟨?_, ?_⟩
    · show (w.anchors.updateAnchorStatus _ _ _).ids.Pairwise (· < ·)
      rw [AnchorDb.ids_updateAnchorStatus]
      exact counts.increasing
    · apply decremented
      rw [counts.counted]
      exact fewer.symm

theorem mem_attempt {w : AnchorWorker} {saved : SavedAnchor} (member : saved ∈ w.anchors)
    {tried : BreadcrumbAnchor × Option String} (other : saved.anchor.id ≠ tried.1.id) :
    saved ∈ (w.attempt tried).anchors := by
  obtain ⟨anchor, _ | txDigest⟩ := tried
  · exact AnchorDb.mem_updateAnchorStatus member other _ _
  · exact AnchorDb.mem_updateAnchorStatus member other _ _

theorem attempts_count {w : AnchorWorker} (counts : w.Counts)
    {attempts : List (BreadcrumbAnchor × Option String)} (distinct : (attempts.map (·.1.id)).Nodup)
    (await : ∀ tried ∈ attempts, ∃ saved ∈ w.anchors, saved.anchor = tried.1 ∧
    tried.1.status.Awaits) :
    (attempts.foldl attempt w).Counts := by
  induction attempts generalizing w with
  | nil => exact counts
  | cons tried attempts ih =>
    obtain ⟨new, distinct⟩ := List.nodup_cons.mp distinct
    obtain ⟨saved, member, same, awaits⟩ := await tried List.mem_cons_self
    rw [List.foldl_cons]
    apply ih ?_ distinct
    · intro next later
      obtain ⟨row, present, equal, waits⟩ := await next (List.mem_cons_of_mem _ later)
      refine ⟨row, mem_attempt present ?_, equal, waits⟩
      intro clash
      apply new
      show tried.1.id ∈ _
      rw [← clash, equal]
      exact List.mem_map_of_mem (f := fun tried : BreadcrumbAnchor × Option String => tried.1.id) later
    · obtain ⟨anchor, outcome⟩ := tried
      obtain rfl : saved.anchor = anchor := same
      exact attempt_counts counts member awaits outcome

theorem map_fst_zip_sublist {α β : Type} (l : List α) (l' : List β) :
    ((l.zip l').map Prod.fst).Sublist l := by
  induction l generalizing l' with
  | nil => simp
  | cons a l ih =>
    cases l' with
    | nil => simp
    | cons b l' => exact (ih l').cons_cons a

theorem submitPending_counts {w : AnchorWorker} (counts : w.Counts)
    (submissions : List (Option String)) :
    (w.submitPending submissions).Counts := by
  rw [submitPending_eq]
  apply attempts_count counts
  · have zipped : ((w.anchors.getPendingAnchors.zip submissions).map
        (BreadcrumbAnchor.id ∘ Prod.fst)).Sublist (w.anchors.getPendingAnchors.map BreadcrumbAnchor.id) := by
      rw [← List.map_map]
      exact (map_fst_zip_sublist _ _).map _
    exact zipped.nodup (AnchorDb.getPendingAnchors_distinct counts.distinct)
  · intro tried member
    exact AnchorDb.mem_getPendingAnchors (List.of_mem_zip member).1

/-! ### Steps -/

/-- A batch is ready to be saved. -/
def Saves (config : AnchoringConfig) (w : AnchorWorker) : Prop :=
  ∃ cycle, w.cycle = some cycle ∧ cycle.toRead = [] ∧ cycle.allEntries ≠ [] ∧ config.batchSize ≠ 0

section
variable [Sha256]

theorem saveNext_saves {config : AnchoringConfig} {w : AnchorWorker} (saves : w.Saves config)
    (now : DateTime) :
    ∃ chunk, (w.saveNext config now).anchors = w.anchors.saveAnchor (chunkAnchor chunk now) chunk ∧
      (w.saveNext config now).state.pendingCount = w.state.pendingCount + 1 := by
  obtain ⟨cycle, active, allRead, ready, positive⟩ := saves
  refine ⟨cycle.allEntries.take config.batchSize, ?_⟩
  unfold saveNext
  rw [active]
  simp only [if_pos (And.intro allRead ready), if_neg positive, and_self]

theorem saveNext_idle {config : AnchoringConfig} {w : AnchorWorker} (idle : ¬ w.Saves config)
    (now : DateTime) :
    (w.saveNext config now).anchors = w.anchors ∧ (w.saveNext config now).state = w.state := by
  unfold saveNext
  cases active : w.cycle with
  | none => exact ⟨rfl, rfl⟩
  | some cycle =>
    by_cases ready : cycle.toRead = [] ∧ cycle.allEntries ≠ []
    · by_cases zero : config.batchSize = 0
      · simp only [if_pos ready, if_pos zero, and_self]
      · exact absurd ⟨cycle, active, ready.1, ready.2, zero⟩ idle
    · simp only [if_neg ready, and_self]

end

theorem incremented {w : AnchorWorker} (counts : w.Counts) :
    (w.state.pendingCount + 1).toNat = w.anchors.awaiting + 1 ↔
      w.anchors.awaiting + 1 < 4294967296 := by
  have small := w.state.pendingCount.toNat_lt
  have one : (1 : UInt32).toNat = 1 := rfl
  rw [UInt32.toNat_add, counts.counted, one]
  have before := counts.counted
  omega

theorem Counts.same {w w' : AnchorWorker} (counts : w.Counts) (anchors : w'.anchors = w.anchors)
    (state : w'.state = w.state) : w'.Counts where
  increasing := anchors ▸ counts.increasing
  counted := by rw [anchors, state, counts.counted]

theorem beginCycle_same (config : AnchoringConfig) (w : AnchorWorker) (listing : List String) :
    (w.beginCycle config listing).anchors = w.anchors ∧
    (w.beginCycle config listing).state = w.state := by
  unfold beginCycle
  split
  · exact ⟨rfl, rfl⟩
  · split <;> exact ⟨rfl, rfl⟩

theorem readNext_same (w : AnchorWorker) :
    w.readNext.anchors = w.anchors ∧ w.readNext.state = w.state := by
  unfold readNext
  split
  · split <;> exact ⟨rfl, rfl⟩
  · exact ⟨rfl, rfl⟩

theorem finishCycle_counts {w : AnchorWorker} (counts : w.Counts)
    (submissions : List (Option String)) :
    (w.finishCycle submissions).Counts := by
  unfold finishCycle
  split
  · split
    · split
      · exact counts.same rfl rfl
      · exact (submitPending_counts counts submissions).same rfl rfl
    · exact counts
  · exact counts

end AnchorWorker

/-! ### Runs of the daemon -/

/-- The worker of a daemon and the configuration that it started with. -/
structure AnchorDaemon where
  config : AnchoringConfig
  worker : AnchorWorker

/-- `restart` is the end of the process at any point and a new start, with the configuration read
then. -/
inductive AnchorEvent where
  | step (s : AnchorStep)
  | restart (config : AnchoringConfig)

namespace AnchorDaemon

/-- `AnchorWorker::new`: what is stored stays. -/
def start (config : AnchoringConfig) (logs : AgentLogs) (anchors : AnchorDb) : AnchorDaemon :=
  { config := config
    worker := { logs := logs, anchors := anchors,
                state := { lastAnchorAt := none, pendingCount := 0, totalAnchored := 0 }, cycle := none } }

section
variable [Ed25519] [Sha256]

def step (d : AnchorDaemon) : AnchorEvent → Option AnchorDaemon
  | .step s => some { d with worker := d.worker.step d.config s }
  | .restart config => some (start config d.worker.logs d.worker.anchors)

end

/-- What `status` says of the pending anchors is the number of rows that are pending or failed. -/
def Reports [Chrono] (d : AnchorDaemon) : Prop :=
  (d.worker.status d.config).get "pending_count" = some (.num (toString d.worker.anchors.awaiting))

/-- Nothing awaits when the daemon restarts, and a batch is saved only while the counter has
room. -/
def KeepsCount (d : AnchorDaemon) : AnchorEvent → Prop
  | .restart _ => d.worker.anchors.awaiting = 0
  | .step (.save _) => d.worker.Saves d.config → d.worker.anchors.awaiting + 1 < 4294967296
  | .step _ => True

theorem reports_iff [Chrono] {d : AnchorDaemon} :
    d.Reports ↔ d.worker.state.pendingCount.toNat = d.worker.anchors.awaiting := by
  have field : (d.worker.status d.config).get "pending_count" =
      some (.num (toString d.worker.state.pendingCount.toNat)) := rfl
  unfold Reports
  rw [field, Option.some.injEq, Json.num.injEq]
  exact Nat.repr_inj

section
variable [Ed25519] [Sha256]

/-- The ids stay in order whatever happens, and the count is kept by exactly the steps that keep
it. -/
theorem step_counts {d d' : AnchorDaemon} {e : AnchorEvent} (counts : d.worker.Counts)
    (stepped : d.step e = some d') : d'.worker.anchors.ids.Pairwise (· < ·) ∧
      (d'.worker.state.pendingCount.toNat = d'.worker.anchors.awaiting ↔ d.KeepsCount e) := by
  cases e with
  | restart config =>
    cases stepped
    exact ⟨counts.increasing, ⟨Eq.symm, Eq.symm⟩⟩
  | step s =>
    cases stepped
    have always {w : AnchorWorker} (counts : w.Counts) : w.anchors.ids.Pairwise (· < ·) ∧
        (w.state.pendingCount.toNat = w.anchors.awaiting ↔ True) :=
      ⟨counts.increasing, iff_true_intro counts.counted⟩
    cases s with
    | record dir call => exact always (counts.same rfl rfl)
    | begin listing =>
      obtain ⟨anchors, state⟩ := AnchorWorker.beginCycle_same d.config d.worker listing
      exact always (counts.same anchors state)
    | read =>
      obtain ⟨anchors, state⟩ := AnchorWorker.readNext_same d.worker
      exact always (counts.same anchors state)
    | save now =>
      show (d.worker.saveNext d.config now).anchors.ids.Pairwise (· < ·) ∧
        ((d.worker.saveNext d.config now).state.pendingCount.toNat =
          (d.worker.saveNext d.config now).anchors.awaiting ↔ d.KeepsCount (.step (.save now)))
      by_cases saves : d.worker.Saves d.config
      · obtain ⟨chunk, anchors, count⟩ := AnchorWorker.saveNext_saves saves now
        rw [anchors, count, AnchorDb.awaiting_saveAnchor _ _ _ rfl, AnchorWorker.incremented counts]
        refine ⟨AnchorDb.ids_saveAnchor counts.increasing _ _, ?_⟩
        exact ⟨fun room _ => room, fun room => room saves⟩
      · obtain ⟨anchors, state⟩ := AnchorWorker.saveNext_idle saves now
        obtain ⟨increasing, counted⟩ := counts.same anchors state
        exact ⟨increasing, ⟨fun _ saves' => absurd saves' saves, fun _ => counted⟩⟩
    | finish submissions => exact always (AnchorWorker.finishCycle_counts counts submissions)
    | fail => exact always (counts.same rfl rfl)

/-- Along every run of cycles, submissions and restarts from an empty table, the status reports the
rows that are pending or failed in every state exactly when no restart and no full counter comes in
between. -/
theorem pendingCount_reported [Chrono] (config : AnchoringConfig) (events : List AnchorEvent) :
    (∀ before d, before <+: events → Run step (start config [] []) before = some d → d.Reports) ↔
      Run.Each step KeepsCount (start config [] []) events := by
  rw [Run.reached_iff]
  have fresh : (start config [] []).worker.Counts := ⟨List.Pairwise.nil, rfl⟩
  have kept : ∀ d e d', d.worker.Counts → KeepsCount d e → step d e = some d' →
      d'.worker.Counts := by
    intro d e d' counts keeps stepped
    obtain ⟨increasing, counted⟩ := step_counts counts stepped
    exact ⟨increasing, counted.mpr keeps⟩
  have leads_iff : ∀ d e d', d.worker.Counts → step d e = some d' →
      (Run.Leads step Reports d e ↔ KeepsCount d e) := by
    intro d e d' counts stepped
    rw [← (step_counts counts stepped).2]
    constructor
    · intro leads
      exact reports_iff.mp (leads d' stepped)
    · intro counted t other
      obtain rfl := Option.some.inj (stepped.symm.trans other)
      exact reports_iff.mpr counted
  rw [Run.each_iff kept leads_iff fresh events]
  exact and_iff_right (reports_iff.mpr fresh.counted)

end

section
open scoped StandIn

/-- One batch, whose submission fails, and a restart. -/
def forgotten : List AnchorEvent :=
  [.step (.record "a" (StandIn.call "issue" 100)), .step (.begin ["a"]), .step .read, .step (.save 0),
    .step (.finish [none]), .restart { enabled := true, batchSize := 1 }]

/-- The failed row is in the table, and nothing is reported. -/
theorem pendingCount_forgotten : ¬ ∀ (config : AnchoringConfig) (events : List AnchorEvent)
    (d : AnchorDaemon),
    Run step (start config [] []) events = some d → d.Reports := by
  intro reports
  let config : AnchoringConfig := { enabled := true, batchSize := 1 }
  have outcome : (Run step (start config [] []) forgotten).map (fun d =>
      (d.worker.state.pendingCount.toNat, d.worker.anchors.awaiting)) = some (0, 1) := rfl
  obtain ⟨d, ran, counts⟩ := Option.map_eq_some_iff.mp outcome
  obtain ⟨counted, rows⟩ := Prod.mk.inj counts
  have reported := reports_iff.mp (reports config forgotten d ran)
  omega

end
end AnchorDaemon
end GrokingClawId.Daemon
