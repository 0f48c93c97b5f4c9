import GrokingClawId.Daemon.Anchor

/-!
# Runs of the anchor worker

Which entries a cycle covers, over every run of writers and cycles. A cycle reads exactly the
entries above the watermark, so an entry that is uncovered when the cycle starts and not above
the watermark is passed over by this cycle.
-/

namespace GrokingClawId.Daemon
open GrokingClawId.Core

namespace AnchorDb

theorem covered_saveAnchor {db : AnchorDb} {anchor : BreadcrumbAnchor} {chunk : AgentLogs}
    {entry : String × AuditRow} :
    (db.saveAnchor anchor chunk).Covered entry ↔ db.Covered entry ∨ entry ∈ chunk := by
  simp [saveAnchor, Covered, or_and_right, exists_or]

theorem covered_updateAnchorStatus {db : AnchorDb} {id : Nat} {status : AnchorStatus}
    {txDigest : Option String} {entry : String × AuditRow} :
    (db.updateAnchorStatus id status txDigest).Covered entry ↔ db.Covered entry := by
  have kept : ∀ saved : SavedAnchor,
      (if saved.anchor.id = id then
        { saved with anchor := { saved.anchor with status := status, iotaTxDigest := txDigest } }
      else saved).covers = saved.covers := by
    intro saved
    split <;> rfl
  simp only [updateAnchorStatus, Covered, List.mem_map, exists_exists_and_eq_and, kept]

end AnchorDb

namespace AnchorWorker

theorem covered_submitPending (w : AnchorWorker) (submissions : List (Option String))
    {entry : String × AuditRow} :
    (w.submitPending submissions).anchors.Covered entry ↔ w.anchors.Covered entry := by
  unfold submitPending
  generalize w.anchors.getPendingAnchors.zip submissions = attempts
  induction attempts generalizing w with
  | nil => exact Iff.rfl
  | cons attempt rest ih =>
    obtain ⟨anchor, outcome⟩ := attempt
    rw [List.foldl_cons, ih]
    cases outcome with
    | some txDigest => exact AnchorDb.covered_updateAnchorStatus
    | none => exact AnchorDb.covered_updateAnchorStatus

theorem mem_db {logs : AgentLogs} {dir : String} {row : AuditRow} :
    row ∈ logs.db dir ↔ (dir, row) ∈ logs := by
  simp [AgentLogs.db]

/-- What holds while a cycle is under way. -/
structure Tracks (w : AnchorWorker) (cycle : AnchorCycle) : Prop where
  watermark : cycle.lastTimestamp = cycle.startAnchors.getLastAnchoredTimestamp
  grown : ∀ entry, cycle.startAnchors.Covered entry → w.anchors.Covered entry
  kept : ∀ entry ∈ cycle.startLogs, entry ∈ w.logs
  located : ∀ entry ∈ cycle.startLogs, cycle.lastTimestamp < entry.2.timestamp →
    entry.1 ∈ cycle.toRead ∨ entry ∈ cycle.allEntries ∨ w.anchors.Covered entry
  fresh : ∀ entry ∈ cycle.allEntries, cycle.lastTimestamp < entry.2.timestamp
  newer : ∀ entry, w.anchors.Covered entry →
    cycle.startAnchors.Covered entry ∨ cycle.lastTimestamp < entry.2.timestamp

def Tracked (w : AnchorWorker) : Prop := ∀ cycle, w.cycle = some cycle → w.Tracks cycle

/-! ### One step -/

theorem beginCycle_tracked {config : AnchoringConfig} {w : AnchorWorker} (tracked : w.Tracked)
    (listing : List String) : (w.beginCycle config listing).Tracked := by
  unfold beginCycle
  split
  · exact tracked
  · split
    · rename_i starts
      intro cycle active
      cases active
      exact { watermark := rfl
              grown := fun _ covered => covered
              kept := fun _ present => present
              located := fun entry present _ => .inl (starts.2 entry present)
              fresh := fun _ impossible => (List.not_mem_nil impossible).elim
              newer := fun _ covered => .inl covered }
    · exact tracked

theorem readNext_tracked {w : AnchorWorker} (tracked : w.Tracked) : w.readNext.Tracked := by
  unfold readNext
  split
  · rename_i cycle active
    have tracks := tracked cycle active
    split
    · rename_i dir rest pending
      intro next same
      cases same
      refine { tracks with located := fun entry present above => ?_, fresh := fun entry member => ?_ }
      · rcases tracks.located entry present above with waiting | collected | covered
        · rw [pending] at waiting
          rcases List.mem_cons.mp waiting with here | later
          · refine .inr (.inl (List.mem_append_right _ (List.mem_map.mpr ⟨entry.2, ?_, by rw [← here]⟩)))
            have stored : entry.2 ∈ w.logs.db dir := mem_db.mpr (here ▸ tracks.kept entry present)
            exact List.mem_filter.mpr ⟨stored, decide_eq_true above⟩
          · exact .inl later
        · exact .inr (.inl (List.mem_append_left _ collected))
        · exact .inr (.inr covered)
      · rcases List.mem_append.mp member with collected | added
        · exact tracks.fresh entry collected
        · obtain ⟨row, present, rfl⟩ := List.mem_map.mp added
          exact of_decide_eq_true (List.mem_filter.mp present).2
    · exact tracked
  · exact tracked

theorem saveNext_tracked [Sha256] {config : AnchoringConfig} {w : AnchorWorker}
    (tracked : w.Tracked) (now : DateTime) :
    (w.saveNext config now).Tracked := by
  unfold saveNext
  split
  · rename_i cycle active
    have tracks := tracked cycle active
    split
    · split
      · intro next impossible
        cases impossible
      · intro next same
        cases same
        have taken : ∀ entry ∈ cycle.allEntries.take config.batchSize,
            cycle.lastTimestamp < entry.2.timestamp :=
          fun entry member => tracks.fresh entry (List.mem_of_mem_take member)
        refine { watermark := tracks.watermark, kept := tracks.kept, grown := fun entry covered => ?_,
                 located := fun entry present above => ?_, newer := fun entry covered => ?_,
                 fresh := fun entry member => tracks.fresh entry (List.mem_of_mem_drop member) }
        · exact AnchorDb.covered_saveAnchor.mpr (.inl (tracks.grown entry covered))
        · rcases tracks.located entry present above with waiting | collected | covered
          · exact .inl waiting
          · rw [← List.take_append_drop config.batchSize cycle.allEntries] at collected
            rcases List.mem_append.mp collected with saved | later
            · exact .inr (.inr (AnchorDb.covered_saveAnchor.mpr (.inr saved)))
            · exact .inr (.inl later)
          · exact .inr (.inr (AnchorDb.covered_saveAnchor.mpr (.inl covered)))
        · rcases AnchorDb.covered_saveAnchor.mp covered with before | saved
          · exact tracks.newer entry before
          · exact .inr (taken entry saved)
    · exact tracked
  · exact tracked

theorem finishCycle_tracked {w : AnchorWorker} (tracked : w.Tracked)
    (submissions : List (Option String)) :
    (w.finishCycle submissions).Tracked := by
  unfold finishCycle
  split
  · split
    · split <;> (intro next impossible; cases impossible)
    · exact tracked
  · exact tracked

theorem covered_finishCycle (w : AnchorWorker) (submissions : List (Option String))
    {entry : String × AuditRow} :
    (w.finishCycle submissions).anchors.Covered entry ↔ w.anchors.Covered entry := by
  unfold finishCycle
  split
  · split
    · split
      · exact Iff.rfl
      · exact covered_submitPending w submissions
    · exact Iff.rfl
  · exact Iff.rfl

section Runs
variable [Ed25519] [Sha256]

theorem record_tracked {w : AnchorWorker} (tracked : w.Tracked) (dir : String) (call : RecordCall) :
    (w.record dir call).Tracked := by
  intro cycle active
  have tracks := tracked cycle active
  exact { tracks with kept := fun entry present => List.mem_append_left _ (tracks.kept entry present) }

theorem step_tracked (config : AnchoringConfig) {w : AnchorWorker} (tracked : w.Tracked)
    (s : AnchorStep) :
    (w.step config s).Tracked := by
  cases s with
  | record dir call => exact record_tracked tracked dir call
  | begin listing => exact beginCycle_tracked tracked listing
  | read => exact readNext_tracked tracked
  | save now => exact saveNext_tracked tracked now
  | finish submissions => exact finishCycle_tracked tracked submissions
  | fail => intro cycle impossible; cases impossible

/-! ### Runs -/

theorem run_tracked (config : AnchoringConfig) (steps : List AnchorStep) :
    (run config steps).Tracked := by
  induction steps using List.reverseRecOn with
  | nil => intro cycle impossible; cases impossible
  | append_singleton steps s ih =>
    rw [run, List.foldl_append]
    exact step_tracked config ih s

/-- A cycle that returns has covered every entry it started with exactly when each of those that no
anchor included was above the watermark. -/
theorem anchorCycle_covers (config : AnchoringConfig) (steps : List AnchorStep)
    (cycle : AnchorCycle) (submissions : List (Option String))
    (returns : (run config steps).Returns cycle) :
    (∀ entry ∈ cycle.startLogs, 0 < entry.2.timestamp →
      ((run config steps).step config (.finish submissions)).anchors.Covered entry) ↔
    ∀ entry ∈ cycle.startLogs, 0 < entry.2.timestamp →
      ¬ cycle.startAnchors.Covered entry →
        cycle.startAnchors.getLastAnchoredTimestamp < entry.2.timestamp := by
  obtain ⟨active, allRead, allSaved⟩ := returns
  have tracks := run_tracked config steps cycle active
  rw [← tracks.watermark]
  constructor
  · intro covers entry present positive uncovered
    have covered := (covered_finishCycle _ submissions).mp (covers entry present positive)
    exact (tracks.newer entry covered).resolve_left uncovered
  · intro above entry present positive
    apply (covered_finishCycle _ submissions).mpr
    by_cases before : cycle.startAnchors.Covered entry
    · exact tracks.grown entry before
    · rcases tracks.located entry present (above entry present positive before) with
        waiting | collected | covered
      · rw [allRead] at waiting
        exact (List.not_mem_nil waiting).elim
      · rw [allSaved] at collected
        exact (List.not_mem_nil collected).elim
      · exact covered

end Runs

section
open scoped StandIn

theorem anchorCycle_covers_first :
    let config : AnchoringConfig := { enabled := true, batchSize := 2 }
    let w := run config [.record "a" (StandIn.call "issue" 100), .begin ["a"], .read, .save 0]
    ∀ entry ∈ w.logs, 0 < entry.2.timestamp →
      (w.step config (.finish [])).anchors.Covered entry := by
  intro config w
  let cycle : AnchorCycle :=
    { lastTimestamp := 0, toRead := [], allEntries := [], batches := 1, startLogs := w.logs,
      startAnchors := [] }
  have returns : w.Returns cycle := ⟨rfl, rfl, rfl⟩
  exact (anchorCycle_covers config _ cycle [] returns).mpr fun entry _ positive _ => positive

/-- Two agents record in the same second, one before and one after a cycle, and a second cycle has
read both logs. -/
def sameSecond : List AnchorStep :=
  [.record "a" (StandIn.call "issue" 100), .begin ["a"], .read, .save 0, .finish [],
    .record "b" (StandIn.call "issue" 100), .begin ["a", "b"], .read, .read]

/-- The second cycle returns without the second entry. -/
theorem anchorCycle_passes_over :
    ¬ ∀ (config : AnchoringConfig) (steps : List AnchorStep) (cycle : AnchorCycle)
      (submissions : List (Option String)),
      config.enabled = true → 1 ≤ config.batchSize → (run config steps).Returns cycle →
      ∀ entry ∈ cycle.startLogs, 0 < entry.2.timestamp →
        ((run config steps).step config (.finish submissions)).anchors.Covered entry := by
  intro covers
  have second : (run ⟨true, 5, 2⟩ sameSecond).cycle.map (fun cycle =>
      (cycle.toRead, cycle.allEntries, cycle.startLogs.map fun entry => (entry.1, entry.2.timestamp))) =
    some ([], [], [("a", 100), ("b", 100)]) := rfl
  have saved : ((run ⟨true, 5, 2⟩ sameSecond).step ⟨true, 5, 2⟩ (.finish [])).anchors.map
      (fun anchor => anchor.covers.map Prod.fst) = [["a"]] := rfl
  obtain ⟨cycle, active, data⟩ := Option.map_eq_some_iff.mp second
  simp only [Prod.mk.injEq] at data
  obtain ⟨allRead, allSaved, started⟩ := data
  have present : ("b", (100 : Int)) ∈ cycle.startLogs.map fun entry => (entry.1, entry.2.timestamp) := by
    simp [started]
  obtain ⟨entry, member, same⟩ := List.mem_map.mp present
  obtain ⟨dir, time⟩ := Prod.mk.inj same
  have positive : 0 < entry.2.timestamp := by omega
  obtain ⟨anchor, kept, covered⟩ :=
    covers ⟨true, 5, 2⟩ sameSecond cycle [] rfl (by decide) ⟨active, allRead, allSaved⟩ entry member positive
  have listed := List.mem_map_of_mem (f := fun anchor : SavedAnchor => anchor.covers.map Prod.fst) kept
  rw [saved, List.mem_singleton] at listed
  have named := List.mem_map_of_mem (f := Prod.fst) covered
  rw [dir, listed] at named
  exact absurd named (by decide)

end
end AnchorWorker

end GrokingClawId.Daemon
