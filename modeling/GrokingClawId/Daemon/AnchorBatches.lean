import Mathlib.Algebra.BigOperators.Group.List.Basic
import Mathlib.Data.String.Basic
import GrokingClawId.Daemon.AnchorRuns

/-!
# Batches of the anchor worker

What the anchors hold, over every run of writers and cycles: no row of an audit database is
covered twice, and the anchors of one cycle cut what it collected into consecutive batches.
A row is never read again because every covered timestamp is at most the watermark.
-/

namespace GrokingClawId.Daemon
open GrokingClawId.Core

/-! ### Sorted distinct lists -/

section Distinct
variable {α : Type}

theorem mem_destutter_from [DecidableEq α] {x : α} (first : α) (l : List α) :
    x ∈ l.destutter' (· ≠ ·) first ↔ x = first ∨ x ∈ l := by
  induction l generalizing first with
  | nil => simp
  | cons next l ih =>
    by_cases same : first = next
    · subst same
      rw [List.destutter'_cons_neg l (by simp), ih]
      simp
    · rw [List.destutter'_cons_pos l same, List.mem_cons, ih, List.mem_cons]

theorem mem_destutter [DecidableEq α] {x : α} (l : List α) : x ∈ l.destutter (· ≠ ·) ↔ x ∈ l := by
  cases l with
  | nil => simp
  | cons first l => rw [List.destutter_cons', mem_destutter_from, List.mem_cons]

theorem isChain_lt [LinearOrder α] {l : List α} (ordered : l.IsChain (· ≤ ·))
    (distinct : l.IsChain (· ≠ ·)) : l.IsChain (· < ·) := by
  induction distinct with
  | nil => exact .nil
  | singleton a => exact .singleton a
  | cons_cons different _ ih =>
    obtain ⟨below, rest⟩ := List.isChain_cons_cons.mp ordered
    exact .cons_cons (lt_of_le_of_ne below different) (ih rest)

theorem pairwise_destutter [LinearOrder α] {l : List α} (sorted : l.Pairwise (· ≤ ·)) :
    (l.destutter (· ≠ ·)).Pairwise (· < ·) := by
  have ordered : (l.destutter (· ≠ ·)).Pairwise (· ≤ ·) :=
    sorted.sublist (List.destutter_sublist (· ≠ ·) l)
  rw [← List.isChain_iff_pairwise] at ordered ⊢
  exact isChain_lt ordered (List.isChain_destutter (· ≠ ·) l)

end Distinct

/-! ### One batch -/

/-- What a saved anchor says of the rows it covers. -/
structure Summarizes [Sha256] (config : AnchoringConfig) (saved : SavedAnchor) : Prop where
  nonempty : saved.covers ≠ []
  size : saved.covers.length ≤ config.batchSize
  count : saved.anchor.entryCount = saved.covers.length
  root : saved.anchor.merkleRoot = computeMerkleRoot (saved.covers.map fun entry => entry.2.entryHash)
  sorted : saved.anchor.agentIds.Pairwise (· < ·)
  agents : ∀ id, id ∈ saved.anchor.agentIds ↔ ∃ entry ∈ saved.covers, entry.2.agentId = id
  window : ∀ entry ∈ saved.covers,
    saved.anchor.firstEntryAt ≤ entry.2.timestamp ∧ entry.2.timestamp ≤ saved.anchor.lastEntryAt

namespace AnchorWorker

theorem chunkAnchor_sorted [Sha256] (chunk : AgentLogs) (now : DateTime) :
    (chunkAnchor chunk now).agentIds.Pairwise (· < ·) := by
  have trans : ∀ a b c : String, decide (a ≤ b) = true → decide (b ≤ c) = true →
      decide (a ≤ c) = true :=
    fun _ _ _ ab bc => decide_eq_true (le_trans (of_decide_eq_true ab) (of_decide_eq_true bc))
  have total : ∀ a b : String, (decide (a ≤ b) || decide (b ≤ a)) = true := by
    intro a b
    rcases le_total a b with h | h
    · simp [h]
    · simp [h]
  have sorted := List.pairwise_mergeSort trans total (chunk.map fun entry => entry.2.agentId)
  exact pairwise_destutter (sorted.imp of_decide_eq_true)

theorem chunkAnchor_agents [Sha256] (chunk : AgentLogs) (now : DateTime) (id : String) :
    id ∈ (chunkAnchor chunk now).agentIds ↔ ∃ entry ∈ chunk, entry.2.agentId = id := by
  simp only [chunkAnchor, mem_destutter, List.mem_mergeSort, List.mem_map]

theorem chunkAnchor_window [Sha256] {chunk : AgentLogs} (now : DateTime) {entry : String × AuditRow}
    (member : entry ∈ chunk) :
    (chunkAnchor chunk now).firstEntryAt ≤ entry.2.timestamp ∧
      entry.2.timestamp ≤ (chunkAnchor chunk now).lastEntryAt := by
  have listed : entry.2.timestamp ∈ chunk.map fun entry => entry.2.timestamp :=
    List.mem_map_of_mem member
  have nonempty := List.ne_nil_of_mem listed
  obtain ⟨least, first⟩ := Option.ne_none_iff_exists'.mp (mt List.min?_eq_none_iff.mp nonempty)
  obtain ⟨greatest, last⟩ := Option.ne_none_iff_exists'.mp (mt List.max?_eq_none_iff.mp nonempty)
  simp only [chunkAnchor, first, last, Option.getD_some]
  exact ⟨(List.min?_eq_some_iff.mp first).2 _ listed, (List.max?_eq_some_iff.mp last).2 _ listed⟩

theorem chunkAnchor_summarizes [Sha256] {config : AnchoringConfig} {chunk : AgentLogs}
    (nonempty : chunk ≠ []) (size : chunk.length ≤ config.batchSize) (now : DateTime) (id : Nat) :
    Summarizes config { anchor := { chunkAnchor chunk now with id := id }, covers := chunk } where
  nonempty := nonempty
  size := size
  count := rfl
  root := rfl
  sorted := chunkAnchor_sorted chunk now
  agents := chunkAnchor_agents chunk now
  window _ member := chunkAnchor_window now member

end AnchorWorker

/-! ### Submissions -/

/-- A saved anchor without what a submission changes. -/
def SavedAnchor.content (saved : SavedAnchor) : SavedAnchor :=
  { saved with anchor := { saved.anchor with status := .pending, iotaTxDigest := none } }

theorem summarizes_content [Sha256] {config : AnchoringConfig} {saved : SavedAnchor} :
    Summarizes config saved.content ↔ Summarizes config saved :=
  ⟨fun s => ⟨s.nonempty, s.size, s.count, s.root, s.sorted, s.agents, s.window⟩,
    fun s => ⟨s.nonempty, s.size, s.count, s.root, s.sorted, s.agents, s.window⟩⟩

theorem AnchorDb.content_updateAnchorStatus (db : AnchorDb) (id : Nat) (status : AnchorStatus)
    (txDigest : Option String) :
    (db.updateAnchorStatus id status txDigest).map SavedAnchor.content =
      db.map SavedAnchor.content := by
  unfold updateAnchorStatus
  rw [List.map_map]
  apply List.map_congr_left
  intro saved _
  simp only [Function.comp_apply]
  split <;> rfl

/-- All rows covered by the saved anchors, in the order they were saved. -/
def AnchorDb.coverage (db : AnchorDb) : AgentLogs := db.flatMap SavedAnchor.covers

theorem AnchorDb.coverage_content (db : AnchorDb) :
    AnchorDb.coverage (db.map SavedAnchor.content) = db.coverage := by
  unfold AnchorDb.coverage
  rw [List.flatMap_map]
  rfl

namespace AnchorWorker

theorem content_submitPending (w : AnchorWorker) (submissions : List (Option String)) :
    (w.submitPending submissions).anchors.map SavedAnchor.content =
      w.anchors.map SavedAnchor.content := by
  unfold submitPending
  generalize w.anchors.getPendingAnchors.zip submissions = attempts
  induction attempts generalizing w with
  | nil => rfl
  | cons attempt rest ih =>
    obtain ⟨anchor, outcome⟩ := attempt
    rw [List.foldl_cons, ih]
    cases outcome with
    | some txDigest => exact AnchorDb.content_updateAnchorStatus _ _ _ _
    | none => exact AnchorDb.content_updateAnchorStatus _ _ _ _

theorem content_finishCycle (w : AnchorWorker) (submissions : List (Option String)) :
    (w.finishCycle submissions).anchors.map SavedAnchor.content =
      w.anchors.map SavedAnchor.content := by
  unfold finishCycle
  split
  · split
    · split
      · rfl
      · exact content_submitPending w submissions
    · rfl
  · rfl

theorem logs_submitPending (w : AnchorWorker) (submissions : List (Option String)) :
    (w.submitPending submissions).logs = w.logs := by
  unfold submitPending
  generalize w.anchors.getPendingAnchors.zip submissions = attempts
  induction attempts generalizing w with
  | nil => rfl
  | cons attempt rest ih =>
    obtain ⟨anchor, outcome⟩ := attempt
    rw [List.foldl_cons, ih]
    cases outcome <;> rfl

end AnchorWorker

/-! ### Each row once -/

/-- `read_dir` returns each directory once. -/
def AnchorStep.ListsOnce : AnchorStep → Prop
  | .begin listing => listing.Nodup
  | .record .. | .read | .save _ | .finish _ | .fail => True

/-- What tells one row from another: its database and its id there. -/
def entryKey (entry : String × AuditRow) : String × Nat := (entry.1, entry.2.id)

/-- Within each database the ids grow. -/
def AgentLogs.Growing (logs : AgentLogs) : Prop :=
  logs.Pairwise fun earlier later => earlier.1 = later.1 → earlier.2.id < later.2.id

namespace AgentLogs

theorem Growing.keys {logs : AgentLogs} (growing : logs.Growing) : (logs.map entryKey).Nodup := by
  unfold Growing at growing
  apply List.pairwise_map.mpr
  apply growing.imp
  intro earlier later less same
  obtain ⟨dir, id⟩ := Prod.mk.inj same
  exact absurd id (Nat.ne_of_lt (less dir))

theorem Growing.eq {logs : AgentLogs} (growing : logs.Growing) {entry entry' : String × AuditRow}
    (member : entry ∈ logs) (member' : entry' ∈ logs) (same : entryKey entry = entryKey entry') :
    entry = entry' :=
  List.inj_on_of_nodup_map growing.keys member member' same

theorem Growing.db {logs : AgentLogs} (growing : logs.Growing) (dir : String) :
    (logs.db dir).Pairwise fun earlier later => earlier.id < later.id := by
  unfold AgentLogs.db
  apply List.pairwise_map.mpr
  apply (growing.sublist List.filter_sublist).imp_of_mem
  intro earlier later here there less
  simp only [List.mem_filter, decide_eq_true_eq] at here there
  exact less (here.2.trans there.2.symm)

theorem id_lt_nextId {db : AuditDb}
    (growing : db.Pairwise fun earlier later => earlier.id < later.id) {row : AuditRow}
    (member : row ∈ db) : row.id < db.nextId := by
  obtain ⟨front, last, rfl⟩ := (List.eq_nil_or_concat' db).resolve_left (List.ne_nil_of_mem member)
  simp only [AuditDb.nextId, List.getLast?_append, List.getLast?_singleton, Option.some_or,
    Option.map_some, Option.getD_some]
  rcases List.mem_append.mp member with before | here
  · have less := (List.pairwise_append.mp growing).2.2 row before last (List.mem_singleton.mpr rfl)
    omega
  · rw [List.mem_singleton.mp here]
    omega

theorem Growing.append {logs : AgentLogs} (growing : logs.Growing) {dir : String} {row : AuditRow}
    (id : row.id = (logs.db dir).nextId) : AgentLogs.Growing (logs ++ [(dir, row)]) := by
  unfold Growing
  rw [List.pairwise_append]
  refine ⟨growing, List.pairwise_singleton _ _, ?_⟩
  rintro ⟨place, earlier⟩ present later here same
  obtain rfl := List.mem_singleton.mp here
  obtain rfl : place = dir := same
  rw [id]
  exact id_lt_nextId (growing.db place) (AnchorWorker.mem_db.mpr present)

end AgentLogs

theorem AnchorDb.le_lastAnchored {db : AnchorDb}
    (below : ∀ saved ∈ db, ∀ entry ∈ saved.covers, entry.2.timestamp ≤ saved.anchor.lastEntryAt)
    {entry : String × AuditRow} (covered : entry ∈ db.coverage) :
    entry.2.timestamp ≤ db.getLastAnchoredTimestamp := by
  obtain ⟨saved, member, present⟩ := List.mem_flatMap.mp covered
  have listed : saved.anchor.lastEntryAt ∈ db.map (·.anchor.lastEntryAt) :=
    List.mem_map_of_mem member
  obtain ⟨greatest, found⟩ :=
    Option.ne_none_iff_exists'.mp (mt List.max?_eq_none_iff.mp (List.ne_nil_of_mem listed))
  unfold getLastAnchoredTimestamp
  rw [found, Option.getD_some]
  exact le_trans (below saved member entry present) ((List.max?_eq_some_iff.mp found).2 _ listed)

theorem AnchorDb.saveAnchor_appends (db : AnchorDb) (anchor : BreadcrumbAnchor)
    (chunk : AgentLogs) :
    ∃ id, db.saveAnchor anchor chunk =
      db ++ [{ anchor := { anchor with id := id }, covers := chunk }] := ⟨_, rfl⟩

theorem AnchorDb.coverage_saveAnchor (db : AnchorDb) (anchor : BreadcrumbAnchor)
    (chunk : AgentLogs) :
    (db.saveAnchor anchor chunk).coverage = db.coverage ++ chunk := by
  simp [saveAnchor, coverage]

namespace AnchorWorker

/-- A directory that is still to be read has given no row after the watermark. -/
structure Reads (w : AnchorWorker) (cycle : AnchorCycle) : Prop where
  listed : cycle.toRead.Nodup
  stored : ∀ entry ∈ cycle.allEntries, entry ∈ w.logs
  unread : ∀ entry ∈ cycle.allEntries, entry.1 ∉ cycle.toRead
  passed : ∀ entry ∈ w.anchors.coverage, cycle.lastTimestamp < entry.2.timestamp →
    entry.1 ∉ cycle.toRead
  distinct : ((w.anchors.coverage ++ cycle.allEntries).map entryKey).Nodup

structure Once (w : AnchorWorker) : Prop where
  growing : w.logs.Growing
  stored : ∀ entry ∈ w.anchors.coverage, entry ∈ w.logs
  below : ∀ saved ∈ w.anchors, ∀ entry ∈ saved.covers, entry.2.timestamp ≤ saved.anchor.lastEntryAt
  distinct : (w.anchors.coverage.map entryKey).Nodup
  reads : ∀ cycle, w.cycle = some cycle → w.Reads cycle

theorem Once.idle {w : AnchorWorker} (once : w.Once) : Once { w with cycle := none } :=
  { once with reads := fun _ impossible => nomatch impossible }

/-! ### One step -/

theorem beginCycle_once {config : AnchoringConfig} {w : AnchorWorker} (once : w.Once)
    {listing : List String} (listed : listing.Nodup) : (w.beginCycle config listing).Once := by
  unfold beginCycle
  split
  · exact once
  · split
    · refine { once with reads := ?_ }
      intro cycle active
      cases active
      exact { listed := listed
              stored := fun _ impossible => (List.not_mem_nil impossible).elim
              unread := fun _ impossible => (List.not_mem_nil impossible).elim
              passed := fun entry covered above =>
                absurd (AnchorDb.le_lastAnchored once.below covered) (not_le.mpr above)
              distinct := by rw [List.append_nil]; exact once.distinct }
    · exact once

/-- The rows that one read adds. -/
def readRows (w : AnchorWorker) (dir : String) (since : Int) : AgentLogs :=
  (readAuditHashes (w.logs.db dir) since).map fun row => (dir, row)

theorem mem_readRows {w : AnchorWorker} {dir : String} {since : Int} {entry : String × AuditRow}
    (member : entry ∈ w.readRows dir since) :
    entry.1 = dir ∧ entry ∈ w.logs ∧ since < entry.2.timestamp := by
  obtain ⟨row, read, rfl⟩ := List.mem_map.mp member
  obtain ⟨present, above⟩ := List.mem_filter.mp read
  exact ⟨rfl, mem_db.mp present, of_decide_eq_true above⟩

theorem readRows_keys {w : AnchorWorker} (growing : w.logs.Growing) (dir : String) (since : Int) :
    ((w.readRows dir since).map entryKey).Nodup := by
  unfold readRows readAuditHashes
  rw [List.map_map]
  apply List.pairwise_map.mpr
  apply ((growing.db dir).sublist List.filter_sublist).imp
  intro earlier later less same
  exact absurd (Prod.mk.inj same).2 (Nat.ne_of_lt less)

theorem Reads.read {w : AnchorWorker} {cycle : AnchorCycle} {dir : String} {rest : List String}
    (once : w.Once) (reads : w.Reads cycle) (pending : cycle.toRead = dir :: rest) :
    w.Reads { cycle with toRead := rest
                         allEntries := cycle.allEntries ++ w.readRows dir cycle.lastTimestamp } := by
  obtain ⟨listed, stored, unread, passed, distinct⟩ := reads
  rw [pending] at listed unread passed
  obtain ⟨dirRead, listed⟩ := List.nodup_cons.mp listed
  constructor
  · exact listed
  · intro entry member
    rcases List.mem_append.mp member with before | added
    · exact stored entry before
    · exact (mem_readRows added).2.1
  · intro entry member waiting
    rcases List.mem_append.mp member with before | added
    · exact unread entry before (List.mem_cons_of_mem _ waiting)
    · rw [(mem_readRows added).1] at waiting
      exact dirRead waiting
  · intro entry covered above waiting
    exact passed entry covered above (List.mem_cons_of_mem _ waiting)
  · rw [← List.append_assoc, List.map_append, List.nodup_append]
    refine ⟨distinct, readRows_keys once.growing dir _, ?_⟩
    intro key before key' added same
    obtain ⟨entry, member, rfl⟩ := List.mem_map.mp before
    obtain ⟨entry', read, rfl⟩ := List.mem_map.mp added
    obtain ⟨here, present, above⟩ := mem_readRows read
    rcases List.mem_append.mp member with covered | collected
    · -- a covered row after the watermark was read from another directory
      obtain rfl := once.growing.eq (once.stored entry covered) present same
      exact passed entry covered above (here ▸ List.mem_cons_self)
    · obtain rfl := once.growing.eq (stored entry collected) present same
      exact unread entry collected (here ▸ List.mem_cons_self)

theorem readNext_once {w : AnchorWorker} (once : w.Once) : w.readNext.Once := by
  unfold readNext
  split
  · rename_i cycle active
    split
    · rename_i dir rest pending
      refine { once with reads := ?_ }
      intro next same
      cases same
      have reads := (once.reads cycle active).read once pending
      exact { reads with }
    · exact once
  · exact once

theorem saveNext_once [Sha256] {config : AnchoringConfig} {w : AnchorWorker} (once : w.Once)
    (now : DateTime) : (w.saveNext config now).Once := by
  unfold saveNext
  split
  · rename_i cycle active
    obtain ⟨listed, stored, unread, passed, distinct⟩ := once.reads cycle active
    split
    · rename_i ready
      split
      · exact once.idle
      · have cut := List.take_append_drop config.batchSize cycle.allEntries
        have moved : (w.anchors.coverage ++ cycle.allEntries.take config.batchSize) ++
            cycle.allEntries.drop config.batchSize = w.anchors.coverage ++ cycle.allEntries := by
          rw [List.append_assoc, cut]
        have taken : ∀ entry ∈ cycle.allEntries.take config.batchSize, entry ∈ w.logs :=
          fun entry member => stored entry (List.mem_of_mem_take member)
        rw [← moved] at distinct
        refine { growing := once.growing, stored := ?_, below := ?_, distinct := ?_, reads := ?_ }
        · intro entry covered
          rw [AnchorDb.coverage_saveAnchor] at covered
          exact (List.mem_append.mp covered).elim (once.stored entry) (taken entry)
        · intro saved member entry present
          rcases List.mem_append.mp member with before | here
          · exact once.below saved before entry present
          · obtain rfl := List.mem_singleton.mp here
            exact (chunkAnchor_window now present).2
        · rw [AnchorDb.coverage_saveAnchor]
          rw [List.map_append] at distinct
          exact distinct.of_append_left
        · intro next same
          cases same
          constructor
          · exact listed
          · exact fun entry member => stored entry (List.mem_of_mem_drop member)
          · exact fun entry member => unread entry (List.mem_of_mem_drop member)
          · intro entry _ _
            rw [ready.1]
            exact List.not_mem_nil
          · rw [AnchorDb.coverage_saveAnchor]
            exact distinct
    · exact once
  · exact once

theorem below_content {db db' : AnchorDb}
    (same : db'.map SavedAnchor.content = db.map SavedAnchor.content)
    (below : ∀ saved ∈ db, ∀ entry ∈ saved.covers, entry.2.timestamp ≤ saved.anchor.lastEntryAt) :
    ∀ saved ∈ db', ∀ entry ∈ saved.covers, entry.2.timestamp ≤ saved.anchor.lastEntryAt := by
  intro saved member entry present
  have listed := List.mem_map_of_mem (f := SavedAnchor.content) member
  rw [same] at listed
  obtain ⟨original, stored, equal⟩ := List.mem_map.mp listed
  have covers : original.content.covers = saved.content.covers := by rw [equal]
  have last : original.content.anchor.lastEntryAt =
      saved.content.anchor.lastEntryAt := by rw [equal]
  exact last ▸ below original stored entry (covers ▸ present)

theorem coverage_finishCycle (w : AnchorWorker) (submissions : List (Option String)) :
    (w.finishCycle submissions).anchors.coverage = w.anchors.coverage := by
  rw [← AnchorDb.coverage_content, content_finishCycle, AnchorDb.coverage_content]

theorem finishCycle_once {w : AnchorWorker} (once : w.Once) (submissions : List (Option String)) :
    (w.finishCycle submissions).Once := by
  have logs : (w.finishCycle submissions).logs = w.logs := by
    unfold finishCycle
    split
    · split
      · split
        · rfl
        · exact logs_submitPending w submissions
      · rfl
    · rfl
  have anchors := coverage_finishCycle w submissions
  constructor
  · rw [logs]
    exact once.growing
  · rw [logs, anchors]
    exact once.stored
  · exact below_content (content_finishCycle w submissions) once.below
  · rw [anchors]
    exact once.distinct
  · intro next active
    unfold finishCycle at active ⊢
    split at active
    · split at active
      · split at active <;> cases active
      · rename_i waiting
        simp only [waiting, if_false]
        exact once.reads next active
    · exact once.reads next active

section Runs
variable [Ed25519] [Sha256]

theorem record_once {w : AnchorWorker} (once : w.Once) (dir : String) (call : RecordCall) :
    (w.record dir call).Once := by
  have grows : ∀ entry ∈ w.logs, entry ∈ (w.record dir call).logs :=
    fun entry present => List.mem_append_left _ present
  exact { growing := once.growing.append rfl
          stored := fun entry covered => grows entry (once.stored entry covered)
          below := once.below
          distinct := once.distinct
          reads := fun cycle active =>
            { once.reads cycle active with
              stored := fun entry member => grows entry ((once.reads cycle active).stored entry member) } }

theorem step_once (config : AnchoringConfig) {w : AnchorWorker} (once : w.Once) {s : AnchorStep}
    (lists : s.ListsOnce) : (w.step config s).Once := by
  cases s with
  | record dir call => exact record_once once dir call
  | begin listing => exact beginCycle_once once lists
  | read => exact readNext_once once
  | save now => exact saveNext_once once now
  | finish submissions => exact finishCycle_once once submissions
  | fail => exact once.idle

theorem run_once (config : AnchoringConfig) {steps : List AnchorStep}
    (lists : ∀ s ∈ steps, s.ListsOnce) : (run config steps).Once := by
  induction steps using List.reverseRecOn with
  | nil =>
    exact { growing := .nil
            stored := fun _ impossible => (List.not_mem_nil impossible).elim
            below := fun _ impossible => (List.not_mem_nil impossible).elim
            distinct := List.nodup_nil
            reads := fun _ impossible => nomatch impossible }
  | append_singleton steps s ih =>
    rw [run, List.foldl_append]
    have before := ih fun s member => lists s (List.mem_append_left _ member)
    exact step_once config before (lists s (List.mem_append_right _ List.mem_cons_self))

/-! ### The batches of a cycle -/

/-- `all_entries` of the latest cycle before any of it was saved, after one more step. -/
def collect (w : AnchorWorker) (collected : AgentLogs) : AnchorStep → AgentLogs
  | .begin _ => match w.cycle with
    | some _ => collected
    | none => []
  | .read => match w.cycle with
    | some cycle => match cycle.toRead with
      | dir :: _ => collected ++ w.readRows dir cycle.lastTimestamp
      | [] => collected
    | none => collected
  | .record .. | .save _ | .finish _ | .fail => collected

def observe (config : AnchoringConfig) (steps : List AnchorStep) : AnchorWorker × AgentLogs :=
  steps.foldl (fun (w, collected) s => (w.step config s, w.collect collected s)) ({}, [])

def collected (config : AnchoringConfig) (steps : List AnchorStep) : AgentLogs :=
  (observe config steps).2

theorem observe_snoc (config : AnchoringConfig) (steps : List AnchorStep) (s : AnchorStep) :
    observe config (steps ++ [s]) = ((observe config steps).1.step config s,
      (observe config steps).1.collect (observe config steps).2 s) := by
  simp [observe]

theorem observe_run (config : AnchoringConfig) (steps : List AnchorStep) :
    (observe config steps).1 = run config steps := by
  induction steps using List.reverseRecOn with
  | nil => rfl
  | append_singleton steps s ih => rw [observe_snoc, run, List.foldl_append, ih]; rfl

/-- The anchors a cycle has saved so far, and what is left of what it collected. -/
structure Cuts (config : AnchoringConfig) (w : AnchorWorker) (collected : AgentLogs)
    (cycle : AnchorCycle) (saved : AnchorDb) : Prop where
  anchors : w.anchors = cycle.startAnchors ++ saved
  split : saved.coverage ++ cycle.allEntries = collected
  summarized : ∀ batch ∈ saved, Summarizes config batch
  reading : cycle.toRead ≠ [] → saved = []

def Batched (config : AnchoringConfig) (w : AnchorWorker) (collected : AgentLogs) : Prop :=
  ∀ cycle, w.cycle = some cycle → ∃ saved, Cuts config w collected cycle saved

omit [Ed25519] in
theorem beginCycle_batched {config : AnchoringConfig} {w : AnchorWorker} {collected : AgentLogs}
    (batched : Batched config w collected) (listing : List String) :
    Batched config (w.beginCycle config listing) (w.collect collected (.begin listing)) := by
  cases active : w.cycle with
  | some cycle =>
    simp only [beginCycle, collect, active]
    exact batched
  | none =>
    simp only [beginCycle, collect, active]
    by_cases ready : config.enabled ∧ ∀ entry ∈ w.logs, entry.1 ∈ listing
    · rw [if_pos ready]
      intro cycle begun
      cases begun
      exact ⟨[],
        { anchors := (List.append_nil _).symm
          split := rfl
          summarized := fun _ impossible => (List.not_mem_nil impossible).elim
          reading := fun _ => rfl }⟩
    · rw [if_neg ready]
      intro cycle impossible
      rw [active] at impossible
      cases impossible

omit [Ed25519] in
theorem readNext_batched {config : AnchoringConfig} {w : AnchorWorker} {collected : AgentLogs}
    (batched : Batched config w collected) :
    Batched config w.readNext (w.collect collected .read) := by
  cases active : w.cycle with
  | none =>
    simp only [readNext, collect, active]
    exact batched
  | some cycle =>
    cases pending : cycle.toRead with
    | nil =>
      simp only [readNext, collect, active, pending]
      exact batched
    | cons dir rest =>
      obtain ⟨saved, anchors, split, summarized, reading⟩ := batched cycle active
      obtain rfl := reading (by rw [pending]; exact List.cons_ne_nil dir rest)
      simp only [readNext, collect, active, pending]
      intro next same
      cases same
      refine ⟨[], anchors, ?_, summarized, fun _ => rfl⟩
      simp only [← split, List.append_assoc]
      rfl

omit [Ed25519] in
theorem saveNext_batched {config : AnchoringConfig} {w : AnchorWorker} {collected : AgentLogs}
    (batched : Batched config w collected) (now : DateTime) :
    Batched config (w.saveNext config now) collected := by
  unfold saveNext
  split
  · rename_i cycle active
    obtain ⟨saved, anchors, split, summarized, reading⟩ := batched cycle active
    split
    · rename_i ready
      split
      · intro next impossible
        cases impossible
      · rename_i positive
        intro next same
        cases same
        let chunk := cycle.allEntries.take config.batchSize
        have nonempty : chunk ≠ [] := by
          intro empty
          rcases List.take_eq_nil_iff.mp empty with zero | none
          · exact positive zero
          · exact ready.2 none
        obtain ⟨id, appended⟩ := w.anchors.saveAnchor_appends (chunkAnchor chunk now) chunk
        let batch : SavedAnchor :=
          { anchor := { chunkAnchor chunk now with id := id }, covers := chunk }
        refine ⟨saved ++ [batch], ?_, ?_, ?_, ?_⟩
        · rw [← List.append_assoc, ← anchors]
          exact appended
        · unfold AnchorDb.coverage at split ⊢
          rw [List.flatMap_append, List.flatMap_singleton, List.append_assoc,
            List.take_append_drop, split]
        · intro batch member
          rcases List.mem_append.mp member with before | here
          · exact summarized batch before
          · obtain rfl := List.mem_singleton.mp here
            exact chunkAnchor_summarizes nonempty (List.length_take_le _ _) now id
        · intro waiting
          exact absurd ready.1 waiting
    · exact batched
  · exact batched

theorem step_batched (config : AnchoringConfig) {w : AnchorWorker} {collected : AgentLogs}
    (batched : Batched config w collected) (s : AnchorStep) :
    Batched config (w.step config s) (w.collect collected s) := by
  cases s with
  | record dir call =>
    intro cycle active
    obtain ⟨saved, anchors, split, summarized, reading⟩ := batched cycle active
    exact ⟨saved, anchors, split, summarized, reading⟩
  | begin listing => exact beginCycle_batched batched listing
  | read => exact readNext_batched batched
  | save now => exact saveNext_batched batched now
  | finish submissions =>
    show Batched config (w.finishCycle submissions) collected
    unfold finishCycle
    split
    · split
      · split <;> (intro next impossible; cases impossible)
      · exact batched
    · exact batched
  | fail => intro cycle impossible; cases impossible

theorem run_batched (config : AnchoringConfig) (steps : List AnchorStep) :
    Batched config (run config steps) (collected config steps) := by
  rw [← observe_run]
  unfold collected
  induction steps using List.reverseRecOn with
  | nil => intro cycle impossible; cases impossible
  | append_singleton steps s ih =>
    rw [observe_snoc]
    exact step_batched config ih s

omit [Ed25519] in
theorem sum_entryCount {config : AnchoringConfig} {saved : AnchorDb}
    (summarized : ∀ batch ∈ saved, Summarizes config batch) :
    (saved.map fun batch => batch.anchor.entryCount).sum = saved.coverage.length := by
  unfold AnchorDb.coverage
  rw [List.length_flatMap]
  exact congrArg List.sum (List.map_congr_left fun batch member => (summarized batch member).count)

/-- No row is covered twice, and the anchors of a cycle that returns cut what it collected into
consecutive batches. -/
theorem anchorCycle_partitions (config : AnchoringConfig) (steps : List AnchorStep)
    (lists : ∀ s ∈ steps, s.ListsOnce) :
    ((run config steps).anchors.coverage.map entryKey).Nodup ∧
      ∀ (cycle : AnchorCycle) (submissions : List (Option String)),
        (run config steps).Returns cycle →
        let anchors := ((run config steps).step config (.finish submissions)).anchors
        let before := anchors.take cycle.startAnchors.length
        let saved := anchors.drop cycle.startAnchors.length
        before.map SavedAnchor.content = cycle.startAnchors.map SavedAnchor.content ∧
          AnchorDb.coverage saved = collected config steps ∧
          (saved.map fun batch => batch.anchor.entryCount).sum = (collected config steps).length ∧
          ∀ batch ∈ saved, Summarizes config batch := by
  refine ⟨(run_once config lists).distinct, ?_⟩
  intro cycle submissions returns anchors before saved
  obtain ⟨active, _, allSaved⟩ := returns
  obtain ⟨batches, appended, split, summarized, _⟩ := run_batched config steps cycle active
  rw [allSaved, List.append_nil] at split
  have content : anchors.map SavedAnchor.content =
      (cycle.startAnchors ++ batches).map SavedAnchor.content := by
    rw [← appended]
    exact content_finishCycle _ submissions
  have kept : before.map SavedAnchor.content = cycle.startAnchors.map SavedAnchor.content := by
    rw [List.map_take, content, List.map_append]
    exact List.take_left' (List.length_map _)
  have cut : saved.map SavedAnchor.content = batches.map SavedAnchor.content := by
    rw [List.map_drop, content, List.map_append]
    exact List.drop_left' (List.length_map _)
  have covers : AnchorDb.coverage saved = collected config steps := by
    rw [← AnchorDb.coverage_content, cut, AnchorDb.coverage_content, split]
  have each : ∀ batch ∈ saved, Summarizes config batch := by
    intro batch member
    have listed := List.mem_map_of_mem (f := SavedAnchor.content) member
    rw [cut] at listed
    obtain ⟨original, present, same⟩ := List.mem_map.mp listed
    have summary := summarizes_content.mpr (summarized original present)
    rw [same] at summary
    exact summarizes_content.mp summary
  exact ⟨kept, covers, by rw [sum_entryCount each, covers], each⟩

end Runs

section
open scoped StandIn

/-- Two agents' rows of the same second, in batches of one. -/
def oneByOne : List AnchorStep :=
  [.record "a" (StandIn.call "issue" 100), .record "b" (StandIn.call "issue" 100), .begin ["a", "b"],
    .read, .read, .save 0, .save 0]

theorem anchorCycle_partitions_oneByOne :
    let config : AnchoringConfig := { enabled := true, batchSize := 1 }
    let anchors := ((run config oneByOne).step config (.finish [])).anchors
    (anchors.coverage.map Prod.fst = ["a", "b"]) ∧
      (anchors.map fun batch => batch.anchor.entryCount).sum = 2 := by
  intro config anchors
  let w := run config oneByOne
  let cycle : AnchorCycle :=
    { lastTimestamp := 0, toRead := [], allEntries := [], batches := 2, startLogs := w.logs,
      startAnchors := [] }
  have returns : w.Returns cycle := ⟨rfl, rfl, rfl⟩
  have lists : ∀ s ∈ oneByOne, s.ListsOnce := by
    simp [oneByOne, AnchorStep.ListsOnce]
  obtain ⟨-, covers, total, -⟩ := (anchorCycle_partitions config oneByOne lists).2 cycle [] returns
  have both : (collected config oneByOne).map Prod.fst = ["a", "b"] := rfl
  refine ⟨covers ▸ both, ?_⟩
  have size : (collected config oneByOne).length = 2 := rfl
  exact total.trans size

end
end AnchorWorker

end GrokingClawId.Daemon
