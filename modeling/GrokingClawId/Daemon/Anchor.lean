import GrokingClawId.Core.Audit
import Mathlib.Data.List.Destutter

/-!
# Breadcrumb anchoring

`anchor.rs`: the Merkle root of a batch of entry hashes, the `anchors` table, and the anchoring
cycle as it interleaves with writers of the agents' audit databases. How far anchoring has come
is kept as one number for all agents, the largest timestamp in any saved anchor.
-/

namespace GrokingClawId.Daemon
open GrokingClawId.Core

inductive AnchorStatus where
  | pending | submitted | confirmed | failed
  deriving DecidableEq

structure BreadcrumbAnchor where
  id : Nat
  merkleRoot : String
  entryCount : Nat
  agentIds : List String
  firstEntryAt : Int
  lastEntryAt : Int
  computedAt : DateTime
  iotaTxDigest : Option String
  status : AnchorStatus

/-! ### Merkle tree -/

section Merkle
variable [Sha256]

/-- One level up; without a sibling the last hash is its own. -/
def nextLevel : List String → List String
  | [] => []
  | [last] => [sha256Hex (last ++ last).toUTF8]
  | a :: b :: rest => sha256Hex (a ++ b).toUTF8 :: nextLevel rest

theorem length_nextLevel (level : List String) :
    (nextLevel level).length = (level.length + 1) / 2 := by
  fun_induction nextLevel level with
  | case1 => rfl
  | case2 => simp
  | case3 a b rest ih => simp only [List.length_cons, ih]; omega

def computeMerkleRoot : List String → String
  | [] => sha256Hex "empty".toUTF8
  | [hash] => hash
  | a :: b :: rest => computeMerkleRoot (nextLevel (a :: b :: rest))
termination_by hashes => hashes.length
decreasing_by simp only [length_nextLevel, List.length_cons]; omega

end Merkle

/-! ### Audit databases -/

/-- The rows of all agents' audit databases in the order they were inserted, each with the
directory of its database. -/
abbrev AgentLogs := List (String × AuditRow)

def AgentLogs.db (logs : AgentLogs) (dir : String) : AuditDb :=
  (logs.filter fun entry => entry.1 = dir).map Prod.snd

/-- The rows after a timestamp; the hash, agent id and timestamp of each are used. -/
def readAuditHashes (db : AuditDb) (sinceTimestamp : Int) : List AuditRow :=
  db.filter fun row => sinceTimestamp < row.timestamp

/-! ### State database -/

/-- A row of `anchors`. The table keeps only a root; `covers` says which rows it was computed
over. -/
structure SavedAnchor where
  anchor : BreadcrumbAnchor
  covers : AgentLogs

abbrev AnchorDb := List SavedAnchor

namespace AnchorDb

def saveAnchor (db : AnchorDb) (anchor : BreadcrumbAnchor) (covers : AgentLogs) : AnchorDb :=
  let id := (db.getLast?.map (·.anchor.id)).getD 0 + 1
  db ++ [{ anchor := { anchor with id := id }, covers := covers }]

/-- `MAX(last_entry_at)`, which is `NULL` and read as 0 when there is no anchor. -/
def getLastAnchoredTimestamp (db : AnchorDb) : Int := (db.map (·.anchor.lastEntryAt)).max?.getD 0

def getPendingAnchors (db : AnchorDb) : List BreadcrumbAnchor :=
  ((db.map SavedAnchor.anchor).filter fun anchor =>
    anchor.status = .pending ∨ anchor.status = .failed).take 10

def updateAnchorStatus (db : AnchorDb) (id : Nat) (status : AnchorStatus)
    (txDigest : Option String) : AnchorDb :=
  db.map fun saved =>
    if saved.anchor.id =
      id then { saved with anchor := { saved.anchor with status := status, iotaTxDigest := txDigest } }
    else saved

def Covered (db : AnchorDb) (entry : String × AuditRow) : Prop := ∃ saved ∈ db, entry ∈ saved.covers

end AnchorDb

/-! ### Anchor worker -/

structure AnchoringConfig where
  enabled : Bool
  intervalMinutes : Nat := 5
  batchSize : Nat

structure AnchorState where
  lastAnchorAt : Option DateTime := none
  pendingCount : UInt32 := 0
  totalAnchored : Nat := 0

/-- A cycle under way: its local variables, how many batches it saved, and the logs and anchors
it started from. -/
structure AnchorCycle where
  lastTimestamp : Int
  toRead : List String
  allEntries : AgentLogs
  batches : Nat
  startLogs : AgentLogs
  startAnchors : AnchorDb

structure AnchorWorker where
  logs : AgentLogs := []
  anchors : AnchorDb := []
  state : AnchorState := {}
  cycle : Option AnchorCycle := none

/-- What writers and the cycle do one after another. `finish` carries the outcome of each attempted
submission; `fail` is an error that leaves `anchor_cycle` at any point. -/
inductive AnchorStep where
  | record (dir : String) (call : RecordCall)
  | begin (listing : List String)
  | read
  | save (now : DateTime)
  | finish (submissions : List (Option String))
  | fail

namespace AnchorWorker
variable [Ed25519] [Sha256]

def record (w : AnchorWorker) (dir : String) (call : RecordCall) : AnchorWorker :=
  let db := w.logs.db dir
  { w with logs := w.logs ++ [(dir, call.row db.getLastHash db.nextId)] }

/-- The watermark is read and the agents' directory listed. The listing has every directory with an
entry. -/
def beginCycle (config : AnchoringConfig) (w : AnchorWorker) (listing : List String) :
    AnchorWorker :=
  match w.cycle with
  | some _ => w
  | none =>
    if config.enabled ∧ ∀ entry ∈ w.logs, entry.1 ∈ listing then
      let lastTimestamp := w.anchors.getLastAnchoredTimestamp
      { w with cycle := some { lastTimestamp := lastTimestamp, toRead := listing,
                               allEntries := [], batches := 0,
                               startLogs := w.logs, startAnchors := w.anchors } }
    else w

def readNext (w : AnchorWorker) : AnchorWorker :=
  match w.cycle with
  | some cycle =>
    match cycle.toRead with
    | dir :: rest =>
      let entries := readAuditHashes (w.logs.db dir) cycle.lastTimestamp
      let allEntries := cycle.allEntries ++ entries.map fun row => (dir, row)
      { w with cycle := some { cycle with toRead := rest, allEntries := allEntries } }
    | [] => w
  | none => w

def chunkAnchor (chunk : AgentLogs) (now : DateTime) : BreadcrumbAnchor :=
  let hashes := chunk.map fun entry => entry.2.entryHash
  let chunkAgentIds :=
    ((chunk.map fun entry => entry.2.agentId).mergeSort fun a b => decide (a ≤ b)).destutter (· ≠ ·)
  let timestamps := chunk.map fun entry => entry.2.timestamp
  { id := 0
    merkleRoot := computeMerkleRoot hashes
    entryCount := chunk.length
    agentIds := chunkAgentIds
    firstEntryAt := timestamps.min?.getD 0
    lastEntryAt := timestamps.max?.getD 0
    computedAt := now
    iotaTxDigest := none
    status := .pending }

/-- The next batch is saved, once all directories are read. A batch size of 0 panics. -/
def saveNext (config : AnchoringConfig) (w : AnchorWorker) (now : DateTime) : AnchorWorker :=
  match w.cycle with
  | some cycle =>
    if cycle.toRead = [] ∧ cycle.allEntries ≠ [] then
      if config.batchSize = 0 then { w with cycle := none }
      else
        let chunk := cycle.allEntries.take config.batchSize
        let anchor := chunkAnchor chunk now
        { w with
          anchors := w.anchors.saveAnchor anchor chunk
          state := { lastAnchorAt := some now, pendingCount := w.state.pendingCount + 1,
                     totalAnchored := w.state.totalAnchored + chunk.length }
          cycle := some { cycle with allEntries := cycle.allEntries.drop config.batchSize,
                                     batches := cycle.batches + 1 } }
    else w
  | none => w

/-- Submissions are attempted in order; `none` is a failed one. -/
def submitPending (w : AnchorWorker) (submissions : List (Option String)) : AnchorWorker :=
  (w.anchors.getPendingAnchors.zip submissions).foldl (fun w attempt =>
    match attempt with
    | (anchor, some txDigest) =>
      { w with anchors := w.anchors.updateAnchorStatus anchor.id .submitted (some txDigest)
               state := { w.state with
                          pendingCount := if w.state.pendingCount > 0 then w.state.pendingCount - 1
                                          else w.state.pendingCount } }
    | (anchor, none) => { w with anchors := w.anchors.updateAnchorStatus anchor.id .failed none }) w

def Returns (w : AnchorWorker) (cycle : AnchorCycle) : Prop :=
  w.cycle = some cycle ∧ cycle.toRead = [] ∧ cycle.allEntries = []

def finishCycle (w : AnchorWorker) (submissions : List (Option String)) : AnchorWorker :=
  match w.cycle with
  | some cycle =>
    if cycle.toRead = [] ∧ cycle.allEntries = [] then
      if cycle.batches = 0 then { w with cycle := none }
        else { w.submitPending submissions with cycle := none }
    else w
  | none => w

def step (config : AnchoringConfig) (w : AnchorWorker) : AnchorStep → AnchorWorker
  | .record dir call => w.record dir call
  | .begin listing => w.beginCycle config listing
  | .read => w.readNext
  | .save now => w.saveNext config now
  | .finish submissions => w.finishCycle submissions
  | .fail => { w with cycle := none }

def run (config : AnchoringConfig) (steps : List AnchorStep) : AnchorWorker :=
  steps.foldl (step config) {}

def status [Chrono] (config : AnchoringConfig) (w : AnchorWorker) : Json :=
  .obj [("enabled", .bool config.enabled),
    ("interval_minutes", .num (toString config.intervalMinutes)),
    ("batch_size", .num (toString config.batchSize)),
    ("last_anchor_at", Json.ofOption (fun time => .str (Chrono.toRfc3339 time)) w.state.lastAnchorAt),
    ("pending_count", .num (toString w.state.pendingCount.toNat)),
    ("total_anchored", .num (toString w.state.totalAnchored))]

end AnchorWorker

end GrokingClawId.Daemon
