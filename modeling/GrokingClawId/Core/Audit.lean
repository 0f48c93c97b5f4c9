import GrokingClawId.Core.Models

/-!
# Audit log

`audit.rs`: the `audit_log` table, the hash a new entry points to, recording an entry and
querying the log. The clock is read once per call and passed in.
-/

namespace GrokingClawId.Core

structure AuditRow where
  id : Nat
  agentId : String
  action : String
  target : String
  timestamp : Int
  prevHash : String
  entryHash : String
  signature : String
  deriving DecidableEq

/-- The table in the order of its ids. -/
abbrev AuditDb := List AuditRow

namespace AuditDb

/-- `AUTOINCREMENT` on a table from which nothing was deleted. -/
def nextId (db : AuditDb) : Nat := (db.getLast?.map AuditRow.id).getD 0 + 1

/-- `ORDER BY id DESC LIMIT 1`. -/
def getLastHash (db : AuditDb) : String :=
  match db.getLast? with
  | some row => row.entryHash
  | none => "genesis"

end AuditDb

/-- A result row; an agent id that is no UUID is read as the nil UUID. -/
def AuditRow.toEntry (row : AuditRow) : AuditEntry where
  id := row.id
  agentId := (Uuid.parseStr row.agentId).getD Uuid.nil
  action := row.action
  target := row.target
  timestamp := row.timestamp
  prevHash := row.prevHash
  entryHash := row.entryHash
  signature := row.signature

/-- `query_entries`, with the time window in seconds. -/
def queryEntries (db : AuditDb) (agentId : Option String) (lastDuration : Option Int) (now : Int) :
    List AuditEntry :=
  let matchesAgent (row : AuditRow) := match agentId with
    | some aid => decide (row.agentId = aid)
    | none => true
  let matchesTime (row : AuditRow) := match lastDuration with
    | some dur => decide (now - dur ≤ row.timestamp)
    | none => true
  (db.filter fun row => matchesAgent row && matchesTime row).map AuditRow.toEntry

def AuditDb.entries (db : AuditDb) : List AuditEntry := queryEntries db none none 0

theorem queryEntries_all (db : AuditDb) (now : Int) :
    queryEntries db none none now = db.map AuditRow.toEntry := by
  simp [queryEntries]

@[simp] theorem AuditDb.entries_append (db : AuditDb) (row : AuditRow) :
    AuditDb.entries (db ++ [row]) = db.entries ++ [row.toEntry] := by
  simp [AuditDb.entries, queryEntries_all]

@[simp] theorem AuditDb.entries_nil : AuditDb.entries [] = [] := rfl

/-! ### Recording -/

section Record
variable [Ed25519] [Sha256]

/-- What a caller of `record_entry` passes, with the second its clock shows. -/
structure RecordCall where
  agentId : Uuid
  action : String
  target : String
  signingKey : Bytes 32
  timestamp : Int

namespace RecordCall

def fields (call : RecordCall) (prevHash : String) : ChainFields where
  prevHash := prevHash
  agentId := call.agentId.toText
  action := call.action
  target := call.target
  timestamp := call.timestamp

def row (call : RecordCall) (prevHash : String) (id : Nat) : AuditRow :=
  let agentStr := call.agentId.toText
  let entryHash := computeChainHash prevHash agentStr call.action call.target call.timestamp
  let signature := sign call.signingKey entryHash.toUTF8
  { id := id, agentId := agentStr, action := call.action, target := call.target, timestamp := call.timestamp,
    prevHash := prevHash, entryHash := entryHash, signature := signature }

def insert (call : RecordCall) (prevHash : String) (db : AuditDb) : AuditDb × AuditEntry :=
  let row := call.row prevHash db.nextId
  (db ++ [row],
    { id := row.id, agentId := call.agentId, action := call.action, target := call.target,
      timestamp := row.timestamp, prevHash := prevHash, entryHash := row.entryHash,
      signature := row.signature })

end RecordCall

def recordEntry (db : AuditDb) (call : RecordCall) : AuditDb × AuditEntry :=
  let prevHash := db.getLastHash
  call.insert prevHash db

/-- Calls made one after another on a new database. -/
def recordAll (calls : List RecordCall) : AuditDb :=
  calls.foldl (fun db call => (recordEntry db call).1) []

theorem RecordCall.entries_insert (call : RecordCall) (prevHash : String) (db : AuditDb) :
    (call.insert prevHash db).1.entries = db.entries ++ [(call.insert prevHash db).2] := by
  simp [RecordCall.insert, RecordCall.row, AuditRow.toEntry, Uuid.parseStr_toText]

@[simp] theorem recordAll_nil : recordAll [] = [] := rfl

theorem recordAll_snoc (calls : List RecordCall) (call : RecordCall) :
    recordAll (calls ++ [call]) = (recordEntry (recordAll calls) call).1 := by
  simp [recordAll]

end Record

def StandIn.call (action : String) (timestamp : Int) : RecordCall where
  agentId := Uuid.nil
  action := action
  target := "scout"
  signingKey := StandIn.seed
  timestamp := timestamp

end GrokingClawId.Core
