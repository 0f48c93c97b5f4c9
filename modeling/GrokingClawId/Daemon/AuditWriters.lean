import GrokingClawId.Daemon.Chain

/-!
# Concurrent writers of one audit log

`record_entry` reads the last hash and inserts the new row in two statements without a
transaction. Connections that share a database, such as parallel commands or two proxies of one
agent, interleave these statements in any order; an insert may also fail on a locked database.
-/

namespace GrokingClawId.Daemon
open GrokingClawId.Core

section Writers
variable [Ed25519] [Sha256]

/-- The table, the calls that have read the last hash with what they read, and the entries returned
so far. -/
structure Writers where
  db : AuditDb
  pending : List (RecordCall × String)
  returned : List AuditEntry

inductive WriterStep where
  | readLast (call : RecordCall)
  | insert (i : Nat)
  | fail (i : Nat)

namespace Writers

def initial : Writers := ⟨[], [], []⟩

def step (w : Writers) : WriterStep → Writers
  | .readLast call => { w with pending := w.pending ++ [(call, w.db.getLastHash)] }
  | .insert i =>
    match w.pending[i]? with
    | some (call, prevHash) =>
      let (db, entry) := call.insert prevHash w.db
      { db := db, pending := w.pending.eraseIdx i, returned := w.returned ++ [entry] }
    | none => w
  | .fail i => { w with pending := w.pending.eraseIdx i }

def run (schedule : List WriterStep) : Writers := schedule.foldl step initial

/-- Every insert of the schedule finds the last hash its call has read. -/
def Undisturbed (schedule : List WriterStep) : Prop :=
  ∀ done i rest, schedule = done ++ .insert i :: rest →
    ∀ call prevHash, (run done).pending[i]? = some (call, prevHash) → prevHash = (run done).db.getLastHash

@[simp] theorem run_nil : run [] = initial := rfl

theorem run_snoc (schedule : List WriterStep) (last : WriterStep) :
    run (schedule ++ [last]) = (run schedule).step last := by
  simp [run]

theorem undisturbed_nil : Undisturbed [] := by
  intro done i rest split
  simp at split

theorem undisturbed_snoc (schedule : List WriterStep) (last : WriterStep) :
    Undisturbed (schedule ++ [last]) ↔ Undisturbed schedule ∧
      ∀ i, last = .insert i → ∀ call prevHash, (run schedule).pending[i]? = some (call, prevHash) →
        prevHash = (run schedule).db.getLastHash := by
  constructor
  · intro undisturbed
    refine ⟨fun done i rest split => undisturbed done i (rest ++ [last]) (by simp [split]), ?_⟩
    rintro i rfl
    exact undisturbed schedule i [] rfl
  · rintro ⟨before, now⟩ done i rest split
    rcases List.eq_nil_or_concat rest with rfl | ⟨rest', final, rfl⟩
    · obtain ⟨rfl, equal⟩ := List.append_inj' split rfl
      exact now i (List.singleton_inj.mp equal)
    · have shifted : schedule ++ [last] = (done ++ .insert i :: rest') ++ [final] := by
        simpa using split
      exact before done i rest' (List.append_inj' shifted rfl).1

/-! ### One step -/

theorem step_insert {w : Writers} {i : Nat} {call : RecordCall} {prevHash : String}
    (waiting : w.pending[i]? = some (call, prevHash)) :
    w.step (.insert i) = { db := (call.insert prevHash w.db).1, pending := w.pending.eraseIdx i,
                           returned := w.returned ++ [(call.insert prevHash w.db).2] } := by
  simp [step, waiting]

theorem step_entries (w : Writers) (s : WriterStep) :
    (∃ i call prevHash, s = .insert i ∧ w.pending[i]? = some (call, prevHash) ∧
      (w.step s).db.entries = w.db.entries ++ [(call.insert prevHash w.db).2] ∧
      (w.step s).returned = w.returned ++ [(call.insert prevHash w.db).2]) ∨
    ((∀ i, s = .insert i → w.pending[i]? = none) ∧ (w.step s).db = w.db ∧
      (w.step s).returned = w.returned) := by
  cases s with
  | readLast call => exact .inr ⟨fun i impossible => (by cases impossible), rfl, rfl⟩
  | fail i => exact .inr ⟨fun i impossible => (by cases impossible), rfl, rfl⟩
  | insert i =>
    cases waiting : w.pending[i]? with
    | some found =>
      obtain ⟨call, prevHash⟩ := found
      rw [step_insert waiting]
      exact .inl ⟨i, call, prevHash, rfl, waiting, RecordCall.entries_insert call prevHash w.db, rfl⟩
    | none =>
      refine .inr ⟨?_, by simp [step, waiting], by simp [step, waiting]⟩
      rintro j same
      cases same
      exact waiting

/-! ### Runs -/

theorem run_entries (schedule : List WriterStep) :
    (run schedule).db.entries = (run schedule).returned := by
  induction schedule using List.reverseRecOn with
  | nil => rfl
  | append_singleton schedule last ih =>
    rw [run_snoc]
    rcases step_entries (run schedule) last with
      ⟨i, call, prevHash, _, _, written, given⟩ | ⟨_, kept, same⟩
    · rw [written, given, ih]
    · rw [kept, same, ih]

/-- An insert extends an accepted log exactly when it is undisturbed. -/
theorem verifyChain_insert (call : RecordCall) (prevHash : String) (db : AuditDb) :
    verifyChain (db.entries ++ [(call.insert prevHash db).2]) = true ↔
      verifyChain db.entries = true ∧ prevHash = db.getLastHash := by
  rw [verifyChain_iff, verifyChain_iff, HashChain.accepts_snoc (insert_sealed call prevHash db),
    lastHash_entries]
  rfl

/-- The log is accepted exactly when every insert still found the last hash its call had read. -/
theorem run_accepted_iff (schedule : List WriterStep) :
    verifyChain (run schedule).db.entries = true ↔ Undisturbed schedule := by
  induction schedule using List.reverseRecOn with
  | nil => exact iff_of_true rfl undisturbed_nil
  | append_singleton schedule last ih =>
    rw [run_snoc, undisturbed_snoc]
    rcases step_entries (run schedule) last with
      ⟨i, call, prevHash, rfl, waiting, written, _⟩ | ⟨idle, kept, _⟩
    · rw [written, verifyChain_insert, ih]
      refine and_congr_right fun _ => ⟨?_, fun now => now i rfl call prevHash waiting⟩
      rintro current j same call' prevHash' waiting'
      cases same
      rw [waiting] at waiting'
      cases waiting'
      exact current
    · rw [kept, ih]
      refine ⟨fun before => ⟨before, fun i same call prevHash waiting => ?_⟩, And.left⟩
      rw [idle i same] at waiting
      cases waiting

/-! ### Calls one after another -/

/-- The schedule in which every call inserts right after it has read. -/
def serial (calls : List RecordCall) : List WriterStep :=
  calls.flatMap fun call => [.readLast call, .insert 0]

theorem run_serial (calls : List RecordCall) :
    (run (serial calls)).db = recordAll calls ∧ (run (serial calls)).pending = [] := by
  induction calls using List.reverseRecOn with
  | nil => exact ⟨rfl, rfl⟩
  | append_singleton calls call ih =>
    obtain ⟨db, pending⟩ := ih
    have steps : serial (calls ++ [call]) = serial calls ++ [.readLast call] ++ [.insert 0] := by
      simp [serial]
    rw [steps, run_snoc, run_snoc, recordAll_snoc]
    simp [step, db, pending, recordEntry]

theorem undisturbed_serial (calls : List RecordCall) : Undisturbed (serial calls) := by
  have accepted := verifyChain_iff.mpr (recordAll_recorded calls).toAccepts
  rw [← (run_serial calls).1] at accepted
  exact (run_accepted_iff (serial calls)).mp accepted

/-! ### All schedules -/

/-- Whatever the schedule, no returned entry is lost, and the log is accepted exactly when every
insert still found the last hash its call had read, as it did when the calls came one after another. -/
theorem verifyChain_run (schedule : List WriterStep) (now : Int) :
    (∀ e ∈ (run schedule).returned, e ∈ queryEntries (run schedule).db none none now) ∧
      (verifyChain (queryEntries (run schedule).db none none now) = true ↔
        Undisturbed schedule) ∧
      ∀ calls, schedule = serial calls → (run schedule).db = recordAll calls ∧ Undisturbed schedule := by
  have whole : queryEntries (run schedule).db none none now = (run schedule).db.entries := by
    rw [AuditDb.entries, queryEntries_all, queryEntries_all]
  rw [whole]
  refine ⟨fun e member => (run_entries schedule) ▸ member, run_accepted_iff schedule, ?_⟩
  rintro calls rfl
  exact ⟨(run_serial calls).1, undisturbed_serial calls⟩

end Writers
end Writers

section
open scoped StandIn

/-- Two calls read the same last hash before either inserts, and the second insert forks the log. -/
theorem verifyChain_forked :
    ¬ ∀ (schedule : List WriterStep) (now : Int),
      verifyChain (queryEntries (Writers.run schedule).db none none now) = true ∧
        ∀ e ∈ (Writers.run schedule).returned,
          e ∈ queryEntries (Writers.run schedule).db none none now := by
  intro accepted
  have claimed := (accepted [.readLast (StandIn.call "issue" 1), .readLast (StandIn.call "rotate" 2),
    .insert 0, .insert 0] 3).1
  have forked : verifyChain (queryEntries (Writers.run [.readLast (StandIn.call "issue" 1),
    .readLast (StandIn.call "rotate" 2), .insert 0, .insert 0]).db none none 3) = false := rfl
  exact Bool.noConfusion (claimed.symm.trans forked)

end
end GrokingClawId.Daemon
