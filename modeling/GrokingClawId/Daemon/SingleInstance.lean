import GrokingClawId.Lib.Run
import GrokingClawId.Lib.Text

/-!
# One daemon

`cmd_start` of `main.rs` with the PID file of `daemon.rs` and the socket of `ipc.rs`: what a process does to
the two files from its check to its end, one system call after the other, while other processes come and go.
-/

namespace GrokingClawId.Daemon
open Text

/-- Where a process stands, named by the call that it makes next. A launcher has the daemon to spawn, and
the bind of a `deaf` daemon has failed. -/
inductive Stage where
  | checking
  | reading
  | asking (pid : UInt32)
  | clearing
  | spawning
  | truncating
  | writing (inode : Nat)
  | unlinking
  | binding
  | serving
  | deaf
  | removing
  | leaving
  | gone
  deriving DecidableEq

namespace Stage

/-- The PID is written and not yet removed. -/
def up : Stage → Bool
  | unlinking | binding | serving | deaf | removing => true
  | _ => false

/-- Neither a start nor an end is under way. -/
def settled : Stage → Bool
  | checking | spawning | serving | deaf | gone => true
  | _ => false

end Stage

structure Process where
  pid : UInt32
  foreground : Bool
  stage : Stage
  deriving DecidableEq

/-- After a check that found no daemon. -/
def Process.admitted (p : Process) : Stage := if p.foreground then .truncating else .spawning

/-- `pidFile` is an inode with its content, `socket` the process that bound the path, and `others` what
`kill` finds besides these processes. -/
structure Machine where
  pidFile : Option (Nat × List Char)
  inodes : Nat
  socket : Option Nat
  processes : List Process
  others : List UInt32

def pidText (pid : UInt32) : List Char := pid.toNat.repr.toList

def parsePid (text : List Char) : Option UInt32 := (parseUnsigned 4294967295 (trim text)).map UInt32.ofNat

/-- A write at the start of a file that others may have filled. -/
def overlay (new old : List Char) : List Char := new ++ old.drop new.length

inductive ProcessEvent where
  | start (pid : UInt32) (foreground : Bool)
  | move (i : Nat)
  | spawn (i : Nat) (pid : UInt32)
  | stop (i : Nat)
  | die (i : Nat)
  | appear (pid : UInt32)
  | vanish (pid : UInt32)

namespace Machine

/-- `kill(pid as i32, 0)`. For the other numbers, which are those of process groups, an answer is one of
`others`. -/
def alive (m : Machine) (pid : UInt32) : Bool :=
  m.others.contains pid || m.processes.any fun p => p.stage ≠ .gone && p.pid = pid

def put (m : Machine) (i : Nat) (p : Process) (stage : Stage) : Machine :=
  { m with processes := m.processes.set i { p with stage } }

def advance (m : Machine) (i : Nat) (p : Process) : Option Machine :=
  match p.stage with
  | .checking =>
    match m.pidFile with
    | none => some (m.put i p p.admitted)
    | some _ => some (m.put i p .reading)
  | .reading =>
    match m.pidFile.bind fun file => parsePid file.2 with
    | none => some (m.put i p .gone)
    | some pid => some (m.put i p (.asking pid))
  | .asking pid => some (m.put i p (if m.alive pid then .gone else .clearing))
  | .clearing => some { m.put i p p.admitted with pidFile := none }
  | .truncating =>
    match m.pidFile with
    | none =>
      some { m.put i p (.writing m.inodes) with pidFile := some (m.inodes, []), inodes := m.inodes + 1 }
    | some (inode, _) => some { m.put i p (.writing inode) with pidFile := some (inode, []) }
  | .writing inode =>
    let pidFile := m.pidFile.map fun file => if file.1 =
      inode then (inode, overlay (pidText p.pid) file.2) else file
    some { m.put i p .unlinking with pidFile }
  | .unlinking => some { m.put i p .binding with socket := none }
  | .binding =>
    match m.socket with
    | none => some { m.put i p .serving with socket := some i }
    | some _ => some (m.put i p .deaf)
  | .removing => some { m.put i p .leaving with pidFile := none }
  | .leaving => some { m.put i p .gone with socket := none }
  | .spawning | .serving | .deaf | .gone => none

def step (m : Machine) : ProcessEvent → Option Machine
  | .start pid foreground =>
    if m.alive pid then none else some { m with processes := m.processes ++ [⟨pid, foreground, .checking⟩] }
  | .move i => m.processes[i]?.bind (m.advance i)
  | .spawn i pid =>
    m.processes[i]?.bind fun p =>
      if p.stage = .spawning ∧ m.alive pid = false then
        let m := m.put i p .gone
        some { m with processes := m.processes ++ [⟨pid, true, .checking⟩] }
      else none
  | .stop i => m.processes[i]?.bind fun p => if p.stage = .serving then some (m.put i p .removing) else none
  | .die i => m.processes[i]?.bind fun p => if p.stage = .gone then none else some (m.put i p .gone)
  | .appear pid => if m.alive pid then none else some { m with others := pid :: m.others }
  | .vanish pid => some { m with others := m.others.filter (· ≠ pid) }

end Machine

theorem digit_not_whitespace {c : Char} (digit : c.isDigit = true) : isWhitespace c = false := by
  obtain ⟨above, below⟩ := Bool.and_eq_true_iff.mp digit
  have low : 48 ≤ c.toNat := UInt32.le_iff_toNat_le.mp (of_decide_eq_true above)
  have high : c.toNat ≤ 57 := UInt32.le_iff_toNat_le.mp (of_decide_eq_true below)
  simp only [isWhitespace, Bool.or_eq_false_iff, Bool.and_eq_false_iff, decide_eq_false_iff_not,
    beq_eq_false_iff_ne]
  omega

theorem parsePid_pidText (pid : UInt32) : parsePid (pidText pid) = some pid := by
  have small : pid.toNat ≤ 4294967295 := Nat.le_of_lt_succ pid.toNat_lt
  have solid : ∀ c ∈ pidText pid, isWhitespace c = false :=
    fun c member => digit_not_whitespace (digits_repr _ c member)
  rw [parsePid, trim, trimMatches_eq_self (trimmed_of_forall solid), pidText, parseUnsigned_repr small,
    Option.map_some,
    UInt32.ofNat_toNat]

namespace Machine

/-! ### Starts and ends one at a time -/

/-- No process but this one holds the PID file. -/
def Sole (m : Machine) (i : Nat) : Prop :=
  ∀ (j : Nat) (q : Process), m.processes[j]? = some q → q.stage.up = true → j = i

def Vacant (m : Machine) : Prop := ∀ (j : Nat) (q : Process), m.processes[j]? = some q → q.stage.up = false

def Names (m : Machine) (p : Process) : Prop := ∃ inode, m.pidFile = some (inode, pidText p.pid)

/-- What holds of the files and of the other processes while the process stands where it does. -/
def Fits (m : Machine) (i : Nat) (p : Process) : Prop :=
  match p.stage with
  | .asking pid => ∀ (j : Nat) (q : Process), m.processes[j]? = some q → q.stage.up = true → q.pid = pid
  | .clearing | .truncating | .leaving => m.Vacant
  | .writing inode => m.Vacant ∧ m.pidFile = some (inode, [])
  | .unlinking | .deaf => m.Sole i ∧ m.Names p
  | .binding => m.Sole i ∧ m.Names p ∧ m.socket = none
  | .serving | .removing => m.Sole i ∧ m.Names p ∧ m.socket = some i
  | .checking | .reading | .spawning | .gone => True

def Sound (m : Machine) : Prop := ∀ (i : Nat) (p : Process), m.processes[i]? = some p → m.Fits i p

/-- No other process is on its way in or out. -/
def Alone (m : Machine) (i : Nat) : Prop :=
  ∀ (j : Nat) (q : Process), m.processes[j]? = some q → j ≠ i → q.stage.settled = true

/-- Starts and ends go on one at a time; processes die at any time. -/
def Orderly (m : Machine) : ProcessEvent → Prop
  | .move i | .stop i => m.Alone i
  | _ => True

theorem Fits.mono {m m' : Machine} {i : Nat} {p : Process} (fits : m.Fits i p)
    (pidFile : m'.pidFile = m.pidFile)
    (socket : m'.socket = m.socket)
    (ups : ∀ (j : Nat) (q : Process), m'.processes[j]? = some q → q.stage.up = true →
      m.processes[j]? = some q) :
    m'.Fits i p := by
  have vacant (free : m.Vacant) : m'.Vacant := by
    intro j q found
    cases up : q.stage.up with
    | false => rfl
    | true => exact up.symm.trans (free j q (ups j q found up))
  have sole (only : m.Sole i) : m'.Sole i := fun j q found up => only j q (ups j q found up) up
  have names (named : m.Names p) : m'.Names p := by rwa [Names, pidFile]
  unfold Fits at fits ⊢
  rw [pidFile, socket]
  split at fits
  · exact fun j q found up => fits j q (ups j q found up) up
  · exact vacant fits
  · exact vacant fits
  · exact vacant fits
  · exact ⟨vacant fits.1, fits.2⟩
  · exact ⟨sole fits.1, names fits.2⟩
  · exact ⟨sole fits.1, names fits.2⟩
  · exact ⟨sole fits.1, names fits.2.1, fits.2.2⟩
  · exact ⟨sole fits.1, names fits.2.1, fits.2.2⟩
  · exact ⟨sole fits.1, names fits.2.1, fits.2.2⟩
  all_goals trivial

/-- The files stay as they are, and whoever is new or elsewhere than before holds nothing. -/
theorem Sound.calm {m m' : Machine} (sound : m.Sound) (pidFile : m'.pidFile = m.pidFile)
    (socket : m'.socket = m.socket)
    (known : ∀ (j : Nat) (q : Process), m'.processes[j]? = some q →
      m.processes[j]? = some q ∨ q.stage.up = false ∧ m'.Fits j q) : m'.Sound := by
  intro j q found
  rcases known j q found with old | ⟨_, fits⟩
  · refine (sound j q old).mono pidFile socket fun k r found up => ?_
    rcases known k r found with old | ⟨down, _⟩
    · exact old
    · rw [down] at up
      cases up
  · exact fits

theorem found_set {processes : List Process} {i j : Nat} {p q : Process}
    (found : (processes.set i p)[j]? = some q) :
    j ≠ i ∧ processes[j]? = some q ∨ j = i ∧ q = p := by
  rw [List.getElem?_set] at found
  split at found
  · rename_i same
    split at found
    · exact .inr ⟨same.symm, (Option.some.inj found).symm⟩
    · cases found
  · rename_i other
    exact .inl ⟨Ne.symm other, found⟩

/-- Only this process acts, and no other one holds anything. -/
theorem sound_of_alone {m m' : Machine} {i : Nat} {p : Process}
    (processes : m'.processes = m.processes.set i p)
    (alone : m.Alone i) (sole : m.Sole i) (fits : m'.Fits i p) : m'.Sound := by
  intro j q found
  rw [processes] at found
  rcases found_set found with ⟨other, old⟩ | ⟨rfl, rfl⟩
  · have settled := alone j q old other
    have down : q.stage.up = false := by
      cases up : q.stage.up with
      | false => rfl
      | true => exact absurd (sole j q old up) other
    unfold Fits
    cases stage : q.stage <;> rw [stage] at settled down <;> trivial
  · exact fits

theorem Vacant.sole {m : Machine} (vacant : m.Vacant) (i : Nat) : m.Sole i := by
  intro j q found up
  rw [vacant j q found] at up
  cases up

theorem sole_set {m m' : Machine} {i : Nat} {p : Process} (processes : m'.processes = m.processes.set i p)
    (sole : m.Sole i) : m'.Sole i := by
  intro j q found up
  rw [processes] at found
  rcases found_set found with ⟨_, old⟩ | ⟨same, _⟩
  · exact sole j q old up
  · exact same

theorem vacant_set {m m' : Machine} {i : Nat} {p : Process} (processes : m'.processes = m.processes.set i p)
    (sole : m.Sole i) (down : p.stage.up = false) : m'.Vacant := by
  intro j q found
  rw [processes] at found
  rcases found_set found with ⟨other, old⟩ | ⟨_, rfl⟩
  · cases up : q.stage.up with
    | false => rfl
    | true => exact absurd (sole j q old up) other
  · exact down

/-- A holder's PID is in the file. -/
theorem Sound.named {m : Machine} (sound : m.Sound) {i : Nat} {p : Process} (found : m.processes[i]? = some p)
    (up : p.stage.up = true) : m.Sole i ∧ m.Names p := by
  have fits := sound i p found
  unfold Fits at fits
  cases stage : p.stage <;> rw [stage] at fits up <;>
    first | exact ⟨fits.1, fits.2⟩ | exact ⟨fits.1, fits.2.1⟩ | cases up

theorem Sound.put {m : Machine} (sound : m.Sound) (i : Nat) (p : Process) {stage : Stage}
    (down : stage.up = false)
    (fits : (m.put i p stage).Fits i { p with stage }) : (m.put i p stage).Sound := by
  refine sound.calm rfl rfl fun j q found => ?_
  rcases found_set found with ⟨_, old⟩ | ⟨rfl, rfl⟩
  · exact .inl old
  · exact .inr ⟨down, fits⟩

theorem admitted_down (p : Process) : p.admitted.up = false := by
  unfold Process.admitted
  split <;> rfl

theorem admitted_fits {m : Machine} (vacant : m.Vacant) (i : Nat) (p : Process) :
    m.Fits i { p with stage := p.admitted } := by
  unfold Fits Process.admitted
  cases p.foreground with
  | false => trivial
  | true => exact vacant

theorem Sound.vacant {m : Machine} (sound : m.Sound) (absent : m.pidFile = none) : m.Vacant := by
  intro j q found
  cases up : q.stage.up with
  | false => rfl
  | true =>
    obtain ⟨_, inode, named⟩ := sound.named found up
    rw [absent] at named
    cases named

theorem alive_of_found {m : Machine} {i : Nat} {p : Process} (found : m.processes[i]? = some p)
    (here : p.stage ≠ .gone) :
    m.alive p.pid = true := by
  rw [alive, Bool.or_eq_true, List.any_eq_true]
  exact .inr ⟨p, List.mem_of_getElem? found, by simp [here]⟩

theorem advance_sound {m m' : Machine} {i : Nat} {p : Process} (sound : m.Sound)
    (found : m.processes[i]? = some p)
    (alone : m.Alone i) (stepped : m.advance i p = some m') : m'.Sound := by
  have fits := sound i p found
  unfold Fits at fits
  unfold advance at stepped
  cases stage : p.stage with
  | checking =>
    rw [stage] at stepped
    dsimp only at stepped
    split at stepped
    · rename_i absent
      rw [← Option.some.inj stepped]
      exact sound.put i p (admitted_down p)
        (admitted_fits (vacant_set rfl ((sound.vacant absent).sole i) (admitted_down p)) i p)
    · rw [← Option.some.inj stepped]
      exact sound.put i p rfl trivial
  | reading =>
    rw [stage] at stepped
    dsimp only at stepped
    split at stepped
    · rw [← Option.some.inj stepped]
      exact sound.put i p rfl trivial
    · rename_i pid read
      rw [← Option.some.inj stepped]
      refine sound.put i p rfl fun j q there up => ?_
      rcases found_set there with ⟨_, old⟩ | ⟨_, rfl⟩
      · obtain ⟨_, inode, named⟩ := sound.named old up
        rw [named, Option.bind_some, parsePid_pidText] at read
        exact Option.some.inj read
      · cases up
  | asking pid =>
    rw [stage] at stepped fits
    rw [← Option.some.inj stepped]
    split
    · exact sound.put i p rfl trivial
    · rename_i dead
      have vacant : m.Vacant := by
        intro j q there
        cases up : q.stage.up with
        | false => rfl
        | true =>
          have here : q.stage ≠ .gone := by
            intro gone
            rw [gone] at up
            cases up
          exact absurd (fits j q there up ▸ alive_of_found there here) dead
      exact sound.put i p rfl (vacant_set rfl (vacant.sole i) rfl)
  | clearing =>
    rw [stage] at stepped fits
    rw [← Option.some.inj stepped]
    exact sound_of_alone rfl alone (fits.sole i)
      (admitted_fits (vacant_set rfl (fits.sole i) (admitted_down p)) i p)
  | truncating =>
    rw [stage] at stepped fits
    dsimp only at stepped
    split at stepped
    all_goals
      rw [← Option.some.inj stepped]
      exact sound_of_alone rfl alone (fits.sole i) ⟨vacant_set rfl (fits.sole i) rfl, rfl⟩
  | writing inode =>
    rw [stage] at stepped fits
    obtain ⟨vacant, file⟩ := fits
    rw [← Option.some.inj stepped]
    refine sound_of_alone rfl alone (vacant.sole i) ⟨sole_set rfl (vacant.sole i), inode, ?_⟩
    simp [file, overlay]
  | unlinking =>
    rw [stage] at stepped fits
    rw [← Option.some.inj stepped]
    exact sound_of_alone rfl alone fits.1 ⟨sole_set rfl fits.1, fits.2, rfl⟩
  | binding =>
    rw [stage] at stepped fits
    obtain ⟨sole, named, free⟩ := fits
    dsimp only at stepped
    rw [free] at stepped
    rw [← Option.some.inj stepped]
    exact sound_of_alone rfl alone sole ⟨sole_set rfl sole, named, rfl⟩
  | removing =>
    rw [stage] at stepped fits
    rw [← Option.some.inj stepped]
    exact sound_of_alone rfl alone fits.1 (vacant_set rfl fits.1 rfl)
  | leaving =>
    rw [stage] at stepped fits
    rw [← Option.some.inj stepped]
    exact sound_of_alone rfl alone (fits.sole i) trivial
  | spawning => rw [stage] at stepped; cases stepped
  | serving => rw [stage] at stepped; cases stepped
  | deaf => rw [stage] at stepped; cases stepped
  | gone => rw [stage] at stepped; cases stepped

theorem advance_processes {m m' : Machine} {i : Nat} {p : Process} (stepped : m.advance i p = some m') :
    ∃ stage, m'.processes = m.processes.set i { p with stage } := by
  unfold advance at stepped
  split at stepped
  all_goals first
    | (rw [← Option.some.inj stepped]; exact ⟨_, rfl⟩)
    | (split at stepped <;> rw [← Option.some.inj stepped] <;> exact ⟨_, rfl⟩)
    | cases stepped

theorem found_append {processes : List Process} {j : Nat} {p q : Process}
    (found : (processes ++ [p])[j]? = some q) :
    processes[j]? = some q ∨ q = p := by
  rw [List.getElem?_append] at found
  split at found
  · exact .inl found
  · exact .inr (List.mem_singleton.mp (List.mem_of_getElem? found))

theorem Sound.enter {m : Machine} (sound : m.Sound) (pid : UInt32) (foreground : Bool) :
    Sound { m with processes := m.processes ++ [⟨pid, foreground, .checking⟩] } := by
  refine sound.calm rfl rfl fun j q found => ?_
  rcases found_append found with old | rfl
  · exact .inl old
  · exact .inr ⟨rfl, trivial⟩

theorem step_sound {m m' : Machine} {e : ProcessEvent} (sound : m.Sound) (orderly : m.Orderly e)
    (stepped : m.step e = some m') : m'.Sound := by
  cases e with
  | start pid foreground =>
    obtain ⟨_, stepped⟩ := Option.ite_none_left_eq_some.mp stepped
    rw [← Option.some.inj stepped]
    exact sound.enter pid foreground
  | move i =>
    obtain ⟨p, found, stepped⟩ := Option.bind_eq_some_iff.mp stepped
    exact advance_sound sound found orderly stepped
  | spawn i pid =>
    obtain ⟨p, found, stepped⟩ := Option.bind_eq_some_iff.mp stepped
    obtain ⟨_, stepped⟩ := Option.ite_none_right_eq_some.mp stepped
    rw [← Option.some.inj stepped]
    have ended : (m.put i p .gone).Sound := sound.put i p rfl trivial
    exact ended.enter pid true
  | stop i =>
    obtain ⟨p, found, stepped⟩ := Option.bind_eq_some_iff.mp stepped
    obtain ⟨serving, stepped⟩ := Option.ite_none_right_eq_some.mp stepped
    have fits := sound i p found
    unfold Fits at fits
    rw [serving] at fits
    rw [← Option.some.inj stepped]
    exact sound_of_alone rfl orderly fits.1 ⟨sole_set rfl fits.1, fits.2⟩
  | die i =>
    obtain ⟨p, found, stepped⟩ := Option.bind_eq_some_iff.mp stepped
    obtain ⟨_, stepped⟩ := Option.ite_none_left_eq_some.mp stepped
    rw [← Option.some.inj stepped]
    exact sound.put i p rfl trivial
  | appear pid =>
    obtain ⟨_, stepped⟩ := Option.ite_none_left_eq_some.mp stepped
    rw [← Option.some.inj stepped]
    exact sound.calm rfl rfl fun j q found => .inl found
  | vanish pid =>
    rw [← Option.some.inj stepped]
    exact sound.calm rfl rfl fun j q found => .inl found

theorem sound_of_empty {m : Machine} (empty : m.processes = []) : m.Sound := by
  intro i p found
  rw [empty] at found
  cases found

theorem run_sound {m m' : Machine} {events : List ProcessEvent} (sound : m.Sound)
    (orderly : Run.Each step Orderly m events) (ran : Run step m events = some m') : m'.Sound := by
  have kept (s : Machine) (e : ProcessEvent) (s' : Machine) (sound : s.Sound) (orderly : s.Orderly e)
      (stepped : s.step e = some s') : s'.Sound := step_sound sound orderly stepped
  exact Run.each_preserves kept sound orderly ran

/-- Starts and ends one at a time, with deaths at any moment and PIDs that are used again: never do two
daemons run, the PID file names the one that does, and the path of the socket leads to it. -/
theorem single_instance {m m' : Machine} {events : List ProcessEvent} (empty : m.processes = [])
    (orderly : Run.Each step Orderly m events) (ran : Run step m events = some m') {i : Nat} {p : Process}
    (found : m'.processes[i]? = some p) (up : p.stage.up = true) :
    (∀ (j : Nat) (q : Process), m'.processes[j]? = some q → q.stage.up = true → j = i) ∧
      (∃ inode, m'.pidFile = some (inode, pidText p.pid)) ∧ (p.stage = .serving → m'.socket = some i) := by
  have sound : m'.Sound := run_sound (sound_of_empty empty) orderly ran
  obtain ⟨sole, named⟩ := sound.named found up
  refine ⟨sole, named, fun serving => ?_⟩
  have fits := sound i p found
  unfold Fits at fits
  rw [serving] at fits
  exact fits.2.2

namespace StandIn

def idle : Machine := ⟨none, 0, none, [], []⟩

/-- The daemon with the PID 7 after that many moves. -/
def started (k : Nat) : List ProcessEvent := .start 7 true :: List.replicate k (.move 0)

theorem alone_of_single {m : Machine} {p : Process} (single : m.processes = [p]) : m.Alone 0 := by
  intro j q found other
  rw [single] at found
  cases j with
  | zero => exact absurd rfl other
  | succ j => cases found

theorem started_orderly (k : Nat) : Run.Each step Orderly idle (started k) := by
  intro s stepped
  have holds (s : Machine) (e : ProcessEvent) (single : ∃ p, s.processes = [p]) (move : e = .move 0) :
      s.Orderly e := by
    obtain ⟨p, single⟩ := single
    rw [move]
    exact alone_of_single single
  have kept (s : Machine) (e : ProcessEvent) (s' : Machine) (single : ∃ p, s.processes = [p])
      (move : e = .move 0)
      (stepped : s.step e = some s') : ∃ p, s'.processes = [p] := by
    obtain ⟨p, single⟩ := single
    rw [move] at stepped
    obtain ⟨q, _, advanced⟩ := Option.bind_eq_some_iff.mp stepped
    obtain ⟨stage, processes⟩ := advance_processes advanced
    exact ⟨{ q with stage }, by rw [processes, single]; rfl⟩
  have single : ∃ p, s.processes = [p] := ⟨⟨7, true, .checking⟩, by rw [← Option.some.inj stepped]; rfl⟩
  exact ⟨trivial, Run.each_of holds kept single fun e member => List.eq_of_mem_replicate member⟩

/-- The only daemon, when it serves. -/
theorem single_instance_started : ∃ m, Run step idle (started 5) = some m ∧
    (∀ (j : Nat) (q : Process), m.processes[j]? = some q → q.stage.up = true → j = 0) ∧
      (∃ inode, m.pidFile = some (inode, pidText 7)) ∧ m.socket = some 0 := by
  obtain ⟨m, ran, serving⟩ : ∃ m, Run step idle (started 5) = some m ∧
    m.processes[0]? = some ⟨7, true, .serving⟩ :=
    ⟨_, rfl, rfl⟩
  have held := single_instance rfl (started_orderly 5) ran serving rfl
  exact ⟨m, ran, held.1, held.2.1, held.2.2 rfl⟩

end StandIn

/-- Two starts at a time both come up. -/
example : (Run step StandIn.idle [.start 7 true, .start 8 true, .move 0, .move 1, .move 0, .move 1,
    .move 0, .move 1]).map
    (fun m => m.processes.map Process.stage) = some [.unlinking, .unlinking] := rfl

/-! ### A torn PID file -/

/-- At most one process is on its way in or out. -/
def Exclusive (m : Machine) : Prop :=
  ∀ (i : Nat) (p : Process), m.processes[i]? = some p → p.stage.settled = false → m.Alone i

theorem exclusive_set {m m' : Machine} {i : Nat} {p : Process}
    (processes : m'.processes = m.processes.set i p)
    (alone : m.Alone i) : m'.Exclusive := by
  have others (j : Nat) (q : Process) (found : m'.processes[j]? = some q) (other : j ≠ i) :
      q.stage.settled = true := by
    rw [processes] at found
    rcases found_set found with ⟨_, old⟩ | ⟨same, _⟩
    · exact alone j q old other
    · exact absurd same other
  intro k r found busy
  by_cases here : k = i
  · rw [here]
    exact others
  · rw [others k r found here] at busy
    cases busy

theorem Exclusive.calm {m m' : Machine} (exclusive : m.Exclusive)
    (known : ∀ (j : Nat) (q : Process), m'.processes[j]? = some q →
      m.processes[j]? = some q ∨ q.stage.settled = true) : m'.Exclusive := by
  intro i p found busy j q there other
  rcases known i p found with old | settled
  · rcases known j q there with old' | settled
    · exact exclusive i p old busy j q old' other
    · exact settled
  · rw [settled] at busy
    cases busy

theorem Exclusive.enter {m : Machine} (exclusive : m.Exclusive) (pid : UInt32) (foreground : Bool) :
    Exclusive { m with processes := m.processes ++ [⟨pid, foreground, .checking⟩] } := by
  refine exclusive.calm fun j q found => ?_
  rcases found_append found with old | rfl
  · exact .inl old
  · exact .inr rfl

theorem Exclusive.put_gone {m : Machine} (exclusive : m.Exclusive) (i : Nat) (p : Process) :
    (m.put i p .gone).Exclusive := by
  refine exclusive.calm fun j q found => ?_
  rcases found_set found with ⟨_, old⟩ | ⟨_, rfl⟩
  · exact .inl old
  · exact .inr rfl

theorem step_exclusive {m m' : Machine} {e : ProcessEvent} (exclusive : m.Exclusive) (orderly : m.Orderly e)
    (stepped : m.step e = some m') : m'.Exclusive := by
  cases e with
  | start pid foreground =>
    obtain ⟨_, stepped⟩ := Option.ite_none_left_eq_some.mp stepped
    rw [← Option.some.inj stepped]
    exact exclusive.enter pid foreground
  | move i =>
    obtain ⟨p, found, stepped⟩ := Option.bind_eq_some_iff.mp stepped
    obtain ⟨stage, processes⟩ := advance_processes stepped
    exact exclusive_set processes orderly
  | spawn i pid =>
    obtain ⟨p, found, stepped⟩ := Option.bind_eq_some_iff.mp stepped
    obtain ⟨_, stepped⟩ := Option.ite_none_right_eq_some.mp stepped
    rw [← Option.some.inj stepped]
    exact (exclusive.put_gone i p).enter pid true
  | stop i =>
    obtain ⟨p, found, stepped⟩ := Option.bind_eq_some_iff.mp stepped
    obtain ⟨_, stepped⟩ := Option.ite_none_right_eq_some.mp stepped
    rw [← Option.some.inj stepped]
    exact exclusive_set rfl orderly
  | die i =>
    obtain ⟨p, found, stepped⟩ := Option.bind_eq_some_iff.mp stepped
    obtain ⟨_, stepped⟩ := Option.ite_none_left_eq_some.mp stepped
    rw [← Option.some.inj stepped]
    exact exclusive.put_gone i p
  | appear pid =>
    obtain ⟨_, stepped⟩ := Option.ite_none_left_eq_some.mp stepped
    rw [← Option.some.inj stepped]
    exact exclusive.calm fun j q found => .inl found
  | vanish pid =>
    rw [← Option.some.inj stepped]
    exact exclusive.calm fun j q found => .inl found

theorem exclusive_of_empty {m : Machine} (empty : m.processes = []) : m.Exclusive := by
  intro i p found
  rw [empty] at found
  cases found

theorem run_exclusive {m m' : Machine} {events : List ProcessEvent} (exclusive : m.Exclusive)
    (orderly : Run.Each step Orderly m events) (ran : Run step m events = some m') : m'.Exclusive := by
  have kept (s : Machine) (e : ProcessEvent) (s' : Machine) (exclusive : s.Exclusive) (orderly : s.Orderly e)
      (stepped : s.step e = some s') : s'.Exclusive := step_exclusive exclusive orderly stepped
  exact Run.each_preserves kept exclusive orderly ran

/-- The PID file is empty and nobody is beyond its check. -/
structure Torn (m : Machine) (inode : Nat) : Prop where
  file : m.pidFile = some (inode, [])
  outside : ∀ p ∈ m.processes, p.stage = .checking ∨ p.stage = .reading ∨ p.stage = .spawning ∨
    p.stage = .gone

theorem Torn.put {m : Machine} {inode : Nat} (torn : m.Torn inode) (i : Nat) (p : Process) {stage : Stage}
    (outside : stage = .checking ∨ stage = .reading ∨ stage = .spawning ∨ stage = .gone) :
    (m.put i p stage).Torn inode := by
  refine ⟨torn.file, fun q member => ?_⟩
  rcases List.mem_or_eq_of_mem_set member with old | rfl
  · exact torn.outside q old
  · exact outside

theorem Torn.enter {m : Machine} {inode : Nat} (torn : m.Torn inode) (pid : UInt32) (foreground : Bool) :
    Torn { m with processes := m.processes ++ [⟨pid, foreground, .checking⟩] } inode := by
  refine ⟨torn.file, fun q member => ?_⟩
  rcases List.mem_append.mp member with old | new
  · exact torn.outside q old
  · rw [List.mem_singleton.mp new]
    exact .inl rfl

/-- Every check fails to read a number. -/
theorem step_torn {m m' : Machine} {inode : Nat} {e : ProcessEvent} (torn : m.Torn inode)
    (stepped : m.step e = some m') : m'.Torn inode := by
  cases e with
  | start pid foreground =>
    obtain ⟨_, stepped⟩ := Option.ite_none_left_eq_some.mp stepped
    rw [← Option.some.inj stepped]
    exact torn.enter pid foreground
  | move i =>
    obtain ⟨p, found, stepped⟩ := Option.bind_eq_some_iff.mp stepped
    unfold advance at stepped
    rcases torn.outside p (List.mem_of_getElem? found) with stage | stage | stage | stage
    · simp only [stage, torn.file] at stepped
      rw [← Option.some.inj stepped]
      exact torn.put i p (.inr (.inl rfl))
    · have unread : parsePid [] = none := rfl
      simp only [stage, torn.file, Option.bind_some, unread] at stepped
      rw [← Option.some.inj stepped]
      exact torn.put i p (.inr (.inr (.inr rfl)))
    · rw [stage] at stepped
      cases stepped
    · rw [stage] at stepped
      cases stepped
  | spawn i pid =>
    obtain ⟨p, found, stepped⟩ := Option.bind_eq_some_iff.mp stepped
    obtain ⟨_, stepped⟩ := Option.ite_none_right_eq_some.mp stepped
    rw [← Option.some.inj stepped]
    exact (torn.put i p (.inr (.inr (.inr rfl)))).enter pid true
  | stop i =>
    obtain ⟨p, found, stepped⟩ := Option.bind_eq_some_iff.mp stepped
    obtain ⟨serving, _⟩ := Option.ite_none_right_eq_some.mp stepped
    have outside := torn.outside p (List.mem_of_getElem? found)
    rw [serving] at outside
    simp at outside
  | die i =>
    obtain ⟨p, found, stepped⟩ := Option.bind_eq_some_iff.mp stepped
    obtain ⟨_, stepped⟩ := Option.ite_none_left_eq_some.mp stepped
    rw [← Option.some.inj stepped]
    exact torn.put i p (.inr (.inr (.inr rfl)))
  | appear pid =>
    obtain ⟨_, stepped⟩ := Option.ite_none_left_eq_some.mp stepped
    rw [← Option.some.inj stepped]
    exact ⟨torn.file, torn.outside⟩
  | vanish pid =>
    rw [← Option.some.inj stepped]
    exact ⟨torn.file, torn.outside⟩

theorem run_torn {m m' : Machine} {inode : Nat} {events : List ProcessEvent} (torn : m.Torn inode)
    (ran : Run step m events = some m') : m'.Torn inode := by
  have kept (s : Machine) (e : ProcessEvent) (s' : Machine) (torn : s.Torn inode) (_ : True)
      (stepped : s.step e = some s') : s'.Torn inode := step_torn torn stepped
  exact Run.preserves kept torn (fun _ _ => trivial) ran

/-- After a daemon has died between the two halves of its write of the PID file, whatever happens no daemon
comes up, until somebody removes the file. -/
theorem torn_pid_file {m middle m' : Machine} {events : List ProcessEvent} (empty : m.processes = [])
    (orderly : Run.Each step Orderly m events) (ran : Run step m events = some middle)
    {i inode : Nat} {p : Process}
    (found : middle.processes[i]? = some p) (opened : p.stage = .writing inode) {later : List ProcessEvent}
    (died : Run step middle (.die i :: later) = some m') :
    m'.pidFile = some (inode, []) ∧ ∀ (j : Nat) (q : Process), m'.processes[j]? = some q →
      q.stage.up = false := by
  have sound : middle.Sound := run_sound (sound_of_empty empty) orderly ran
  have exclusive : middle.Exclusive := run_exclusive (exclusive_of_empty empty) orderly ran
  obtain ⟨vacant, file⟩ : middle.Vacant ∧ middle.pidFile = some (inode, []) := by
    have fits := sound i p found
    unfold Fits at fits
    rwa [opened] at fits
  have alone := exclusive i p found (by rw [opened]; rfl)
  obtain ⟨after, stepped, rest⟩ := Run.cons_some died
  have torn : after.Torn inode := by
    obtain ⟨p', found', stepped⟩ := Option.bind_eq_some_iff.mp stepped
    obtain ⟨_, stepped⟩ := Option.ite_none_left_eq_some.mp stepped
    rw [← Option.some.inj stepped]
    refine ⟨file, fun q member => ?_⟩
    obtain ⟨j, there⟩ := List.mem_iff_getElem?.mp member
    rcases found_set there with ⟨other, old⟩ | ⟨_, rfl⟩
    · have settled := alone j q old other
      have down := vacant j q old
      cases stage : q.stage <;> rw [stage] at settled down <;> trivial
    · exact .inr (.inr (.inr rfl))
  have last := run_torn torn rest
  refine ⟨last.file, fun j q there => ?_⟩
  rcases last.outside q (List.mem_of_getElem? there) with stage | stage | stage | stage <;> rw [stage] <;> rfl

/-- A later start reads the empty file and gives up. -/
theorem StandIn.torn_pid_file_start : ∃ m, Run step StandIn.idle (StandIn.started 2) = some m ∧
    ∃ m', Run step m [.die 0, .start 8 true, .move 1, .move 1] = some m' ∧ m'.pidFile = some (0, []) ∧
      ∀ (j : Nat) (q : Process), m'.processes[j]? = some q → q.stage.up = false := by
  obtain ⟨m, ran, opened, m', later⟩ : ∃ m, Run step StandIn.idle (StandIn.started 2) = some m ∧
      m.processes[0]? = some ⟨7, true, .writing 0⟩ ∧
      ∃ m', Run step m [.die 0, .start 8 true, .move 1, .move 1] = some m' := ⟨_, rfl, rfl, _, rfl⟩
  exact ⟨m, ran, m', later, torn_pid_file rfl (StandIn.started_orderly 2) ran opened rfl later⟩

/-! ### Starts after an end -/

/-- With one more process, the last one. -/
def launched (m : Machine) (pid : UInt32) (stage : Stage) : Machine :=
  { m with processes := m.processes ++ [⟨pid, true, stage⟩] }

theorem launched_found (m : Machine) (pid : UInt32) (stage : Stage) :
    (m.launched pid stage).processes[m.processes.length]? = some ⟨pid, true, stage⟩ :=
  List.getElem?_concat_length

theorem set_last {α : Type} (xs : List α) (x y : α) : (xs ++ [x]).set xs.length y = xs ++ [y] := by
  rw [List.set_append_right _ _ (Nat.le_refl _), Nat.sub_self, List.set_cons_zero]

theorem step_launched (m : Machine) (pid : UInt32) (stage : Stage) :
    (m.launched pid stage).step (.move m.processes.length) =
      (m.launched pid stage).advance m.processes.length ⟨pid, true, stage⟩ := by
  rw [step, launched_found, Option.bind_some]

theorem alive_ended {m : Machine} (ended : ∀ p ∈ m.processes, p.stage = .gone) (pid : UInt32) :
    m.alive pid = m.others.contains pid := by
  rw [alive, Bool.or_eq_left_iff_imp]
  intro found
  obtain ⟨p, member, here⟩ := List.any_eq_true.mp found
  simp [ended p member] at here

theorem alive_launched {m : Machine} (ended : ∀ p ∈ m.processes, p.stage = .gone) (pid old : UInt32)
    {stage : Stage}
    (here : stage ≠ .gone) : (m.launched pid stage).alive old =
    (m.others.contains old || decide (pid = old)) := by
  have before := alive_ended ended old
  unfold alive at before ⊢
  rw [launched, List.any_append, ← Bool.or_assoc, before]
  simp [here]

theorem truncating_moves (m : Machine) (pid : UInt32) :
    ∃ inode inodes, (m.launched pid .truncating).step (.move m.processes.length) =
      some ({ m with pidFile := some (inode, []), inodes }.launched pid (.writing inode)) := by
  rw [step_launched]
  cases file : m.pidFile with
  | none => exact ⟨m.inodes, m.inodes + 1, by simp only [advance, launched, put, file, set_last]⟩
  | some before => exact ⟨before.1, m.inodes, by simp only [advance, launched, put, file, set_last]⟩

theorem writing_moves {m : Machine} {inode : Nat} (file : m.pidFile = some (inode, [])) (pid : UInt32) :
    (m.launched pid (.writing inode)).step (.move m.processes.length) =
      some ({ m with pidFile := some (inode, pidText pid) }.launched pid .unlinking) := by
  have whole : overlay (pidText pid) [] = pidText pid := by rw [overlay, List.drop_nil, List.append_nil]
  rw [step_launched]
  simp only [advance, launched, put, file, set_last, Option.map_some, if_pos, whole]

theorem unlinking_moves (m : Machine) (pid : UInt32) :
    (m.launched pid .unlinking).step (.move m.processes.length) =
      some ({ m with socket := none }.launched pid .binding) := by
  rw [step_launched]
  simp only [advance, launched, put, set_last]

theorem binding_moves {m : Machine} (free : m.socket = none) (pid : UInt32) :
    (m.launched pid .binding).step (.move m.processes.length) =
      some ({ m with socket := some m.processes.length }.launched pid .serving) := by
  rw [step_launched]
  simp only [advance, launched, put, free, set_last]

/-- From an admission on nothing stops a start. -/
theorem admitted_serves (m : Machine) (pid : UInt32) :
    ∃ m', Run step (m.launched pid .truncating) (List.replicate 4 (.move m.processes.length)) = some m' ∧
      m'.processes[m.processes.length]? = some ⟨pid, true, .serving⟩ := by
  obtain ⟨inode, inodes, truncated⟩ := truncating_moves m pid
  have written := writing_moves (m := { m with pidFile := some (inode, []), inodes }) rfl pid
  have unlinked := unlinking_moves { m with pidFile := some (inode, pidText pid), inodes } pid
  have bound :=
    binding_moves (m := { m with pidFile := some (inode, pidText pid), inodes, socket := none }) rfl pid
  exact ⟨_, Run.cons truncated (Run.cons written (Run.cons unlinked (Run.cons bound rfl))),
    launched_found _ pid .serving⟩

theorem step_start {m : Machine} {pid : UInt32} (fresh : m.alive pid = false) :
    m.step (.start pid true) = some (m.launched pid .checking) := by
  rw [step, if_neg (by rw [fresh]; exact Bool.false_ne_true), launched]

/-- The number in the file is free, and not the one that this process has. -/
def Stale (m : Machine) (pid : UInt32) : Prop :=
  ∀ (inode : Nat) (text : List Char), m.pidFile = some (inode, text) →
    ∃ old, parsePid text = some old ∧ old ≠ pid ∧ old ∉ m.others

theorem alive_iff {m : Machine} (ended : ∀ p ∈ m.processes, p.stage = .gone) (pid old : UInt32)
    {stage : Stage}
    (here : stage ≠ .gone) : (m.launched pid stage).alive old = true ↔ old ∈ m.others ∨ pid = old := by
  rw [alive_launched ended pid old here, Bool.or_eq_true, List.contains_iff_mem, decide_eq_true_iff]

theorem checking_moves {m : Machine} {file : Nat × List Char} (present : m.pidFile = some file)
    (pid : UInt32) :
    (m.launched pid .checking).step (.move m.processes.length) = some (m.launched pid .reading) := by
  rw [step_launched]
  simp only [advance, launched, put, present, set_last]

theorem reading_moves {m : Machine} {file : Nat × List Char} (present : m.pidFile = some file)
    (pid : UInt32) :
    (m.launched pid .reading).step (.move m.processes.length) =
      some (m.launched pid (((parsePid file.2).map Stage.asking).getD .gone)) := by
  rw [step_launched]
  cases parsed : parsePid file.2 <;>
    simp only [advance, launched, put, present, set_last, Option.bind_some, parsed, Option.map_some,
      Option.map_none,
      Option.getD_some, Option.getD_none]

theorem asking_moves (m : Machine) (pid old : UInt32) :
    (m.launched pid (.asking old)).step (.move m.processes.length) =
      some (m.launched pid (if (m.launched pid (.asking old)).alive old then .gone else .clearing)) := by
  rw [step_launched]
  simp only [advance, put, launched, set_last]

theorem stale_serves {m : Machine} {pid : UInt32} (ended : ∀ p ∈ m.processes, p.stage = .gone)
    (stale : m.Stale pid) :
    ∃ k m', Run step (m.launched pid .checking) (List.replicate k (.move m.processes.length)) = some m' ∧
      m'.processes[m.processes.length]? = some ⟨pid, true, .serving⟩ := by
  cases file : m.pidFile with
  | none =>
    have checked : (m.launched pid .checking).step (.move m.processes.length) =
        some (m.launched pid .truncating) := by
      rw [step_launched]
      simp only [advance, launched, put, file, set_last, Process.admitted, if_true]
    obtain ⟨m', ran, serving⟩ := admitted_serves m pid
    exact ⟨5, m', Run.cons checked ran, serving⟩
  | some before =>
    obtain ⟨old, parsed, other, absent⟩ := stale before.1 before.2 file
    have read := reading_moves file pid
    rw [parsed, Option.map_some, Option.getD_some] at read
    have asked := asking_moves m pid old
    rw [if_neg fun found => ((alive_iff ended pid old (by intro; contradiction)).mp found).elim
      absent fun same =>
      other same.symm] at asked
    have cleared : (m.launched pid .clearing).step (.move m.processes.length) =
        some ({ m with pidFile := none }.launched pid .truncating) := by
      rw [step_launched]
      simp only [advance, launched, put, set_last, Process.admitted, if_true]
    obtain ⟨m', ran, serving⟩ := admitted_serves { m with pidFile := none } pid
    exact ⟨8, m', Run.cons (checking_moves file pid)
      (Run.cons read (Run.cons asked (Run.cons cleared ran))), serving⟩

/-- Where a start can stand that the file turns away. -/
def Refused (m : Machine) (pid : UInt32) : Stage → Prop
  | .checking | .reading | .gone => True
  | .asking old => old ∈ m.others ∨ pid = old
  | _ => False

theorem step_refused {m s : Machine} {pid : UInt32} {stage : Stage}
    (ended : ∀ p ∈ m.processes, p.stage = .gone)
    (fresh : ¬ m.Stale pid) (refused : m.Refused pid stage)
    (stepped : (m.launched pid stage).step (.move m.processes.length) = some s) :
    ∃ stage', s = m.launched pid stage' ∧ m.Refused pid stage' := by
  obtain ⟨inode, text, file, held⟩ : ∃ inode text, m.pidFile = some (inode, text) ∧
      ∀ old, parsePid text = some old → old ∈ m.others ∨ pid = old := by
    by_contra none
    refine fresh fun inode text file => ?_
    by_contra lost
    exact none ⟨inode, text, file, fun old parsed => by
      by_contra free
      exact lost ⟨old, parsed, fun same => free (.inr same.symm), fun member => free (.inl member)⟩⟩
  cases stage with
  | checking => exact ⟨.reading, Option.some.inj (stepped.symm.trans (checking_moves file pid)), trivial⟩
  | reading =>
    refine ⟨_, Option.some.inj (stepped.symm.trans (reading_moves file pid)), ?_⟩
    cases parsed : parsePid text with
    | none => trivial
    | some old => exact held old parsed
  | asking old =>
    have here : Stage.asking old ≠ .gone := by intro; contradiction
    have found := (alive_iff ended pid old here).mpr refused
    have asked := asking_moves m pid old
    rw [if_pos found] at asked
    exact ⟨.gone, Option.some.inj (stepped.symm.trans asked), trivial⟩
  | gone =>
    rw [step_launched] at stepped
    cases stepped
  | _ => exact refused.elim

/-- After all daemons have ended, however that was, the next start comes up exactly when the PID file is
absent or holds the number of no process, its own included. -/
theorem restart_iff {m : Machine} {pid : UInt32} (ended : ∀ p ∈ m.processes, p.stage = .gone)
    (fresh : m.alive pid = false) :
    (∃ k m', Run step m (.start pid true :: List.replicate k (.move m.processes.length)) = some m' ∧
        m'.processes[m.processes.length]? = some ⟨pid, true, .serving⟩) ↔
      ∀ (inode : Nat) (text : List Char), m.pidFile = some (inode, text) →
        ∃ old, parsePid text = some old ∧ old ≠ pid ∧ old ∉ m.others := by
  constructor
  · rintro ⟨k, m', ran, serving⟩
    by_contra held
    obtain ⟨s, started, rest⟩ := Run.cons_some ran
    have kept (s : Machine) (e : ProcessEvent) (s' : Machine)
        (before : ∃ stage, s = m.launched pid stage ∧ m.Refused pid stage)
        (moves : e = .move m.processes.length)
        (stepped : s.step e = some s') : ∃ stage, s' = m.launched pid stage ∧ m.Refused pid stage := by
      obtain ⟨stage, rfl, refused⟩ := before
      rw [moves] at stepped
      exact step_refused ended held refused stepped
    have start : ∃ stage, s = m.launched pid stage ∧ m.Refused pid stage :=
      ⟨.checking, Option.some.inj (started.symm.trans (step_start fresh)), trivial⟩
    obtain ⟨stage, rfl, refused⟩ :=
      Run.preserves kept start (fun _ member => List.eq_of_mem_replicate member) rest
    rw [launched_found] at serving
    cases serving
    exact refused
  · intro stale
    obtain ⟨k, m', ran, serving⟩ := stale_serves ended stale
    exact ⟨k, m', Run.cons (step_start fresh) ran, serving⟩

/-- After the end of a daemon that left its file, with a process of another kind about. -/
theorem StandIn.restart_iff_left : ∃ k m', Run step ⟨some (0, pidText 7), 1, some 0, [], [1]⟩
      (.start 8 true :: List.replicate k (.move 0)) = some m' ∧
        m'.processes[0]? = some ⟨8, true, .serving⟩ := by
  refine (restart_iff (m := ⟨some (0, pidText 7), 1, some 0, [], [1]⟩)
    (fun p member => nomatch member) rfl).mpr ?_
  intro inode text file
  cases file
  exact ⟨7, parsePid_pidText 7, by decide, by decide⟩

end Machine
end GrokingClawId.Daemon
