import Mathlib.Data.List.Forall2
import Mathlib.Data.List.Induction
import GrokingClawId.Lib.LineFraming
import GrokingClawId.Lib.Run
import GrokingClawId.Lib.Task

/-!
# A server that answers lines

A server with any number of connections. Each connection has a loop that reads a line, runs the task
for it on the state all of them share and writes the answer before it reads the next line. The clients
send in pieces and close when they like, and everything happens in any order.
-/

namespace GrokingClawId.LineServer
open LineFraming

/-- What a line asks for. -/
inductive Request (D R : Type) where
  | blank
  | broken
  | task (t : Task D R)

/-- How lines are understood and how answers are written. -/
structure Service (D α R : Type) where
  sep : α
  understand : List α → Request D R
  encode : R → List α

/-- `unread` was sent and not taken by the loop; `ended` is its loop. -/
structure Connection (D α R : Type) where
  unread : List α
  closed : Bool
  task : Option (Task D R)
  written : List α
  ended : Bool

def Connection.fresh (D α R : Type) : Connection D α R := ⟨[], false, none, [], false⟩

/-- What the client does (`send`, `close`) and what the loop does. An answer that cannot be
delivered ends the loop. -/
inductive Move (α : Type) where
  | send (bytes : List α)
  | close
  | read
  | run
  | reply (delivered : Bool)

structure Server (D α R : Type) where
  state : D
  connections : List (Connection D α R)

inductive Event (α : Type) where
  | accept
  | move (connection : Nat) (m : Move α)

section Steps
variable {D α R : Type} [DecidableEq α] (service : Service D α R)

def Connection.take (c : Connection D α R) (line rest : List α) : Connection D α R :=
  if line = [] then { c with ended := true }
  else
    match service.understand line with
    | .blank => { c with unread := rest }
    | .broken => { c with unread := rest, ended := true }
    | .task t => { c with unread := rest, task := some t }

def Connection.step (c : Connection D α R) (d : D) : Move α → Option (D × Connection D α R)
  | .send bytes => if c.closed then none else some (d, { c with unread := c.unread ++ bytes })
  | .close => if c.closed then none else some (d, { c with closed := true })
  | .read =>
    if c.ended || c.task.isSome then none
    else (readLine service.sep c.closed c.unread).map fun (line, rest) => (d, c.take service line rest)
  | .run =>
    match c.task with
    | some (.access change next) => some (change d, { c with task := some (next d) })
    | some .died => some (d, { c with task := none, ended := true })
    | _ => none
  | .reply delivered =>
    match c.task with
    | some (.done r) =>
      some (d, if delivered then
          { c with task := none, written := c.written ++ frame service.sep (service.encode r) }
        else { c with task := none, ended := true })
    | _ => none

def Server.step (s : Server D α R) : Event α → Option (Server D α R)
  | .accept => some { s with connections := s.connections ++ [Connection.fresh D α R] }
  | .move i m => do
    let (state, c) ← (← s.connections[i]?).step service s.state m
    some { state, connections := s.connections.set i c }

end Steps

/-! ### One connection of a run -/

def Move.bytes {α : Type} : Move α → List α
  | .send bytes => bytes
  | _ => []

def sent {α : Type} (moves : List (Move α)) : List α := moves.flatMap Move.bytes

/-- What happened on one connection. -/
def movesOn {α : Type} (i : Nat) (events : List (Event α)) : List (Move α) :=
  events.filterMap fun
    | .accept => none
    | .move j m => if j = i then some m else none

/-- The access of a connection in one step: the state it found and the one it left. -/
def Event.access {α D : Type} (i : Nat) (d d' : D) : Event α → List (D × D)
  | .move j .run => if j = i then [(d, d')] else []
  | _ => []

def Move.access {α D : Type} (d d' : D) : Move α → List (D × D)
  | .run => [(d, d')]
  | _ => []

/-- The accesses of a connection in a run. -/
def accesses {D α R : Type} [DecidableEq α] (service : Service D α R) (i : Nat) (s : Server D α R) :
    List (Event α) → List (D × D)
  | [] => []
  | e :: events =>
    match s.step service e with
    | some s' => e.access i s.state s'.state ++ accesses service i s' events
    | none => []

theorem sent_append {α : Type} (moves : List (Move α)) (m : Move α) :
    sent (moves ++ [m]) = sent moves ++ m.bytes := by
  simp [sent]

theorem movesOn_append {α : Type} (i : Nat) (events : List (Event α)) (e : Event α) :
    movesOn i (events ++ [e]) = movesOn i events ++ movesOn i [e] :=
  List.filterMap_append

section History
variable {D α R : Type} [DecidableEq α] {service : Service D α R}

/-- A connection after its moves and accesses, with anything done to the shared state in between. -/
inductive Connection.Runs (service : Service D α R) :
    List (Move α) → List (D × D) → Connection D α R → Prop
  | fresh : Runs service [] [] (Connection.fresh D α R)
  | step {moves : List (Move α)} {done : List (D × D)} {c c' : Connection D α R} {d d' : D} {m : Move α}
    (before : Runs service moves done c) (stepped : c.step service d m = some (d', c')) :
    Runs service (moves ++ [m]) (done ++ m.access d d') c'

theorem accesses_snoc {i : Nat} {s t t' : Server D α R} {events : List (Event α)} {e : Event α}
    (ran : Run (Server.step service) s events = some t) (stepped : t.step service e = some t') :
    accesses service i s (events ++ [e]) = accesses service i s events ++ e.access i t.state t'.state := by
  induction events generalizing s with
  | nil =>
    obtain rfl := Option.some.inj ran
    simp [accesses, stepped]
  | cons first events ih =>
    obtain ⟨next, begun, rest⟩ := Run.cons_some ran
    rw [List.cons_append, accesses, accesses, begun]
    dsimp only
    rw [ih rest, List.append_assoc]

/-- What holds of the events so far and the state, and is kept, holds after a run. -/
theorem run_history {S E : Type} {step : S → E → Option S} {I : List E → S → Prop} {s s' : S}
    (start : I [] s)
    (kept : ∀ past t e t', Run step s past = some t → I past t → step t e = some t' → I (past ++ [e]) t')
    {events : List E} (ran : Run step s events = some s') : I events s' := by
  induction events using List.reverseRecOn generalizing s' with
  | nil =>
    rw [← Option.some.inj ran]
    exact start
  | append_singleton events e ih =>
    rw [Run.append] at ran
    obtain ⟨t, before, last⟩ := Option.bind_eq_some_iff.mp ran
    obtain ⟨t', stepped, same⟩ := Run.cons_some last
    rw [← Option.some.inj same]
    exact kept events t e t' before (ih before) stepped

/-- Each connection did what the events say on it, and nothing was done on one that is not there. -/
def Tracked (service : Service D α R) (s₀ : Server D α R) (events : List (Event α)) (s : Server D α R) :
    Prop :=
  (∀ (i : Nat) (c : Connection D α R), s.connections[i]? = some c →
      c.Runs service (movesOn i events) (accesses service i s₀ events)) ∧
    ∀ i, s.connections.length ≤ i → movesOn i events = [] ∧ accesses service i s₀ events = []

theorem Tracked.step {events : List (Event α)} {s₀ s s' : Server D α R} {e : Event α}
    (ran : Run (Server.step service) s₀ events = some s) (tracked : Tracked service s₀ events s)
    (stepped : s.step service e = some s') : Tracked service s₀ (events ++ [e]) s' := by
  obtain ⟨runs, outside⟩ := tracked
  cases e with
  | accept =>
    have same : ∀ i, movesOn i (events ++ [Event.accept]) = movesOn i events := by
      intro i
      rw [movesOn_append]
      exact List.append_nil _
    have done : ∀ i, accesses service i s₀ (events ++ [Event.accept]) = accesses service i s₀ events := by
      intro i
      rw [accesses_snoc ran stepped]
      exact List.append_nil _
    obtain rfl := Option.some.inj stepped
    refine ⟨fun i c found => ?_, fun i beyond => ?_⟩
    · rw [same, done]
      rcases Nat.lt_or_ge i s.connections.length with inside | beyond
      · rw [List.getElem?_append_left inside] at found
        exact runs i c found
      · rw [List.getElem?_append_right beyond, List.getElem?_singleton] at found
        split at found
        · obtain ⟨unmoved, unaccessed⟩ := outside i beyond
          rw [unmoved, unaccessed, ← Option.some.inj found]
          exact .fresh
        · cases found
    · rw [same, done]
      exact outside i (by rw [List.length_append] at beyond; omega)
  | move j m =>
    have done : ∀ i, accesses service i s₀ (events ++ [Event.move j m]) =
        accesses service i s₀ events ++ (Event.move j m).access i s.state s'.state :=
      fun i => accesses_snoc ran stepped
    obtain ⟨c, found, stepped⟩ := Option.bind_eq_some_iff.mp stepped
    obtain ⟨⟨d', c'⟩, moved, same⟩ := Option.bind_eq_some_iff.mp stepped
    obtain rfl := Option.some.inj same
    obtain ⟨inside, _⟩ := List.getElem?_eq_some_iff.mp found
    have elsewhere : ∀ i, j ≠ i → movesOn i (events ++ [Event.move j m]) = movesOn i events ∧
        accesses service i s₀ (events ++ [Event.move j m]) = accesses service i s₀ events := by
      intro i other
      rw [movesOn_append, done]
      cases m <;> simp [movesOn, Event.access, other]
    refine ⟨fun i c'' found' => ?_, fun i beyond => ?_⟩
    · by_cases here : j = i
      · subst here
        rw [List.getElem?_set_self inside] at found'
        rw [← Option.some.inj found']
        have only : movesOn j [Event.move j m] = [m] := by simp [movesOn]
        have its : (Event.move j m).access j s.state d' = m.access s.state d' := by
          cases m <;> simp [Event.access, Move.access]
        rw [movesOn_append, only, done, its]
        exact (runs j c found).step moved
      · rw [List.getElem?_set_ne here] at found'
        rw [(elsewhere i here).1, (elsewhere i here).2]
        exact runs i c'' found'
    · rw [List.length_set] at beyond
      have other : j ≠ i := by omega
      rw [(elsewhere i other).1, (elsewhere i other).2]
      exact outside i beyond

theorem tracked_run {d : D} {s : Server D α R} {events : List (Event α)}
    (ran : Run (Server.step service) ⟨d, []⟩ events = some s) : Tracked service ⟨d, []⟩ events s :=
  run_history ⟨fun _ _ found => (by cases found), fun _ _ => ⟨rfl, rfl⟩⟩
    (fun _ _ _ _ before tracked stepped => tracked.step before stepped) ran

/-- Each connection of a server goes its own way, whatever happens on the others. -/
theorem connection_runs {d : D} {s : Server D α R} {events : List (Event α)}
    (ran : Run (Server.step service) ⟨d, []⟩ events = some s) {i : Nat} {c : Connection D α R}
    (found : s.connections[i]? = some c) :
    c.Runs service (movesOn i events) (accesses service i ⟨d, []⟩ events) :=
  (tracked_run ran).1 i c found

theorem moved_connection {d : D} {s : Server D α R} {events : List (Event α)}
    (ran : Run (Server.step service) ⟨d, []⟩ events = some s) {i : Nat} {m : Move α}
    (moved : m ∈ movesOn i events) : ∃ c, s.connections[i]? = some c := by
  rcases Nat.lt_or_ge i s.connections.length with inside | beyond
  · exact ⟨_, List.getElem?_eq_getElem inside⟩
  · rw [((tracked_run ran).2 i beyond).1] at moved
    cases moved

/-! ### What is asked and answered on a connection -/

def asks (service : Service D α R) (line : List α) : Option (Task D R) :=
  match service.understand line with
  | .task t => some t
  | _ => none

def requests (service : Service D α R) (lines : List (List α)) : List (List α) :=
  lines.filter fun line => (asks service line).isSome

/-- The answer to a line is what its task returned over some of the accesses. -/
def Answers (service : Service D α R) (done : List (D × D)) (line : List α) (r : R) : Prop :=
  ∃ t along, asks service line = some t ∧ along.Sublist done ∧ t.Returns along r

/-- All that was sent is read line by line, each request is answered with what it returned before
the next line is read, and at most the last one has no answer. -/
structure Conversation (service : Service D α R) (moves : List (Move α)) (done : List (D × D))
    (c : Connection D α R) (taken : List (List α)) (answered : List (List α × R)) : Prop where
  whole : taken.flatten ++ c.unread = sent moves
  cut : lines service.sep (sent moves) = taken ++ lines service.sep c.unread
  complete : c.closed = false → ∀ line ∈ taken, Complete service.sep line
  written : c.written = (answered.map fun pair => service.encode pair.2).flatMap (frame service.sep)
  returned : ∀ pair ∈ answered, Answers service done pair.1 pair.2
  asked : ∃ pending : Option (List α),
    requests service taken = answered.map Prod.fst ++ pending.toList ∧
      (∀ t, c.task = some t → ∃ line t₀ along, pending = some line ∧ asks service line = some t₀ ∧
        along.Sublist done ∧ t₀.Reaches along t) ∧
      (c.task = none → c.ended = false → pending = none)
  ran : Move.run ∈ moves → ∃ line ∈ taken, ∃ t, asks service line = some t ∧ ¬ t.Settled

theorem Conversation.start :
    Conversation service [] [] (Connection.fresh D α R) [] [] where
  whole := rfl
  cut := rfl
  complete := fun _ line member => nomatch member
  written := rfl
  returned := fun pair member => nomatch member
  asked := ⟨none, rfl, fun t busy => (by cases busy), fun _ _ => rfl⟩
  ran := fun member => nomatch member

variable {moves : List (Move α)} {done : List (D × D)} {c c' : Connection D α R} {taken : List (List α)}
  {answered : List (List α × R)} {d d' : D}

omit [DecidableEq α] in
theorem requests_snoc_none {line : List α} (none_asked : asks service line = none)
    (taken : List (List α)) :
    requests service (taken ++ [line]) = requests service taken := by
  rw [requests, List.filter_append, List.filter_singleton, none_asked]
  exact List.append_nil _

omit [DecidableEq α] in
theorem requests_snoc_some {line : List α} {t : Task D R} (some_asked : asks service line = some t)
    (taken : List (List α)) :
    requests service (taken ++ [line]) = requests service taken ++ [line] := by
  rw [requests, List.filter_append, List.filter_singleton, some_asked]
  rfl

theorem Conversation.send (talk : Conversation service moves done c taken answered) {bytes : List α}
    (stepped : c.step service d (.send bytes) = some (d', c')) :
    Conversation service (moves ++ [.send bytes]) done c' taken answered := by
  obtain ⟨still, same⟩ := Option.ite_none_left_eq_some.mp stepped
  obtain ⟨rfl, rfl⟩ := Prod.mk.inj (Option.some.inj same)
  have complete := talk.complete (Bool.eq_false_iff.mpr still)
  have whole : taken.flatten ++ (c.unread ++ bytes) = sent (moves ++ [.send bytes]) := by
    rw [sent_append, ← talk.whole, List.append_assoc]
    rfl
  refine { talk with whole, cut := ?_, ran := ?_ }
  · rw [← whole]
    exact lines_append complete _
  · intro member
    rcases List.mem_append.mp member with earlier | now
    · exact talk.ran earlier
    · cases List.mem_singleton.mp now

/-- A move that sends nothing changes nothing of what was sent, and what was asked stays asked. -/
theorem Conversation.silent (talk : Conversation service moves done c taken answered) {m : Move α}
    (silent : m.bytes = []) (idle : m ≠ .run) :
    Conversation service (moves ++ [m]) done c taken answered := by
  have nothing : sent (moves ++ [m]) = sent moves := by
    rw [sent_append, silent]
    exact List.append_nil _
  refine { talk with
    whole := by rw [nothing]; exact talk.whole
    cut := by rw [nothing]; exact talk.cut
    ran := fun member => ?_ }
  rcases List.mem_append.mp member with earlier | now
  · exact talk.ran earlier
  · exact absurd (List.mem_singleton.mp now).symm idle

theorem Conversation.close (talk : Conversation service moves done c taken answered)
    (stepped : c.step service d .close = some (d', c')) :
    Conversation service (moves ++ [.close]) done c' taken answered := by
  obtain ⟨still, same⟩ := Option.ite_none_left_eq_some.mp stepped
  obtain ⟨rfl, rfl⟩ := Prod.mk.inj (Option.some.inj same)
  exact { talk.silent (m := .close) rfl (fun same => by cases same) with
    complete := fun closed => (by cases closed) }

theorem Conversation.read (talk : Conversation service moves done c taken answered)
    (stepped : c.step service d .read = some (d', c')) :
    ∃ taken', Conversation service (moves ++ [.read]) done c' taken' answered := by
  obtain ⟨ready, took⟩ := Option.ite_none_left_eq_some.mp stepped
  obtain ⟨⟨line, rest⟩, got, same⟩ := Option.map_eq_some_iff.mp took
  obtain ⟨rfl, rfl⟩ := Prod.mk.inj same
  rw [Bool.or_eq_true, not_or, Bool.not_eq_true, Bool.not_eq_true, Option.isSome_eq_false_iff,
    Option.isNone_iff_eq_none] at ready
  obtain ⟨going, idle⟩ := ready
  have talk := talk.silent (m := .read) rfl (fun same => by cases same)
  obtain ⟨pending, asked, busy, quiet⟩ := talk.asked
  obtain rfl := quiet idle going
  by_cases empty : line = []
  · refine ⟨taken, ?_⟩
    rw [Connection.take, if_pos empty]
    exact { talk with asked := ⟨none, asked, busy, fun _ _ => rfl⟩ }
  obtain ⟨unread, first⟩ := readLine_lines got
  have cut : lines service.sep c.unread = line :: lines service.sep rest := by
    rcases first with cut | ⟨_, _, nothing⟩
    · exact cut
    · exact absurd nothing empty
  have whole : (taken ++ [line]).flatten ++ rest = sent (moves ++ [.read]) := by
    rw [← talk.whole, unread]
    simp
  have lines_cut : lines service.sep (sent (moves ++ [.read])) =
      (taken ++ [line]) ++ lines service.sep rest := by
    rw [talk.cut, cut, List.append_assoc]
    rfl
  have complete : c.closed = false → ∀ l ∈ taken ++ [line], Complete service.sep l := by
    intro still l member
    rcases List.mem_append.mp member with earlier | now
    · exact talk.complete still l earlier
    · rw [List.mem_singleton.mp now]
      exact (readLine_open still got).1
  have ran : Move.run ∈ moves ++ [.read] →
      ∃ l ∈ taken ++ [line], ∃ t, asks service l = some t ∧ ¬ t.Settled := by
    intro member
    obtain ⟨l, inside, unsettled⟩ := talk.ran member
    exact ⟨l, List.mem_append_left _ inside, unsettled⟩
  refine ⟨taken ++ [line], ?_⟩
  rw [Connection.take, if_neg empty]
  cases understood : service.understand line with
  | blank =>
    have nothing : asks service line = none := by rw [asks, understood]
    have asked := (requests_snoc_none nothing taken).trans asked
    exact { talk with whole, cut := lines_cut, complete, ran, asked := ⟨none, asked, busy, fun _ _ => rfl⟩ }
  | broken =>
    have nothing : asks service line = none := by rw [asks, understood]
    have asked := (requests_snoc_none nothing taken).trans asked
    exact { talk with whole, cut := lines_cut, complete, ran, asked := ⟨none, asked, busy, fun _ _ => rfl⟩ }
  | task t =>
    have task : asks service line = some t := by rw [asks, understood]
    refine { talk with whole, cut := lines_cut, complete, ran, asked := ⟨some line, ?_, ?_, ?_⟩ }
    · rw [requests_snoc_some task, asked]
      simp
    · intro t' running
      exact ⟨line, t, [], rfl, task, List.nil_sublist _, by rw [Option.some.inj running]; exact .refl _⟩
    · intro idle
      cases idle

theorem Conversation.run (talk : Conversation service moves done c taken answered)
    (stepped : c.step service d .run = some (d', c')) :
    Conversation service (moves ++ [.run]) (done ++ [(d, d')]) c' taken answered := by
  obtain ⟨pending, asked, busy, quiet⟩ := talk.asked
  have nothing : sent (moves ++ [.run]) = sent moves := by
    rw [sent_append]
    exact List.append_nil _
  have whole : taken.flatten ++ c.unread = sent (moves ++ [.run]) := by rw [nothing]; exact talk.whole
  have cut : lines service.sep (sent (moves ++ [.run])) = taken ++ lines service.sep c.unread := by
    rw [nothing]
    exact talk.cut
  have unsettled : ∀ t, c.task = some t → ¬ t.Settled →
      ∃ line ∈ taken, ∃ t₀, asks service line = some t₀ ∧ ¬ t₀.Settled := by
    intro t running unsettled
    obtain ⟨line, t₀, along, rfl, task, _, reached⟩ := busy t running
    have inside : line ∈ requests service taken := by
      rw [asked]
      exact List.mem_append_right _ List.mem_cons_self
    refine ⟨line, (List.mem_filter.mp inside).1, t₀, task, fun settled => unsettled ?_⟩
    rw [settled.reaches reached]
    exact settled
  have returned : ∀ pair ∈ answered, Answers service (done ++ [(d, d')]) pair.1 pair.2 := by
    intro pair member
    obtain ⟨t, along, task, among, last⟩ := talk.returned pair member
    exact ⟨t, along, task, among.trans (List.sublist_append_left _ _), last⟩
  simp only [Connection.step] at stepped
  split at stepped
  case h_1 change next running =>
    obtain ⟨rfl, rfl⟩ := Prod.mk.inj (Option.some.inj stepped)
    refine { talk with
      whole, cut, returned, asked := ⟨pending, asked, ?_, ?_⟩, ran := fun _ => unsettled _ running id }
    · intro t current
      obtain ⟨line, t₀, along, same, task, among, reached⟩ := busy _ running
      exact ⟨line, t₀, _, same, task, among.append (List.Sublist.refl _),
        by rw [← Option.some.inj current]; exact reached.next _⟩
    · intro idle
      cases idle
  case h_2 running =>
    obtain ⟨rfl, rfl⟩ := Prod.mk.inj (Option.some.inj stepped)
    refine { talk with
      whole, cut, returned, asked := ⟨pending, asked, ?_, ?_⟩, ran := fun _ => unsettled _ running id }
    · intro t current
      cases current
    · intro _ going
      cases going
  case h_3 => cases stepped

theorem Conversation.reply (talk : Conversation service moves done c taken answered) {delivered : Bool}
    (stepped : c.step service d (.reply delivered) = some (d', c')) :
    ∃ answered', Conversation service (moves ++ [.reply delivered]) done c' taken answered' := by
  have talk := talk.silent (m := .reply delivered) rfl (fun same => by cases same)
  obtain ⟨pending, asked, busy, quiet⟩ := talk.asked
  simp only [Connection.step] at stepped
  split at stepped
  case h_2 => cases stepped
  case h_1 r running =>
    obtain ⟨line, t₀, along, rfl, task, among, reached⟩ := busy _ running
    cases delivered with
    | true =>
      obtain ⟨rfl, rfl⟩ := Prod.mk.inj (Option.some.inj stepped)
      refine ⟨answered ++ [(line, r)],
        { talk with written := ?_, returned := ?_, asked := ⟨none, ?_, ?_, ?_⟩ }⟩
      · show c.written ++ frame service.sep (service.encode r) = _
        rw [talk.written]
        simp
      · intro pair member
        rcases List.mem_append.mp member with earlier | now
        · exact talk.returned pair earlier
        · rw [List.mem_singleton.mp now]
          exact ⟨t₀, along, task, among, reached⟩
      · rw [asked]
        simp
      · intro t current
        cases current
      · intro _ _
        rfl
    | false =>
      obtain ⟨rfl, rfl⟩ := Prod.mk.inj (Option.some.inj stepped)
      refine ⟨answered, { talk with asked := ⟨some line, asked, ?_, ?_⟩ }⟩
      · intro t current
        cases current
      · intro _ going
        cases going

theorem Conversation.step {m : Move α} (talk : Conversation service moves done c taken answered)
    (stepped : c.step service d m = some (d', c')) :
    ∃ taken' answered', Conversation service (moves ++ [m]) (done ++ m.access d d') c' taken' answered' := by
  cases m with
  | run => exact ⟨taken, answered, talk.run stepped⟩
  | send bytes =>
    simp only [Move.access, List.append_nil]
    exact ⟨taken, answered, talk.send stepped⟩
  | close =>
    simp only [Move.access, List.append_nil]
    exact ⟨taken, answered, talk.close stepped⟩
  | read =>
    obtain ⟨taken', talk'⟩ := talk.read stepped
    simp only [Move.access, List.append_nil]
    exact ⟨taken', answered, talk'⟩
  | reply delivered =>
    obtain ⟨answered', talk'⟩ := talk.reply stepped
    simp only [Move.access, List.append_nil]
    exact ⟨taken, answered', talk'⟩

theorem Connection.Runs.conversation (runs : c.Runs service moves done) :
    ∃ taken answered, Conversation service moves done c taken answered := by
  induction runs with
  | fresh => exact ⟨[], [], .start⟩
  | step before stepped ih =>
    obtain ⟨taken, answered, talk⟩ := ih
    exact talk.step stepped

/-! ### What the client sees -/

/-- The answers go to the first requests that were sent, in order. -/
theorem Conversation.requests_sent (talk : Conversation service moves done c taken answered) :
    answered.map Prod.fst <+: requests service (lines service.sep (sent moves)) := by
  obtain ⟨pending, asked, _⟩ := talk.asked
  rw [talk.cut, requests, List.filter_append]
  refine List.IsPrefix.trans ?_ (List.prefix_append _ _)
  rw [← requests, asked]
  exact List.prefix_append _ _

/-- The answers are read back one by one when no answer has a separator in it. -/
theorem Conversation.lines_written (talk : Conversation service moves done c taken answered)
    (free : ∀ pair ∈ answered, service.sep ∉ service.encode pair.2) :
    lines service.sep c.written =
      answered.map fun pair => frame service.sep (service.encode pair.2) := by
  rw [talk.written, lines_frames, List.map_map]
  · rfl
  · intro message member
    obtain ⟨pair, inside, rfl⟩ := List.mem_map.mp member
    exact free pair inside

/-- The loop has nothing to do. -/
def Connection.Quiet (service : Service D α R) (c : Connection D α R) (d : D) : Prop :=
  c.step service d .read = none ∧ c.step service d .run = none ∧ ∀ b, c.step service d (.reply b) = none

/-- A loop that has nothing to do and has not ended has answered every line that is complete. -/
theorem Conversation.answered_all (talk : Conversation service moves done c taken answered)
    (going : c.ended = false) (quiet : c.Quiet service d) :
    service.sep ∉ c.unread ∧ requests service taken = answered.map Prod.fst := by
  obtain ⟨waits, unrun, unsaid⟩ := quiet
  have idle : c.task = none := by
    cases running : c.task with
    | none => rfl
    | some t =>
      cases t with
      | done r => simpa [Connection.step, running] using unsaid true
      | died => simp [Connection.step, running] at unrun
      | access change next => simp [Connection.step, running] at unrun
  simp only [Connection.step, going, idle, Option.isSome_none, Bool.or_self, Bool.false_eq_true,
    if_false, Option.map_eq_none_iff] at waits
  obtain ⟨_, free⟩ := readLine_none.mp waits
  obtain ⟨pending, asked, _, quiet⟩ := talk.asked
  obtain rfl := quiet idle going
  exact ⟨free, by rw [asked]; exact List.append_nil _⟩

/-- Lines that ask for nothing of the shared state run nothing on it. -/
theorem Conversation.no_run (talk : Conversation service moves done c taken answered)
    (settled : ∀ line ∈ lines service.sep (sent moves), ∀ t, asks service line = some t →
    t.Settled) :
    Move.run ∉ moves := by
  intro member
  obtain ⟨line, inside, t, task, unsettled⟩ := talk.ran member
  refine unsettled (settled line ?_ t task)
  rw [talk.cut]
  exact List.mem_append_left _ inside

theorem Connection.step_state {m : Move α} (stepped : c.step service d m = some (d', c'))
    (idle : m ≠ .run) :
    d' = d := by
  cases m with
  | send bytes =>
    obtain ⟨_, same⟩ := Option.ite_none_left_eq_some.mp stepped
    exact (Prod.mk.inj (Option.some.inj same)).1.symm
  | close =>
    obtain ⟨_, same⟩ := Option.ite_none_left_eq_some.mp stepped
    exact (Prod.mk.inj (Option.some.inj same)).1.symm
  | read =>
    obtain ⟨_, took⟩ := Option.ite_none_left_eq_some.mp stepped
    obtain ⟨_, _, same⟩ := Option.map_eq_some_iff.mp took
    exact (Prod.mk.inj same).1.symm
  | run => exact absurd rfl idle
  | reply delivered =>
    simp only [Connection.step] at stepped
    split at stepped
    · exact (Prod.mk.inj (Option.some.inj stepped)).1.symm
    · cases stepped

/-- Only the tasks change the shared state. -/
theorem state_kept {s s' : Server D α R} {events : List (Event α)}
    (ran : Run (Server.step service) s events = some s') (idle : ∀ i, Event.move i .run ∉ events) :
    s'.state = s.state := by
  suffices step : ∀ (t : Server D α R) e t', t.state = s.state → (∀ i, e ≠ Event.move i .run) →
      t.step service e = some t' → t'.state = s.state by
    exact Run.preserves step rfl (fun e member i same => idle i (same ▸ member)) ran
  intro t e t' kept allowed stepped
  cases e with
  | accept =>
    obtain rfl := Option.some.inj stepped
    exact kept
  | move j m =>
    obtain ⟨c, _, stepped⟩ := Option.bind_eq_some_iff.mp stepped
    obtain ⟨⟨d', c'⟩, moved, same⟩ := Option.bind_eq_some_iff.mp stepped
    obtain rfl := Option.some.inj same
    exact (Connection.step_state moved fun same => allowed j (by rw [same])).trans kept

/-! ### A client alone -/

omit [DecidableEq α] in
theorem sent_movesOn_append (i : Nat) (before after : List (Event α)) :
    sent (movesOn i (before ++ after)) = sent (movesOn i before) ++ sent (movesOn i after) := by
  rw [movesOn, List.filterMap_append, sent, List.flatMap_append]
  rfl

/-- A task that nothing happens beside runs as it does alone. -/
theorem run_alone (service : Service D α R) {t : Task D R} {r : R} (ran : t.exec d = (some r, d'))
    (c : Connection D α R) :
    ∃ n, Run (Server.step service) ⟨d, [{ c with task := some t }]⟩ (List.replicate n (.move 0 .run)) =
      some ⟨d', [{ c with task := some (.done r) }]⟩ := by
  induction t generalizing d with
  | done a =>
    obtain ⟨same, rfl⟩ := Prod.mk.inj ran
    exact ⟨0, by rw [Option.some.inj same]; rfl⟩
  | died => cases (Prod.mk.inj ran).1
  | access change next ih =>
    obtain ⟨n, rest⟩ := ih d ran
    exact ⟨n + 1, Run.cons rfl rest⟩

/-- A client that sends one request and is alone gets its answer. -/
theorem answered_alone {line : List α} (complete : Complete service.sep line) {t : Task D R}
    (asked : asks service line = some t) {r : R} (ran : t.exec d = (some r, d')) :
    ∃ events, sent (movesOn 0 events) = line ∧ Run (Server.step service) ⟨d, []⟩ events =
      some ⟨d', [⟨[], false, none, frame service.sep (service.encode r), false⟩]⟩ := by
  have understood : service.understand line = .task t := by
    unfold asks at asked
    split at asked
    · rename_i same
      rw [same, Option.some.inj asked]
    · cases asked
  have taken : readLine service.sep false line = some (line, []) := by
    obtain ⟨message, free, rfl⟩ := complete
    have front := cut_frame free []
    rw [List.append_nil] at front
    rw [readLine, front]
  have nonempty : line ≠ [] := by
    obtain ⟨message, _, rfl⟩ := complete
    exact List.append_ne_nil_of_right_ne_nil _ (List.cons_ne_nil _ _)
  obtain ⟨n, running⟩ := run_alone service ran (Connection.fresh D α R)
  refine ⟨[.accept, .move 0 (.send line), .move 0 .read] ++
    List.replicate n (.move 0 .run) ++ [.move 0 (.reply true)],
    ?_, ?_⟩
  · have silent : ∀ n, sent (movesOn 0 (List.replicate n (Event.move 0 (Move.run (α := α))))) =
        [] := by
      intro n
      induction n with
      | zero => rfl
      | succ n ih => exact ih
    rw [sent_movesOn_append, sent_movesOn_append, silent]
    simp [sent, movesOn, Move.bytes]
  · have read : Run (Server.step service) ⟨d, []⟩ [.accept, .move 0 (.send line), .move 0 .read] =
        some ⟨d, [{ Connection.fresh D α R with task := some t }]⟩ := by
      refine Run.cons rfl (Run.cons rfl (Run.cons ?_ rfl))
      show (((readLine service.sep false line).map _).bind _) = _
      rw [taken, Option.map_some]
      dsimp only
      rw [Connection.take, if_neg nonempty, understood]
      rfl
    rw [Run.append, Run.append, read, Option.bind_some, running, Option.bind_some]
    rfl

end History
end GrokingClawId.LineServer
