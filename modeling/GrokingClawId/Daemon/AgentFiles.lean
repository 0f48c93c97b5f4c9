import GrokingClawId.Lib.FileTree
import GrokingClawId.Lib.Json
import GrokingClawId.Daemon.Host

/-!
# Directories of the agents

Where the files of an agent lie and what `delete_agent` removes. A name is joined to the directory of
the agents as it is, so it may lead anywhere.
-/

namespace GrokingClawId.Daemon
open GrokingClawId.Core

/-- `agents_dir.join(name)`, of the supervisor and of the daemon. -/
def agentDir (root : List String) (name : String) : List String :=
  Path.join (root ++ ["agents"]) name

def agentDirText (root : List String) (name : String) : String :=
  if name.toList.head? = some '/' then name
  else "/" ++ "/".intercalate (root ++ ["agents"]) ++ "/" ++ name

/-- The text of the path to the directory ends in a name, with or without separators after it. -/
def endsPlain (name : String) : Bool :=
  match (Path.segments name).getLast? with
  | some last => last ≠ ".." && last ≠ "."
  | none => name.toList.head? ≠ some '/'

/-- How `remove_dir_all` may end early: its error, and locations that it has not come to. -/
structure Cut where
  e : String
  left : List Location

/-- The directory itself stays when its path does not end in a name. -/
def removeDirAll (tree : FileTree) (path : List String) (plain : Bool) (cut : Option Cut) :
    Except String Unit × FileTree :=
  match tree.walk [] path with
  | none => (.error "No such file or directory", tree)
  | some dir =>
    if !tree.isDir dir then (.error "Not a directory", tree)
    else
      match cut with
      | some cut => (.error cut.e, tree.clear dir cut.left)
      | none =>
        if proper : plain = true ∧ dir ≠ [] then (.ok (), tree.prune dir proper.2)
        else (.error "Invalid argument", tree.clear dir [])

/-- `delete_agent` of the supervisor, whose agents are stopped and taken out by the host. -/
def deleteAgent (root : List String) (host : Host) (name : String) (tree : FileTree)
    (cut : Option Cut) :
    Except String Unit × Host × FileTree :=
  let path := agentDir root name
  if tree.exists path then
    let (files, tree) := removeDirAll tree path (endsPlain name) cut
    let (result, host) := host.deleteAgent name (files.mapError fun _ =>
      s!"Failed to delete agent directory: {agentDirText root name}")
    (result, host, tree)
  else
    let (result, host) := host.deleteAgent name (.ok ())
    (result, host, tree)

/-- The name in the parameters of `agents.delete`. -/
def nameParam (params : Json) : String := ((params.get "name").bind Json.asStr).getD ""

/-! ### What a deletion touches -/

/-- The deletion takes something away. -/
def Removes (root : List String) (name : String) (tree : FileTree) (dir : Location) : Prop :=
  FileTree.legal (agentDir root name) = true ∧ tree.walk [] (agentDir root name) = some dir ∧
    tree.node dir = some .dir ∧
    ((endsPlain name = true ∧ dir ≠ []) ∨ ∃ below, tree.node (dir ++ [below]) ≠ none)

/-- What a deletion may touch: the directory of the agent of the name and of no other. -/
structure Confined (root : List String) (supervisor : Supervisor) (name : String)
    (tree tree' : FileTree) :
    Prop where
  own : ∀ loc, tree'.node loc ≠ tree.node loc →
    name ∈ supervisor ∧ ∃ dir, tree.walk [] (agentDir root name) = some dir ∧ dir <+: loc
  others : ∀ other ∈ supervisor, other ≠ name → ∀ dir, tree.walk [] (agentDir root other) = some dir →
    ∀ loc, dir <+: loc → tree'.node loc = tree.node loc

/-- The directory is that of an agent, and no other agent's directory is around or inside it. -/
def Apart (root : List String) (supervisor : Supervisor) (name : String) (tree : FileTree)
    (dir : Location) :
    Prop :=
  name ∈ supervisor ∧ ∀ other ∈ supervisor, other ≠ name → ∀ dir',
    tree.walk [] (agentDir root other) = some dir' →
    ¬ dir' <+: dir ∧ (dir <+: dir' → tree.node dir' = none)

theorem deleteAgent_tree (root : List String) (host : Host) (name : String) (tree : FileTree)
    (cut : Option Cut) :
    (deleteAgent root host name tree cut).2.2 = tree ∨
      ∃ dir, FileTree.legal (agentDir root name) = true ∧
        tree.walk [] (agentDir root name) = some dir ∧
        tree.node dir = some .dir ∧
        ((∃ left, (deleteAgent root host name tree cut).2.2 = tree.clear dir left) ∨
          endsPlain name = true ∧
          ∃ proper, (deleteAgent root host name tree cut).2.2 = tree.prune dir proper) := by
  unfold deleteAgent
  dsimp only
  split
  · rename_i present
    obtain ⟨legal, dir, walked, _⟩ := FileTree.exists_iff.mp present
    unfold removeDirAll
    rw [walked]
    dsimp only
    cases isDir : tree.isDir dir with
    | false => exact .inl rfl
    | true =>
      refine .inr ⟨dir, legal, rfl, FileTree.isDir_iff.mp isDir, ?_⟩
      cases cut with
      | some cut => exact .inl ⟨cut.left, rfl⟩
      | none =>
        by_cases proper : endsPlain name = true ∧ dir ≠ []
        · refine .inr ⟨proper.1, proper.2, ?_⟩
          simp [proper]
        · refine .inl ⟨[], ?_⟩
          simp [proper]
  · exact .inl rfl

theorem deleteAgent_changed {root : List String} {host : Host} {name : String} {tree : FileTree}
    {cut : Option Cut} {loc : Location}
    (changed : (deleteAgent root host name tree cut).2.2.node loc ≠ tree.node loc) :
    ∃ dir, Removes root name tree dir ∧ dir <+: loc ∧ tree.node loc ≠ none := by
  rcases deleteAgent_tree root host name tree cut with
    same | ⟨dir, legal, walked, isDir, ⟨left, cleared⟩ | pruned⟩
  · rw [same] at changed
    exact absurd rfl changed
  · rw [cleared, FileTree.node_clear] at changed
    split at changed
    · rename_i gone
      obtain ⟨⟨below, rfl⟩, different, _⟩ := gone
      have present := changed.symm
      cases below with
      | nil => exact absurd (List.append_nil _) different
      | cons first below =>
        refine ⟨dir, ⟨legal, walked, isDir, .inr ⟨first, ?_⟩⟩, List.prefix_append _ _, present⟩
        by_cases deeper : below = []
        · rw [deeper] at present
          exact present
        · rw [← List.singleton_append, ← List.append_assoc] at present
          rw [FileTree.above present deeper]
          exact Option.some_ne_none _
    · exact absurd rfl changed
  · obtain ⟨plain, proper, pruned⟩ := pruned
    rw [pruned, FileTree.node_prune] at changed
    split at changed
    · rename_i below
      exact ⟨dir, ⟨legal, walked, isDir, .inl ⟨plain, proper⟩⟩, below, changed.symm⟩
    · exact absurd rfl changed

/-- A deletion that is not cut short. -/
theorem deleteAgent_removes {root : List String} (host : Host) {name : String} {tree : FileTree}
    {dir : Location} (removes : Removes root name tree dir) :
    (∃ loc, dir <+: loc ∧ (deleteAgent root host name tree none).2.2.node loc ≠ tree.node loc) ∧
      ∀ loc, dir <+: loc → loc ≠ dir →
        (deleteAgent root host name tree none).2.2.node loc = none := by
  obtain ⟨legal, walked, isDir, something⟩ := removes
  have present : tree.exists (agentDir root name) = true :=
    FileTree.exists_iff.mpr ⟨legal, dir, walked, by rw [isDir]; exact Option.some_ne_none _⟩
  by_cases proper : endsPlain name = true ∧ dir ≠ []
  · have after : (deleteAgent root host name tree none).2.2 = tree.prune dir proper.2 := by
      simp [deleteAgent, present, removeDirAll, walked, FileTree.isDir_iff.mpr isDir, proper]
    rw [after]
    refine ⟨⟨dir, List.prefix_refl _, ?_⟩, fun loc below _ => if_pos below⟩
    rw [FileTree.node_prune, if_pos (List.prefix_refl _), isDir]
    exact (Option.some_ne_none _).symm
  · have after : (deleteAgent root host name tree none).2.2 = tree.clear dir [] := by
      simp [deleteAgent, present, removeDirAll, walked, FileTree.isDir_iff.mpr isDir, proper]
    rw [after]
    have gone : ∀ loc, dir <+: loc → loc ≠ dir → (tree.clear dir []).node loc = none := by
      intro loc below different
      exact if_pos ⟨below, different, by simp⟩
    refine ⟨?_, gone⟩
    obtain ⟨below, exists_⟩ := something.resolve_left proper
    refine ⟨dir ++ [below], List.prefix_append _ _, ?_⟩
    rw [gone _ (List.prefix_append _ _) (by simp)]
    exact exists_.symm

/-- A deletion touches only the agent of the name exactly when there is nothing to remove or the
directory is that of an agent and of no other. -/
theorem deleteAgent_confined_iff (root : List String) (host : Host) (name : String)
    (tree : FileTree) :
    (∀ cut, Confined root host.supervisor name tree (deleteAgent root host name tree cut).2.2) ↔
      ∀ dir, Removes root name tree dir → Apart root host.supervisor name tree dir := by
  constructor
  · intro confined dir removes
    obtain ⟨own, others⟩ := confined none
    obtain ⟨⟨loc, below, changed⟩, gone⟩ := deleteAgent_removes host removes
    refine ⟨(own loc changed).1, fun other member different dir' walked => ?_⟩
    have apart : ¬ dir' <+: dir := fun above =>
      changed (others other member different dir' walked loc (above.trans below))
    refine ⟨apart, fun inside => ?_⟩
    rw [← others other member different dir' walked dir' (List.prefix_refl _)]
    refine gone dir' inside ?_
    rintro rfl
    exact apart (List.prefix_refl _)
  · intro apart cut
    constructor
    · intro loc changed
      obtain ⟨dir, removes, below, _⟩ := deleteAgent_changed changed
      exact ⟨(apart dir removes).1, dir, removes.2.1, below⟩
    · intro other member different dir' walked loc above
      by_contra changed
      obtain ⟨dir, removes, below, present⟩ := deleteAgent_changed changed
      obtain ⟨around, inside⟩ := (apart dir removes).2 other member different dir' walked
      rcases List.prefix_or_prefix_of_prefix above below with outer | inner
      · exact around outer
      · obtain ⟨rest, rfl⟩ := above
        have missing := inside inner
        by_cases here : rest = []
        · rw [here, List.append_nil] at present
          exact present missing
        · rw [FileTree.above present here] at missing
          cases missing

namespace StandIn

def bareTree : FileTree where
  node loc := if loc = [] then some .dir else none
  root := rfl
  parents loc name present := by
    rw [if_neg (by simp)] at present
    exact absurd rfl present

/-- `/agents/scout`. -/
def scoutTree : FileTree :=
  (bareTree.put [] "agents" .dir rfl (by decide)).put ["agents"] "scout" .dir (by decide) (by decide)

def scoutHost : Host := Host.empty.register (config "scout")

end StandIn

/-- A deletion without a name takes the directory of every agent. -/
theorem deleteAgent_nameless : ¬ ∀ (root : List String) (host : Host) (params : Json)
    (tree : FileTree) (cut : Option Cut), Confined root host.supervisor (nameParam params) tree
      (deleteAgent root host (nameParam params) tree cut).2.2 := by
  intro confined
  have others := (confined [] StandIn.scoutHost (.obj []) StandIn.scoutTree none).others
  have kept := others "scout" (by decide) (by decide) ["agents", "scout"] (by decide) ["agents", "scout"]
    (List.prefix_refl _)
  revert kept
  decide

end GrokingClawId.Daemon
