import GrokingClawId.Daemon.BirthMesh

/-!
# Where a birth writes

The name of an agent is joined to the directory of the agents as it comes in the request. A birth
writes below the path that this gives, wherever it leads.
-/

namespace GrokingClawId.Daemon
open GrokingClawId.Core FileTree

/-- The directory of the agent is one step below that of the agents, and no file has changed
outside. -/
structure OwnDirectory (root : List String) (name : String) (tree tree' : FileTree) : Prop where
  child : agentDir root name = root ++ ["agents"] ++ [name] ∧ Plain name
  files : ∀ loc, ¬ target (root ++ ["agents"]) ++ [name] <+: loc → KeepsFile loc tree tree'

section Confined
variable [Ed25519] [Chrono] [ConfigFormat] [FromStr TemplateManifest] [FromStr Json]
    [FromStr BirthCertificate]

/-- A successful birth keeps to the directory of its agent when the name is an ordinary one and the files
that the template gives to it are its own; with another name it never does. -/
theorem birthAgent_confined_iff (roundTrip : ConfigFormat.RoundTrip) {root : List String}
    {nursery nursery' : Nursery} {maxAgents : UInt32} {params : BirthParams} {io : BirthIo}
    {result : BirthResult} (scripts : Scripts root params io nursery.disk.tree)
    (ran : nursery.birthAgent root maxAgents params io = (.ok result, nursery')) :
    (Listed root params.name params.template nursery.disk.tree ∧ Path.Ordinary params.name →
      OwnDirectory root params.name nursery.disk.tree nursery'.disk.tree) ∧
    (OwnDirectory root params.name nursery.disk.tree nursery'.disk.tree → Path.Ordinary params.name) := by
  constructor
  · rintro ⟨listed, ordinary⟩
    obtain ⟨_, config, seed, card, _, _, _, near, _⟩ :=
      Nursery.birthAgent_ok roundTrip (scripts.tamed listed) ran
    have child := (Path.join_single_iff (root ++ ["agents"]) params.name).mpr ordinary
    refine ⟨child, fun loc outside content => near.file ?_ content⟩
    have down : target (agentDir root params.name) =
        target (root ++ ["agents"]) ++ [params.name] := by
      rw [agentDir, child.1, target_append_plain _ (List.forall_mem_singleton.mpr child.2)]
    rw [down]
    exact outside
  · exact fun own => (Path.join_single_iff _ _).mp own.child

end Confined

/-! ### Concrete births -/

open scoped Core.StandIn StandIn

namespace StandIn.Upward

scoped instance format : ConfigFormat := configs [bornConfig "scout", bornConfig ".."]

theorem born_scout : ∃ result nursery',
    bareNursery.birthAgent [] 10 (namedParams "scout") unmeshed = (.ok result, nursery') :=
  run_ok (by decide +kernel)

theorem born_above : ∃ result nursery',
    bareNursery.birthAgent [] 10 (namedParams "..") unmeshed = (.ok result, nursery') :=
  run_ok (by decide +kernel)

end StandIn.Upward

open scoped StandIn.Upward

theorem StandIn.birthAgent_confined_scout : ∃ result nursery',
    bareNursery.birthAgent [] 10 (namedParams "scout") unmeshed = (.ok result, nursery') ∧
      OwnDirectory [] "scout" bareTree nursery'.disk.tree := by
  obtain ⟨result, nursery', ran⟩ := Upward.born_scout
  have ordinary : Path.Ordinary "scout" := by
    unfold Path.Ordinary Plain
    decide
  exact ⟨result, nursery', ran,
    (birthAgent_confined_iff (configs_roundTrip (by decide)) (scripts_unmeshed _ _ _) ran).1
      ⟨listed_bare _ _ _ _, ordinary⟩⟩

/-- The name `..` makes an agent of the directory of the daemon. -/
theorem birthAgent_upward : ¬ ∀ (root : List String) (nursery nursery' : Nursery)
    (maxAgents : UInt32) (params : BirthParams) (io : BirthIo)
    (result : BirthResult), Tamed root params io nursery.disk.tree →
    nursery.birthAgent root maxAgents params io = (.ok result, nursery') →
    OwnDirectory root params.name nursery.disk.tree nursery'.disk.tree := by
  intro confined
  obtain ⟨result, nursery', ran⟩ := StandIn.Upward.born_above
  have own := confined _ _ _ _ _ _ _ (StandIn.tamed_unmeshed [] (StandIn.namedParams "..") StandIn.bareTree)
      ran
  exact own.child.2.1 rfl

end GrokingClawId.Daemon
