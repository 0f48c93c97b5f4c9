import GrokingClawId.Cli.Sign
import GrokingClawId.Lib.Interrupted

/-!
# The files of a rotation

The file operations of `rotate.rs` in their order: the old key is copied to the archive, then the new
card is written, and the new key last. Until then it exists in memory only, so a rotation that ends in
between leaves a card without its key.
-/

namespace GrokingClawId.Cli.Rotate
open GrokingClawId.Core DiskM

/-- `now.format("%Y%m%d-%H%M%S")`. -/
class Stamp where
  format : DateTime → String

/-- The format has digits, a sign and a hyphen. -/
structure Stamp.Plain [Stamp] : Prop where
  no_separator : ∀ t, '/' ∉ (format t).toList

structure Args where
  agentCard : List String
  key : List String
  ttl : String
  outputDir : List String

def cardFile : String := "agent-card.json"

def keyFile : String := "agent-key.pem"

section Files
variable [Ed25519] [MlDsa65] [Chrono] [FromStr AgentCard]

def archiveName [Stamp] (now : DateTime) : String := s!"agent-key.pem.{Stamp.format now}"

/-- Everything up to the archived key. -/
def prepare [Stamp] (args : Args) (draws : Draws) : DiskM Fault Written := do
  let cardJson ← (readToString args.agentCard).mapError fun _ =>
    .error s!"Failed to read agent card: {Path.display args.agentCard}"
  let _ ← ofExcept (orFault ((FromStr.fromStr cardJson : Except String AgentCard).mapError fun _ =>
    "Failed to parse agent card JSON"))
  let oldKeyPem ← (readToString args.key).mapError fun _ =>
    .error s!"Failed to read key: {Path.display args.key}"
  let written ← ofExcept (execute cardJson oldKeyPem args.ttl draws)
  (createDirAll args.outputDir).mapError fun _ =>
    .error s!"Failed to create output directory: {Path.display args.outputDir}"
  let archivePath := Path.join args.outputDir (archiveName draws.now)
  (copy args.key archivePath).mapError fun _ =>
    .error s!"Failed to archive old key to {Path.display archivePath}"
  pure written

def writeCard (outputDir : List String) (written : Written) : DiskM Fault Unit :=
  let cardOut := outputDir ++ [cardFile]
  (write cardOut (.text written.cardJson)).mapError fun _ =>
    .error s!"Failed to write {Path.display cardOut}"

def writeKey (outputDir : List String) (written : Written) : DiskM Fault Unit :=
  let keyOut := outputDir ++ [keyFile]
  (write keyOut (.text written.keyPem)).mapError fun _ =>
    .error s!"Failed to write {Path.display keyOut}"

def executeFiles [Stamp] (args : Args) (draws : Draws) : DiskM Fault Written := do
  let written ← prepare args draws
  writeCard args.outputDir written
  writeKey args.outputDir written
  setPermissions.mapError fun _ =>
    .error s!"Failed to set permissions on {Path.display (args.outputDir ++ [keyFile])}"
  pure written

/-! ### Cards with their keys -/

omit [MlDsa65] [Chrono] [FromStr AgentCard] in
/-- The check that a rotation makes of the key it is given. -/
def Owns (card : AgentCard) (keyPem : String) : Prop :=
  ∃ key, decodeKey card.cryptoScheme keyPem = .ok key ∧
    encodePublicKey (Ed25519.verifyingKey key) = card.publicKey

/-- A file that holds a card, and one that holds the key of the card. -/
def Pair (card key : Option Node) : Prop :=
  ∃ json card' keyPem, card = some (.file (.text json)) ∧ FromStr.fromStr json = .ok card' ∧
    key = some (.file (.text keyPem)) ∧ Owns card' keyPem

/-- Where an output directory has the card, it has the key of the card. -/
def Accompanied (outputDir : List String) (tree : FileTree) : Prop :=
  ∀ content, tree.node (FileTree.target outputDir ++ [cardFile]) = some (.file content) →
    Pair (some (.file content)) (tree.node (FileTree.target outputDir ++ [keyFile]))

/-! ### What the command has in memory -/

/-- What a rotation that succeeds has read and built. -/
theorem execute_ok {oldJson oldKeyPem ttl : String} {draws : Draws} {w : Written}
    (ran : execute oldJson oldKeyPem ttl draws = .ok w) :
    ∃ old duration expiresAt keys, FromStr.fromStr oldJson = .ok old ∧ parseTtl ttl = .ok duration ∧
      DateTime.add draws.now duration = .ok expiresAt ∧
      generateAndSign old.cryptoScheme (fun publicKey pqPublicKey =>
        .ok (withKeys (base old draws.now expiresAt) publicKey pqPublicKey "" none)) draws =
          .ok keys ∧
      w.card = keys.card (base old draws.now expiresAt) ∧ w.cardJson = w.card.toStringPretty ∧
      w.keyPem = keys.keyPem := by
  obtain ⟨old, parsed, ran⟩ := bind_ok ran
  obtain ⟨oldKey, _, ran⟩ := bind_ok ran
  by_cases own : encodePublicKey (Ed25519.verifyingKey oldKey) = old.publicKey
  · simp only [own, ne_eq, not_true_eq_false, if_false] at ran
    obtain ⟨duration, ttlRead, ran⟩ := bind_ok ran
    obtain ⟨keys, generated, ran⟩ := bind_ok ran
    obtain ⟨card, built, ran⟩ := bind_ok ran
    obtain ⟨expiresAt, inRange, built⟩ := bind_ok built
    have placed : (fun publicKey pqPublicKey =>
        buildRotatedCard old publicKey pqPublicKey "" none draws.now duration) =
        fun publicKey pqPublicKey =>
          .ok (withKeys (base old draws.now expiresAt) publicKey pqPublicKey "" none) := by
      funext publicKey pqPublicKey
      simp only [buildRotatedCard, inRange, bind, Except.bind, withKeys, base]
    obtain rfl := Except.ok.inj built
    obtain rfl := Except.ok.inj ran
    rw [placed] at generated
    exact ⟨old, duration, expiresAt, keys, mapError_eq_ok (orFault_eq_ok parsed), ttlRead, inRange,
      generated, rfl, rfl, rfl⟩
  · simp only [own, ne_eq, not_false_eq_true, if_true] at ran
    cases ran

theorem execute_keys {oldJson oldKeyPem ttl : String} {draws : Draws} {w : Written}
    (ran : execute oldJson oldKeyPem ttl draws = .ok w) :
    Sign.Keys w.card w.keyPem draws.seed draws.keygen := by
  obtain ⟨old, _, expiresAt, keys, _, _, _, generated, card, _, keyPem⟩ := execute_ok ran
  rw [card, keyPem]
  exact Sign.generateAndSign_keys generated rfl rfl rfl

theorem execute_owns {oldJson oldKeyPem ttl : String} {draws : Draws} {w : Written}
    (ran : execute oldJson oldKeyPem ttl draws = .ok w) : Owns w.card w.keyPem := by
  cases execute_keys ran with
  | ed25519 scheme owned file =>
    refine ⟨draws.seed, ?_, owned.symm⟩
    rw [scheme, file, decodeKey, decodePrivateKeyPem_encode, orFault_ok]
  | pq pair scheme generated owned pqOwned file =>
    refine ⟨draws.seed, ?_, owned.symm⟩
    rw [file]
    exact decodeKey_hybrid scheme draws.seed pair.secretKeyBytes

/-! ### Up to the archived key -/

omit [Ed25519] [MlDsa65] [Chrono] [FromStr AgentCard] in
/-- The card and the key of the output directory are the same files as before. -/
def Unmoved (outputDir : List String) (tree tree' : FileTree) : Prop :=
  ∀ name ∈ [cardFile, keyFile], ∀ content,
    tree'.node (FileTree.target outputDir ++ [name]) = some (.file content) ↔
      tree.node (FileTree.target outputDir ++ [name]) = some (.file content)

omit [Ed25519] [MlDsa65] [Chrono] [FromStr AgentCard] in
theorem Unmoved.refl (outputDir : List String) (tree : FileTree) : Unmoved outputDir tree tree :=
  fun _ _ _ => Iff.rfl

omit [Ed25519] [MlDsa65] [Chrono] [FromStr AgentCard] in
theorem Unmoved.trans {outputDir : List String} (tree middle tree' : FileTree)
    (first : Unmoved outputDir tree middle) (second : Unmoved outputDir middle tree') :
    Unmoved outputDir tree tree' :=
  fun name listed content => (second name listed content).trans (first name listed content)

omit [MlDsa65] [Chrono] in
theorem Unmoved.accompanied_iff {outputDir : List String} {tree tree' : FileTree}
    (unmoved : Unmoved outputDir tree tree') :
    Accompanied outputDir tree' ↔ Accompanied outputDir tree := by
  have card := unmoved cardFile (by simp)
  have key := unmoved keyFile (by simp)
  constructor
  · intro accompanied content there
    obtain ⟨json, card', keyPem, text, parsed, held, owns⟩ :=
      accompanied content ((card content).mpr there)
    exact ⟨json, card', keyPem, text, parsed, (key _).mp held, owns⟩
  · intro accompanied content there
    obtain ⟨json, card', keyPem, text, parsed, held, owns⟩ :=
      accompanied content ((card content).mp there)
    exact ⟨json, card', keyPem, text, parsed, (key _).mpr held, owns⟩

section Prepare
variable [Stamp] (plain : Stamp.Plain)

omit [Ed25519] [MlDsa65] [Chrono] [FromStr AgentCard] in
theorem archiveName_chars (now : DateTime) :
    (archiveName now).toList = "agent-key.pem.".toList ++ (Stamp.format now).toList := by
  simp [archiveName, toString]

include plain

omit [Ed25519] [MlDsa65] [Chrono] [FromStr AgentCard] in
theorem archiveName_ordinary (now : DateTime) : Path.Ordinary (archiveName now) := by
  have chars := archiveName_chars now
  refine ⟨?_, ?_, ?_, ?_⟩
  · intro empty
    rw [empty] at chars
    cases chars
  · rw [chars, List.mem_append, not_or]
    exact ⟨by decide, plain.no_separator now⟩
  · intro dots
    rw [dots] at chars
    cases (List.cons.inj chars).1
  · intro dot
    rw [dot] at chars
    cases (List.cons.inj chars).1

omit plain in
omit [Ed25519] [MlDsa65] [Chrono] [FromStr AgentCard] in
theorem archiveName_other (now : DateTime) : archiveName now ∉ [cardFile, keyFile] := by
  have chars := archiveName_chars now
  rw [List.mem_cons, List.mem_singleton, not_or]
  constructor
  · intro same
    rw [same] at chars
    have seventh : some 'c' = some 'k' := congrArg (·[6]?) chars
    cases seventh
  · intro same
    have lengths := congrArg List.length chars
    rw [same, List.length_append] at lengths
    have short : keyFile.toList.length = 13 := rfl
    have long : "agent-key.pem.".toList.length = 14 := rfl
    omega

omit [Ed25519] [MlDsa65] [Chrono] [FromStr AgentCard] in
theorem copy_unmoved (key outputDir : List String) (now : DateTime) :
    Relates (Unmoved outputDir) (copy key (Path.join outputDir (archiveName now))) := by
  have reads : Reads (read key) := fun d => (read_tree key d).1
  refine relates_bind Unmoved.trans (reads.relates (Unmoved.refl outputDir)) fun content => ?_
  refine relates_bind Unmoved.trans (relates_ask (Unmoved.refl outputDir) _) fun itself d => ?_
  rw [Path.join_ordinary outputDir (archiveName_ordinary plain now)]
  have writes {left : Content} {tree tree' : FileTree}
      (writes : Writes (outputDir ++ [archiveName now]) left tree tree') : Unmoved outputDir tree tree' := by
    obtain ⟨loc, walked⟩ := writes.walk
    have ordinary := (archiveName_ordinary plain now).2.2
    have place : loc = FileTree.target outputDir ++ [archiveName now] := by
      rw [FileTree.walk_target walked, FileTree.target_append_plain outputDir (by simpa using ordinary)]
    intro name listed content
    rw [writes.node walked, if_neg]
    rw [place]
    intro same
    have names := List.append_cancel_left same
    rw [List.singleton_inj] at names
    exact archiveName_other now (names ▸ listed)
  rcases write_tree (outputDir ++ [archiveName now]) (if itself then .text "" else content) d with
    ⟨_, same | ⟨left, changed⟩⟩ | ⟨_, _, changed⟩
  · rw [same]
    exact Unmoved.refl _ _
  · exact writes changed
  · exact writes changed

theorem prepare_unmoved (args : Args) (draws : Draws) :
    Relates (Unmoved args.outputDir) (prepare args draws) := by
  have refl := Unmoved.refl args.outputDir
  have trans : ∀ t t' t'', Unmoved args.outputDir t t' → Unmoved args.outputDir t' t'' →
      Unmoved args.outputDir t t'' := Unmoved.trans
  have read {path : List String} {f : String → Fault} :
      Relates (Unmoved args.outputDir) ((readToString path).mapError f) :=
    fun d => (reads_readToString path).relates refl d
  refine relates_bind trans read fun cardJson => ?_
  refine relates_bind trans (relates_ofExcept refl _) fun _ => ?_
  refine relates_bind trans read fun oldKeyPem => ?_
  refine relates_bind trans (relates_ofExcept refl _) fun written => ?_
  refine relates_bind trans ?_ fun _ => ?_
  · intro d name _ content
    exact (createDirAll_addsDirs args.outputDir d).file _ content
  · refine relates_bind trans ?_ fun _ => relates_pure refl written
    exact fun d => copy_unmoved plain args.key args.outputDir draws.now d

omit plain in
theorem resumable_prepare (args : Args) (draws : Draws) : Resumable (prepare args draws) := by
  refine resumable_bind (resumable_mapError (resumable_readToString _) _) fun cardJson => ?_
  refine resumable_bind (resumable_ofExcept _) fun _ => ?_
  refine resumable_bind (resumable_mapError (resumable_readToString _) _) fun oldKeyPem => ?_
  refine resumable_bind (resumable_ofExcept _) fun written => ?_
  refine resumable_bind (resumable_mapError (resumable_createDirAll _) _) fun _ => ?_
  exact resumable_bind (resumable_mapError (resumable_copy _ _) _) fun _ => resumable_pure written

omit plain in
theorem prepare_ok {args : Args} {draws : Draws} {w : Written} {d d' : Disk}
    (ran : prepare args draws d = (.ok w, d')) :
    (∃ cardJson oldKeyPem, execute cardJson oldKeyPem args.ttl draws = .ok w) ∧
      FileTree.legal args.outputDir = true ∧
      d'.tree.walk [] args.outputDir = some (FileTree.target args.outputDir) ∧
      d'.tree.isDir (FileTree.target args.outputDir) = true := by
  obtain ⟨cardJson, d₁, _, ran⟩ := bind_ok ran
  obtain ⟨_, d₂, _, ran⟩ := bind_ok ran
  obtain ⟨oldKeyPem, d₃, _, ran⟩ := bind_ok ran
  obtain ⟨written, d₄, executed, ran⟩ := bind_ok ran
  obtain ⟨_, d₅, made, ran⟩ := bind_ok ran
  obtain ⟨_, d₆, copied, ran⟩ := bind_ok ran
  obtain ⟨rfl, rfl⟩ := pure_ok ran
  obtain ⟨legal, _, found, walked, isDir⟩ := createDirAll_ok (mapError_ok made)
  obtain ⟨content, d₇, read, wrote⟩ := bind_ok (mapError_ok copied)
  have same := read_tree args.key d₅
  rw [read] at same
  have dirs := (write_ok wrote).2.sameDirs
  rw [same.1] at dirs
  obtain rfl := FileTree.walk_target walked
  refine ⟨⟨cardJson, oldKeyPem, (ofExcept_ok executed).1⟩, legal, ?_, ?_⟩
  · rw [dirs.walk]
    exact walked
  · rw [dirs]
    exact isDir

end Prepare

/-! ### The two writes -/

omit [Ed25519] [MlDsa65] [Chrono] [FromStr AgentCard] in
theorem target_file (outputDir : List String) {name : String} (plain : FileTree.Plain name) :
    FileTree.target (outputDir ++ [name]) = FileTree.target outputDir ++ [name] :=
  FileTree.target_append_plain outputDir (by simpa using plain)

omit [Ed25519] [MlDsa65] [Chrono] [FromStr AgentCard] in
theorem legal_file {outputDir : List String} (legal : FileTree.legal outputDir = true)
    {name : String} (free : FileTree.legal [name] = true) :
    FileTree.legal (outputDir ++ [name]) = true := by
  rw [FileTree.legal, List.all_append, Bool.and_eq_true]
  exact ⟨legal, free⟩

omit [Ed25519] [MlDsa65] [Chrono] [FromStr AgentCard] in
/-- What a write of one of the files that succeeds leaves of the tree. -/
theorem node_written {outputDir : List String} {name : String} (plain : FileTree.Plain name)
    {content : Content} {d d' : Disk} (wrote : write (outputDir ++ [name]) content d = (.ok (), d'))
    (other : Location) : d'.tree.node other =
      if other = FileTree.target outputDir ++ [name] then some (.file content) else d.tree.node other := by
  have writes := (write_ok wrote).2
  obtain ⟨loc, walked⟩ := writes.walk
  rw [writes.node walked, FileTree.walk_target walked, target_file outputDir plain]

omit [Ed25519] [MlDsa65] [Chrono] [FromStr AgentCard] in
theorem cardFile_plain : FileTree.Plain cardFile := by
  unfold FileTree.Plain
  decide

omit [Ed25519] [MlDsa65] [Chrono] [FromStr AgentCard] in
theorem keyFile_plain : FileTree.Plain keyFile := by
  unfold FileTree.Plain
  decide

omit [Ed25519] [MlDsa65] [Chrono] [FromStr AgentCard] in
theorem file_ne (outputDir : List String) :
    FileTree.target outputDir ++ [cardFile] ≠ FileTree.target outputDir ++ [keyFile] := by
  intro same
  exact absurd (List.append_cancel_left same) (by decide)

omit [Ed25519] [MlDsa65] [Chrono] [FromStr AgentCard] in
theorem both_written {outputDir : List String} {w : Written} {d middle d' : Disk}
    (first : writeCard outputDir w d = (.ok (), middle))
    (second : writeKey outputDir w middle = (.ok (), d')) :
    d'.tree.node (FileTree.target outputDir ++ [cardFile]) = some (.file (.text w.cardJson)) ∧
      d'.tree.node (FileTree.target outputDir ++ [keyFile]) = some (.file (.text w.keyPem)) := by
  have card := node_written cardFile_plain (mapError_ok first)
  have key := node_written keyFile_plain (mapError_ok second)
  rw [key, key, if_neg (file_ne outputDir), card, if_pos rfl, if_pos rfl]
  exact ⟨rfl, rfl⟩

omit [Ed25519] [MlDsa65] [Chrono] [FromStr AgentCard] in
/-- The card is not written where a directory has its name, or when the write fails at once. -/
theorem writeCard_stays {outputDir : List String} (w : Written) {d : Disk}
    (legal : FileTree.legal outputDir = true)
    (walked : d.tree.walk [] outputDir = some (FileTree.target outputDir))
    (stays : d.tree.node (FileTree.target outputDir ++ [cardFile]) = some .dir ∨
      ∃ e, d.next.1 = .fails e) :
    ∃ e d', writeCard outputDir w d = (.error e, d') ∧ d'.tree = d.tree := by
  have ran := write_at (.text w.cardJson) cardFile_plain (legal_file legal (by decide)) walked
  have same := d.next_tree
  have refused (after : Disk) (unmoved : after.tree = d.tree)
      (dir : d.tree.node (FileTree.target outputDir ++ [cardFile]) = some .dir) (content : Content) :
      after.store (FileTree.target outputDir) cardFile (.file content) =
        (.error "Not a directory", after) := by
    unfold Disk.store
    rw [dif_neg]
    rw [unmoved, dir]
    exact fun able => able.2 rfl
  unfold writeCard
  rw [mapError, ran]
  rcases met : d.next with ⟨trouble, after⟩
  rw [met] at same stays
  cases trouble with
  | fails e => exact ⟨_, after, rfl, same⟩
  | none =>
    rcases stays with dir | ⟨e, fails⟩
    · simp only [refused after same dir]
      exact ⟨_, after, rfl, same⟩
    · cases fails
  | cuts e left =>
    rcases stays with dir | ⟨e, fails⟩
    · simp only [refused after same dir]
      exact ⟨_, after, rfl, same⟩
    · cases fails

omit [Ed25519] [MlDsa65] [Chrono] [FromStr AgentCard] in
/-- The card is written, or its beginning when the write is cut. -/
theorem writeCard_meets {outputDir : List String} (w : Written) {tree : FileTree}
    (legal : FileTree.legal outputDir = true)
    (walked : tree.walk [] outputDir = some (FileTree.target outputDir))
    (dir : tree.node (FileTree.target outputDir) = some .dir)
    (free : tree.node (FileTree.target outputDir ++ [cardFile]) ≠ some .dir) (rest : List Trouble) :
    writeCard outputDir w ⟨tree, .none :: rest⟩ =
        (.ok (), ⟨tree.put _ cardFile (.file (.text w.cardJson)) dir free, rest⟩) ∧
      ∀ e left, ∃ e', writeCard outputDir w ⟨tree, .cuts e left :: rest⟩ =
        (.error e', ⟨tree.put _ cardFile (.file left) dir free, rest⟩) := by
  have stored (content : Content) : (⟨tree, rest⟩ : Disk).store (FileTree.target outputDir) cardFile
      (.file content) = (.ok (), ⟨tree.put _ cardFile (.file content) dir free, rest⟩) := by
    unfold Disk.store
    rw [dif_pos ⟨dir, free⟩]
  unfold writeCard
  constructor
  · rw [mapError, write_at (.text w.cardJson) cardFile_plain (legal_file legal (by decide)) walked]
    simp only [Disk.next, stored]
    rfl
  · intro e left
    rw [mapError, write_at (.text w.cardJson) cardFile_plain (legal_file legal (by decide)) walked]
    simp only [Disk.next, stored]
    exact ⟨_, rfl⟩

omit [Ed25519] [MlDsa65] [Chrono] [FromStr AgentCard] in
theorem writeKey_fails {outputDir : List String} (w : Written) {tree : FileTree}
    (legal : FileTree.legal outputDir = true)
    (walked : tree.walk [] outputDir = some (FileTree.target outputDir)) (e : String) :
    ∃ e', writeKey outputDir w ⟨tree, [.fails e]⟩ = (.error e', ⟨tree, []⟩) := by
  unfold writeKey
  rw [mapError, write_at (.text w.keyPem) keyFile_plain (legal_file legal (by decide)) walked]
  exact ⟨_, rfl⟩

/-! ### Interrupted rotations -/

section Runs
variable [Stamp]

/-- In some run of the command it comes to write the card. -/
def Reaches (args : Args) (draws : Draws) (tree : FileTree) : Prop :=
  ∃ trouble w d, prepare args draws ⟨tree, trouble⟩ = (.ok w, d) ∧
    d.tree.node (FileTree.target args.outputDir ++ [cardFile]) ≠ some .dir

/-- The run begins to write the card, and the two writes do not both end. -/
def Torn (args : Args) (draws : Draws) (d : Disk) : Prop :=
  ∃ w d₁, prepare args draws d = (.ok w, d₁) ∧
    d₁.tree.node (FileTree.target args.outputDir ++ [cardFile]) ≠ some .dir ∧
    (∀ e, d₁.next.1 ≠ .fails e) ∧
    ∀ d₂ d₃, writeCard args.outputDir w d₁ = (.ok (), d₂) → writeKey args.outputDir w d₂ ≠ (.ok (), d₃)

/-- The card file that a rotation writes is read as the card. -/
def RoundTrips (args : Args) (draws : Draws) : Prop :=
  ∀ cardJson oldKeyPem w, execute cardJson oldKeyPem args.ttl draws = .ok w →
    FromStr.fromStr w.cardJson = .ok w.card

theorem executeFiles_refused {args : Args} {draws : Draws} {d d₁ : Disk} {e : Fault}
    (refused : prepare args draws d = (.error e, d₁)) :
    executeFiles args draws d = (.error e, d₁) := bind_error refused

theorem executeFiles_prepared {args : Args} {draws : Draws} {d d₁ : Disk} {w : Written}
    (prepared : prepare args draws d = (.ok w, d₁)) :
    executeFiles args draws d = (do
      writeCard args.outputDir w
      writeKey args.outputDir w
      setPermissions.mapError fun _ =>
        .error s!"Failed to set permissions on {Path.display (args.outputDir ++ [keyFile])}"
      pure w) d₁ := by
  rw [executeFiles, bind_run, prepared]

theorem unmoved_of_stays (plain : Stamp.Plain) {args : Args} {draws : Draws} {d : Disk}
    (stays : ∀ w d₁, prepare args draws d = (.ok w, d₁) →
      d₁.tree.node (FileTree.target args.outputDir ++ [cardFile]) = some .dir ∨
      ∃ e, d₁.next.1 = .fails e) :
    Unmoved args.outputDir d.tree (executeFiles args draws d).2.tree := by
  have unmoved := prepare_unmoved plain args draws d
  rcases ran : prepare args draws d with ⟨e | w, d₁⟩
  · rw [ran] at unmoved
    rw [executeFiles_refused ran]
    exact unmoved
  · rw [ran] at unmoved
    obtain ⟨_, legal, walked, _⟩ := prepare_ok ran
    obtain ⟨e, d₂, failed, same⟩ := writeCard_stays w legal walked (stays w d₁ ran)
    rw [executeFiles_prepared ran, bind_error failed, same]
    exact unmoved

theorem accompanied_of_written {args : Args} {draws : Draws} (roundTrips : RoundTrips args draws)
    {d d₁ d₂ d₃ : Disk} {w : Written} (ran : prepare args draws d = (.ok w, d₁))
    (first : writeCard args.outputDir w d₁ = (.ok (), d₂))
    (second : writeKey args.outputDir w d₂ = (.ok (), d₃)) :
    Accompanied args.outputDir (executeFiles args draws d).2.tree := by
  obtain ⟨⟨cardJson, oldKeyPem, executed⟩, _⟩ := prepare_ok ran
  obtain ⟨card, key⟩ := both_written first second
  have restricted (f : String → Fault) :
      ((setPermissions.mapError f >>= fun _ => pure w : DiskM Fault Written) d₃).2.tree = d₃.tree := by
    have reads : Reads (setPermissions.mapError f) := setPermissions_tree
    exact reads_bind reads (fun _ => reads_pure w) d₃
  have last : (executeFiles args draws d).2.tree = d₃.tree := by
    rw [executeFiles_prepared ran, bind_run, first]
    show ((_ >>= _ : DiskM Fault Written) d₂).2.tree = _
    rw [bind_run, second]
    exact restricted _
  rw [last]
  intro content there
  rw [card] at there
  obtain rfl := Node.file.inj (Option.some.inj there)
  exact ⟨w.cardJson, w.card, w.keyPem, rfl, roundTrips _ _ w executed, key, execute_owns executed⟩

/-- A run that is not torn keeps a card with its key. -/
theorem accompanied_of_whole (plain : Stamp.Plain) {args : Args} {draws : Draws}
    (roundTrips : RoundTrips args draws) {d : Disk} (whole : ¬ Torn args draws d)
    (accompanied : Accompanied args.outputDir d.tree) :
    Accompanied args.outputDir (executeFiles args draws d).2.tree := by
  by_cases begun : ∃ w d₁, prepare args draws d = (.ok w, d₁) ∧
      d₁.tree.node (FileTree.target args.outputDir ++ [cardFile]) ≠ some .dir ∧
      ∀ e, d₁.next.1 ≠ .fails e
  · obtain ⟨w, d₁, ran, free, met⟩ := begun
    by_contra lost
    refine whole ⟨w, d₁, ran, free, met, fun d₂ d₃ first second => lost ?_⟩
    exact accompanied_of_written roundTrips ran first second
  · apply (unmoved_of_stays plain fun w d₁ ran => ?_).accompanied_iff.mpr accompanied
    by_contra neither
    obtain ⟨free, met⟩ := not_or.mp neither
    exact begun ⟨w, d₁, ran, free, not_exists.mp met⟩

theorem torn_of_reaches (empty : ∀ card : AgentCard, FromStr.fromStr "" ≠ .ok card) {args : Args}
    {draws : Draws} {tree : FileTree} (reaches : Reaches args draws tree) :
    ∃ trouble, ¬ Accompanied args.outputDir (executeFiles args draws ⟨tree, trouble⟩).2.tree := by
  obtain ⟨trouble, w, d₁, ran, free⟩ := reaches
  obtain ⟨met, again⟩ := resumable_prepare args draws _ _ _ ran
  obtain ⟨_, legal, walked, isDir⟩ := prepare_ok ran
  obtain ⟨e, cut⟩ := (writeCard_meets w legal walked (FileTree.isDir_iff.mp isDir) free []).2 "" (.text "")
  refine ⟨met ++ [.cuts "" (.text "")], fun accompanied => ?_⟩
  rw [executeFiles_prepared (again _), bind_error cut] at accompanied
  obtain ⟨json, card, _, text, parsed, _⟩ := accompanied (.text "") (if_pos rfl)
  obtain rfl : "" = json := by simpa using text
  exact empty card parsed

/-- Between the writes the new card lies beside the key that was there. -/
theorem between_writes {args : Args} {draws : Draws} {d d₁ : Disk} {w : Written}
    (ran : prepare args draws d = (.ok w, d₁))
    (free : d₁.tree.node (FileTree.target args.outputDir ++ [cardFile]) ≠ some .dir) :
    ∃ trouble after, (executeFiles args draws ⟨d.tree, trouble⟩).2.tree = after ∧
      after.node (FileTree.target args.outputDir ++ [cardFile]) = some (.file (.text w.cardJson)) ∧
      after.node (FileTree.target args.outputDir ++ [keyFile]) =
        d₁.tree.node (FileTree.target args.outputDir ++ [keyFile]) := by
  obtain ⟨met, again⟩ := resumable_prepare args draws _ _ _ ran
  obtain ⟨_, legal, walked, isDir⟩ := prepare_ok ran
  have dir := FileTree.isDir_iff.mp isDir
  have first := (writeCard_meets w legal walked dir free [.fails ""]).1
  have onward : (d₁.tree.put _ cardFile (.file (.text w.cardJson)) dir free).walk [] args.outputDir =
      some (FileTree.target args.outputDir) := by
    rw [(FileTree.sameDirs_put_file dir free).walk]
    exact walked
  obtain ⟨e, second⟩ := writeKey_fails w legal onward ""
  refine ⟨met ++ [.none, .fails ""], d₁.tree.put _ cardFile (.file (.text w.cardJson)) dir free, ?_, ?_, ?_⟩
  · rw [executeFiles_prepared (again _), bind_run, first]
    show ((_ >>= _ : DiskM Fault Written) _).2.tree = _
    rw [bind_error second]
  · exact if_pos rfl
  · exact if_neg (file_ne args.outputDir).symm

/-- A rotation leaves a card with its key, wherever it ends, exactly when the card had its key
before and no run comes to write the card. And every run that is not torn keeps a card with its
key. -/
theorem executeFiles_crash_iff (plain : Stamp.Plain)
    (empty : ∀ card : AgentCard, FromStr.fromStr "" ≠ .ok card) {args : Args} {draws : Draws}
    (roundTrips : RoundTrips args draws) (tree : FileTree) :
    ((∀ trouble, Accompanied args.outputDir (executeFiles args draws ⟨tree, trouble⟩).2.tree) ↔
      Accompanied args.outputDir tree ∧ ¬ Reaches args draws tree) ∧
    ∀ trouble, Accompanied args.outputDir tree → ¬ Torn args draws ⟨tree, trouble⟩ →
      Accompanied args.outputDir (executeFiles args draws ⟨tree, trouble⟩).2.tree := by
  refine ⟨⟨fun always => ?_, fun ⟨accompanied, unreached⟩ trouble => ?_⟩,
    fun trouble accompanied whole => accompanied_of_whole plain roundTrips whole accompanied⟩
  · have unreached : ¬ Reaches args draws tree := by
      intro reaches
      obtain ⟨trouble, lost⟩ := torn_of_reaches empty reaches
      exact lost (always trouble)
    refine ⟨(unmoved_of_stays plain fun w d₁ ran => ?_).accompanied_iff.mp (always []), unreached⟩
    by_contra neither
    exact unreached ⟨[], w, d₁, ran, (not_or.mp neither).1⟩
  · refine (unmoved_of_stays plain fun w d₁ ran => ?_).accompanied_iff.mpr accompanied
    by_contra neither
    exact unreached ⟨trouble, w, d₁, ran, (not_or.mp neither).1⟩

end Runs

end Files

/-! ### A rotation that ends between its writes -/

section
open scoped Core.StandIn

namespace StandIn
open Cli.StandIn

scoped instance stamp : Stamp where
  format _ := "20260402-143022"

theorem stamp_plain : Stamp.Plain := ⟨fun _ => (by decide : '/' ∉ "20260402-143022".toList)⟩

theorem freshSeed_length : (List.replicate 32 (1 : UInt8)).length = 32 := List.length_replicate

/-- The rotation draws another seed than the card was issued with. -/
def fresh : Draws := { draws with seed := ⟨List.replicate 32 1, freshSeed_length⟩ }

def freshCard : AgentCard := (edKeys scoutBase fresh.seed).card scoutBase

@[reducible] def parser : FromStr AgentCard :=
  Core.StandIn.parser [(scoutCard.toStringPretty, scoutCard), (freshCard.toStringPretty, freshCard)]

def scoutPem : String := (edKeys scoutBase Core.StandIn.seed).keyPem

theorem bare_parents (loc : Location) (name : String)
    (present : (if loc ++ [name] = [] then some Node.dir else none) ≠ none) :
    (if loc = [] then some Node.dir else none) = some .dir := by
  rw [if_neg (by simp)] at present
  exact absurd rfl present

theorem bare_root : (if ([] : Location) = [] then some Node.dir else none) = some .dir := rfl

def bare : FileTree where
  node loc := if loc = [] then some .dir else none
  root := bare_root
  parents := bare_parents

theorem missing : (none : Option Node) ≠ some .dir := (Option.some_ne_none _).symm

/-- A directory with a card and a key. -/
def identityTree (json keyPem : String) : FileTree :=
  ((bare.put [] "id" .dir rfl missing).put ["id"] cardFile (.file (.text json)) rfl missing).put
    ["id"] keyFile
    (.file (.text keyPem)) rfl missing

def rotation : Args where
  agentCard := ["id", cardFile]
  key := ["id", keyFile]
  ttl := "1d"
  outputDir := ["id"]

def archived (json keyPem : String) : FileTree :=
  (identityTree json keyPem).put ["id"] "agent-key.pem.20260402-143022" (.file (.text keyPem)) rfl
    missing

theorem read_identity {tree : FileTree} {name text : String}
    (legal : FileTree.legal ["id", name] = true)
    (found : tree.lookup ["id", name] = some (.file (.text text))) :
    read ["id", name] ⟨tree, []⟩ = (.ok (.text text), ⟨tree, []⟩) := by
  unfold read
  simp only [legal, found, Disk.next, Bool.not_true, Bool.false_eq_true, if_false]

theorem readToString_identity {path : List String} {d : Disk} {text : String}
    (ran : read path d = (.ok (.text text), d)) : readToString path d = (.ok text, d) :=
  bind_of_ok ran

theorem prepare_rotation [FromStr AgentCard] {json keyPem : String} {old : AgentCard}
    (parsed : FromStr.fromStr json = .ok old) {w : Written} {draws : Draws}
    (ran : execute json keyPem "1d" draws = .ok w) :
    prepare rotation draws ⟨identityTree json keyPem, []⟩ =
      (.ok w, ⟨archived json keyPem, []⟩) := by
  let d : Disk := ⟨identityTree json keyPem, []⟩
  have legal : FileTree.legal ["id", cardFile] = true ∧ FileTree.legal ["id", keyFile] = true ∧
      FileTree.legal ["id"] = true ∧ FileTree.legal (["id"] ++ ["agent-key.pem.20260402-143022"]) = true := by
    decide
  have card : readToString rotation.agentCard d = (.ok json, d) :=
    readToString_identity (read_identity legal.1 rfl)
  have key : read rotation.key d = (.ok (.text keyPem), d) := read_identity legal.2.1 rfl
  have made : createDirAll rotation.outputDir d = (.ok (), d) := by
    show (if FileTree.legal ["id"] = true then _ else _ : DiskM String Unit) d = _
    rw [if_pos legal.2.2.1]
    rfl
  have joined : Path.join rotation.outputDir (archiveName draws.now) =
      ["id"] ++ ["agent-key.pem.20260402-143022"] :=
    Path.join_ordinary ["id"] (archiveName_ordinary stamp_plain draws.now)
  have wrote : write (["id"] ++ ["agent-key.pem.20260402-143022"]) (.text keyPem) d =
      (.ok (), ⟨archived json keyPem, []⟩) := by
    have walked : d.tree.walk [] ["id"] = some ["id"] := rfl
    rw [write_at _ (by unfold FileTree.Plain; decide) legal.2.2.2 walked]
    show Disk.store _ _ _ _ = _
    unfold Disk.store
    rw [dif_pos ⟨rfl, missing⟩]
    rfl
  have copied : copy rotation.key (Path.join rotation.outputDir (archiveName draws.now)) d =
      (.ok (), ⟨archived json keyPem, []⟩) := by
    rw [joined]
    exact (bind_of_ok key).trans wrote
  have parses : (DiskM.ofExcept (orFault ((FromStr.fromStr json : Except String AgentCard).mapError fun _ =>
      "Failed to parse agent card JSON")) : DiskM Fault AgentCard) d = (.ok old, d) := by
    rw [parsed]
    rfl
  have executes : DiskM.ofExcept (execute json keyPem rotation.ttl draws) d = (.ok w, d) :=
    congrArg (·, d) ran
  unfold prepare
  rw [bind_of_ok (mapError_of_ok card), bind_of_ok parses,
    bind_of_ok (mapError_of_ok (readToString_identity key)), bind_of_ok executes,
    bind_of_ok (mapError_of_ok made)]
  exact bind_of_ok (mapError_of_ok copied)

theorem json_differs : freshCard.toStringPretty ≠ scoutCard.toStringPretty := by
  decide +kernel

theorem fromStr_scout :
    letI := parser
    FromStr.fromStr scoutCard.toStringPretty = .ok scoutCard := Core.StandIn.parser_head _ _ _

theorem fromStr_fresh :
    letI := parser
    FromStr.fromStr freshCard.toStringPretty = .ok freshCard := by
  let _ := parser
  show (Core.StandIn.parser _).fromStr _ = _
  rw [Core.StandIn.parser_tail json_differs]
  exact Core.StandIn.parser_head _ _ _

/-- The card of `scout` before its new keys. -/
def rotatedBase : AgentCard := base scoutCard fresh.now 86400000000000

theorem edKeys_rotated [Ed25519] [Chrono] (card : AgentCard) (keys : KeyMaterial)
    (seed : Bytes 32) :
    (edKeys (base (keys.card card) card.issuedAt card.expiresAt) seed).card
      (base (keys.card card) card.issuedAt card.expiresAt) = (edKeys card seed).card card := rfl

theorem rotate_scout :
    letI := parser
    ∃ w, execute scoutCard.toStringPretty scoutPem "1d" fresh = .ok w ∧ w.card = freshCard ∧
      w.cardJson = freshCard.toStringPretty := by
  let _ := parser
  have generated : generateAndSign scoutCard.cryptoScheme (fun publicKey pqPublicKey =>
      .ok (withKeys rotatedBase publicKey pqPublicKey "" none)) fresh = .ok (edKeys rotatedBase fresh.seed) :=
    generateAndSign_ed25519 rfl
  have sound : Sound ((edKeys rotatedBase fresh.seed).card rotatedBase) (edKeys rotatedBase fresh.seed).keyPem
      fresh.seed := edKeys_sound Core.StandIn.ed25519_correct rfl fresh.seed
  have inRange : DateTime.add fresh.now 86400 = .ok 86400000000000 := rfl
  obtain ⟨w, ran, card, json, _⟩ :=
    execute_eq fromStr_scout scoutCard_sound ttlRead_day inRange generated sound
  have same : w.card = freshCard :=
    card.trans (edKeys_rotated scoutBase (edKeys scoutBase Core.StandIn.seed) fresh.seed)
  exact ⟨w, ran, same, by rw [json, same]⟩

theorem archived_free (json keyPem : String) :
    (archived json keyPem).node (FileTree.target rotation.outputDir ++ [cardFile]) ≠ some .dir := by
  have card : (archived json keyPem).node (FileTree.target rotation.outputDir ++ [cardFile]) =
      some (.file (.text json)) := rfl
  rw [card]
  exact fun same => Node.noConfusion (Option.some.inj same)

theorem scout_owned : Owns scoutCard scoutPem :=
  ⟨Core.StandIn.seed, scoutCard_sound.key, scoutCard_sound.owned.symm⟩

theorem fresh_unowned : ¬ Owns freshCard scoutPem := by
  rintro ⟨key, decoded, owned⟩
  have scheme : freshCard.cryptoScheme = .ed25519 := rfl
  have scheme' : scoutCard.cryptoScheme = .ed25519 := rfl
  have old : decodeKey scoutCard.cryptoScheme scoutPem = .ok Core.StandIn.seed :=
    scoutCard_sound.key
  rw [scheme, ← scheme', old] at decoded
  obtain rfl := Except.ok.inj decoded
  have keys : encodePublicKey Core.StandIn.seed = encodePublicKey fresh.seed := owned
  exact absurd keys (by decide +kernel)

theorem scout_accompanied :
    letI := parser
    Accompanied rotation.outputDir (identityTree scoutCard.toStringPretty scoutPem) := by
  let _ := parser
  intro content there
  obtain rfl : Content.text scoutCard.toStringPretty = content :=
    Node.file.inj (Option.some.inj there)
  exact ⟨_, scoutCard, scoutPem, rfl, fromStr_scout, rfl, scout_owned⟩

theorem scout_reaches :
    letI := parser
    Reaches rotation fresh (identityTree scoutCard.toStringPretty scoutPem) := by
  let _ := parser
  obtain ⟨w, ran, _⟩ := rotate_scout
  exact ⟨[], w, _, prepare_rotation fromStr_scout ran, archived_free _ _⟩

theorem fresh_roundTrips :
    letI := parser
    RoundTrips rotation fresh := by
  let _ := parser
  intro cardJson oldKeyPem w ran
  obtain ⟨old, duration, expiresAt, keys, parsed, ttlRead, inRange, generated, card, json, _⟩ :=
    execute_ok ran
  obtain rfl := Except.ok.inj (ttlRead_day.symm.trans ttlRead)
  obtain rfl : 86400000000000 = expiresAt := Except.ok.inj inRange
  have again : keys.card (base old fresh.now 86400000000000) = freshCard := by
    have listed : (cardJson, old) ∈ [(scoutCard.toStringPretty, scoutCard),
        (freshCard.toStringPretty, freshCard)] := by
      obtain ⟨before, after, table, _⟩ := List.lookup_eq_some_iff.mp (orErr_ok parsed)
      rw [table]
      simp
    simp only [List.mem_cons, List.not_mem_nil, or_false, Prod.mk.injEq] at listed
    rcases listed with ⟨_, rfl⟩ | ⟨_, rfl⟩
    · obtain rfl := Except.ok.inj ((generateAndSign_ed25519 rfl).symm.trans generated)
      exact edKeys_rotated scoutBase (edKeys scoutBase Core.StandIn.seed) fresh.seed
    · obtain rfl := Except.ok.inj ((generateAndSign_ed25519 rfl).symm.trans generated)
      exact edKeys_rotated scoutBase (edKeys scoutBase fresh.seed) fresh.seed
  have same : w.card = freshCard := card.trans again
  rw [json, same]
  exact fromStr_fresh

theorem no_card :
    letI := parser
    ∀ card : AgentCard, FromStr.fromStr "" ≠ .ok card := by
  let _ := parser
  intro card parsed
  have other : "" ≠ scoutCard.toStringPretty ∧ "" ≠ freshCard.toStringPretty := by decide +kernel
  have refused : (FromStr.fromStr "" : Except String AgentCard) = .error "expected value" :=
    (Core.StandIn.parser_tail other.1 _ _).trans (Core.StandIn.parser_other other.2 _)
  rw [refused] at parsed
  cases parsed

end StandIn

open scoped Rotate.StandIn

/-- The rotation is torn exactly because it comes to write the card. -/
theorem executeFiles_crash_scout :
    letI := StandIn.parser
    ¬ ∀ trouble, Accompanied StandIn.rotation.outputDir
      (executeFiles StandIn.rotation StandIn.fresh
        ⟨StandIn.identityTree Cli.StandIn.scoutCard.toStringPretty StandIn.scoutPem, trouble⟩).2.tree := by
  let _ := StandIn.parser
  intro always
  have iff := executeFiles_crash_iff StandIn.stamp_plain StandIn.no_card StandIn.fresh_roundTrips
    (StandIn.identityTree Cli.StandIn.scoutCard.toStringPretty StandIn.scoutPem)
  exact (iff.1.mp always).2 StandIn.scout_reaches

/-- A rotation in place that ends after the card was written has the old key beside the new card. -/
theorem executeFiles_tears :
    letI := StandIn.parser
    ¬ ∀ (args : Args) (draws : Draws) (tree : FileTree), Accompanied args.outputDir tree →
      ∀ trouble, Accompanied args.outputDir (executeFiles args draws ⟨tree, trouble⟩).2.tree := by
  let _ := StandIn.parser
  intro consistent
  obtain ⟨w, ran, card, json⟩ := StandIn.rotate_scout
  obtain ⟨trouble, after, left, newCard, oldKey⟩ :=
    between_writes (StandIn.prepare_rotation StandIn.fromStr_scout ran) (StandIn.archived_free _ _)
  have accompanied := consistent StandIn.rotation StandIn.fresh _ StandIn.scout_accompanied trouble
  rw [left] at accompanied
  obtain ⟨text, card', keyPem, same, parsed, key, owns⟩ := accompanied _ newCard
  obtain rfl : w.cardJson = text := Content.text.inj (Node.file.inj (Option.some.inj same))
  rw [json] at parsed
  obtain rfl := Except.ok.inj (StandIn.fromStr_fresh.symm.trans parsed)
  rw [oldKey] at key
  obtain rfl : StandIn.scoutPem = keyPem := Content.text.inj (Node.file.inj (Option.some.inj key))
  exact StandIn.fresh_unowned owns

end

end GrokingClawId.Cli.Rotate
