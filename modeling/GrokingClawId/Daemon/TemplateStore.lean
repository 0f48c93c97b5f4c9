import GrokingClawId.Lib.Listing
import GrokingClawId.Daemon.Templates

/-!
# The template registry

`install_template` and `create_from_local` of `templates.rs`, which put a template into the registry.
What the registry server answers and what `tar` does are parameters. The recursive copy is given a
number of nested calls; it stops short when they do not suffice.
-/

namespace GrokingClawId.Daemon
open GrokingClawId.Core Text

/-! ### The manifest of a new template -/

structure TemplateInfo where
  name : String
  version : String
  description : String
  author : String
  license : String
  tags : List String

structure TemplateRequirements where
  minMemoryMb : Nat := 512
  minDiskGb : Nat := 1
  binaries : List String := []
  os : List String := []

structure InstallConfig where
  script : String := "install.sh"
  files : List String := []
  env : List (String × String) := []

structure RunConfig where
  script : String := "run.sh"
  workdir : String := "data"
  env : List (String × String) := []
  restartOnCrash : Bool := true
  maxRestarts : Nat := 3

structure HealthConfig where
  script : String := "health.sh"
  intervalSeconds : Nat := 30
  unhealthyThreshold : Nat := 3

structure ScopeDefaults where
  allowedDomains : List String := []
  allowedScopes : List String := ["*"]
  ttlSeconds : Int := 30 * 24 * 3600

/-- The manifest in all its parts. -/
structure FullManifest where
  template : TemplateInfo
  requirements : TemplateRequirements := {}
  install : InstallConfig := {}
  run : RunConfig := {}
  health : HealthConfig := {}
  scope : ScopeDefaults := {}

/-- `toml::to_string_pretty` for a manifest. -/
class ManifestFormat where
  toStringPretty : FullManifest → Except String String

/-! ### A template from a directory -/

/-- How a copy stops before its end. -/
inductive Stop where
  | error (e : String)
  /-- It needs more nested calls. -/
  | deeper

section Local
variable [ReadDir]

def copyEntry (copyDir : List String → List String → DiskM Stop Unit) (src dst : List String)
    (name : String) : DiskM Stop Unit := do
  nextEntry.mapError .error
  if ← DiskM.ask (·.isDirAt (src ++ [name])) then copyDir (src ++ [name]) (dst ++ [name])
  else (copy (src ++ [name]) (dst ++ [name])).mapError .error

def copyDirRecursive : Nat → List String → List String → DiskM Stop Unit
  | 0, _, _ => DiskM.fail .deeper
  | frames + 1, src, dst => do
    (createDirAll dst).mapError .error
    let names ← (readDir src).mapError .error
    DiskM.each names (copyEntry (copyDirRecursive frames) src dst)

def newManifest (name : String) (source : List String) : FullManifest where
  template :=
    { name, version := "0.1.0", description := s!"Template created from {Path.display source}",
      author := "", license := "Apache-2.0", tags := [] }

variable [ManifestFormat]

def addManifest (dir : List String) (name : String) (source : List String) : DiskM String Unit := do
  let path := dir ++ ["manifest.toml"]
  if ← DiskM.ask (·.exists path) then pure ()
  else
    let text ← DiskM.ofExcept (ManifestFormat.toStringPretty (newManifest name source))
    write path (.text text)

def createFromLocal (frames : Nat) (registry : List String) (name : String) (source : List String) :
    DiskM Stop Unit := do
  if !(← DiskM.ask (·.exists source)) then
    DiskM.fail (.error s!"Source directory does not exist: {Path.display source}")
  else
    let dir := Path.join registry name
    if ← DiskM.ask (·.exists dir) then
      DiskM.fail (.error s!"Template '{name}' already exists. Remove it first.")
    else
      copyDirRecursive frames source dir
      (addManifest dir name source).mapError .error

end Local

/-! ### A template from the registry server -/

/-- What the request for an archive comes to. -/
inductive Download where
  | failed (e : String)
  /-- The server answers without success. -/
  | refused (status body : String)
  /-- The body of the answer cannot be read. -/
  | broken (e : String)
  | archive (bytes : List UInt8)

/-- What running `tar` comes to: it does not start, or it ends with a status and an error output,
and has done something to the files. -/
structure TarRun where
  started : Except String Unit
  succeeded : Bool
  stderr : String
  extract : FileTree → FileTree

def archiveUrl (registryUrl name version : String) : String :=
  let base := String.ofList (registryUrl.toList.rdropWhile (· = '/'))
  s!"{base}/v1/templates/{name}/versions/{version}/archive"

def downloadArchive (registryUrl : Option String) (name version : String)
    (get : String → Download) :
    Except String (List UInt8) := do
  let registryUrl ← orErr registryUrl "No remote registry URL configured"
  match get (archiveUrl registryUrl name version) with
  | .failed _ => .error s!"Failed to download template '{name}'"
  | .refused status body => .error s!"Template download failed (HTTP {status}): {body}"
  | .broken _ => .error "Failed to read template archive"
  | .archive bytes => .ok bytes

def installTemplate (registry : List String) (registryUrl : Option String) (name version : String)
    (get : String → Download) (tar : TarRun) : DiskM String Unit := do
  let bytes ← DiskM.ofExcept (downloadArchive registryUrl name version get)
  let dir := Path.join registry name
  createDirAll dir
  let archivePath := dir ++ ["archive.tar.gz"]
  write archivePath (.binary bytes)
  DiskM.ofExcept (tar.started.mapError fun _ => "Failed to extract template archive")
  DiskM.modify tar.extract
  if !tar.succeeded then DiskM.fail s!"Archive extraction failed: {tar.stderr}"
  else
    let _ ← (removeFile archivePath).attempt
    pure ()

end GrokingClawId.Daemon
