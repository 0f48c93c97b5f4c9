import GrokingClawId.Lib.Disk
import GrokingClawId.Core.Models

/-!
# Agent templates

`templates.rs`: the manifest of a template and its installation for an agent. What the install script
of a template does to the files is a parameter.
-/

namespace GrokingClawId.Daemon
open GrokingClawId.Core

/-- The version of the template and the files that its manifest lists for copying. -/
structure TemplateManifest where
  version : String
  files : List String

/-- What running `install.sh` comes to; the exit code of the script is not looked at. -/
structure InstallRun where
  started : Except String Unit
  script : FileTree → FileTree

/-- `registry_path.join(template)`. -/
def templateDir (root : List String) (template : String) : List String :=
  Path.join (root ++ ["templates"]) template

section Templates
variable [FromStr TemplateManifest]

def parseManifest (path : List String) : DiskM String TemplateManifest := do
  let content ← (readToString path).mapError fun _ =>
    s!"Failed to read manifest: {Path.display path}"
  DiskM.ofExcept ((FromStr.fromStr content : Except String TemplateManifest).mapError fun _ =>
    s!"Failed to parse manifest: {Path.display path}")

def getTemplate (root : List String) (template : String) :
    DiskM String (Option TemplateManifest) := do
  let dir := templateDir root template
  if !(← DiskM.ask (·.exists dir)) then pure none
  else if !(← DiskM.ask (·.exists (dir ++ ["manifest.toml"]))) then pure none
  else
    let manifest ← parseManifest (dir ++ ["manifest.toml"])
    pure (some manifest)

def getTemplateVersion (root : List String) (template : String) : DiskM String (Option String) := do
  let path := templateDir root template ++ ["manifest.toml"]
  if !(← DiskM.ask (·.exists path)) then pure none
  else
    match ← (parseManifest path).attempt with
    | .ok manifest => pure (some manifest.version)
    | .error _ => pure none

def installStandard (dir agentDir : List String) (file : String) : DiskM String Unit := do
  if ← DiskM.ask (·.exists (dir ++ [file])) then
    (copy (dir ++ [file]) (agentDir ++ [file])).mapError fun _ => s!"Failed to copy {file} to agent dir"
  else pure ()

/-- A listed file is joined to the directory of the agent as it is. -/
def installListed (dir agentDir : List String) (file : String) : DiskM String Unit := do
  let src := Path.join dir file
  if ← DiskM.ask (·.exists src) then
    let dest := Path.join agentDir file
    createDirAll (Path.parent dest)
    copy src dest
  else pure ()

def runInstall (agentDir : List String) (run : InstallRun) : DiskM String Unit := do
  if ← DiskM.ask (·.exists (agentDir ++ ["install.sh"])) then
    DiskM.ofExcept (run.started.mapError fun _ => "Failed to run install.sh")
    DiskM.modify run.script
  else pure ()

def stubScript (template : String) : String :=
  "#!/bin/bash\n# Stub agent for template '" ++ template ++
    "'\necho \"Agent $CLAWID_AGENT_NAME started (template: " ++ template ++
    ")\"\necho \"Agent ID: $CLAWID_AGENT_ID\"\necho \"Data dir: $CLAWID_DATA_DIR\"\n\nwhile true; do\n" ++
    "\tsleep 30\n\techo \"[$(date)] Agent $CLAWID_AGENT_NAME heartbeat\"\ndone\n"

def installForAgent (root : List String) (template : String) (agentDir : List String)
    (run : InstallRun) :
    DiskM String Unit := do
  let dir := templateDir root template
  if ← DiskM.ask (·.exists dir) then
    DiskM.each ["run.sh", "install.sh", "health.sh"] (installStandard dir agentDir)
    match ← (getTemplate root template).attempt with
    | .ok (some manifest) => DiskM.each manifest.files (installListed dir agentDir)
    | _ => pure ()
    runInstall agentDir run
  else
    write (agentDir ++ ["run.sh"]) (.text (stubScript template))
    setPermissions

end Templates
end GrokingClawId.Daemon
