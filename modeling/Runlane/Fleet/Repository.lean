import Runlane.Fleet.Overlay
import Runlane.Lib.Fallible
import Runlane.Lib.Text
import Runlane.Lib.Yaml

/-!
The loader of a fleet repository.

Each directory of the layout is walked for YAML files. A file is read, searched
for fields of runtime truth, and parsed as the kind of document that its
directory holds; the first failure ends the load. The files, and what the YAML
library makes of their text, are parameters.
-/

namespace Runlane

open Yaml

inductive FleetLoadError where
  | io (path source : String)
  | yaml (path source : String)
  | invalid (path message : String)
  | validation (message : String)
deriving DecidableEq

structure FleetLayers where
  primary : OperationalLayer
  supports : List OperationalLayer
deriving DecidableEq

structure FleetInventoryNode where
  id : String
  hostname : String
  os : OperatingSystem
  labels : List (String × String)
  layers : FleetLayers
  requestedCapabilities : List String
  policyProfile : String
deriving DecidableEq

structure FleetRole where
  id : String
  primaryLayer : OperationalLayer
  enabledRunbooks : List String
  policyProfile : String
  enabledAllowlists : List String
deriving DecidableEq

structure FleetRunbook where
  name : String
  version : String
  layer : OperationalLayer
  reads : List String
  writes : List String
  conflicts : List String
  requiredCapabilities : List String
  allowedActions : List String
deriving DecidableEq

structure FleetPolicy where
  id : String
  requireSignedLease : Bool
  rejectReplay : Bool
deriving DecidableEq

structure FleetAllowlistEntryDoc where
  id : String
  action : String
  targetResourceId : String
deriving DecidableEq

structure FleetRepository where
  root : String
  inventory : List FleetInventoryNode
  roles : List FleetRole
  runbooks : List FleetRunbook
  policies : List FleetPolicy
  allowlists : List FleetAllowlistEntryDoc
  overlays : List FleetOverlayFragment
  resolvedOverlay : ResolvedFleetIntent
deriving DecidableEq

namespace Fleet

structure RawLayers where
  primary : String
  supports : List String

structure RawInventoryNode where
  id : String
  hostname : String
  os : String
  labels : List (String × String)
  layers : RawLayers
  requestedCapabilities : List String
  policyProfile : String

structure RawRole where
  id : String
  primaryLayer : String
  enabledRunbooks : List String
  policyProfile : String
  enabledAllowlists : List String

structure RawRunbookResources where
  reads : List String
  writes : List String
  conflicts : List String

structure RawCollectStep where
  id : String
  capability : Option String
  capabilityAny : List String

structure RawAnalyze where
  mode : String
  allowedActions : List String

structure RawRunbook where
  name : String
  version : String
  layer : String
  resources : RawRunbookResources
  collect : List RawCollectStep
  analyze : RawAnalyze

structure RawPolicy where
  id : String
  requireSignedLease : Bool
  rejectReplay : Bool

structure RawAllowlist where
  id : String
  action : String
  targetResourceId : String

structure RawOverlay where
  tier : String
  name : Option String
  settings : List (String × String)

/-- What the YAML library makes of a text, for each type that is asked of it. -/
structure FleetYaml where
  value : String → Except String Value
  inventoryNode : String → Except String RawInventoryNode
  role : String → Except String RawRole
  runbook : String → Except String RawRunbook
  policy : String → Except String RawPolicy
  allowlist : String → Except String RawAllowlist
  overlay : String → Except String RawOverlay

def invalid {α : Type} (path message : String) : Except FleetLoadError α :=
  .error (.invalid path message)

def parseLayer (path : String) : String → Except FleetLoadError OperationalLayer
  | "system" => .ok .system
  | "platform" => .ok .platform
  | "application" => .ok .application
  | _ => invalid path "layer must be one of system, platform, application"

def parseOs (path : String) : String → Except FleetLoadError OperatingSystem
  | "linux" => .ok .linux
  | "freebsd" => .ok .freeBsd
  | "openbsd" => .ok .openBsd
  | _ => invalid path "os must be one of linux, freebsd, openbsd"

def parseLayers (path : String) (raw : RawLayers) : Except FleetLoadError FleetLayers := do
  let primary ← parseLayer path raw.primary
  let supports ← raw.supports.mapM (parseLayer path)
  if !supports.contains primary then
    invalid path "layers.supports must include layers.primary"
  return { primary, supports }

def isResourceId (resource : String) : Bool :=
  match Text.splitOnce ':' resource with
  | some (layer, rest) =>
      ["system", "platform", "application"].contains layer && !Text.isBlank rest
  | none => false

def validateResources (path : String) (resources : List String) : Except FleetLoadError Unit :=
  resources.forM fun resource =>
    if !isResourceId resource then
      invalid path "resource ids must start with system:, platform:, or application:"
    else .ok ()

def knownCapabilities : List String :=
  ["os.linux", "os.freebsd", "os.openbsd", "service.systemd", "service.freebsd-rc",
    "service.openbsd-rcctl", "logs.journald", "logs.syslog-file", "process.procfs",
    "process.procstat", "process.ps", "socket.ss", "socket.sockstat", "socket.fstat",
    "storage.df", "storage.zfs", "package.freebsd-pkg", "package.openbsd-pkg-info",
    "firewall.pf", "privilege.sudo-helper", "privilege.doas-helper"]

def validateCapabilities (path : String) (capabilities : List String) :
    Except FleetLoadError Unit :=
  capabilities.forM fun capability =>
    if !knownCapabilities.contains capability then
      invalid path s!"unknown required capability `{capability}`"
    else .ok ()

def knownActions : List String :=
  ["service.restart", "service.reload", "file.remove_from_allowlist", "collect.more_logs"]

def validateActions (path : String) (actions : List String) : Except FleetLoadError Unit :=
  actions.forM fun action =>
    if !knownActions.contains action then
      invalid path s!"unknown action `{action}`"
    else .ok ()

def requiredName (path : String) (name : Option String) : Except FleetLoadError String :=
  match name.filter fun value => !Text.isBlank value with
  | some name => .ok name
  | none => invalid path "overlay name is required for this tier"

section Documents

variable (yaml : FleetYaml) (path body : String)

def parseYaml {α : Type} (fromStr : String → Except String α) : Except FleetLoadError α :=
  (fromStr body).mapError (.yaml path)

def parseInventory : Except FleetLoadError FleetInventoryNode := do
  let raw ← parseYaml path body yaml.inventoryNode
  let layers ← parseLayers path raw.layers
  validateCapabilities path raw.requestedCapabilities
  return {
    id := raw.id
    hostname := raw.hostname
    os := ← parseOs path raw.os
    labels := raw.labels
    layers := layers
    requestedCapabilities := raw.requestedCapabilities
    policyProfile := raw.policyProfile }

def parseRole : Except FleetLoadError FleetRole := do
  let raw ← parseYaml path body yaml.role
  return {
    id := raw.id
    primaryLayer := ← parseLayer path raw.primaryLayer
    enabledRunbooks := raw.enabledRunbooks
    policyProfile := raw.policyProfile
    enabledAllowlists := raw.enabledAllowlists }

/-- The capabilities of the collect steps, none of which may have a blank id. -/
def collectCapabilities (steps : List RawCollectStep) : Except FleetLoadError (List String) :=
  steps.foldlM (fun capabilities step =>
    if Text.isBlank step.id then
      invalid path "collect step id must not be empty"
    else .ok (capabilities ++ step.capability.toList ++ step.capabilityAny)) []

def parseRunbook : Except FleetLoadError FleetRunbook := do
  let raw ← parseYaml path body yaml.runbook
  let capabilities ← collectCapabilities path raw.collect
  validateCapabilities path capabilities
  validateResources path (raw.resources.reads ++ raw.resources.writes ++ raw.resources.conflicts)
  if raw.analyze.mode ≠ "structured_proposal" then
    invalid path "analyze.mode must be structured_proposal"
  validateActions path raw.analyze.allowedActions
  return {
    name := raw.name
    version := raw.version
    layer := ← parseLayer path raw.layer
    reads := raw.resources.reads
    writes := raw.resources.writes
    conflicts := raw.resources.conflicts
    requiredCapabilities := capabilities
    allowedActions := raw.analyze.allowedActions }

def parsePolicy : Except FleetLoadError FleetPolicy := do
  let raw ← parseYaml path body yaml.policy
  return {
    id := raw.id
    requireSignedLease := raw.requireSignedLease
    rejectReplay := raw.rejectReplay }

def parseAllowlist : Except FleetLoadError FleetAllowlistEntryDoc := do
  let raw ← parseYaml path body yaml.allowlist
  validateActions path [raw.action]
  validateResources path [raw.targetResourceId]
  return {
    id := raw.id
    action := raw.action
    targetResourceId := raw.targetResourceId }

def parseTier (raw : RawOverlay) : Except FleetLoadError FleetOverlayTier :=
  match raw.tier with
  | "global" => .ok .global
  | "os" => do return .os (← parseOs path (← requiredName path raw.name))
  | "layer" => do return .layer (← parseLayer path (← requiredName path raw.name))
  | "role" => do return .role (← requiredName path raw.name)
  | "environment" => do return .environment (← requiredName path raw.name)
  | "node" => do return .node (← requiredName path raw.name)
  | _ => invalid path "overlay tier must be global/os/layer/role/environment/node"

def parseOverlay : Except FleetLoadError FleetOverlayFragment := do
  let raw ← parseYaml path body yaml.overlay
  let tier ← parseTier path raw
  return { tier, settings := raw.settings.map fun setting => ⟨setting.1, setting.2⟩ }

end Documents

def forbiddenKeys : List String :=
  ["evidence", "approvals", "helper_output", "audit_events", "audit", "cognitive_receipts",
    "receipt", "results", "runtime"]

mutual

def findRuntimeKey : Value → Option String
  | .mapping entries => findRuntimeKeyInMapping entries
  | .sequence values => findRuntimeKeyInSequence values
  | _ => none

def findRuntimeKeyInMapping : List (Value × Value) → Option String
  | [] => none
  | (key, value) :: entries =>
      match key.asStr with
      | none => findRuntimeKeyInMapping entries
      | some key =>
          if forbiddenKeys.contains key then some key
          else (findRuntimeKey value).or (findRuntimeKeyInMapping entries)

def findRuntimeKeyInSequence : List Value → Option String
  | [] => none
  | value :: values => (findRuntimeKey value).or (findRuntimeKeyInSequence values)

end

def rejectRuntimeTruth (yaml : FleetYaml) (path body : String) : Except FleetLoadError Unit := do
  let value ← parseYaml path body yaml.value
  match findRuntimeKey value with
  | some key => invalid path s!"runtime field `{key}` is not allowed in fleet intent"
  | none => return ()

/-- An entry of a directory as the operating system lists it. -/
inductive DirEntry where
  | file (name : String) (body : Except String String)
  | directory (name : String) (entries : List DirEntry)
  | unreadable (name source : String)
  | failed (source : String)

structure YamlFile where
  components : List String
  body : Except String String

def isYamlName (name : String) : Bool :=
  Text.extension name = some "yaml" || Text.extension name = some "yml"

section Directories

variable (root : String)

def pathOf (components : List String) : String :=
  components.foldl Text.joinPath root

mutual

def DirEntry.yamlFiles (directory : List String) :
    DirEntry → Except FleetLoadError (List YamlFile)
  | .file name body =>
      .ok (if isYamlName name then [⟨directory ++ [name], body⟩] else [])
  | .directory name entries => collectYamlPaths (directory ++ [name]) entries
  | .unreadable name source => .error (.io (pathOf root (directory ++ [name])) source)
  | .failed source => .error (.io (pathOf root directory) source)

def collectYamlPaths (directory : List String) :
    List DirEntry → Except FleetLoadError (List YamlFile)
  | [] => .ok []
  | entry :: entries => do
      return (← entry.yamlFiles directory) ++ (← collectYamlPaths directory entries)

end

/-- The directories of a repository; one that exists may fail to be listed. -/
abbrev FleetTree := String → Option (Except String (List DirEntry))

variable (tree : FleetTree) (yaml : FleetYaml)

/-- Paths are compared component by component. -/
def pathLe : List String → List String → Bool
  | [], _ => true
  | _ :: _, [] => false
  | left :: lefts, right :: rights =>
      if left = right then pathLe lefts rights else decide (left ≤ right)

/-- The YAML files below a directory, in the order of their paths. -/
def yamlPaths (directory : String) (listing : Except String (List DirEntry)) :
    Except FleetLoadError (List YamlFile) := do
  let entries ← listing.mapError (.io (pathOf root [directory]))
  let files ← collectYamlPaths root [directory] entries
  return files.insertionSort fun left right => pathLe left.components right.components

def loadDocument {α : Type} (parser : String → String → Except FleetLoadError α)
    (file : YamlFile) : Except FleetLoadError α := do
  let path := pathOf root file.components
  let body ← file.body.mapError (.io path)
  rejectRuntimeTruth yaml path body
  parser path body

def loadDocuments {α : Type} (directory : String)
    (parser : String → String → Except FleetLoadError α) : Except FleetLoadError (List α) :=
  match tree directory with
  | none => .ok []
  | some listing => do (← yamlPaths root directory listing).mapM (loadDocument root yaml parser)

def requireKnown (label value : String) (known : List String) : Except FleetLoadError Unit :=
  if known.contains value then .ok ()
  else .error (.validation s!"unknown {label}: {value}")

def validateRepository (inventory : List FleetInventoryNode) (roles : List FleetRole)
    (runbooks : List FleetRunbook) (policies : List FleetPolicy)
    (allowlists : List FleetAllowlistEntryDoc) : Except FleetLoadError Unit := do
  if inventory.isEmpty then
    .error (.validation "fleet inventory must contain at least one node")
  let runbookNames := runbooks.map FleetRunbook.name
  let policyIds := policies.map FleetPolicy.id
  let allowlistIds := allowlists.map FleetAllowlistEntryDoc.id
  roles.forM fun role => do
    role.enabledRunbooks.forM fun runbook => requireKnown "role runbook" runbook runbookNames
    requireKnown "role policy" role.policyProfile policyIds
    role.enabledAllowlists.forM fun allowlist =>
      requireKnown "role allowlist" allowlist allowlistIds
  inventory.forM fun node => requireKnown "node policy" node.policyProfile policyIds

end Directories

end Fleet

open Fleet in
/-- Loads and validates a fleet repository from the documented layout. -/
def FleetRepository.load (root : String) (tree : FleetTree) (yaml : FleetYaml) :
    Except FleetLoadError FleetRepository := do
  let inventory ← loadDocuments root tree yaml "inventory" (parseInventory yaml)
  let roles ← loadDocuments root tree yaml "roles" (parseRole yaml)
  let runbooks ← loadDocuments root tree yaml "runbooks" (parseRunbook yaml)
  let policies ← loadDocuments root tree yaml "policies" (parsePolicy yaml)
  let allowlists ← loadDocuments root tree yaml "allowlists" (parseAllowlist yaml)
  let overlays ← loadDocuments root tree yaml "overlays" (parseOverlay yaml)
  let resolvedOverlay := resolveFleetOverlays overlays
  validateRepository inventory roles runbooks policies allowlists
  return {
    root, inventory, roles, runbooks, policies, allowlists, overlays, resolvedOverlay }

end Runlane
