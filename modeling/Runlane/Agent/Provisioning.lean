import Runlane.Agent.Identity
import Runlane.Lib.Frame

/-!
How an agent is provisioned: its configuration is written, then an identity that
is made from the configuration on the disk.

A disk holds files and directories at locations, and a path leads to one of them;
two paths may lead to the same. Any system call can fail where it stands, and a
write that fails leaves what the host says. Only permission bits are kept of a mode.
-/

namespace Runlane

open Frame

structure InitConfigOptions where
  configPath : String
  config : AgentConfig
  force : Bool
deriving DecidableEq

structure InstallIdentityOptions where
  configPath : String
  certificateFingerprint : String
  enrolledAtUnixSeconds : Nat
  expiresAtUnixSeconds : Option Nat
  force : Bool
deriving DecidableEq

inductive DiskNode where
  | file (mode : Nat) (body : String)
  | directory (mode : Nat)
deriving DecidableEq

def DiskNode.metadata : DiskNode → FileMetadata
  | file mode _ => { isFile := true, isDir := false, mode }
  | directory mode => { isFile := false, isDir := true, mode }

abbrev Disk := String → Option DiskNode

namespace Disk

def set (disk : Disk) (location : String) (node : DiskNode) : Disk :=
  fun other => if other = location then some node else disk other

/-- The mode and the content of the file at a location. -/
def fileAt (disk : Disk) (location : String) : Option (Nat × String) :=
  match disk location with
  | some (.file mode body) => some (mode, body)
  | some (.directory _) | none => none

end Disk

inductive Syscall where
  | createDir (path : String)
  | setPermissions (path : String) (mode : Nat)
  | create (path : String) (force : Bool)
  | writeAll (path body : String)
  | syncAll (path : String)
  | metadata (path : String)
  | readToString (path : String)

/-- What provisioning asks of a host. `ancestors` are the directories above a path,
the outermost first. -/
structure ProvisioningHost where
  locate : String → String
  parent : String → Option String
  ancestors : String → List String
  umask : Nat
  fails : Disk → Syscall → Bool
  reason : Disk → Syscall → String
  leftover : Disk → String → String → String
  configs : SerdeDocument AgentConfigFile
  identities : SerdeDocument AgentIdentityFile
  debug : String → String

abbrev Provisioning := EStateM AgentConfigError Disk

namespace ProvisioningHost

variable (host : ProvisioningHost)

/-- The mode of a node that is created with the mode asked for. -/
def created (mode : Nat) : Nat :=
  mode &&& (0o777 ^^^ (host.umask &&& 0o777))

/-- The node that a path leads to, unless the call fails before. -/
def resolve (disk : Disk) (call : Syscall) (path : String) : Except String (Option DiskNode) :=
  if host.fails disk call then .error (host.reason disk call) else .ok (disk (host.locate path))

/-- What the host answers about the files of a disk. -/
def reading (disk : Disk) : AgentHost where
  metadata path := do
    match ← host.resolve disk (.metadata path) path with
    | some node => .ok node.metadata
    | none => .error (host.reason disk (.metadata path))
  readToString path := do
    match ← host.resolve disk (.readToString path) path with
    | some (.file _ body) => .ok body
    | some (.directory _) | none => .error (host.reason disk (.readToString path))
  configs := host.configs
  identities := host.identities
  debug := host.debug

/-- Makes a call; an error names the path it is reported for. -/
def attempt (call : Syscall) (path blamed : String) : Provisioning (Option DiskNode) := do
  ofExcept ((host.resolve (← get) call path).mapError (.io blamed))

def fail {α : Type} (call : Syscall) (blamed : String) : Provisioning α := do
  throw (.io blamed (host.reason (← get) call))

def put (path : String) (node : DiskNode) : Provisioning Unit :=
  modify fun disk => disk.set (host.locate path) node

def createDir (blamed path : String) : Provisioning Unit := do
  match ← host.attempt (.createDir path) path blamed with
  | none => host.put path (.directory (host.created 0o777))
  | some (.directory _) => pure ()
  | some (.file ..) => host.fail (.createDir path) blamed

def createDirAll (path : String) : Provisioning Unit :=
  if path.isEmpty then pure ()
  else (host.ancestors path ++ [path]).forM (host.createDir path)

/-- Makes the directory that a path stands in, if it stands in one. -/
def createParent (path : String) : Provisioning Unit :=
  match host.parent path with
  | some parent => host.createDirAll parent
  | none => pure ()

def setPermissions (path : String) (mode : Nat) : Provisioning Unit := do
  match ← host.attempt (.setPermissions path mode) path path with
  | some (.file _ body) => host.put path (.file mode body)
  | some (.directory _) => host.put path (.directory mode)
  | none => host.fail (.setPermissions path mode) path

def setPrivateDirectoryPermissions (path : String) : Provisioning Unit :=
  host.setPermissions path 0o700

def setSecretPermissions (path : String) : Provisioning Unit :=
  host.setPermissions path 0o600

/-- Opens a file for writing, a new one, or with `force` also one that is emptied. -/
def openRestrictive (path : String) (force : Bool) : Provisioning Unit := do
  match ← host.attempt (.create path force) path path with
  | none => host.put path (.file (host.created 0o600) "")
  | some (.file mode _) =>
      if force then host.put path (.file mode "") else throw (.alreadyExists path)
  | some (.directory _) =>
      if force then host.fail (.create path force) path else throw (.alreadyExists path)

/-- Writes to the file that was opened under the path. -/
def writeAll (path body : String) : Provisioning Unit := do
  let disk ← get
  match disk.fileAt (host.locate path) with
  | none => host.fail (.writeAll path body) path
  | some (mode, old) =>
      if host.fails disk (.writeAll path body) then
        host.put path (.file mode (host.leftover disk path body))
        throw (.io path (host.reason disk (.writeAll path body)))
      else host.put path (.file mode (old ++ body))

def syncAll (path : String) : Provisioning Unit := do
  let _ ← host.attempt (.syncAll path) path path

def writeYamlRestrictive {File : Type} (serde : SerdeDocument File) (path : String) (value : File)
    (force : Bool) : Provisioning Unit := do
  host.createParent path
  let body ← ofExcept ((serde.toString value).mapError (.yaml path))
  host.openRestrictive path force
  host.writeAll path body
  host.syncAll path
  host.setSecretPermissions path

def initConfig (options : InitConfigOptions) : Provisioning Unit := do
  ofExcept options.config.validateShape
  host.createParent options.configPath
  host.createDirAll options.config.spoolDir
  host.setPrivateDirectoryPermissions options.config.spoolDir
  host.writeYamlRestrictive host.configs options.configPath options.config.toFile options.force

/-- Asks the files on the disk. -/
def ask {α : Type} (question : AgentHost → Except AgentConfigError α) : Provisioning α := do
  ofExcept (question (host.reading (← get)))

def installIdentity (options : InstallIdentityOptions) : Provisioning AgentIdentityMetadata := do
  host.ask fun files => files.checkConfigFilePermissions options.configPath
  let config ← host.ask fun files => files.loadConfig options.configPath
  host.ask fun files => files.validateConfigPrerequisites config
  let identity ← ofExcept (AgentIdentityMetadata.fromConfig config options.certificateFingerprint
    options.enrolledAtUnixSeconds options.expiresAtUnixSeconds)
  host.writeYamlRestrictive host.identities config.identityPath identity.toFile options.force
  return identity

end ProvisioningHost

/-- From one disk to the other nothing has changed but at the locations that may be
written. A file that others can read is the one that was there, or it was written over
one of the same mode. -/
structure Disk.Careful (written : String → Prop) (disk next : Disk) : Prop where
  nodes : ∀ location node, ¬ written location → disk location = some node →
    next location = some node
  files : ∀ location, ¬ written location → disk.fileAt location = none →
    next.fileAt location = none
  directories : ∀ location mode, disk location = some (.directory mode) →
    ∃ mode', next location = some (.directory mode')
  modes : ∀ location mode body, next.fileAt location = some (mode, body) →
    mode &&& 0o077 = 0 ∨ disk.fileAt location = some (mode, body) ∨
      written location ∧ ∃ old, disk.fileAt location = some (mode, old)

namespace Disk

variable {written : String → Prop} {disk next : Disk} {location : String} {node : DiskNode}

theorem set_same : (disk.set location node) location = some node := by
  rw [set, if_pos rfl]

theorem set_other {other : String} (differs : other ≠ location) :
    (disk.set location node) other = disk other := by
  rw [set, if_neg differs]

theorem fileAt_of_same (same : next location = disk location) :
    next.fileAt location = disk.fileAt location := by
  rw [fileAt, fileAt, same]

theorem fileAt_eq_some {mode : Nat} {body : String} :
    disk.fileAt location = some (mode, body) ↔ disk location = some (.file mode body) := by
  unfold fileAt
  split
  next found => simp [found]
  next found => simp [found]
  next found => simp [found]

instance : Std.Refl (Careful written) where
  refl _ := {
    nodes := fun _ _ _ found => found
    files := fun _ _ none => none
    directories := fun _ mode found => ⟨mode, found⟩
    modes := fun _ _ _ found => .inr (.inl found) }

instance : IsTrans Disk (Careful written) where
  trans _ _ _ first second := {
    nodes := fun location node kept found =>
      second.nodes location node kept (first.nodes location node kept found)
    files := fun location kept none => second.files location kept (first.files location kept none)
    directories := by
      intro location mode found
      obtain ⟨mode', found'⟩ := first.directories location mode found
      exact second.directories location mode' found'
    modes := by
      intro location mode body found
      rcases second.modes location mode body found with hidden | same | replaced
      · exact .inl hidden
      · exact first.modes location mode body same
      · obtain ⟨may, old, between⟩ := replaced
        rcases first.modes location mode old between with hidden | same | replaced
        · exact .inl hidden
        · exact .inr (.inr ⟨may, old, same⟩)
        · exact .inr (.inr replaced) }

theorem Careful.mono {larger : String → Prop} (careful : Careful written disk next)
    (more : ∀ location, written location → larger location) : Careful larger disk next where
  nodes location node kept := careful.nodes location node fun was => kept (more location was)
  files location kept := careful.files location fun was => kept (more location was)
  directories := careful.directories
  modes location mode body found :=
    (careful.modes location mode body found).imp_right (Or.imp_right (And.imp_left (more location)))

theorem careful_set (may : written location ∨ disk location = none)
    (plain : written location ∨ ∃ mode, node = .directory mode)
    (kind : (∃ mode, node = .directory mode) ∨ ∀ mode, disk location ≠ some (.directory mode))
    (guarded : ∀ mode body, node = .file mode body →
      mode &&& 0o077 = 0 ∨ written location ∧ ∃ old, disk.fileAt location = some (mode, old)) :
    Careful written disk (disk.set location node) where
  nodes other found kept present := by
    have differs : other ≠ location := by
      rintro rfl
      cases may with
      | inl may => exact kept may
      | inr absent => cases absent.symm.trans present
    rw [set_other differs]
    exact present
  files other kept absent := by
    by_cases same : other = location
    · subst same
      obtain ⟨mode, rfl⟩ := plain.resolve_left kept
      rw [fileAt, set_same]
    · rw [fileAt_of_same (set_other same)]
      exact absent
  directories other mode present := by
    by_cases same : other = location
    · subst same
      obtain ⟨mode', rfl⟩ := kind.resolve_right fun free => free mode present
      exact ⟨mode', set_same⟩
    · exact ⟨mode, (set_other same).trans present⟩
  modes other mode body found := by
    by_cases same : other = location
    · subst same
      rw [fileAt_eq_some, set_same] at found
      exact (guarded mode body (Option.some.inj found)).imp_right .inr
    · rw [fileAt_of_same (set_other same)] at found
      exact .inr (.inl found)

end Disk

end Runlane
