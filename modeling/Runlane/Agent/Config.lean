import Runlane.Core.Vocabulary
import Runlane.Lib.Fallible
import Runlane.Lib.Text

/-!
The local configuration of an agent and the identity that was installed for it:
their validation, the file structs they are written as, and the startup check
that reads both back and compares them.

Paths are UTF-8 texts of a Unix host. What the host answers about its files and
what its YAML library makes of a struct or a text are parameters.
-/

namespace Runlane

structure AgentConfig where
  nodeId : String
  serverUrl : String
  serverTrustRootPath : String
  identityPath : String
  certificatePath : String
  privateKeyPath : String
  spoolDir : String
  platformFamily : OperatingSystem
deriving DecidableEq

structure AgentConfigFile where
  nodeId : String
  serverUrl : String
  serverTrustRootPath : String
  identityPath : String
  certificatePath : String
  privateKeyPath : String
  spoolDir : String
  platformFamily : String
deriving DecidableEq

structure AgentIdentityMetadata where
  nodeId : String
  platformFamily : OperatingSystem
  certificateFingerprint : String
  serverTrustRootPath : String
  certificatePath : String
  privateKeyPath : String
  enrolledAtUnixSeconds : Nat
  expiresAtUnixSeconds : Option Nat
deriving DecidableEq

structure AgentIdentityFile where
  nodeId : String
  platformFamily : String
  certificateFingerprint : String
  serverTrustRootPath : String
  certificatePath : String
  privateKeyPath : String
  enrolledAtUnixSeconds : Nat
  expiresAtUnixSeconds : Option Nat
deriving DecidableEq

structure AgentState where
  config : AgentConfig
  identity : AgentIdentityMetadata
deriving DecidableEq

inductive AgentConfigError where
  | io (path source : String)
  | yaml (path source : String)
  | invalidField (field reason : String)
  | permission (path reason : String)
  | preflight (path reason : String)
  | identityMismatch (field configValue identityValue : String)
  | platformMismatch (configured detected : OperatingSystem)
  | alreadyExists (path : String)
deriving DecidableEq

def validateNodeId (nodeId : String) : Except AgentConfigError Unit :=
  if Text.isBlank nodeId then .error (.invalidField "node_id" "must not be empty")
  else if nodeId.toList.any fun c => Text.isWhitespace c || ['/', '\\', ':'].contains c then
    .error (.invalidField "node_id"
      "must not contain whitespace, slash, backslash, or colon")
  else .ok ()

/-- The platforms that an agent of this version starts on. -/
def isAgentPlatform : OperatingSystem → Bool
  | .linux | .freeBsd | .openBsd => true
  | .solaris | .illumos | .unknown => false

def isAbsolute (path : String) : Bool :=
  path.startsWith "/"

def requireAbsolute (reason : String) (paths : List (String × String)) :
    Except AgentConfigError Unit :=
  paths.forM fun (field, path) =>
    if !isAbsolute path then .error (.invalidField field reason) else .ok ()

/-- `debug` is the text that Rust's `Debug` prints of a text. -/
def parseOperatingSystem (debug : String → String) :
    String → Except AgentConfigError OperatingSystem
  | "linux" => .ok .linux
  | "freebsd" => .ok .freeBsd
  | "openbsd" => .ok .openBsd
  | "solaris" => .ok .solaris
  | "illumos" => .ok .illumos
  | "unknown" => .ok .unknown
  | value => .error (.invalidField "platform_family" s!"unsupported value {debug value}")

def formatOperatingSystem : OperatingSystem → String
  | .linux => "linux"
  | .freeBsd => "freebsd"
  | .openBsd => "openbsd"
  | .solaris => "solaris"
  | .illumos => "illumos"
  | .unknown => "unknown"

theorem parseOperatingSystem_eq_ok {debug : String → String} {value : String}
    {os : OperatingSystem} :
    parseOperatingSystem debug value = .ok os ↔ value = formatOperatingSystem os := by
  constructor
  · intro parsed
    unfold parseOperatingSystem at parsed
    split at parsed
    case h_7 => cases parsed
    all_goals
      cases parsed
      rfl
  · intro written
    subst written
    cases os <;> rfl

theorem formatOperatingSystem_injective : Function.Injective formatOperatingSystem := by
  intro os os' same
  have parsed : parseOperatingSystem id (formatOperatingSystem os) = .ok os' :=
    parseOperatingSystem_eq_ok.mpr same
  rw [parseOperatingSystem_eq_ok.mpr rfl] at parsed
  exact Except.ok.inj parsed

theorem requireAbsolute_eq_ok {reason : String} {paths : List (String × String)} :
    requireAbsolute reason paths = .ok () ↔
      ∀ entry ∈ paths, isAbsolute entry.2 = true := by
  rw [requireAbsolute, Fallible.forM_eq_ok]
  simp only [Fallible.ite_error_eq_ok, Bool.not_eq_true', Bool.not_eq_false, and_true]

namespace AgentConfig

def paths (config : AgentConfig) : List (String × String) :=
  [("server_trust_root_path", config.serverTrustRootPath),
    ("identity_path", config.identityPath),
    ("certificate_path", config.certificatePath),
    ("private_key_path", config.privateKeyPath),
    ("spool_dir", config.spoolDir)]

def validateShape (config : AgentConfig) : Except AgentConfigError Unit := do
  validateNodeId config.nodeId
  if !config.serverUrl.startsWith "https://" then
    .error (.invalidField "server_url"
      "must use https://; plaintext agent transport is not a valid startup configuration")
  else if !isAgentPlatform config.platformFamily then
    .error (.invalidField "platform_family"
      "must be linux, freebsd, or openbsd for v0.1 agent startup")
  else
    requireAbsolute "must be an absolute path so startup does not depend on cwd" config.paths

def toFile (config : AgentConfig) : AgentConfigFile where
  nodeId := config.nodeId
  serverUrl := config.serverUrl
  serverTrustRootPath := config.serverTrustRootPath
  identityPath := config.identityPath
  certificatePath := config.certificatePath
  privateKeyPath := config.privateKeyPath
  spoolDir := config.spoolDir
  platformFamily := formatOperatingSystem config.platformFamily

def fromFile (debug : String → String) (file : AgentConfigFile) :
    Except AgentConfigError AgentConfig := do
  let platformFamily ← parseOperatingSystem debug file.platformFamily
  let config : AgentConfig :=
    { nodeId := file.nodeId
      serverUrl := file.serverUrl
      serverTrustRootPath := file.serverTrustRootPath
      identityPath := file.identityPath
      certificatePath := file.certificatePath
      privateKeyPath := file.privateKeyPath
      spoolDir := file.spoolDir
      platformFamily }
  config.validateShape
  return config

/-- What a configuration of good shape satisfies. -/
structure Shape (config : AgentConfig) : Prop where
  nodeId : validateNodeId config.nodeId = .ok ()
  serverUrl : config.serverUrl.startsWith "https://" = true
  platformFamily : isAgentPlatform config.platformFamily = true
  absolute : ∀ entry ∈ config.paths, isAbsolute entry.2 = true

theorem validateShape_eq_ok {config : AgentConfig} :
    config.validateShape = .ok () ↔ config.Shape := by
  unfold validateShape
  rw [Fallible.bind_eq_ok]
  simp only [Fallible.ite_error_eq_ok, Bool.not_eq_true', Bool.not_eq_false,
    requireAbsolute_eq_ok]
  constructor
  · intro passed
    obtain ⟨_, nodeId, serverUrl, platformFamily, absolute⟩ := passed
    exact ⟨nodeId, serverUrl, platformFamily, absolute⟩
  · intro shape
    exact ⟨(), shape.nodeId, shape.serverUrl, shape.platformFamily, shape.absolute⟩

/-- A file is read as the one configuration it is written from, if that is of good shape. -/
theorem fromFile_eq_ok {debug : String → String} {file : AgentConfigFile}
    {config : AgentConfig} :
    fromFile debug file = .ok config ↔ config.Shape ∧ config.toFile = file := by
  simp only [fromFile, Fallible.bind_eq_ok, Fallible.pure_eq_ok, parseOperatingSystem_eq_ok]
  constructor
  · intro read
    obtain ⟨os, format, _, shape, rfl⟩ := read
    refine ⟨validateShape_eq_ok.mp shape, ?_⟩
    rw [toFile, ← format]
  · intro written
    obtain ⟨shape, rfl⟩ := written
    exact ⟨config.platformFamily, rfl, (), validateShape_eq_ok.mpr shape, rfl⟩

end AgentConfig

namespace AgentIdentityMetadata

/-- Both validators refuse a certificate that expires before it is enrolled. -/
def expiresTooEarly (enrolledAt : Nat) (expiresAt : Option Nat) : Bool :=
  expiresAt.any (· ≤ enrolledAt)

def fromConfig (config : AgentConfig) (certificateFingerprint : String)
    (enrolledAtUnixSeconds : Nat) (expiresAtUnixSeconds : Option Nat) :
    Except AgentConfigError AgentIdentityMetadata :=
  if Text.isBlank certificateFingerprint then
    .error (.invalidField "certificate_fingerprint" "must not be empty")
  else if expiresTooEarly enrolledAtUnixSeconds expiresAtUnixSeconds then
    .error (.invalidField "expires_at_unix_seconds"
      "must be greater than enrolled_at_unix_seconds")
  else
    .ok
      { nodeId := config.nodeId
        platformFamily := config.platformFamily
        certificateFingerprint
        serverTrustRootPath := config.serverTrustRootPath
        certificatePath := config.certificatePath
        privateKeyPath := config.privateKeyPath
        enrolledAtUnixSeconds
        expiresAtUnixSeconds }

def paths (identity : AgentIdentityMetadata) : List (String × String) :=
  [("identity.server_trust_root_path", identity.serverTrustRootPath),
    ("identity.certificate_path", identity.certificatePath),
    ("identity.private_key_path", identity.privateKeyPath)]

def validateShape (identity : AgentIdentityMetadata) : Except AgentConfigError Unit := do
  validateNodeId identity.nodeId
  if !isAgentPlatform identity.platformFamily then
    .error (.invalidField "identity.platform_family" "must be linux, freebsd, or openbsd")
  else if Text.isBlank identity.certificateFingerprint then
    .error (.invalidField "identity.certificate_fingerprint" "must not be empty")
  else if expiresTooEarly identity.enrolledAtUnixSeconds identity.expiresAtUnixSeconds then
    .error (.invalidField "identity.expires_at_unix_seconds"
      "must be greater than enrolled_at_unix_seconds")
  else
    requireAbsolute "must be an absolute path" identity.paths

def toFile (identity : AgentIdentityMetadata) : AgentIdentityFile where
  nodeId := identity.nodeId
  platformFamily := formatOperatingSystem identity.platformFamily
  certificateFingerprint := identity.certificateFingerprint
  serverTrustRootPath := identity.serverTrustRootPath
  certificatePath := identity.certificatePath
  privateKeyPath := identity.privateKeyPath
  enrolledAtUnixSeconds := identity.enrolledAtUnixSeconds
  expiresAtUnixSeconds := identity.expiresAtUnixSeconds

def fromFile (debug : String → String) (file : AgentIdentityFile) :
    Except AgentConfigError AgentIdentityMetadata := do
  let platformFamily ← parseOperatingSystem debug file.platformFamily
  let identity : AgentIdentityMetadata :=
    { nodeId := file.nodeId
      platformFamily
      certificateFingerprint := file.certificateFingerprint
      serverTrustRootPath := file.serverTrustRootPath
      certificatePath := file.certificatePath
      privateKeyPath := file.privateKeyPath
      enrolledAtUnixSeconds := file.enrolledAtUnixSeconds
      expiresAtUnixSeconds := file.expiresAtUnixSeconds }
  identity.validateShape
  return identity

/-- What an identity of good shape satisfies. -/
structure Shape (identity : AgentIdentityMetadata) : Prop where
  nodeId : validateNodeId identity.nodeId = .ok ()
  platformFamily : isAgentPlatform identity.platformFamily = true
  fingerprint : Text.isBlank identity.certificateFingerprint = false
  lifetime :
    expiresTooEarly identity.enrolledAtUnixSeconds identity.expiresAtUnixSeconds = false
  absolute : ∀ entry ∈ identity.paths, isAbsolute entry.2 = true

theorem validateShape_eq_ok {identity : AgentIdentityMetadata} :
    identity.validateShape = .ok () ↔ identity.Shape := by
  unfold validateShape
  rw [Fallible.bind_eq_ok]
  simp only [Fallible.ite_error_eq_ok, Bool.not_eq_true', Bool.not_eq_false,
    Bool.not_eq_true, requireAbsolute_eq_ok]
  constructor
  · intro passed
    obtain ⟨_, nodeId, platformFamily, fingerprint, lifetime, absolute⟩ := passed
    exact ⟨nodeId, platformFamily, fingerprint, lifetime, absolute⟩
  · intro shape
    exact ⟨(), shape.nodeId, shape.platformFamily, shape.fingerprint, shape.lifetime,
      shape.absolute⟩

theorem fromFile_eq_ok {debug : String → String} {file : AgentIdentityFile}
    {identity : AgentIdentityMetadata} :
    fromFile debug file = .ok identity ↔ identity.Shape ∧ identity.toFile = file := by
  simp only [fromFile, Fallible.bind_eq_ok, Fallible.pure_eq_ok, parseOperatingSystem_eq_ok]
  constructor
  · intro read
    obtain ⟨os, format, _, shape, rfl⟩ := read
    refine ⟨validateShape_eq_ok.mp shape, ?_⟩
    rw [toFile, ← format]
  · intro written
    obtain ⟨shape, rfl⟩ := written
    exact ⟨identity.platformFamily, rfl, (), validateShape_eq_ok.mpr shape, rfl⟩

end AgentIdentityMetadata

def validateIdentityMatchesConfig (config : AgentConfig) (identity : AgentIdentityMetadata) :
    Except AgentConfigError Unit :=
  [("node_id", config.nodeId, identity.nodeId),
    ("platform_family", formatOperatingSystem config.platformFamily,
      formatOperatingSystem identity.platformFamily),
    ("server_trust_root_path", config.serverTrustRootPath, identity.serverTrustRootPath),
    ("certificate_path", config.certificatePath, identity.certificatePath),
    ("private_key_path", config.privateKeyPath, identity.privateKeyPath)].forM
      fun (field, configValue, identityValue) =>
        if configValue ≠ identityValue then
          .error (.identityMismatch field configValue identityValue)
        else .ok ()

/-- The fields of a configuration that its identity repeats. -/
structure IdentityMatches (config : AgentConfig) (identity : AgentIdentityMetadata) : Prop where
  nodeId : config.nodeId = identity.nodeId
  platformFamily : config.platformFamily = identity.platformFamily
  serverTrustRootPath : config.serverTrustRootPath = identity.serverTrustRootPath
  certificatePath : config.certificatePath = identity.certificatePath
  privateKeyPath : config.privateKeyPath = identity.privateKeyPath

theorem validateIdentityMatchesConfig_eq_ok {config : AgentConfig}
    {identity : AgentIdentityMetadata} :
    validateIdentityMatchesConfig config identity = .ok () ↔
      IdentityMatches config identity := by
  rw [validateIdentityMatchesConfig, Fallible.forM_eq_ok]
  simp only [List.forall_mem_cons, List.not_mem_nil, false_imp_iff, implies_true, and_true,
    Fallible.ite_error_eq_ok, ne_eq, not_not, formatOperatingSystem_injective.eq_iff]
  constructor
  · intro same
    obtain ⟨nodeId, platformFamily, trustRoot, certificate, privateKey⟩ := same
    exact ⟨nodeId, platformFamily, trustRoot, certificate, privateKey⟩
  · intro same
    exact ⟨same.nodeId, same.platformFamily, same.serverTrustRootPath, same.certificatePath,
      same.privateKeyPath⟩

/-- What the YAML library writes of a value and what it makes of a text. -/
structure SerdeDocument (File : Type) where
  toString : File → Except String String
  fromStr : String → Except String File

/-- What the library has written it reads back. -/
def SerdeDocument.Faithful {File : Type} (serde : SerdeDocument File) : Prop :=
  ∀ file body, serde.toString file = .ok body → serde.fromStr body = .ok file

structure FileMetadata where
  isFile : Bool
  isDir : Bool
  mode : Nat

structure AgentHost where
  metadata : String → Except String FileMetadata
  readToString : String → Except String String
  configs : SerdeDocument AgentConfigFile
  identities : SerdeDocument AgentIdentityFile
  debug : String → String

namespace AgentHost

variable (host : AgentHost)

def loadDocument {File α : Type} (serde : SerdeDocument File)
    (fromFile : File → Except AgentConfigError α) (path : String) :
    Except AgentConfigError α := do
  let body ← (host.readToString path).mapError (.io path)
  let file ← (serde.fromStr body).mapError (.yaml path)
  fromFile file

def loadConfig (path : String) : Except AgentConfigError AgentConfig :=
  host.loadDocument host.configs (AgentConfig.fromFile host.debug) path

def loadIdentity (path : String) : Except AgentConfigError AgentIdentityMetadata :=
  host.loadDocument host.identities (AgentIdentityMetadata.fromFile host.debug) path

def requireKind (isKind : FileMetadata → Bool) (complaint path : String) :
    Except AgentConfigError Unit := do
  let metadata ← (host.metadata path).mapError (.io path)
  if !isKind metadata then .error (.preflight path complaint)

def requireRegularFile (path role : String) : Except AgentConfigError Unit :=
  host.requireKind FileMetadata.isFile s!"{role} must be a regular file" path

def requireDirectory (path role : String) : Except AgentConfigError Unit :=
  host.requireKind FileMetadata.isDir s!"{role} must be a directory" path

/-- Refuses a mode that has one of the bits of the mask. -/
def rejectMode (mask : Nat) (complaint path : String) : Except AgentConfigError Unit := do
  let metadata ← (host.metadata path).mapError (.io path)
  let mode := metadata.mode &&& 0o777
  if mode &&& mask ≠ 0 then
    .error (.permission path s!"mode {String.ofList (Nat.toDigits 8 mode)} {complaint}")

def rejectGroupOrOtherWritable (path : String) : Except AgentConfigError Unit :=
  host.rejectMode 0o022 "is group/other writable" path

def rejectGroupOrOtherAccessible (path : String) : Except AgentConfigError Unit :=
  host.rejectMode 0o077 "exposes group/other access" path

def checkConfigFilePermissions (path : String) : Except AgentConfigError Unit := do
  host.requireRegularFile path "agent config"
  host.rejectGroupOrOtherWritable path

def checkPublicFilePermissions (path : String) : Except AgentConfigError Unit :=
  host.rejectGroupOrOtherWritable path

def checkDirectoryPermissions (path : String) : Except AgentConfigError Unit :=
  host.rejectGroupOrOtherWritable path

def checkSecretFilePermissions (path : String) : Except AgentConfigError Unit := do
  host.requireRegularFile path "secret agent state"
  host.rejectGroupOrOtherAccessible path

def validateConfigPrerequisites (config : AgentConfig) : Except AgentConfigError Unit := do
  host.requireRegularFile config.serverTrustRootPath "server trust root"
  host.checkPublicFilePermissions config.serverTrustRootPath
  host.requireRegularFile config.certificatePath "agent certificate"
  host.checkPublicFilePermissions config.certificatePath
  host.requireRegularFile config.privateKeyPath "agent private key"
  host.checkSecretFilePermissions config.privateKeyPath
  host.requireDirectory config.spoolDir "agent spool directory"
  host.checkDirectoryPermissions config.spoolDir

def validateAgentState (configPath : String) (detectedPlatform : OperatingSystem) :
    Except AgentConfigError AgentState := do
  host.checkConfigFilePermissions configPath
  let config ← host.loadConfig configPath
  host.validateConfigPrerequisites config
  if config.platformFamily ≠ detectedPlatform then
    .error (.platformMismatch config.platformFamily detectedPlatform)
  else
    host.checkSecretFilePermissions config.identityPath
    let identity ← host.loadIdentity config.identityPath
    validateIdentityMatchesConfig config identity
    return ⟨config, identity⟩

end AgentHost

end Runlane
