import Runlane.Agent.Config

/-!
What the startup of an agent accepts.

Reading a file struct back undoes writing it, so a document stands for one
configuration or identity of good shape. The identities that match a
configuration are those that can be made from it, and an agent starts with these
and with no other.
-/

namespace Runlane

namespace AgentIdentityMetadata

theorem fromConfig_eq_ok {config : AgentConfig} {fingerprint : String} {enrolledAt : Nat}
    {expiresAt : Option Nat} {identity : AgentIdentityMetadata} :
    fromConfig config fingerprint enrolledAt expiresAt = .ok identity ↔
      (Text.isBlank fingerprint = false ∧ expiresTooEarly enrolledAt expiresAt = false) ∧
        ⟨config.nodeId, config.platformFamily, fingerprint, config.serverTrustRootPath,
          config.certificatePath, config.privateKeyPath, enrolledAt, expiresAt⟩ = identity := by
  simp only [fromConfig, Fallible.ite_error_eq_ok, Bool.not_eq_true, Except.ok.injEq, and_assoc]

/-- The identities that can be made from a configuration are those of good shape
that match it. -/
theorem made_iff {config : AgentConfig} (shape : config.Shape)
    {identity : AgentIdentityMetadata} :
    (∃ fingerprint enrolledAt expiresAt,
      fromConfig config fingerprint enrolledAt expiresAt = .ok identity) ↔
      identity.Shape ∧ IdentityMatches config identity := by
  constructor
  · intro made
    obtain ⟨fingerprint, enrolledAt, expiresAt, passed⟩ := made
    obtain ⟨⟨present, lifetime⟩, rfl⟩ := fromConfig_eq_ok.mp passed
    refine ⟨⟨shape.nodeId, shape.platformFamily, present, lifetime, ?_⟩, rfl, rfl, rfl, rfl, rfl⟩
    have absolute := shape.absolute
    simp only [AgentConfig.paths, List.forall_mem_cons] at absolute
    obtain ⟨trustRoot, -, certificate, privateKey, -⟩ := absolute
    simp only [paths, List.forall_mem_cons]
    exact ⟨trustRoot, certificate, privateKey, nofun⟩
  · intro both
    obtain ⟨good, same⟩ := both
    refine ⟨identity.certificateFingerprint, identity.enrolledAtUnixSeconds,
      identity.expiresAtUnixSeconds, fromConfig_eq_ok.mpr ⟨⟨good.fingerprint, good.lifetime⟩, ?_⟩⟩
    rw [same.nodeId, same.platformFamily, same.serverTrustRootPath, same.certificatePath,
      same.privateKeyPath]

end AgentIdentityMetadata

namespace AgentHost

variable {host : AgentHost} {path : String}

/-- Where reading a file struct undoes writing it, a document is loaded as the
value that its struct is written from. -/
theorem loadDocument_eq_ok {File α : Type} {serde : SerdeDocument File}
    {fromFile : File → Except AgentConfigError α} {Good : α → Prop} {toFile : α → File}
    (undoes : ∀ {file value}, fromFile file = .ok value ↔ Good value ∧ toFile value = file)
    {value : α} :
    host.loadDocument serde fromFile path = .ok value ↔
      Good value ∧ ∃ body, host.readToString path = .ok body ∧
        serde.fromStr body = .ok (toFile value) := by
  simp only [loadDocument, Fallible.bind_eq_ok, Fallible.mapError_eq_ok, undoes]
  constructor
  · intro loaded
    obtain ⟨body, read, file, parsed, good, rfl⟩ := loaded
    exact ⟨good, body, read, parsed⟩
  · intro stored
    obtain ⟨good, body, read, parsed⟩ := stored
    exact ⟨body, read, toFile value, parsed, good, rfl⟩

theorem loadConfig_eq_ok {config : AgentConfig} :
    host.loadConfig path = .ok config ↔
      config.Shape ∧ ∃ body, host.readToString path = .ok body ∧
        host.configs.fromStr body = .ok config.toFile :=
  loadDocument_eq_ok AgentConfig.fromFile_eq_ok

theorem loadIdentity_eq_ok {identity : AgentIdentityMetadata} :
    host.loadIdentity path = .ok identity ↔
      identity.Shape ∧ ∃ body, host.readToString path = .ok body ∧
        host.identities.fromStr body = .ok identity.toFile :=
  loadDocument_eq_ok AgentIdentityMetadata.fromFile_eq_ok

/-- A configuration that passes validation is read back from what is written of
it. So is an identity made from it, which matches it and no configuration with
another node, platform, trust root, certificate or private key. -/
theorem installed_identity_accepted (configsFaithful : host.configs.Faithful)
    (identitiesFaithful : host.identities.Faithful) {config : AgentConfig}
    (accepted : config.validateShape = .ok ()) :
    AgentConfig.fromFile host.debug config.toFile = .ok config ∧
      (∀ path body, host.configs.toString config.toFile = .ok body →
        host.readToString path = .ok body → host.loadConfig path = .ok config) ∧
      ∀ fingerprint enrolledAt expiresAt identity,
        AgentIdentityMetadata.fromConfig config fingerprint enrolledAt expiresAt =
          .ok identity →
        AgentIdentityMetadata.fromFile host.debug identity.toFile = .ok identity ∧
          (∀ path body, host.identities.toString identity.toFile = .ok body →
            host.readToString path = .ok body → host.loadIdentity path = .ok identity) ∧
          validateIdentityMatchesConfig config identity = .ok () ∧
          ∀ other : AgentConfig,
            (other.nodeId ≠ config.nodeId ∨ other.platformFamily ≠ config.platformFamily ∨
              other.serverTrustRootPath ≠ config.serverTrustRootPath ∨
              other.certificatePath ≠ config.certificatePath ∨
              other.privateKeyPath ≠ config.privateKeyPath) →
            ∃ error, validateIdentityMatchesConfig other identity = .error error := by
  have shape := AgentConfig.validateShape_eq_ok.mp accepted
  refine ⟨AgentConfig.fromFile_eq_ok.mpr ⟨shape, rfl⟩, ?_, ?_⟩
  · intro path body written read
    exact loadConfig_eq_ok.mpr ⟨shape, body, read, configsFaithful _ _ written⟩
  · intro fingerprint enrolledAt expiresAt identity made
    obtain ⟨good, same⟩ :=
      (AgentIdentityMetadata.made_iff shape).mp ⟨fingerprint, enrolledAt, expiresAt, made⟩
    refine ⟨AgentIdentityMetadata.fromFile_eq_ok.mpr ⟨good, rfl⟩, ?_,
      validateIdentityMatchesConfig_eq_ok.mpr same, ?_⟩
    · intro path body written read
      exact loadIdentity_eq_ok.mpr ⟨good, body, read, identitiesFaithful _ _ written⟩
    · intro other differs
      cases checked : validateIdentityMatchesConfig other identity with
      | error error => exact ⟨error, rfl⟩
      | ok passed =>
          have otherSame := validateIdentityMatchesConfig_eq_ok.mp checked
          rw [otherSame.nodeId, otherSame.platformFamily, otherSame.serverTrustRootPath,
            otherSame.certificatePath, otherSame.privateKeyPath, same.nodeId,
            same.platformFamily, same.serverTrustRootPath, same.certificatePath,
            same.privateKeyPath] at differs
          simp only [ne_eq, not_true_eq_false, or_self] at differs

end AgentHost

/-- A library that knows one document. -/
def SerdeDocument.single {File : Type} [DecidableEq File] (file : File) (body : String) :
    SerdeDocument File where
  toString other := if other = file then .ok body else .error "unsupported"
  fromStr text := if text = body then .ok file else .error "unsupported"

theorem SerdeDocument.single_faithful {File : Type} [DecidableEq File] (file : File)
    (body : String) : (single file body).Faithful := by
  intro other text written
  simp only [single] at written ⊢
  split_ifs at written with same
  cases written
  rw [if_pos rfl, same]

namespace AgentSample

def config : AgentConfig where
  nodeId := "node-a"
  serverUrl := "https://runlane.example"
  serverTrustRootPath := "/etc/runlane/trust.pem"
  identityPath := "/var/lib/runlane/identity.yaml"
  certificatePath := "/etc/runlane/agent.pem"
  privateKeyPath := "/etc/runlane/agent.key"
  spoolDir := "/var/spool/runlane"
  platformFamily := .linux

def identity : AgentIdentityMetadata where
  nodeId := "node-a"
  platformFamily := .linux
  certificateFingerprint := "sha256:demo"
  serverTrustRootPath := "/etc/runlane/trust.pem"
  certificatePath := "/etc/runlane/agent.pem"
  privateKeyPath := "/etc/runlane/agent.key"
  enrolledAtUnixSeconds := 100
  expiresAtUnixSeconds := some 200

def configBody : String :=
  "node_id: node-a\nserver_url: https://runlane.example\n" ++
    "server_trust_root_path: /etc/runlane/trust.pem\n" ++
    "identity_path: /var/lib/runlane/identity.yaml\n" ++
    "certificate_path: /etc/runlane/agent.pem\nprivate_key_path: /etc/runlane/agent.key\n" ++
    "spool_dir: /var/spool/runlane\nplatform_family: linux\n"

def identityBody : String :=
  "node_id: node-a\nplatform_family: linux\ncertificate_fingerprint: sha256:demo\n" ++
    "server_trust_root_path: /etc/runlane/trust.pem\n" ++
    "certificate_path: /etc/runlane/agent.pem\nprivate_key_path: /etc/runlane/agent.key\n" ++
    "enrolled_at_unix_seconds: 100\nexpires_at_unix_seconds: 200\n"

def host : AgentHost where
  metadata path :=
    if path = "/var/spool/runlane" then .ok ⟨false, true, 0o40700⟩
    else if path ∈ ["/etc/runlane/trust.pem", "/etc/runlane/agent.pem"] then
      .ok ⟨true, false, 0o100644⟩
    else if path ∈ ["/etc/runlane/agent.yaml", "/etc/runlane/agent.key",
        "/var/lib/runlane/identity.yaml"] then
      .ok ⟨true, false, 0o100600⟩
    else .error "No such file or directory (os error 2)"
  readToString path :=
    if path = "/etc/runlane/agent.yaml" then .ok configBody
    else if path = "/var/lib/runlane/identity.yaml" then .ok identityBody
    else .error "No such file or directory (os error 2)"
  configs := .single config.toFile configBody
  identities := .single identity.toFile identityBody
  debug text := "\"" ++ text ++ "\""

end AgentSample

namespace AgentHost

open AgentSample

theorem installed_identity_accepted_sample :
    AgentSample.host.loadConfig "/etc/runlane/agent.yaml" = .ok config ∧
      AgentSample.host.loadIdentity "/var/lib/runlane/identity.yaml" = .ok identity ∧
      validateIdentityMatchesConfig config identity = .ok () ∧
      ∃ error, validateIdentityMatchesConfig { config with nodeId := "node-b" } identity =
        .error error := by
  have accepted : config.validateShape = .ok () := by decide +kernel
  have made : AgentIdentityMetadata.fromConfig config "sha256:demo" 100 (some 200) =
      .ok identity := by
    decide +kernel
  obtain ⟨-, loaded, installed⟩ := @installed_identity_accepted AgentSample.host
    (SerdeDocument.single_faithful _ _) (SerdeDocument.single_faithful _ _) config accepted
  obtain ⟨-, loadedIdentity, passed, refused⟩ := installed _ _ _ _ made
  refine ⟨loaded _ configBody rfl rfl, loadedIdentity _ identityBody rfl rfl, passed, ?_⟩
  exact refused _ (Or.inl (by decide))

/-- What the startup asks of the files besides their content. -/
structure Guarded (host : AgentHost) (configPath : String) (config : AgentConfig) : Prop where
  configFile : host.checkConfigFilePermissions configPath = .ok ()
  prerequisites : host.validateConfigPrerequisites config = .ok ()
  identityFile : host.checkSecretFilePermissions config.identityPath = .ok ()

theorem validateAgentState_eq_ok {detected : OperatingSystem} {state : AgentState} :
    host.validateAgentState path detected = .ok state ↔
      host.Guarded path state.config ∧ state.config.platformFamily = detected ∧
        host.loadConfig path = .ok state.config ∧
        host.loadIdentity state.config.identityPath = .ok state.identity ∧
        IdentityMatches state.config state.identity := by
  simp only [validateAgentState, Fallible.bind_eq_ok, Fallible.ite_error_eq_ok,
    Fallible.pure_eq_ok, ne_eq, not_not]
  constructor
  · intro started
    obtain ⟨_, configFile, config, loaded, _, prerequisites, platform, _, identityFile, identity,
      loadedIdentity, _, same, rfl⟩ := started
    exact ⟨⟨configFile, prerequisites, identityFile⟩, platform, loaded, loadedIdentity,
      validateIdentityMatchesConfig_eq_ok.mp same⟩
  · intro good
    obtain ⟨guarded, platform, loaded, loadedIdentity, same⟩ := good
    exact ⟨(), guarded.configFile, state.config, loaded, (), guarded.prerequisites, platform,
      (), guarded.identityFile, state.identity, loadedIdentity, (),
      validateIdentityMatchesConfig_eq_ok.mpr same, rfl⟩

/-- Behind guarded files an agent starts with the identities that can be made
from its configuration, and with no other. -/
theorem startup_accepts_made {detected : OperatingSystem} {state : AgentState} :
    host.validateAgentState path detected = .ok state ↔
      host.Guarded path state.config ∧ state.config.platformFamily = detected ∧
        host.loadConfig path = .ok state.config ∧
        (∃ body, host.readToString state.config.identityPath = .ok body ∧
          host.identities.fromStr body = .ok state.identity.toFile) ∧
        ∃ fingerprint enrolledAt expiresAt,
          AgentIdentityMetadata.fromConfig state.config fingerprint enrolledAt expiresAt =
            .ok state.identity := by
  rw [validateAgentState_eq_ok]
  refine and_congr_right fun guarded => and_congr_right fun platform =>
    and_congr_right fun loaded => ?_
  rw [AgentIdentityMetadata.made_iff (loadConfig_eq_ok.mp loaded).1, loadIdentity_eq_ok]
  constructor
  · intro both
    obtain ⟨⟨good, stored⟩, same⟩ := both
    exact ⟨stored, good, same⟩
  · intro both
    obtain ⟨stored, good, same⟩ := both
    exact ⟨⟨good, stored⟩, same⟩

example : AgentSample.host.validateAgentState "/etc/runlane/agent.yaml" .linux =
    .ok ⟨config, identity⟩ := by
  decide +kernel

end AgentHost

end Runlane
