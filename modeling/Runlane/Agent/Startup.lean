import Runlane.Agent.Custody

/-!
From provisioning to startup.

An agent that was provisioned in two steps starts on the platform that it was
configured for, with the configuration and the identity of the two steps. In
between others may have written to the disk, but not to the configuration. A call
that fails is answered with its own error and with nothing else.
-/

namespace Runlane

open Frame Fallible

/-- The one outcome, or the error of a call that looks at a file and that fails on
this disk. -/
def Settles (host : ProvisioningHost) (disk : Disk) {α : Type}
    (outcome expected : Except AgentConfigError α) : Prop :=
  outcome = expected ∨ ∃ path call, (call = .metadata path ∨ call = .readToString path) ∧
    host.fails disk call = true ∧ outcome = .error (.io path (host.reason disk call))

namespace Settles

variable {host : ProvisioningHost} {disk : Disk} {α β : Type} {expected : Except AgentConfigError β}

theorem of_eq {outcome expected : Except AgentConfigError α} (same : outcome = expected) :
    Settles host disk outcome expected :=
  .inl same

/-- Where no call fails there is one outcome. -/
theorem eq_of_sound {outcome : Except AgentConfigError β}
    (settles : Settles host disk outcome expected)
    (sound : ∀ call, host.fails disk call = false) : outcome = expected := by
  refine settles.resolve_right ?_
  rintro ⟨path, call, -, fails, -⟩
  rw [sound call] at fails
  cases fails

theorem bind {outcome : Except AgentConfigError α} {a : α}
    {rest : α → Except AgentConfigError β} (first : Settles host disk outcome (.ok a))
    (second : Settles host disk (rest a) expected) :
    Settles host disk (outcome >>= rest) expected := by
  cases first with
  | inl same =>
      rw [same]
      exact second
  | inr failed =>
      obtain ⟨path, call, looks, fails, rfl⟩ := failed
      exact .inr ⟨path, call, looks, fails, rfl⟩

/-- A call to the host that gives an answer or fails, and what is made of the answer. -/
theorem of_call {answer : Except String α} {a : α} {path : String} {call : Syscall}
    {rest : α → Except AgentConfigError β}
    (looks : call = .metadata path ∨ call = .readToString path)
    (answers : answer =
      if host.fails disk call then .error (host.reason disk call) else .ok a)
    (second : Settles host disk (rest a) expected) :
    Settles host disk (answer.mapError (.io path) >>= rest) expected := by
  refine bind ?_ second
  cases fails : host.fails disk call with
  | false =>
      rw [fails, if_neg Bool.false_ne_true] at answers
      exact .inl (answers ▸ rfl)
  | true =>
      rw [fails, if_pos rfl] at answers
      exact .inr ⟨path, call, looks, fails, answers ▸ rfl⟩

end Settles

/-- The paths whose files and directory a configuration relies on. -/
def AgentConfig.reliedOn (config : AgentConfig) : List String :=
  [config.serverTrustRootPath, config.certificatePath, config.privateKeyPath, config.spoolDir]

namespace ProvisioningHost

variable {host : ProvisioningHost} {disk next : Disk} {path : String}

theorem metadata_eq_ok {found : FileMetadata}
    (answered : (host.reading disk).metadata path = .ok found) :
    ∃ node, disk (host.locate path) = some node ∧ found = node.metadata := by
  obtain ⟨node, resolved, rest⟩ := bind_eq_ok.mp answered
  unfold resolve at resolved
  split at resolved
  next => cases resolved
  next =>
    cases resolved
    cases present : disk (host.locate path) with
    | none =>
        rw [present] at rest
        cases rest
    | some node =>
        rw [present] at rest
        cases rest
        exact ⟨node, rfl, rfl⟩

theorem metadata_answers {node : DiskNode} (present : disk (host.locate path) = some node) :
    (host.reading disk).metadata path =
      if host.fails disk (.metadata path) then .error (host.reason disk (.metadata path))
      else .ok node.metadata := by
  simp only [reading, resolve, present]
  split
  next => rfl
  next => rfl

theorem readToString_eq_ok {body : String}
    (answered : (host.reading disk).readToString path = .ok body) :
    ∃ mode, disk (host.locate path) = some (.file mode body) := by
  obtain ⟨node, resolved, rest⟩ := bind_eq_ok.mp answered
  unfold resolve at resolved
  split at resolved
  next => cases resolved
  next =>
    cases resolved
    cases present : disk (host.locate path) with
    | none =>
        rw [present] at rest
        cases rest
    | some node =>
        rw [present] at rest
        cases node with
        | directory => cases rest
        | file mode text =>
            cases rest
            exact ⟨mode, rfl⟩

theorem readToString_answers {mode : Nat} {body : String}
    (present : disk (host.locate path) = some (.file mode body)) :
    (host.reading disk).readToString path =
      if host.fails disk (.readToString path) then .error (host.reason disk (.readToString path))
      else .ok body := by
  simp only [reading, resolve, present]
  split
  next => rfl
  next => rfl

/-- A check of the node that a path leads to. -/
def Passes (check : AgentHost → Except AgentConfigError Unit) (path : String)
    (Good : DiskNode → Prop) (host : ProvisioningHost) : Prop :=
  (∀ disk, check (host.reading disk) = .ok () →
    ∃ node, disk (host.locate path) = some node ∧ Good node) ∧
  ∀ disk node, disk (host.locate path) = some node → Good node →
    Settles host disk (check (host.reading disk)) (.ok ())

theorem passes_requireKind (isKind : FileMetadata → Bool) (complaint path : String) :
    host.Passes (fun files => files.requireKind isKind complaint path) path
      fun node => isKind node.metadata = true := by
  refine ⟨?_, ?_⟩
  · intro disk passed
    obtain ⟨found, answered, rest⟩ := bind_eq_ok.mp passed
    obtain ⟨node, present, rfl⟩ := metadata_eq_ok (mapError_eq_ok.mp answered)
    refine ⟨node, present, ?_⟩
    cases kind : isKind node.metadata with
    | true => exact kind
    | false =>
        rw [kind] at rest
        cases rest
  · intro disk node present good
    refine .of_call (.inl rfl) (metadata_answers present) (.of_eq ?_)
    rw [if_neg (by simp [good])]
    rfl

theorem passes_rejectMode (mask : Nat) (complaint path : String) :
    host.Passes (fun files => files.rejectMode mask complaint path) path
      fun node => node.metadata.mode &&& 0o777 &&& mask = 0 := by
  refine ⟨?_, ?_⟩
  · intro disk passed
    obtain ⟨found, answered, rest⟩ := bind_eq_ok.mp passed
    obtain ⟨node, present, rfl⟩ := metadata_eq_ok (mapError_eq_ok.mp answered)
    refine ⟨node, present, ?_⟩
    by_contra shown
    rw [if_pos shown] at rest
    cases rest
  · intro disk node present good
    refine .of_call (.inl rfl) (metadata_answers present) (.of_eq ?_)
    rw [if_neg (not_not.mpr good)]
    rfl

theorem Passes.and {check other : AgentHost → Except AgentConfigError Unit}
    {Good Fine : DiskNode → Prop} (first : host.Passes check path Good)
    (second : host.Passes other path Fine) :
    host.Passes (fun files => do check files; other files) path
      fun node => Good node ∧ Fine node := by
  refine ⟨?_, ?_⟩
  · intro disk passed
    obtain ⟨_, one, two⟩ := bind_eq_ok.mp passed
    obtain ⟨node, present, good⟩ := first.1 disk one
    obtain ⟨same, present', fine⟩ := second.1 disk two
    cases present.symm.trans present'
    exact ⟨node, present, good, fine⟩
  · intro disk node present both
    exact (first.2 disk node present both.1).bind (second.2 disk node present both.2)

theorem passes_configFile (path : String) :
    host.Passes (fun files => files.checkConfigFilePermissions path) path
      fun node => node.metadata.isFile = true ∧ node.metadata.mode &&& 0o777 &&& 0o022 = 0 :=
  (passes_requireKind _ _ path).and (passes_rejectMode _ _ path)

theorem passes_secretFile (path : String) :
    host.Passes (fun files => files.checkSecretFilePermissions path) path
      fun node => node.metadata.isFile = true ∧ node.metadata.mode &&& 0o777 &&& 0o077 = 0 :=
  (passes_requireKind _ _ path).and (passes_rejectMode _ _ path)

/-- A check that a disk has passed is passed where the path leads to the same node. -/
theorem Passes.again {check : AgentHost → Except AgentConfigError Unit} {Good : DiskNode → Prop}
    (passes : host.Passes check path Good) (passed : check (host.reading disk) = .ok ())
    (same : ∀ node, disk (host.locate path) = some node → next (host.locate path) = some node) :
    Settles host next (check (host.reading next)) (.ok ()) := by
  obtain ⟨node, present, good⟩ := passes.1 disk passed
  exact passes.2 next node (same node present) good

theorem prerequisites_again {config : AgentConfig}
    (passed : (host.reading disk).validateConfigPrerequisites config = .ok ())
    (same : ∀ path ∈ config.reliedOn, ∀ node, disk (host.locate path) = some node →
      next (host.locate path) = some node) :
    Settles host next ((host.reading next).validateConfigPrerequisites config) (.ok ()) := by
  simp only [AgentConfig.reliedOn, List.forall_mem_cons] at same
  obtain ⟨trustRoot, certificate, privateKey, spool, -⟩ := same
  obtain ⟨_, rootFile, passed⟩ := bind_eq_ok.mp passed
  obtain ⟨_, rootMode, passed⟩ := bind_eq_ok.mp passed
  obtain ⟨_, certificateFile, passed⟩ := bind_eq_ok.mp passed
  obtain ⟨_, certificateMode, passed⟩ := bind_eq_ok.mp passed
  obtain ⟨_, keyFile, passed⟩ := bind_eq_ok.mp passed
  obtain ⟨_, keyMode, passed⟩ := bind_eq_ok.mp passed
  obtain ⟨_, spoolDirectory, spoolMode⟩ := bind_eq_ok.mp passed
  refine ((passes_requireKind _ _ _).again rootFile trustRoot).bind ?_
  refine ((passes_rejectMode _ _ _).again rootMode trustRoot).bind ?_
  refine ((passes_requireKind _ _ _).again certificateFile certificate).bind ?_
  refine ((passes_rejectMode _ _ _).again certificateMode certificate).bind ?_
  refine ((passes_requireKind _ _ _).again keyFile privateKey).bind ?_
  refine ((passes_secretFile _).again keyMode privateKey).bind ?_
  refine ((passes_requireKind _ _ _).again spoolDirectory spool).bind ?_
  exact (passes_rejectMode _ _ _).again spoolMode spool

theorem loadDocument_settles {File α : Type} {serde : SerdeDocument File}
    {fromFile : File → Except AgentConfigError α} {file : File} {value : α} {mode : Nat}
    {body : String} (present : disk (host.locate path) = some (.file mode body))
    (parsed : serde.fromStr body = .ok file) (read : fromFile file = .ok value) :
    Settles host disk ((host.reading disk).loadDocument serde fromFile path) (.ok value) := by
  refine .of_call (.inr rfl) (readToString_answers present) (.of_eq ?_)
  rw [parsed]
  exact read

theorem loadConfig_unique {config written : AgentConfig} {mode : Nat} {body : String}
    (present : disk (host.locate path) = some (.file mode body)) (shape : written.Shape)
    (parsed : host.configs.fromStr body = .ok written.toFile)
    (loaded : (host.reading disk).loadConfig path = .ok config) : config = written := by
  obtain ⟨good, text, read, found⟩ := AgentHost.loadConfig_eq_ok.mp loaded
  obtain ⟨mode', present'⟩ := readToString_eq_ok read
  cases present.symm.trans present'
  have files : config.toFile = written.toFile := Except.ok.inj (found.symm.trans parsed)
  have first : AgentConfig.fromFile host.debug config.toFile = .ok config :=
    AgentConfig.fromFile_eq_ok.mpr ⟨good, rfl⟩
  have second : AgentConfig.fromFile host.debug config.toFile = .ok written :=
    AgentConfig.fromFile_eq_ok.mpr ⟨shape, files.symm⟩
  exact Except.ok.inj (first.symm.trans second)

/-- A node that the installation leaves alone. -/
theorem install_same {config : AgentConfig} {identity : AgentIdentityMetadata} {force : Bool}
    (written : (host.writeYamlRestrictive host.identities config.identityPath identity.toFile
      force).run disk = .ok () next) {location : String} {node : DiskNode}
    (present : disk location = some node)
    (apart : location ≠ host.locate config.identityPath) : next location = some node :=
  (writeYamlRestrictive_careful written).nodes _ _ (fun replaced => apart replaced.same) present

/-- What is there is not where the identity goes, unless it is a file and the
installation is forced. -/
theorem identity_apart {config : AgentConfig} {identity : AgentIdentityMetadata} {force : Bool}
    (written : (host.writeYamlRestrictive host.identities config.identityPath identity.toFile
      force).run disk = .ok () next) {location : String} {node : DiskNode}
    (present : disk location = some node)
    (forced : force = true → node.metadata.isFile = true →
      location ≠ host.locate config.identityPath) :
    location ≠ host.locate config.identityPath := by
  rintro rfl
  cases node with
  | directory mode =>
      obtain ⟨body, -, file⟩ := writeYamlRestrictive_eq_ok written
      obtain ⟨mode', still⟩ := (writeYamlRestrictive_careful written).directories _ _ present
      cases file.symm.trans still
  | file mode old =>
      cases (writeYamlRestrictive_replaces written).free with
      | inl force => exact forced force rfl rfl
      | inr absent => cases absent.symm.trans (Disk.fileAt_eq_some.mpr present)

theorem provisioned_settles (configsFaithful : host.configs.Faithful)
    (identitiesFaithful : host.identities.Faithful) {init : InitConfigOptions}
    {install : InstallIdentityOptions} {identity : AgentIdentityMetadata}
    {fresh configured found installed : Disk}
    (configuring : (host.initConfig init).run fresh = .ok () configured)
    (untouched : found (host.locate init.configPath) = configured (host.locate init.configPath))
    (samePath : install.configPath = init.configPath)
    (installing : (host.installIdentity install).run found = .ok identity installed)
    (apart : install.force = true → ∀ path ∈ init.configPath :: init.config.reliedOn,
      host.locate path ≠ host.locate init.config.identityPath) (detected : OperatingSystem) :
    Settles host installed
      ((host.reading installed).validateAgentState init.configPath detected)
      (if init.config.platformFamily = detected then .ok ⟨init.config, identity⟩
      else .error (.platformMismatch init.config.platformFamily detected)) := by
  obtain ⟨shape, -, body, serialized, written⟩ := initConfig_eq_ok configuring
  obtain ⟨config, permitted, loaded, prerequisites, formed, writing⟩ :=
    installIdentity_eq_ok installing
  rw [samePath] at permitted loaded
  have present := untouched.trans written
  obtain rfl := loadConfig_unique present shape (configsFaithful _ _ serialized) loaded
  have kept : ∀ path ∈ init.configPath :: init.config.reliedOn,
      ∀ node, found (host.locate path) = some node →
        installed (host.locate path) = some node := by
    intro path listed node there
    refine install_same writing there (identity_apart writing there ?_)
    exact fun force _ => apart force path listed
  have configThere := kept _ List.mem_cons_self _ present
  obtain ⟨text, serializedIdentity, identityThere⟩ := writeYamlRestrictive_eq_ok writing
  obtain ⟨good, same⟩ := (AgentIdentityMetadata.made_iff shape).mp ⟨_, _, _, formed⟩
  refine ((passes_configFile _).again permitted (kept _ List.mem_cons_self)).bind ?_
  refine (loadDocument_settles configThere (configsFaithful _ _ serialized)
    (AgentConfig.fromFile_eq_ok.mpr ⟨shape, rfl⟩)).bind ?_
  refine (prerequisites_again prerequisites fun path listed =>
    kept path (List.mem_cons_of_mem _ listed)).bind ?_
  by_cases platform : init.config.platformFamily = detected
  · rw [if_pos platform, if_neg (not_not.mpr platform)]
    have hidden : 0o600 &&& 0o777 &&& 0o077 = 0 := by decide
    refine ((passes_secretFile _).2 installed _ identityThere ⟨rfl, hidden⟩).bind ?_
    refine (loadDocument_settles identityThere (identitiesFaithful _ _ serializedIdentity)
      (AgentIdentityMetadata.fromFile_eq_ok.mpr ⟨good, rfl⟩)).bind ?_
    refine .of_eq ?_
    rw [validateIdentityMatchesConfig_eq_ok.mpr same]
    rfl
  · rw [if_neg platform, if_pos platform]
    exact .of_eq rfl

/-- An agent that was provisioned in two steps starts with what the steps wrote,
on the platform that it was configured for and on no other. A start stops short
of that only at a call that fails, with the error of this call. -/
theorem provisioned_agent_starts (configsFaithful : host.configs.Faithful)
    (identitiesFaithful : host.identities.Faithful) {init : InitConfigOptions}
    {install : InstallIdentityOptions} {identity : AgentIdentityMetadata}
    {fresh configured found installed : Disk}
    (configuring : (host.initConfig init).run fresh = .ok () configured)
    (untouched : found (host.locate init.configPath) = configured (host.locate init.configPath))
    (samePath : install.configPath = init.configPath)
    (installing : (host.installIdentity install).run found = .ok identity installed)
    (apart : install.force = true → ∀ path ∈ init.configPath :: init.config.reliedOn,
      host.locate path ≠ host.locate init.config.identityPath) (detected : OperatingSystem) :
    let started := (host.reading installed).validateAgentState init.configPath detected
    let expected : Except AgentConfigError AgentState :=
      if init.config.platformFamily = detected then .ok ⟨init.config, identity⟩
      else .error (.platformMismatch init.config.platformFamily detected)
    ((∀ call, host.fails installed call = false) → started = expected) ∧
      Settles host installed started expected := by
  intro started expected
  have settles : Settles host installed started expected :=
    provisioned_settles configsFaithful identitiesFaithful configuring untouched samePath
      installing apart detected
  exact ⟨settles.eq_of_sound, settles⟩

end ProvisioningHost

namespace AgentSample

def provisioningHost : ProvisioningHost where
  locate path := path
  parent path :=
    if path = "/etc/runlane/agent.yaml" then some "/etc/runlane"
    else if path = "/var/lib/runlane/identity.yaml" then some "/var/lib/runlane"
    else none
  ancestors _ := []
  umask := 0o022
  fails _ _ := false
  reason _ _ := "No such file or directory (os error 2)"
  leftover _ _ body := body
  configs := .single config.toFile configBody
  identities := .single identity.toFile identityBody
  debug := host.debug

/-- The files that were placed by hand. -/
def freshDisk : Disk := fun location =>
  if location ∈ ["/etc/runlane/trust.pem", "/etc/runlane/agent.pem"] then some (.file 0o644 "pem")
  else if location = "/etc/runlane/agent.key" then some (.file 0o600 "key")
  else none

def initOptions : InitConfigOptions where
  configPath := "/etc/runlane/agent.yaml"
  config
  force := false

def installOptions : InstallIdentityOptions where
  configPath := "/etc/runlane/agent.yaml"
  certificateFingerprint := "sha256:demo"
  enrolledAtUnixSeconds := 100
  expiresAtUnixSeconds := some 200
  force := false

/-- A forced rewrite that stops at a call before the last one leaves the old mode. -/
example :
    let host := { provisioningHost with
      fails := fun _ call => match call with
        | .syncAll _ => true
        | _ => false }
    let shown := freshDisk.set "/etc/runlane/agent.yaml" (.file 0o644 "node_id: old\n")
    (left (host.initConfig { initOptions with force := true }) shown).fileAt
      "/etc/runlane/agent.yaml" = some (0o644, configBody) := by
  decide +kernel

theorem provisioned_agent_starts_sample :
    let configured := left (provisioningHost.initConfig initOptions) freshDisk
    let installed := left (provisioningHost.installIdentity installOptions) configured
    (provisioningHost.reading installed).validateAgentState "/etc/runlane/agent.yaml" .linux =
      .ok ⟨config, identity⟩ := by
  intro configured installed
  have configuring : (provisioningHost.initConfig initOptions).run freshDisk = .ok () configured :=
    run_of_run' (by decide +kernel)
  have installing : (provisioningHost.installIdentity installOptions).run configured =
      .ok identity installed :=
    run_of_run' (by decide +kernel)
  exact (ProvisioningHost.provisioned_agent_starts (SerdeDocument.single_faithful _ _)
    (SerdeDocument.single_faithful _ _) configuring rfl rfl installing nofun .linux).1
    fun _ => rfl

end AgentSample

end Runlane
