import Runlane.Agent.Provisioning

/-!
What provisioning leaves on the disk, however far it gets.

Only the document itself is written, and without `force` only where no file was.
A new file is closed to others from the start; one that is replaced keeps its mode
until the last call, and keeps it for good if a call fails before. A failure is a
stop at one of the calls, so what is said of every outcome is also said of every
moment.
-/

namespace Runlane

open Frame Fallible

namespace ProvisioningHost

/-- A location where a file may be written: that of the path, and a file that is
there already only with `force`. -/
structure Replaces (host : ProvisioningHost) (path : String) (force : Bool) (disk : Disk)
    (location : String) : Prop where
  same : location = host.locate path
  free : force = true ∨ disk.fileAt location = none

variable {host : ProvisioningHost} {written : String → Prop}

theorem run_attempt (call : Syscall) (path blamed : String) (disk : Disk) :
    (host.attempt call path blamed).run disk =
      if host.fails disk call then .error (.io blamed (host.reason disk call)) disk
      else .ok (disk (host.locate path)) disk := by
  simp only [attempt, EStateM.run_bind, EStateM.run_get, resolve]
  cases host.fails disk call with
  | true => rfl
  | false => rfl

theorem attempt_eq_ok {call : Syscall} {path blamed : String} {disk next : Disk}
    {node : Option DiskNode} (made : (host.attempt call path blamed).run disk = .ok node next) :
    node = disk (host.locate path) ∧ next = disk := by
  rw [run_attempt] at made
  split at made
  next => cases made
  next =>
    cases made
    exact ⟨rfl, rfl⟩

theorem keeps_attempt (call : Syscall) (path blamed : String) :
    Keeps (Disk.Careful written) (host.attempt call path blamed) := by
  refine keeps_of_same fun disk => ?_
  cases refused : host.fails disk call with
  | true => exact left_of_error ((run_attempt call path blamed disk).trans (if_pos refused))
  | false =>
      exact left_of_ok ((run_attempt call path blamed disk).trans (if_neg (by simp [refused])))

theorem keeps_fail {α : Type} (call : Syscall) (blamed : String) :
    Keeps (Disk.Careful written) (host.fail call blamed : Provisioning α) :=
  keeps_of_same fun _ => rfl

/-- A call looks at the node that its path leads to and then does the rest. -/
theorem keeps_attempt_bind {α : Type} {call : Syscall} {path blamed : String}
    {rest : Option DiskNode → Provisioning α}
    (each : ∀ disk, Disk.Careful written disk (left (rest (disk (host.locate path))) disk)) :
    Keeps (Disk.Careful written) (host.attempt call path blamed >>= rest) := by
  intro disk
  refine left_bind (keeps_attempt call path blamed disk) ?_
  intro node next made
  obtain ⟨rfl, rfl⟩ := attempt_eq_ok made
  exact each next

theorem keeps_createDir (blamed path : String) :
    Keeps (Disk.Careful written) (host.createDir blamed path) := by
  refine keeps_attempt_bind fun disk => ?_
  cases found : disk (host.locate path) with
  | none => exact Disk.careful_set (.inr found) (.inr ⟨_, rfl⟩) (.inl ⟨_, rfl⟩) nofun
  | some node =>
      cases node with
      | file => exact keeps_fail _ _ disk
      | directory => exact keeps_pure () disk

theorem keeps_createDirAll (path : String) :
    Keeps (Disk.Careful written) (host.createDirAll path) := by
  unfold createDirAll
  split
  next => exact keeps_pure ()
  next => exact keeps_forM _ fun _ _ => keeps_createDir _ _

theorem keeps_createParent (path : String) :
    Keeps (Disk.Careful written) (host.createParent path) := by
  unfold createParent
  split
  next parent _ => exact keeps_createDirAll parent
  next => exact keeps_pure ()

theorem keeps_setPermissions {path : String} {mode : Nat} (may : written (host.locate path))
    (hidden : mode &&& 0o077 = 0) :
    Keeps (Disk.Careful written) (host.setPermissions path mode) := by
  refine keeps_attempt_bind fun disk => ?_
  cases found : disk (host.locate path) with
  | none => exact keeps_fail _ _ disk
  | some node =>
      cases node with
      | file =>
          refine Disk.careful_set (.inl may) (.inl may) (.inr ?_) ?_
          · intro other present
            cases found.symm.trans present
          · intro other body same
            cases same
            exact .inl hidden
      | directory => exact Disk.careful_set (.inl may) (.inl may) (.inl ⟨_, rfl⟩) nofun

/-- The mode that a private file is created with shows it to nobody else. -/
theorem created_hidden : host.created 0o600 &&& 0o077 = 0 := by
  rw [created, Nat.and_assoc, Nat.and_comm _ 0o077, ← Nat.and_assoc]
  exact Nat.zero_and _

theorem keeps_openRestrictive {path : String} (force : Bool) (may : written (host.locate path)) :
    Keeps (Disk.Careful written) (host.openRestrictive path force) := by
  refine keeps_attempt_bind fun disk => ?_
  cases found : disk (host.locate path) with
  | none =>
      refine Disk.careful_set (.inr found) (.inl may) (.inr ?_) ?_
      · intro other present
        cases found.symm.trans present
      · intro mode body same
        cases same
        exact .inl created_hidden
  | some node =>
      cases force with
      | false =>
          cases node with
          | file => exact keeps_throw _ disk
          | directory => exact keeps_throw _ disk
      | true =>
          cases node with
          | directory => exact keeps_fail _ _ disk
          | file mode old =>
              refine Disk.careful_set (.inl may) (.inl may) (.inr ?_) ?_
              · intro other present
                cases found.symm.trans present
              · intro mode' body same
                cases same
                exact .inr ⟨may, old, Disk.fileAt_eq_some.mpr found⟩

theorem careful_rewrite {disk : Disk} {location old : String} {mode : Nat} (body : String)
    (may : written location) (present : disk.fileAt location = some (mode, old)) :
    Disk.Careful written disk (disk.set location (.file mode body)) := by
  refine Disk.careful_set (.inl may) (.inl may) (.inr ?_) ?_
  · intro other found
    rw [Disk.fileAt_eq_some, found] at present
    cases present
  · intro mode' body' same
    cases same
    exact .inr ⟨may, old, present⟩

theorem keeps_writeAll {path : String} (body : String) (may : written (host.locate path)) :
    Keeps (Disk.Careful written) (host.writeAll path body) := by
  refine keeps_get_bind fun disk => ?_
  cases found : disk.fileAt (host.locate path) with
  | none => exact keeps_fail _ _ disk
  | some file =>
      obtain ⟨mode, old⟩ := file
      have rewritten (text : String) := careful_rewrite text may found
      dsimp only
      split
      next => exact rewritten _
      next => exact rewritten _

theorem keeps_syncAll (path : String) : Keeps (Disk.Careful written) (host.syncAll path) :=
  keeps_attempt_bind fun disk => keeps_pure () disk

section Success

variable {path : String} {mode : Nat} {disk next : Disk}

/-- A call that has succeeded did the rest on the node that its path leads to. -/
theorem attempt_bind_eq_ok {α : Type} {call : Syscall} {blamed : String}
    {rest : Option DiskNode → Provisioning α} {a : α}
    (made : (host.attempt call path blamed >>= rest).run disk = .ok a next) :
    (rest (disk (host.locate path))).run disk = .ok a next := by
  obtain ⟨node, middle, first, second⟩ := run_bind_eq_ok.mp made
  obtain ⟨rfl, rfl⟩ := attempt_eq_ok first
  exact second

theorem createDir_directory {blamed : String}
    (made : (host.createDir blamed path).run disk = .ok () next) :
    ∃ mode, next (host.locate path) = some (.directory mode) := by
  have rest := attempt_bind_eq_ok made
  cases found : disk (host.locate path) with
  | none =>
      rw [found] at rest
      cases rest
      exact ⟨_, Disk.set_same⟩
  | some node =>
      rw [found] at rest
      cases node with
      | file => cases rest
      | directory mode =>
          cases rest
          exact ⟨mode, found⟩

theorem createDirAll_directory (named : path.isEmpty = false)
    (made : (host.createDirAll path).run disk = .ok () next) :
    ∃ mode, next (host.locate path) = some (.directory mode) := by
  rw [createDirAll, if_neg (by simp [named]), List.forM_eq_forM, List.forM_append] at made
  obtain ⟨_, middle, -, last⟩ := run_bind_eq_ok.mp made
  obtain ⟨_, middle', first, done⟩ := run_bind_eq_ok.mp last
  cases done
  exact createDir_directory first

theorem setPermissions_eq_ok (made : (host.setPermissions path mode).run disk = .ok () next) :
    (∃ old body, disk (host.locate path) = some (.file old body) ∧
        next = disk.set (host.locate path) (.file mode body)) ∨
      ∃ old, disk (host.locate path) = some (.directory old) ∧
        next = disk.set (host.locate path) (.directory mode) := by
  have rest := attempt_bind_eq_ok made
  cases found : disk (host.locate path) with
  | none =>
      rw [found] at rest
      cases rest
  | some node =>
      rw [found] at rest
      cases node with
      | file old body =>
          cases rest
          exact .inl ⟨old, body, rfl, rfl⟩
      | directory old =>
          cases rest
          exact .inr ⟨old, rfl, rfl⟩

theorem openRestrictive_eq_ok {force : Bool}
    (made : (host.openRestrictive path force).run disk = .ok () next) :
    ∃ mode, next = disk.set (host.locate path) (.file mode "") := by
  have rest := attempt_bind_eq_ok made
  cases found : disk (host.locate path) with
  | none =>
      rw [found] at rest
      cases rest
      exact ⟨_, rfl⟩
  | some node =>
      rw [found] at rest
      cases force with
      | false => cases node <;> cases rest
      | true =>
          cases node with
          | directory => cases rest
          | file mode =>
              cases rest
              exact ⟨mode, rfl⟩

/-- Without `force` a file that is there stops the opening. -/
theorem openRestrictive_refused {file : Nat × String}
    (present : disk.fileAt (host.locate path) = some file) :
    ∃ error, (host.openRestrictive path false).run disk = .error error disk := by
  obtain ⟨mode, body⟩ := file
  rw [Disk.fileAt_eq_some] at present
  rw [openRestrictive, EStateM.run_bind, run_attempt, present]
  split
  next refused =>
    split at refused
    next => cases refused
    next =>
      cases refused
      exact ⟨_, rfl⟩
  next refused =>
    split at refused
    next =>
      cases refused
      exact ⟨_, rfl⟩
    next => cases refused

theorem writeAll_eq_ok {body old : String}
    (present : disk.fileAt (host.locate path) = some (mode, old))
    (made : (host.writeAll path body).run disk = .ok () next) :
    next = disk.set (host.locate path) (.file mode (old ++ body)) := by
  rw [writeAll, EStateM.run_bind, EStateM.run_get] at made
  simp only [present] at made
  split at made
  next => cases made
  next =>
    cases made
    rfl

theorem syncAll_eq_ok (made : (host.syncAll path).run disk = .ok () next) : next = disk := by
  have rest := attempt_bind_eq_ok made
  cases rest
  rfl

end Success

section Documents

variable {File : Type} {serde : SerdeDocument File} {value : File}

theorem careful_writeYamlRestrictive (serde : SerdeDocument File) (path : String) (value : File)
    (force : Bool) (disk : Disk) :
    Disk.Careful (host.Replaces path force disk) disk
      (left (host.writeYamlRestrictive serde path value force) disk) := by
  refine left_bind (keeps_createParent _ disk) ?_
  intro _ prepared made
  refine left_bind (keeps_ofExcept _ prepared) ?_
  intro body serialized written
  obtain rfl : serialized = prepared :=
    (left_of_ok written).symm.trans (by cases (serde.toString value).mapError _ <;> rfl)
  by_cases free : force = true ∨ disk.fileAt (host.locate path) = none
  · have may : host.Replaces path force disk (host.locate path) := ⟨rfl, free⟩
    have steps : Keeps (Disk.Careful (host.Replaces path force disk)) (do
        host.openRestrictive path force
        host.writeAll path body
        host.syncAll path
        host.setSecretPermissions path) := by
      refine (keeps_openRestrictive force may).bind fun _ => ?_
      refine (keeps_writeAll body may).bind fun _ => ?_
      refine (keeps_syncAll path).bind fun _ => ?_
      exact keeps_setPermissions may (by decide)
    exact steps serialized
  · have unforced : force = false := by simpa using mt Or.inl free
    obtain ⟨file, present⟩ := Option.ne_none_iff_exists'.mp (mt Or.inr free)
    have kept : Disk.Careful (fun _ => False) disk serialized :=
      (keeps_createParent path).of_ok made
    have still : serialized.fileAt (host.locate path) = some file := by
      rw [Disk.fileAt_eq_some] at present ⊢
      exact kept.nodes _ _ id present
    subst unforced
    obtain ⟨error, refused⟩ := openRestrictive_refused still
    refine left_bind ?_ ?_
    · rw [left_of_error refused]
      exact Std.Refl.refl serialized
    · intro _ _ opened
      cases refused.symm.trans opened

theorem writeYamlRestrictive_careful {path : String} {force : Bool} {disk next : Disk}
    (made : (host.writeYamlRestrictive serde path value force).run disk = .ok () next) :
    Disk.Careful (host.Replaces path force disk) disk next :=
  left_of_ok made ▸ careful_writeYamlRestrictive serde path value force disk

theorem writeYamlRestrictive_eq_ok {path : String} {force : Bool} {disk next : Disk}
    (made : (host.writeYamlRestrictive serde path value force).run disk = .ok () next) :
    ∃ body, serde.toString value = .ok body ∧
      next (host.locate path) = some (.file 0o600 body) := by
  obtain ⟨_, prepared, -, rest⟩ := run_bind_eq_ok.mp made
  obtain ⟨body, serialized, formatted, rest⟩ := run_bind_eq_ok.mp rest
  obtain ⟨_, created, opened, rest⟩ := run_bind_eq_ok.mp rest
  obtain ⟨_, filled, wrote, rest⟩ := run_bind_eq_ok.mp rest
  obtain ⟨_, synced, flushed, closed⟩ := run_bind_eq_ok.mp rest
  obtain ⟨mode, rfl⟩ := openRestrictive_eq_ok opened
  have content := writeAll_eq_ok (Disk.fileAt_eq_some.mpr Disk.set_same) wrote
  obtain rfl := syncAll_eq_ok flushed
  have whole : serde.toString value = .ok body := by
    cases written : serde.toString value with
    | error message =>
        rw [written] at formatted
        cases formatted
    | ok text =>
        rw [written] at formatted
        cases formatted
        rfl
  refine ⟨body, whole, ?_⟩
  cases setPermissions_eq_ok closed with
  | inl file =>
      obtain ⟨old, text, found, rfl⟩ := file
      rw [content, Disk.set_same, String.empty_append] at found
      cases found
      exact Disk.set_same
  | inr directory =>
      obtain ⟨old, found, -⟩ := directory
      rw [content, Disk.set_same] at found
      cases found

/-- Without `force` a document is written only where no file was. -/
theorem writeYamlRestrictive_replaces {path : String} {force : Bool} {disk next : Disk}
    (made : (host.writeYamlRestrictive serde path value force).run disk = .ok () next) :
    host.Replaces path force disk (host.locate path) := by
  obtain ⟨_, prepared, parent, rest⟩ := run_bind_eq_ok.mp made
  obtain ⟨body, serialized, formatted, rest⟩ := run_bind_eq_ok.mp rest
  obtain ⟨_, created, opened, -⟩ := run_bind_eq_ok.mp rest
  refine ⟨rfl, ?_⟩
  by_contra kept
  obtain ⟨unforced, taken⟩ := not_or.mp kept
  obtain ⟨⟨mode, old⟩, present⟩ := Option.ne_none_iff_exists'.mp taken
  have careful : Disk.Careful (fun _ => False) disk serialized :=
    IsTrans.trans _ _ _ ((keeps_createParent path).of_ok parent)
      ((keeps_ofExcept _).of_ok formatted)
  have still := careful.nodes _ _ id (Disk.fileAt_eq_some.mp present)
  rw [Bool.not_eq_true] at unforced
  subst unforced
  obtain ⟨error, refused⟩ := openRestrictive_refused (Disk.fileAt_eq_some.mpr still)
  cases refused.symm.trans opened

end Documents

theorem isEmpty_of_isAbsolute {path : String} (absolute : isAbsolute path = true) :
    path.isEmpty = false := by
  rw [← Bool.not_eq_true, String.isEmpty_iff]
  rintro rfl
  revert absolute
  decide +kernel

theorem run_ofExcept_eq_ok {α : Type} {outcome : Except AgentConfigError α} {disk next : Disk}
    {a : α} (made : (ofExcept outcome : Provisioning α).run disk = .ok a next) :
    outcome = .ok a ∧ next = disk := by
  cases outcome with
  | ok b =>
      cases made
      exact ⟨rfl, rfl⟩
  | error e => cases made

theorem ask_eq_ok {α : Type} {question : AgentHost → Except AgentConfigError α}
    {disk next : Disk} {a : α} (made : (host.ask question).run disk = .ok a next) :
    question (host.reading disk) = .ok a ∧ next = disk :=
  run_ofExcept_eq_ok made

/-- A file that may be replaced later could have been replaced before. -/
theorem Replaces.earlier {path : String} {force : Bool} {disk next : Disk} {location : String}
    (careful : Disk.Careful written disk next)
    (spared : ∀ location, written location → disk.fileAt location = none)
    (replaces : host.Replaces path force next location) :
    host.Replaces path force disk location := by
  refine ⟨replaces.same, replaces.free.imp_right fun none => ?_⟩
  by_contra present
  obtain ⟨⟨mode, body⟩, present⟩ := Option.ne_none_iff_exists'.mp present
  have kept : ¬ written location := by
    intro may
    cases present.symm.trans (spared location may)
  have still := careful.nodes _ _ kept (Disk.fileAt_eq_some.mp present)
  cases none.symm.trans (Disk.fileAt_eq_some.mpr still)

theorem spool_location {options : InitConfigOptions} (shape : options.config.Shape)
    {disk prepared spooled : Disk}
    (parent : (host.createParent options.configPath).run disk = .ok () prepared)
    (spool : (host.createDirAll options.config.spoolDir).run prepared = .ok () spooled) :
    Disk.Careful (fun _ => False) disk spooled ∧
      host.Replaces options.config.spoolDir false disk (host.locate options.config.spoolDir) ∧
      ∃ mode, spooled (host.locate options.config.spoolDir) = some (.directory mode) := by
  have careful : Disk.Careful (fun _ => False) disk spooled :=
    IsTrans.trans _ _ _ ((keeps_createParent _).of_ok parent)
      ((keeps_createDirAll _).of_ok spool)
  have absolute := shape.absolute ("spool_dir", options.config.spoolDir)
    (by simp [AgentConfig.paths])
  obtain ⟨mode, present⟩ := createDirAll_directory (isEmpty_of_isAbsolute absolute) spool
  refine ⟨careful, ⟨rfl, .inr ?_⟩, mode, present⟩
  by_contra file
  obtain ⟨⟨mode', body⟩, file⟩ := Option.ne_none_iff_exists'.mp file
  cases present.symm.trans (careful.nodes _ _ id (Disk.fileAt_eq_some.mp file))

theorem initConfig_eq_ok {options : InitConfigOptions} {disk next : Disk}
    (made : (host.initConfig options).run disk = .ok () next) :
    options.config.Shape ∧
      next (host.locate options.config.spoolDir) = some (.directory 0o700) ∧
      ∃ body, host.configs.toString options.config.toFile = .ok body ∧
        next (host.locate options.configPath) = some (.file 0o600 body) := by
  obtain ⟨_, checked, shape, rest⟩ := run_bind_eq_ok.mp made
  obtain ⟨_, prepared, parent, rest⟩ := run_bind_eq_ok.mp rest
  obtain ⟨_, spooled, spool, rest⟩ := run_bind_eq_ok.mp rest
  obtain ⟨_, closed, private_, rest⟩ := run_bind_eq_ok.mp rest
  obtain ⟨accepted, rfl⟩ := run_ofExcept_eq_ok shape
  have shape := AgentConfig.validateShape_eq_ok.mp accepted
  obtain ⟨-, -, mode, directory⟩ := spool_location shape parent spool
  obtain ⟨body, written, file⟩ := writeYamlRestrictive_eq_ok rest
  refine ⟨shape, ?_, body, written, file⟩
  have closedDirectory : closed (host.locate options.config.spoolDir) =
      some (.directory 0o700) := by
    cases setPermissions_eq_ok private_ with
    | inl file =>
        obtain ⟨old, text, found, -⟩ := file
        cases directory.symm.trans found
    | inr same =>
        obtain ⟨old, -, rfl⟩ := same
        exact Disk.set_same
  have careful := writeYamlRestrictive_careful rest
  refine careful.nodes _ _ ?_ closedDirectory
  intro replaced
  obtain ⟨mode', still⟩ := careful.directories _ _ closedDirectory
  rw [replaced.same] at still
  cases file.symm.trans still

theorem installIdentity_eq_ok {options : InstallIdentityOptions} {disk next : Disk}
    {identity : AgentIdentityMetadata}
    (made : (host.installIdentity options).run disk = .ok identity next) :
    ∃ config, (host.reading disk).checkConfigFilePermissions options.configPath = .ok () ∧
      (host.reading disk).loadConfig options.configPath = .ok config ∧
      (host.reading disk).validateConfigPrerequisites config = .ok () ∧
      AgentIdentityMetadata.fromConfig config options.certificateFingerprint
        options.enrolledAtUnixSeconds options.expiresAtUnixSeconds = .ok identity ∧
      (host.writeYamlRestrictive host.identities config.identityPath identity.toFile
        options.force).run disk = .ok () next := by
  obtain ⟨_, _, asked, loading⟩ := run_bind_eq_ok.mp made
  obtain ⟨permitted, rfl⟩ := ask_eq_ok asked
  obtain ⟨config, _, asked, checking⟩ := run_bind_eq_ok.mp loading
  obtain ⟨loaded, rfl⟩ := ask_eq_ok asked
  obtain ⟨_, _, asked, forming⟩ := run_bind_eq_ok.mp checking
  obtain ⟨prerequisites, rfl⟩ := ask_eq_ok asked
  obtain ⟨_, _, formed, writing⟩ := run_bind_eq_ok.mp forming
  obtain ⟨fromConfig, rfl⟩ := run_ofExcept_eq_ok formed
  obtain ⟨_, _, written, done⟩ := run_bind_eq_ok.mp writing
  cases done
  exact ⟨config, permitted, loaded, prerequisites, fromConfig, written⟩

end ProvisioningHost

end Runlane
