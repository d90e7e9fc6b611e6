import Runlane.Fleet.Repository
import Runlane.Helper.Input

/-!
One allowlist document, read by the fleet loader and by the helper.

The loader reads the text into a struct, whose text fields take any scalar; the
helper looks for strings in the value that the text stands for. The two have each
its own list of actions. So a document that the fleet loader accepts may be refused
on the node, for its action or for the way its fields are written.
-/

namespace Runlane

namespace Fleet

open Fallible Yaml

/-- The struct and the value that are read from one allowlist have the same fields: the
value is a mapping of no others, and each is a scalar written as the text in the struct. -/
def FleetYaml.AllowlistFaithful (yaml : FleetYaml) : Prop :=
  ∀ body raw value, yaml.allowlist body = .ok raw → yaml.value body = .ok value →
    value.FieldsAmong [("id", raw.id), ("action", raw.action),
      ("target_resource_id", raw.targetResourceId)]

theorem validateActions_eq_ok {path : String} {actions : List String} :
    validateActions path actions = .ok () ↔ ∀ action ∈ actions, action ∈ knownActions := by
  rw [validateActions, forM_eq_ok]
  refine forall₂_congr fun action _ => ?_
  by_cases known : action ∈ knownActions
  · simp [known]
  · simp [known, invalid]

theorem validateResources_eq_ok {path : String} {resources : List String} :
    validateResources path resources = .ok () ↔
      ∀ resource ∈ resources, isResourceId resource = true := by
  rw [validateResources, forM_eq_ok]
  refine forall₂_congr fun resource _ => ?_
  cases isResourceId resource with
  | true => simp
  | false => simp [invalid]

theorem parseAllowlist_eq_ok {yaml : FleetYaml} {path body : String}
    {document : FleetAllowlistEntryDoc} :
    parseAllowlist yaml path body = .ok document ↔
      yaml.allowlist body = .ok ⟨document.id, document.action, document.targetResourceId⟩ ∧
        document.action ∈ knownActions ∧ isResourceId document.targetResourceId = true := by
  simp only [parseAllowlist, parseYaml, bind_eq_ok, mapError_eq_ok, pure_eq_ok]
  constructor
  · intro parsed
    obtain ⟨raw, read, _, actions, _, resources, rfl⟩ := parsed
    exact ⟨read, validateActions_eq_ok.mp actions _ List.mem_cons_self,
      validateResources_eq_ok.mp resources _ List.mem_cons_self⟩
  · intro valid
    obtain ⟨read, known, resource⟩ := valid
    refine ⟨_, read, (), validateActions_eq_ok.mpr ?_, (), validateResources_eq_ok.mpr ?_, rfl⟩
    · intro action member
      rwa [List.mem_singleton.mp member]
    · intro resource' member
      rwa [List.mem_singleton.mp member]

theorem onlyString_of_action {action : String} (known : action ∈ knownActions) :
    Value.OnlyString action := by
  have all : ∀ action ∈ knownActions, action ∉ Value.nullTexts ∧ action ∉ Value.boolTexts ∧
      (action.toList.any fun c => !Value.numberChars.contains c) = true := by
    decide
  obtain ⟨notNull, notBool, notNumber⟩ := all action known
  obtain ⟨c, member, other⟩ := List.any_eq_true.mp notNumber
  exact ⟨notNull, notBool, c, member, by simpa using other⟩

theorem onlyString_of_resourceId {resource : String} (valid : isResourceId resource = true) :
    Value.OnlyString resource := by
  have colon : ':' ∈ resource.toList := by
    cases split : Text.splitOnce ':' resource with
    | none => simp [isResourceId, split] at valid
    | some parts => exact Text.mem_of_splitOnce split
  have apart : ∀ text ∈ Value.nullTexts ++ Value.boolTexts, ':' ∉ text.toList := by decide
  refine ⟨?_, ?_, ':', colon, by decide⟩
  · intro null
    exact apart _ (List.mem_append_left _ null) colon
  · intro bool
    exact apart _ (List.mem_append_right _ bool) colon

theorem string_eq_ok {value : Value} {key text : String} :
    Helper.string value key = .ok text ↔ (value.get key).bind Value.asStr = some text := by
  unfold Helper.string
  cases (value.get key).bind Value.asStr with
  | none => simp
  | some found => simp

theorem parseAllowlistEntry_eq_ok {value : Value} {entry : HelperAllowlistEntry} :
    Helper.parseAllowlistEntry value = .ok entry ↔
      Helper.string value "id" = .ok entry.id ∧
        (∃ action, Helper.string value "action" = .ok action ∧
          Helper.parseAction action = .ok entry.action) ∧
        Helper.string value "target_resource_id" = .ok entry.targetResourceId := by
  simp only [Helper.parseAllowlistEntry, bind_eq_ok, pure_eq_ok]
  constructor
  · intro parsed
    obtain ⟨id, hid, action, haction, kind, hkind, resource, hresource, rfl⟩ := parsed
    exact ⟨hid, ⟨action, haction, hkind⟩, hresource⟩
  · intro parsed
    obtain ⟨hid, ⟨action, haction, hkind⟩, hresource⟩ := parsed
    exact ⟨_, hid, action, haction, _, hkind, _, hresource, rfl⟩

/-- A document without entries is itself the only entry. -/
theorem parseAllowlist_single {value : Value} {entry : HelperAllowlistEntry}
    (single : value.get "entries" = none) :
    Helper.parseAllowlist value = .ok ⟨[entry]⟩ ↔ Helper.parseAllowlistEntry value = .ok entry := by
  simp only [Helper.parseAllowlist, single, Option.bind_none, bind_eq_ok, pure_eq_ok]
  constructor
  · intro parsed
    obtain ⟨entry', parsed, same⟩ := parsed
    cases same
    exact parsed
  · intro parsed
    exact ⟨entry, parsed, rfl⟩

theorem parseAction_known {action : String} (known : action ∈ knownActions) :
    (∃ kind, Helper.parseAction action = .ok kind) ↔ action ≠ "collect.more_logs" := by
  simp only [knownActions, List.mem_cons, List.not_mem_nil, or_false] at known
  obtain rfl | rfl | rfl | rfl := known
  · exact iff_of_true ⟨_, rfl⟩ (by decide)
  · exact iff_of_true ⟨_, rfl⟩ (by decide)
  · exact iff_of_true ⟨_, rfl⟩ (by decide)
  · exact iff_of_false (by rintro ⟨kind, parsed⟩; cases parsed) (by decide)

/-- The helper reads the same text as one entry of the same id and resource, which permits
the action that the document names and no other. -/
def HelperAgrees (yaml : FleetYaml) (body : String) (document : FleetAllowlistEntryDoc) : Prop :=
  ∃ value entry, yaml.value body = .ok value ∧ Helper.parseAllowlist value = .ok ⟨[entry]⟩ ∧
    entry.id = document.id ∧ entry.targetResourceId = document.targetResourceId ∧
    ∀ action target, entry.permits action target = true ↔
      Helper.parseAction document.action = .ok action ∧
        target.resourceId = document.targetResourceId

/-- The text is also a value, its fields are found in it under plain names, and its id is
a string there. -/
def WrittenPlainly (yaml : FleetYaml) (body : String) : Prop :=
  ∃ value, yaml.value body = .ok value ∧ (∃ id, value.get "id" = some id ∧ id.asStr.isSome) ∧
    (value.get "action").isSome ∧ (value.get "target_resource_id").isSome

theorem string_of_spelled {value : Value} {key text : String}
    (present : (value.get key).isSome = true)
    (spelled : ∀ found, value.get key = some found → found.Spells text)
    (only : Value.OnlyString text) : Helper.string value key = .ok text := by
  obtain ⟨found, here⟩ := Option.isSome_iff_exists.mp present
  rw [string_eq_ok, here, Option.bind_some]
  exact (spelled found here).asStr_of_only only

theorem spelled_of_string {value : Value} {key text text' : String}
    (spelled : ∀ found, value.get key = some found → found.Spells text)
    (read : Helper.string value key = .ok text') :
    text' = text ∧ ∃ found, value.get key = some found ∧ found.asStr.isSome = true := by
  obtain ⟨found, here, asStr⟩ := Option.bind_eq_some_iff.mp (string_eq_ok.mp read)
  have isSome : found.asStr.isSome = true := by rw [asStr, Option.isSome_some]
  have same := asStr.symm.trans ((spelled found here).asStr_of_isSome isSome)
  exact ⟨Option.some.inj same, found, here, isSome⟩

/-- The value has the fields of the document, where it has them under plain names. -/
structure SpelledOut (value : Value) (document : FleetAllowlistEntryDoc) : Prop where
  single : value.get "entries" = none
  id : ∀ found, value.get "id" = some found → found.Spells document.id
  action : ∀ found, value.get "action" = some found → found.Spells document.action
  resource : ∀ found, value.get "target_resource_id" = some found →
    found.Spells document.targetResourceId

theorem spelledOut_of_accepted {yaml : FleetYaml} (faithful : yaml.AllowlistFaithful)
    {path body : String} {document : FleetAllowlistEntryDoc} {value : Value}
    (accepted : parseAllowlist yaml path body = .ok document)
    (parsed : yaml.value body = .ok value) : SpelledOut value document := by
  have fields := faithful body _ value (parseAllowlist_eq_ok.mp accepted).1 parsed
  constructor
  · exact fields.get_eq_none (by simp)
  · exact fun _ here => fields.spells here (by simp)
  · exact fun _ here => fields.spells here (by simp)
  · exact fun _ here => fields.spells here (by simp)

theorem SpelledOut.read {value : Value} {document : FleetAllowlistEntryDoc}
    {entry : HelperAllowlistEntry} (spelled : SpelledOut value document)
    (read : Helper.parseAllowlist value = .ok ⟨[entry]⟩) :
    (∃ kind, Helper.parseAction document.action = .ok kind) ∧
      (∃ id, value.get "id" = some id ∧ id.asStr.isSome = true) ∧
      (value.get "action").isSome = true ∧ (value.get "target_resource_id").isSome = true := by
  obtain ⟨id, ⟨name, action, kind⟩, resource⟩ :=
    parseAllowlistEntry_eq_ok.mp ((parseAllowlist_single spelled.single).mp read)
  obtain ⟨-, idFound⟩ := spelled_of_string spelled.id id
  obtain ⟨rfl, found, actionFound, -⟩ := spelled_of_string spelled.action action
  obtain ⟨-, found', resourceFound, -⟩ := spelled_of_string spelled.resource resource
  refine ⟨⟨entry.action, kind⟩, idFound, ?_, ?_⟩
  · rw [actionFound, Option.isSome_some]
  · rw [resourceFound, Option.isSome_some]

/-- The helper agrees with the fleet loader on every accepted document whose action it
knows and whose id is not written as a number, a boolean or null. -/
theorem allowlists_agree_iff {yaml : FleetYaml} (faithful : yaml.AllowlistFaithful)
    {path body : String} {document : FleetAllowlistEntryDoc}
    (accepted : parseAllowlist yaml path body = .ok document) :
    HelperAgrees yaml body document ↔
      document.action ≠ "collect.more_logs" ∧ WrittenPlainly yaml body := by
  obtain ⟨-, known, valid⟩ := parseAllowlist_eq_ok.mp accepted
  rw [← parseAction_known known]
  constructor
  · intro agrees
    obtain ⟨value, entry, parsed, read, -⟩ := agrees
    obtain ⟨kind, plain⟩ := (spelledOut_of_accepted faithful accepted parsed).read read
    exact ⟨kind, value, parsed, plain⟩
  · intro plain
    obtain ⟨⟨kind, named⟩, value, parsed, ⟨found, here, isSome⟩, action, resource⟩ := plain
    have spelled := spelledOut_of_accepted faithful accepted parsed
    have id : Helper.string value "id" = .ok document.id := by
      rw [string_eq_ok, here, Option.bind_some]
      exact (spelled.id found here).asStr_of_isSome isSome
    have action := string_of_spelled action spelled.action (onlyString_of_action known)
    have resource := string_of_spelled resource spelled.resource (onlyString_of_resourceId valid)
    have entry : Helper.parseAllowlistEntry value =
        .ok ⟨document.id, kind, document.targetResourceId⟩ :=
      parseAllowlistEntry_eq_ok.mpr ⟨id, ⟨document.action, action, named⟩, resource⟩
    refine ⟨value, _, parsed, (parseAllowlist_single spelled.single).mpr entry, rfl, rfl, ?_⟩
    intro action' target
    simp only [named, HelperAllowlistEntry.permits, Bool.and_eq_true, decide_eq_true_eq,
      Except.ok.injEq]
    exact and_congr_right fun _ => eq_comm

/-- The allowlist of a fleet repository, for some action. -/
def allowlistBody (action : String) : String :=
  s!"id: allow-sshd\naction: {action}\ntarget_resource_id: system:node/web-01/service/sshd\n"

def allowlistValue (action : String) : Value :=
  .mapping [(.string "id", .string "allow-sshd"), (.string "action", .string action),
    (.string "target_resource_id", .string "system:node/web-01/service/sshd")]

def allowlistYaml (action : String) : FleetYaml where
  value body :=
    if body = allowlistBody action then .ok (allowlistValue action)
    else .error "did not find expected node content"
  allowlist body :=
    if body = allowlistBody action then
      .ok ⟨"allow-sshd", action, "system:node/web-01/service/sshd"⟩
    else .error "did not find expected node content"
  inventoryNode _ := .error "missing field"
  role _ := .error "missing field"
  runbook _ := .error "missing field"
  policy _ := .error "missing field"
  overlay _ := .error "missing field"

theorem allowlistYaml_faithful (action : String) : (allowlistYaml action).AllowlistFaithful := by
  intro body raw value read parsed
  by_cases known : body = allowlistBody action
  · simp only [allowlistYaml, known, if_true] at read parsed
    cases read
    cases parsed
    refine ⟨_, rfl, ?_⟩
    simp [Value.Spells.string]
  · simp [allowlistYaml, known] at read

theorem allowlistYaml_value (action : String) :
    (allowlistYaml action).value (allowlistBody action) = .ok (allowlistValue action) :=
  if_pos rfl

theorem allowlistYaml_accepted {action : String} (known : action ∈ knownActions) :
    parseAllowlist (allowlistYaml action) "allowlist.yaml" (allowlistBody action) =
      .ok ⟨"allow-sshd", action, "system:node/web-01/service/sshd"⟩ := by
  have valid : isResourceId "system:node/web-01/service/sshd" = true := by decide +kernel
  exact parseAllowlist_eq_ok.mpr ⟨if_pos rfl, known, valid⟩

theorem allowlists_agree_restart :
    HelperAgrees (allowlistYaml "service.restart") (allowlistBody "service.restart")
      ⟨"allow-sshd", "service.restart", "system:node/web-01/service/sshd"⟩ := by
  have accepted := allowlistYaml_accepted (by decide : "service.restart" ∈ knownActions)
  have plain : WrittenPlainly (allowlistYaml "service.restart") (allowlistBody "service.restart") :=
    ⟨_, allowlistYaml_value _, ⟨_, rfl, rfl⟩, rfl, rfl⟩
  exact (allowlists_agree_iff (allowlistYaml_faithful _) accepted).mpr ⟨by decide, plain⟩

/-- The fleet loader knows an action that the helper does not. -/
theorem collect_allowlist_refused :
    ¬ ∀ (yaml : FleetYaml) (path body : String) (document : FleetAllowlistEntryDoc),
      yaml.AllowlistFaithful → parseAllowlist yaml path body = .ok document →
        HelperAgrees yaml body document := by
  intro h
  have accepted := allowlistYaml_accepted (by decide : "collect.more_logs" ∈ knownActions)
  obtain ⟨value, entry, parsed, read, -⟩ := h _ _ _ _ (allowlistYaml_faithful _) accepted
  rw [allowlistYaml_value] at parsed
  cases parsed
  cases read

end Fleet

end Runlane
