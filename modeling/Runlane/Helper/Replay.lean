import Runlane.Helper.Execute

/-!
Replay across invocations. The helper keeps no record of the nonces it has
accepted: an invocation knows those its own lease file lists. A nonce is
therefore accepted once exactly as long as the later lease files list it.
-/

namespace Runlane.Helper

open Yaml

/-- One call of `execute` on a node, with the files as they are at that time. -/
structure Invocation where
  host : Host
  args : List String

namespace Invocation

def Succeeds (i : Invocation) : Prop :=
  ∃ text, execute i.host i.args = .ok text

/-- The lease file of the invocation holds a lease with this nonce. -/
def Presents (i : Invocation) (nonce : String) : Prop :=
  ∃ options loaded, ExecuteOptions.parse i.args = .ok options ∧
    LoadedHelperInput.load i.host options = .ok loaded ∧ loaded.lease.claims.nonce = nonce

/-- A successful invocation presents the nonce that its admissible files hold
and do not list. -/
theorem accepts_iff {i : Invocation} {nonce : String} :
    i.Presents nonce ∧ i.Succeeds ↔
      ∃ loaded, Admissible i.host i.args loaded ∧ loaded.lease.claims.nonce = nonce ∧
        loaded.lease.claims.nonce ∉ loaded.seenNonces := by
  constructor
  · rintro ⟨⟨options, loaded, parsed, load, same⟩, done⟩
    obtain ⟨accepted, admissible, unlisted⟩ := execute_isOk.mp done
    obtain ⟨options', parsed', -, load', -⟩ := id admissible
    cases parsed.symm.trans parsed'
    cases load.symm.trans load'
    exact ⟨loaded, admissible, same, unlisted⟩
  · rintro ⟨loaded, admissible, same, unlisted⟩
    obtain ⟨options, parsed, -, load, -⟩ := id admissible
    exact ⟨⟨options, loaded, parsed, load, same⟩,
      execute_isOk.mpr ⟨loaded, admissible, unlisted⟩⟩

end Invocation

/-- Once an invocation with a nonce has succeeded, no later one with it does. -/
def NoncesAcceptedOnce (run : List Invocation) : Prop :=
  run.Pairwise fun earlier later => ∀ nonce, earlier.Presents nonce → earlier.Succeeds →
    later.Presents nonce → ¬ later.Succeeds

/-- Whenever two invocations of the run are admissible under one nonce, and the
earlier lease file does not list it as seen, the later one does. -/
def UsedNoncesListed (run : List Invocation) : Prop :=
  run.Pairwise fun earlier later => ∀ first second,
    Admissible earlier.host earlier.args first → Admissible later.host later.args second →
      first.lease.claims.nonce = second.lease.claims.nonce →
        first.lease.claims.nonce ∉ first.seenNonces →
          second.lease.claims.nonce ∈ second.seenNonces

/-- In a run of the helper no nonce is accepted twice exactly when the lease
files themselves list the nonces used before. -/
theorem nonces_accepted_once_iff (run : List Invocation) :
    NoncesAcceptedOnce run ↔ UsedNoncesListed run := by
  refine List.Pairwise.iff ?_
  intro earlier later
  constructor
  · intro once first second admissible admissible' same unlisted
    refine not_not.mp ?_
    intro unlisted'
    obtain ⟨presents, succeeds⟩ := Invocation.accepts_iff.mpr ⟨first, admissible, rfl, unlisted⟩
    obtain ⟨presents', succeeds'⟩ :=
      Invocation.accepts_iff.mpr ⟨second, admissible', same.symm, unlisted'⟩
    exact once _ presents succeeds presents' succeeds'
  · intro listed nonce presents succeeds presents' succeeds'
    obtain ⟨first, admissible, same, unlisted⟩ := Invocation.accepts_iff.mp ⟨presents, succeeds⟩
    obtain ⟨second, admissible', same', unlisted'⟩ :=
      Invocation.accepts_iff.mp ⟨presents', succeeds'⟩
    exact unlisted' (listed first second admissible admissible' (same.trans same'.symm) unlisted)

namespace Smoke

def leaseText : String :=
"claims:
  lease_id: lease-helper-smoke
  run_id: run-helper-smoke
  approval_id: approval-helper-smoke
  node_id: prod-web-01
  action: service.restart
  target_resource_id: system:node/prod-web-01/service/sshd
  target_subject: sshd
  allowlist_entry_id: allow-prod-web-sshd-restart
  expires_at_unix_seconds: 4102444800
  nonce: nonce-helper-smoke
key_id: smoke-key
signature: smoke-signature
signature_status: valid
seen_nonces: []
"

def requestText : String :=
"lease_id: lease-helper-smoke
action: service.restart
target_resource_id: system:node/prod-web-01/service/sshd
target_subject: sshd
arguments:
  service: sshd
"

def allowlistText : String :=
"entries:
  - id: allow-prod-web-sshd-restart
    action: service.restart
    target_resource_id: system:node/prod-web-01/service/sshd
"

def entry (key text : String) : Value × Value :=
  (.string key, .string text)

def leaseYaml : Value :=
  .mapping [
    (.string "claims", .mapping [
      entry "lease_id" "lease-helper-smoke",
      entry "run_id" "run-helper-smoke",
      entry "approval_id" "approval-helper-smoke",
      entry "node_id" "prod-web-01",
      entry "action" "service.restart",
      entry "target_resource_id" "system:node/prod-web-01/service/sshd",
      entry "target_subject" "sshd",
      entry "allowlist_entry_id" "allow-prod-web-sshd-restart",
      (.string "expires_at_unix_seconds", .number (.posInt 4102444800)),
      entry "nonce" "nonce-helper-smoke"]),
    entry "key_id" "smoke-key",
    entry "signature" "smoke-signature",
    entry "signature_status" "valid",
    (.string "seen_nonces", .sequence [])]

def requestYaml : Value :=
  .mapping [
    entry "lease_id" "lease-helper-smoke",
    entry "action" "service.restart",
    entry "target_resource_id" "system:node/prod-web-01/service/sshd",
    entry "target_subject" "sshd",
    (.string "arguments", .mapping [entry "service" "sshd"])]

def allowlistYaml : Value :=
  .mapping [(.string "entries", .sequence [.mapping [
    entry "id" "allow-prod-web-sshd-restart",
    entry "action" "service.restart",
    entry "target_resource_id" "system:node/prod-web-01/service/sshd"]])]

/-- A host with the three files of the helper's smoke fixture. -/
def host : Host where
  readToString path :=
    if path = "lease-valid.yaml" then .ok leaseText
    else if path = "request-restart.yaml" then .ok requestText
    else if path = "allowlist.yaml" then .ok allowlistText
    else .error "No such file or directory (os error 2)"
  fromStr text :=
    if text = leaseText then .ok leaseYaml
    else if text = requestText then .ok requestYaml
    else if text = allowlistText then .ok allowlistYaml
    else .error "did not find expected node content"

def invocation : Invocation where
  host := host
  args := ["--lease-file", "lease-valid.yaml", "--request-file", "request-restart.yaml",
    "--allowlist-file", "allowlist.yaml", "--node-id", "prod-web-01", "--now", "1780000000",
    "--dry-run"]

def options : ExecuteOptions :=
  ⟨"lease-valid.yaml", "request-restart.yaml", "allowlist.yaml", "prod-web-01", 1780000000, true⟩

theorem readYaml_lease : readYaml host options.leaseFile = .ok leaseYaml := by
  have read : host.readToString options.leaseFile = .ok leaseText := rfl
  refine readYaml_eq_ok read ?_
  simp only [host, if_true]

theorem readYaml_request : readYaml host options.requestFile = .ok requestYaml := by
  have read : host.readToString options.requestFile = .ok requestText := rfl
  have other : requestText ≠ leaseText := by simp [requestText, leaseText]
  refine readYaml_eq_ok read ?_
  simp only [host, if_neg other, if_true]

theorem readYaml_allowlist : readYaml host options.allowlistFile = .ok allowlistYaml := by
  have read : host.readToString options.allowlistFile = .ok allowlistText := rfl
  have notLease : allowlistText ≠ leaseText := by simp [allowlistText, leaseText]
  have notRequest : allowlistText ≠ requestText := by simp [allowlistText, requestText]
  refine readYaml_eq_ok read ?_
  simp only [host, if_neg notLease, if_neg notRequest, if_true]

def loaded : LoadedHelperInput where
  lease := {
    claims := {
      leaseId := "lease-helper-smoke"
      runId := "run-helper-smoke"
      approvalId := "approval-helper-smoke"
      nodeId := "prod-web-01"
      action := .serviceRestart
      target := ⟨"system:node/prod-web-01/service/sshd", "sshd"⟩
      allowlistEntryId := "allow-prod-web-sshd-restart"
      expiresAtUnixSeconds := 4102444800
      nonce := "nonce-helper-smoke" }
    keyId := "smoke-key"
    signature := "smoke-signature" }
  request := ⟨"lease-helper-smoke", .serviceRestart,
    ⟨"system:node/prod-web-01/service/sshd", "sshd"⟩, [⟨"service", "sshd"⟩]⟩
  allowlist := ⟨[⟨"allow-prod-web-sshd-restart", .serviceRestart,
    "system:node/prod-web-01/service/sshd"⟩]⟩
  signatureStatus := .valid
  seenNonces := []

theorem load_files : LoadedHelperInput.load host options = .ok loaded := by
  simp only [LoadedHelperInput.load, readYaml_lease, readYaml_request, readYaml_allowlist]
  rfl

theorem admissible : Admissible invocation.host invocation.args loaded :=
  ⟨options, rfl, rfl, load_files, rfl, by decide, rfl, rfl, rfl, rfl, by decide⟩

end Smoke

/-- The smoke fixture, run twice, is accepted twice. -/
theorem nonce_accepted_twice : ¬ NoncesAcceptedOnce [Smoke.invocation, Smoke.invocation] := by
  intro once
  have accepted : ∃ loaded, Admissible Smoke.invocation.host Smoke.invocation.args loaded ∧
      loaded.lease.claims.nonce = "nonce-helper-smoke" ∧
      loaded.lease.claims.nonce ∉ loaded.seenNonces :=
    ⟨Smoke.loaded, Smoke.admissible, rfl, List.not_mem_nil⟩
  obtain ⟨presents, succeeds⟩ := Invocation.accepts_iff.mpr accepted
  have again := (List.pairwise_cons.mp once).1 Smoke.invocation (List.mem_singleton.mpr rfl)
  exact again _ presents succeeds presents succeeds

end Runlane.Helper
