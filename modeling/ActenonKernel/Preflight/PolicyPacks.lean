import ActenonKernel.Lib.PyString
import ActenonKernel.Receipts.Factory

/-!
# The policy packs of preflight (`actenon/preflight/policy_packs.py`, `actenon/preflight/models.py`)

A rule reads an intent and an evidence dictionary and returns nothing or a result; a pack is a list
of rules.  Every rule that asks for an approval is `unlessApproved` at what it asks for.

* `PreflightPlatform`          the platform with `str.lower`, which may be any function;
* `env`, `evidenceValue`, `stringValue`, `rowCount`    how a value is looked up and read;
* `approvalSatisfied`          the approval test of all packs;
* `RuleResult`, `PolicyPack`   results and packs;
* `destructiveActionsPack`, `dataPrivacyPack`, `accessGovernancePack`, `paymentsPack`, `clinicalPack`.
-/

set_option linter.unusedSectionVars false

namespace Actenon

/-- the platform with the texts of the interpreter -/
structure PreflightPlatform extends Platform where
  /-- `s.lower()` -/
  lower : String → String

/-- `s.strip()` -/
def stripText (s : String) : String := String.ofList (PyString.strip s.toList)

/-! ## results -/

inductive PreflightOutcome where
  | allow
  | deny
  | approvalRequired
  | needsEvidence
deriving DecidableEq, Repr

def PreflightOutcome.text : PreflightOutcome → String
  | .allow => "allow"
  | .deny => "deny"
  | .approvalRequired => "approval_required"
  | .needsEvidence => "needs_evidence"

inductive RiskLevel where
  | low
  | medium
  | high
  | critical
deriving DecidableEq, Repr

structure EvidenceKey where
  key : String
  valueType : String
  example_ : Json
  description : String
  required : Bool := true

/-- what `_result` returns -/
structure RuleResult where
  outcome : PreflightOutcome
  reasonCode : String
  summary : String
  riskLevel : RiskLevel
  matchedRules : List String
  requiredEvidence : List String := []
  requiredApprovals : List String := []
  evidenceKeys : List EvidenceKey := []
  metadata : Dict := []

/-- a rule: nothing or a result, or an exception -/
abbrev PreflightRule := ActionIntent → Dict → Except PyError (Option RuleResult)

structure PolicyPack where
  packId : String
  displayName : String
  rules : List PreflightRule
  isTemplate : Bool := false
  disclaimer : Json := .null

/-! ## capabilities -/

def destructiveAndDataCapabilities : List String :=
  ["database.delete", "database.schema.apply", "infrastructure.delete", "backup.delete", "volume.delete",
    "migration.apply", "deployment.execute", "iam.permission.grant", "data.export", "payment.release"]

def dataPrivacyCapabilities : List String :=
  ["data.export", "data.download", "data.share", "data.sync.external", "report.generate.external"]

def accessGovernanceCapabilities : List String :=
  ["iam.permission.grant", "iam.role.assign", "iam.role.membership.change", "iam.api_key.create",
    "iam.credential.rotate", "workspace.share"]

def paymentsCapabilities : List String :=
  ["payment.create", "payment.release", "payment.transfer", "payment.refund", "invoice.approve",
    "payout.release", "bank_details.update"]

def clinicalTemplateCapabilities : List String :=
  ["clinical.note.draft", "clinical.note.publish", "clinical.record.update", "medication.order",
    "treatment_plan.change"]

/-- the capabilities of `_requires_backup`, and of the rule for production -/
def productionDestructiveCapabilities : List String :=
  ["database.delete", "infrastructure.delete", "backup.delete", "volume.delete", "migration.apply",
    "database.schema.apply"]

/-! ## reading values -/

/-- `a or b` -/
def Json.orElse (a b : Json) : Json := if a.truthy then a else b

section
variable (T : PreflightPlatform) (intent : ActionIntent) (evidence : Dict)

def env : Except PyError String := do
  let raw := (Dict.get evidence "environment").orElse
    ((Dict.get intent.action.parameters "environment").orElse
      ((Dict.get intent.target.selectors "environment").orElse
        ((Dict.get intent.context "environment").orElse (.str "unknown"))))
  let text ← pyStr T.toPlatform raw
  return T.lower text

/-- `_truthy`, of a value -/
def truthyValue : Json → Bool
  | .bool b => b
  | .null => false
  | .str s => T.lower (stripText s) ∉ ["", "0", "false", "no", "n", "none", "null", "missing", "absent",
      "unavailable"]
  | j => j.truthy

def hasChangeTicket : Bool :=
  truthyValue T (Dict.get evidence "change_ticket")
    || truthyValue T (Dict.get intent.action.parameters "change_ticket")
    || truthyValue T (Dict.get intent.context "change_ticket")

def hasBackupEvidence : Bool :=
  truthyValue T (Dict.get evidence "backup_verified") || truthyValue T (Dict.get evidence "backup_snapshot")
    || truthyValue T (Dict.get intent.action.parameters "backup_verified")
    || truthyValue T (Dict.get intent.context "backup_verified")

def requiresBackup (capability : String) : Bool := capability ∈ productionDestructiveCapabilities

def approvalPresent : Bool :=
  truthyValue T (Dict.get evidence "verified_approval_present")
    || truthyValue T (Dict.get evidence "approval_present")
    || truthyValue T (Dict.get intent.action.parameters "approval_present")
    || truthyValue T (Dict.get intent.context "approval_present")

/-- a text, or the texts of a list; nothing for another value -/
def typeTexts : Json → Except PyError (List String)
  | .str s => .ok [s]
  | .arr xs | .tup xs => xs.mapM (pyStr T.toPlatform)
  | _ => .ok []

/-- the member with the types that the caller asserts -/
def assertedTypes : Json :=
  (Dict.get evidence "approver_types").orElse
    ((Dict.get intent.action.parameters "approver_types").orElse
      ((Dict.get intent.context "approver_types").orElse (.tup [])))

def approverTypes : Except PyError (List String) := do
  let verified ← typeTexts T ((Dict.get evidence "verified_approver_types").orElse (.tup []))
  match assertedTypes intent evidence with
  | .str s => return (verified ++ [s]).eraseDups
  | .arr xs | .tup xs => do
    let texts ← xs.mapM (pyStr T.toPlatform)
    return (verified ++ texts).eraseDups
  | _ => return verified

def approvalSatisfied (requiredApprovals : List String) : Except PyError Bool :=
  if approvalPresent T intent evidence then do
    let provided ← approverTypes T intent evidence
    return provided.isEmpty || requiredApprovals.all (· ∈ provided)
  else .ok false

/-- the row count as it is supplied, `none` when it is not -/
def suppliedRowCount : Option Json :=
  (Dict.find evidence (.str "row_count")).or
    ((Dict.find intent.action.parameters (.str "row_count")).or
      (Dict.find intent.action.parameters (.str "records")))

/-- `try: int(raw) except (TypeError, ValueError): 0` -/
def intOrZero (raw : Json) : Except PyError Int :=
  match pyInt T.toPlatform raw with
  | .ok n => .ok n
  | .error e => if e.kind = .typeError ∨ e.kind = .valueError then .ok 0 else .error e

def rowCount : Except PyError Int := intOrZero T ((suppliedRowCount intent evidence).getD (.int 0))

/-- a value of the evidence, of the parameters or of the context, `none` when there is none -/
def suppliedValue (key : String) : Option Json :=
  (Dict.find evidence (.str key)).or
    ((Dict.find intent.action.parameters (.str key)).or (Dict.find intent.context (.str key)))

/-- `_value` -/
def evidenceValue (key : String) (dflt : Json := .null) : Json := (suppliedValue intent evidence key).getD dflt

def stringValue (key : String) (dflt : String := "") : Except PyError String := do
  let text ← pyStr T.toPlatform (evidenceValue intent evidence key (.str dflt))
  return T.lower (stripText text)

def stringValues (key : String) : Except PyError (List String) :=
  match evidenceValue intent evidence key (.tup []) with
  | .str s => .ok (if stripText s ≠ "" then [T.lower (stripText s)] else [])
  | .arr xs | .tup xs => do
    let texts ← xs.mapM (pyStr T.toPlatform)
    return ((texts.map stripText).filter (· ≠ "")).map T.lower
  | _ => .ok []

def sensitivityClassification : Except PyError String := do
  let first ← stringValue T intent evidence "sensitivity_classification"
  if first ≠ "" then return first
  let second ← stringValue T intent evidence "data_classification"
  if second ≠ "" then return second
  stringValue T intent evidence "sensitivity"

def isExternalDestination : Except PyError Bool := do
  let destination ← stringValue T intent evidence "destination"
  let classification ← stringValue T intent evidence "destination_classification"
  return ["http://", "https://", "s3://", "gs://"].any (fun p => p.toList.isPrefixOf destination.toList)
    || destination ∈ ["external", "third_party", "vendor"]
    || classification ∈ ["external", "third_party", "vendor"]

end

/-! ## shared rules -/

def approvalEvidenceKeys (requiredApprovals : List String) : List EvidenceKey :=
  [⟨"approval_present", "boolean", .bool true,
      "Set true only after the required approval has been verified.", true⟩,
    ⟨"approver_types", "array[string]", strings requiredApprovals,
      "Approval roles present for this exact action.", true⟩,
    ⟨"approval_artifacts", "array[approval_artifact.v1]", .arr [],
      "Preferred: signed approvals bound to this exact action.", true⟩,
    ⟨"approval_trusted_keys", "array[key_discovery.v1]", .arr [],
      "Pinned public keys for the signed approval artifacts.", true⟩]

/-- a rule that asks for approvals: what it asks for is dropped once `_approval_satisfied` holds -/
def unlessApproved (T : PreflightPlatform) (ask : PreflightRule) : PreflightRule := fun intent evidence => do
  match ← ask intent evidence with
  | none => return none
  | some result =>
    if result.outcome = .approvalRequired then
      let satisfied ← approvalSatisfied T intent evidence result.requiredApprovals
      return if satisfied then none else some result
    else return some result

def domainCapabilityRule (packId : String) (capabilities : List String) : PreflightRule := fun intent _ =>
  if intent.action.capability ∈ capabilities then .ok none
  else .ok (some {
    outcome := .needsEvidence
    reasonCode := "PREFLIGHT_CAPABILITY_NOT_COVERED"
    summary := s!"The action capability is not covered by the {packId} policy pack."
    riskLevel := .medium
    matchedRules := [packId ++ ".capability_not_covered"]
    requiredEvidence := ["policy_pack_selection"]
    evidenceKeys := [⟨"policy_pack_selection", "string", .str packId,
      "Select a policy pack that explicitly covers this action capability.", true⟩]
    metadata := members [("capability", .str intent.action.capability)] })

def requirementsSatisfiedRule (packId summary : String) : PreflightRule := fun intent _ =>
  .ok (some {
    outcome := .allow
    reasonCode := "PREFLIGHT_REQUIREMENTS_SATISFIED"
    summary := summary
    riskLevel := .low
    matchedRules := [packId ++ ".requirements_satisfied"]
    metadata := members [("capability", .str intent.action.capability)] })

/-! ## the default pack -/

section
variable (T : PreflightPlatform)

def unsupportedCapability : PreflightRule := fun intent evidence =>
  if intent.action.capability ∈ destructiveAndDataCapabilities then .ok none
  else do
    let text ← pyStr T.toPlatform (Dict.getD evidence "capability_classification" (.str ""))
    if T.lower (stripText text) = "non_consequential" then return none
    return some {
      outcome := .needsEvidence
      reasonCode := "PREFLIGHT_CAPABILITY_UNCLASSIFIED"
      summary := "The action capability is not covered by the default preflight policy pack."
      riskLevel := .medium
      matchedRules := ["destructive_data.capability_unclassified"]
      requiredEvidence := ["capability_classification"]
      evidenceKeys := [⟨"capability_classification", "string", .str "non_consequential",
        "Use non_consequential only after locally reviewing a capability outside the default policy pack.", true⟩]
      metadata := members [("capability", .str intent.action.capability)] }

def missingChangeTicket : PreflightRule := fun intent evidence => do
  let capability := intent.action.capability
  let environment ← env T intent evidence
  if capability ∈ destructiveAndDataCapabilities ∧ environment = "production"
      ∧ ¬ hasChangeTicket T intent evidence then
    return some {
      outcome := .needsEvidence
      reasonCode := "PREFLIGHT_CHANGE_TICKET_REQUIRED"
      summary := "Production consequential action requires a change ticket before execution."
      riskLevel := .high
      matchedRules := ["destructive_data.change_ticket_required"]
      requiredEvidence := ["change_ticket"]
      evidenceKeys := [⟨"change_ticket", "string", .str "CHG-2026-0042",
        "Verified change-ticket identifier bound to this action.", true⟩]
      metadata := members [("environment", .str environment), ("capability", .str capability)] }
  else return none

def missingBackupEvidence : PreflightRule := fun intent evidence => do
  let capability := intent.action.capability
  let environment ← env T intent evidence
  if environment = "production" ∧ requiresBackup capability ∧ ¬ hasBackupEvidence T intent evidence then
    return some {
      outcome := .needsEvidence
      reasonCode := "PREFLIGHT_BACKUP_EVIDENCE_REQUIRED"
      summary := "Production destructive action requires current backup evidence before execution."
      riskLevel := .high
      matchedRules := ["destructive_data.backup_evidence_required"]
      requiredEvidence := ["backup_verified"]
      evidenceKeys := [⟨"backup_verified", "boolean", .bool true,
        "True only after a current backup has been verified.", true⟩]
      metadata := members [("environment", .str environment), ("capability", .str capability)] }
  else return none

/-- what `productionDestructiveWithoutApproval` asks for -/
def productionDestructiveAsk : PreflightRule := fun intent evidence => do
  let capability := intent.action.capability
  let environment ← env T intent evidence
  let metadata := members [("environment", .str environment), ("capability", .str capability)]
  if environment ≠ "production" ∨ capability ∉ productionDestructiveCapabilities then return none
  if capability = "backup.delete" then
    return some {
      outcome := .deny
      reasonCode := "PREFLIGHT_PRODUCTION_BACKUP_DELETE_DENIED"
      summary := "Production backup deletion is denied by the default preflight policy pack."
      riskLevel := .critical
      matchedRules := ["destructive_data.production_backup_delete_denied"]
      metadata := metadata }
  let requiredApprovals := ["infrastructure_owner", "security_admin"]
  return some {
    outcome := .approvalRequired
    reasonCode := "PREFLIGHT_PRODUCTION_DESTRUCTIVE_APPROVAL_REQUIRED"
    summary := "Production destructive action requires explicit approval before execution."
    riskLevel := .critical
    matchedRules := ["destructive_data.production_destructive_approval_required"]
    requiredApprovals := requiredApprovals
    evidenceKeys := approvalEvidenceKeys requiredApprovals
    metadata := metadata }

def productionDestructiveWithoutApproval : PreflightRule := unlessApproved T (productionDestructiveAsk T)

/-- what `broadDataExport` asks for -/
def broadDataExportAsk : PreflightRule := fun intent evidence =>
  if intent.action.capability ≠ "data.export" then .ok none
  else do
    let rows ← rowCount T intent evidence
    let sensitive := truthyValue T (Dict.getD evidence "sensitive_data"
      (Dict.get intent.action.parameters "sensitive_data"))
    let external ← isExternalDestination T intent evidence
    let requiredApprovals := ["data_owner", "privacy_reviewer"]
    if decide (10000 ≤ rows) || sensitive || external then
      return some {
        outcome := .approvalRequired
        reasonCode := "PREFLIGHT_BROAD_DATA_EXPORT_APPROVAL_REQUIRED"
        summary := "Broad or sensitive data export requires approval before execution."
        riskLevel := .high
        matchedRules := ["destructive_data.broad_data_export_approval_required"]
        requiredApprovals := requiredApprovals
        evidenceKeys := approvalEvidenceKeys requiredApprovals
        metadata := members [("row_count", .int rows), ("sensitive_data", .bool sensitive),
          ("external_destination", .bool external)] }
    else return none

def broadDataExport : PreflightRule := unlessApproved T (broadDataExportAsk T)

/-- what `adminPermissionGrant` asks for -/
def adminPermissionAsk : PreflightRule := fun intent evidence =>
  if intent.action.capability ≠ "iam.permission.grant" then .ok none
  else do
    let text ← pyStr T.toPlatform (Dict.getD evidence "role" (Dict.getD intent.action.parameters "role"
      (Dict.getD intent.action.parameters "permission" (.str ""))))
    let role := T.lower text
    let requiredApprovals := ["security_admin"]
    if role ∈ ["admin", "administrator", "owner", "root", "superuser"] || role.toList.contains '*' then
      return some {
        outcome := .approvalRequired
        reasonCode := "PREFLIGHT_ADMIN_PERMISSION_APPROVAL_REQUIRED"
        summary := "Admin or wildcard permission grant requires approval before execution."
        riskLevel := .high
        matchedRules := ["destructive_data.admin_permission_approval_required"]
        requiredApprovals := requiredApprovals
        evidenceKeys := approvalEvidenceKeys requiredApprovals
        metadata := members [("role", .str role)] }
    else return none

def adminPermissionGrant : PreflightRule := unlessApproved T (adminPermissionAsk T)

/-- the names of environments that are not production -/
def nonProductionNames : List String := ["sandbox", "dev", "development", "test", "staging"]

def sandboxLowRiskAllow : PreflightRule := fun intent evidence => do
  let environment ← env T intent evidence
  if environment ∈ nonProductionNames then
    return some {
      outcome := .allow
      reasonCode := "PREFLIGHT_SANDBOX_LOW_RISK_ALLOWED"
      summary := "Sandbox or non-production consequential action is allowed by the default preflight policy pack."
      riskLevel := .low
      matchedRules := ["destructive_data.sandbox_low_risk_allowed"]
      metadata := members [("environment", .str environment), ("capability", .str intent.action.capability)] }
  else return none

def defaultDecision : PreflightRule := fun intent evidence => do
  let environment ← env T intent evidence
  if environment = "unknown" then
    return some {
      outcome := .needsEvidence
      reasonCode := "PREFLIGHT_CONTEXT_REQUIRED"
      summary := "Preflight needs an environment classification before this action can proceed."
      riskLevel := .medium
      matchedRules := ["destructive_data.context_required"]
      requiredEvidence := ["environment"]
      evidenceKeys := [⟨"environment", "string", .str "production",
        "Deployment environment for the exact target action.", true⟩]
      metadata := members [("capability", .str intent.action.capability)] }
  else
    return some {
      outcome := .allow
      reasonCode := "PREFLIGHT_REQUIREMENTS_SATISFIED"
      summary := "All requirements in the default Preflight policy pack are satisfied."
      riskLevel := .low
      matchedRules := ["destructive_data.requirements_satisfied"]
      metadata := members [("environment", .str environment), ("capability", .str intent.action.capability)] }

/-- `build_destructive_actions_policy_pack`, the default -/
def destructiveActionsPack : PolicyPack where
  packId := "destructive_data_v1"
  displayName := "Destructive infrastructure and data actions"
  rules := [unsupportedCapability T, missingChangeTicket T, missingBackupEvidence T,
    productionDestructiveWithoutApproval T, broadDataExport T, adminPermissionGrant T, sandboxLowRiskAllow T,
    defaultDecision T]

/-! ## data privacy -/

/-- the arguments of `build_data_privacy_policy_pack` -/
structure DataPrivacyConfig where
  broadExportRowThreshold : Int := 10000
  positive : 1 ≤ broadExportRowThreshold := by decide
  allowedExternalDestinations : List String := []
  allowedResidencyPairs : List (String × String) := []

/-- the destinations, stripped and in lower case -/
def DataPrivacyConfig.destinations (c : DataPrivacyConfig) : List String :=
  (c.allowedExternalDestinations.filter (stripText · ≠ "")).map fun v => T.lower (stripText v)

def DataPrivacyConfig.residencies (c : DataPrivacyConfig) : List (String × String) :=
  (c.allowedResidencyPairs.filter fun p => stripText p.1 ≠ "" ∧ stripText p.2 ≠ "").map fun p =>
    (T.lower (stripText p.1), T.lower (stripText p.2))

def classificationRequired : PreflightRule := fun intent evidence =>
  if intent.action.capability ∉ dataPrivacyCapabilities then .ok none
  else do
    let sensitivity ← sensitivityClassification T intent evidence
    if sensitivity ≠ "" ∨ truthyValue T (evidenceValue intent evidence "sensitive_data") then return none
    return some {
      outcome := .needsEvidence
      reasonCode := "PREFLIGHT_DATA_CLASSIFICATION_REQUIRED"
      summary := "Data movement requires a sensitivity classification before execution."
      riskLevel := .medium
      matchedRules := ["data_privacy.data_classification_required"]
      requiredEvidence := ["sensitivity_classification"]
      evidenceKeys := [⟨"sensitivity_classification", "string", .str "internal",
        "Classification for the exact dataset, such as public, internal, confidential, restricted, pii, or phi.",
        true⟩] }

/-- what `broadOrSensitiveExport` asks for -/
def broadOrSensitiveAsk (c : DataPrivacyConfig) : PreflightRule := fun intent evidence =>
  if intent.action.capability ∉ dataPrivacyCapabilities then .ok none
  else do
    let rows ← rowCount T intent evidence
    let sensitivity ← sensitivityClassification T intent evidence
    let sensitive := sensitivity ∈ ["confidential", "restricted", "sensitive", "pii", "phi", "financial"]
      || truthyValue T (evidenceValue intent evidence "sensitive_data")
    let external ← isExternalDestination T intent evidence
    let requiredApprovals := ["data_owner", "privacy_reviewer"]
    if decide (c.broadExportRowThreshold ≤ rows) || sensitive || external then
      return some {
        outcome := .approvalRequired
        reasonCode := "PREFLIGHT_BROAD_DATA_EXPORT_APPROVAL_REQUIRED"
        summary := "Broad, sensitive, or external data movement requires data-owner and privacy approval."
        riskLevel := .high
        matchedRules := ["data_privacy.broad_export_approval_required"]
        requiredApprovals := requiredApprovals
        evidenceKeys := approvalEvidenceKeys requiredApprovals
        metadata := members [("row_count", .int rows), ("row_threshold", .int c.broadExportRowThreshold),
          ("sensitivity_classification", .str sensitivity), ("external_destination", .bool external)] }
    else return none

def broadOrSensitiveExport (c : DataPrivacyConfig) : PreflightRule := unlessApproved T (broadOrSensitiveAsk T c)

def externalDestinationControl (c : DataPrivacyConfig) : PreflightRule := fun intent evidence =>
  if intent.action.capability ∉ dataPrivacyCapabilities then .ok none
  else do
    let external ← isExternalDestination T intent evidence
    if !external then return none
    let destination ← stringValue T intent evidence "destination"
    if destination ∈ c.destinations T
        ∨ truthyValue T (evidenceValue intent evidence "destination_allowlisted")
        ∨ truthyValue T (evidenceValue intent evidence "external_egress_approved") then return none
    return some {
      outcome := .needsEvidence
      reasonCode := "PREFLIGHT_EXTERNAL_EGRESS_EVIDENCE_REQUIRED"
      summary := "External data movement requires an allow-listed destination or verified egress exception."
      riskLevel := .high
      matchedRules := ["data_privacy.external_egress_evidence_required"]
      requiredEvidence := ["destination_allowlisted", "external_egress_approved"]
      evidenceKeys := [⟨"destination_allowlisted", "boolean", .bool true,
          "True when the exact destination is on the deployment's reviewed allow-list.", true⟩,
        ⟨"external_egress_approved", "boolean", .bool true,
          "True only after a reviewed exception authorizes this exact external destination.", true⟩]
      metadata := members [("destination", .str destination)] }

def residencyControl (c : DataPrivacyConfig) : PreflightRule := fun intent evidence =>
  if intent.action.capability ∉ dataPrivacyCapabilities then .ok none
  else do
    let source ← stringValue T intent evidence "source_residency"
    let destination ← stringValue T intent evidence "destination_residency"
    if source = "" ∨ destination = "" ∨ source = destination then return none
    if (source, destination) ∈ c.residencies T
        ∨ truthyValue T (evidenceValue intent evidence "residency_allowed") then return none
    return some {
      outcome := .needsEvidence
      reasonCode := "PREFLIGHT_RESIDENCY_EVIDENCE_REQUIRED"
      summary := "Cross-residency data movement requires verified residency authorization."
      riskLevel := .high
      matchedRules := ["data_privacy.residency_evidence_required"]
      requiredEvidence := ["residency_allowed"]
      evidenceKeys := [⟨"residency_allowed", "boolean", .bool true,
        "True only when policy permits this exact source-to-destination residency pair.", true⟩]
      metadata := members [("source_residency", .str source), ("destination_residency", .str destination)] }

/-- `build_data_privacy_policy_pack` -/
def dataPrivacyPack (c : DataPrivacyConfig) : PolicyPack where
  packId := "data_privacy_v1"
  displayName := "Data privacy and external egress"
  rules := [domainCapabilityRule "data_privacy_v1" dataPrivacyCapabilities, classificationRequired T,
    broadOrSensitiveExport T c, externalDestinationControl T c, residencyControl T c,
    requirementsSatisfiedRule "data_privacy" "Data privacy requirements are satisfied for this action."]

/-! ## access governance -/

def defaultPrivilegedRoles : List String := ["admin", "administrator", "owner", "root", "superuser"]

/-- the privileged roles, stripped and in lower case -/
def privilegedSet (privilegedRoles : List String) : List String :=
  (privilegedRoles.filter (stripText · ≠ "")).map fun r => T.lower (stripText r)

/-- `_string_value(.., "role") or _string_value(.., "permission")` -/
def roleText (intent : ActionIntent) (evidence : Dict) : Except PyError String := do
  let role ← stringValue T intent evidence "role"
  if role ≠ "" then return role
  stringValue T intent evidence "permission"

/-- what `privilegedOrStandingAccess` asks for -/
def privilegedAccessAsk (privilegedRoles : List String) : PreflightRule := fun intent evidence =>
  if intent.action.capability ∉ accessGovernanceCapabilities then .ok none
  else do
    let role ← roleText T intent evidence
    let roleTier ← stringValue T intent evidence "role_tier"
    let accessMode ← stringValue T intent evidence "access_mode" "jit"
    let wildcard := role.toList.contains '*'
    let privilegedRole := role ∈ privilegedSet T privilegedRoles || roleTier ∈ ["admin", "privileged", "critical"]
    let standingAccess := accessMode = "standing"
    let requiredApprovals := ["security_admin", "resource_owner"]
    if privilegedRole || wildcard || standingAccess then
      return some {
        outcome := .approvalRequired
        reasonCode := "PREFLIGHT_PRIVILEGED_ACCESS_APPROVAL_REQUIRED"
        summary := "Privileged, wildcard, or standing access requires security and resource-owner approval."
        riskLevel := .high
        matchedRules := ["access_governance.privileged_access_approval_required"]
        requiredApprovals := requiredApprovals
        evidenceKeys := approvalEvidenceKeys requiredApprovals
        metadata := members [("role", .str role), ("role_tier", .str roleTier), ("access_mode", .str accessMode)] }
    else return none

def privilegedOrStandingAccess (privilegedRoles : List String) : PreflightRule :=
  unlessApproved T (privilegedAccessAsk T privilegedRoles)

/-- the result of `separation_of_duties` -/
def separationViolation : RuleResult where
  outcome := .deny
  reasonCode := "PREFLIGHT_SEPARATION_OF_DUTIES_VIOLATION"
  summary := "The requesting subject cannot satisfy its own privileged-access approval."
  riskLevel := .critical
  matchedRules := ["access_governance.separation_of_duties"]
  evidenceKeys := [⟨"approver_ids", "array[string]",
    .arr [.str "security-reviewer-42", .str "resource-owner-17"],
    "Verified approver identities for separation-of-duties evaluation.", true⟩]

def separationOfDuties : PreflightRule := fun intent evidence =>
  if intent.action.capability ∉ accessGovernanceCapabilities then .ok none
  else if !approvalPresent T intent evidence then .ok none
  else do
    let approverIds ← stringValues T intent evidence "approver_ids"
    let requesterIsApprover := truthyValue T (evidenceValue intent evidence "requester_is_approver")
    if T.lower intent.requester.id ∉ approverIds ∧ !requesterIsApprover then return none
    return some separationViolation

/-- `build_access_governance_policy_pack` -/
def accessGovernancePack (privilegedRoles : List String := defaultPrivilegedRoles) : PolicyPack where
  packId := "access_governance_v1"
  displayName := "IAM and access governance"
  rules := [domainCapabilityRule "access_governance_v1" accessGovernanceCapabilities, separationOfDuties T,
    privilegedOrStandingAccess T privilegedRoles,
    requirementsSatisfiedRule "access_governance" "Access-governance requirements are satisfied for this action."]

/-! ## payments -/

/-- the argument of `build_payments_policy_pack` -/
structure PaymentsConfig where
  approvalThresholdMinor : Int := 100000
  positive : 1 ≤ approvalThresholdMinor := by decide

/-- the amount as it is supplied, `none` when it is not -/
def suppliedAmount (intent : ActionIntent) (evidence : Dict) : Option Json :=
  (suppliedValue intent evidence "amount_minor").or (suppliedValue intent evidence "notional_minor")

def newPayee (intent : ActionIntent) (evidence : Dict) : Bool :=
  truthyValue T (evidenceValue intent evidence "new_payee")

def destinationChanged (intent : ActionIntent) (evidence : Dict) : Bool :=
  intent.action.capability = "bank_details.update"
    || truthyValue T (evidenceValue intent evidence "destination_changed")

/-- what `paymentApproval` asks for -/
def paymentApprovalAsk (c : PaymentsConfig) : PreflightRule := fun intent evidence =>
  if intent.action.capability ∉ paymentsCapabilities then .ok none
  else do
    let amountMinor ← intOrZero T ((suppliedAmount intent evidence).getD (.int 0))
    let requiredApprovals := ["finance_approver"]
    if decide (c.approvalThresholdMinor ≤ amountMinor)
        || newPayee T intent evidence || destinationChanged T intent evidence then
      return some {
        outcome := .approvalRequired
        reasonCode := "PREFLIGHT_PAYMENT_APPROVAL_REQUIRED"
        summary := "High-notional payment or changed payee destination requires finance approval."
        riskLevel := .high
        matchedRules := ["payments.payment_approval_required"]
        requiredApprovals := requiredApprovals
        evidenceKeys := approvalEvidenceKeys requiredApprovals
        metadata := members [("amount_minor", .int amountMinor),
          ("approval_threshold_minor", .int c.approvalThresholdMinor),
          ("new_payee", .bool (newPayee T intent evidence)),
          ("destination_changed", .bool (destinationChanged T intent evidence))] }
    else return none

def paymentApproval (c : PaymentsConfig) : PreflightRule := unlessApproved T (paymentApprovalAsk T c)

def payeeVerification : PreflightRule := fun intent evidence =>
  if intent.action.capability ∉ paymentsCapabilities then .ok none
  else if !(newPayee T intent evidence || destinationChanged T intent evidence) then .ok none
  else if truthyValue T (evidenceValue intent evidence "payee_verified")
      ∧ truthyValue T (evidenceValue intent evidence "destination_verified") then .ok none
  else .ok (some {
    outcome := .needsEvidence
    reasonCode := "PREFLIGHT_PAYEE_DESTINATION_VERIFICATION_REQUIRED"
    summary := "New or changed payment destinations require verified payee and destination evidence."
    riskLevel := .high
    matchedRules := ["payments.payee_destination_verification_required"]
    requiredEvidence := ["payee_verified", "destination_verified"]
    evidenceKeys := [⟨"payee_verified", "boolean", .bool true,
        "True after the payee identity has been verified for this action.", true⟩,
      ⟨"destination_verified", "boolean", .bool true,
        "True after the exact bank, wallet, or payout destination has been verified.", true⟩] })

/-- `build_payments_policy_pack` -/
def paymentsPack (c : PaymentsConfig) : PolicyPack where
  packId := "payments_v1"
  displayName := "Payments and destination controls"
  rules := [domainCapabilityRule "payments_v1" paymentsCapabilities, paymentApproval T c, payeeVerification T,
    requirementsSatisfiedRule "payments" "Payment policy requirements are satisfied for this action."]

/-! ## the clinical template -/

/-- what `highRiskClinicalAction` asks for -/
def highRiskClinicalAsk : PreflightRule := fun intent evidence =>
  if intent.action.capability ∉ clinicalTemplateCapabilities then .ok none
  else do
    let risk ← stringValue T intent evidence "clinical_risk"
    let requiredApprovals := ["licensed_clinician"]
    if intent.action.capability ∈ ["medication.order", "treatment_plan.change", "clinical.note.publish"]
          || risk ∈ ["high", "critical"] then
      return some {
        outcome := .approvalRequired
        reasonCode := "PREFLIGHT_CLINICAL_REVIEW_REQUIRED"
        summary := "This template requires licensed-clinician review for the selected clinical action."
        riskLevel := .high
        matchedRules := ["clinical_template.clinical_review_required"]
        requiredApprovals := requiredApprovals
        evidenceKeys := approvalEvidenceKeys requiredApprovals
        metadata := members [("clinical_risk", .str risk)] }
    else return none

def highRiskClinicalAction : PreflightRule := unlessApproved T (highRiskClinicalAsk T)

/-- `build_clinical_policy_pack_template` -/
def clinicalPack : PolicyPack where
  packId := "clinical_template_v1"
  displayName := "Clinical workflow TEMPLATE (not certified guidance)"
  rules := [domainCapabilityRule "clinical_template_v1" clinicalTemplateCapabilities, highRiskClinicalAction T,
    requirementsSatisfiedRule "clinical_template" "The illustrative clinical-template requirements are satisfied."]
  isTemplate := true
  disclaimer := .str
    "Illustrative template only. It is not certified clinical guidance, medical advice, or a substitute for local clinical governance."

/-- the packs that the module builds, with their arguments -/
inductive BuiltInPack where
  | destructiveActions
  | dataPrivacy (c : DataPrivacyConfig)
  | accessGovernance (privilegedRoles : List String)
  | payments (c : PaymentsConfig)
  | clinical

def BuiltInPack.pack : BuiltInPack → PolicyPack
  | .destructiveActions => destructiveActionsPack T
  | .dataPrivacy c => dataPrivacyPack T c
  | .accessGovernance roles => accessGovernancePack T roles
  | .payments c => paymentsPack T c
  | .clinical => clinicalPack T

end

end Actenon
