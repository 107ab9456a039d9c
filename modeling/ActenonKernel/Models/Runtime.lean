import ActenonKernel.Models.Contracts
import ActenonKernel.Core.Errors

/-!
# Requests and policy decisions (`actenon/models/runtime.py`)

What an executor is called with.  The fields that only the policy engine and the minter read
(`facts`, `required_evidence_types`, `approver_types`, `max_ttl_seconds` of a context) are left out.
-/

set_option linter.unusedSectionVars false

namespace Actenon

structure DynamicContextInput where
  requestId : String
  audience : AudienceRef
  scopeCapabilities : List String
  now : Datetime
  parameterConstraints : Dict := []
  resourceSelectors : List Dict := []

structure ProtectedExecutionRequest where
  intent : ActionIntent
  pccb : PCCB
  context : DynamicContextInput

inductive PolicyOutcome where
  | allow
  | deny
  | approvalRequired
  | needsEvidence
deriving DecidableEq, Repr

def PolicyOutcome.text : PolicyOutcome → String
  | .allow => "allow"
  | .deny => "deny"
  | .approvalRequired => "approval-required"
  | .needsEvidence => "needs-evidence"

structure RuleEvaluation where
  ruleId : String
  outcome : PolicyOutcome
  reasonCode : String
  summary : String
  details : Dict := []
  requiredEvidence : List String := []
  approverTypes : List String := []

structure PolicyDecision where
  outcome : PolicyOutcome
  summary : String
  ruleEvaluations : List RuleEvaluation
  reasonCodes : List String := []
  requiredEvidence : List String := []
  approverTypes : List String := []

def PolicyDecision.allowed (d : PolicyDecision) : Bool := d.outcome = .allow

/-- a list of texts -/
def strings (xs : List String) : Json := .arr (xs.map .str)

/-- an unmet requirement in the details of a refusal; `list(..)` of its keys can raise -/
def unmetRequirement (e : RuleEvaluation) : Except PyError Json := do
  let keys ← (Dict.getD e.details "evidence_keys" (.arr [])).iterate
  return .obj (members [("reason_code", .str e.reasonCode), ("summary", .str e.summary),
    ("required_evidence", strings e.requiredEvidence),
    ("required_approvals", strings e.approverTypes), ("evidence_keys", .arr keys)])

def policyRefusal (d : PolicyDecision) : Except PyError RefusalException := do
  let unmet ← (d.ruleEvaluations.filter fun e => e.outcome ≠ .allow).mapM unmetRequirement
  return {
    category := "policy"
    refusalCode := d.reasonCodes.head?.getD "POLICY_REFUSED"
    message := d.summary
    retryable := d.outcome = .approvalRequired ∨ d.outcome = .needsEvidence
    ruleRefs := d.ruleEvaluations.map RuleEvaluation.ruleId
    details := members [("policy_outcome", .str d.outcome.text),
      ("reason_codes", strings d.reasonCodes), ("required_evidence", strings d.requiredEvidence),
      ("approver_types", strings d.approverTypes), ("unmet_requirements", .arr unmet)] }

end Actenon
