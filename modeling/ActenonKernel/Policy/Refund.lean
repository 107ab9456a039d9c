import ActenonKernel.Policy.ReceiptEvidence
import ActenonKernel.Receipts.Readable

/-!
# The refund policy (`actenon/policy/refund.py`)

Eight hard rules and the workflow of one tenant.  The rule about the shape of the action denies a
malformed action, and the rules after it read the parameters all the same.

* `RefundActionShapeRule`, .. , `RefundCurrencyMatchRule`    the rules of the module;
* `buildRefundPolicyEngine`       the engine;
* `RefundDecidable`               the parameters and facts that its rules can read;
* `refund_decides_iff`            when the engine decides.
-/

set_option linter.unusedSectionVars false

namespace Actenon

section
variable (P : PolicyPlatform)

/-! ## rules -/

/-- `isinstance(x, int) and x > 0` -/
def positiveInteger : Json → Bool
  | .int n => 0 < n
  | .bool b => b
  | _ => false

/-- `isinstance(x, str) and len(x) == 3 and x.upper() == x` -/
def currencyCode : Json → Bool
  | .str s => s.length = 3 && P.upper s = s
  | _ => false

/-- `expected is not None and observed != expected` -/
def differs (observed : Json) : Json → Bool
  | .null => false
  | expected => !observed.pyEq expected

structure RefundActionShapeRule where
  ruleId : String := "hard.refund.action_shape"

def RefundActionShapeRule.evaluate (self : RefundActionShapeRule) : PolicyRule := fun intent _ =>
  if intent.action.name ≠ "refund.create" then
    .ok (some (denial self.ruleId "REFUND_ACTION_NAME_INVALID"
      "The refund wedge only accepts refund.create action intents."))
  else if intent.action.capability ≠ "refund.execute" then
    .ok (some (denial self.ruleId "REFUND_CAPABILITY_INVALID"
      "The refund wedge only accepts refund.execute capability requests."))
  else if intent.target.resourceType ≠ "payment" then
    .ok (some (denial self.ruleId "REFUND_TARGET_TYPE_INVALID" "Refund execution requires a payment target."))
  else if !positiveInteger (Dict.get intent.action.parameters "amount_minor") then
    .ok (some (denial self.ruleId "REFUND_AMOUNT_INVALID"
      "Refund execution requires a positive integer amount_minor."))
  else if !currencyCode P (Dict.get intent.action.parameters "currency") then
    .ok (some (denial self.ruleId "REFUND_CURRENCY_INVALID"
      "Refund execution requires an uppercase three-letter currency."))
  else .ok none

structure RefundTargetBindingRule where
  ruleId : String := "hard.refund.target_binding"

def RefundTargetBindingRule.evaluate (self : RefundTargetBindingRule) : PolicyRule := fun intent context =>
  let expectedPaymentId := Dict.get context.facts "payment_id"
  if expectedPaymentId.truthy && !(Json.str intent.target.resourceId).pyEq expectedPaymentId then
    .ok (some (denial self.ruleId "REFUND_TARGET_MISMATCH"
      "The refund target does not match the protected payment resource."
      (members [("expected_payment_id", expectedPaymentId)])))
  else .ok none

structure RefundAmountLimitRule where
  ruleId : String := "hard.refund.amount_limit"

def RefundAmountLimitRule.evaluate (self : RefundAmountLimitRule) : PolicyRule := fun intent context => do
  let amountMinor ← pyInt P.toPlatform (← Dict.item intent.action.parameters "amount_minor")
  match Dict.get context.facts "remaining_refundable_minor" with
  | .null => return none
  | remaining =>
    let limit ← pyInt P.toPlatform remaining
    if limit < amountMinor then
      return some (denial self.ruleId "REFUND_AMOUNT_EXCEEDS_BALANCE"
        "The requested refund exceeds the remaining refundable balance."
        (members [("remaining_refundable_minor", remaining), ("requested_amount_minor", .int amountMinor)]))
    return none

structure RefundCurrencyMatchRule where
  ruleId : String := "hard.refund.currency_match"

def RefundCurrencyMatchRule.evaluate (self : RefundCurrencyMatchRule) : PolicyRule := fun intent context => do
  let requestedCurrency ← Dict.item intent.action.parameters "currency"
  let expectedCurrency := Dict.get context.facts "payment_currency"
  if differs requestedCurrency expectedCurrency then
    return some (denial self.ruleId "REFUND_CURRENCY_MISMATCH"
      "The refund currency must match the original payment currency."
      (members [("expected_currency", expectedCurrency), ("requested_currency", requestedCurrency)]))
  return none

/-! ## the engine -/

/-- a workflow rule of the demonstration tenant for one level of risk -/
def riskRule (capability ruleId outcome summary reasonCode level : String) : TenantWorkflowRule where
  ruleId := ruleId
  outcome := outcome
  summary := summary
  reasonCode := reasonCode
  capabilities := [capability]
  requiredFactValues := [("risk_level", .str level)]

def refundWorkflow : List TenantWorkflowRule :=
  [riskRule "refund.execute" "tenant_demo.refund.deny" "deny"
    "The refund workflow denies blocked refund requests." "WORKFLOW_DENY" "blocked",
   { riskRule "refund.execute" "tenant_demo.refund.needs_evidence" "needs-evidence"
      "The refund workflow requires documentary evidence before review-risk refunds can proceed."
      "EVIDENCE_REQUIRED" "review" with requiredEvidenceTypes := ["external_id"] },
   { riskRule "refund.execute" "tenant_demo.refund.approval_required" "approval-required"
      "The refund workflow requires operator approval for elevated-value refunds."
      "APPROVAL_REQUIRED" "approval" with approverTypes := ["finance-operator"] },
   riskRule "refund.execute" "tenant_demo.refund.allow" "allow"
    "The refund workflow authorizes normal-risk refunds." "WORKFLOW_ALLOW" "normal"]

def refundReceiptRule (receiptStore : Option ReceiptLookup) : ReceiptEvidenceVerificationRule where
  receiptStore := receiptStore
  requiredCapability := some "refund.execute"

def buildRefundPolicyEngine (receiptStore : Option ReceiptLookup) : PolicyEngine where
  hardRules := ⟨[IntentChronologyHardRule.evaluate {}, IntentTtlHardRule.evaluate {},
    CapabilityScopeHardRule.evaluate {}, (refundReceiptRule receiptStore).evaluate P,
    RefundActionShapeRule.evaluate P {}, RefundTargetBindingRule.evaluate {},
    RefundAmountLimitRule.evaluate P {}, RefundCurrencyMatchRule.evaluate {}]⟩
  tenantWorkflowRules := { tenantRules := [("tenant_demo", refundWorkflow.map TenantWorkflowRule.evaluate)] }

/-! ## when the engine decides -/

/-- the rules of the refund engine can read what they read -/
structure RefundDecidable (receiptStore : Option ReceiptLookup) (intent : ActionIntent) (context : AdmissionContext) :
    Prop where
  ttl : context.TtlBounded
  evidence : (refundReceiptRule receiptStore).Checkable P intent
  amount : ∃ v, Dict.find intent.action.parameters (.str "amount_minor") = some v ∧
    ∃ n, pyInt P.toPlatform v = .ok n
  remaining : Dict.get context.facts "remaining_refundable_minor" ≠ .null →
    ∃ n, pyInt P.toPlatform (Dict.get context.facts "remaining_refundable_minor") = .ok n
  currency : ∃ v, Dict.find intent.action.parameters (.str "currency") = some v

variable {P} {intent : ActionIntent} {context : AdmissionContext} {receiptStore : Option ReceiptLookup}

theorem refundShape_returns : ∃ r, RefundActionShapeRule.evaluate P {} intent context = .ok r := by
  unfold RefundActionShapeRule.evaluate
  split_ifs
  all_goals exact ⟨_, rfl⟩

theorem refundTarget_returns : ∃ r, RefundTargetBindingRule.evaluate {} intent context = .ok r := by
  unfold RefundTargetBindingRule.evaluate
  dsimp only
  split
  · exact ⟨_, rfl⟩
  · exact ⟨_, rfl⟩

theorem refundAmount_returns : (∃ r, RefundAmountLimitRule.evaluate P {} intent context = .ok r) ↔
    (∃ v, Dict.find intent.action.parameters (.str "amount_minor") = some v ∧ ∃ n, pyInt P.toPlatform v = .ok n) ∧
      (Dict.get context.facts "remaining_refundable_minor" ≠ .null →
        ∃ n, pyInt P.toPlatform (Dict.get context.facts "remaining_refundable_minor") = .ok n) := by
  unfold RefundAmountLimitRule.evaluate
  simp only [Fallible.exists_bind_ok, item_ok]
  constructor
  · rintro ⟨v, hv, n, hn, hrest⟩
    refine ⟨⟨v, hv, n, hn⟩, fun hne => ?_⟩
    split at hrest
    · rename_i h
      exact absurd h hne
    · obtain ⟨limit, hlimit, -⟩ := Fallible.exists_bind_ok.mp hrest
      exact ⟨limit, hlimit⟩
  · rintro ⟨⟨v, hv, n, hn⟩, hremaining⟩
    refine ⟨v, hv, n, hn, ?_⟩
    split
    · exact ⟨_, rfl⟩
    · rename_i hne
      obtain ⟨limit, hlimit⟩ := hremaining hne
      refine Fallible.exists_bind_ok.mpr ⟨limit, hlimit, ?_⟩
      split
      · exact ⟨_, rfl⟩
      · exact ⟨_, rfl⟩

theorem refundCurrency_returns : (∃ r, RefundCurrencyMatchRule.evaluate {} intent context = .ok r) ↔
    ∃ v, Dict.find intent.action.parameters (.str "currency") = some v := by
  unfold RefundCurrencyMatchRule.evaluate
  rw [Fallible.exists_bind_ok]
  simp only [item_ok]
  refine exists_congr fun v => and_iff_left ?_
  split
  · exact ⟨_, rfl⟩
  · exact ⟨_, rfl⟩

/-- the rules of the only tenant, or none -/
theorem rules_of_tenant {tenantId : String} {rules : List PolicyRule} {layer : TenantWorkflowRuleLayer}
    (hlayer : layer = { tenantRules := [(tenantId, rules)] }) :
    layer.rules intent = if intent.tenant.tenantId = tenantId then rules else [] := by
  subst hlayer
  unfold TenantWorkflowRuleLayer.rules TenantWorkflowRuleLayer.rulesOf
  rw [List.nil_append, List.lookup_cons]
  by_cases h : intent.tenant.tenantId = tenantId
  · rw [if_pos h, beq_iff_eq.mpr h]
    rfl
  · rw [if_neg h, beq_eq_false_iff_ne.mpr h]
    rfl

/-- **When the refund engine decides.** -/
theorem refund_decides_iff :
    (∃ d, (buildRefundPolicyEngine P receiptStore).evaluate intent context = .ok d) ↔
      RefundDecidable P receiptStore intent context := by
  have hworkflow : ∀ rule ∈ (buildRefundPolicyEngine P receiptStore).tenantWorkflowRules.rules intent,
      ∃ r, rule intent context = .ok r := by
    intro rule hrule
    have hrules : (buildRefundPolicyEngine P receiptStore).tenantWorkflowRules.rules intent = _ :=
      rules_of_tenant rfl
    rw [hrules] at hrule
    split at hrule
    · obtain ⟨workflow, -, rfl⟩ := List.mem_map.mp hrule
      exact workflow_returns workflow
    · cases hrule
  rw [evaluate_returns, and_iff_left fun _ => hworkflow]
  unfold buildRefundPolicyEngine
  simp only [List.forall_mem_cons, List.not_mem_nil, false_implies, implies_true, and_true, ttl_returns,
    receiptEvidence_returns, refundAmount_returns, refundCurrency_returns]
  constructor
  · rintro ⟨-, httl, -, hevidence, -, -, ⟨hamount, hremaining⟩, hcurrency⟩
    exact ⟨httl, hevidence, hamount, hremaining, hcurrency⟩
  · intro h
    exact ⟨chronology_returns _, h.ttl, capabilityScope_returns _, h.evidence, refundShape_returns,
      refundTarget_returns, ⟨h.amount, h.remaining⟩, h.currency⟩

end

end Actenon
