import ActenonKernel.Evidence.Query
import ActenonKernel.Policy.Engine
import ActenonKernel.Receipts.Readable

/-!
# Decision receipts (`create_decision_receipt` in `actenon/receipts/factory.py`)

What the kernel writes of a decision, up to the fresh identifier.  As with the receipts of an execution,
the receipt of a refund or of an invoice payment quotes parameters of the action, also where the
decision is a denial.

* `refundOperatorSummaryForDecision`, `invoicePaymentOperatorSummaryForDecision`,
  `invoicePaymentDecisionDetails`    the texts and details;
* `decisionReceipt`         the receipt;
* `decisionReceipt_iff`     the parameters and facts it can be built from.
-/

set_option linter.unusedSectionVars false

namespace Actenon

section
variable (P : Platform)

def refundOperatorSummaryForDecision (intent : ActionIntent) (decision : PolicyDecision) : Except PyError String := do
  let amountMinor ← refundAmountMinor P intent
  let currency ← refundCurrency P intent
  let amount ← pyStr P (.int amountMinor)
  let subject := s!"Refund of {amount} {currency} against payment {intent.target.resourceId}"
  return match decision.outcome with
  | .allow => s!"{subject} is authorized for protected execution."
  | .deny => s!"{subject} was denied by policy."
  | .approvalRequired => s!"{subject} requires operator approval before execution."
  | .needsEvidence => s!"{subject} requires more evidence before execution."

/-- `len(x)` -/
def pyLen : Json → Except PyError Nat
  | .str s => .ok s.length
  | .arr xs | .tup xs => .ok xs.length
  | .obj kvs => .ok kvs.length
  | j => typeError s!"object of type '{j.typeName}' has no len()"

def invoicePaymentOperatorSummaryForDecision (intent : ActionIntent) (decision : PolicyDecision) :
    Except PyError String := do
  let params := intent.action.parameters
  let amountMinor ← Dict.item params "amount_minor"
  let currencyOf ← Dict.item params "currency"
  let supplierId ← Dict.item params "supplier_id"
  let invoiceCount ← pyLen (← Dict.item params "invoice_ids")
  let batchId ← Dict.item params "payment_batch_id"
  let amount ← pyStr P amountMinor
  let currency ← pyStr P currencyOf
  let supplier ← pyStr P supplierId
  let batch ← pyStr P batchId
  let subject := s!"Invoice payment of {amount} {currency} to supplier {supplier}"
  return match decision.outcome with
  | .allow => s!"{subject} for {invoiceCount} invoices in batch {batch} is authorized for protected execution."
  | .deny => s!"{subject} for batch {batch} was denied by finance controls."
  | .approvalRequired => s!"{subject} for batch {batch} requires the full approval chain before execution."
  | .needsEvidence => s!"{subject} for batch {batch} requires additional evidence before execution."

/-- the members that name the evaluated rules -/
def ruleEvaluationsMember (decision : PolicyDecision) : Dict :=
  members [("rule_evaluations", strings (decision.ruleEvaluations.map RuleEvaluation.ruleId))]

/-- the members about approvals and evidence -/
def outcomeDetails (intent : ActionIntent) (decision : PolicyDecision) (context : AdmissionContext) :
    Except PyError Dict :=
  match decision.outcome with
  | .approvalRequired => do
    let required ← (Dict.getD context.facts "required_approval_chain" (.tup [])).iterate
    let provided ← (Dict.getD context.facts "provided_approval_chain" (.tup [])).iterate
    return members [("required_approval_chain", .arr required), ("provided_approval_chain", .arr provided)]
  | .needsEvidence =>
    .ok (members [("required_evidence_types", strings decision.requiredEvidence),
      ("provided_evidence_types", strings (intent.evidenceRefs.map EvidenceRef.type))])
  | _ => .ok []

def invoicePaymentDecisionDetails (intent : ActionIntent) (decision : PolicyDecision) (context : AdmissionContext) :
    Except PyError Dict := do
  let details ← invoicePaymentDetailFields intent
  let more ← outcomeDetails intent decision context
  return details ++ ruleEvaluationsMember decision ++ more

/-- the summary and the details of a decision receipt -/
def decisionSummary (intent : ActionIntent) (decision : PolicyDecision) (context : AdmissionContext) :
    Except PyError (String × Dict) := do
  if isRefundIntent intent then
    let summary ← refundOperatorSummaryForDecision P intent decision
    let fields ← refundDetailFields P intent
    return (summary, ruleEvaluationsMember decision ++ fields)
  else if isInvoicePaymentIntent intent then
    let summary ← invoicePaymentOperatorSummaryForDecision P intent decision
    let details ← invoicePaymentDecisionDetails intent decision context
    return (summary, details)
  else return (decision.summary, ruleEvaluationsMember decision)

/-- what has to follow before an execution -/
def decisionFollowUp (decision : PolicyDecision) : Dict :=
  match decision.outcome with
  | .approvalRequired => members [("approver_types", strings decision.approverTypes),
      ("instructions", .str "Additional approval is required before execution.")]
  | .needsEvidence => members [("required_evidence", strings decision.requiredEvidence),
      ("instructions", .str "Additional evidence is required before execution.")]
  | _ => []

/-- the proof that a decision receipt of an allowed action names -/
structure DecisionRefs where
  pccbId : Option String := none
  escrowId : Json := .null
  actionHash : Option ActionHashSpec := none

/-- `create_decision_receipt` before its identifier is drawn -/
def decisionReceipt (intent : ActionIntent) (decision : PolicyDecision) (context : AdmissionContext)
    (refs : DecisionRefs := {}) : Except PyError (String → StoredReceipt) := do
  let (summary, details) ← decisionSummary P intent decision context
  return fun receiptId => {
    receiptId := receiptId
    intentId := intent.intentId
    occurredAt := context.now
    outcome := decision.outcome.text
    phase := some "decision"
    tenant := intent.tenant
    subject := intent.requester
    action := intent.action
    target := intent.target
    correlation := some { pccbId := refs.pccbId, escrowId := refs.escrowId, requestId := some context.requestId,
                          actionHash := refs.actionHash }
    summary := summary
    reasonCodes := decision.reasonCodes
    followUp := decisionFollowUp decision
    sideEffects := members [("state", .str "none")]
    details := details }

/-! ## when there is a receipt -/

structure RefundDecisionReadable (parameters : Dict) : Prop where
  amount : ∃ v n, Dict.find parameters (.str "amount_minor") = some v ∧ pyInt P v = .ok n ∧ HasText P (.int n)
  currency : ∃ v, Dict.find parameters (.str "currency") = some v ∧ HasText P v

/-- a value that can be iterated over -/
def Iterable (x : Json) : Prop := ∃ xs, x.iterate = .ok xs

/-- the chains of approvals that the receipt of an invoice payment copies -/
structure ChainsIterable (context : AdmissionContext) : Prop where
  required : Iterable (Dict.getD context.facts "required_approval_chain" (.tup []))
  provided : Iterable (Dict.getD context.facts "provided_approval_chain" (.tup []))

/-- the parameters a decision receipt of the intent quotes -/
structure DecisionReadable (intent : ActionIntent) : Prop where
  refund : isRefundIntent intent = true → RefundDecisionReadable P intent.action.parameters
  invoice : isInvoicePaymentIntent intent = true → InvoiceReadable P intent.action.parameters

variable {P} {intent : ActionIntent} {decision : PolicyDecision} {context : AdmissionContext}

theorem refundDecisionSummary_iff : (∃ r, (do
      let summary ← refundOperatorSummaryForDecision P intent decision
      let fields ← refundDetailFields P intent
      return (summary, ruleEvaluationsMember decision ++ fields)) = .ok r) ↔
    RefundDecisionReadable P intent.action.parameters := by
  unfold refundOperatorSummaryForDecision refundDetailFields refundAmountMinor refundCurrency
  simp only [Fallible.bind_eq_ok, item_ok]
  constructor
  · rintro ⟨_, _, ⟨n, ⟨v, hv, hn⟩, t, ⟨c, hc, ht⟩, s, hs, -⟩, -⟩
    exact ⟨⟨v, n, hv, hn, s, hs⟩, c, hc, t, ht⟩
  · rintro ⟨⟨v, n, hv, hn, s, hs⟩, c, hc, t, ht⟩
    exact ⟨_, _, ⟨n, ⟨v, hv, hn⟩, t, ⟨c, hc, ht⟩, s, hs, rfl⟩, _, ⟨n, ⟨v, hv, hn⟩, t, ⟨c, hc, ht⟩, rfl⟩, rfl⟩

/-- what can be iterated over has a length -/
theorem pyLen_ok {x : Json} {xs : List Json} (h : x.iterate = .ok xs) : ∃ n, pyLen x = .ok n := by
  cases x with
  | str s => exact ⟨_, rfl⟩
  | arr ys => exact ⟨_, rfl⟩
  | tup ys => exact ⟨_, rfl⟩
  | obj kvs => exact ⟨_, rfl⟩
  | null => cases h
  | bool b => cases h
  | int n => cases h
  | float f => cases h

theorem outcomeDetails_returns : (∃ d, outcomeDetails intent decision context = .ok d) ↔
    (decision.outcome = .approvalRequired → ChainsIterable context) := by
  unfold outcomeDetails
  cases decision.outcome with
  | allow => exact iff_of_true ⟨_, rfl⟩ fun h => nomatch h
  | deny => exact iff_of_true ⟨_, rfl⟩ fun h => nomatch h
  | needsEvidence => exact iff_of_true ⟨_, rfl⟩ fun h => nomatch h
  | approvalRequired =>
    simp only [Fallible.exists_bind_ok, forall_prop_of_true]
    constructor
    · rintro ⟨required, hrequired, provided, hprovided, -⟩
      exact ⟨⟨required, hrequired⟩, provided, hprovided⟩
    · rintro ⟨⟨required, hrequired⟩, provided, hprovided⟩
      exact ⟨required, hrequired, provided, hprovided, _, rfl⟩

/-- the details of an invoice payment are there when its parameters are -/
theorem invoiceDetails_of_readable (h : InvoiceReadable P intent.action.parameters) :
    ∃ d, invoicePaymentDetailFields intent = .ok d := by
  obtain ⟨_, hr⟩ := (@invoice_summary_iff P intent "").mpr h
  obtain ⟨_, -, hr⟩ := Fallible.bind_eq_ok.mp hr
  obtain ⟨fields, hfields, -⟩ := Fallible.bind_eq_ok.mp hr
  exact ⟨fields, hfields⟩

theorem invoiceDecisionSummary_iff : (∃ r, (do
      let summary ← invoicePaymentOperatorSummaryForDecision P intent decision
      let details ← invoicePaymentDecisionDetails intent decision context
      return (summary, details)) = .ok r) ↔
    InvoiceReadable P intent.action.parameters ∧ (decision.outcome = .approvalRequired → ChainsIterable context) := by
  have hmore : (∃ d, outcomeDetails intent decision context = .ok d) ↔ _ := outcomeDetails_returns
  rw [← hmore]
  constructor
  · intro h
    obtain ⟨summary, hsummary, h⟩ := Fallible.exists_bind_ok.mp h
    obtain ⟨details, hdetails, -⟩ := Fallible.exists_bind_ok.mp h
    obtain ⟨fields, hfields, h⟩ := Fallible.bind_eq_ok.mp hdetails
    obtain ⟨more, hmore, -⟩ := Fallible.bind_eq_ok.mp h
    refine ⟨(@invoice_summary_iff P intent "").mp ?_, more, hmore⟩
    unfold invoicePaymentOperatorSummaryForDecision at hsummary
    unfold invoicePaymentOperatorSummaryForRefusal
    simp only [Fallible.bind_eq_ok] at hsummary ⊢
    obtain ⟨v, hv, c, hc, u, hu, w, hw, _, -, b, hb, s, hs, t, ht, x, hx, y, hy, -⟩ := hsummary
    exact ⟨_, _, ⟨v, hv, s, hs, c, hc, t, ht, u, hu, x, hx, b, hb, y, hy, rfl⟩, fields, hfields, rfl⟩
  · rintro ⟨h, more, hmore⟩
    obtain ⟨fields, hfields⟩ := invoiceDetails_of_readable h
    obtain ⟨v, hv, s, hs⟩ := h.texts "amount_minor" (by simp)
    obtain ⟨c, hc, t, ht⟩ := h.texts "currency" (by simp)
    obtain ⟨u, hu, x, hx⟩ := h.texts "supplier_id" (by simp)
    obtain ⟨b, hb, y, hy⟩ := h.texts "payment_batch_id" (by simp)
    obtain ⟨w, xs, hw, hxs⟩ := h.invoices
    obtain ⟨n, hn⟩ := pyLen_ok hxs
    unfold invoicePaymentOperatorSummaryForDecision invoicePaymentDecisionDetails
    simp only [Fallible.bind_eq_ok, item_ok]
    exact ⟨_, _, ⟨v, hv, c, hc, u, hu, w, hw, n, hn, b, hb, s, hs, t, ht, x, hx, y, hy, rfl⟩, _,
      ⟨fields, hfields, more, hmore, rfl⟩, rfl⟩

theorem decisionSummary_iff : (∃ r, decisionSummary P intent decision context = .ok r) ↔
    DecisionReadable P intent ∧
      (isInvoicePaymentIntent intent = true → decision.outcome = .approvalRequired → ChainsIterable context) := by
  unfold decisionSummary
  by_cases hr : isRefundIntent intent = true
  · rw [if_pos hr]
    have hi : isInvoicePaymentIntent intent = false := refund_not_invoice hr
    refine refundDecisionSummary_iff.trans ⟨fun h => ⟨⟨fun _ => h, ?_⟩, ?_⟩, fun h => h.1.refund hr⟩
    · intro h
      rw [hi] at h
      cases h
    · intro h
      rw [hi] at h
      cases h
  · rw [if_neg hr]
    by_cases hi : isInvoicePaymentIntent intent = true
    · rw [if_pos hi]
      exact invoiceDecisionSummary_iff.trans
        ⟨fun h => ⟨⟨fun h' => absurd h' hr, fun _ => h.1⟩, fun _ => h.2⟩, fun h => ⟨h.1.invoice hi, h.2 hi⟩⟩
    · rw [if_neg hi]
      exact iff_of_true ⟨_, rfl⟩ ⟨⟨fun h => absurd h hr, fun h => absurd h hi⟩, fun h => absurd h hi⟩

/-- **A decision receipt can be built exactly when the parameters it quotes are readable**, and the
chains of approvals where it copies them. -/
theorem decisionReceipt_iff {refs : DecisionRefs} : (∃ make, decisionReceipt P intent decision context refs = .ok make) ↔
    DecisionReadable P intent ∧
      (isInvoicePaymentIntent intent = true → decision.outcome = .approvalRequired → ChainsIterable context) := by
  unfold decisionReceipt
  rw [Fallible.exists_bind_ok, ← decisionSummary_iff]
  constructor
  · rintro ⟨r, hr, -⟩
    exact ⟨r, hr⟩
  · rintro ⟨r, hr⟩
    exact ⟨r, hr, _, rfl⟩

end

end Actenon
