import ActenonKernel.Policy.InvoicePayment

/-!
# When the invoice payment engine decides (`actenon/policy/invoice_payment.py`)

Each rule of the engine returns where it can read what it reads; a shape that is denied does not keep
the rules after it from reading.

* `InvoiceHardReadable`, `WorkflowReadable`    what the rules read;
* `InvoiceDecidable`           the parameters and facts that the engine can read;
* `invoice_decides_iff`        the engine decides exactly then.
-/

set_option linter.unusedSectionVars false

namespace Actenon

section
variable (P : PolicyPlatform)

/-! ## what the rules read -/

/-- the parameters that the rules look up -/
def boundParameters : List String :=
  ["payer_entity_id", "supplier_id", "bank_account_reference", "amount_minor", "currency", "payment_date",
    "payment_batch_id", "batch_hash"]

/-- the payments that a context expects can be compared -/
structure ExpectationsReadable (context : AdmissionContext) : Prop where
  invoices : Dict.get context.facts "expected_invoice_ids" ≠ .null →
    ∃ ids, texts P (Dict.get context.facts "expected_invoice_ids") = .ok ids ∧ ∃ id ∈ ids, id ≠ ""
  amount : Dict.get context.facts "expected_amount_minor" ≠ .null →
    ∃ n, pyInt P.toPlatform (Dict.get context.facts "expected_amount_minor") = .ok n
  duplicates : ∃ ids, texts P (Dict.getD context.facts "duplicate_invoice_ids" (.tup [])) = .ok ids

/-- the facts of the workflow can be read -/
structure WorkflowReadable (context : AdmissionContext) : Prop where
  evidence : ∃ types,
    texts P (Dict.getD context.facts "required_evidence_types" (strings context.requiredEvidenceTypes)) = .ok types
  approvals : ∃ chains, approvalChains P context = .ok chains ∧ (asksApproval context chains = true →
    ∃ types, texts P (Dict.getD context.facts "required_approver_types" (strings context.approverTypes)) = .ok types)

/-- the batch has a hash: the date is a date of the calendar and the values have a canonical form -/
def BatchHashable (b : BatchInput) : Prop :=
  ∃ date, parseCalendarDate b.paymentDate "payment_date" = .ok date ∧
    ∃ hash, sha256Hex P.toPlatform (.obj (b.dict (sortedSet (b.invoiceIds.filter (· ≠ ""))) date)) = .ok hash

/-- the hard rules of the invoice engine can read what they read -/
structure InvoiceHardReadable (receiptStore : Option ReceiptLookup) (intent : ActionIntent)
    (context : AdmissionContext) : Prop where
  ttl : context.TtlBounded
  evidence : (invoiceReceiptRule receiptStore).Checkable P intent
  present : ∀ name ∈ boundParameters, ∃ v, Dict.find intent.action.parameters (.str name) = some v
  invoices : ∃ ids, invoiceIds P intent = .ok ids ∧ ∃ id ∈ ids, id ≠ ""
  batch : ∀ b, batchInput P intent = .ok b → BatchHashable P b
  expectations : ExpectationsReadable P context

/-- the rules of the invoice engine can read what they read; those of the workflow run where no hard
rule denies -/
structure InvoiceDecidable (receiptStore : Option ReceiptLookup) (intent : ActionIntent)
    (context : AdmissionContext) : Prop where
  hard : InvoiceHardReadable P receiptStore intent context
  workflow : (buildInvoicePaymentPolicyEngine P receiptStore).NoHardDenial intent context →
    demoPayment "tenant_demo" intent = true → WorkflowReadable P context

variable {P} {intent : ActionIntent} {context : AdmissionContext} {receiptStore : Option ReceiptLookup}

/-! ## the rules -/

theorem normalizeIds_returns {ids : List String} : (∃ r, normalizeIds ids = .ok r) ↔ ∃ id ∈ ids, id ≠ "" := by
  unfold normalizeIds
  by_cases h : ids.all (· = "") = true
  · rw [if_pos h]
    refine iff_of_false (fun ⟨_, h⟩ => nomatch h) ?_
    rintro ⟨id, hid, hne⟩
    exact hne (of_decide_eq_true (List.all_eq_true.mp h id hid))
  · rw [if_neg h]
    refine iff_of_true ⟨_, rfl⟩ ?_
    by_contra hnone
    refine h (List.all_eq_true.mpr fun id hid => decide_eq_true ?_)
    by_contra hne
    exact hnone ⟨id, hid, hne⟩

theorem normalizeIds_ok {ids : List String} (h : ∃ id ∈ ids, id ≠ "") :
    normalizeIds ids = .ok (sortedSet (ids.filter (· ≠ ""))) := by
  obtain ⟨r, hr⟩ := normalizeIds_returns.mpr h
  unfold normalizeIds at hr ⊢
  split at hr
  · cases hr
  · rename_i hall
    rw [if_neg hall]

theorem computeBatchHash_returns {b : BatchInput} (h : ∃ id ∈ b.invoiceIds, id ≠ "") :
    (∃ r, computeInvoicePaymentBatchHash P b = .ok r) ↔ BatchHashable P b := by
  unfold computeInvoicePaymentBatchHash BatchHashable
  rw [normalizeIds_ok h, Fallible.ok_bind, Fallible.exists_bind_ok]
  refine exists_congr fun date => and_congr_right fun _ => ?_
  rw [Fallible.exists_bind_ok]
  exact exists_congr fun hash => and_iff_left ⟨_, rfl⟩

theorem forall_boundParameters {p : String → Prop} : (∀ name ∈ boundParameters, p name) ↔
    p "payer_entity_id" ∧ p "supplier_id" ∧ p "bank_account_reference" ∧ p "amount_minor" ∧ p "currency" ∧
      p "payment_date" ∧ p "payment_batch_id" ∧ p "batch_hash" := by
  unfold boundParameters
  simp only [List.forall_mem_cons, List.not_mem_nil, false_implies, implies_true, and_true]

theorem constraintBinding_returns :
    (∃ r, InvoicePaymentConstraintBindingRule.evaluate P {} intent context = .ok r) ↔
      (∀ name ∈ boundParameters, ∃ v, Dict.find intent.action.parameters (.str name) = some v) ∧
        ∃ ids, invoiceIds P intent = .ok ids := by
  unfold InvoicePaymentConstraintBindingRule.evaluate
  rw [forall_boundParameters]
  simp only [Fallible.exists_bind_ok, item_ok]
  constructor
  · rintro ⟨payer, hpayer, supplier, hsupplier, account, haccount, ids, hids, amount, hamount, currency, hcurrency,
      date, hdate, batch, hbatch, hash, hhash, -⟩
    exact ⟨⟨⟨payer, hpayer⟩, ⟨supplier, hsupplier⟩, ⟨account, haccount⟩, ⟨amount, hamount⟩, ⟨currency, hcurrency⟩,
      ⟨date, hdate⟩, ⟨batch, hbatch⟩, ⟨hash, hhash⟩⟩, ids, hids⟩
  · rintro ⟨⟨⟨payer, hpayer⟩, ⟨supplier, hsupplier⟩, ⟨account, haccount⟩, ⟨amount, hamount⟩, ⟨currency, hcurrency⟩,
      ⟨date, hdate⟩, ⟨batch, hbatch⟩, ⟨hash, hhash⟩⟩, ids, hids⟩
    refine ⟨payer, hpayer, supplier, hsupplier, account, haccount, ids, hids, amount, hamount, currency, hcurrency,
      date, hdate, batch, hbatch, hash, hhash, ?_⟩
    split
    · exact ⟨_, rfl⟩
    · exact ⟨_, rfl⟩

theorem parameterBinding_returns {rule : ParameterBindingRule} : (∃ r, rule.evaluate intent context = .ok r) ↔
    ∃ v, Dict.find intent.action.parameters (.str rule.parameter) = some v := by
  unfold ParameterBindingRule.evaluate
  dsimp only
  rw [Fallible.exists_bind_ok]
  simp only [item_ok]
  refine exists_congr fun v => and_iff_left ?_
  split
  · exact ⟨_, rfl⟩
  · exact ⟨_, rfl⟩

theorem normalizeInvoiceIds_returns {x : Json} : (∃ r, normalizeInvoiceIds P x = .ok r) ↔
    ∃ ids, texts P x = .ok ids ∧ ∃ id ∈ ids, id ≠ "" := by
  unfold normalizeInvoiceIds
  rw [Fallible.exists_bind_ok]
  exact exists_congr fun ids => and_congr_right fun _ => normalizeIds_returns

theorem invoiceSet_returns : (∃ r, InvoicePaymentInvoiceSetRule.evaluate P {} intent context = .ok r) ↔
    (∃ ids, invoiceIds P intent = .ok ids) ∧ (Dict.get context.facts "expected_invoice_ids" ≠ .null →
      ∃ ids, texts P (Dict.get context.facts "expected_invoice_ids") = .ok ids ∧ ∃ id ∈ ids, id ≠ "") := by
  unfold InvoicePaymentInvoiceSetRule.evaluate
  rw [Fallible.exists_bind_ok, ← normalizeInvoiceIds_returns]
  constructor
  · rintro ⟨ids, hids, hrest⟩
    refine ⟨⟨ids, hids⟩, fun hne => ?_⟩
    split at hrest
    · rename_i hnull
      exact absurd hnull hne
    · obtain ⟨expected, hexpected, -⟩ := Fallible.exists_bind_ok.mp hrest
      exact ⟨expected, hexpected⟩
  · rintro ⟨⟨ids, hids⟩, hexpected⟩
    refine ⟨ids, hids, ?_⟩
    split
    · exact ⟨_, rfl⟩
    · rename_i hne
      obtain ⟨expected, he⟩ := hexpected hne
      refine Fallible.exists_bind_ok.mpr ⟨expected, he, ?_⟩
      split
      · exact ⟨_, rfl⟩
      · exact ⟨_, rfl⟩

theorem firstEvaluation_cons {rule : PolicyRule} {rules : List PolicyRule}
    (hrules : ∃ r, firstEvaluation rules intent context = .ok r) :
    (∃ r, firstEvaluation (rule :: rules) intent context = .ok r) ↔ ∃ r, rule intent context = .ok r := by
  unfold firstEvaluation
  rw [Fallible.exists_bind_ok]
  refine exists_congr fun r => and_iff_left ?_
  cases r with
  | none => exact hrules
  | some evaluation => exact ⟨_, rfl⟩

theorem checkParameter_returns {parameter reasonCode summary : String}
    (h : ∃ v, Dict.find intent.action.parameters (.str parameter) = some v) :
    ∃ r, InvoicePaymentAmountCurrencyRule.checkParameter {} parameter reasonCode summary intent context = .ok r := by
  obtain ⟨v, hv⟩ := h
  unfold InvoicePaymentAmountCurrencyRule.checkParameter
  split
  · exact ⟨_, rfl⟩
  · refine Fallible.exists_bind_ok.mpr ⟨v, item_ok.mpr hv, ?_⟩
    split
    · exact ⟨_, rfl⟩
    · exact ⟨_, rfl⟩

theorem amountCurrency_returns
    (hpresent : ∀ name ∈ boundParameters, ∃ v, Dict.find intent.action.parameters (.str name) = some v) :
    (∃ r, InvoicePaymentAmountCurrencyRule.evaluate P {} intent context = .ok r) ↔
      (Dict.get context.facts "expected_amount_minor" ≠ .null →
        ∃ n, pyInt P.toPlatform (Dict.get context.facts "expected_amount_minor") = .ok n) := by
  obtain ⟨-, -, -, ⟨amount, hamount⟩, hcurrency, hdate, -⟩ := forall_boundParameters.mp hpresent
  have hnil : ∃ r, firstEvaluation [] intent context = .ok r := ⟨none, rfl⟩
  unfold InvoicePaymentAmountCurrencyRule.evaluate
  rw [firstEvaluation_cons ((firstEvaluation_cons ((firstEvaluation_cons hnil).mpr
    (checkParameter_returns hdate))).mpr (checkParameter_returns hcurrency))]
  unfold InvoicePaymentAmountCurrencyRule.checkAmount
  split
  · rename_i hnull
    exact iff_of_true ⟨_, rfl⟩ fun hne => absurd hnull hne
  · rename_i hne
    rw [Fallible.exists_bind_ok]
    constructor
    · rintro ⟨_, -, hrest⟩ -
      obtain ⟨n, hn, -⟩ := Fallible.exists_bind_ok.mp hrest
      exact ⟨n, hn⟩
    · intro h
      obtain ⟨n, hn⟩ := h hne
      refine ⟨amount, item_ok.mpr hamount, Fallible.exists_bind_ok.mpr ⟨n, hn, ?_⟩⟩
      split
      · exact ⟨_, rfl⟩
      · exact ⟨_, rfl⟩

theorem duplicate_returns : (∃ r, InvoicePaymentDuplicateRule.evaluate P {} intent context = .ok r) ↔
    (∃ ids, invoiceIds P intent = .ok ids) ∧
      ∃ ids, texts P (Dict.getD context.facts "duplicate_invoice_ids" (.tup [])) = .ok ids := by
  unfold InvoicePaymentDuplicateRule.evaluate
  simp only [Fallible.exists_bind_ok]
  constructor
  · rintro ⟨ids, hids, duplicates, hduplicates, -⟩
    exact ⟨⟨ids, hids⟩, duplicates, hduplicates⟩
  · rintro ⟨⟨ids, hids⟩, duplicates, hduplicates⟩
    refine ⟨ids, hids, duplicates, hduplicates, ?_⟩
    split
    · exact ⟨_, rfl⟩
    · exact ⟨_, rfl⟩

/-- where the parameters are present, the batch is there with their invoices -/
theorem batchInput_of_present {ids : List String}
    (hpresent : ∀ name ∈ boundParameters, ∃ v, Dict.find intent.action.parameters (.str name) = some v)
    (hids : invoiceIds P intent = .ok ids) : ∃ b, batchInput P intent = .ok b ∧ b.invoiceIds = ids := by
  obtain ⟨⟨payer, hpayer⟩, ⟨supplier, hsupplier⟩, ⟨account, haccount⟩, ⟨amount, hamount⟩, ⟨currency, hcurrency⟩,
    ⟨date, hdate⟩, ⟨batch, hbatch⟩, -⟩ := forall_boundParameters.mp hpresent
  refine ⟨⟨payer, supplier, account, ids, amount, currency, date, batch⟩, ?_, rfl⟩
  unfold batchInput
  dsimp only
  rw [item_ok.mpr hpayer, Fallible.ok_bind, item_ok.mpr hsupplier, Fallible.ok_bind, item_ok.mpr haccount,
    Fallible.ok_bind, hids, Fallible.ok_bind, item_ok.mpr hamount, Fallible.ok_bind, item_ok.mpr hcurrency,
    Fallible.ok_bind, item_ok.mpr hdate, Fallible.ok_bind, item_ok.mpr hbatch, Fallible.ok_bind]
  rfl

theorem batchHash_returns : (∃ r, InvoicePaymentBatchHashRule.evaluate P {} intent context = .ok r) ↔
    (∃ b, batchInput P intent = .ok b ∧ ∃ hash, computeInvoicePaymentBatchHash P b = .ok hash) ∧
      ∃ v, Dict.find intent.action.parameters (.str "batch_hash") = some v := by
  unfold InvoicePaymentBatchHashRule.evaluate
  simp only [Fallible.exists_bind_ok, item_ok]
  constructor
  · rintro ⟨b, hb, hash, hhash, v, hv, -⟩
    exact ⟨⟨b, hb, hash, hhash⟩, v, hv⟩
  · rintro ⟨⟨b, hb, hash, hhash⟩, v, hv⟩
    refine ⟨b, hb, hash, hhash, v, hv, ?_⟩
    split_ifs
    all_goals exact ⟨_, rfl⟩

theorem checkBindings_returns (h : ∃ ids, invoiceIds P intent = .ok ids ∧ ∃ id ∈ ids, id ≠ "") :
    ∃ r, InvoicePaymentActionShapeRule.checkBindings P {} intent = .ok r := by
  obtain ⟨ids, hids, hne⟩ := h
  unfold InvoicePaymentActionShapeRule.checkBindings
  refine Fallible.exists_bind_ok.mpr ⟨ids, hids, ?_⟩
  split
  · exact ⟨_, rfl⟩
  · rw [normalizeIds_ok hne, Fallible.ok_bind]
    split_ifs
    all_goals exact ⟨_, rfl⟩

theorem invoiceShape_returns (h : ∃ ids, invoiceIds P intent = .ok ids ∧ ∃ id ∈ ids, id ≠ "") :
    ∃ r, InvoicePaymentActionShapeRule.evaluate P {} intent context = .ok r := by
  unfold InvoicePaymentActionShapeRule.evaluate
  dsimp only
  split
  · exact ⟨_, rfl⟩
  split
  · exact ⟨_, rfl⟩
  split
  · exact ⟨_, rfl⟩
  split
  · exact ⟨_, rfl⟩
  split
  · exact ⟨_, rfl⟩
  split
  · exact ⟨_, rfl⟩
  · exact checkBindings_returns h

theorem evidenceWorkflow_returns :
    (∃ r, InvoicePaymentEvidenceWorkflowRule.evaluate P {} intent context = .ok r) ↔
      (demoPayment "tenant_demo" intent = true → ∃ types, texts P (Dict.getD context.facts
        "required_evidence_types" (strings context.requiredEvidenceTypes)) = .ok types) := by
  unfold InvoicePaymentEvidenceWorkflowRule.evaluate
  cases hdemo : demoPayment "tenant_demo" intent with
  | false => exact iff_of_true ⟨none, rfl⟩ fun h => nomatch h
  | true =>
    rw [if_neg (by decide), Fallible.exists_bind_ok]
    constructor
    · rintro ⟨types, htypes, -⟩ -
      exact ⟨types, htypes⟩
    · intro h
      obtain ⟨types, htypes⟩ := h rfl
      refine ⟨types, htypes, ?_⟩
      dsimp only
      split
      · exact ⟨_, rfl⟩
      · exact ⟨_, rfl⟩

theorem approvalWorkflow_returns :
    (∃ r, InvoicePaymentApprovalWorkflowRule.evaluate P {} intent context = .ok r) ↔
      (demoPayment "tenant_demo" intent = true → ∃ chains, approvalChains P context = .ok chains ∧
        (asksApproval context chains = true → ∃ types, texts P (Dict.getD context.facts
          "required_approver_types" (strings context.approverTypes)) = .ok types)) := by
  unfold InvoicePaymentApprovalWorkflowRule.evaluate
  cases hdemo : demoPayment "tenant_demo" intent with
  | false => exact iff_of_true ⟨none, rfl⟩ fun h => nomatch h
  | true =>
    rw [if_neg (by decide), Fallible.exists_bind_ok, forall_prop_of_true rfl]
    refine exists_congr fun chains => and_congr_right fun _ => ?_
    cases hasks : asksApproval context chains with
    | false => exact iff_of_true ⟨none, rfl⟩ fun h => nomatch h
    | true =>
      rw [if_neg (by decide), forall_prop_of_true rfl, Fallible.exists_bind_ok]
      exact exists_congr fun types => and_iff_left ⟨_, rfl⟩

theorem allowWorkflow_returns : ∃ r, InvoicePaymentAllowWorkflowRule.evaluate {} intent context = .ok r := by
  unfold InvoicePaymentAllowWorkflowRule.evaluate
  split
  · exact ⟨_, rfl⟩
  · exact ⟨_, rfl⟩

theorem invoiceWorkflow_returns : (∀ rule ∈ invoiceWorkflow P, ∃ r, rule intent context = .ok r) ↔
    (demoPayment "tenant_demo" intent = true → WorkflowReadable P context) := by
  unfold invoiceWorkflow
  simp only [List.forall_mem_cons, List.not_mem_nil, false_implies, implies_true, and_true,
    evidenceWorkflow_returns, approvalWorkflow_returns]
  constructor
  · rintro ⟨-, hevidence, happrovals, -⟩ hdemo
    exact ⟨hevidence hdemo, happrovals hdemo⟩
  · intro h
    exact ⟨workflow_returns _, fun hdemo => (h hdemo).evidence, fun hdemo => (h hdemo).approvals,
      allowWorkflow_returns⟩

/-- a rule list for the demonstration tenant, where the payment is one of that tenant -/
theorem demoPayment_tenant (h : demoPayment "tenant_demo" intent = true) : intent.tenant.tenantId = "tenant_demo" :=
  of_decide_eq_true (Bool.and_eq_true_iff.mp h).1

theorem invoiceRules_return :
    (∀ rule ∈ (buildInvoicePaymentPolicyEngine P receiptStore).tenantWorkflowRules.rules intent,
      ∃ r, rule intent context = .ok r) ↔ (demoPayment "tenant_demo" intent = true → WorkflowReadable P context) := by
  have hrules : (buildInvoicePaymentPolicyEngine P receiptStore).tenantWorkflowRules.rules intent = _ :=
    rules_of_tenant rfl
  rw [hrules]
  by_cases htenant : intent.tenant.tenantId = "tenant_demo"
  · rw [if_pos htenant]
    exact invoiceWorkflow_returns
  · rw [if_neg htenant]
    exact iff_of_true (fun rule h => nomatch h) fun hdemo => absurd (demoPayment_tenant hdemo) htenant

theorem invoiceHardRules_return :
    (∀ rule ∈ (buildInvoicePaymentPolicyEngine P receiptStore).hardRules.rules, ∃ r, rule intent context = .ok r) ↔
      InvoiceHardReadable P receiptStore intent context := by
  unfold buildInvoicePaymentPolicyEngine
  simp only [List.forall_mem_cons, List.not_mem_nil, false_implies, implies_true, and_true, ttl_returns,
    receiptEvidence_returns, constraintBinding_returns, parameterBinding_returns, invoiceSet_returns,
    duplicate_returns, batchHash_returns]
  constructor
  · rintro ⟨-, httl, -, hevidence, -, ⟨hpresent, ids, hids⟩, -, -, -, ⟨-, hinvoices⟩, hamount, ⟨-, hduplicates⟩,
      ⟨b, hb, hash, hhash⟩, -⟩
    obtain ⟨b', hb', hbids⟩ := batchInput_of_present hpresent hids
    have hbb : b = b' := by
      rw [hb] at hb'
      exact Except.ok.inj hb'
    have hne : ∃ id ∈ b.invoiceIds, id ≠ "" := by
      obtain ⟨normalized, hnormalized, -⟩ := Fallible.bind_eq_ok.mp hhash
      exact normalizeIds_returns.mp ⟨normalized, hnormalized⟩
    refine ⟨httl, hevidence, hpresent, ⟨ids, hids, ?_⟩, fun c hc => ?_, hinvoices,
      (amountCurrency_returns hpresent).mp hamount, hduplicates⟩
    · rw [← hbids, ← hbb]
      exact hne
    · rw [hb] at hc
      cases hc
      exact (computeBatchHash_returns hne).mp ⟨hash, hhash⟩
  · intro h
    obtain ⟨ids, hids, hne⟩ := h.invoices
    obtain ⟨b, hb, hbids⟩ := batchInput_of_present h.present hids
    have hcompute := (computeBatchHash_returns (by rw [hbids]; exact hne)).mpr (h.batch b hb)
    obtain ⟨hpayer, hsupplier, haccount, -, -, -, -, hhash⟩ := forall_boundParameters.mp h.present
    exact ⟨chronology_returns _, h.ttl, capabilityScope_returns _, h.evidence, invoiceShape_returns h.invoices,
      ⟨h.present, ids, hids⟩, hpayer, hsupplier, haccount, ⟨⟨ids, hids⟩, h.expectations.invoices⟩,
      (amountCurrency_returns h.present).mpr h.expectations.amount, ⟨⟨ids, hids⟩, h.expectations.duplicates⟩,
      ⟨b, hb, hcompute⟩, hhash⟩

/-- **When the invoice payment engine decides.** -/
theorem invoice_decides_iff :
    (∃ d, (buildInvoicePaymentPolicyEngine P receiptStore).evaluate intent context = .ok d) ↔
      InvoiceDecidable P receiptStore intent context := by
  rw [evaluate_returns, invoiceHardRules_return, invoiceRules_return]
  exact ⟨fun ⟨h, h'⟩ => ⟨h, h'⟩, fun h => ⟨h.hard, h.workflow⟩⟩

end

end Actenon
