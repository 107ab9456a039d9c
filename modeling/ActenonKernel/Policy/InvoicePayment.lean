import ActenonKernel.Policy.Refund

/-!
# The invoice payment policy (`actenon/policy/invoice_payment.py`, `actenon/api/invoice_payment.py`)

Thirteen hard rules and the workflow of one tenant.  As with refunds, every rule runs on the
parameters that the rule about the shape of the action may have denied.

* `invoiceIds`, `normalizeIds`, `parseCalendarDate`, `computeInvoicePaymentBatchHash`    what the rules compute;
* `InvoicePaymentActionShapeRule`, .. , `InvoicePaymentAllowWorkflowRule`    the rules of the module;
* `buildInvoicePaymentPolicyEngine`    the engine.
-/

set_option linter.unusedSectionVars false

namespace Actenon

open Calendar Digits

section
variable (P : PolicyPlatform)

/-! ## what the rules compute -/

/-- `[str(item) for item in x]` -/
def texts (x : Json) : Except PyError (List String) := do
  (← x.iterate).mapM (pyStr P.toPlatform)

def invoiceIds (intent : ActionIntent) : Except PyError (List String) :=
  match Dict.getD intent.action.parameters "invoice_ids" (.arr []) with
  | .arr items => items.mapM (pyStr P.toPlatform)
  | _ => .ok []

/-- `normalize_invoice_ids` of texts -/
def normalizeIds (ids : List String) : Except PyError (List String) :=
  if ids.all (· = "") then valueError "invoice_ids must contain at least one non-empty value"
  else .ok (sortedSet (ids.filter (· ≠ "")))

def normalizeInvoiceIds (invoiceIds : Json) : Except PyError (List String) := do
  normalizeIds (← texts P invoiceIds)

/-- `_DATE.fullmatch(raw)` -/
def matchDate (cs : List Char) : Option Calendar.Date := do
  let (year, cs) ← readDigits 4 cs
  let cs ← eat '-' cs
  let (month, cs) ← readDigits 2 cs
  let cs ← eat '-' cs
  let (day, cs) ← readDigits 2 cs
  if cs.isEmpty then some ⟨year, month, day⟩ else none

/-- `parse_calendar_date(raw, field_name).isoformat()`, which is the text again -/
def parseCalendarDate (raw : Json) (fieldName : String) : Except PyError String :=
  match raw with
  | .str s =>
    if (matchDate s.toList).any (·.Valid) then .ok s else valueError s!"{fieldName} must be a YYYY-MM-DD date"
  | _ => valueError s!"{fieldName} must be a YYYY-MM-DD date"

structure BatchInput where
  payerEntityId : Json
  supplierId : Json
  bankAccountReference : Json
  invoiceIds : List String
  amountMinor : Json
  currency : Json
  paymentDate : Json
  paymentBatchId : Json

/-- `hash_input` -/
def BatchInput.dict (b : BatchInput) (ids : List String) (paymentDate : String) : Dict :=
  members [("payer_entity_id", b.payerEntityId), ("supplier_id", b.supplierId),
    ("bank_account_reference", b.bankAccountReference), ("invoice_ids", strings ids),
    ("amount_minor", b.amountMinor), ("currency", b.currency), ("payment_date", .str paymentDate),
    ("payment_batch_id", b.paymentBatchId)]

def computeInvoicePaymentBatchHash (b : BatchInput) : Except PyError String := do
  let ids ← normalizeIds b.invoiceIds
  let paymentDate ← parseCalendarDate b.paymentDate "payment_date"
  let hash ← sha256Hex P.toPlatform (.obj (b.dict ids paymentDate))
  return s!"batch_{hash}"

/-! ## hard rules -/

/-- `isinstance(x, str) and x` -/
def nonEmptyString : Json → Bool
  | .str s => s ≠ ""
  | _ => false

def requiredStringFields : List String :=
  ["payer_entity_id", "supplier_id", "bank_account_reference", "currency", "payment_date", "payment_batch_id",
    "batch_hash", "proposer_id"]

structure InvoicePaymentActionShapeRule where
  ruleId : String := "hard.invoice_payment.action_shape"

/-- the checks on the invoices, the date and the bindings, which follow those on the fields -/
def InvoicePaymentActionShapeRule.checkBindings (self : InvoicePaymentActionShapeRule) (intent : ActionIntent) :
    Except PyError (Option RuleEvaluation) := do
  let params := intent.action.parameters
  let ids ← invoiceIds P intent
  if ids.isEmpty then
    return some (denial self.ruleId "INVOICE_SET_INVALID"
      "Invoice payment execution requires a non-empty invoice_ids set.")
  let normalized ← normalizeIds ids
  if ids ≠ normalized then
    return some (denial self.ruleId "INVOICE_SET_INVALID"
      "Invoice payment invoice_ids must be unique and sorted for exact invoice-set binding.")
  if (parseCalendarDate (Dict.get params "payment_date") "payment_date").toBool = false then
    return some (denial self.ruleId "PAYMENT_DATE_INVALID"
      "Invoice payment execution requires a YYYY-MM-DD payment_date.")
  if !isStr (Dict.get params "payment_batch_id") intent.target.resourceId then
    return some (denial self.ruleId "PAYMENT_BATCH_BINDING_MISMATCH"
      "The payment batch target must match action.parameters.payment_batch_id.")
  if !isStr (Dict.get params "proposer_id") intent.requester.id then
    return some (denial self.ruleId "PROPOSER_IDENTITY_MISMATCH"
      "The proposer identity must exactly match the requesting subject.")
  return none

def InvoicePaymentActionShapeRule.evaluate (self : InvoicePaymentActionShapeRule) : PolicyRule := fun intent _ =>
  let params := intent.action.parameters
  if intent.action.name ≠ "invoice_payment.execute" then
    .ok (some (denial self.ruleId "INVOICE_PAYMENT_ACTION_NAME_INVALID"
      "The invoice payment wedge only accepts invoice_payment.execute action intents."))
  else if intent.action.capability ≠ "invoice_payment.execute" then
    .ok (some (denial self.ruleId "INVOICE_PAYMENT_CAPABILITY_INVALID"
      "The invoice payment wedge only accepts invoice_payment.execute capability requests."))
  else if intent.target.resourceType ≠ "payment_batch" then
    .ok (some (denial self.ruleId "INVOICE_PAYMENT_TARGET_TYPE_INVALID"
      "Invoice payment execution requires a payment_batch target."))
  else
    match requiredStringFields.find? fun name => !nonEmptyString (Dict.get params name) with
    | some fieldName =>
      .ok (some (denial self.ruleId "INVOICE_PAYMENT_FIELD_INVALID"
        s!"Invoice payment execution requires a non-empty {fieldName}." (members [("field_name", .str fieldName)])))
    | none =>
      if !positiveInteger (Dict.get params "amount_minor") then
        .ok (some (denial self.ruleId "INVOICE_PAYMENT_AMOUNT_INVALID"
          "Invoice payment execution requires a positive integer amount_minor."))
      else if !currencyCode P (Dict.get params "currency") then
        .ok (some (denial self.ruleId "INVOICE_PAYMENT_CURRENCY_INVALID"
          "Invoice payment execution requires an uppercase three-letter currency."))
      else self.checkBindings P intent

structure InvoicePaymentConstraintBindingRule where
  ruleId : String := "hard.invoice_payment.constraint_binding"

def InvoicePaymentConstraintBindingRule.evaluate (self : InvoicePaymentConstraintBindingRule) : PolicyRule :=
  fun intent _ => do
    let params := intent.action.parameters
    let payer ← Dict.item params "payer_entity_id"
    let supplier ← Dict.item params "supplier_id"
    let account ← Dict.item params "bank_account_reference"
    let ids ← invoiceIds P intent
    let amount ← Dict.item params "amount_minor"
    let currency ← Dict.item params "currency"
    let date ← Dict.item params "payment_date"
    let batch ← Dict.item params "payment_batch_id"
    let hash ← Dict.item params "batch_hash"
    let expectedBindings := [("exact_payer_entity_id", payer), ("exact_supplier_id", supplier),
      ("exact_bank_account_reference", account), ("exact_invoice_ids", strings ids), ("exact_amount_minor", amount),
      ("exact_currency", currency), ("exact_payment_date", date), ("exact_payment_batch_id", batch),
      ("exact_batch_hash", hash)]
    match expectedBindings.find? fun b => !(Dict.get intent.action.constraints b.1).pyEq b.2 with
    | some (fieldName, expectedValue) =>
      return some (denial self.ruleId "PAYMENT_BINDING_MISMATCH"
        "The invoice payment action constraints must exactly mirror the requested payment values."
        (members [("field_name", .str fieldName), ("expected", expectedValue),
          ("observed", Dict.get intent.action.constraints fieldName)]))
    | none => return none

/-- the three rules that compare a parameter with what the context expects -/
structure ParameterBindingRule where
  ruleId : String
  reasonCode : String
  summary : String
  parameter : String

def ParameterBindingRule.evaluate (self : ParameterBindingRule) : PolicyRule := fun intent context => do
  let expected := Dict.get context.facts ("expected_" ++ self.parameter)
  let observed ← Dict.item intent.action.parameters self.parameter
  if differs observed expected then
    return some (denial self.ruleId self.reasonCode self.summary
      (members [("expected_" ++ self.parameter, expected), ("observed_" ++ self.parameter, observed)]))
  return none

def invoicePaymentEntityBindingRule : ParameterBindingRule where
  ruleId := "hard.invoice_payment.entity_binding"
  reasonCode := "WRONG_ENTITY"
  summary := "The requested payer entity does not match the protected payment context."
  parameter := "payer_entity_id"

def invoicePaymentPayeeBindingRule : ParameterBindingRule where
  ruleId := "hard.invoice_payment.payee_binding"
  reasonCode := "PAYEE_MISMATCH"
  summary := "The requested supplier does not match the protected payment context."
  parameter := "supplier_id"

def invoicePaymentBankBindingRule : ParameterBindingRule where
  ruleId := "hard.invoice_payment.bank_binding"
  reasonCode := "BANK_MISMATCH"
  summary := "The requested bank account reference does not match the validated payee bank details."
  parameter := "bank_account_reference"

structure InvoicePaymentInvoiceSetRule where
  ruleId : String := "hard.invoice_payment.invoice_set"

def InvoicePaymentInvoiceSetRule.evaluate (self : InvoicePaymentInvoiceSetRule) : PolicyRule :=
  fun intent context => do
    let ids ← invoiceIds P intent
    match Dict.get context.facts "expected_invoice_ids" with
    | .null => return none
    | expectedInvoiceIds =>
      let expected ← normalizeInvoiceIds P expectedInvoiceIds
      if ids ≠ expected then
        return some (denial self.ruleId "INVOICE_SET_MISMATCH"
          "The requested invoice set does not match the protected payment context."
          (members [("expected_invoice_ids", strings expected), ("observed_invoice_ids", strings ids)]))
      return none

structure InvoicePaymentAmountCurrencyRule where
  ruleId : String := "hard.invoice_payment.amount_currency"

/-- the amount, where the context expects one -/
def InvoicePaymentAmountCurrencyRule.checkAmount (self : InvoicePaymentAmountCurrencyRule) : PolicyRule :=
  fun intent context =>
    match Dict.get context.facts "expected_amount_minor" with
    | .null => .ok none
    | expectedAmountMinor => do
      let amountMinor ← Dict.item intent.action.parameters "amount_minor"
      let expected ← pyInt P.toPlatform expectedAmountMinor
      if !amountMinor.pyEq (.int expected) then
        return some (denial self.ruleId "PAYMENT_AMOUNT_MISMATCH"
          "The requested payment amount does not match the protected payment context."
          (members [("expected_amount_minor", .int expected), ("observed_amount_minor", amountMinor)]))
      return none

/-- a parameter, where the context expects one -/
def InvoicePaymentAmountCurrencyRule.checkParameter (self : InvoicePaymentAmountCurrencyRule)
    (parameter reasonCode summary : String) : PolicyRule := fun intent context =>
  match Dict.get context.facts ("expected_" ++ parameter) with
  | .null => .ok none
  | expected => do
    let observed ← Dict.item intent.action.parameters parameter
    if !observed.pyEq expected then
      return some (denial self.ruleId reasonCode summary
        (members [("expected_" ++ parameter, expected), ("observed_" ++ parameter, observed)]))
    return none

/-- the rule that returns the first evaluation of a list of rules -/
def firstEvaluation : List PolicyRule → PolicyRule
  | [], _, _ => .ok none
  | rule :: rules, intent, context => do
    match ← rule intent context with
    | some evaluation => return some evaluation
    | none => firstEvaluation rules intent context

def InvoicePaymentAmountCurrencyRule.evaluate (self : InvoicePaymentAmountCurrencyRule) : PolicyRule :=
  firstEvaluation [self.checkAmount P,
    self.checkParameter "currency" "PAYMENT_CURRENCY_MISMATCH"
      "The requested payment currency does not match the protected payment context.",
    self.checkParameter "payment_date" "PAYMENT_DATE_MISMATCH"
      "The requested payment date does not match the protected payment context."]

structure InvoicePaymentDuplicateRule where
  ruleId : String := "hard.invoice_payment.duplicate"

def InvoicePaymentDuplicateRule.evaluate (self : InvoicePaymentDuplicateRule) : PolicyRule :=
  fun intent context => do
    let ids ← invoiceIds P intent
    let duplicates ← texts P (Dict.getD context.facts "duplicate_invoice_ids" (.tup []))
    let duplicateMatch := sortedSet (ids.filter (· ∈ duplicates))
    if !duplicateMatch.isEmpty || (Dict.get context.facts "duplicate_payment_detected").truthy then
      return some (denial self.ruleId "DUPLICATE_INVOICE_PAYMENT"
        "The requested invoice payment duplicates an already-paid or already-scheduled invoice payment."
        (members [("duplicate_invoice_ids", strings duplicateMatch)]))
    return none

structure InvoicePaymentBatchHashRule where
  ruleId : String := "hard.invoice_payment.batch_hash"

def batchInput (intent : ActionIntent) : Except PyError BatchInput := do
  let params := intent.action.parameters
  let payer ← Dict.item params "payer_entity_id"
  let supplier ← Dict.item params "supplier_id"
  let account ← Dict.item params "bank_account_reference"
  let ids ← invoiceIds P intent
  let amount ← Dict.item params "amount_minor"
  let currency ← Dict.item params "currency"
  let date ← Dict.item params "payment_date"
  let batch ← Dict.item params "payment_batch_id"
  return ⟨payer, supplier, account, ids, amount, currency, date, batch⟩

def InvoicePaymentBatchHashRule.evaluate (self : InvoicePaymentBatchHashRule) : PolicyRule :=
  fun intent context => do
    let computedBatchHash ← computeInvoicePaymentBatchHash P (← batchInput P intent)
    let batchHash ← Dict.item intent.action.parameters "batch_hash"
    if !isStr batchHash computedBatchHash then
      return some (denial self.ruleId "BATCH_HASH_MISMATCH"
        "The requested payment batch hash does not match the declared invoice payment set."
        (members [("expected_batch_hash", .str computedBatchHash), ("observed_batch_hash", batchHash)]))
    let expectedBatchHash := Dict.get context.facts "expected_batch_hash"
    if differs batchHash expectedBatchHash then
      return some (denial self.ruleId "BATCH_HASH_MISMATCH"
        "The requested payment batch hash does not match the protected payment context."
        (members [("expected_batch_hash", expectedBatchHash), ("observed_batch_hash", batchHash)]))
    return none

/-! ## workflow rules -/

/-- the intent is a payment of the tenant that the rules are for -/
def demoPayment (tenantId : String) (intent : ActionIntent) : Bool :=
  intent.tenant.tenantId = tenantId && intent.action.capability = "invoice_payment.execute"

structure InvoicePaymentEvidenceWorkflowRule where
  ruleId : String := "tenant_demo.invoice_payment.evidence"
  tenantId : String := "tenant_demo"

def InvoicePaymentEvidenceWorkflowRule.evaluate (self : InvoicePaymentEvidenceWorkflowRule) : PolicyRule :=
  fun intent context =>
    if !demoPayment self.tenantId intent then .ok none
    else do
      let requiredEvidence ←
        texts P (Dict.getD context.facts "required_evidence_types" (strings context.requiredEvidenceTypes))
      let evidenceTypes := intent.evidenceRefs.map EvidenceRef.type
      let missing := sortedSet (requiredEvidence.filter (· ∉ evidenceTypes))
      if missing.isEmpty then return none
      return some {
        ruleId := self.ruleId
        outcome := .needsEvidence
        reasonCode := "EVIDENCE_MISSING"
        summary := "The invoice payment requires additional evidence before execution can proceed."
        requiredEvidence := missing
        details := members [("required_evidence_types", strings requiredEvidence)] }

structure InvoicePaymentApprovalWorkflowRule where
  ruleId : String := "tenant_demo.invoice_payment.approval"
  tenantId : String := "tenant_demo"

/-- the two chains of approvals -/
def approvalChains (context : AdmissionContext) : Except PyError (List String × List String) := do
  let requiredChain ← texts P (Dict.getD context.facts "required_approval_chain" (.tup []))
  let providedChain ← texts P (Dict.getD context.facts "provided_approval_chain" (.tup []))
  return (requiredChain, providedChain)

/-- approvals are missing or one is asked for -/
def asksApproval (context : AdmissionContext) (chains : List String × List String) : Bool :=
  !(chains.1.filter (· ∉ chains.2)).isEmpty || (Dict.get context.facts "approval_required").truthy

def InvoicePaymentApprovalWorkflowRule.evaluate (self : InvoicePaymentApprovalWorkflowRule) : PolicyRule :=
  fun intent context =>
    if !demoPayment self.tenantId intent then .ok none
    else do
      let chains ← approvalChains P context
      if !asksApproval context chains then return none
      let approverTypes ← texts P (Dict.getD context.facts "required_approver_types" (strings context.approverTypes))
      return some {
        ruleId := self.ruleId
        outcome := .approvalRequired
        reasonCode := "APPROVAL_MISSING"
        summary := "The invoice payment requires the full approval chain before execution can proceed."
        approverTypes := approverTypes
        details := members [("missing_approvals", strings (chains.1.filter (· ∉ chains.2))),
          ("required_approval_chain", strings chains.1)] }

structure InvoicePaymentAllowWorkflowRule where
  ruleId : String := "tenant_demo.invoice_payment.allow"
  tenantId : String := "tenant_demo"

def InvoicePaymentAllowWorkflowRule.evaluate (self : InvoicePaymentAllowWorkflowRule) : PolicyRule := fun intent _ =>
  if !demoPayment self.tenantId intent then .ok none
  else .ok (some {
    ruleId := self.ruleId
    outcome := .allow
    reasonCode := "PAYMENT_READY"
    summary := "The invoice payment is approved for protected execution." })

def invoiceReceiptRule (receiptStore : Option ReceiptLookup) : ReceiptEvidenceVerificationRule where
  receiptStore := receiptStore
  requiredCapability := some "invoice_payment.execute"

def invoiceWorkflow : List PolicyRule :=
  [(riskRule "invoice_payment.execute" "tenant_demo.invoice_payment.blocked" "deny"
      "The invoice payment workflow denies blocked payment requests." "PAYMENT_BLOCKED_RISK" "blocked").evaluate,
    InvoicePaymentEvidenceWorkflowRule.evaluate P {}, InvoicePaymentApprovalWorkflowRule.evaluate P {},
    InvoicePaymentAllowWorkflowRule.evaluate {}]

def buildInvoicePaymentPolicyEngine (receiptStore : Option ReceiptLookup) : PolicyEngine where
  hardRules := ⟨[IntentChronologyHardRule.evaluate {}, IntentTtlHardRule.evaluate {},
    CapabilityScopeHardRule.evaluate {}, (invoiceReceiptRule receiptStore).evaluate P,
    InvoicePaymentActionShapeRule.evaluate P {}, InvoicePaymentConstraintBindingRule.evaluate P {},
    invoicePaymentEntityBindingRule.evaluate, invoicePaymentPayeeBindingRule.evaluate,
    invoicePaymentBankBindingRule.evaluate, InvoicePaymentInvoiceSetRule.evaluate P {},
    InvoicePaymentAmountCurrencyRule.evaluate P {}, InvoicePaymentDuplicateRule.evaluate P {},
    InvoicePaymentBatchHashRule.evaluate P {}]⟩
  tenantWorkflowRules := { tenantRules := [("tenant_demo", invoiceWorkflow P)] }

end

end Actenon
