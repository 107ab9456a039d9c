import ActenonKernel.Proof.Service
import ActenonKernel.Lib.Fallible

/-!
# Receipts and refusals (`actenon/receipts/factory.py`, `refund.py`, `invoice_payment.py`)

What the factories make of a request, up to the fresh identifier, which is drawn last.  Building a
receipt reads parameters of the action for two kinds of intents, and raises where they are missing.

* `executionReceipt`, `refusedReceipt`    the receipts of an execution;
* `refusalOf`           the refusal made of an exception.
-/

set_option linter.unusedSectionVars false

namespace Actenon

/-! ## artifacts -/

structure CorrelationRef where
  pccbId : Json := .null
  escrowId : Json := .null
  refusalId : Option String := none
  requestId : Option String := none
  actionHash : Option ActionHashSpec := none

/-- the outcomes of the receipts of an execution -/
inductive ReceiptOutcome where
  | executed
  | refused
deriving DecidableEq, Repr

structure Receipt where
  receiptId : String
  intentId : String
  occurredAt : Datetime
  outcome : ReceiptOutcome
  tenant : TenantRef
  subject : PartyRef
  action : ActionSpec
  target : TargetRef
  summary : String
  phase : String
  correlation : CorrelationRef
  reasonCodes : List String := []
  sideEffects : Dict := []
  details : Dict := []
  extensions : Dict := []

structure Refusal where
  refusalId : String
  category : String
  reasonCode : String
  message : String
  retryable : Bool
  refusedAt : Datetime
  intentId : String
  tenant : TenantRef
  subject : PartyRef
  audience : AudienceRef
  action : ActionSpec
  target : TargetRef
  correlation : CorrelationRef
  ruleRefs : List String := []
  violations : List Violation := []
  details : Dict := []

/-! ## operations of the interpreter -/

/-- `d[name]` -/
def Dict.item (d : Dict) (name : String) : Except PyError Json :=
  match Dict.find d (.str name) with
  | some v => .ok v
  | none => keyError name

/-- `{**d, **e}` -/
def Dict.merge (d e : Dict) : Dict := e.foldl (fun acc p => Dict.set acc p.1 p.2) d

/-- `None if not payload else payload.get(name)` -/
def payloadGet (payload : Json) (name : String) : Except PyError Json :=
  if payload.truthy then
    match payload with
    | .obj d => .ok (Dict.get d name)
    | j => attributeError s!"'{j.typeName}' object has no attribute 'get'"
  else .ok .null

/-- `payload or {}` where it is used as a mapping -/
def payloadDict (payload : Json) : Except PyError Dict :=
  if payload.truthy then
    match payload with
    | .obj d => .ok d
    | j => typeError s!"'{j.typeName}' object is not a mapping"
  else .ok []

section
variable (P : Platform)

/-- `str(x)` -/
def pyStr (x : Json) : Except PyError String :=
  match x with
  | .str s => .ok s
  | j => P.repr j

/-- `int(x)` -/
def pyInt (x : Json) : Except PyError Int :=
  match x with
  | .int n => .ok n
  | .bool b => .ok (if b then 1 else 0)
  | .float (.finite q) => .ok (q.num.tdiv q.den)
  | .float .nan => valueError "cannot convert float NaN to integer"
  | .float _ => .error ⟨.overflowError, "cannot convert float infinity to integer"⟩
  | .str s => P.intOfStr s
  | j => typeError
      s!"int() argument must be a string, a bytes-like object or a real number, not '{j.typeName}'"

/-! ## refunds -/

def isRefundIntent (intent : ActionIntent) : Bool :=
  intent.action.name = "refund.create" && intent.action.capability = "refund.execute"

def refundAmountMinor (intent : ActionIntent) : Except PyError Int := do
  pyInt P (← Dict.item intent.action.parameters "amount_minor")

def refundCurrency (intent : ActionIntent) : Except PyError String := do
  pyStr P (← Dict.item intent.action.parameters "currency")

def refundDetailFields (intent : ActionIntent) : Except PyError Dict := do
  let amountMinor ← refundAmountMinor P intent
  let currency ← refundCurrency P intent
  return members [("wedge", .str "refund"), ("amount_minor", .int amountMinor),
    ("currency", .str currency), ("target_resource_type", .str intent.target.resourceType),
    ("target_resource_id", .str intent.target.resourceId)]

def refundOperatorSummaryForExecution (intent : ActionIntent) (payload : Json) :
    Except PyError String := do
  let amountMinor ← refundAmountMinor P intent
  let currency ← refundCurrency P intent
  let externalReference ← payloadGet payload "external_reference"
  let amount ← pyStr P (.int amountMinor)
  if externalReference.truthy then
    let reference ← pyStr P externalReference
    return s!"Refund of {amount} {currency} against payment {intent.target.resourceId} executed successfully with local reference {reference}."
  else
    return s!"Refund of {amount} {currency} against payment {intent.target.resourceId} executed successfully."

def refundSummaryForRefusal (intent : ActionIntent) : Except PyError String := do
  let amount ← pyStr P (← Dict.item intent.action.parameters "amount_minor")
  let currency ← pyStr P (← Dict.item intent.action.parameters "currency")
  return s!"Refund of {amount} {currency} against payment {intent.target.resourceId} was refused."

/-! ## invoice payments -/

def isInvoicePaymentIntent (intent : ActionIntent) : Bool :=
  intent.action.name = "invoice_payment.execute" && intent.action.capability = "invoice_payment.execute"

def invoicePaymentDetailFields (intent : ActionIntent) : Except PyError Dict := do
  let params := intent.action.parameters
  let payer ← Dict.item params "payer_entity_id"
  let supplier ← Dict.item params "supplier_id"
  let account ← Dict.item params "bank_account_reference"
  let invoices ← (← Dict.item params "invoice_ids").iterate
  let amount ← Dict.item params "amount_minor"
  let currency ← Dict.item params "currency"
  let date ← Dict.item params "payment_date"
  let batch ← Dict.item params "payment_batch_id"
  let hash ← Dict.item params "batch_hash"
  let proposer ← Dict.item params "proposer_id"
  return members [("wedge", .str "invoice_payment"), ("payer_entity_id", payer),
    ("supplier_id", supplier), ("bank_account_reference", account), ("invoice_ids", .arr invoices),
    ("amount_minor", amount), ("currency", currency), ("payment_date", date),
    ("payment_batch_id", batch), ("batch_hash", hash), ("proposer_id", proposer),
    ("target_resource_type", .str intent.target.resourceType),
    ("target_resource_id", .str intent.target.resourceId)]

def invoicePaymentOperatorSummaryForExecution (intent : ActionIntent) (payload : Json) :
    Except PyError String := do
  let params := intent.action.parameters
  let amountMinor ← Dict.item params "amount_minor"
  let currencyOf ← Dict.item params "currency"
  let supplierId ← Dict.item params "supplier_id"
  let batchId ← Dict.item params "payment_batch_id"
  let executionId ← payloadGet payload "payment_execution_id"
  let reconciliationId ← payloadGet payload "reconciliation_id"
  if executionId.truthy && reconciliationId.truthy then
    let execution ← pyStr P executionId
    let amount ← pyStr P amountMinor
    let currency ← pyStr P currencyOf
    let supplier ← pyStr P supplierId
    let batch ← pyStr P batchId
    let reconciliation ← pyStr P reconciliationId
    return s!"Invoice payment {execution} executed for {amount} {currency} to supplier {supplier} in batch {batch}. Reconciliation record {reconciliation} was written."
  else
    let amount ← pyStr P amountMinor
    let currency ← pyStr P currencyOf
    let supplier ← pyStr P supplierId
    let batch ← pyStr P batchId
    return s!"Invoice payment executed for {amount} {currency} to supplier {supplier} in batch {batch}."

def invoicePaymentOperatorSummaryForRefusal (intent : ActionIntent) (refusalCode : String) :
    Except PyError String := do
  let params := intent.action.parameters
  let amount ← pyStr P (← Dict.item params "amount_minor")
  let currency ← pyStr P (← Dict.item params "currency")
  let supplier ← pyStr P (← Dict.item params "supplier_id")
  let batch ← pyStr P (← Dict.item params "payment_batch_id")
  return s!"Invoice payment of {amount} {currency} to supplier {supplier} in batch {batch} was refused ({refusalCode})."

/-! ## receipts -/

/-- `if value: side_effects[name] = value` -/
def truthyMember (name : String) (value : Json) : Dict := if value.truthy then [(.str name, value)] else []

def executionSideEffects (payload : Json) : Except PyError Dict := do
  let externalReference ← payloadGet payload "external_reference"
  let providerReference ← payloadGet payload "provider_reference"
  let reconciliationStatus ← payloadGet payload "reconciliation_status"
  let resourceVersion ← payloadGet payload "resource_version"
  return members [("state", .str "completed")] ++ truthyMember "external_reference" externalReference
    ++ truthyMember "provider_reference" providerReference
    ++ truthyMember "reconciliation_status" reconciliationStatus
    ++ truthyMember "resource_version" resourceVersion

/-- the summary and the details of an executed receipt -/
def executionSummary (intent : ActionIntent) (payload : Json) : Except PyError (String × Dict) := do
  let given ← payloadDict payload
  if isRefundIntent intent then
    let summary ← refundOperatorSummaryForExecution P intent payload
    let fields ← refundDetailFields P intent
    return (summary, Dict.merge fields given)
  else if isInvoicePaymentIntent intent then
    let summary ← invoicePaymentOperatorSummaryForExecution P intent payload
    let fields ← invoicePaymentDetailFields intent
    return (summary, Dict.merge fields given)
  else return ("The protected action executed successfully.", given)

/-- `create_execution_receipt` before its identifier is drawn -/
def executionReceipt (request : ProtectedExecutionRequest) (payload : Json) :
    Except PyError (String → Receipt) := do
  let sideEffects ← executionSideEffects payload
  let (summary, details) ← executionSummary P request.intent payload
  return fun receiptId => {
    receiptId := receiptId
    intentId := request.intent.intentId
    occurredAt := request.context.now
    outcome := .executed
    phase := "execution"
    tenant := request.intent.tenant
    subject := request.intent.requester
    action := request.intent.action
    target := request.intent.target
    correlation := { pccbId := .str request.pccb.pccbId, escrowId := request.pccb.escrowId,
                     requestId := some request.context.requestId,
                     actionHash := some request.pccb.actionHash }
    summary := summary
    sideEffects := sideEffects
    details := details }

/-- the summary and the details of a refused receipt -/
def refusedSummary (intent : ActionIntent) (refusal : Refusal) : Except PyError (String × Dict) := do
  if isRefundIntent intent then
    let summary ← refundSummaryForRefusal P intent
    let fields ← refundDetailFields P intent
    return (summary, fields)
  else if isInvoicePaymentIntent intent then
    let summary ← invoicePaymentOperatorSummaryForRefusal P intent refusal.reasonCode
    let fields ← invoicePaymentDetailFields intent
    return (summary, fields)
  else return (refusal.message, [])

/-- `create_refused_receipt` before its identifier is drawn -/
def refusedReceipt (request : ProtectedExecutionRequest) (refusal : Refusal) :
    Except PyError (String → Receipt) := do
  let (summary, details) ← refusedSummary P request.intent refusal
  return fun receiptId => {
    receiptId := receiptId
    intentId := request.intent.intentId
    occurredAt := request.context.now
    outcome := .refused
    phase := "execution"
    tenant := request.intent.tenant
    subject := request.intent.requester
    action := request.intent.action
    target := request.intent.target
    correlation := { refusal.correlation with refusalId := some refusal.refusalId,
                                              requestId := some request.context.requestId }
    summary := summary
    reasonCodes := [refusal.reasonCode]
    sideEffects := members [("state", .str "none")]
    details := details }

/-- `create_from_exception` as the executors call it -/
def refusalOf (request : ProtectedExecutionRequest) (exc : RefusalException) (refusalId : String) :
    Refusal where
  refusalId := refusalId
  intentId := request.intent.intentId
  category := exc.category
  reasonCode := exc.refusalCode
  message := exc.message
  retryable := exc.retryable
  refusedAt := request.context.now
  tenant := request.intent.tenant
  subject := request.intent.requester
  audience := request.context.audience
  action := request.intent.action
  target := request.intent.target
  correlation := { pccbId := .str request.pccb.pccbId, escrowId := request.pccb.escrowId,
                   requestId := some request.context.requestId,
                   actionHash := some request.pccb.actionHash }
  ruleRefs := exc.ruleRefs
  violations := exc.violations
  details := exc.details

variable {P} {request : ProtectedExecutionRequest}

theorem refusedReceipt_ok {refusal : Refusal} {make : String → Receipt}
    (h : refusedReceipt P request refusal = .ok make) (receiptId : String) :
    (make receiptId).outcome = .refused ∧ (make receiptId).extensions = [] := by
  unfold refusedReceipt at h
  obtain ⟨⟨summary, details⟩, _, h⟩ := Fallible.bind_eq_ok.mp h
  rw [← Fallible.pure_eq_ok.mp h]
  exact ⟨rfl, rfl⟩

theorem executionReceipt_outcome {payload : Json} {make : String → Receipt}
    (h : executionReceipt P request payload = .ok make) (receiptId : String) :
    (make receiptId).outcome = .executed := by
  unfold executionReceipt at h
  obtain ⟨sideEffects, _, h⟩ := Fallible.bind_eq_ok.mp h
  obtain ⟨⟨summary, details⟩, _, h⟩ := Fallible.bind_eq_ok.mp h
  rw [← Fallible.pure_eq_ok.mp h]

end

end Actenon
