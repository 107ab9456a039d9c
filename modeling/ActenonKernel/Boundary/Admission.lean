import ActenonKernel.Boundary.Verifier
import ActenonKernel.Receipts.Decision

/-!
# Admission (`submit_intent` in `actenon/core/kernel.py`)

The kernel parses an intent, lets the policy engine decide, and for an action that is allowed mints a
proof and puts it into escrow.  Every decision has a receipt.  The stores, the writer, the escrow and
the seal client are outside; what the identifier factories return is an input of the call.

* `ProtectedExecutionKernel.resolveExecutionPccb`    the proof or its substitute;
* `ProtectedExecutionKernel.submitIntent`            the call;
* `Returns`, `returns_iff_runs`    no run raises in which the stores and the writer return.
-/

set_option linter.unusedSectionVars false

namespace Actenon

open Program

/-! ## artifacts -/

/-- a `Refusal` of an intent that may not have been parsed -/
structure AdmissionRefusal where
  refusalId : String
  exc : RefusalException
  refusedAt : Datetime
  audience : AudienceRef
  /-- `intent_id`, `tenant`, `subject`, `action` and `target` are those of the intent -/
  intent : Option ActionIntent
  correlation : StoredCorrelation

structure AdmissionResult where
  intent : Option ActionIntent := none
  decision : Option PolicyDecision := none
  receipt : Option StoredReceipt := none
  refusal : Option AdmissionRefusal := none
  pccb : Option PCCB := none
  escrowId : Option String := none

/-- what the identifier factories return; each is called at most once -/
structure Drawn where
  escrowId : String
  pccbId : String
  nonce : String
  receiptId : String
  refusalId : String

def policyDecisionError (refusalCode message : String) (ruleRefs : List String) (details : Dict) :
    RefusalException where
  category := "policy"
  refusalCode := refusalCode
  message := message
  ruleRefs := ruleRefs
  details := details

def proofSealError (refusalCode message : String) (details : Dict := []) : RefusalException where
  category := "proof"
  refusalCode := refusalCode
  message := message
  details := details

/-- `create_from_exception` -/
def admissionRefusal (drawn : Drawn) (context : AdmissionContext) (exc : RefusalException)
    (intent : Option ActionIntent) (refs : DecisionRefs := {}) : AdmissionRefusal where
  refusalId := drawn.refusalId
  exc := exc
  refusedAt := context.now
  audience := context.audience
  intent := intent
  correlation := { pccbId := refs.pccbId, escrowId := refs.escrowId, requestId := some context.requestId,
                   actionHash := refs.actionHash }

/-! ## operations -/

/-- what the call writes outside -/
inductive AdmitWrite where
  | putIntent (intent : ActionIntent)
  /-- `escrow.issue(..)` -/
  | escrowIssue (escrowId pccbId capability : String) (expiresAt : Datetime) (metadata : Dict)
  | putPccb (pccb : PCCB)
  | writeReceipt (receipt : StoredReceipt)
  | writeRefusal (refusal : AdmissionRefusal)

/-- an exception of the seal client -/
inductive SealFailure where
  | proofSealError (exc : RefusalException)
  | other

inductive AdmitOp where
  | write (w : AdmitWrite)
  /-- `proof_seal_client.seal(..)` -/
  | sealProof (intent : ActionIntent) (decision : PolicyDecision) (context : AdmissionContext) (pccb : PCCB)

def AdmitRes : AdmitOp → Type
  | .write _ => PyM Unit
  | .sealProof _ _ _ _ => Except SealFailure PCCB

abbrev Admit := Act AdmitOp AdmitRes Unit Raised

/-- a write that returns or raises -/
def AdmitWrite.perform (w : AdmitWrite) : Admit Unit := Act.perform (.write w) rfl

/-! ## equality of proofs -/

/-- equality of the dataclasses of a proof, field by field -/
def PartyRef.pyEq (a b : PartyRef) : Bool :=
  a.type = b.type && a.id = b.id && a.displayName.pyEq b.displayName && (Json.obj a.attributes).pyEq (.obj b.attributes)

def TenantRef.pyEq (a b : TenantRef) : Bool :=
  a.tenantId = b.tenantId && (Json.obj a.attributes).pyEq (.obj b.attributes)

def AudienceRef.pyEq (a b : AudienceRef) : Bool := a.type = b.type && a.id = b.id && a.uri.pyEq b.uri

def ActionSpec.pyEq (a b : ActionSpec) : Bool :=
  a.name = b.name && a.capability = b.capability && (Json.obj a.parameters).pyEq (.obj b.parameters)
    && (Json.obj a.constraints).pyEq (.obj b.constraints) && (Json.obj a.scope).pyEq (.obj b.scope)

def TargetRef.pyEq (a b : TargetRef) : Bool :=
  a.resourceType = b.resourceType && a.resourceId = b.resourceId && a.uri.pyEq b.uri
    && (Json.obj a.selectors).pyEq (.obj b.selectors)

def ScopeSpec.pyEq (a b : ScopeSpec) : Bool :=
  a.mode = b.mode && a.capabilities = b.capabilities && a.singleUse = b.singleUse
    && (Json.arr (a.resourceSelectors.map .obj)).pyEq (.arr (b.resourceSelectors.map .obj))
    && (Json.obj a.parameterConstraints).pyEq (.obj b.parameterConstraints)

/-- `required_matches`, in its order -/
def requiredMatches (a b : PCCB) : List (String × Bool) :=
  [("intent_id", a.intentId.pyEq b.intentId), ("issued_at", a.issuedAt = b.issuedAt),
    ("not_before", a.notBefore = b.notBefore), ("expires_at", a.expiresAt = b.expiresAt),
    ("subject", a.subject.pyEq b.subject), ("tenant", a.tenant.pyEq b.tenant),
    ("audience", a.audience.pyEq b.audience), ("action", a.action.pyEq b.action),
    ("target", a.target.pyEq b.target), ("scope", a.scope.pyEq b.scope), ("escrow_id", a.escrowId.pyEq b.escrowId),
    ("action_hash", a.actionHash = b.actionHash)]

def validatedExecutionPccb (localPccb sealedPccb : PCCB) : Except RefusalException PCCB :=
  match (requiredMatches sealedPccb localPccb).find? fun m => !m.2 with
  | some (fieldName, _) =>
    .error (proofSealError "PROOF_SEAL_INVALID" s!"proof seal substitution changed the PCCB {fieldName}."
      (members [("field", .str fieldName)]))
  | none => .ok sealedPccb

/-! ## the call -/

structure ProtectedExecutionKernel where
  policyEngine : PolicyEngine
  pccbMinter : PCCBMinter
  /-- there is an `intent_store` with a `put_intent` -/
  intentStore : Bool := false
  /-- there is a `pccb_store` with a `put_pccb` -/
  pccbStore : Bool := false
  /-- there is a `proof_seal_client` -/
  proofSealClient : Bool := false
  requireProofSeal : Bool := false

section
variable (P : Platform) (H : MintProtocol) (K : ProtectedExecutionKernel) (drawn : Drawn)

def ProtectedExecutionKernel.resolveExecutionPccb (intent : ActionIntent) (decision : PolicyDecision)
    (context : AdmissionContext) (localPccb : PCCB) : Admit (Except RefusalException PCCB) :=
  if !K.proofSealClient then pure (.ok localPccb)
  else do
    let answer : Except SealFailure PCCB ← Act.ask (AdmitOp.sealProof intent decision context localPccb)
    match answer with
    | .ok sealedPccb => pure (validatedExecutionPccb localPccb sealedPccb)
    | .error (.proofSealError exc) => pure (.error exc)
    | .error .other => pure (.error (proofSealError "PROOF_SEAL_FAILED" "proof seal substitution failed."))

/-- the receipt of a decision -/
def createDecisionReceipt (intent : ActionIntent) (decision : PolicyDecision) (context : AdmissionContext)
    (refs : DecisionRefs := {}) : Admit StoredReceipt := do
  let make ← Act.lift (orRaise (decisionReceipt P intent decision context refs))
  return make drawn.receiptId

/-- what is refused of a decision to deny -/
def decisionRefusal (decision : PolicyDecision) : RefusalException :=
  policyDecisionError (decision.reasonCodes.head?.getD "POLICY_DENIED") decision.summary
    ((withOutcome .deny decision.ruleEvaluations).map RuleEvaluation.ruleId)
    (members [("reason_codes", strings decision.reasonCodes)])

def ProtectedExecutionKernel.deny (intent : ActionIntent) (decision : PolicyDecision) (context : AdmissionContext) :
    Admit AdmissionResult := do
  let receipt ← createDecisionReceipt P drawn intent decision context
  (AdmitWrite.writeReceipt receipt).perform
  let refusal := admissionRefusal drawn context (decisionRefusal decision) (some intent)
  (AdmitWrite.writeRefusal refusal).perform
  return { intent := some intent, decision := some decision, receipt := some receipt, refusal := some refusal }

/-- more approvals or more evidence -/
def ProtectedExecutionKernel.postpone (intent : ActionIntent) (decision : PolicyDecision)
    (context : AdmissionContext) : Admit AdmissionResult := do
  let receipt ← createDecisionReceipt P drawn intent decision context
  (AdmitWrite.writeReceipt receipt).perform
  return { intent := some intent, decision := some decision, receipt := some receipt }

/-- the escrow, the receipt and the stores of the proof that executions will verify -/
def ProtectedExecutionKernel.admit (intent : ActionIntent) (decision : PolicyDecision) (context : AdmissionContext)
    (pccb : PCCB) : Admit AdmissionResult := do
  (AdmitWrite.escrowIssue drawn.escrowId pccb.pccbId intent.action.capability pccb.expiresAt
    (members [("intent_id", .str intent.intentId)])).perform
  let receipt ← createDecisionReceipt P drawn intent decision context
    ⟨some pccb.pccbId, .str drawn.escrowId, some pccb.actionHash⟩
  if K.pccbStore then (AdmitWrite.putPccb pccb).perform
  (AdmitWrite.writeReceipt receipt).perform
  return { intent := some intent, decision := some decision, receipt := some receipt, pccb := some pccb,
           escrowId := some drawn.escrowId }

/-- what the minter is called with -/
def mintRequest (intent : ActionIntent) (context : AdmissionContext) : MintRequest where
  intent := intent
  context := context.toDynamicContextInput
  pccbId := drawn.pccbId
  nonce := drawn.nonce
  escrowId := .str drawn.escrowId

def ProtectedExecutionKernel.allow (intent : ActionIntent) (decision : PolicyDecision) (context : AdmissionContext) :
    Admit AdmissionResult := do
  let localPccb ← Act.lift (orRaise (K.pccbMinter.mint P H decision (mintRequest drawn intent context)))
  match ← K.resolveExecutionPccb intent decision context localPccb with
  | .ok pccb => K.admit P drawn intent decision context pccb
  | .error exc =>
    if !K.requireProofSeal then K.admit P drawn intent decision context localPccb
    else do
      let refusal := admissionRefusal drawn context exc (some intent)
        ⟨some localPccb.pccbId, .str drawn.escrowId, some localPccb.actionHash⟩
      (AdmitWrite.writeRefusal refusal).perform
      return { intent := some intent, decision := some decision, refusal := some refusal }

def ProtectedExecutionKernel.conclude (intent : ActionIntent) (decision : PolicyDecision)
    (context : AdmissionContext) : Admit AdmissionResult :=
  match decision.outcome with
  | .deny => deny P drawn intent decision context
  | .approvalRequired | .needsEvidence => postpone P drawn intent decision context
  | .allow => K.allow P H drawn intent decision context

def ProtectedExecutionKernel.submitIntent (payload : Json) (context : AdmissionContext) : Admit AdmissionResult :=
  match ActionIntentIntakeService.parse payload with
  | .error (.refusal exc) => do
    let refusal := admissionRefusal drawn context exc none
    (AdmitWrite.writeRefusal refusal).perform
    return { refusal := some refusal }
  | .error (.other e) => Act.raise (.other e)
  | .ok intent => do
    if K.intentStore then (AdmitWrite.putIntent intent).perform
    let decision ← Act.lift (orRaise (K.policyEngine.evaluate intent context))
    K.conclude P H drawn intent decision context

end

/-! ## runs in which the stores and the writer return -/

/-- every write returns; the seal client answers as it likes -/
def writesReturn : Monitor AdmitRes Unit where
  allow _ _ := True
  possible _ op answer :=
    match op, answer with
    | .write _, answer => (show PyM Unit from answer) = .ok ()
    | .sealProof _ _ _ _, _ => True
  next _ _ _ := ()

/-- no run raises in which the writes return -/
def Returns {α : Type} (m : Admit α) : Prop := wp writesReturn (m ()) (fun r _ => ∃ a, r.1 = .ok a) ()

section
variable {α β : Type}

theorem returns_iff_runs {m : Admit α} : Returns m ↔
    ∀ t r, Reaches (m ()) t (.ret r) → writesReturn.Possible () t → ∃ a, r.1 = .ok a := by
  constructor
  · intro h t r hr hp
    exact (wp_reaches h hr hp).2
  · exact fun h => wp_of_runs (fun _ _ => trivial) h

theorem returns_pure (a : α) : Returns (pure a : Admit α) := ⟨a, rfl⟩

theorem returns_write {w : AdmitWrite} {f : Unit → Admit β} : Returns (w.perform >>= f) ↔ Returns (f ()) := by
  constructor
  · intro h
    exact h.2 (.ok () : PyM Unit) rfl
  · intro h
    refine ⟨trivial, fun r hr => ?_⟩
    have hok : (show PyM Unit from r) = .ok () := hr
    show wp writesReturn (Act.resume f (show PyM Unit from r, ())) _ _
    rw [hok]
    exact h

theorem returns_writeWhen {b : Bool} {w : AdmitWrite} {f : Unit → Admit β} :
    Returns (if b then w.perform >>= f else f ()) ↔ Returns (f ()) := by
  cases b with
  | true => exact returns_write
  | false => exact Iff.rfl

theorem returns_lift {x : Except PyError α} {f : α → Admit β} :
    Returns (Act.lift (orRaise x) >>= f) ↔ ∃ a, x = .ok a ∧ Returns (f a) := by
  cases x with
  | ok a =>
    refine ⟨fun h => ⟨a, rfl, h⟩, ?_⟩
    rintro ⟨b, hb, h⟩
    cases hb
    exact h
  | error e =>
    refine iff_of_false ?_ ?_
    · rintro ⟨a, ha⟩
      cases ha
    · rintro ⟨a, ha, -⟩
      cases ha

end

end Actenon
