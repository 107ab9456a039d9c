import ActenonKernel.Execution.Effects

/-!
# The protected executor (`actenon/execution/protected_executor.py`)

`ProtectedExecutor.execute` as a program: the local variables of the source are `Locals`, each
phase of the `try` block and each `except` clause is a definition of its own.

* `authorize`        verification, policy and the effect constraint;
* `dispatch`         escrow, effect, credential, replay consumption, handler;
* `complete`         evidence, release, receipt, record;
* `onRefusal`, `onException`    the two `except` clauses;
* `execute`.
-/

set_option linter.unusedSectionVars false

namespace Actenon

open Program

structure ExecutionResult where
  receipt : Receipt
  refusal : Option Refusal
  payload : Json

/-! ## artifacts with their identifiers -/

section
variable (P : Platform) {S : Type} (request : ProtectedExecutionRequest)

def createExecutionReceipt (payload : Json) : Kernel S Receipt := do
  let make ← Act.lift (orRaise (executionReceipt P request payload))
  let receiptId : String ← Act.perform .receiptId rfl
  pure (make receiptId)

def createRefusal (exc : RefusalException) : Kernel S Refusal := do
  let refusalId : String ← Act.perform .refusalId rfl
  pure (refusalOf request exc refusalId)

def createRefusedReceipt (refusal : Refusal) : Kernel S Receipt := do
  let make ← Act.lift (orRaise (refusedReceipt P request refusal))
  let receiptId : String ← Act.perform .receiptId rfl
  pure (make receiptId)

def writeReceipt (receipt : Receipt) : Kernel S Unit := Act.perform (.writeReceipt receipt) rfl

/-- both artifacts of a refused execution -/
def writeOutcome (refusal : Refusal) (receipt : Receipt) : Kernel S ExecutionResult := do
  let _ : Unit ← Act.perform (.writeRefusal refusal) rfl
  writeReceipt receipt
  pure ⟨receipt, some refusal, .null⟩

/-- the refusal made of an exception that is not one -/
def executionFailed (code message : String) (e : PyError) : RefusalException where
  category := "execution"
  refusalCode := code
  message := message
  details := redactedHandlerExceptionDetails e request.context.requestId

end

/-! ## the executor -/

/-- the local variables of `execute` -/
structure Locals where
  replayState : Option ActionConsumptionState := none
  replayConsumed : Bool := false
  brokeredCredential : Option BrokeredCredential := none
  handlerStarted : Bool := false
  effectReference : Option EffectReference := none
  effectEvidence : Option Dict := none

abbrev Run := Kernel Locals

structure ProtectedExecutor where
  proofVerifier : PCCBVerifier
  /-- the store object of the replay protector; `none` with `replay_protection="disabled"` -/
  replayProtector : Option Nat
  /-- `replay_store_failure="fail_open"` -/
  failOpen : Bool := false
  /-- whether there is an escrow -/
  escrow : Bool := false
  idempotencyStore : Option Nat := none
  effectProtector : Option EffectProtector := none

section
variable (P : Platform) (X : ProtectedExecutor) (request : ProtectedExecutionRequest)

/-! ### replay -/

def replayStoreUnavailable (message operation : String) : Raised :=
  .refusal
    { category := "replay"
      refusalCode := "REPLAY_STORE_UNAVAILABLE"
      message := message
      retryable := true
      details := members [("operation", .str operation)] }

/-- a refusal goes on; of anything else the configuration decides -/
def ProtectedExecutor.onStoreFailure {α : Type} (dflt : α) (unavailable : Raised) : Raised → Run α
  | .refusal e => Act.raise (.refusal e)
  | .other _ => if X.failOpen then pure dflt else Act.raise unavailable

def ProtectedExecutor.claimReplay : Run (Option ActionConsumptionState) :=
  match X.replayProtector with
  | none => pure none
  | some inst => Act.catching (claimRequest P inst request)
      (X.onStoreFailure none (replayStoreUnavailable
        "Replay/single-use state could not be established. Execution was refused." "claim"))

def ProtectedExecutor.markReplayConsumed (replayState : Option ActionConsumptionState) : Run Bool :=
  match X.replayProtector, replayState with
  | some inst, some state =>
    Act.catching (do
        let _ ← markConsumed inst state.replayKey request.context.now
        pure true)
      (X.onStoreFailure false (replayStoreUnavailable
        "Replay/single-use consumption could not be recorded. Execution was refused." "consume"))
  | _, _ => pure false

/-- a failure is logged; the claim stays -/
def ProtectedExecutor.releaseReplayClaim (replayState : Option ActionConsumptionState)
    (reason : String) : Run Unit :=
  match X.replayProtector, replayState with
  | some inst, some state =>
    Act.catching (do
        let _ ← releaseClaim inst state.replayKey request.context.now reason
        pure ())
      fun _ => pure ()
  | _, _ => pure ()

/-- `replay_consumed = self._mark_replay_consumed(replay_state)` -/
def ProtectedExecutor.consumeReplay : Run Unit := do
  let v ← Act.vars
  let consumed ← X.markReplayConsumed request v.replayState
  Act.assign fun v => { v with replayConsumed := consumed }

/-- a failure is logged -/
def releaseCredential (credential : Option BrokeredCredential) (outcome : Dict) : Run Unit :=
  match credential with
  | none => pure ()
  | some c => Act.catching (Act.perform (.release c outcome) rfl) fun _ => pure ()

/-! ### before the claim -/

def ownershipUnverified : RefusalException where
  category := "policy"
  refusalCode := "POLICY_REFUSAL"
  message := "This proof requires authoritative effect ownership verification at the edge."

/-- `if policy_decision is not None and not policy_decision.allowed` -/
def checkPolicy : Option PolicyDecision → PyM Unit
  | none => .ok ()
  | some decision =>
    if decision.allowed then .ok ()
    else do
      let refusal ← orRaise (policyRefusal decision)
      raiseRefusal refusal

/-- the proof verifies, the policy allows, and an effect constraint can be enforced -/
def ProtectedExecutor.authorize (policyDecision : Option PolicyDecision) : PyM Unit := do
  X.proofVerifier.verify P request.intent request.pccb request.context
  checkPolicy policyDecision
  raiseWhen ((Dict.find request.pccb.extensions (.str "effect")).isSome ∧ X.effectProtector.isNone)
    (.refusal ownershipUnverified)

/-! ### idempotency -/

/-- the store and the identifier of the operation, where idempotency applies -/
def ProtectedExecutor.operation : Option (Nat × Json) :=
  match X.effectProtector, X.idempotencyStore, Dict.get request.intent.metadata "operation_id" with
  | none, some _, .null => none
  | none, some store, operationId => some (store, operationId)
  | _, _, _ => none

def ProtectedExecutor.lookupPrior : Run (Option Prior) :=
  match X.operation request with
  | none => pure none
  | some (store, operationId) => Act.perform (.lookup store operationId) rfl

/-- the operation ran with another action hash -/
def priorConflict {α : Type} (operationId : Json) (prior : Prior) (actionHash : String) : PyM α := do
  let name ← orRaise (P.repr operationId)
  raiseRefusal (idempotencyConflict operationId
    s!"Operation {name} was already executed with a different action_hash." prior.actionHash actionHash)

/-- the operation ran before: the prior result, and no handler -/
def ProtectedExecutor.returnPrior (prior : Prior) : Run ExecutionResult :=
  if prior.actionHash ≠ request.pccb.actionHash.value then
    Act.lift (priorConflict P (Dict.get request.intent.metadata "operation_id") prior
      request.pccb.actionHash.value)
  else do
    X.consumeReplay request
    let receipt ← createExecutionReceipt P request prior.result
    writeReceipt receipt
    pure ⟨receipt, none, prior.result⟩

def ProtectedExecutor.recordResult (payload : Json) : Run Unit :=
  match X.operation request with
  | none => pure ()
  | some (store, operationId) =>
    Act.perform (.record store operationId request.pccb.actionHash.value payload) rfl

/-! ### after the handler -/

def boundaryUnconfirmed (outcome : Json) : RefusalException where
  category := "execution"
  refusalCode := if isStr outcome "AMBIGUOUS" then "OUTCOME_UNKNOWN" else "PROVIDER_REFUSAL"
  message := "The protected boundary did not confirm a committed consequence."

def evidenceInvalid : RefusalException where
  category := "execution"
  refusalCode := "OUTCOME_UNKNOWN"
  message := "The protected boundary did not provide valid consequence evidence; the effect remains held."

/-- the boundary's evidence about this effect: its members, the reference and the triple -/
def validEvidence (reference : EffectReference) (rawEvidence : Json) : Option Dict :=
  match rawEvidence with
  | .obj d =>
    if Dict.keysAre d ["profile", "effect_id", "reservation_id", "owner_attempt_id", "outcome",
          "execution_occurred", "evidence_hash"] &&
        isStr (Dict.get d "profile") reference.profile &&
        isStr (Dict.get d "effect_id") reference.effectId &&
        isStr (Dict.get d "reservation_id") reference.reservationId &&
        isStr (Dict.get d "owner_attempt_id") reference.ownerAttemptId &&
        P.validateEffectOutcome (Dict.get d "outcome") (Dict.get d "execution_occurred")
          (Dict.get d "evidence_hash") then
      some d
    else none
  | _ => none

/-- the evidence is kept before an outcome other than `COMMITTED` is refused -/
def readEvidence (payload : Json) : Run Unit := do
  let v ← Act.vars
  match v.effectReference with
  | none => pure ()
  | some reference => do
    let rawEvidence ← Act.lift (orRaise (payloadGet payload "effect_evidence"))
    match validEvidence P reference rawEvidence with
    | none => Act.raise (.refusal evidenceInvalid)
    | some evidence => do
      Act.assign fun v => { v with effectEvidence := some evidence }
      if isStr (Dict.get evidence "outcome") "COMMITTED" then pure ()
      else Act.raise (.refusal (boundaryUnconfirmed (Dict.get evidence "outcome")))

def brokerPayload (credential : BrokeredCredential) : Dict :=
  members [("brokered_credential", .obj credential.toPublicDict),
    ("credential_broker", .obj (members [("mode", .str "protected_endpoint"),
      ("credential_material_exposed", .bool false)]))]

/-- the receipt with the evidence of the boundary -/
def Locals.withEvidence (v : Locals) (receipt : Receipt) : Receipt :=
  match v.effectEvidence with
  | none => receipt
  | some evidence =>
    { receipt with extensions := Dict.set receipt.extensions (.str "effect") (.obj evidence) }

/-- what follows the handler in the `try` block -/
def ProtectedExecutor.complete (credential : BrokeredCredential) (payload : Json) :
    Run ExecutionResult := do
  readEvidence P payload
  let given ← Act.lift (orRaise (payloadDict payload))
  let receiptPayload : Json := .obj (Dict.merge given (brokerPayload credential))
  let _ : Unit ← Act.perform
    (.release credential (members [("outcome", .str "executed"), ("payload", payload)])) rfl
  let created ← createExecutionReceipt P request receiptPayload
  let v ← Act.vars
  let receipt := v.withEvidence created
  writeReceipt receipt
  X.recordResult request payload
  pure ⟨receipt, none, payload⟩

/-- the receipt of a payload can be built -/
def ReceiptBuilds (credential : BrokeredCredential) (payload : Json) : Prop :=
  ∃ given make, payloadDict payload = .ok given ∧
    executionReceipt P request (.obj (Dict.merge given (brokerPayload credential))) = .ok make

/-! ### up to the handler -/

def ProtectedExecutor.consumeEscrow : Run Unit :=
  if X.escrow then
    match request.pccb.escrowId with
    | .null => Act.raise (.refusal
        { category := "escrow"
          refusalCode := "ESCROW_REFERENCE_MISSING"
          message := "The proof does not include an escrow reference." })
    | escrowId => Act.perform (.escrowConsume escrowId request.pccb.pccbId
        request.intent.action.capability request.context.now) rfl
  else pure ()

def ProtectedExecutor.claimEffect : Run Unit :=
  match X.effectProtector with
  | none => pure ()
  | some E => do
    let reference ← E.claimRequest P request
    Act.assign fun v => { v with effectReference := some reference }

def ProtectedExecutor.dispatch : Run ExecutionResult := do
  X.consumeEscrow request
  X.claimEffect P request
  let credential : BrokeredCredential ← Act.perform (.acquire request) rfl
  Act.assign fun v => { v with brokeredCredential := some credential }
  X.consumeReplay request
  Act.assign fun v => { v with handlerStarted := true }
  let payload : Json ← Act.perform (.handler request (some credential)) rfl
  X.complete P request credential payload

/-- the `try` block -/
def ProtectedExecutor.attempt (policyDecision : Option PolicyDecision) : Run ExecutionResult := do
  Act.lift (X.authorize P request policyDecision)
  let replayState ← X.claimReplay P request
  Act.assign fun v => { v with replayState := replayState }
  let prior ← X.lookupPrior request
  match prior with
  | some prior => X.returnPrior P request prior
  | none => X.dispatch P request

/-! ### the `except` clauses -/

/-- the evidence of a refused execution: the boundary's, or what the executor itself knows -/
def refusedEvidence (reference : EffectReference) (handlerStarted : Bool) (evidence : Option Dict)
    (reasonCodes : List String) : Except PyError Dict :=
  match evidence with
  | some d => .ok d
  | none => do
    let hash ← sha256Hex P (.obj (members [("reference", .obj reference.toDict),
      ("handler_started", .bool handlerStarted), ("reason", strings reasonCodes)]))
    return reference.toDict ++
      members [("outcome", .str (if handlerStarted then "AMBIGUOUS" else "NOT_EXECUTED")),
        ("execution_occurred", if handlerStarted then .null else .bool false),
        ("evidence_hash", .str hash)]

def effectRefusalReceipt (receipt : Receipt) (reference : EffectReference) (handlerStarted : Bool)
    (evidence : Option Dict) : Except PyError Receipt := do
  let shown ← refusedEvidence P reference handlerStarted evidence receipt.reasonCodes
  let ambiguous := isStr (Dict.get shown "outcome") "AMBIGUOUS"
  return { receipt with
    summary := if ambiguous then
      "Execution outcome is unknown; blind retry is refused until reconciliation." else receipt.summary
    sideEffects := members [("state", .str (if ambiguous then "unknown" else "none"))]
    extensions := Dict.set receipt.extensions (.str "effect") (.obj shown) }

def Locals.refusedReceipt (v : Locals) (receipt : Receipt) : Except PyError Receipt :=
  match v.effectReference with
  | none => .ok receipt
  | some reference =>
    effectRefusalReceipt P receipt reference v.handlerStarted v.effectEvidence

/-- the artifacts of a refusal -/
def emitRefusal (exc : RefusalException) : Run ExecutionResult := do
  let refusal ← createRefusal request exc
  let created ← createRefusedReceipt P request refusal
  let v ← Act.vars
  let receipt ← Act.lift (orRaise (v.refusedReceipt P created))
  writeOutcome refusal receipt

def heldForReconciliation : RefusalException where
  category := "execution"
  refusalCode := "OUTCOME_UNKNOWN"
  message := "Execution may have crossed the protected boundary; the effect remains held for reconciliation."

/-- the refusal that is reported -/
def Locals.reported (v : Locals) (caught : RefusalException) : RefusalException :=
  if v.effectReference.isSome && v.handlerStarted && v.effectEvidence.isNone then heldForReconciliation
  else caught

def ProtectedExecutor.releaseUnlessConsumed (reason : String) : Run Unit := do
  let v ← Act.vars
  if v.replayConsumed then pure () else X.releaseReplayClaim request v.replayState reason

def ProtectedExecutor.onRefusal (caught : RefusalException) : Run ExecutionResult := do
  let v ← Act.vars
  let exc := v.reported caught
  releaseCredential v.brokeredCredential (members
    [("outcome", .str (if exc.refusalCode = "OUTCOME_UNKNOWN" then "ambiguous" else "refused")),
      ("reason_code", .str exc.refusalCode)])
  X.releaseUnlessConsumed request exc.refusalCode
  emitRefusal P request exc

/-- whether the execution may have crossed the boundary of the effect -/
def Locals.crossed (v : Locals) : Bool := v.effectReference.isSome && v.handlerStarted

/-- a failure to consume is logged; the claim stays -/
def ProtectedExecutor.consumeUnlessConsumed : Run Unit := do
  let v ← Act.vars
  if v.replayConsumed then pure ()
  else Act.catching (X.consumeReplay request) fun
    | .refusal _ => pure ()
    | .other e => Act.raise (.other e)

def ProtectedExecutor.onException (e : PyError) : Run ExecutionResult := do
  let v ← Act.vars
  releaseCredential v.brokeredCredential (Dict.merge
    (members [("outcome", .str (if v.crossed then "ambiguous" else "failed")),
      ("safe_error_code", .str safeHandlerExceptionCode)])
    (redactedHandlerExceptionDetails e request.context.requestId))
  X.consumeUnlessConsumed request
  emitRefusal P request (executionFailed request
    (if v.crossed then "OUTCOME_UNKNOWN" else "EXECUTION_FAILED")
    (if v.crossed then
      "The execution outcome is unknown; the effect remains held for reconciliation."
    else safeHandlerExceptionMessage) e)

def ProtectedExecutor.onRaise : Raised → Run ExecutionResult
  | .refusal caught => X.onRefusal P request caught
  | .other e => X.onException P request e

def ProtectedExecutor.execute (policyDecision : Option PolicyDecision) : Run ExecutionResult :=
  Act.catching (X.attempt P request policyDecision) (X.onRaise P request)

/-- one call of `execute` -/
def ProtectedExecutor.call (policyDecision : Option PolicyDecision) :
    Prog Op Res (Except Raised ExecutionResult × Locals) := X.execute P request policyDecision {}

end

end Actenon
