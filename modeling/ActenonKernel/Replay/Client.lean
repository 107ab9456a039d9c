import ActenonKernel.Execution.World

/-!
# The replay store as a caller sees it (`actenon/replay/dbapi.py`, `actenon/replay/service.py`)

`claim_once`, `mark_consumed` and `release_claim` are a transaction and then `inspect`, which is a
transaction of its own and reads again after it has expired a row; other callers' transactions may
come in between.
-/

set_option linter.unusedSectionVars false

namespace Actenon

open Program

section
variable {S : Type}

/-- the depth of calls at which the interpreter raises `RecursionError` -/
def recursionLimit : Nat := 1000

/-- `inspect`, which calls itself after it has expired the row -/
def inspectUpTo (inst : Nat) (replayKey : String) (now : Datetime) :
    Nat → Kernel S (Option ActionConsumptionState)
  | 0 => Act.raise (.other ⟨.other "RecursionError", "maximum recursion depth exceeded"⟩)
  | depth + 1 => do
    let answer : InspectResult ← Act.perform (.store inst (.inspect replayKey now)) rfl
    match answer with
    | .missing => pure none
    | .expired => inspectUpTo inst replayKey now depth
    | .found row => pure (some row)

def inspect (inst : Nat) (replayKey : String) (now : Datetime) :
    Kernel S (Option ActionConsumptionState) := inspectUpTo inst replayKey now recursionLimit

def duplicateReplay (claim : ActionConsumptionClaim) (existing : Option ActionConsumptionState) :
    Raised :=
  .refusal (replayValidationError "DUPLICATE_REPLAY"
    "The protected action has already been claimed for execution."
    (members [("replay_key", .str claim.replayKey),
      ("existing_status", .str ((existing.map fun s => s.status.text).getD "unknown")),
      ("pccb_id", .str claim.pccbId)]))

def claimOnce (inst : Nat) (claim : ActionConsumptionClaim) (now : Datetime) :
    Kernel S (Option ActionConsumptionState) := do
  let inserted : Bool ← Act.perform (.store inst (.claim claim now)) rfl
  let state ← inspect inst claim.replayKey now
  if inserted then pure state else Act.raise (duplicateReplay claim state)

def replayStateInvalid (replayKey : String) (existing : Option ActionConsumptionState) : Raised :=
  .refusal (replayValidationError "REPLAY_STATE_INVALID"
    "The replay record could not transition to consumed."
    (members [("replay_key", .str replayKey)] ++
      match existing with
      | some s => members [("existing_status", .str s.status.text)]
      | none => []))

def markConsumed (inst : Nat) (replayKey : String) (now : Datetime) :
    Kernel S (Option ActionConsumptionState) := do
  let changed : Bool ← Act.perform (.store inst (.consume replayKey now)) rfl
  let state ← inspect inst replayKey now
  if changed then pure state else Act.raise (replayStateInvalid replayKey state)

def releaseClaim (inst : Nat) (replayKey : String) (now : Datetime) (reason : String) :
    Kernel S (Option ActionConsumptionState) := do
  let answer : ReleaseResult ← Act.perform (.store inst (.release replayKey now reason)) rfl
  match answer with
  | .missing => Act.raise (.refusal (replayValidationError "REPLAY_CLAIM_MISSING"
      "The replay claim does not exist." (members [("replay_key", .str replayKey)])))
  | .alreadyConsumed row => pure (some row)
  | .notClaimed status => Act.raise (.refusal (replayValidationError "REPLAY_RELEASE_INVALID"
      "The replay claim could not be released."
      (members [("replay_key", .str replayKey), ("existing_status", .str status.text)])))
  | .released => inspect inst replayKey now

/-! ## requests -/

variable (P : Platform)

def buildActionConsumptionClaim (request : ProtectedExecutionRequest) :
    Except PyError ActionConsumptionClaim := do
  let replayKey ← buildReplayKey P request.intent request.pccb request.context
  return {
    replayKey := replayKey
    intentId := some request.intent.intentId
    pccbId := request.pccb.pccbId
    nonce := request.pccb.nonce
    actionHash := request.pccb.actionHash.value
    audience := s!"{request.pccb.audience.type}:{request.pccb.audience.id}"
    capability := request.intent.action.capability
    tenantId := some request.intent.tenant.tenantId
    subjectId := some request.intent.requester.id
    expiresAt := request.pccb.expiresAt
    metadata := members [("request_id", .str request.context.requestId),
      ("audience_id", .str request.pccb.audience.id),
      ("scope_capabilities", strings request.pccb.scope.capabilities)] }

def claimRequest (inst : Nat) (request : ProtectedExecutionRequest) :
    Kernel S (Option ActionConsumptionState) := do
  let claim ← Act.lift (orRaise (buildActionConsumptionClaim P request))
  claimOnce inst claim request.context.now

end

end Actenon
