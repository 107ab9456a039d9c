import Mathlib.Data.Prod.Lex
import ActenonKernel.Receipts.Factory
import ActenonKernel.Lib.FirstBy
import ActenonKernel.Lib.Table

/-!
# Evidence queries (`actenon/evidence/query.py`)

A query names a receipt, a proof, an intent or an action hash.  The service looks for the artifacts
that belong to it in four stores, each of which may be missing, and checks that they fit together.

* `StoredReceipt`, `StoredRefusal`    the artifacts of `actenon/models/contracts.py` as a store holds them;
* `verifyHashIntegrity`               the hashes against the one of the intent;
* `verifyReceiptEvidenceChain`        the receipts an intent refers to, and theirs;
* `verifyFromReceipt`, `verifyFromRefusal`, `query`.
-/

set_option linter.unusedSectionVars false

namespace Actenon

open FirstBy

/-! ## artifacts -/

/-- `CorrelationRef` with all its fields -/
structure StoredCorrelation where
  pccbId : Option String := none
  escrowId : Json := .null
  refusalId : Option String := none
  receiptId : Option String := none
  requestId : Option String := none
  actionHash : Option ActionHashSpec := none
  executionAttemptId : Option String := none
  protocolVersion : Option String := none
  executionMode : Option String := none
  verifierIdentity : Option String := none
  targetDigest : Option ActionHashSpec := none

/-- the member of a text that is not `None` -/
def textMember (name : String) : Option String → Dict
  | none => []
  | some s => [(.str name, .str s)]

/-- the member of a digest that is not `None` -/
def digestMember (name : String) : Option DigestSpec → Dict
  | none => []
  | some d => [(.str name, .obj d.toDict)]

def StoredCorrelation.toDict (c : StoredCorrelation) : Dict :=
  textMember "pccb_id" c.pccbId ++ optMember "escrow_id" c.escrowId
    ++ textMember "refusal_id" c.refusalId ++ textMember "receipt_id" c.receiptId
    ++ textMember "request_id" c.requestId ++ digestMember "action_hash" c.actionHash
    ++ textMember "execution_attempt_id" c.executionAttemptId
    ++ textMember "protocol_version" c.protocolVersion ++ textMember "execution_mode" c.executionMode
    ++ textMember "verifier_identity" c.verifierIdentity ++ digestMember "target_digest" c.targetDigest

/-- `Receipt` with all its fields -/
structure StoredReceipt where
  receiptId : String
  intentId : String
  occurredAt : Datetime
  outcome : String
  tenant : TenantRef
  subject : PartyRef
  action : ActionSpec
  target : TargetRef
  summary : String
  phase : Option String := none
  correlation : Option StoredCorrelation := none
  reasonCodes : List String := []
  followUp : Dict := []
  sideEffects : Dict := []
  details : Dict := []
  metadata : Dict := []
  extensions : Dict := []

def StoredReceipt.toDict (r : StoredReceipt) : Dict :=
  members [("contract", .obj (members [("name", .str "receipt"), ("version", .str "v1")])),
      ("receipt_id", .str r.receiptId), ("intent_id", .str r.intentId),
      ("occurred_at", .str (formatTimestamp r.occurredAt)), ("outcome", .str r.outcome),
      ("tenant", .obj r.tenant.toDict), ("subject", .obj r.subject.toDict),
      ("action", .obj r.action.toDict), ("target", .obj r.target.toDict), ("summary", .str r.summary)]
    ++ textMember "phase" r.phase
    ++ dictMember "correlation" ((r.correlation.map StoredCorrelation.toDict).getD [])
    ++ listMember "reason_codes" (r.reasonCodes.map .str) ++ dictMember "follow_up" r.followUp
    ++ dictMember "side_effects" r.sideEffects ++ dictMember "details" r.details
    ++ dictMember "metadata" r.metadata ++ dictMember "extensions" r.extensions

/-- `Refusal`, as far as the queries read it -/
structure StoredRefusal where
  refusalId : String
  refusedAt : Datetime
  intentId : Option String := none
  correlation : Option StoredCorrelation := none

def Json.text? : Json → Option String
  | .str s => some s
  | _ => none

/-! ### what the executors write -/

def CorrelationRef.stored (c : CorrelationRef) : StoredCorrelation where
  pccbId := c.pccbId.text?
  escrowId := c.escrowId
  refusalId := c.refusalId
  requestId := c.requestId
  actionHash := c.actionHash

def ReceiptOutcome.text : ReceiptOutcome → String
  | .executed => "executed"
  | .refused => "refused"

def Receipt.stored (r : Receipt) : StoredReceipt where
  receiptId := r.receiptId
  intentId := r.intentId
  occurredAt := r.occurredAt
  outcome := r.outcome.text
  tenant := r.tenant
  subject := r.subject
  action := r.action
  target := r.target
  summary := r.summary
  phase := some r.phase
  correlation := some r.correlation.stored
  reasonCodes := r.reasonCodes
  sideEffects := r.sideEffects
  details := r.details
  extensions := r.extensions

def Refusal.stored (r : Refusal) : StoredRefusal where
  refusalId := r.refusalId
  refusedAt := r.refusedAt
  intentId := some r.intentId
  correlation := some r.correlation.stored

/-! ### what an artifact is correlated with -/

/-- `correlation is not None and correlation.pccb_id == pccb_id` -/
def namesProof (c : Option StoredCorrelation) (pccbId : String) : Bool :=
  c.any fun c => c.pccbId = some pccbId

/-- `correlation.action_hash`, where there are both -/
def correlatedHash (c : Option StoredCorrelation) : Option String :=
  (c.bind StoredCorrelation.actionHash).map DigestSpec.value

/-- the refusals that belong to a refused receipt -/
def StoredReceipt.pairs (receipt : StoredReceipt) (refusal : StoredRefusal) : Bool :=
  match receipt.correlation, refusal.correlation with
  | some c, some c' => c'.pccbId = c.pccbId && refusal.intentId = some receipt.intentId
  | _, _ => false

/-! ## verdicts -/

inductive EvidenceVerdict where
  | verifiedExecution
  | verifiedRefusal
  | proofNotFound
  | hashMismatch
  | chainBroken
deriving DecidableEq, Repr

/-- exactly one of the four fields; everything else is refused by `__post_init__` -/
inductive EvidenceQuery where
  | receiptId (id : String)
  | pccbId (id : String)
  | intentId (id : String)
  | actionHash (hash : String)
deriving DecidableEq, Repr

structure EvidenceResult where
  verdict : EvidenceVerdict
  summary : String
  receiptId : Option String := none
  refusalId : Option String := none
  pccbId : Option String := none
  /-- a proof carries its `intent_id` unchecked -/
  intentId : Json := .null
  actionHash : Option String := none
  chainDepth : Nat := 0
  details : Dict := []

/-- `x or y` of texts -/
def textOr (x y : Option String) : Option String :=
  match x with
  | some s => if s = "" then y else some s
  | none => y

def EvidenceResult.withDefaults (result : EvidenceResult) (receipt : StoredReceipt)
    (refusal : Option StoredRefusal) (pccb : PCCB) (intent : ActionIntent) (chainDepth : Nat) :
    EvidenceResult where
  verdict := result.verdict
  summary := result.summary
  receiptId := textOr result.receiptId (some receipt.receiptId)
  refusalId := textOr result.refusalId (refusal.map StoredRefusal.refusalId)
  pccbId := textOr result.pccbId (some pccb.pccbId)
  intentId := if result.intentId.truthy then result.intentId else .str intent.intentId
  actionHash := textOr result.actionHash (some pccb.actionHash.value)
  chainDepth := max result.chainDepth chainDepth
  details := result.details

/-! ## the order of preference -/

/-- `rank.get(outcome, 99)` -/
def outcomeRank (outcome : String) : Nat :=
  match outcome with
  | "executed" => 0
  | "refused" => 1
  | "allow" => 2
  | "deny" => 3
  | "approval-required" => 4
  | "needs-evidence" => 5
  | _ => 99

/-- `(rank.get(item.outcome, 99), item.occurred_at)` -/
def StoredReceipt.preference (r : StoredReceipt) : Nat ×ₗ Nat := toLex (outcomeRank r.outcome, r.occurredAt.us)

def preferReceipt (receipts : List StoredReceipt) : Option StoredReceipt :=
  sortedHead StoredReceipt.preference receipts

def preferRefusal (refusals : List StoredRefusal) : Option StoredRefusal :=
  sortedHead (fun item => item.refusedAt.us) refusals

def preferPccb (pccbs : List PCCB) : Option PCCB := sortedHead (fun item => item.issuedAt.us) pccbs

/-! ## the service -/

/-- a store of receipts or refusals: what it gives for an identifier has it and is listed.  A directory
lists every file, also several with one identifier in them. -/
structure ArtifactStore {α : Type} (key : α → String) where
  find : String → Option α
  rows : List α
  key_of_find : ∀ {id a}, find id = some a → key a = id
  mem_of_find : ∀ {id a}, find id = some a → a ∈ rows

/-- a dictionary is a store that lists nothing else -/
def dictionaryStore {α : Type} {key : α → String} (t : Table key) : ArtifactStore key where
  find := t.find
  rows := t.rows
  key_of_find := Table.key_of_find
  mem_of_find := List.mem_of_find?_eq_some

/-- the stores of intents and proofs are dictionaries with the identifiers as keys: a second file with an
identifier makes them raise -/
structure EvidenceQueryService where
  intentStore : Option (Table ActionIntent.intentId) := none
  pccbStore : Option (Table PCCB.pccbId) := none
  receiptStore : Option (ArtifactStore StoredReceipt.receiptId) := none
  refusalStore : Option (ArtifactStore StoredRefusal.refusalId) := none
  maxChainDepth : Int := 8

namespace EvidenceQueryService

section
variable (P : Platform) (profile : String) (S : EvidenceQueryService)

def loadIntent (intentId : String) : Option ActionIntent := S.intentStore.bind fun t => t.find intentId

def loadPccb (pccbId : String) : Option PCCB := S.pccbStore.bind fun t => t.find pccbId

def loadReceipt (receiptId : String) : Option StoredReceipt := S.receiptStore.bind fun t => t.find receiptId

def listReceipts : List StoredReceipt := (S.receiptStore.map ArtifactStore.rows).getD []

def listRefusals : List StoredRefusal := (S.refusalStore.map ArtifactStore.rows).getD []

def listPccbs : List PCCB := (S.pccbStore.map Table.rows).getD []

/-! ### hashes -/

/-- a correlated hash that is not the one of the intent -/
def wrongHash (expected : String) (correlated : Option String) : Option String :=
  correlated.filter fun hash => hash ≠ expected

def verifyHashIntegrity (intent : ActionIntent) (pccb : PCCB) (receipt : StoredReceipt)
    (refusal : Option StoredRefusal) : Except PyError (Option EvidenceResult) := do
  let expected ← sha256Hex P (.obj (buildActionHashInput intent))
  let details := members [("expected_action_hash", .str expected)]
  if pccb.actionHash.value ≠ expected then
    return some
      { verdict := .hashMismatch
        summary := "The PCCB action hash does not match the canonical Action Intent hash."
        pccbId := some pccb.pccbId, intentId := .str intent.intentId
        actionHash := some pccb.actionHash.value, details := details }
  match wrongHash expected (correlatedHash receipt.correlation) with
  | some hash =>
    return some
      { verdict := .hashMismatch
        summary := "The receipt correlation action hash does not match the canonical Action Intent hash."
        receiptId := some receipt.receiptId, pccbId := some pccb.pccbId
        intentId := .str intent.intentId, actionHash := some hash, details := details }
  | none =>
    match refusal with
    | none => return none
    | some refusal =>
      return (wrongHash expected (correlatedHash refusal.correlation)).map fun hash =>
        { verdict := .hashMismatch
          summary := "The refusal correlation action hash does not match the canonical Action Intent hash."
          refusalId := some refusal.refusalId, pccbId := some pccb.pccbId
          intentId := .str intent.intentId, actionHash := some hash, details := details }

/-! ### the chain of receipts -/

/-- the receipts an intent refers to -/
def receiptRefs (intent : ActionIntent) : List EvidenceRef :=
  intent.evidenceRefs.filter fun item => item.type = "actenon.receipt"

def buildArtifactDigest (receipt : StoredReceipt) : Except PyError DigestSpec := do
  let hash ← sha256Hex P (.obj receipt.toDict)
  return ⟨"sha-256", profile, hash⟩

/-- what stops the traversal at a receipt, or the intent of the receipt with its identifier -/
def followRef (receipts : ArtifactStore StoredReceipt.receiptId) (intents : Table ActionIntent.intentId)
    (intent : ActionIntent) (seen : List String) (ref : EvidenceRef) :
    Except PyError (EvidenceResult ⊕ ActionIntent × String) :=
  match receipts.find ref.value with
  | none => .ok (.inl
      { verdict := .chainBroken, summary := "A referenced receipt in the evidence chain could not be loaded."
        intentId := .str intent.intentId, receiptId := some ref.value })
  | some receipt =>
    if receipt.receiptId ∈ seen then .ok (.inl
      { verdict := .chainBroken, summary := "A receipt evidence cycle was detected during chain traversal."
        intentId := .str intent.intentId, receiptId := some receipt.receiptId })
    else
      match DigestSpec.fromDict (.obj ref.digest) "evidence_ref.digest" with
      | .error e =>
        if e.kind = .valueError then .ok (.inl
          { verdict := .hashMismatch
            summary := "A receipt evidence reference declared an invalid digest payload."
            intentId := .str intent.intentId, receiptId := some receipt.receiptId })
        else .error e
      | .ok declared => do
        let actual ← buildArtifactDigest P profile receipt
        if declared ≠ actual then
          return .inl
            { verdict := .hashMismatch
              summary := "A referenced receipt digest does not match the canonical receipt artifact hash."
              intentId := .str intent.intentId, receiptId := some receipt.receiptId
              details := members [("declared_digest", .obj declared.toDict),
                ("actual_digest", .obj actual.toDict)] }
        match intents.find receipt.intentId with
        | none =>
          return .inl
            { verdict := .chainBroken
              summary := "A referenced receipt does not have a loadable parent Action Intent for continued chain traversal."
              intentId := .str intent.intentId, receiptId := some receipt.receiptId }
        | some parent => return .inr (parent, receipt.receiptId)

/-- the loop over the references; `nested` is the call for the intent of a receipt -/
def followRefs (nested : ActionIntent → List String → Except PyError (Option EvidenceResult × Nat))
    (receipts : ArtifactStore StoredReceipt.receiptId) (intents : Table ActionIntent.intentId)
    (intent : ActionIntent) (seen : List String) :
    List EvidenceRef → Nat → Except PyError (Option EvidenceResult × Nat)
  | [], maxDepth => .ok (none, maxDepth)
  | ref :: refs, maxDepth => do
    match ← followRef P profile receipts intents intent seen ref with
    | .inl stop => return (some stop, maxDepth)
    | .inr (parent, receiptId) =>
      let (verdict, depth) ← nested parent (receiptId :: seen)
      match verdict with
      | some stop => return (some stop, max maxDepth (depth + 1))
      | none => followRefs nested receipts intents intent seen refs (max maxDepth (depth + 1))

/-- one call; without `nested` the depth is exhausted -/
def chainAt (nested : Option (ActionIntent → List String → Except PyError (Option EvidenceResult × Nat)))
    (intent : ActionIntent) (seen : List String) : Except PyError (Option EvidenceResult × Nat) :=
  if receiptRefs intent = [] then .ok (none, 0)
  else
    match S.receiptStore, S.intentStore, nested with
    | none, _, _ => .ok (some
        { verdict := .chainBroken
          summary := "Receipt evidence references are present, but no receipt store is configured for chain traversal."
          intentId := .str intent.intentId }, 0)
    | some _, none, _ => .ok (some
        { verdict := .chainBroken
          summary := "Receipt evidence references are present, but no Action Intent store is configured for chain traversal."
          intentId := .str intent.intentId }, 0)
    | some _, some _, none => .ok (some
        { verdict := .chainBroken
          summary := "Receipt evidence chain exceeded the configured maximum traversal depth."
          intentId := .str intent.intentId
          details := members [("max_chain_depth", .int S.maxChainDepth)] }, 0)
    | some receipts, some intents, some nested =>
      followRefs P profile nested receipts intents intent seen (receiptRefs intent) 0

/-- `remaining_depth` is what is left of the recursion -/
def verifyReceiptEvidenceChain : Nat → ActionIntent → List String → Except PyError (Option EvidenceResult × Nat)
  | 0 => S.chainAt P profile none
  | remainingDepth + 1 => S.chainAt P profile (some (verifyReceiptEvidenceChain remainingDepth))

/-! ### from an artifact to a verdict -/

/-- `pccb.intent_id is None or pccb.intent_id == intent.intent_id` -/
def speaksOf (pccb : PCCB) (intent : ActionIntent) : Bool :=
  match pccb.intentId with
  | .null => true
  | id => isStr id intent.intentId

/-- the hashes and the chain; `verified` is what is returned for a chain without a fault -/
def verifyArtifacts (intent : ActionIntent) (pccb : PCCB) (receipt : StoredReceipt)
    (refusal : Option StoredRefusal) (verified : Nat → EvidenceResult) : Except PyError EvidenceResult := do
  match ← verifyHashIntegrity P intent pccb receipt refusal with
  | some verdict => return verdict
  | none =>
    let (chain, depth) ← S.verifyReceiptEvidenceChain P profile S.maxChainDepth.toNat intent []
    match chain with
    | some verdict => return verdict.withDefaults receipt refusal pccb intent depth
    | none => return verified depth

/-- the refused receipts of an intent under a proof -/
def refusedUnder (intent : ActionIntent) (pccb : PCCB) (item : StoredReceipt) : Bool :=
  item.outcome = "refused" && item.intentId = intent.intentId && namesProof item.correlation pccb.pccbId

def verifyFromRefusal (refusal : StoredRefusal) (pairedReceipt : Option StoredReceipt)
    (intent : Option ActionIntent) (pccb : Option PCCB) : Except PyError EvidenceResult :=
  match refusal.intentId with
  | none => .ok
      { verdict := .chainBroken
        summary := "The refusal does not identify the Action Intent it belongs to."
        refusalId := some refusal.refusalId }
  | some intentId =>
  match intent.or (S.loadIntent intentId) with
  | none => .ok
      { verdict := .chainBroken, summary := "The refusal does not have a loadable Action Intent."
        refusalId := some refusal.refusalId, intentId := .str intentId }
  | some intent =>
  match refusal.correlation.bind StoredCorrelation.pccbId with
  | none => .ok
      { verdict := .chainBroken, summary := "The refusal does not carry a correlated PCCB id."
        refusalId := some refusal.refusalId, intentId := .str intent.intentId }
  | some pccbId =>
  match pccb.or (S.loadPccb pccbId) with
  | none => .ok
      { verdict := .chainBroken
        summary := "The refusal points at a PCCB that is not available in the local evidence stores."
        refusalId := some refusal.refusalId, pccbId := some pccbId, intentId := .str intent.intentId }
  | some pccb =>
  if speaksOf pccb intent = false then .ok
      { verdict := .chainBroken
        summary := "The refusal points at a PCCB whose intent_id does not match the loaded Action Intent."
        refusalId := some refusal.refusalId, pccbId := some pccb.pccbId, intentId := .str intent.intentId
        details := members [("pccb_intent_id", pccb.intentId)] }
  else
  match pairedReceipt.or (preferReceipt (S.listReceipts.filter (refusedUnder intent pccb))) with
  | none => .ok
      { verdict := .chainBroken
        summary := "The refusal does not have a matching refused receipt artifact."
        refusalId := some refusal.refusalId, pccbId := some pccb.pccbId, intentId := .str intent.intentId }
  | some receipt =>
  if receipt.outcome ≠ "refused" then .ok
      { verdict := .chainBroken
        summary := "The receipt paired with the refusal is not a refused execution receipt."
        receiptId := some receipt.receiptId, refusalId := some refusal.refusalId
        pccbId := some pccb.pccbId, intentId := .str intent.intentId
        details := members [("receipt_outcome", .str receipt.outcome)] }
  else
  S.verifyArtifacts P profile intent pccb receipt (some refusal) fun depth =>
    { verdict := .verifiedRefusal
      summary := "A valid refusal, refused receipt, PCCB, and receipt-evidence chain were found."
      receiptId := some receipt.receiptId, refusalId := some refusal.refusalId
      pccbId := some pccb.pccbId, intentId := .str intent.intentId
      actionHash := some pccb.actionHash.value, chainDepth := depth }

/-- an executed receipt -/
def verifyExecution (receipt : StoredReceipt) (intent : Option ActionIntent) (pccb : Option PCCB) :
    Except PyError EvidenceResult :=
  match intent.or (S.loadIntent receipt.intentId) with
  | none => .ok
      { verdict := .chainBroken
        summary := "The execution receipt does not have a loadable Action Intent."
        receiptId := some receipt.receiptId, intentId := .str receipt.intentId }
  | some intent =>
  match receipt.correlation.bind StoredCorrelation.pccbId with
  | none => .ok
      { verdict := .chainBroken, summary := "The execution receipt does not carry a correlated PCCB id."
        receiptId := some receipt.receiptId, intentId := .str receipt.intentId }
  | some pccbId =>
  match pccb.or (S.loadPccb pccbId) with
  | none => .ok
      { verdict := .chainBroken
        summary := "The execution receipt points at a PCCB that is not available in the local evidence stores."
        receiptId := some receipt.receiptId, pccbId := some pccbId, intentId := .str receipt.intentId }
  | some pccb =>
  if speaksOf pccb intent = false then .ok
      { verdict := .chainBroken
        summary := "The execution receipt points at a PCCB whose intent_id does not match the loaded Action Intent."
        receiptId := some receipt.receiptId, pccbId := some pccb.pccbId, intentId := .str intent.intentId
        details := members [("pccb_intent_id", pccb.intentId)] }
  else
  S.verifyArtifacts P profile intent pccb receipt none fun depth =>
    { verdict := .verifiedExecution
      summary := "A valid execution receipt, PCCB, and receipt-evidence chain were found."
      receiptId := some receipt.receiptId, pccbId := some pccb.pccbId, intentId := .str intent.intentId
      actionHash := some pccb.actionHash.value, chainDepth := depth }

def verifyFromReceipt (receipt : StoredReceipt) (intent : Option ActionIntent) (pccb : Option PCCB) :
    Except PyError EvidenceResult :=
  if receipt.outcome = "refused" then
    match preferRefusal (S.listRefusals.filter receipt.pairs) with
    | none => .ok
        { verdict := .chainBroken
          summary := "The refused receipt does not have a matching refusal artifact."
          receiptId := some receipt.receiptId, intentId := .str receipt.intentId }
    | some refusal => S.verifyFromRefusal P profile refusal (some receipt) intent pccb
  else if receipt.outcome ≠ "executed" then .ok
    { verdict := .proofNotFound
      summary := "The referenced receipt is not a terminal execution artifact."
      receiptId := some receipt.receiptId, intentId := .str receipt.intentId
      details := members [("outcome", .str receipt.outcome)] }
  else S.verifyExecution P profile receipt intent pccb

/-! ### queries -/

def queryByReceiptId (receiptId : String) : Except PyError EvidenceResult :=
  match S.loadReceipt receiptId with
  | none => .ok
      { verdict := .proofNotFound, summary := "No receipt was found for the requested receipt_id."
        details := members [("receipt_id", .str receiptId)] }
  | some receipt => S.verifyFromReceipt P profile receipt none none

/-- the receipts under a proof -/
def receiptsUnder (pccbId : String) : List StoredReceipt :=
  S.listReceipts.filter fun item => namesProof item.correlation pccbId

def refusalsUnder (pccbId : String) : List StoredRefusal :=
  S.listRefusals.filter fun item => namesProof item.correlation pccbId

def queryByPccbId (pccbId : String) : Except PyError EvidenceResult :=
  let receipt := preferReceipt (S.receiptsUnder pccbId)
  let pccb := S.loadPccb pccbId
  match preferRefusal (S.refusalsUnder pccbId), receipt, pccb with
  | some refusal, _, _ => S.verifyFromRefusal P profile refusal receipt none none
  | none, some receipt, _ => S.verifyFromReceipt P profile receipt none pccb
  | none, none, some pccb => .ok
      { verdict := .chainBroken
        summary := "A PCCB exists for the requested execution, but no receipt or refusal chain was found."
        pccbId := some pccb.pccbId, intentId := pccb.intentId, actionHash := some pccb.actionHash.value }
  | none, none, none => .ok
      { verdict := .proofNotFound
        summary := "No proof or outcome chain was found for the requested pccb_id."
        details := members [("pccb_id", .str pccbId)] }

/-- the receipts of an intent -/
def receiptsOf (intentId : String) : List StoredReceipt :=
  S.listReceipts.filter fun item => item.intentId = intentId

def refusalsOf (intentId : String) : List StoredRefusal :=
  S.listRefusals.filter fun item => item.intentId = some intentId

/-- the proofs of an intent -/
def pccbsOf (intentId : String) : List PCCB := S.listPccbs.filter fun item => isStr item.intentId intentId

def queryByIntentId (intentId : String) : Except PyError EvidenceResult :=
  let receipt := preferReceipt (S.receiptsOf intentId)
  let pccb := preferPccb (S.pccbsOf intentId)
  let intent := S.loadIntent intentId
  match preferRefusal (S.refusalsOf intentId), receipt, pccb with
  | some refusal, _, _ => S.verifyFromRefusal P profile refusal receipt intent pccb
  | none, some receipt, _ => S.verifyFromReceipt P profile receipt intent pccb
  | none, none, some pccb => .ok
      { verdict := .chainBroken
        summary := "Proof exists for the requested intent, but no terminal outcome artifact was found."
        pccbId := some pccb.pccbId, intentId := .str intentId, actionHash := some pccb.actionHash.value }
  | none, none, none => .ok
      { verdict := .proofNotFound
        summary := "No proof or outcome chain was found for the requested intent_id."
        intentId := .str intentId }

def queryByActionHash (actionHash : String) : Except PyError EvidenceResult :=
  match preferPccb (S.listPccbs.filter fun item => item.actionHash.value = actionHash) with
  | some pccb => S.queryByPccbId P profile pccb.pccbId
  | none =>
    let receipt := preferReceipt
      (S.listReceipts.filter fun item => correlatedHash item.correlation = some actionHash)
    match preferRefusal (S.listRefusals.filter fun item => correlatedHash item.correlation = some actionHash),
      receipt with
    | some refusal, _ => S.verifyFromRefusal P profile refusal receipt none none
    | none, some receipt => S.verifyFromReceipt P profile receipt none none
    | none, none => .ok
        { verdict := .proofNotFound
          summary := "No proof or outcome chain was found for the requested action_hash."
          actionHash := some actionHash }

def query : EvidenceQuery → Except PyError EvidenceResult
  | .receiptId id => S.queryByReceiptId P profile id
  | .pccbId id => S.queryByPccbId P profile id
  | .intentId id => S.queryByIntentId P profile id
  | .actionHash hash => S.queryByActionHash P profile hash

end

end EvidenceQueryService

end Actenon
