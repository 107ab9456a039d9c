import ActenonKernel.Lib.PyString
import ActenonKernel.Models.RoundTrip
import ActenonKernel.Replay.Client
import ActenonKernel.Execution.Effects

/-!
# The boundary (`actenon/boundary/__init__.py`, `actenon/api/intake.py`)

`verify_boundary` decodes a token and an intent, checks the route and the proof, claims single use and
the effect, and hashes the request for its receipt.  What reads the clock or makes an identifier is an
input of the call; `json.loads` without duplicate keys may be any function.

* `decodeProofToken`          JSON, or base64url of JSON with or without `v1.`;
* `ActionIntentIntakeService.parse`;
* `BoundaryVerifier.checkRequest`    steps 1 to 6, which touch no state;
* `BoundaryVerifier.claimSingleUse`    the replay store, or the set of this process;
* `BoundaryVerifier.verifyBoundary`    the call, whose local variables are that set.
-/

set_option linter.unusedSectionVars false

namespace Actenon

open Program

/-! ## documents -/

def EvidenceRef.toDict (e : EvidenceRef) : Dict :=
  members [("type", .str e.type), ("value", .str e.value)] ++ dictMember "digest" e.digest

def ActionIntent.toDict (i : ActionIntent) : Dict :=
  members [("contract", .obj (members [("name", .str "action_intent"), ("version", .str "v1")])),
      ("intent_id", .str i.intentId), ("issued_at", .str (formatTimestamp i.issuedAt)),
      ("expires_at", .str (formatTimestamp i.expiresAt)), ("tenant", .obj i.tenant.toDict),
      ("requester", .obj i.requester.toDict), ("action", .obj i.action.toDict),
      ("target", .obj i.target.toDict)]
    ++ optMember "idempotency_key" i.idempotencyKey ++ optMember "justification" i.justification
    ++ dictMember "context" i.context
    ++ listMember "evidence_refs" (i.evidenceRefs.map fun e => .obj e.toDict)
    ++ dictMember "metadata" i.metadata ++ dictMember "extensions" i.extensions

def contractValidationError (message : String) (violations : List Violation) : RefusalException where
  category := "schema"
  refusalCode := "SCHEMA_INVALID"
  message := message
  violations := violations

/-- the semantic checks of the intake -/
def intakeViolations (intent : ActionIntent) : List Violation :=
  (if intent.expiresAt ≤ intent.issuedAt then
      [{ code := "INVALID_WINDOW", fieldPath := .str "expires_at",
         message := "expires_at must be later than issued_at" }]
    else []) ++
    if intent.action.parameters.isEmpty then
      [{ code := "MISSING_ACTION_PARAMETERS", fieldPath := .str "action.parameters",
         message := "action.parameters must contain at least one value" }]
    else []

def ActionIntentIntakeService.parse (payload : Json) : PyM ActionIntent :=
  match ActionIntent.fromDict payload with
  | .error e =>
    if e.kind = .valueError then
      raiseRefusal (contractValidationError "Action Intent contract validation failed"
        [{ code := "INVALID_CONTRACT", message := e.message }])
    else .error (.other e)
  | .ok intent =>
    if (intakeViolations intent).isEmpty then .ok intent
    else raiseRefusal (contractValidationError "Action Intent semantic validation failed" (intakeViolations intent))

/-! ## requests and results -/

/-- the `intent` of a request: an object or a document -/
inductive IntentArg where
  | absent
  | intent (i : ActionIntent)
  | payload (j : Json)

structure BoundaryVerificationRequest where
  proofToken : String
  actionType : String
  actionHash : String
  audience : String := ""
  boundaryId : String := ""
  target : String := ""
  intent : IntentArg
  /-- `request.now or datetime.now(timezone.utc)` -/
  now : Datetime
  scopeCapabilities : List String := []
  /-- `uuid4().hex` for the context and for the receipt -/
  contextUuid : String
  receiptUuid : String

/-- `verified_at`, which is the clock's, is left out -/
structure BoundaryVerificationResult where
  valid : Bool
  reason : String
  refusalCode : String := ""
  proofId : Option String := none
  receiptId : Option String := none
  effectReference : Option EffectReference := none
  verifiedRequestHash : String := ""

def BoundaryVerificationResult.success (proofId receiptId : String) (effectReference : Option EffectReference)
    (verifiedRequestHash : String) : BoundaryVerificationResult where
  valid := true
  reason := "verified"
  proofId := some proofId
  receiptId := some receiptId
  effectReference := effectReference
  verifiedRequestHash := verifiedRequestHash

def BoundaryVerificationResult.failure (reason refusalCode : String) : BoundaryVerificationResult where
  valid := false
  reason := reason
  refusalCode := refusalCode

/-! ## decoding -/

/-- the text of a token as JSON text -/
def tokenText (token : String) : Except PyError String :=
  let text := PyString.strip token.toList
  if text.head? = some '\x7b' then .ok (String.ofList text)
  else
    let text := PyString.removePrefix "v1.".toList text
    let padded := text ++ List.replicate ((4 - text.length % 4) % 4) '='
    match (PyString.b64decode padded).bind PyString.utf8decode with
    | some s => .ok s
    | none => valueError "proof token is neither PCCB JSON nor base64url-encoded PCCB JSON"

def decodeProofToken (loads : String → Except PyError Json) (token : String) : Except PyError PCCB := do
  let text ← tokenText token
  let payload ← loads text
  match payload with
  | .obj kvs => PCCB.fromDict (.obj kvs)
  | _ => valueError "proof token must decode to a JSON object"

def parseAudience (raw : String) : Except PyError AudienceRef :=
  match PyString.partition ':' raw.toList with
  | none => .ok ⟨"service", raw, .null⟩
  | some (type, id) =>
    if type.isEmpty ∨ id.isEmpty then valueError "audience must be 'type:id' or a bare service id"
    else .ok ⟨String.ofList type, String.ofList id, .null⟩

/-! ## the verifier -/

structure BoundaryVerifier where
  /-- `loads_no_duplicate_keys` -/
  loads : String → Except PyError Json
  pccbVerifier : Option PCCBVerifier := none
  /-- the store object of a durable replay store; `none` for the set of this process -/
  replayStore : Option Nat := none
  effectProtector : Option EffectProtector := none
  scopeCapabilities : List String := []

/-- why the steps end early: with `BoundaryVerificationResult.failure(reason, code)`, or with an
exception -/
inductive BoundaryStop where
  | refused (reason code : String)
  | raised (e : Raised)

abbrev Checked := Except BoundaryStop

/-- `return BoundaryVerificationResult.failure(reason, code)` when `bad` -/
def refuseWhen (bad : Prop) [Decidable bad] (reason code : String) : Checked Unit :=
  if bad then .error (.refused reason code) else .ok ()

/-- `try: x except (ValueError, TypeError, ..): return failure(reason, code)`, by what is caught -/
def orRefuse {α : Type} (x : PyM α) (caught : Raised → Bool) (reason code : String) : Checked α :=
  match x with
  | .ok a => .ok a
  | .error e => .error (if caught e then .refused reason code else .raised e)

/-- `except (ValueError, TypeError, RecursionError)` -/
def decodeCaught : Raised → Bool
  | .other e => e.kind = .valueError || e.kind = .typeError || e.kind = .other "RecursionError"
  | .refusal _ => false

/-- `except (RefusalException, ValueError, TypeError)` -/
def intakeCaught : Raised → Bool
  | .other e => e.kind = .valueError || e.kind = .typeError
  | .refusal _ => true

/-- the Action Intent of a request -/
def IntentArg.resolve : IntentArg → PyM ActionIntent
  | .absent => .error (.other ⟨.typeError, "no Action Intent"⟩)
  | .intent i => .ok i
  | .payload j => ActionIntentIntakeService.parse j

def replayDetected : BoundaryVerificationResult :=
  .failure "replay detected: proof has already been used" "REPLAY_DETECTED"

def outcomeUnknown : BoundaryVerificationResult :=
  .failure "boundary verification failed unexpectedly" "OUTCOME_UNKNOWN"

/-- what the replay key of this process is made of -/
def identityInput (pccb : PCCB) : Dict :=
  members [("pccb_id", .str pccb.pccbId), ("nonce", .str pccb.nonce),
    ("action_hash", .obj pccb.actionHash.toDict), ("audience", .obj pccb.audience.toDict)]

section
variable (P : Platform) (B : BoundaryVerifier)

/-- `scope_capabilities` of the request, of the verifier, or the declared action -/
def BoundaryVerifier.trustedCapabilities (request : BoundaryVerificationRequest) : List String :=
  if request.scopeCapabilities ≠ [] then request.scopeCapabilities
  else if B.scopeCapabilities ≠ [] then B.scopeCapabilities
  else [request.actionType]

/-- step 5: the route -/
def BoundaryVerifier.checkRoute (request : BoundaryVerificationRequest) (intent : ActionIntent) :
    Checked Unit := do
  refuseWhen (request.actionType = "" ∨ PyString.strip request.actionType.toList = [])
    "no boundary action_type declared" "MALFORMED_REQUEST"
  refuseWhen (intent.action.name ≠ request.actionType)
    "the intent's action does not match this boundary's action" "ACTION_MISMATCH"
  refuseWhen (intent.action.capability ∉ B.trustedCapabilities request)
    "the intent's capability is not permitted by this boundary's trusted scope" "ACTION_MISMATCH"
  refuseWhen (request.target ≠ "" ∧ intent.target.resourceId ≠ request.target)
    "the intent's target does not match this request's target" "TARGET_MISMATCH"

def BoundaryVerifier.context (request : BoundaryVerificationRequest) (audience : AudienceRef) :
    DynamicContextInput where
  requestId := "req_boundary_" ++ request.contextUuid
  audience := audience
  scopeCapabilities := B.trustedCapabilities request
  now := request.now

/-- step 6: the proof -/
def checkProof (V : PCCBVerifier) (intent : ActionIntent) (pccb : PCCB) (context : DynamicContextInput) :
    Checked Unit :=
  match V.verify P intent pccb context with
  | .ok () => .ok ()
  | .error (.refusal e) =>
    if e.category = "proof" then
      .error (.refused s!"proof verification failed: {e.refusalCode}" e.refusalCode)
    else .error (.raised (.refusal e))
  | .error e => .error (.raised e)

/-- steps 1 to 6 -/
def BoundaryVerifier.checkRequest (request : BoundaryVerificationRequest) :
    Checked (ActionIntent × PCCB × DynamicContextInput) := do
  refuseWhen (request.proofToken = "") "no proof token provided" "PROOF_MISSING"
  match B.pccbVerifier with
  | none =>
    .error (.refused "no PCCBVerifier trust root is configured; the boundary refuses every proof"
      "ISSUER_UNTRUSTED")
  | some V => do
    let pccb ← orRefuse (orRaise (decodeProofToken B.loads request.proofToken)) decodeCaught
      "proof token is not a well-formed PCCB" "PROOF_INVALID"
    refuseWhen (request.intent matches .absent)
      "no Action Intent supplied; a proof can only be verified against the exact action it authorises"
      "MALFORMED_REQUEST"
    let intent ← orRefuse request.intent.resolve intakeCaught
      "the Action Intent or boundary audience is malformed" "MALFORMED_REQUEST"
    let audience ← orRefuse (orRaise (parseAudience request.audience)) intakeCaught
      "the Action Intent or boundary audience is malformed" "MALFORMED_REQUEST"
    B.checkRoute request intent
    checkProof P V intent pccb (B.context request audience)
    refuseWhen (request.actionHash ≠ "" ∧ request.actionHash ≠ pccb.actionHash.value)
      "the declared action hash does not match the proof" "ACTION_HASH_MISMATCH"
    refuseWhen ((Dict.find pccb.extensions (.str "effect")).isSome ∧ B.effectProtector.isNone)
      "This proof requires authoritative effect ownership verification at the edge." "POLICY_REFUSAL"
    return (intent, pccb, B.context request audience)

def BoundaryVerifier.claimSingleUse (intent : ActionIntent) (pccb : PCCB) (context : DynamicContextInput) :
    Kernel (List String) (Option BoundaryVerificationResult) :=
  match B.replayStore with
  | some inst => do
    let claim ← Act.lift (orRaise (buildActionConsumptionClaim P ⟨intent, pccb, context⟩))
    Act.catching (do
        let _ ← claimOnce inst claim context.now
        let _ ← markConsumed inst claim.replayKey context.now
        pure none)
      fun e =>
        match e with
        | .refusal _ => pure (some replayDetected)
        | .other _ => pure (some (.failure "replay state could not be established; refusing"
            "REPLAY_STORE_UNAVAILABLE"))
  | none => do
    let key ← Act.lift (orRaise (sha256Hex P (.obj (identityInput pccb))))
    let used ← Act.vars
    if key ∈ used then pure (some replayDetected)
    else do
      Act.assign (key :: ·)
      pure none

/-- the claim of the effect: a reference, none, or a refusal -/
def BoundaryVerifier.claimEffect (request : ProtectedExecutionRequest) :
    Kernel (List String) (BoundaryVerificationResult ⊕ Option EffectReference) :=
  match B.effectProtector with
  | none => pure (.inr none)
  | some E =>
    Act.catching (do
        let reference ← E.claimRequest P request
        pure (.inr (some reference)))
      fun e =>
        match e with
        | .refusal r =>
          if r.category = "proof" then pure (.inl (.failure r.message r.refusalCode)) else Act.raise e
        | .other _ => Act.raise e

def BoundaryVerifier.receiptRequestHash (request : BoundaryVerificationRequest) : PyM String := do
  let intent ← request.intent.resolve
  let pccb ← orRaise (decodeProofToken B.loads request.proofToken)
  orRaise (sha256Hex P (.obj (members [("proof", .obj pccb.toDict), ("intent", .obj intent.toDict),
    ("action_type", .str request.actionType), ("action_hash", .str request.actionHash),
    ("target", .str request.target), ("audience", .str request.audience),
    ("boundary_id", .str request.boundaryId)])))

/-- steps 7 and 8 -/
def BoundaryVerifier.finish (request : BoundaryVerificationRequest) (intent : ActionIntent) (pccb : PCCB)
    (context : DynamicContextInput) : Kernel (List String) BoundaryVerificationResult := do
  let refusal ← B.claimSingleUse P intent pccb context
  match refusal with
  | some r => pure r
  | none => do
    let effect ← B.claimEffect P ⟨intent, pccb, context⟩
    match effect with
    | .inl r => pure r
    | .inr reference => do
      let hash ← Act.lift (B.receiptRequestHash P request)
      pure (.success pccb.pccbId ("rcpt_" ++ String.ofList (request.receiptUuid.toList.take 16)) reference hash)

/-- `verify_boundary`, which never raises -/
def BoundaryVerifier.verifyBoundary (request : BoundaryVerificationRequest) :
    Kernel (List String) BoundaryVerificationResult :=
  match B.checkRequest P request with
  | .error (.refused reason code) => pure (.failure reason code)
  | .error (.raised _) => pure outcomeUnknown
  | .ok (intent, pccb, context) =>
    Act.catching (B.finish P request intent pccb context) fun _ => pure outcomeUnknown

end

end Actenon
