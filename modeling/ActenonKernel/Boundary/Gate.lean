import ActenonKernel.Execution.Outcomes
import ActenonKernel.Models.Malformed
import ActenonKernel.Preflight.Aggregation
import ActenonKernel.Receipts.Readable

/-!
# The gate (`actenon/gate.py`)

`ActenonGate.protect` takes the action and the proof as objects or as documents, and turns a proof it
cannot parse into a refused outcome.

* `ActenonGate.protect`         the call;
* `intake_only_iff`             when the intake raises contract errors only;
* `protect_refused_iff`         when a malformed proof ends as a refused outcome;
* `malformed_contained_iff`     both, with what `from_dict` and `parse_timestamp` raise.
-/

set_option linter.unusedSectionVars false

namespace Actenon

open Program FirstFault

/-! ## the call -/

structure ActenonGate where
  executor : ProtectedExecutor
  audience : AudienceRef
  policyPack : Option PolicyPack := none
  declaredCapabilities : Option (List String) := none
  declaredParameterConstraints : Dict := []
  declaredResourceSelectors : List Dict := []

structure GateOutcome where
  receipt : Receipt
  refusal : Option Refusal
  payload : Json
  unmetRequirements : List Requirement := []

/-- the `proof` of a call: none, an object or a document -/
inductive ProofArg where
  | absent
  | pccb (p : PCCB)
  | document (raw : Json)

def coerceAction : ActionIntent ⊕ Json → PyM ActionIntent
  | .inl intent => .ok intent
  | .inr raw => ActionIntentIntakeService.parse raw

def coerceAudience : AudienceRef ⊕ String → Except PyError AudienceRef
  | .inl audience => .ok audience
  | .inr value =>
    let audienceType := value.toList.takeWhile (· ≠ ':')
    match value.toList.dropWhile (· ≠ ':') with
    | [] => .ok ⟨"service", value, .null⟩
    | _ :: audienceId =>
      if audienceType.isEmpty || audienceId.isEmpty then
        valueError "audience must be an AudienceRef or a non-empty 'type:id' string"
      else .ok ⟨String.ofList audienceType, String.ofList audienceId, .null⟩

section
variable (G : ActenonGate) (intent : ActionIntent) (context : DynamicContextInput)

/-- `audience if given else self.audience` -/
def ActenonGate.audienceOf (audience : Option (AudienceRef ⊕ String)) : Except PyError AudienceRef :=
  match audience with
  | some given => coerceAudience given
  | none => .ok G.audience

/-- `_build_context` for a verification: what the edge declares about itself -/
def ActenonGate.buildContext (audience : AudienceRef) (requestId : String) (now : Datetime) :
    DynamicContextInput where
  requestId := requestId
  audience := audience
  scopeCapabilities := G.declaredCapabilities.getD [intent.action.capability]
  now := now
  parameterConstraints := G.declaredParameterConstraints
  resourceSelectors := G.declaredResourceSelectors

/-- an exception out of the preflight; `TrustArtifactVerificationError` is a `ValueError` -/
def PreflightError.toRaised : PreflightError → Raised
  | .raised e => e
  | .trust (.verification _ message) => .other ⟨.valueError, message⟩
  | .trust (.other e) => .other e

/-- the policy decision and the unmet requirements of the gate's policy pack -/
def ActenonGate.preflight (T : PreflightPlatform) (evidence : Dict) :
    PyM (Option PolicyDecision × List Requirement) :=
  match G.policyPack with
  | none => .ok (none, [])
  | some pack => do
    let decision ← (PreflightEngine.check T pack (.inl intent) evidence).mapError PreflightError.toRaised
    return (some (policyFromPreflight decision), decision.unmetRequirements)

/-- `create_from_exception` as the gate calls it: there is no proof -/
def gateRefusal (exc : RefusalException) (refusalId : String) : Refusal where
  refusalId := refusalId
  intentId := intent.intentId
  category := exc.category
  reasonCode := exc.refusalCode
  message := exc.message
  retryable := exc.retryable
  refusedAt := context.now
  tenant := intent.tenant
  subject := intent.requester
  audience := context.audience
  action := intent.action
  target := intent.target
  correlation := { requestId := some context.requestId }
  ruleRefs := exc.ruleRefs
  violations := exc.violations
  details := exc.details

/-- `create_refused_receipt` of an intent and a context -/
def gateReceipt (P : Platform) (refusal : Refusal) : Except PyError (String → Receipt) := do
  let (summary, details) ← refusedSummary P intent refusal
  return fun receiptId => {
    receiptId := receiptId
    intentId := intent.intentId
    occurredAt := context.now
    outcome := .refused
    phase := "execution"
    tenant := intent.tenant
    subject := intent.requester
    action := intent.action
    target := intent.target
    correlation := { refusal.correlation with refusalId := some refusal.refusalId,
                                              requestId := some context.requestId }
    summary := summary
    reasonCodes := [refusal.reasonCode]
    sideEffects := members [("state", .str "none")]
    details := details }

theorem refusalId_answer : Res .refusalId = Except Raised String := rfl

theorem receiptId_answer : Res .receiptId = Except Raised String := rfl

/-- `_refuse` -/
def refuseAtGate (P : Platform) (exc : RefusalException) (unmetRequirements : List Requirement) :
    Run GateOutcome := do
  let refusalId : String ← Act.perform .refusalId refusalId_answer
  let make ← Act.lift (orRaise (gateReceipt intent context P (gateRefusal intent context exc refusalId)))
  let receiptId : String ← Act.perform .receiptId receiptId_answer
  let _ : Unit ← Act.perform (.writeRefusal (gateRefusal intent context exc refusalId)) rfl
  writeReceipt (make receiptId)
  pure ⟨make receiptId, some (gateRefusal intent context exc refusalId), .null, unmetRequirements⟩

def escrowConfigurationInvalid : RefusalException where
  category := "escrow"
  refusalCode := "ESCROW_CONFIGURATION_INVALID"
  message := "Actenon escrow is enabled, but the proof is missing `pccb.escrow_reference.escrow_id`. Mint the proof with ActenonGate.mint_proof(...) on the same escrow-enabled gate so the PCCB and escrow record are created together."
  details := members [("missing_field", .str "pccb.escrow_reference.escrow_id"),
    ("minting_step", .str "ActenonGate.mint_proof(...)")]

/-- the execution of a proof that was parsed -/
def ActenonGate.runProtected (P : Platform) (pccb : PCCB) (policyDecision : Option PolicyDecision)
    (unmetRequirements : List Requirement) : Run GateOutcome :=
  match G.executor.escrow, pccb.escrowId with
  | true, .null => Act.raise (.refusal escrowConfigurationInvalid)
  | _, _ => do
    let result ← G.executor.execute P ⟨intent, pccb, context⟩ policyDecision
    pure ⟨result.receipt, result.refusal, result.payload, unmetRequirements⟩

/-- `PCCB contract validation failed` -/
def pccbInvalid (e : PyError) : RefusalException :=
  contractValidationError s!"PCCB contract validation failed: {e.message}" []

def pccbRequired (reasonCode : String) : RefusalException :=
  proofVerificationError reasonCode "The protected action did not include a proof credential block."

/-- `ActenonGate.protect`; the identifier and the clock are those of the gate's factories -/
def ActenonGate.protect (T : PreflightPlatform) (action : ActionIntent ⊕ Json) (proof : ProofArg)
    (audience : Option (AudienceRef ⊕ String)) (evidence : Dict) (missingProofReasonCode requestId : String)
    (now : Datetime) : Run GateOutcome := do
  let intent ← Act.lift (coerceAction action)
  let audience ← Act.lift (orRaise (G.audienceOf audience))
  let context := G.buildContext intent audience requestId now
  let (policyDecision, unmet) ← Act.lift (G.preflight intent T evidence)
  match proof with
  | .absent => refuseAtGate intent context T.toPlatform (pccbRequired missingProofReasonCode) unmet
  | .pccb pccb => G.runProtected intent context T.toPlatform pccb policyDecision unmet
  | .document raw =>
    match PCCB.fromDict raw with
    | .ok pccb => G.runProtected intent context T.toPlatform pccb policyDecision unmet
    | .error e =>
      if e.kind = .valueError then refuseAtGate intent context T.toPlatform (pccbInvalid e) unmet
      else Act.raise (.other e)

end

/-! ## the intake -/

/-- every exception is a `ContractValidationError` -/
def OnlyContractErrors {α : Type} (x : PyM α) : Prop :=
  ∀ e, x = .error e → ∃ message violations, e = .refusal (contractValidationError message violations)

theorem parse_only_iff {payload : Json} : OnlyContractErrors (ActionIntentIntakeService.parse payload) ↔
    OnlyValueErrors (ActionIntent.fromDict payload) := by
  unfold ActionIntentIntakeService.parse
  cases hp : ActionIntent.fromDict payload with
  | ok intent =>
    refine iff_of_true ?_ (Fallible.Raises.ok intent)
    intro e he
    dsimp only at he
    split at he
    · cases he
    · cases he
      exact ⟨_, _, rfl⟩
  | error e =>
    dsimp only
    by_cases hk : e.kind = .valueError
    · rw [if_pos hk]
      refine iff_of_true ?_ (Fallible.Raises.error hk)
      intro e' he
      cases he
      exact ⟨_, _, rfl⟩
    · rw [if_neg hk]
      refine iff_of_false ?_ fun h => hk (h e rfl)
      intro h
      obtain ⟨_, _, he⟩ := h _ rfl
      cases he

/-- **When the intake raises contract errors only.** -/
theorem intake_only_iff {data : Dict} :
    OnlyContractErrors (ActionIntentIntakeService.parse (.obj data)) ↔ first (intentChecks data) ≠ .escapes :=
  parse_only_iff.trans intent_only_iff

/-! ## a malformed proof -/

/-- `outcome` is `"refused"` -/
def GateOutcome.Refused (outcome : GateOutcome) : Prop :=
  outcome.receipt.outcome = .refused ∧ ∃ refusal, outcome.refusal = some refusal

section
variable {T : PreflightPlatform} {G : ActenonGate} {intent : ActionIntent} {context : DynamicContextInput}
  {action : ActionIntent ⊕ Json} {audience : Option (AudienceRef ⊕ String)} {given : AudienceRef}
  {evidence : Dict} {code requestId : String} {now : Datetime} {data : Dict}

theorem gateReceipt_iff {P : Platform} {refusal : Refusal} :
    (∃ make, gateReceipt intent context P refusal = .ok make) ↔ RefusalReadable P intent := by
  unfold gateReceipt
  have hsummary : (∃ r, refusedSummary P intent refusal = .ok r) ↔ RefusalReadable P intent := refusedSummary_iff
  rw [Fallible.exists_bind_ok, ← hsummary]
  constructor
  · rintro ⟨r, hr, -⟩
    exact ⟨r, hr⟩
  · rintro ⟨r, hr⟩
    exact ⟨r, hr, _, rfl⟩

theorem gateReceipt_ok {P : Platform} {refusal : Refusal} {make : String → Receipt}
    (h : gateReceipt intent context P refusal = .ok make) (receiptId : String) :
    (make receiptId).outcome = .refused := by
  unfold gateReceipt at h
  obtain ⟨⟨summary, details⟩, -, h⟩ := Fallible.bind_eq_ok.mp h
  rw [← Fallible.pure_eq_ok.mp h]

/-- a refusal at the gate ends as a refused outcome exactly when its receipt can be built -/
theorem wp_refuseAtGate {P : Platform} (exc : RefusalException) (unmet : List Requirement) (v : Locals) (g : Written) :
    wp outcomeMonitor (refuseAtGate intent context P exc unmet v)
      (fun r _ => (∃ outcome, r.1 = .ok outcome ∧ outcome.Refused) ↔ RefusalReadable P intent) g := by
  refine wp_perform trivial ?_ fun e hp => Bool.noConfusion (show true = false from hp rfl)
  intro refusalId _
  refine wp_lift ?_ ?_
  · intro make hmake
    have hread : RefusalReadable P intent := gateReceipt_iff.mp ⟨make, orRaise_ok hmake⟩
    refine wp_perform trivial ?_ fun e hp => Bool.noConfusion (show true = false from hp rfl)
    intro receiptId _
    refine wp_perform trivial ?_ fun e hp => Bool.noConfusion (show true = false from hp rfl)
    intro _ _
    refine wp_perform trivial ?_ fun e hp => Bool.noConfusion (show true = false from hp rfl)
    intro _ _
    exact iff_of_true ⟨_, rfl, gateReceipt_ok (orRaise_ok hmake) receiptId, _, rfl⟩ hread
  · intro e he
    refine iff_of_false ?_ fun hread => ?_
    · rintro ⟨outcome, h, -⟩
      cases h
    · obtain ⟨make, hmake⟩ := gateReceipt_iff.mpr hread
      rw [hmake] at he
      cases he

theorem wp_protect_malformed {e : PyError} (haction : coerceAction action = .ok intent)
    (haudience : G.audienceOf audience = .ok given) {checked : Option PolicyDecision × List Requirement}
    (hpolicy : G.preflight intent T evidence = .ok checked) (hproof : PCCB.fromDict (.obj data) = .error e) (v : Locals)
    (g : Written) :
    wp outcomeMonitor (G.protect T action (.document (.obj data)) audience evidence code requestId now v)
      (fun r _ => (∃ outcome, r.1 = .ok outcome ∧ outcome.Refused) ↔
        e.kind = .valueError ∧ RefusalReadable T.toPlatform intent) g := by
  unfold ActenonGate.protect
  rw [haction, haudience]
  refine wp_lift ?_ fun e h => nomatch h
  rintro _ ⟨⟩
  refine wp_lift ?_ fun e h => nomatch h
  rintro _ ⟨⟩
  rw [hpolicy]
  refine wp_lift ?_ fun e h => nomatch h
  rintro _ ⟨⟩
  dsimp only
  rw [hproof]
  dsimp only
  by_cases hk : e.kind = .valueError
  · rw [if_pos hk]
    refine wp_mono (wp_refuseAtGate _ _ v g) fun r _ h => h.trans (iff_and_self.mpr fun _ => hk)
  · rw [if_neg hk]
    exact iff_of_false (fun ⟨_, h, _⟩ => nomatch h) fun h => hk h.1

/-- **When a malformed proof ends as a refused outcome.** -/
theorem protect_refused_iff (haction : coerceAction action = .ok intent) (haudience : G.audienceOf audience = .ok given)
    {checked : Option PolicyDecision × List Requirement} (hpolicy : G.preflight intent T evidence = .ok checked)
    (hproof : ¬ ∃ pccb, PCCB.fromDict (.obj data) = .ok pccb) {t : List KernelEvent} {r : Except Raised GateOutcome}
    {v : Locals}
    (h : Reaches (G.protect T action (.document (.obj data)) audience evidence code requestId now {}) t (.ret (r, v)))
    (hdelivered : Delivered t) :
    (∃ outcome, r = .ok outcome ∧ outcome.Refused) ↔
      first (pccbChecks data) ≠ .escapes ∧ RefusalReadable T.toPlatform intent := by
  cases hp : PCCB.fromDict (.obj data) with
  | ok pccb => exact absurd ⟨pccb, hp⟩ hproof
  | error e =>
    refine (wp_reaches (wp_protect_malformed haction haudience hpolicy hp {} {}) h (hdelivered.possible _)).2.trans ?_
    refine and_congr_left fun _ => ?_
    rw [← pccb_only_iff, hp]
    exact ⟨fun hk => Fallible.Raises.error hk, fun h => h e rfl⟩

end

/-! ## the whole -/

/-- **What malformed input is contained.**  `parse_timestamp` raises nothing but a `ValueError` exactly
when the instant lies in the years 1 to 9999; `from_dict`, and with it the intake, exactly when the first
member with a fault is one whose check raises a `ValueError`; and the gate returns a refused outcome for
a malformed proof exactly then and when the receipt of the refusal can be built. -/
theorem malformed_contained_iff (T : PreflightPlatform) :
    (∀ raw fieldName, OnlyValueErrors (parseTimestamp raw fieldName) ↔ ¬ OutsideUtc raw) ∧
      (∀ data, OnlyValueErrors (ActionIntent.fromDict (.obj data)) ↔ first (intentChecks data) ≠ .escapes) ∧
      (∀ data, OnlyValueErrors (PCCB.fromDict (.obj data)) ↔ first (pccbChecks data) ≠ .escapes) ∧
      (∀ data, OnlyContractErrors (ActionIntentIntakeService.parse (.obj data)) ↔
        first (intentChecks data) ≠ .escapes) ∧
      ∀ (G : ActenonGate) (action : ActionIntent ⊕ Json) (data : Dict) (audience : Option (AudienceRef ⊕ String))
        (evidence : Dict) (code requestId : String) (now : Datetime) (intent : ActionIntent) (given : AudienceRef)
        (checked : Option PolicyDecision × List Requirement) (t : List KernelEvent) (r : Except Raised GateOutcome)
        (v : Locals),
        coerceAction action = .ok intent → G.audienceOf audience = .ok given →
        G.preflight intent T evidence = .ok checked → (¬ ∃ pccb, PCCB.fromDict (.obj data) = .ok pccb) →
        Reaches (G.protect T action (.document (.obj data)) audience evidence code requestId now {}) t (.ret (r, v)) →
        Delivered t →
        ((∃ outcome, r = .ok outcome ∧ outcome.Refused) ↔
          first (pccbChecks data) ≠ .escapes ∧ RefusalReadable T.toPlatform intent) := by
  refine ⟨fun _ _ => parseTimestamp_only_iff, fun _ => intent_only_iff, fun _ => pccb_only_iff,
    fun _ => intake_only_iff, ?_⟩
  intro G action data audience evidence code requestId now intent given checked t r v haction haudience hpolicy hproof h
    hdelivered
  exact protect_refused_iff haction haudience hpolicy hproof h hdelivered

def sampleGate : ActenonGate where
  executor := sampleExecutor
  audience := ⟨"service", "aud", .null⟩

def gatePlatform : PreflightPlatform := { samplePlatform id with lower := id }

/-- the sample proof with a text in place of its signature -/
def unsignedProof : Dict := Dict.set samplePccb.toDict (.str "signature") (.str "none")

def unsignedProofCall : Run GateOutcome :=
  sampleGate.protect gatePlatform (.inl sampleIntent) (.document (.obj unsignedProof)) none [] "PCCB_REQUIRED" "req_1"
    sampleIssued

theorem unsignedProof_delivered :
    Delivered (exec (World.env gatePlatform.toPlatform sampleAnswers) (unsignedProofCall {}) emptyWorld).2.2 := by
  decide +kernel

/-- the proof is refused -/
theorem malformed_contained_unsigned :
    ∃ outcome, (exec (World.env gatePlatform.toPlatform sampleAnswers) (unsignedProofCall {}) emptyWorld).1.1 = .ok outcome ∧
      outcome.Refused := by
  have hreach := exec_reaches_pair (World.env gatePlatform.toPlatform sampleAnswers) (unsignedProofCall {}) emptyWorld
  have hproof : (PCCB.fromDict (.obj unsignedProof)).toBool = false ∧ first (pccbChecks unsignedProof) ≠ .escapes := by
    decide +kernel
  refine ((malformed_contained_iff gatePlatform).2.2.2.2 sampleGate (.inl sampleIntent) unsignedProof none []
    "PCCB_REQUIRED" "req_1" sampleIssued sampleIntent sampleGate.audience (none, []) _ _ _ rfl rfl rfl ?_ hreach
    unsignedProof_delivered).mpr ?_
  · rintro ⟨pccb, h⟩
    rw [h] at hproof
    cases hproof.1
  · exact ⟨hproof.2, ⟨fun h => absurd h (by decide), fun h => absurd h (by decide)⟩⟩

/-- an intent whose `evidence_refs` is `null` -/
def nullEvidenceIntent : Dict :=
  members [("contract", .obj (members [("name", .str "action_intent"), ("version", .str "v1")])),
    ("evidence_refs", .null)]

/-- a proof issued an hour before the first instant of year 1 in UTC -/
def earlyPccb : Dict :=
  members [("contract", .obj (members [("name", .str "pccb"), ("version", .str "v1")])), ("pccb_id", .str "pccb_1"),
    ("issued_at", .str "0001-01-01T00:00:00+01:00")]

/-- a `TypeError` out of the intake and an `OverflowError` out of `PCCB.from_dict` -/
theorem malformed_escapes :
    ¬ OnlyContractErrors (ActionIntentIntakeService.parse (.obj nullEvidenceIntent)) ∧
      ¬ OnlyValueErrors (PCCB.fromDict (.obj earlyPccb)) ∧
      ¬ OnlyValueErrors (parseTimestamp (.str "0001-01-01T00:00:00+01:00") "issued_at") := by
  rw [intake_only_iff, pccb_only_iff]
  refine ⟨by decide +kernel, by decide +kernel, ?_⟩
  intro h
  refine (parseTimestamp_only_iff.mp h) (timestampShape_escapes.mp ?_)
  decide +kernel

end Actenon
