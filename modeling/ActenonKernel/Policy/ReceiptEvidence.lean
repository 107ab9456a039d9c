import ActenonKernel.Evidence.ReceiptChain
import ActenonKernel.Policy.Engine

/-!
# Receipt evidence (`actenon/policy/evidence.py`)

The hard rule that the two shipped engines share: every receipt an intent refers to has to be in the
store, with the declared digest, an allowed outcome and the required capability.

* `ReceiptEvidenceVerificationRule.evaluate`    the rule;
* `refVerdict`                what becomes of one reference;
* `receiptEvidence_returns`   the rule returns unless the first reference that is not in order raises;
* `ttl_returns`               when the rule about the lifetime returns.
-/

set_option linter.unusedSectionVars false

namespace Actenon

open FirstFault

/-- the platform with what the shipped policies take from outside -/
structure PolicyPlatform extends Platform where
  /-- `s.upper()` -/
  upper : String → String
  /-- `actenon_protocol.CANONICALISATION_PROFILE` -/
  profile : String

/-- `RuleEvaluation(outcome="deny", ..)` -/
def denial (ruleId reasonCode summary : String) (details : Dict := []) : RuleEvaluation where
  ruleId := ruleId
  outcome := .deny
  reasonCode := reasonCode
  summary := summary
  details := details

/-- `receipt_store.get_receipt` -/
abbrev ReceiptLookup := String → Except PyError (Option StoredReceipt)

structure ReceiptEvidenceVerificationRule where
  receiptStore : Option ReceiptLookup := none
  allowedOutcomes : List String := ["executed"]
  requiredCapability : Option String := none
  ruleId : String := "hard.evidence.receipt_chain"

section
variable (P : PolicyPlatform)

/-- a loaded receipt with its declared digest -/
def ReceiptEvidenceVerificationRule.checkReceipt (self : ReceiptEvidenceVerificationRule) (ref : EvidenceRef)
    (receipt : StoredReceipt) (declaredDigest : DigestSpec) : Except PyError (Option RuleEvaluation) := do
  let actualDigest ← EvidenceQueryService.buildArtifactDigest P.toPlatform P.profile receipt
  if declaredDigest ≠ actualDigest then
    return some (denial self.ruleId "RECEIPT_EVIDENCE_DIGEST_MISMATCH"
      "The referenced receipt digest does not match the loaded receipt artifact."
      (members [("receipt_id", .str ref.value), ("expected_digest", .obj actualDigest.toDict),
        ("declared_digest", .obj declaredDigest.toDict)]))
  if receipt.outcome ∉ self.allowedOutcomes then
    return some (denial self.ruleId "RECEIPT_EVIDENCE_OUTCOME_INVALID"
      "The referenced receipt outcome is not suitable for this evidence chain."
      (members [("receipt_id", .str ref.value), ("allowed_outcomes", strings self.allowedOutcomes),
        ("observed_outcome", .str receipt.outcome)]))
  match self.requiredCapability with
  | none => return none
  | some required =>
    if receipt.action.capability ≠ required then
      return some (denial self.ruleId "RECEIPT_EVIDENCE_CAPABILITY_MISMATCH"
        "The referenced receipt capability does not satisfy the configured receipt-chain requirement."
        (members [("receipt_id", .str ref.value), ("required_capability", .str required),
          ("observed_capability", .str receipt.action.capability)]))
    return none

/-- one reference -/
def ReceiptEvidenceVerificationRule.checkRef (self : ReceiptEvidenceVerificationRule) (lookup : ReceiptLookup)
    (ref : EvidenceRef) : Except PyError (Option RuleEvaluation) := do
  match ← lookup ref.value with
  | none =>
    return some (denial self.ruleId "RECEIPT_EVIDENCE_MISSING"
      "The referenced receipt evidence could not be loaded." (members [("receipt_id", .str ref.value)]))
  | some receipt =>
    match DigestSpec.fromDict (.obj ref.digest) "evidence_ref.digest" with
    | .ok declaredDigest => self.checkReceipt P ref receipt declaredDigest
    | .error e =>
      if e.kind = .valueError then
        return some (denial self.ruleId "RECEIPT_EVIDENCE_DIGEST_INVALID"
          "Receipt evidence must declare a complete digest for the referenced receipt."
          (members [("receipt_id", .str ref.value)]))
      else .error e

/-- the loop: the first reference that is not in order is reported -/
def ReceiptEvidenceVerificationRule.checkRefs (self : ReceiptEvidenceVerificationRule) (lookup : ReceiptLookup) :
    List EvidenceRef → Except PyError (Option RuleEvaluation)
  | [] => .ok none
  | ref :: refs => do
    match ← self.checkRef P lookup ref with
    | some evaluation => return some evaluation
    | none => self.checkRefs lookup refs

def ReceiptEvidenceVerificationRule.evaluate (self : ReceiptEvidenceVerificationRule) : PolicyRule :=
  fun intent _ =>
    let refs := EvidenceQueryService.receiptRefs intent
    if refs.isEmpty then .ok none
    else
      match self.receiptStore with
      | none =>
        .ok (some (denial self.ruleId "RECEIPT_EVIDENCE_STORE_UNAVAILABLE"
          "Receipt evidence was supplied but no receipt lookup store is configured."
          (members [("receipt_ref_count", .int refs.length)])))
      | some lookup => self.checkRefs P lookup refs

/-! ## when the rule returns -/

/-- what becomes of a reference: it is in order, it is denied, or it cannot be checked, where the lookup does
not answer or the digest of the receipt cannot be computed -/
def ReceiptEvidenceVerificationRule.refVerdict (self : ReceiptEvidenceVerificationRule) (lookup : ReceiptLookup)
    (ref : EvidenceRef) : Verdict :=
  match lookup ref.value with
  | .error _ => .escapes
  | .ok none => .refuses
  | .ok (some receipt) =>
    match DigestSpec.fromDict (.obj ref.digest) "evidence_ref.digest" with
    | .error _ => .refuses
    | .ok declaredDigest =>
      match EvidenceQueryService.buildArtifactDigest P.toPlatform P.profile receipt with
      | .error _ => .escapes
      | .ok actualDigest =>
        if declaredDigest = actualDigest ∧ receipt.outcome ∈ self.allowedOutcomes ∧
            self.requiredCapability.all (receipt.action.capability = ·) then .passes
        else .refuses

/-- the references up to the first one that is not in order can be checked -/
def ReceiptEvidenceVerificationRule.Checkable (self : ReceiptEvidenceVerificationRule) (intent : ActionIntent) :
    Prop :=
  ∀ lookup, self.receiptStore = some lookup →
    first ((EvidenceQueryService.receiptRefs intent).map (self.refVerdict P lookup)) ≠ .escapes

variable {P} {self : ReceiptEvidenceVerificationRule} {intent : ActionIntent} {context : AdmissionContext}

/-- a check that ends as the verdict says -/
def EndsAs (x : Except PyError (Option RuleEvaluation)) : Verdict → Prop
  | .passes => x = .ok none
  | .refuses => ∃ evaluation, x = .ok (some evaluation)
  | .escapes => ∃ e, x = .error e

theorem endsAs_denied {evaluation : RuleEvaluation} {inOrder : Prop} [Decidable inOrder] (h : ¬ inOrder) :
    EndsAs (.ok (some evaluation)) (if inOrder then .passes else .refuses) := by
  rw [if_neg h]
  exact ⟨evaluation, rfl⟩

theorem checkReceipt_endsAs (ref : EvidenceRef) (receipt : StoredReceipt) (declaredDigest actualDigest : DigestSpec)
    (hdigest : EvidenceQueryService.buildArtifactDigest P.toPlatform P.profile receipt = .ok actualDigest) :
    EndsAs (self.checkReceipt P ref receipt declaredDigest)
      (if declaredDigest = actualDigest ∧ receipt.outcome ∈ self.allowedOutcomes ∧
        self.requiredCapability.all (receipt.action.capability = ·) then .passes else .refuses) := by
  unfold ReceiptEvidenceVerificationRule.checkReceipt
  rw [hdigest, Fallible.ok_bind]
  by_cases hsame : declaredDigest = actualDigest
  · rw [if_neg (not_not.mpr hsame)]
    by_cases houtcome : receipt.outcome ∈ self.allowedOutcomes
    · rw [if_neg (not_not.mpr houtcome)]
      cases self.requiredCapability with
      | none =>
        rw [if_pos ⟨hsame, houtcome, rfl⟩]
        rfl
      | some required =>
        by_cases hcapability : receipt.action.capability = required
        · rw [if_pos ⟨hsame, houtcome, decide_eq_true hcapability⟩]
          exact if_neg (not_not.mpr hcapability)
        · dsimp only
          rw [if_pos hcapability]
          exact endsAs_denied fun h => hcapability (of_decide_eq_true h.2.2)
    · rw [if_pos houtcome]
      exact endsAs_denied fun h => houtcome h.2.1
  · rw [if_pos hsame]
    exact endsAs_denied fun h => hsame h.1

theorem checkRef_endsAs (lookup : ReceiptLookup) (ref : EvidenceRef) :
    EndsAs (self.checkRef P lookup ref) (self.refVerdict P lookup ref) := by
  unfold ReceiptEvidenceVerificationRule.checkRef ReceiptEvidenceVerificationRule.refVerdict
  cases lookup ref.value with
  | error e => exact ⟨e, rfl⟩
  | ok found =>
    rw [Fallible.ok_bind]
    cases found with
    | none => exact ⟨_, rfl⟩
    | some receipt =>
      dsimp only
      cases hdeclared : DigestSpec.fromDict (.obj ref.digest) "evidence_ref.digest" with
      | error e => exact ⟨_, if_pos (digestSpec_only _ _ e hdeclared)⟩
      | ok declaredDigest =>
        dsimp only
        cases hdigest : EvidenceQueryService.buildArtifactDigest P.toPlatform P.profile receipt with
        | error e =>
          refine ⟨e, ?_⟩
          unfold ReceiptEvidenceVerificationRule.checkReceipt
          rw [hdigest]
          rfl
        | ok actualDigest => exact checkReceipt_endsAs ref receipt declaredDigest actualDigest hdigest

theorem checkRefs_returns (lookup : ReceiptLookup) (refs : List EvidenceRef) :
    (∃ r, self.checkRefs P lookup refs = .ok r) ↔ first (refs.map (self.refVerdict P lookup)) ≠ .escapes := by
  induction refs with
  | nil => exact iff_of_true ⟨none, rfl⟩ fun h => nomatch h
  | cons ref refs ih =>
    rw [List.map_cons, first_cons]
    unfold ReceiptEvidenceVerificationRule.checkRefs
    have hends : EndsAs (self.checkRef P lookup ref) (self.refVerdict P lookup ref) := checkRef_endsAs lookup ref
    cases hverdict : self.refVerdict P lookup ref with
    | passes =>
      rw [hverdict] at hends
      have hnone : self.checkRef P lookup ref = .ok none := hends
      rw [hnone]
      exact ih
    | refuses =>
      rw [hverdict] at hends
      obtain ⟨evaluation, hdenied⟩ := hends
      rw [hdenied]
      exact iff_of_true ⟨some evaluation, rfl⟩ fun h => nomatch h
    | escapes =>
      rw [hverdict] at hends
      obtain ⟨e, hraised⟩ := hends
      rw [hraised]
      exact iff_of_false (fun ⟨_, h⟩ => nomatch h) fun h => h rfl

theorem receiptEvidence_returns : (∃ r, self.evaluate P intent context = .ok r) ↔ self.Checkable P intent := by
  unfold ReceiptEvidenceVerificationRule.evaluate ReceiptEvidenceVerificationRule.Checkable
  dsimp only
  cases hrefs : EvidenceQueryService.receiptRefs intent with
  | nil =>
    refine iff_of_true ⟨none, rfl⟩ fun lookup _ h => ?_
    cases h
  | cons ref refs =>
    cases hstore : self.receiptStore with
    | none => exact iff_of_true ⟨_, rfl⟩ fun lookup h => nomatch h
    | some lookup =>
      refine (checkRefs_returns lookup (ref :: refs)).trans ⟨fun h lookup' h' => ?_, fun h => h lookup rfl⟩
      cases h'
      exact h

/-! ## the rules that every engine has -/

theorem chronology_returns (rule : IntentChronologyHardRule) : ∃ r, rule.evaluate intent context = .ok r := by
  unfold IntentChronologyHardRule.evaluate
  split
  · exact ⟨_, rfl⟩
  · split
    · exact ⟨_, rfl⟩
    · exact ⟨_, rfl⟩

theorem capabilityScope_returns (rule : CapabilityScopeHardRule) : ∃ r, rule.evaluate intent context = .ok r := by
  unfold CapabilityScopeHardRule.evaluate
  split
  · exact ⟨_, rfl⟩
  · exact ⟨_, rfl⟩

/-- the maximum lifetime is less than a billion days -/
def AdmissionContext.TtlBounded (context : AdmissionContext) : Prop :=
  context.maxTtlSeconds.getD 900 < 86400000000000

theorem timedeltaSeconds_returns {n : Int} (hn : 0 < n) :
    (∃ d, timedeltaSeconds n = .ok d) ↔ n < 86400000000000 := by
  obtain ⟨hlt, h⟩ | ⟨hge, message, h⟩ := timedeltaSeconds_cases hn
  · rw [h]
    exact iff_of_true ⟨_, rfl⟩ hlt
  · rw [h]
    refine iff_of_false ?_ (by omega)
    rintro ⟨d, hd⟩
    cases hd

theorem ttl_returns : (∃ r, ({} : IntentTtlHardRule).evaluate intent context = .ok r) ↔ context.TtlBounded := by
  unfold IntentTtlHardRule.evaluate AdmissionContext.TtlBounded
  dsimp only
  by_cases hpos : context.maxTtlSeconds.getD 900 ≤ 0
  · rw [if_pos hpos]
    exact iff_of_true ⟨_, rfl⟩ (by omega)
  · rw [if_neg hpos, ← timedeltaSeconds_returns (by omega), Fallible.exists_bind_ok]
    constructor
    · rintro ⟨limit, h, -⟩
      exact ⟨limit, h⟩
    · rintro ⟨limit, h⟩
      refine ⟨limit, h, ?_⟩
      split
      · exact ⟨_, rfl⟩
      · exact ⟨_, rfl⟩

theorem workflow_returns (rule : TenantWorkflowRule) : ∃ r, rule.evaluate intent context = .ok r := by
  unfold TenantWorkflowRule.evaluate
  dsimp only
  split_ifs
  all_goals exact ⟨_, rfl⟩

end

end Actenon
