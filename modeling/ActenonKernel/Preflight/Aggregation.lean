import ActenonKernel.Preflight.Separation

/-!
# From results to decisions (`actenon/preflight/engine.py`, `actenon/gate.py`)

What `check` makes of the results of a pack, and what the gate makes of the decision.

* `policyFromPreflight`         `_policy_from_preflight`;
* `CriticalDenials`             a rule whose denials are critical; every rule of a built-in pack is one;
* `preflight_aggregation`       the decision by the results;
* `preflight_without_decision`  allowing results without a decision: the id of the decision has no
  canonical form.
-/

set_option linter.unusedSectionVars false

namespace Actenon

/-! ## the gate's policy decision -/

def EvidenceKey.toDict (k : EvidenceKey) : Dict :=
  members [("key", .str k.key), ("type", .str k.valueType), ("example", k.example_),
    ("description", .str k.description), ("required", .bool k.required)]

/-- `policy_outcome` -/
def PreflightOutcome.policy : PreflightOutcome → PolicyOutcome
  | .allow => .allow
  | .deny => .deny
  | .approvalRequired => .approvalRequired
  | .needsEvidence => .needsEvidence

/-- the evaluation of an unmet requirement -/
def Requirement.evaluation (r : Requirement) : RuleEvaluation where
  ruleId := r.matchedRules.head?.getD "actenon.gate.preflight"
  outcome := r.outcome.policy
  reasonCode := r.reasonCode
  summary := r.summary
  details := members [("evidence_keys", .arr (r.evidenceKeys.map fun k => .obj k.toDict)),
    ("risk_level", .str r.riskLevel.text)]
  requiredEvidence := r.requiredEvidence
  approverTypes := r.requiredApprovals

/-- the evaluation of a rule of a decision without unmet requirements -/
def PreflightDecision.evaluation (d : PreflightDecision) (ruleId : String) : RuleEvaluation where
  ruleId := ruleId
  outcome := d.outcome.policy
  reasonCode := d.reasonCode
  summary := d.summary
  requiredEvidence := d.requiredEvidence
  approverTypes := d.requiredApprovals

def policyFromPreflight (d : PreflightDecision) : PolicyDecision where
  outcome := d.outcome.policy
  summary := d.summary
  ruleEvaluations :=
    if !d.unmetRequirements.isEmpty then d.unmetRequirements.map Requirement.evaluation
    else (if d.matchedRules.isEmpty then ["actenon.gate.preflight"] else d.matchedRules).map d.evaluation
  reasonCodes := (d.reasonCode :: d.unmetRequirements.map Requirement.reasonCode).eraseDups
  requiredEvidence := d.requiredEvidence
  approverTypes := d.requiredApprovals

theorem policyFromPreflight_allowed (d : PreflightDecision) :
    (policyFromPreflight d).allowed = true ↔ d.outcome = .allow := by
  unfold PolicyDecision.allowed policyFromPreflight
  rw [decide_eq_true_eq]
  cases d.outcome <;> simp [PreflightOutcome.policy]

/-! ## denials of the built-in packs -/

/-- every denial of the rule is critical -/
def CriticalDenials (rule : PreflightRule) : Prop :=
  ∀ {intent e r}, rule intent e = .ok (some r) → r.outcome = .deny → r.riskLevel = .critical

section
variable {T : PreflightPlatform}

theorem criticalDenials_of_ne {rule : PreflightRule}
    (h : ∀ {intent e r}, rule intent e = .ok (some r) → r.outcome ≠ .deny) : CriticalDenials rule :=
  fun hr hdeny => absurd hdeny (h hr)

theorem criticalDenials_unlessApproved {ask : PreflightRule} (h : CriticalDenials ask) :
    CriticalDenials (unlessApproved T ask) := fun hr => h (unlessApproved_some T hr)

theorem criticalDenials_asked {ask : PreflightRule}
    (h : ∀ {intent e r}, ask intent e = .ok (some r) → r.outcome = .approvalRequired) :
    CriticalDenials (unlessApproved T ask) := by
  refine criticalDenials_unlessApproved (criticalDenials_of_ne fun hr => ?_)
  rw [h hr]
  decide

theorem domainCapabilityRule_denials (packId : String) (capabilities : List String) :
    CriticalDenials (domainCapabilityRule packId capabilities) := by
  refine criticalDenials_of_ne fun h => ?_
  unfold domainCapabilityRule at h
  split at h <;> cases h
  simp

theorem requirementsSatisfiedRule_denials (packId summary : String) :
    CriticalDenials (requirementsSatisfiedRule packId summary) := by
  refine criticalDenials_of_ne fun h => ?_
  cases h
  simp

theorem destructiveActions_denials : ∀ rule ∈ (destructiveActionsPack T).rules, CriticalDenials rule := by
  simp only [destructiveActionsPack, List.forall_mem_cons, List.not_mem_nil, false_imp_iff, forall_const, and_true]
  refine ⟨?_, ?_, ?_, ?_, ?_, ?_, ?_, ?_⟩
  · refine criticalDenials_of_ne fun h => ?_
    unfold unsupportedCapability at h
    split at h
    · cases h
    · simp only [Fallible.bind_eq_ok] at h
      obtain ⟨text, -, h⟩ := h
      split at h <;> cases h
      simp
  · refine criticalDenials_of_ne fun h => ?_
    unfold missingChangeTicket at h
    simp only [Fallible.bind_eq_ok] at h
    obtain ⟨environment, -, h⟩ := h
    split at h <;> cases h
    simp
  · refine criticalDenials_of_ne fun h => ?_
    unfold missingBackupEvidence at h
    simp only [Fallible.bind_eq_ok] at h
    obtain ⟨environment, -, h⟩ := h
    split at h <;> cases h
    simp
  · refine criticalDenials_unlessApproved fun h _ => ?_
    unfold productionDestructiveAsk at h
    simp only [Fallible.bind_eq_ok] at h
    obtain ⟨environment, -, h⟩ := h
    split at h
    · cases h
    · split at h <;> cases h <;> rfl
  · refine criticalDenials_asked fun h => ?_
    unfold broadDataExportAsk at h
    split at h
    · cases h
    · simp only [Fallible.bind_eq_ok] at h
      obtain ⟨rows, -, external, -, h⟩ := h
      split at h <;> cases h
      rfl
  · refine criticalDenials_asked fun h => ?_
    unfold adminPermissionAsk at h
    split at h
    · cases h
    · simp only [Fallible.bind_eq_ok] at h
      obtain ⟨text, -, h⟩ := h
      split at h <;> cases h
      rfl
  · refine criticalDenials_of_ne fun h => ?_
    unfold sandboxLowRiskAllow at h
    simp only [Fallible.bind_eq_ok] at h
    obtain ⟨environment, -, h⟩ := h
    split at h <;> cases h
    simp
  · refine criticalDenials_of_ne fun h => ?_
    unfold defaultDecision at h
    simp only [Fallible.bind_eq_ok] at h
    obtain ⟨environment, -, h⟩ := h
    split at h <;> cases h <;> simp

theorem dataPrivacy_denials (c : DataPrivacyConfig) :
    ∀ rule ∈ (dataPrivacyPack T c).rules, CriticalDenials rule := by
  simp only [dataPrivacyPack, List.forall_mem_cons, List.not_mem_nil, false_imp_iff, forall_const, and_true]
  refine ⟨domainCapabilityRule_denials _ _, ?_, ?_, ?_, ?_, requirementsSatisfiedRule_denials _ _⟩
  · refine criticalDenials_of_ne fun h => ?_
    unfold classificationRequired at h
    split at h
    · cases h
    · simp only [Fallible.bind_eq_ok] at h
      obtain ⟨sensitivity, -, h⟩ := h
      split at h <;> cases h
      simp
  · refine criticalDenials_asked fun h => ?_
    unfold broadOrSensitiveAsk at h
    split at h
    · cases h
    · simp only [Fallible.bind_eq_ok] at h
      obtain ⟨rows, -, sensitivity, -, external, -, h⟩ := h
      split at h <;> cases h
      rfl
  · refine criticalDenials_of_ne fun h => ?_
    unfold externalDestinationControl at h
    split at h
    · cases h
    · simp only [Fallible.bind_eq_ok] at h
      obtain ⟨external, -, h⟩ := h
      split at h
      · cases h
      · simp only [Fallible.bind_eq_ok] at h
        obtain ⟨destination, -, h⟩ := h
        split at h <;> cases h
        simp
  · refine criticalDenials_of_ne fun h => ?_
    unfold residencyControl at h
    split at h
    · cases h
    · simp only [Fallible.bind_eq_ok] at h
      obtain ⟨source, -, destination, -, h⟩ := h
      split at h
      · cases h
      · split at h <;> cases h
        simp

theorem accessGovernance_denials (roles : List String) :
    ∀ rule ∈ (accessGovernancePack T roles).rules, CriticalDenials rule := by
  intro rule hrule intent e r h hdeny
  rw [(accessGovernance_deny hrule h hdeny).2]
  rfl

theorem payments_denials (c : PaymentsConfig) : ∀ rule ∈ (paymentsPack T c).rules, CriticalDenials rule := by
  simp only [paymentsPack, List.forall_mem_cons, List.not_mem_nil, false_imp_iff, forall_const, and_true]
  refine ⟨domainCapabilityRule_denials _ _, ?_, ?_, requirementsSatisfiedRule_denials _ _⟩
  · refine criticalDenials_asked fun h => ?_
    unfold paymentApprovalAsk at h
    split at h
    · cases h
    · simp only [Fallible.bind_eq_ok] at h
      obtain ⟨amount, -, h⟩ := h
      split at h <;> cases h
      rfl
  · refine criticalDenials_of_ne fun h => ?_
    unfold payeeVerification at h
    split at h
    · cases h
    · split at h
      · cases h
      · split at h <;> cases h
        simp

theorem clinical_denials : ∀ rule ∈ (clinicalPack T).rules, CriticalDenials rule := by
  simp only [clinicalPack, List.forall_mem_cons, List.not_mem_nil, false_imp_iff, forall_const, and_true]
  refine ⟨domainCapabilityRule_denials _ _, ?_, requirementsSatisfiedRule_denials _ _⟩
  refine criticalDenials_asked fun h => ?_
  unfold highRiskClinicalAsk at h
  split at h
  · cases h
  · simp only [Fallible.bind_eq_ok] at h
    obtain ⟨risk, -, h⟩ := h
    split at h <;> cases h
    rfl

/-- **Every denial of a built-in pack is critical.** -/
theorem BuiltInPack.denials (b : BuiltInPack) : ∀ rule ∈ (b.pack T).rules, CriticalDenials rule := by
  cases b with
  | destructiveActions => exact destructiveActions_denials
  | dataPrivacy c => exact dataPrivacy_denials c
  | accessGovernance roles => exact accessGovernance_denials roles
  | payments c => exact payments_denials c
  | clinical => exact clinical_denials

/-! ## the decision -/

variable {pack : PolicyPack} {raw : ActionIntent ⊕ Json} {evidence merged : Dict} {intent : ActionIntent}
  {results : List RuleResult}

theorem blockers_eq_nil : blockers results = [] ↔ ∀ r ∈ results, r.outcome = .allow := by
  simp [blockers, List.filter_eq_nil_iff]

/-- results have a selected one -/
theorem exists_selected (hne : results ≠ []) : ∃ selected, selectResult (candidates results) = some selected := by
  refine selectResult_isSome ?_
  unfold candidates
  cases hb : blockers results with
  | cons r l =>
    rw [if_neg (by simp)]
    exact List.cons_ne_nil _ _
  | nil =>
    rw [if_pos (by simp), List.filter_eq_self.mpr]
    · exact hne
    · intro r hr
      exact decide_eq_true (blockers_eq_nil.mp hb r hr)

/-- results whose decision ids can be computed make a decision -/
theorem decision_exists {P : Platform} (hne : results ≠ [])
    (hid : ∀ r ∈ results, ∃ id, decisionId P intent r.reasonCode r.outcome = .ok id) :
    ∃ d, pack.decision P intent results = .ok d := by
  obtain ⟨selected, hs⟩ := exists_selected hne
  obtain ⟨id, h⟩ := hid selected (candidates_subset (selectResult_some hs).1)
  exact decision_of_selected hne hs h

/-- what the rules of a run see, and their results: the intent is parsed, the approvals verify and
every rule returns -/
structure Evaluated (T : PreflightPlatform) (pack : PolicyPack) (raw : ActionIntent ⊕ Json) (evidence : Dict)
    (intent : ActionIntent) (merged : Dict) (results : List RuleResult) : Prop where
  parsed : coerceIntent raw = .ok intent
  approvals : withVerifiedApprovals T.toPlatform intent evidence = .ok merged
  returned : evaluate intent merged pack.rules = .ok results

/-- **What the decision is made of.**  When at least one rule returns a result and the decision ids
of the results can be computed, `check` returns a decision: it allows exactly when no rule returned
anything else, its unmet requirements are the results that do not allow in the order of the rules, a
denial by a rule of a built-in pack makes it a denial, and the gate allows exactly when it does. -/
theorem preflight_aggregation (h : Evaluated T pack raw evidence intent merged results) (hne : results ≠ [])
    (hid : ∀ r ∈ results, ∃ id, decisionId T.toPlatform intent r.reasonCode r.outcome = .ok id) :
    ∃ d, PreflightEngine.check T pack raw evidence = .ok d ∧
      (d.outcome = .allow ↔
        ∀ rule ∈ pack.rules, ∀ r, rule intent merged = .ok (some r) → r.outcome = .allow) ∧
      d.unmetRequirements = (results.filter (·.outcome ≠ .allow)).map RuleResult.requirement ∧
      (∀ b : BuiltInPack, pack = b.pack T → (∃ r ∈ results, r.outcome = .deny) → d.outcome = .deny) ∧
      ((policyFromPreflight d).allowed = true ↔ d.outcome = .allow) := by
  obtain ⟨d, hd⟩ := @decision_exists pack intent results T.toPlatform hne hid
  obtain ⟨-, hmem⟩ := mem_results h.returned
  refine ⟨d, check_ok.mpr ⟨intent, merged, results, h.parsed, h.approvals, h.returned, hd⟩, ?_, ?_, ?_,
    policyFromPreflight_allowed d⟩
  · rw [allow_iff hd, blockers_eq_nil]
    constructor
    · exact fun hall rule hrule r hr => hall r ((hmem r).mpr ⟨rule, hrule, hr⟩)
    · intro hall r hr
      obtain ⟨rule, hrule, hr⟩ := (hmem r).mp hr
      exact hall rule hrule r hr
  · obtain ⟨-, -, -, -, -, hunmet⟩ := decision_ok hd
    exact hunmet
  · rintro b rfl ⟨r, hr, hdeny⟩
    obtain ⟨rule, hrule, hreturned⟩ := (hmem r).mp hr
    exact outcome_deny hd hr (b.denials rule hrule hreturned hdeny) hdeny

end

/-! ## a denial among other blockers, and a decision without an id -/

/-- the deletion of a production backup -/
def sampleBackupDelete : ActionIntent :=
  { sampleIntent with action := ⟨"backup.delete", "backup.delete", [], [], []⟩ }

def productionEvidence : Dict := members [("environment", .str "production")]

theorem backup_delete_evaluated : ∃ results,
    Evaluated (grantPlatform "alice") (destructiveActionsPack (grantPlatform "alice")) (.inl sampleBackupDelete)
      productionEvidence sampleBackupDelete productionEvidence results ∧
    results.map (·.outcome) = [.needsEvidence, .needsEvidence, .deny, .allow] ∧
    ∀ r ∈ results, ∃ id, decisionId (grantPlatform "alice").toPlatform sampleBackupDelete r.reasonCode r.outcome
      = .ok id := by
  have hall : (evaluate sampleBackupDelete productionEvidence
      (destructiveActionsPack (grantPlatform "alice")).rules).toOption.map (fun results =>
        (results.map (·.outcome), results.all fun r => (decisionId (grantPlatform "alice").toPlatform
          sampleBackupDelete r.reasonCode r.outcome).toBool))
      = some ([.needsEvidence, .needsEvidence, .deny, .allow], true) := by decide +kernel
  cases hr : evaluate sampleBackupDelete productionEvidence (destructiveActionsPack (grantPlatform "alice")).rules with
  | error e =>
    rw [hr] at hall
    cases hall
  | ok results =>
    rw [hr] at hall
    obtain ⟨houtcomes, hids⟩ := Prod.mk.inj (Option.some.inj hall)
    exact ⟨results, ⟨rfl, rfl, hr⟩, houtcomes, fun r h => Fallible.exists_ok (List.all_eq_true.mp hids r h)⟩

/-- the deletion is denied, whatever else is missing -/
theorem preflight_aggregation_backup :
    ∃ d, PreflightEngine.check (grantPlatform "alice") (destructiveActionsPack (grantPlatform "alice"))
      (.inl sampleBackupDelete) productionEvidence = .ok d ∧
        d.outcome = .deny ∧ d.unmetRequirements.length = 3 ∧ (policyFromPreflight d).allowed = false := by
  obtain ⟨results, he, houtcomes, hids⟩ := backup_delete_evaluated
  have hdeny : ∃ r ∈ results, r.outcome = .deny := by
    rw [← List.mem_map, houtcomes]
    decide
  have hne : results ≠ [] := by
    obtain ⟨r, hr, -⟩ := hdeny
    exact List.ne_nil_of_mem hr
  obtain ⟨d, hd, -, hunmet, hbuiltIn, hgate⟩ := preflight_aggregation he hne hids
  have ho := hbuiltIn .destructiveActions rfl hdeny
  refine ⟨d, hd, ho, ?_, ?_⟩
  · have hcount : ((results.map (·.outcome)).filter (· ≠ PreflightOutcome.allow)).length = 3 := by
      rw [houtcomes]
      decide
    rw [List.filter_map, List.length_map] at hcount
    rw [hunmet, List.length_map]
    exact hcount
  · rw [Bool.eq_false_iff, Ne, hgate, ho]
    decide

/-- a draft of a note whose target is selected by a float -/
def sampleNote : ActionIntent :=
  { sampleIntent with
    action := ⟨"clinical.note.draft", "clinical.note.draft", [], [], []⟩
    target := ⟨"note", "n1", .null, members [("score", .float (.finite (1 / 2)))]⟩ }

/-- the only result allows, but the target has no canonical form and there is no decision -/
theorem preflight_without_decision :
    (∃ results, Evaluated (grantPlatform "alice") (clinicalPack (grantPlatform "alice")) (.inl sampleNote) []
        sampleNote [] results ∧ results.map (·.outcome) = [.allow]) ∧
      ¬ ∃ d, PreflightEngine.check (grantPlatform "alice") (clinicalPack (grantPlatform "alice"))
        (.inl sampleNote) [] = .ok d := by
  constructor
  · have hall : (evaluate sampleNote [] (clinicalPack (grantPlatform "alice")).rules).toOption.map
        (fun results => results.map (·.outcome)) = some [.allow] := by decide +kernel
    cases hr : evaluate sampleNote [] (clinicalPack (grantPlatform "alice")).rules with
    | error e =>
      rw [hr] at hall
      cases hall
    | ok results =>
      rw [hr] at hall
      exact ⟨results, ⟨rfl, rfl, hr⟩, Option.some.inj hall⟩
  · rintro ⟨d, hd⟩
    have hnone : (PreflightEngine.check (grantPlatform "alice") (clinicalPack (grantPlatform "alice"))
      (.inl sampleNote) []).toBool = false := by decide +kernel
    rw [hd] at hnone
    cases hnone

end Actenon
