import ActenonKernel.Preflight.Separation
import Mathlib.Data.List.Pairwise

/-!
# One more verified approval

An approval satisfies a requirement when no approver types are given at all, or when all the required
ones are.  One more verified artifact gives at least its own type, replaces the types that the caller
asserts as verified, and makes `separation_of_duties` look.

* `BuiltInPack.asks`           the rules of the packs, what they ask for and their reason codes;
* `AddedArtifact`              the evidence with one artifact more, which verifies;
* `ApprovalsKept`              what was satisfied is satisfied after it, and no conflict appears;
* `more_approvals_iff`         one more approval does no harm exactly then.
-/

set_option linter.unusedSectionVars false

namespace Actenon

/-! ## the rules of the packs -/

/-- a rule, what it asks for and its reason codes; all rules but `separation_of_duties` -/
def BuiltInPack.asks (T : PreflightPlatform) : BuiltInPack → List (PreflightRule × PreflightRule × List String)
  | .destructiveActions =>
    [(unsupportedCapability T, unsupportedCapability T, ["PREFLIGHT_CAPABILITY_UNCLASSIFIED"]),
      (missingChangeTicket T, missingChangeTicket T, ["PREFLIGHT_CHANGE_TICKET_REQUIRED"]),
      (missingBackupEvidence T, missingBackupEvidence T, ["PREFLIGHT_BACKUP_EVIDENCE_REQUIRED"]),
      (productionDestructiveWithoutApproval T, productionDestructiveAsk T,
        ["PREFLIGHT_PRODUCTION_BACKUP_DELETE_DENIED", "PREFLIGHT_PRODUCTION_DESTRUCTIVE_APPROVAL_REQUIRED"]),
      (broadDataExport T, broadDataExportAsk T, ["PREFLIGHT_BROAD_DATA_EXPORT_APPROVAL_REQUIRED"]),
      (adminPermissionGrant T, adminPermissionAsk T, ["PREFLIGHT_ADMIN_PERMISSION_APPROVAL_REQUIRED"]),
      (sandboxLowRiskAllow T, sandboxLowRiskAllow T, ["PREFLIGHT_SANDBOX_LOW_RISK_ALLOWED"]),
      (defaultDecision T, defaultDecision T, ["PREFLIGHT_CONTEXT_REQUIRED", "PREFLIGHT_REQUIREMENTS_SATISFIED"])]
  | .dataPrivacy c =>
    [(domainCapabilityRule "data_privacy_v1" dataPrivacyCapabilities,
        domainCapabilityRule "data_privacy_v1" dataPrivacyCapabilities, ["PREFLIGHT_CAPABILITY_NOT_COVERED"]),
      (classificationRequired T, classificationRequired T, ["PREFLIGHT_DATA_CLASSIFICATION_REQUIRED"]),
      (broadOrSensitiveExport T c, broadOrSensitiveAsk T c, ["PREFLIGHT_BROAD_DATA_EXPORT_APPROVAL_REQUIRED"]),
      (externalDestinationControl T c, externalDestinationControl T c,
        ["PREFLIGHT_EXTERNAL_EGRESS_EVIDENCE_REQUIRED"]),
      (residencyControl T c, residencyControl T c, ["PREFLIGHT_RESIDENCY_EVIDENCE_REQUIRED"]),
      (requirementsSatisfiedRule "data_privacy" "Data privacy requirements are satisfied for this action.",
        requirementsSatisfiedRule "data_privacy" "Data privacy requirements are satisfied for this action.",
        ["PREFLIGHT_REQUIREMENTS_SATISFIED"])]
  | .accessGovernance roles =>
    [(domainCapabilityRule "access_governance_v1" accessGovernanceCapabilities,
        domainCapabilityRule "access_governance_v1" accessGovernanceCapabilities,
        ["PREFLIGHT_CAPABILITY_NOT_COVERED"]),
      (privilegedOrStandingAccess T roles, privilegedAccessAsk T roles,
        ["PREFLIGHT_PRIVILEGED_ACCESS_APPROVAL_REQUIRED"]),
      (requirementsSatisfiedRule "access_governance"
          "Access-governance requirements are satisfied for this action.",
        requirementsSatisfiedRule "access_governance"
          "Access-governance requirements are satisfied for this action.", ["PREFLIGHT_REQUIREMENTS_SATISFIED"])]
  | .payments c =>
    [(domainCapabilityRule "payments_v1" paymentsCapabilities,
        domainCapabilityRule "payments_v1" paymentsCapabilities, ["PREFLIGHT_CAPABILITY_NOT_COVERED"]),
      (paymentApproval T c, paymentApprovalAsk T c, ["PREFLIGHT_PAYMENT_APPROVAL_REQUIRED"]),
      (payeeVerification T, payeeVerification T, ["PREFLIGHT_PAYEE_DESTINATION_VERIFICATION_REQUIRED"]),
      (requirementsSatisfiedRule "payments" "Payment policy requirements are satisfied for this action.",
        requirementsSatisfiedRule "payments" "Payment policy requirements are satisfied for this action.",
        ["PREFLIGHT_REQUIREMENTS_SATISFIED"])]
  | .clinical =>
    [(domainCapabilityRule "clinical_template_v1" clinicalTemplateCapabilities,
        domainCapabilityRule "clinical_template_v1" clinicalTemplateCapabilities,
        ["PREFLIGHT_CAPABILITY_NOT_COVERED"]),
      (highRiskClinicalAction T, highRiskClinicalAsk T, ["PREFLIGHT_CLINICAL_REVIEW_REQUIRED"]),
      (requirementsSatisfiedRule "clinical_template" "The illustrative clinical-template requirements are satisfied.",
        requirementsSatisfiedRule "clinical_template" "The illustrative clinical-template requirements are satisfied.",
        ["PREFLIGHT_REQUIREMENTS_SATISFIED"])]

/-- the pack with `separation_of_duties` -/
def BuiltInPack.separates : BuiltInPack → Bool
  | .accessGovernance _ => true
  | _ => false

section
variable (T : PreflightPlatform) (b : BuiltInPack)

theorem asks_spec : ∀ p ∈ b.asks T, Asks T p.1 p.2.1 p.2.2 := by
  cases b with
  | destructiveActions =>
    simp only [BuiltInPack.asks, List.forall_mem_cons, List.not_mem_nil, false_implies, implies_true, and_true]
    exact ⟨unsupportedCapability_asks T, missingChangeTicket_asks T, missingBackupEvidence_asks T,
      productionDestructive_asks T, broadDataExport_asks T, adminPermissionGrant_asks T, sandboxLowRiskAllow_asks T,
      defaultDecision_asks T⟩
  | dataPrivacy c =>
    simp only [BuiltInPack.asks, List.forall_mem_cons, List.not_mem_nil, false_implies, implies_true, and_true]
    exact ⟨domainCapabilityRule_asks T _ _, classificationRequired_asks T, broadOrSensitiveExport_asks T c,
      externalDestinationControl_asks T c, residencyControl_asks T c, requirementsSatisfiedRule_asks T _ _⟩
  | accessGovernance roles =>
    simp only [BuiltInPack.asks, List.forall_mem_cons, List.not_mem_nil, false_implies, implies_true, and_true]
    exact ⟨domainCapabilityRule_asks T _ _, privilegedOrStandingAccess_asks T roles,
      requirementsSatisfiedRule_asks T _ _⟩
  | payments c =>
    simp only [BuiltInPack.asks, List.forall_mem_cons, List.not_mem_nil, false_implies, implies_true, and_true]
    exact ⟨domainCapabilityRule_asks T _ _, paymentApproval_asks T c, payeeVerification_asks T,
      requirementsSatisfiedRule_asks T _ _⟩
  | clinical =>
    simp only [BuiltInPack.asks, List.forall_mem_cons, List.not_mem_nil, false_implies, implies_true, and_true]
    exact ⟨domainCapabilityRule_asks T _ _, highRiskClinicalAction_asks T, requirementsSatisfiedRule_asks T _ _⟩

/-- the rules of the pack are those and `separation_of_duties` -/
theorem mem_rules (rule : PreflightRule) : rule ∈ (b.pack T).rules ↔
    (∃ p ∈ b.asks T, p.1 = rule) ∨ (b.separates = true ∧ rule = separationOfDuties T) := by
  cases b with
  | accessGovernance roles =>
    simp only [BuiltInPack.pack, accessGovernancePack, BuiltInPack.asks, BuiltInPack.separates, List.mem_cons,
      List.not_mem_nil, or_false, exists_eq_or_imp, exists_eq_left, true_and]
    constructor
    · intro h
      rcases h with rfl | rfl | rfl | rfl <;> simp
    · intro h
      rcases h with (rfl | rfl | rfl) | rfl <;> simp
  | _ =>
    simp only [BuiltInPack.pack, destructiveActionsPack, dataPrivacyPack, paymentsPack, clinicalPack, BuiltInPack.asks,
      BuiltInPack.separates, List.mem_cons, List.not_mem_nil, or_false, exists_eq_or_imp, exists_eq_left,
      Bool.false_eq_true, false_and, eq_comm]

/-- two rules without a common reason code -/
def Apart (p q : PreflightRule × PreflightRule × List String) : Prop := ∀ code ∈ p.2.2, code ∉ q.2.2

instance : Std.Symm Apart where
  symm _ _ h code hq hp := h code hp hq

theorem asks_codes : (b.asks T).Pairwise Apart := by
  cases b <;> simp [BuiltInPack.asks, Apart]

theorem asks_separation : ∀ p ∈ b.asks T, separationViolation.reasonCode ∉ p.2.2 := by
  cases b <;> simp [BuiltInPack.asks, separationViolation]

end

/-! ## one artifact more -/

/-- the evidence with an artifact put among the others -/
def addArtifact (e : Dict) (pre post : List Json) (artifact : Json) : Dict :=
  Dict.set e (.str "approval_artifacts") (.arr (pre ++ artifact :: post))

/-- the others are those of the evidence, and the artifact verifies under a key set that is there -/
structure AddedArtifact (P : Platform) (intent : ActionIntent) (e : Dict) (pre post : List Json) (artifact : Json)
    (v : VerifiedApprovalArtifact) : Prop where
  others : pre ++ post = (Dict.getD e "approval_artifacts" (.tup [])).items?.getD []
  verifies : ∃ k ks sets, (Dict.getD e "approval_trusted_keys" (.tup [])).items? = some (k :: ks) ∧
    approvalKeySets (k :: ks) [] = .ok sets ∧ verifyApproval P intent sets artifact = .ok v

section
variable {P : Platform} {intent : ActionIntent} {e : Dict} {pre post : List Json} {artifact : Json}
  {v : VerifiedApprovalArtifact} {before after : List VerifiedApprovalArtifact}

theorem addArtifact_same : SameBesideApprovals e (addArtifact e pre post artifact) := by
  intro key hkey
  unfold addArtifact
  rw [Dict.find_set, if_neg]
  intro h
  cases h
  exact hkey (by decide)

theorem mapM_insert {f : Json → PreflightM VerifiedApprovalArtifact} {vs : List VerifiedApprovalArtifact}
    (h : (pre ++ post).mapM f = .ok vs) (hv : f artifact = .ok v) :
    ∃ ws, (pre ++ artifact :: post).mapM f = .ok ws ∧ v ∈ ws := by
  rw [List.mapM_append] at h
  simp only [Fallible.bind_eq_ok, Fallible.pure_eq_ok] at h
  obtain ⟨xs, hxs, ys, hys, rfl⟩ := h
  refine ⟨xs ++ v :: ys, ?_, by simp⟩
  rw [List.mapM_append, List.mapM_cons, hxs, hv, hys]
  rfl

/-- with it the artifacts still verify -/
theorem verified_added (h : AddedArtifact P intent e pre post artifact v)
    (hv : verifiedApprovals P intent e = .ok before) :
    ∃ after, verifiedApprovals P intent (addArtifact e pre post artifact) = .ok after ∧ v ∈ after := by
  obtain ⟨hothers, k, ks, sets, hkeys, hsets, hver⟩ := h
  have hartifacts : Dict.getD (addArtifact e pre post artifact) "approval_artifacts" (.tup [])
      = .arr (pre ++ artifact :: post) := by
    unfold Dict.getD addArtifact
    rw [Dict.find_set, if_pos rfl]
    rfl
  have hkeys' : Dict.getD (addArtifact e pre post artifact) "approval_trusted_keys" (.tup [])
      = Dict.getD e "approval_trusted_keys" (.tup []) := (getD_beside addArtifact_same (by decide) _).symm
  have hall : ∃ ws, (pre ++ artifact :: post).mapM (verifyApproval P intent sets) = .ok ws ∧ v ∈ ws := by
    cases ht : (Dict.getD e "approval_artifacts" (.tup [])).truthy with
    | false =>
      have hnil : pre ++ post = [] := by
        rw [hothers]
        cases hi : (Dict.getD e "approval_artifacts" (.tup [])).items? with
        | none => rfl
        | some xs =>
          rw [truthy_of_items hi] at ht
          simpa using ht
      have hmap : (pre ++ post).mapM (verifyApproval P intent sets) = .ok [] := by
        rw [hnil]
        rfl
      exact mapM_insert hmap hver
    | true =>
      obtain ⟨xs, sets', hxs, ⟨k', ks', hkeys'', hsets'⟩, hmap⟩ := (verifiedApprovals_ok ht).mp hv
      rw [hkeys] at hkeys''
      cases hkeys''
      rw [hsets] at hsets'
      cases hsets'
      rw [hxs, Option.getD_some] at hothers
      rw [← hothers] at hmap
      exact mapM_insert hmap hver
  obtain ⟨after, hafter, hmem⟩ := hall
  have htruthy : (Dict.getD (addArtifact e pre post artifact) "approval_artifacts" (.tup [])).truthy = true := by
    rw [hartifacts]
    simp [Json.truthy]
  refine ⟨after, (verifiedApprovals_ok htruthy).mpr ⟨pre ++ artifact :: post, sets, ?_, ⟨k, ks, ?_, hsets⟩, hafter⟩, hmem⟩
  · rw [hartifacts]
    rfl
  · rw [hkeys', hkeys]

end

/-! ## what stays satisfied -/

section
variable (T : PreflightPlatform) (intent : ActionIntent) (m m' : Dict)

/-- approvals of these types satisfy the requirement -/
def TypesSatisfy (types required : List String) : Prop := types = [] ∨ ∀ x ∈ required, x ∈ types

/-- if an approval was present and satisfied the requirement, all its types are there afterwards -/
def SatisfactionKept (required : List String) : Prop :=
  approvalPresent T intent m = true → ∀ types types', approverTypes T intent m = .ok types →
    approverTypes T intent m' = .ok types' → TypesSatisfy types required → ∀ x ∈ required, x ∈ types'

/-- what the pack asked for and had stays satisfied, and `separation_of_duties` finds no conflict when it
starts to look -/
structure ApprovalsKept (b : BuiltInPack) : Prop where
  asked : ∀ p ∈ b.asks T, ∀ r, p.2.1 intent m = .ok (some r) → r.outcome = .approvalRequired →
    SatisfactionKept T intent m m' r.requiredApprovals
  separate : b.separates = true → intent.action.capability ∈ accessGovernanceCapabilities →
    approvalPresent T intent m = false → ¬ ConflictSeen T intent m

/-- the texts that the rules read for the first time can be read -/
structure ApprovalsReadable (b : BuiltInPack) : Prop where
  types : (∃ p ∈ b.asks T, ∃ r, p.2.1 intent m = .ok (some r) ∧ r.outcome = .approvalRequired) →
    ∃ types', approverTypes T intent m' = .ok types'
  ids : b.separates = true → intent.action.capability ∈ accessGovernanceCapabilities →
    ∃ ids, stringValues T intent m' "approver_ids" = .ok ids

end

/-- every result of the second run is one of the first -/
def ResultsKept (o o' : Option RuleResult) : Prop := ∀ r, o' = some r → o = some r

section
variable {T : PreflightPlatform} {intent : ActionIntent} {m m' : Dict} {b : BuiltInPack}

theorem approvalSatisfied_ok {required : List String} (hp : approvalPresent T intent m = true) {s : Bool} :
    approvalSatisfied T intent m required = .ok s ↔
      ∃ types, approverTypes T intent m = .ok types ∧ (s = true ↔ TypesSatisfy types required) := by
  unfold approvalSatisfied TypesSatisfy
  rw [if_pos hp]
  simp only [Fallible.bind_eq_ok, Fallible.pure_eq_ok]
  refine exists_congr fun types => and_congr_right fun _ => ?_
  have hall : (types.isEmpty || required.all (· ∈ types)) = true ↔ types = [] ∨ ∀ x ∈ required, x ∈ types := by
    simp
  constructor
  · intro h
    rw [← h]
    exact hall
  · intro h
    rw [Bool.eq_iff_iff]
    exact hall.trans h.symm

/-- the evidence before and after: the same beside approvals, and now a type is verified -/
structure OneMore (T : PreflightPlatform) (intent : ActionIntent) (m m' : Dict) : Prop where
  same : SameBesideApprovals m m'
  present : approvalPresent T intent m' = true
  types : ∀ types', approverTypes T intent m' = .ok types' → types' ≠ []

/-- an asked approval is kept exactly when its satisfaction is -/
theorem satisfied_kept (h : OneMore T intent m m') {required : List String} {s s' : Bool}
    (hs : approvalSatisfied T intent m required = .ok s) (hs' : approvalSatisfied T intent m' required = .ok s') :
    (s = true → s' = true) ↔ SatisfactionKept T intent m m' required := by
  obtain ⟨types', ht', hsat'⟩ := (approvalSatisfied_ok h.present).mp hs'
  have hmem : s' = true ↔ ∀ x ∈ required, x ∈ types' :=
    hsat'.trans (or_iff_right (h.types types' ht'))
  by_cases hp : approvalPresent T intent m = true
  · obtain ⟨types, ht, hsat⟩ := (approvalSatisfied_ok hp).mp hs
    rw [hsat, hmem]
    constructor
    · intro hk _ types1 types1' h1 h1'
      rw [ht] at h1
      rw [ht'] at h1'
      cases h1
      cases h1'
      exact hk
    · intro hk
      exact hk hp types types' ht ht'
  · unfold approvalSatisfied at hs
    rw [if_neg hp] at hs
    cases hs
    constructor
    · intro _ hp'
      exact absurd hp' hp
    · intro _ hf
      cases hf

/-- one rule of a pack, in both runs -/
theorem asks_kept {rule ask : PreflightRule} {codes : List String} (ha : Asks T rule ask codes)
    (h : OneMore T intent m m') {o o' : Option RuleResult} (ho : rule intent m = .ok o)
    (ho' : rule intent m' = .ok o') :
    ResultsKept o o' ↔ ∀ r, ask intent m = .ok (some r) → r.outcome = .approvalRequired →
      SatisfactionKept T intent m m' r.requiredApprovals := by
  have hsame : ask intent m = ask intent m' := ha.beside h.same
  rw [ha.gated] at ho ho'
  cases hask : ask intent m with
  | error err =>
    rw [unlessApproved_error T hask] at ho
    cases ho
  | ok asked =>
    cases asked with
    | none =>
      rw [unlessApproved_none T (hsame ▸ hask)] at ho'
      cases ho'
      simp [ResultsKept]
    | some r =>
      by_cases hr : r.outcome = .approvalRequired
      · rw [unlessApproved_asked T hask hr, Fallible.map_eq_ok] at ho
        rw [unlessApproved_asked T (hsame ▸ hask) hr, Fallible.map_eq_ok] at ho'
        obtain ⟨s, hs, rfl⟩ := ho
        obtain ⟨s', hs', rfl⟩ := ho'
        have hkept := satisfied_kept h hs hs'
        constructor
        · intro hk r' hr' _
          cases hr'
          refine hkept.mp fun hst => ?_
          by_contra hs't
          have hbad := hk r (if_neg hs't)
          rw [if_pos hst] at hbad
          cases hbad
        · intro hk r' hr'
          have himp := hkept.mpr (hk r rfl hr)
          by_cases hst : s = true
          · rw [if_pos (himp hst)] at hr'
            cases hr'
          · split at hr'
            · cases hr'
            · rw [if_neg hst]
              exact hr'
      · rw [unlessApproved_other T hask hr] at ho
        rw [unlessApproved_other T (hsame ▸ hask) hr] at ho'
        cases ho
        cases ho'
        constructor
        · intro _ r' hr' hreq
          cases hr'
          exact absurd hreq hr
        · intro _ r' hr'
          exact hr'

theorem conflictSeen_beside (h : SameBesideApprovals m m') : ConflictSeen T intent m ↔ ConflictSeen T intent m' := by
  unfold ConflictSeen
  simp (disch := decide) only [stringValues_beside T intent h, evidenceValue_beside intent h]

theorem separationOfDuties_absent {o : Option RuleResult} (ho : separationOfDuties T intent m = .ok o)
    (hp : approvalPresent T intent m = false) : o = none := by
  unfold separationOfDuties at ho
  rw [hp] at ho
  split at ho <;> cases ho <;> rfl

/-- `separation_of_duties` in both runs -/
theorem separation_kept (h : OneMore T intent m m') {o o' : Option RuleResult}
    (ho : separationOfDuties T intent m = .ok o) (ho' : separationOfDuties T intent m' = .ok o') :
    ResultsKept o o' ↔ (intent.action.capability ∈ accessGovernanceCapabilities → approvalPresent T intent m = false →
      ¬ ConflictSeen T intent m) := by
  by_cases hcap : intent.action.capability ∈ accessGovernanceCapabilities
  · obtain ⟨ids, hids, rfl⟩ := (separationOfDuties_ok hcap h.present).mp ho'
    by_cases hp : approvalPresent T intent m = true
    · obtain ⟨ids0, hids0, rfl⟩ := (separationOfDuties_ok hcap hp).mp ho
      rw [stringValues_beside T intent h.same (by decide), hids] at hids0
      cases hids0
      rw [evidenceValue_beside intent h.same (by decide)]
      constructor
      · intro _ _ hf
        rw [hp] at hf
        cases hf
      · intro _ r hr
        exact hr
    · have habsent : approvalPresent T intent m = false := Bool.not_eq_true _ ▸ hp
      have hnone := separationOfDuties_absent ho habsent
      subst hnone
      rw [conflictSeen_beside h.same]
      constructor
      · intro hk _ _ hc
        obtain ⟨o', ho'', hr⟩ : ∃ o', separationOfDuties T intent m' = .ok o' ∧ o' = some separationViolation :=
          ⟨_, (separationOfDuties_seen hcap h.present).mpr ⟨⟨ids, hids⟩, hc⟩, rfl⟩
        rw [ho'] at ho''
        cases ho''
        cases hk _ hr
      · intro hno r hr
        split at hr
        · rename_i hc
          exact absurd (hc.imp (fun hmem => ⟨ids, hids, hmem⟩) fun ht => ht) (hno hcap habsent)
        · cases hr
  · have hnone : o' = none := by
      unfold separationOfDuties at ho'
      rw [if_pos hcap] at ho'
      cases ho'
      rfl
    subst hnone
    simp [ResultsKept, hcap]

theorem separationOfDuties_some {r : RuleResult} (h : separationOfDuties T intent m = .ok (some r)) :
    r = separationViolation := by
  unfold separationOfDuties at h
  split at h
  · cases h
  · split at h
    · cases h
    · simp only [Fallible.bind_eq_ok] at h
      obtain ⟨ids, -, h⟩ := h
      split at h <;> cases h
      rfl

/-- a reason code tells the rule -/
theorem rule_of_code {rule rule' : PreflightRule} (hrule : rule ∈ (b.pack T).rules)
    (hrule' : rule' ∈ (b.pack T).rules) {r r' : RuleResult} (h : rule intent m = .ok (some r))
    (h' : rule' intent m' = .ok (some r')) (hcode : r.reasonCode = r'.reasonCode) : rule = rule' := by
  have hcodes : ∀ p ∈ b.asks T, ∀ {e s}, p.1 intent e = .ok (some s) → s.reasonCode ∈ p.2.2 := by
    intro p hp e s hs
    have hask := asks_spec T b p hp
    rw [hask.gated] at hs
    exact hask.code (unlessApproved_some T hs)
  rcases (mem_rules T b rule).mp hrule with ⟨p, hp, rfl⟩ | ⟨_, rfl⟩
  · rcases (mem_rules T b rule').mp hrule' with ⟨q, hq, rfl⟩ | ⟨_, rfl⟩
    · by_contra hne
      have hpq : p ≠ q := fun e => hne (by rw [e])
      have hapart := (asks_codes T b).forall hp hq hpq
      exact hapart _ (hcodes p hp h) (hcode ▸ hcodes q hq h')
    · rw [separationOfDuties_some h'] at hcode
      exact absurd (hcode ▸ hcodes p hp h) (asks_separation T b p hp)
  · rcases (mem_rules T b rule').mp hrule' with ⟨q, hq, rfl⟩ | ⟨_, rfl⟩
    · rw [separationOfDuties_some h] at hcode
      exact absurd (hcode ▸ hcodes q hq h') (asks_separation T b q hq)
    · rfl

/-- the results of a rule in both runs are the same, and a permission is in both -/
theorem rule_result (h : OneMore T intent m m') {rule : PreflightRule} (hrule : rule ∈ (b.pack T).rules)
    {r' : RuleResult} (hr' : rule intent m' = .ok (some r')) :
    (∀ r, rule intent m = .ok (some r) → r = r') ∧ (r'.outcome = .allow → rule intent m = .ok (some r')) := by
  rcases (mem_rules T b rule).mp hrule with ⟨p, hp, rfl⟩ | ⟨_, rfl⟩
  · have hask := asks_spec T b p hp
    rw [hask.gated] at hr' ⊢
    have hasked : p.2.1 intent m = .ok (some r') := (hask.beside h.same).trans (unlessApproved_some T hr')
    refine ⟨fun r hr => ?_, fun hallow => unlessApproved_other T hasked (by simp [hallow])⟩
    have hsame := unlessApproved_some T hr
    rw [hasked] at hsame
    cases hsame
    rfl
  · refine ⟨fun r hr => (separationOfDuties_some hr).trans (separationOfDuties_some hr').symm, fun hallow => ?_⟩
    rw [separationOfDuties_some hr'] at hallow
    cases hallow

/-- no requirement is new exactly when every rule keeps its results -/
theorem unmet_subset_iff (h : OneMore T intent m m') {results results' : List RuleResult}
    (hres : evaluate intent m (b.pack T).rules = .ok results)
    (hres' : evaluate intent m' (b.pack T).rules = .ok results') :
    (∀ q ∈ (blockers results').map (·.requirement), q ∈ (blockers results).map (·.requirement)) ↔
      ∀ rule ∈ (b.pack T).rules, ∀ o o', rule intent m = .ok o → rule intent m' = .ok o' → ResultsKept o o' := by
  obtain ⟨htotal, hmem⟩ := mem_results hres
  obtain ⟨htotal', hmem'⟩ := mem_results hres'
  constructor
  · intro hsub rule hrule o o' ho ho' r hr
    subst hr
    obtain ⟨hsame, hallowed⟩ := rule_result h hrule ho'
    by_cases hallow : r.outcome = .allow
    · have hr := hallowed hallow
      rw [ho] at hr
      cases hr
      rfl
    · have hblock : r ∈ blockers results' :=
        List.mem_filter.mpr ⟨(hmem' r).mpr ⟨rule, hrule, ho'⟩, by simpa using hallow⟩
      obtain ⟨s, hs, hreq⟩ := List.mem_map.mp (hsub _ (List.mem_map_of_mem hblock))
      obtain ⟨rule', hrule', hs'⟩ := (hmem s).mp (List.mem_filter.mp hs).1
      have hcode : s.reasonCode = r.reasonCode := congrArg Requirement.reasonCode hreq
      have hone := rule_of_code hrule' hrule hs' ho' hcode
      subst hone
      rw [hsame s hs'] at hs'
      rw [ho] at hs'
      cases hs'
      rfl
  · intro hkept q hq
    obtain ⟨r, hr, rfl⟩ := List.mem_map.mp hq
    obtain ⟨hin, hblock⟩ := List.mem_filter.mp hr
    obtain ⟨rule, hrule, hr'⟩ := (hmem' r).mp hin
    obtain ⟨o, ho⟩ := htotal rule hrule
    have hsome := hkept rule hrule o (some r) ho hr' r rfl
    subst hsome
    exact List.mem_map_of_mem (List.mem_filter.mpr ⟨(hmem r).mpr ⟨rule, hrule, ho⟩, hblock⟩)

/-- which is when the approvals are kept -/
theorem kept_iff (h : OneMore T intent m m') (htotal : ∀ rule ∈ (b.pack T).rules, ∃ o, rule intent m = .ok o)
    (htotal' : ∀ rule ∈ (b.pack T).rules, ∃ o, rule intent m' = .ok o) :
    (∀ rule ∈ (b.pack T).rules, ∀ o o', rule intent m = .ok o → rule intent m' = .ok o' → ResultsKept o o') ↔
      ApprovalsKept T intent m m' b := by
  constructor
  · intro hkept
    refine ⟨fun p hp => ?_, fun hsep => ?_⟩
    · have hrule := (mem_rules T b p.1).mpr (Or.inl ⟨p, hp, rfl⟩)
      obtain ⟨o, ho⟩ := htotal _ hrule
      obtain ⟨o', ho'⟩ := htotal' _ hrule
      exact (asks_kept (asks_spec T b p hp) h ho ho').mp (hkept _ hrule o o' ho ho')
    · have hrule := (mem_rules T b (separationOfDuties T)).mpr (Or.inr ⟨hsep, rfl⟩)
      obtain ⟨o, ho⟩ := htotal _ hrule
      obtain ⟨o', ho'⟩ := htotal' _ hrule
      exact (separation_kept h ho ho').mp (hkept _ hrule o o' ho ho')
  · intro ⟨hasked, hsep⟩ rule hrule o o' ho ho'
    rcases (mem_rules T b rule).mp hrule with ⟨p, hp, rfl⟩ | ⟨hb, rfl⟩
    · exact (asks_kept (asks_spec T b p hp) h ho ho').mpr (hasked p hp)
    · exact (separation_kept h ho ho').mpr (hsep hb)

theorem evaluate_congr {rules : List PreflightRule} (h : ∀ rule ∈ rules, rule intent m = rule intent m') :
    evaluate intent m rules = evaluate intent m' rules := by
  induction rules with
  | nil => rfl
  | cons rule rules ih =>
    unfold evaluate
    rw [h rule List.mem_cons_self, ih fun rule' h' => h rule' (List.mem_cons_of_mem _ h')]

/-- a rule that passes and keeps its approvals returns the same afterwards -/
theorem asks_unchanged {rule ask : PreflightRule} {codes : List String} (ha : Asks T rule ask codes)
    (h : OneMore T intent m m') {o : Option RuleResult} (ho : rule intent m = .ok o)
    (hpass : ∀ r, o = some r → r.outcome = .allow)
    (hkept : ∀ r, ask intent m = .ok (some r) → r.outcome = .approvalRequired →
      SatisfactionKept T intent m m' r.requiredApprovals)
    (hread : (∃ r, ask intent m = .ok (some r) ∧ r.outcome = .approvalRequired) →
      ∃ types', approverTypes T intent m' = .ok types') : rule intent m = rule intent m' := by
  have hsame : ask intent m = ask intent m' := ha.beside h.same
  rw [ha.gated] at ho ⊢
  cases hask : ask intent m with
  | error err => rw [unlessApproved_error T hask, unlessApproved_error T (hsame ▸ hask)]
  | ok asked =>
    cases asked with
    | none => rw [unlessApproved_none T hask, unlessApproved_none T (hsame ▸ hask)]
    | some r =>
      by_cases hr : r.outcome = .approvalRequired
      · rw [unlessApproved_asked T hask hr] at ho ⊢
        rw [unlessApproved_asked T (hsame ▸ hask) hr]
        obtain ⟨s, hs, hso⟩ := Fallible.map_eq_ok.mp ho
        obtain ⟨types', ht'⟩ := hread ⟨r, hask, hr⟩
        obtain ⟨s', hs'⟩ : ∃ s', approvalSatisfied T intent m' r.requiredApprovals = .ok s' := by
          unfold approvalSatisfied
          rw [if_pos h.present, ht']
          exact ⟨_, rfl⟩
        have hst : s = true := by
          by_contra hno
          rw [if_neg hno] at hso
          have hallow := hpass r hso.symm
          rw [hr] at hallow
          cases hallow
        have hst' := (satisfied_kept h hs hs').mpr (hkept r hask hr) hst
        rw [hs, hs', hst, hst']
      · rw [unlessApproved_other T hask hr, unlessApproved_other T (hsame ▸ hask) hr]

theorem separation_unchanged (h : OneMore T intent m m') {o : Option RuleResult}
    (ho : separationOfDuties T intent m = .ok o) (hpass : ∀ r, o = some r → r.outcome = .allow)
    (hsep : intent.action.capability ∈ accessGovernanceCapabilities → approvalPresent T intent m = false →
      ¬ ConflictSeen T intent m)
    (hread : intent.action.capability ∈ accessGovernanceCapabilities →
      ∃ ids, stringValues T intent m' "approver_ids" = .ok ids) :
    separationOfDuties T intent m = separationOfDuties T intent m' := by
  have hnone : o = none := by
    cases o with
    | none => rfl
    | some r =>
      have hallow := hpass r rfl
      rw [separationOfDuties_some ho] at hallow
      cases hallow
  subst hnone
  obtain ⟨o', ho'⟩ : ∃ o', separationOfDuties T intent m' = .ok o' := by
    by_cases hcap : intent.action.capability ∈ accessGovernanceCapabilities
    · obtain ⟨ids, hids⟩ := hread hcap
      exact ⟨_, (separationOfDuties_ok hcap h.present).mpr ⟨ids, hids, rfl⟩⟩
    · unfold separationOfDuties
      rw [if_pos hcap]
      exact ⟨_, rfl⟩
  have hkept := (separation_kept h ho ho').mpr hsep
  cases o' with
  | none => rw [ho, ho']
  | some r => cases hkept r rfl

/-- an allowed action is decided as before -/
theorem allow_unchanged (h : OneMore T intent m m') {results : List RuleResult}
    (hres : evaluate intent m (b.pack T).rules = .ok results) (hblock : blockers results = [])
    (hkept : ApprovalsKept T intent m m' b) (hread : ApprovalsReadable T intent m m' b) :
    evaluate intent m' (b.pack T).rules = .ok results := by
  rw [← hres]
  refine (evaluate_congr fun rule hrule => ?_).symm
  obtain ⟨htotal, hmem⟩ := mem_results hres
  obtain ⟨o, ho⟩ := htotal rule hrule
  have hpass : ∀ r, o = some r → r.outcome = .allow := by
    intro r hr
    subst hr
    by_contra hne
    have hin : r ∈ blockers results := List.mem_filter.mpr ⟨(hmem r).mpr ⟨rule, hrule, ho⟩, by simpa using hne⟩
    rw [hblock] at hin
    cases hin
  rcases (mem_rules T b rule).mp hrule with ⟨p, hp, rfl⟩ | ⟨hb, rfl⟩
  · exact asks_unchanged (asks_spec T b p hp) h ho hpass (hkept.asked p hp) fun ⟨r, hr⟩ => hread.types ⟨p, hp, r, hr⟩
  · exact separation_unchanged h ho hpass (hkept.separate hb) (hread.ids hb)

end

/-! ## the two checks -/

section
variable {T : PreflightPlatform} {b : BuiltInPack} {raw : ActionIntent ⊕ Json} {intent : ActionIntent} {e : Dict}
  {pre post : List Json} {artifact : Json} {v : VerifiedApprovalArtifact} {d : PreflightDecision}

/-- the merged evidence with one artifact more -/
theorem oneMore_added {before after : List VerifiedApprovalArtifact} (hmem : v ∈ after) :
    OneMore T intent (mergeApprovals e before) (mergeApprovals (addArtifact e pre post artifact) after) := by
  have hne : after ≠ [] := List.ne_nil_of_mem hmem
  refine ⟨(mergeApprovals_same.trans addArtifact_same).trans mergeApprovals_same.symm,
    approvalPresent_of_verified hne, fun types' ht' hnil => ?_⟩
  obtain ⟨asserted, -, htypes⟩ := approverTypes_mem (verifiedTypes_merged hne) ht'
  have hin : v.approvalType ∈ types' := (htypes _).mpr (Or.inl (by
    rw [List.mem_eraseDups]
    exact List.mem_map_of_mem hmem))
  rw [hnil] at hin
  cases hin

/-- the decision is still an allow, and no requirement is new -/
def NoHarm (d d' : PreflightDecision) : Prop :=
  (d.outcome = .allow → d'.outcome = .allow) ∧ ∀ q ∈ d'.unmetRequirements, q ∈ d.unmetRequirements

/-- one more verified approval does no harm exactly when the approvals are kept; an allowed action is then
decided as before -/
theorem more_approvals_iff (hi : coerceIntent raw = .ok intent)
    (hadd : AddedArtifact T.toPlatform intent e pre post artifact v)
    (hd : PreflightEngine.check T (b.pack T) raw e = .ok d) :
    ∃ before after, verifiedApprovals T.toPlatform intent e = .ok before ∧
      verifiedApprovals T.toPlatform intent (addArtifact e pre post artifact) = .ok after ∧
      (∀ d', PreflightEngine.check T (b.pack T) raw (addArtifact e pre post artifact) = .ok d' →
        (NoHarm d d' ↔ ApprovalsKept T intent (mergeApprovals e before)
          (mergeApprovals (addArtifact e pre post artifact) after) b)) ∧
      (ApprovalsKept T intent (mergeApprovals e before) (mergeApprovals (addArtifact e pre post artifact) after) b →
        ApprovalsReadable T intent (mergeApprovals e before)
          (mergeApprovals (addArtifact e pre post artifact) after) b →
        d.outcome = .allow → PreflightEngine.check T (b.pack T) raw (addArtifact e pre post artifact) = .ok d) := by
  obtain ⟨intent', merged, results, hi', hm, hres, hdec⟩ := check_ok.mp hd
  rw [hi] at hi'
  cases hi'
  obtain ⟨before, hbefore, rfl⟩ := withVerifiedApprovals_ok.mp hm
  obtain ⟨after, hafter, hmem⟩ := verified_added hadd hbefore
  have hmerge : withVerifiedApprovals T.toPlatform intent (addArtifact e pre post artifact)
      = .ok (mergeApprovals (addArtifact e pre post artifact) after) :=
    withVerifiedApprovals_ok.mpr ⟨after, hafter, rfl⟩
  have hone : OneMore T intent (mergeApprovals e before) (mergeApprovals (addArtifact e pre post artifact) after) :=
    oneMore_added hmem
  obtain ⟨-, -, -, -, -, hunmet⟩ := decision_ok hdec
  refine ⟨before, after, hbefore, hafter, fun d' hd' => ?_, fun hkept hread hallow => ?_⟩
  · obtain ⟨intent', merged', results', hi', hm', hres', hdec'⟩ := check_ok.mp hd'
    rw [hi] at hi'
    cases hi'
    rw [hmerge] at hm'
    cases hm'
    obtain ⟨-, -, -, -, -, hunmet'⟩ := decision_ok hdec'
    rw [← kept_iff hone (mem_results hres).1 (mem_results hres').1, ← unmet_subset_iff hone hres hres']
    unfold NoHarm
    rw [hunmet, hunmet', allow_iff hdec, allow_iff hdec']
    constructor
    · intro ⟨_, hsub⟩
      exact hsub
    · intro hsub
      refine ⟨fun hnil => ?_, hsub⟩
      -- a blocker of the second run would be an unmet requirement of the first, which has none
      rw [hnil] at hsub
      cases hb : blockers results' with
      | nil => rfl
      | cons r rest =>
        rw [hb] at hsub
        cases hsub r.requirement List.mem_cons_self
  · exact check_ok.mpr ⟨intent, _, results, hi, hmerge,
      allow_unchanged hone hres ((allow_iff hdec).mp hallow) hkept hread, hdec⟩

end

/-! ## an approval of one type after one of none -/

/-- an approval is asserted, without types, and the keys of `bob` are there -/
def assertedEvidence : Dict :=
  members [("approval_present", .bool true), ("approval_trusted_keys", .arr [.obj (sampleApprovalKeys "bob")])]

def grantPack : BuiltInPack := .accessGovernance defaultPrivilegedRoles

/-- the decision on the grant of `alice` -/
def grantCheck (e : Dict) : PreflightM PreflightDecision :=
  PreflightEngine.check (grantPlatform "bob") (grantPack.pack (grantPlatform "bob")) (.inl sampleGrant) e

theorem bob_added : ∃ v, AddedArtifact (grantPlatform "bob").toPlatform sampleGrant assertedEvidence [] []
    (.obj (sampleApproval "bob")) v ∧ v.approver.id = "bob" := by
  have hver : (verifyApproval (grantPlatform "bob").toPlatform sampleGrant [(("user", "bob"), sampleApprovalKeys "bob")]
      (.obj (sampleApproval "bob"))).toOption.map (·.approver.id) = some "bob" := by decide +kernel
  cases hv : verifyApproval (grantPlatform "bob").toPlatform sampleGrant [(("user", "bob"), sampleApprovalKeys "bob")]
      (.obj (sampleApproval "bob")) with
  | error err =>
    rw [hv] at hver
    cases hver
  | ok v =>
    rw [hv] at hver
    exact ⟨v, ⟨rfl, _, [], _, rfl, rfl, hv⟩, Option.some.inj hver⟩

theorem more_approvals_bob :
    ∃ d before after, grantCheck assertedEvidence = .ok d ∧ d.outcome = .allow ∧
      verifiedApprovals (grantPlatform "bob").toPlatform sampleGrant
        (addArtifact assertedEvidence [] [] (.obj (sampleApproval "bob"))) = .ok after ∧
      ∀ d', grantCheck (addArtifact assertedEvidence [] [] (.obj (sampleApproval "bob"))) = .ok d' →
        (NoHarm d d' ↔ ApprovalsKept (grantPlatform "bob") sampleGrant (mergeApprovals assertedEvidence before)
          (mergeApprovals (addArtifact assertedEvidence [] [] (.obj (sampleApproval "bob"))) after) grantPack) := by
  obtain ⟨v, hadd, -⟩ := bob_added
  obtain ⟨d, hd, hallow⟩ := outcome_some (show (grantCheck assertedEvidence).toOption.map (·.outcome) = some .allow by
    decide +kernel)
  obtain ⟨before, after, -, hafter, hiff, -⟩ := more_approvals_iff rfl hadd hd
  exact ⟨d, before, after, hd, hallow, hafter, hiff⟩

/-- the approval of `bob` takes the permission back -/
theorem more_approvals_harm :
    ∃ v d d', AddedArtifact (grantPlatform "bob").toPlatform sampleGrant assertedEvidence [] []
        (.obj (sampleApproval "bob")) v ∧ v.approver.id ≠ sampleGrant.requester.id ∧
      grantCheck assertedEvidence = .ok d ∧ d.outcome = .allow ∧
      grantCheck (addArtifact assertedEvidence [] [] (.obj (sampleApproval "bob"))) = .ok d' ∧
      d'.outcome = .approvalRequired ∧ ¬ NoHarm d d' := by
  obtain ⟨v, hadd, hbob⟩ := bob_added
  obtain ⟨d, hd, hallow⟩ := outcome_some (show (grantCheck assertedEvidence).toOption.map (·.outcome) = some .allow by
    decide +kernel)
  obtain ⟨d', hd', hreq⟩ := outcome_some (show (grantCheck (addArtifact assertedEvidence [] []
    (.obj (sampleApproval "bob")))).toOption.map (·.outcome) = some .approvalRequired by decide +kernel)
  refine ⟨v, d, d', hadd, by rw [hbob]; decide, hd, hallow, hd', hreq, fun hno => ?_⟩
  have hallow' := hno.1 hallow
  rw [hreq] at hallow'
  cases hallow'

end Actenon
