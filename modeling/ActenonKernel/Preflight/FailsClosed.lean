import ActenonKernel.Preflight.Asks

/-!
# What preflight lets through without an approval

An amount or a row count that `int(..)` does not take counts as `0`, and a name of an environment that is
neither `production` nor `unknown` counts as one that needs nothing.

* `Allows`                          the pack allows the action on some evidence;
* `PaymentOpen`, `MovementOpen`, `ExportOpen`, `DestructionOpen`    when it does so without an approval;
* `UnreadAmount`, `UnreadMovement`, ...    the ways through that no value accounts for;
* `fails_closed_iff`                the packs fail closed exactly where there is no such way.
-/

set_option linter.unusedSectionVars false

namespace Actenon

/-! ## allowed actions -/

/-- the pack allows the action on the evidence -/
def Allows (T : PreflightPlatform) (pack : PolicyPack) (intent : ActionIntent) (e : Dict) : Prop :=
  ∃ results d, evaluate intent e pack.rules = .ok results ∧ pack.decision T.toPlatform intent results = .ok d ∧
    d.outcome = .allow

/-- a rule that returns, and does not stand against the action -/
def Passes (rule : PreflightRule) (intent : ActionIntent) (e : Dict) : Prop :=
  ∃ o, rule intent e = .ok o ∧ ∀ r, o = some r → r.outcome = .allow

section
variable {T : PreflightPlatform} {pack : PolicyPack} {intent : ActionIntent} {e : Dict} {rules : List PreflightRule}
  {results : List RuleResult}

theorem passes_none {rule : PreflightRule} (h : rule intent e = .ok none) : Passes rule intent e :=
  ⟨none, h, fun r hr => by cases hr⟩

theorem blockers_nil (h : evaluate intent e rules = .ok results) :
    blockers results = [] ↔ ∀ rule ∈ rules, Passes rule intent e := by
  obtain ⟨htotal, hmem⟩ := mem_results h
  unfold blockers
  rw [List.filter_eq_nil_iff]
  constructor
  · intro hb rule hrule
    obtain ⟨o, ho⟩ := htotal rule hrule
    refine ⟨o, ho, fun r hr => ?_⟩
    subst hr
    simpa using hb r ((hmem r).mpr ⟨rule, hrule, ho⟩)
  · intro hp r hr
    obtain ⟨rule, hrule, hrr⟩ := (hmem r).mp hr
    obtain ⟨o, ho, hallow⟩ := hp rule hrule
    rw [ho] at hrr
    cases hrr
    simpa using hallow r rfl

/-- the first of results that all allow is selected -/
theorem selectResult_allow {s : RuleResult} {l : List RuleResult} (hs : s.riskLevel = .low) (ha : s.outcome = .allow)
    (hl : ∀ r ∈ l, r.riskLevel = .low ∧ r.outcome = .allow) : selectResult (s :: l) = some s := by
  show some (l.foldl (fun best r => if best.below r then r else best) s) = some s
  induction l with
  | nil => rfl
  | cons r l ih =>
    have hr := hl r List.mem_cons_self
    have hb : s.below r = false := by
      unfold RuleResult.below RuleResult.priority
      rw [hs, ha, hr.1, hr.2]
      decide
    rw [List.foldl_cons, hb]
    exact ih fun r' h' => hl r' (List.mem_cons_of_mem _ h')

/-- the pack allows exactly when its results are low-risk permissions, the first of which can be given an id -/
theorem allows_iff {s : RuleResult} {l : List RuleResult} (h : evaluate intent e pack.rules = .ok (s :: l))
    (hall : ∀ r ∈ s :: l, r.riskLevel = .low ∧ r.outcome = .allow) :
    Allows T pack intent e ↔ ∃ id, decisionId T.toPlatform intent s.reasonCode .allow = .ok id := by
  have hs := hall s List.mem_cons_self
  have hb : blockers (s :: l) = [] := by
    unfold blockers
    rw [List.filter_eq_nil_iff]
    intro r hr
    simpa using (hall r hr).2
  have hcand : candidates (s :: l) = s :: l := by
    unfold candidates
    rw [hb]
    refine List.filter_eq_self.mpr fun r hr => ?_
    simpa using (hall r hr).2
  have hsel : selectResult (candidates (s :: l)) = some s := by
    rw [hcand]
    exact selectResult_allow hs.1 hs.2 fun r hr => hall r (List.mem_cons_of_mem _ hr)
  constructor
  · intro ⟨results, d, hres, hd, _⟩
    rw [h] at hres
    cases hres
    obtain ⟨selected, id, hsel', hid, -, -⟩ := decision_ok hd
    rw [hsel] at hsel'
    cases hsel'
    exact ⟨id, hs.2 ▸ hid⟩
  · intro ⟨id, hid⟩
    obtain ⟨d, hd⟩ : ∃ d, pack.decision T.toPlatform intent (s :: l) = .ok d :=
      decision_of_selected (List.cons_ne_nil s l) hsel (hs.2.symm ▸ hid)
    exact ⟨_, d, h, hd, (allow_iff hd).mpr hb⟩

/-- rules that return nothing -/
theorem evaluate_quiet {last : List PreflightRule} (h : ∀ rule ∈ rules, rule intent e = .ok none) :
    evaluate intent e (rules ++ last) = evaluate intent e last := by
  induction rules with
  | nil => rfl
  | cons rule rules ih =>
    have hrest := ih fun rule' h' => h rule' (List.mem_cons_of_mem _ h')
    show (rule intent e >>= fun result => evaluate intent e (rules ++ last) >>= fun results =>
      pure (result.toList ++ results)) = _
    rw [h rule List.mem_cons_self, hrest]
    cases evaluate intent e last <;> rfl

/-- all rules but the last return nothing, and that one permits -/
theorem allows_satisfied {packId summary : String}
    (hrules : pack.rules = rules ++ [requirementsSatisfiedRule packId summary])
    (hquiet : ∀ rule ∈ rules, rule intent e = .ok none) :
    Allows T pack intent e ↔
      ∃ id, decisionId T.toPlatform intent "PREFLIGHT_REQUIREMENTS_SATISFIED" .allow = .ok id := by
  have hlast : evaluate intent e [requirementsSatisfiedRule packId summary] = .ok [_] := rfl
  rw [← evaluate_quiet hquiet, ← hrules] at hlast
  exact allows_iff hlast (by simp)

/-- in an allowed action every rule passes -/
theorem Allows.passes (h : Allows T pack intent e) : ∀ rule ∈ pack.rules, Passes rule intent e := by
  obtain ⟨results, d, hres, hd, ha⟩ := h
  exact (blockers_nil hres).mp ((allow_iff hd).mp ha)

/-- a rule that never permits passes when it returns nothing -/
theorem passes_iff_none {rule : PreflightRule} (h : ∀ {r}, rule intent e = .ok (some r) → r.outcome ≠ .allow) :
    Passes rule intent e ↔ rule intent e = .ok none := by
  constructor
  · intro ⟨o, ho, hallow⟩
    cases o with
    | none => exact ho
    | some r => exact absurd (hallow r rfl) (h ho)
  · exact passes_none

/-- without an approval, a rule passes when it asks for nothing -/
theorem passes_unlessApproved {ask : PreflightRule} (hp : approvalPresent T intent e = false)
    (h : ∀ {r}, ask intent e = .ok (some r) → r.outcome ≠ .allow) :
    Passes (unlessApproved T ask) intent e ↔ ask intent e = .ok none := by
  unfold Passes
  rw [unlessApproved_absent T hp]
  exact passes_iff_none h

theorem domainCapabilityRule_none {packId : String} {capabilities : List String}
    (h : intent.action.capability ∈ capabilities) : domainCapabilityRule packId capabilities intent e = .ok none := by
  unfold domainCapabilityRule
  rw [if_pos h]

theorem domainCapabilityRule_passes {packId : String} {capabilities : List String} :
    Passes (domainCapabilityRule packId capabilities) intent e ↔ intent.action.capability ∈ capabilities := by
  unfold Passes domainCapabilityRule
  by_cases h : intent.action.capability ∈ capabilities
  · simp [h]
  · simp [h]

end

/-! ## payments -/

section
variable {T : PreflightPlatform} {c : PaymentsConfig} {intent : ActionIntent} {e : Dict}

/-- the payment goes through without an approval -/
structure PaymentOpen (T : PreflightPlatform) (c : PaymentsConfig) (intent : ActionIntent) (e : Dict) : Prop where
  covered : intent.action.capability ∈ paymentsCapabilities
  samePayee : newPayee T intent e = false
  sameDestination : destinationChanged T intent e = false
  amount : ∃ n, intOrZero T ((suppliedAmount intent e).getD (.int 0)) = .ok n ∧ n < c.approvalThresholdMinor
  decided : ∃ id, decisionId T.toPlatform intent "PREFLIGHT_REQUIREMENTS_SATISFIED" .allow = .ok id

theorem paymentApprovalAsk_none (hcap : intent.action.capability ∈ paymentsCapabilities) :
    paymentApprovalAsk T c intent e = .ok none ↔
      (∃ n, intOrZero T ((suppliedAmount intent e).getD (.int 0)) = .ok n ∧ n < c.approvalThresholdMinor) ∧
        newPayee T intent e = false ∧ destinationChanged T intent e = false := by
  unfold paymentApprovalAsk
  rw [if_neg (not_not.mpr hcap)]
  simp only [Fallible.bind_eq_ok]
  constructor
  · rintro ⟨n, hn, h⟩
    split at h
    · cases h
    · rename_i hneeded
      simp only [Bool.or_eq_true, decide_eq_true_eq, not_or, not_le, Bool.not_eq_true] at hneeded
      exact ⟨⟨n, hn, hneeded.1.1⟩, hneeded.1.2, hneeded.2⟩
  · rintro ⟨⟨n, hn, hlt⟩, h1, h2⟩
    refine ⟨n, hn, ?_⟩
    rw [h1, h2, if_neg (by simpa using hlt)]
    rfl

theorem paymentApprovalAsk_outcome {r : RuleResult} (h : paymentApprovalAsk T c intent e = .ok (some r)) :
    r.outcome ≠ .allow := by
  unfold paymentApprovalAsk at h
  split at h
  · cases h
  · simp only [Fallible.bind_eq_ok] at h
    obtain ⟨n, -, h⟩ := h
    split at h <;> cases h
    simp

theorem payments_allows_iff (hp : approvalPresent T intent e = false) :
    Allows T (paymentsPack T c) intent e ↔ PaymentOpen T c intent e := by
  have hquiet : intent.action.capability ∈ paymentsCapabilities → paymentApprovalAsk T c intent e = .ok none →
      (Allows T (paymentsPack T c) intent e ↔
        ∃ id, decisionId T.toPlatform intent "PREFLIGHT_REQUIREMENTS_SATISFIED" .allow = .ok id) := by
    intro hcap hask
    obtain ⟨-, h1, h2⟩ := (paymentApprovalAsk_none hcap).mp hask
    have hpay : paymentApproval T c intent e = .ok none := (unlessApproved_absent T hp).trans hask
    have hver : payeeVerification T intent e = .ok none := by
      unfold payeeVerification
      rw [if_neg (not_not.mpr hcap), h1, h2]
      rfl
    have hrules : (paymentsPack T c).rules = [domainCapabilityRule "payments_v1" paymentsCapabilities,
      paymentApproval T c, payeeVerification T] ++ [_] := rfl
    refine allows_satisfied hrules ?_
    simp only [List.forall_mem_cons, List.not_mem_nil, false_implies, implies_true, and_true]
    exact ⟨domainCapabilityRule_none hcap, hpay, hver⟩
  constructor
  · intro h
    have hpass := h.passes
    simp only [paymentsPack, List.forall_mem_cons, domainCapabilityRule_passes] at hpass
    obtain ⟨hcap, hpay, -, -, -⟩ := hpass
    have hask := (passes_unlessApproved hp paymentApprovalAsk_outcome).mp hpay
    obtain ⟨hamount, h1, h2⟩ := (paymentApprovalAsk_none hcap).mp hask
    exact ⟨hcap, h1, h2, hamount, (hquiet hcap hask).mp h⟩
  · intro ⟨hcap, h1, h2, hamount, hid⟩
    exact (hquiet hcap ((paymentApprovalAsk_none hcap).mpr ⟨hamount, h1, h2⟩)).mpr hid

end

/-! ## data privacy -/

section
variable {T : PreflightPlatform} {c : DataPrivacyConfig} {intent : ActionIntent} {e : Dict} {r : RuleResult}

/-- the data movement goes through without an approval -/
structure MovementOpen (T : PreflightPlatform) (c : DataPrivacyConfig) (intent : ActionIntent) (e : Dict) : Prop where
  covered : intent.action.capability ∈ dataPrivacyCapabilities
  classified : ∃ s, sensitivityClassification T intent e = .ok s ∧ s ≠ "" ∧
    s ∉ ["confidential", "restricted", "sensitive", "pii", "phi", "financial"]
  notSensitive : truthyValue T (evidenceValue intent e "sensitive_data") = false
  inside : isExternalDestination T intent e = .ok false
  resident : residencyControl T c intent e = .ok none
  rows : ∃ n, rowCount T intent e = .ok n ∧ n < c.broadExportRowThreshold
  decided : ∃ id, decisionId T.toPlatform intent "PREFLIGHT_REQUIREMENTS_SATISFIED" .allow = .ok id

theorem classificationRequired_none (hcap : intent.action.capability ∈ dataPrivacyCapabilities) :
    classificationRequired T intent e = .ok none ↔ ∃ s, sensitivityClassification T intent e = .ok s ∧
      (s ≠ "" ∨ truthyValue T (evidenceValue intent e "sensitive_data") = true) := by
  unfold classificationRequired
  rw [if_neg (not_not.mpr hcap)]
  simp only [Fallible.bind_eq_ok]
  refine exists_congr fun s => and_congr_right fun _ => ?_
  constructor
  · intro h
    split at h
    · assumption
    · cases h
  · intro h
    rw [if_pos h]
    rfl

theorem broadOrSensitiveAsk_none (hcap : intent.action.capability ∈ dataPrivacyCapabilities) :
    broadOrSensitiveAsk T c intent e = .ok none ↔
      (∃ n, rowCount T intent e = .ok n ∧ n < c.broadExportRowThreshold) ∧
      (∃ s, sensitivityClassification T intent e = .ok s ∧
        s ∉ ["confidential", "restricted", "sensitive", "pii", "phi", "financial"]) ∧
      truthyValue T (evidenceValue intent e "sensitive_data") = false ∧
      isExternalDestination T intent e = .ok false := by
  unfold broadOrSensitiveAsk
  rw [if_neg (not_not.mpr hcap)]
  simp only [Fallible.bind_eq_ok]
  constructor
  · rintro ⟨n, hn, s, hs, external, hx, h⟩
    split at h
    · cases h
    · rename_i hneeded
      simp only [Bool.or_eq_true, decide_eq_true_eq, not_or, not_le, Bool.not_eq_true] at hneeded
      obtain ⟨⟨hlt, hclass, hsens⟩, rfl⟩ := hneeded
      exact ⟨⟨n, hn, hlt⟩, ⟨s, hs, hclass⟩, hsens, hx⟩
  · rintro ⟨⟨n, hn, hlt⟩, ⟨s, hs, hclass⟩, hsens, hx⟩
    refine ⟨n, hn, s, hs, false, hx, ?_⟩
    rw [hsens, if_neg (by simp [hlt, hclass])]
    rfl

theorem dataPrivacy_outcome {rule : PreflightRule}
    (hrule : rule ∈ [classificationRequired T, broadOrSensitiveAsk T c, residencyControl T c])
    (h : rule intent e = .ok (some r)) : r.outcome ≠ .allow := by
  simp only [List.mem_cons, List.not_mem_nil, or_false] at hrule
  rcases hrule with rfl | rfl | rfl
  · unfold classificationRequired at h
    split at h
    · cases h
    · simp only [Fallible.bind_eq_ok] at h
      obtain ⟨s, -, h⟩ := h
      split at h <;> cases h
      simp
  · unfold broadOrSensitiveAsk at h
    split at h
    · cases h
    · simp only [Fallible.bind_eq_ok] at h
      obtain ⟨n, -, s, -, external, -, h⟩ := h
      split at h <;> cases h
      simp
  · unfold residencyControl at h
    split at h
    · cases h
    · simp only [Fallible.bind_eq_ok] at h
      obtain ⟨source, -, destination, -, h⟩ := h
      split at h
      · cases h
      · split at h <;> cases h
        simp

theorem dataPrivacy_allows_iff (hp : approvalPresent T intent e = false) :
    Allows T (dataPrivacyPack T c) intent e ↔ MovementOpen T c intent e := by
  have hquiet : intent.action.capability ∈ dataPrivacyCapabilities → classificationRequired T intent e = .ok none →
      broadOrSensitiveAsk T c intent e = .ok none → residencyControl T c intent e = .ok none →
      (Allows T (dataPrivacyPack T c) intent e ↔
        ∃ id, decisionId T.toPlatform intent "PREFLIGHT_REQUIREMENTS_SATISFIED" .allow = .ok id) := by
    intro hcap hclass hask hres
    obtain ⟨-, -, -, hx⟩ := (broadOrSensitiveAsk_none hcap).mp hask
    have hbroad : broadOrSensitiveExport T c intent e = .ok none := (unlessApproved_absent T hp).trans hask
    have hext : externalDestinationControl T c intent e = .ok none := by
      unfold externalDestinationControl
      rw [if_neg (not_not.mpr hcap), hx]
      rfl
    have hrules : (dataPrivacyPack T c).rules = [domainCapabilityRule "data_privacy_v1" dataPrivacyCapabilities,
      classificationRequired T, broadOrSensitiveExport T c, externalDestinationControl T c, residencyControl T c]
        ++ [_] := rfl
    refine allows_satisfied hrules ?_
    simp only [List.forall_mem_cons, List.not_mem_nil, false_implies, implies_true, and_true]
    exact ⟨domainCapabilityRule_none hcap, hclass, hbroad, hext, hres⟩
  constructor
  · intro h
    have hpass := h.passes
    simp only [dataPrivacyPack, List.forall_mem_cons, domainCapabilityRule_passes] at hpass
    obtain ⟨hcap, hclass, hbroad, -, hres, -, -⟩ := hpass
    have hclass' := (passes_iff_none (dataPrivacy_outcome (T := T) (c := c) (by simp))).mp hclass
    have hask := (passes_unlessApproved hp (dataPrivacy_outcome (T := T) (c := c) (by simp))).mp hbroad
    have hres' := (passes_iff_none (dataPrivacy_outcome (T := T) (c := c) (by simp))).mp hres
    obtain ⟨hrows, ⟨s, hs, hmem⟩, hsens, hx⟩ := (broadOrSensitiveAsk_none hcap).mp hask
    obtain ⟨s', hs', hne⟩ := (classificationRequired_none hcap).mp hclass'
    rw [hs] at hs'
    cases hs'
    rw [hsens] at hne
    have hne' : s ≠ "" := by simpa using hne
    exact ⟨hcap, ⟨s, hs, hne', hmem⟩, hsens, hx, hres', hrows, (hquiet hcap hclass' hask hres').mp h⟩
  · intro ⟨hcap, ⟨s, hs, hne, hmem⟩, hsens, hx, hres, hrows, hid⟩
    have hclass := (classificationRequired_none hcap).mpr ⟨s, hs, Or.inl hne⟩
    have hask := (broadOrSensitiveAsk_none hcap).mpr ⟨hrows, ⟨s, hs, hmem⟩, hsens, hx⟩
    exact (hquiet hcap hclass hask hres).mpr hid

end

/-! ## the default pack -/

section
variable {T : PreflightPlatform} {intent : ActionIntent} {e : Dict} {r : RuleResult} {environment : String}

/-- the reason code of the default pack, by the environment -/
def permitReason (environment : String) : String :=
  if environment ∈ nonProductionNames then "PREFLIGHT_SANDBOX_LOW_RISK_ALLOWED" else "PREFLIGHT_REQUIREMENTS_SATISFIED"

/-- a permission of low risk -/
def RuleResult.Permits (r : RuleResult) : Prop := r.riskLevel = .low ∧ r.outcome = .allow

theorem sandboxLowRiskAllow_some (henv : env T intent e = .ok environment) (hname : environment ∈ nonProductionNames) :
    ∃ r, sandboxLowRiskAllow T intent e = .ok (some r) ∧ r.Permits ∧
      r.reasonCode = "PREFLIGHT_SANDBOX_LOW_RISK_ALLOWED" := by
  unfold sandboxLowRiskAllow
  rw [henv, Fallible.ok_bind, if_pos hname]
  exact ⟨_, rfl, ⟨rfl, rfl⟩, rfl⟩

theorem sandboxLowRiskAllow_none (henv : env T intent e = .ok environment) (hname : environment ∉ nonProductionNames) :
    sandboxLowRiskAllow T intent e = .ok none := by
  unfold sandboxLowRiskAllow
  rw [henv, Fallible.ok_bind, if_neg hname]
  rfl

theorem defaultDecision_some (henv : env T intent e = .ok environment) (hknown : environment ≠ "unknown") :
    ∃ r, defaultDecision T intent e = .ok (some r) ∧ r.Permits ∧
      r.reasonCode = "PREFLIGHT_REQUIREMENTS_SATISFIED" := by
  unfold defaultDecision
  rw [henv, Fallible.ok_bind, if_neg hknown]
  exact ⟨_, rfl, ⟨rfl, rfl⟩, rfl⟩

/-- the last two rules permit, and the first of them gives the reason -/
theorem permits_iff {rules : List PreflightRule} (henv : env T intent e = .ok environment)
    (hrules : (destructiveActionsPack T).rules = rules ++ [sandboxLowRiskAllow T, defaultDecision T])
    (hquiet : ∀ rule ∈ rules, rule intent e = .ok none) (hknown : environment ≠ "unknown") :
    Allows T (destructiveActionsPack T) intent e ↔
      ∃ id, decisionId T.toPlatform intent (permitReason environment) .allow = .ok id := by
  obtain ⟨t, ht, htp, htr⟩ := defaultDecision_some henv hknown
  have hlast : evaluate intent e (destructiveActionsPack T).rules
      = evaluate intent e [sandboxLowRiskAllow T, defaultDecision T] := by rw [hrules, evaluate_quiet hquiet]
  unfold permitReason
  by_cases hname : environment ∈ nonProductionNames
  · obtain ⟨s, hs, hsp, hsr⟩ := sandboxLowRiskAllow_some henv hname
    have htwo : evaluate intent e (destructiveActionsPack T).rules = .ok [s, t] := by
      rw [hlast]
      unfold evaluate evaluate evaluate
      rw [hs, ht]
      rfl
    rw [if_pos hname, ← hsr]
    refine allows_iff htwo fun r hr => ?_
    simp only [List.mem_cons, List.not_mem_nil, or_false] at hr
    rcases hr with rfl | rfl
    · exact hsp
    · exact htp
  · have hone : evaluate intent e (destructiveActionsPack T).rules = .ok [t] := by
      rw [hlast]
      unfold evaluate evaluate evaluate
      rw [sandboxLowRiskAllow_none henv hname, ht]
      rfl
    rw [if_neg hname, ← htr]
    refine allows_iff hone fun r hr => ?_
    rw [List.mem_singleton.mp hr]
    exact htp

/-- a rule that only looks at the environment cannot pass on an unknown one -/
theorem defaultDecision_passes (h : Passes (defaultDecision T) intent e) :
    ∃ environment, env T intent e = .ok environment ∧ environment ≠ "unknown" := by
  obtain ⟨o, ho, hallow⟩ := h
  unfold defaultDecision at ho
  simp only [Fallible.bind_eq_ok] at ho
  obtain ⟨environment, henv, ho⟩ := ho
  refine ⟨environment, henv, fun hunknown => ?_⟩
  rw [if_pos hunknown] at ho
  cases ho
  cases hallow _ rfl

theorem missingChangeTicket_none (henv : env T intent e = .ok environment) :
    missingChangeTicket T intent e = .ok none ↔ ¬ (intent.action.capability ∈ destructiveAndDataCapabilities ∧
      environment = "production" ∧ ¬ hasChangeTicket T intent e) := by
  unfold missingChangeTicket
  rw [henv, Fallible.ok_bind]
  constructor
  · intro h hc
    rw [if_pos hc] at h
    cases h
  · intro hc
    rw [if_neg hc]
    rfl

theorem missingChangeTicket_outcome (h : missingChangeTicket T intent e = .ok (some r)) : r.outcome ≠ .allow := by
  unfold missingChangeTicket at h
  simp only [Fallible.bind_eq_ok] at h
  obtain ⟨environment, -, h⟩ := h
  split at h <;> cases h
  simp

theorem missingBackupEvidence_none (henv : env T intent e = .ok environment)
    (h : environment ≠ "production" ∨ requiresBackup intent.action.capability = false) :
    missingBackupEvidence T intent e = .ok none := by
  unfold missingBackupEvidence
  rw [henv, Fallible.ok_bind, if_neg]
  · rfl
  · intro ⟨h1, h2, _⟩
    rcases h with h | h
    · exact h h1
    · rw [h] at h2
      cases h2

theorem productionDestructiveAsk_none (henv : env T intent e = .ok environment)
    (h : environment ≠ "production" ∨ intent.action.capability ∉ productionDestructiveCapabilities) :
    productionDestructiveAsk T intent e = .ok none := by
  unfold productionDestructiveAsk
  rw [henv]
  simp only [Fallible.ok_bind]
  rw [if_pos h]
  rfl

theorem productionDestructiveAsk_outcome (h : productionDestructiveAsk T intent e = .ok (some r)) :
    r.outcome ≠ .allow := by
  unfold productionDestructiveAsk at h
  simp only [Fallible.bind_eq_ok] at h
  obtain ⟨environment, -, h⟩ := h
  split at h
  · cases h
  · split at h <;> cases h <;> simp

/-- in production the rule asks for something -/
theorem productionDestructiveAsk_ne_none (henv : env T intent e = .ok "production")
    (hcap : intent.action.capability ∈ productionDestructiveCapabilities) :
    productionDestructiveAsk T intent e ≠ .ok none := by
  unfold productionDestructiveAsk
  rw [henv]
  simp only [Fallible.ok_bind]
  rw [if_neg (by simp [hcap])]
  split
  · intro h
    cases h
  · intro h
    cases h

theorem adminPermissionGrant_none (hcap : intent.action.capability ≠ "iam.permission.grant") :
    adminPermissionGrant T intent e = .ok none := by
  apply unlessApproved_none
  unfold adminPermissionAsk
  rw [if_pos hcap]

theorem unsupportedCapability_none (hcap : intent.action.capability ∈ destructiveAndDataCapabilities) :
    unsupportedCapability T intent e = .ok none := by
  unfold unsupportedCapability
  rw [if_pos hcap]

/-- an export goes through without an approval -/
structure ExportOpen (T : PreflightPlatform) (intent : ActionIntent) (e : Dict) : Prop where
  rows : ∃ n, rowCount T intent e = .ok n ∧ n < 10000
  notSensitive : truthyValue T (Dict.getD e "sensitive_data" (Dict.get intent.action.parameters "sensitive_data")) = false
  inside : isExternalDestination T intent e = .ok false
  environment : ∃ environment, env T intent e = .ok environment ∧ environment ≠ "unknown" ∧
    (environment = "production" → hasChangeTicket T intent e = true) ∧
    ∃ id, decisionId T.toPlatform intent (permitReason environment) .allow = .ok id

theorem broadDataExportAsk_none (hcap : intent.action.capability = "data.export") :
    broadDataExportAsk T intent e = .ok none ↔ (∃ n, rowCount T intent e = .ok n ∧ n < 10000) ∧
      truthyValue T (Dict.getD e "sensitive_data" (Dict.get intent.action.parameters "sensitive_data")) = false ∧
      isExternalDestination T intent e = .ok false := by
  unfold broadDataExportAsk
  rw [if_neg (not_not.mpr hcap)]
  simp only [Fallible.bind_eq_ok]
  constructor
  · rintro ⟨n, hn, external, hx, h⟩
    split at h
    · cases h
    · rename_i hneeded
      simp only [Bool.or_eq_true, decide_eq_true_eq, not_or, not_le, Bool.not_eq_true] at hneeded
      obtain ⟨⟨hlt, hsens⟩, rfl⟩ := hneeded
      exact ⟨⟨n, hn, hlt⟩, hsens, hx⟩
  · rintro ⟨⟨n, hn, hlt⟩, hsens, hx⟩
    refine ⟨n, hn, false, hx, ?_⟩
    rw [hsens, if_neg (by simp [hlt])]
    rfl

theorem broadDataExportAsk_outcome (h : broadDataExportAsk T intent e = .ok (some r)) : r.outcome ≠ .allow := by
  unfold broadDataExportAsk at h
  split at h
  · cases h
  · simp only [Fallible.bind_eq_ok] at h
    obtain ⟨n, -, external, -, h⟩ := h
    split at h <;> cases h
    simp

theorem default_export_iff (hp : approvalPresent T intent e = false)
    (hcap : intent.action.capability = "data.export") :
    Allows T (destructiveActionsPack T) intent e ↔ ExportOpen T intent e := by
  have hquiet : ∀ environment, env T intent e = .ok environment → environment ≠ "unknown" →
      (environment = "production" → hasChangeTicket T intent e = true) → broadDataExportAsk T intent e = .ok none →
      (Allows T (destructiveActionsPack T) intent e ↔
        ∃ id, decisionId T.toPlatform intent (permitReason environment) .allow = .ok id) := by
    intro environment henv hknown hticket hask
    have hrules : (destructiveActionsPack T).rules = [unsupportedCapability T, missingChangeTicket T,
      missingBackupEvidence T, productionDestructiveWithoutApproval T, broadDataExport T, adminPermissionGrant T]
        ++ [sandboxLowRiskAllow T, defaultDecision T] := rfl
    refine permits_iff henv hrules ?_ hknown
    simp only [List.forall_mem_cons, List.not_mem_nil, false_implies, implies_true, and_true]
    refine ⟨unsupportedCapability_none (by rw [hcap]; decide), (missingChangeTicket_none henv).mpr ?_,
      missingBackupEvidence_none henv (Or.inr (by rw [hcap]; decide)),
      unlessApproved_none T (productionDestructiveAsk_none henv (Or.inr (by rw [hcap]; decide))),
      unlessApproved_none T hask, adminPermissionGrant_none (by rw [hcap]; decide)⟩
    intro ⟨_, h1, h2⟩
    exact h2 (hticket h1)
  constructor
  · intro h
    have hpass := h.passes
    simp only [destructiveActionsPack, List.forall_mem_cons] at hpass
    obtain ⟨-, hticket, -, -, hexport, -, -, hdefault, -⟩ := hpass
    obtain ⟨environment, henv, hknown⟩ := defaultDecision_passes hdefault
    have hask := (passes_unlessApproved hp broadDataExportAsk_outcome).mp hexport
    have hticket' := (missingChangeTicket_none henv).mp ((passes_iff_none missingChangeTicket_outcome).mp hticket)
    have hhas : environment = "production" → hasChangeTicket T intent e = true := by
      intro hprod
      by_contra hno
      exact hticket' ⟨by rw [hcap]; decide, hprod, hno⟩
    obtain ⟨hrows, hsens, hx⟩ := (broadDataExportAsk_none hcap).mp hask
    exact ⟨hrows, hsens, hx, environment, henv, hknown, hhas, (hquiet environment henv hknown hhas hask).mp h⟩
  · intro ⟨hrows, hsens, hx, environment, henv, hknown, hhas, hid⟩
    exact (hquiet environment henv hknown hhas ((broadDataExportAsk_none hcap).mpr ⟨hrows, hsens, hx⟩)).mpr hid

/-- a destructive action goes through without an approval -/
def DestructionOpen (T : PreflightPlatform) (intent : ActionIntent) (e : Dict) : Prop :=
  ∃ environment, env T intent e = .ok environment ∧ environment ≠ "unknown" ∧ environment ≠ "production" ∧
    ∃ id, decisionId T.toPlatform intent (permitReason environment) .allow = .ok id

theorem default_destruction_iff (hp : approvalPresent T intent e = false)
    (hcap : intent.action.capability ∈ productionDestructiveCapabilities) :
    Allows T (destructiveActionsPack T) intent e ↔ DestructionOpen T intent e := by
  have hdata : intent.action.capability ∈ destructiveAndDataCapabilities ∧
      intent.action.capability ≠ "data.export" ∧ intent.action.capability ≠ "iam.permission.grant" := by
    have hall : ∀ capability ∈ productionDestructiveCapabilities, capability ∈ destructiveAndDataCapabilities ∧
      capability ≠ "data.export" ∧ capability ≠ "iam.permission.grant" := by decide
    exact hall _ hcap
  have hquiet : ∀ environment, env T intent e = .ok environment → environment ≠ "unknown" →
      environment ≠ "production" → (Allows T (destructiveActionsPack T) intent e ↔
        ∃ id, decisionId T.toPlatform intent (permitReason environment) .allow = .ok id) := by
    intro environment henv hknown hprod
    have hexport : broadDataExportAsk T intent e = .ok none := by
      unfold broadDataExportAsk
      rw [if_pos hdata.2.1]
    have hrules : (destructiveActionsPack T).rules = [unsupportedCapability T, missingChangeTicket T,
      missingBackupEvidence T, productionDestructiveWithoutApproval T, broadDataExport T, adminPermissionGrant T]
        ++ [sandboxLowRiskAllow T, defaultDecision T] := rfl
    refine permits_iff henv hrules ?_ hknown
    simp only [List.forall_mem_cons, List.not_mem_nil, false_implies, implies_true, and_true]
    exact ⟨unsupportedCapability_none hdata.1, (missingChangeTicket_none henv).mpr fun h => hprod h.2.1,
      missingBackupEvidence_none henv (Or.inl hprod),
      unlessApproved_none T (productionDestructiveAsk_none henv (Or.inl hprod)), unlessApproved_none T hexport,
      adminPermissionGrant_none hdata.2.2⟩
  constructor
  · intro h
    have hpass := h.passes
    simp only [destructiveActionsPack, List.forall_mem_cons] at hpass
    obtain ⟨-, -, -, hdestroy, -, -, -, hdefault, -⟩ := hpass
    obtain ⟨environment, henv, hknown⟩ := defaultDecision_passes hdefault
    have hask := (passes_unlessApproved hp productionDestructiveAsk_outcome).mp hdestroy
    have hprod : environment ≠ "production" := by
      intro hprod
      subst hprod
      exact productionDestructiveAsk_ne_none henv hcap hask
    exact ⟨environment, henv, hknown, hprod, (hquiet environment henv hknown hprod).mp h⟩
  · intro ⟨environment, henv, hknown, hprod, hid⟩
    exact (hquiet environment henv hknown hprod).mpr hid

end

/-! ## without an approval -/

/-- there is no artifact, and nothing says that an approval is there -/
def NoApproval (T : PreflightPlatform) (intent : ActionIntent) (e : Dict) : Prop :=
  (Dict.getD e "approval_artifacts" (.tup [])).truthy = false ∧ approvalPresent T intent e = false

/-- `check` allows the action while no approval is present -/
structure LetThrough (T : PreflightPlatform) (pack : PolicyPack) (raw : ActionIntent ⊕ Json) (e : Dict)
    (intent : ActionIntent) (merged : Dict) : Prop where
  coerced : coerceIntent raw = .ok intent
  merges : withVerifiedApprovals T.toPlatform intent e = .ok merged
  absent : approvalPresent T intent merged = false
  allowed : ∃ d, PreflightEngine.check T pack raw e = .ok d ∧ d.outcome = .allow

section
variable {T : PreflightPlatform} {pack : PolicyPack} {raw : ActionIntent ⊕ Json} {e merged : Dict}
  {intent : ActionIntent}

theorem letThrough_iff : LetThrough T pack raw e intent merged ↔
    coerceIntent raw = .ok intent ∧ NoApproval T intent e ∧ merged = e ∧ Allows T pack intent e := by
  constructor
  · intro ⟨hi, hm, hp, d, hd, ha⟩
    obtain ⟨approvals, hv, rfl⟩ := withVerifiedApprovals_ok.mp hm
    have hnil : approvals = [] := by
      by_contra hne
      rw [approvalPresent_of_verified hne] at hp
      cases hp
    subst hnil
    obtain ⟨intent', merged', results, hi', hm', hres, hdec⟩ := check_ok.mp hd
    rw [hi] at hi'
    cases hi'
    rw [hm] at hm'
    cases hm'
    exact ⟨hi, ⟨verifiedApprovals_nil.mp hv, hp⟩, rfl, results, d, hres, hdec, ha⟩
  · intro ⟨hi, ⟨hnone, hp⟩, he, results, d, hres, hdec, ha⟩
    subst he
    have hm : withVerifiedApprovals T.toPlatform intent merged = .ok merged :=
      withVerifiedApprovals_ok.mpr ⟨[], verifiedApprovals_nil.mpr hnone, rfl⟩
    exact ⟨hi, hm, hp, d, check_ok.mpr ⟨intent, merged, results, hi, hm, hres, hdec⟩, ha⟩

end

/-! ## failing closed -/

/-- when a value is an integer: as it is written, or as `int(..)` reads it -/
inductive IntegerReading where
  | asWritten
  | asParsed

def IntegerReading.value (T : PreflightPlatform) : IntegerReading → Json → Option Int
  | .asWritten, .int n => some n
  | .asWritten, _ => none
  | .asParsed, j => (pyInt T.toPlatform j).toOption

section
variable (T : PreflightPlatform) (reading : IntegerReading) (raw : ActionIntent ⊕ Json) (e : Dict)

/-- an amount of a payment that goes through is an integer below the threshold -/
def AmountsClosed (c : PaymentsConfig) : Prop :=
  ∀ intent merged, LetThrough T (paymentsPack T c) raw e intent merged →
    ∀ v, suppliedAmount intent merged = some v → ∃ n, reading.value T v = some n ∧ n < c.approvalThresholdMinor

/-- so is a row count of a data movement -/
def MovementsClosed (c : DataPrivacyConfig) : Prop :=
  ∀ intent merged, LetThrough T (dataPrivacyPack T c) raw e intent merged →
    ∀ v, suppliedRowCount intent merged = some v → ∃ n, reading.value T v = some n ∧ n < c.broadExportRowThreshold

/-- and of an export, with the default pack -/
def ExportsClosed : Prop :=
  ∀ intent merged, LetThrough T (destructiveActionsPack T) raw e intent merged →
    intent.action.capability = "data.export" →
    ∀ v, suppliedRowCount intent merged = some v → ∃ n, reading.value T v = some n ∧ n < 10000

/-- a destructive action that goes through is in an environment that is known not to be production -/
def EnvironmentsClosed : Prop :=
  ∀ intent merged, LetThrough T (destructiveActionsPack T) raw e intent merged →
    intent.action.capability ∈ productionDestructiveCapabilities →
    ∃ name ∈ nonProductionNames, env T intent merged = .ok name

/-- the packs fail closed -/
structure FailsClosed (c : PaymentsConfig) (p : DataPrivacyConfig) : Prop where
  amounts : AmountsClosed T reading raw e c
  movements : MovementsClosed T reading raw e p
  exports : ExportsClosed T reading raw e
  environments : EnvironmentsClosed T raw e

/-- a payment goes through on an amount that is no integer -/
def UnreadAmount (c : PaymentsConfig) : Prop :=
  ∃ intent v, coerceIntent raw = .ok intent ∧ NoApproval T intent e ∧ PaymentOpen T c intent e ∧
    suppliedAmount intent e = some v ∧ reading.value T v = none

/-- a data movement goes through on a row count that is no integer -/
def UnreadMovement (c : DataPrivacyConfig) : Prop :=
  ∃ intent v, coerceIntent raw = .ok intent ∧ NoApproval T intent e ∧ MovementOpen T c intent e ∧
    suppliedRowCount intent e = some v ∧ reading.value T v = none

/-- an export goes through on one -/
def UnreadExport : Prop :=
  ∃ intent v, coerceIntent raw = .ok intent ∧ NoApproval T intent e ∧
    intent.action.capability = "data.export" ∧ ExportOpen T intent e ∧
    suppliedRowCount intent e = some v ∧ reading.value T v = none

/-- a destructive action goes through in an environment of another name -/
def UnrecognisedEnvironment : Prop :=
  ∃ intent environment, coerceIntent raw = .ok intent ∧ NoApproval T intent e ∧
    intent.action.capability ∈ productionDestructiveCapabilities ∧ DestructionOpen T intent e ∧
    env T intent e = .ok environment ∧ environment ∉ nonProductionNames

end

section
variable {T : PreflightPlatform} {reading : IntegerReading} {raw : ActionIntent ⊕ Json} {e : Dict}

/-- an integer counts as itself -/
theorem intOrZero_value {v : Json} {n : Int} (h : reading.value T v = some n) : intOrZero T v = .ok n := by
  have hparsed : pyInt T.toPlatform v = .ok n := by
    cases reading with
    | asWritten =>
      cases v with
      | int m =>
        cases h
        rfl
      | _ => cases h
    | asParsed =>
      have h : (pyInt T.toPlatform v).toOption = some n := h
      cases hp : pyInt T.toPlatform v with
      | ok m =>
        rw [hp] at h
        cases h
        rfl
      | error err =>
        rw [hp] at h
        cases h
  unfold intOrZero
  rw [hparsed]

/-- a value below a bound is an integer below it, or no integer -/
theorem value_below {v : Json} {n bound : Int} (hn : intOrZero T v = .ok n) (hlt : n < bound)
    (hread : reading.value T v ≠ none) : ∃ m, reading.value T v = some m ∧ m < bound := by
  obtain ⟨m, hm⟩ := Option.ne_none_iff_exists'.mp hread
  have hsame := intOrZero_value hm
  rw [hn] at hsame
  cases hsame
  exact ⟨n, hm, hlt⟩

theorem amountsClosed_iff (c : PaymentsConfig) :
    AmountsClosed T reading raw e c ↔ ¬ UnreadAmount T reading raw e c := by
  constructor
  · intro h ⟨intent, v, hi, hno, hopen, hv, hread⟩
    obtain ⟨n, hn, -⟩ := h intent e (letThrough_iff.mpr ⟨hi, hno, rfl, (payments_allows_iff hno.2).mpr hopen⟩) v hv
    rw [hread] at hn
    cases hn
  · intro h intent merged hlet v hv
    obtain ⟨hi, hno, rfl, hallows⟩ := letThrough_iff.mp hlet
    have hopen := (payments_allows_iff hno.2).mp hallows
    obtain ⟨n, hn, hlt⟩ := hopen.amount
    rw [hv] at hn
    exact value_below hn hlt fun hread => h ⟨intent, v, hi, hno, hopen, hv, hread⟩

theorem movementsClosed_iff (c : DataPrivacyConfig) :
    MovementsClosed T reading raw e c ↔ ¬ UnreadMovement T reading raw e c := by
  constructor
  · intro h ⟨intent, v, hi, hno, hopen, hv, hread⟩
    obtain ⟨n, hn, -⟩ :=
      h intent e (letThrough_iff.mpr ⟨hi, hno, rfl, (dataPrivacy_allows_iff hno.2).mpr hopen⟩) v hv
    rw [hread] at hn
    cases hn
  · intro h intent merged hlet v hv
    obtain ⟨hi, hno, rfl, hallows⟩ := letThrough_iff.mp hlet
    have hopen := (dataPrivacy_allows_iff hno.2).mp hallows
    obtain ⟨n, hn, hlt⟩ := hopen.rows
    unfold rowCount at hn
    rw [hv] at hn
    exact value_below hn hlt fun hread => h ⟨intent, v, hi, hno, hopen, hv, hread⟩

theorem exportsClosed_iff : ExportsClosed T reading raw e ↔ ¬ UnreadExport T reading raw e := by
  constructor
  · intro h ⟨intent, v, hi, hno, hcap, hopen, hv, hread⟩
    obtain ⟨n, hn, -⟩ :=
      h intent e (letThrough_iff.mpr ⟨hi, hno, rfl, (default_export_iff hno.2 hcap).mpr hopen⟩) hcap v hv
    rw [hread] at hn
    cases hn
  · intro h intent merged hlet hcap v hv
    obtain ⟨hi, hno, rfl, hallows⟩ := letThrough_iff.mp hlet
    have hopen := (default_export_iff hno.2 hcap).mp hallows
    obtain ⟨n, hn, hlt⟩ := hopen.rows
    unfold rowCount at hn
    rw [hv] at hn
    exact value_below hn hlt fun hread => h ⟨intent, v, hi, hno, hcap, hopen, hv, hread⟩

theorem environmentsClosed_iff : EnvironmentsClosed T raw e ↔ ¬ UnrecognisedEnvironment T raw e := by
  constructor
  · intro h ⟨intent, environment, hi, hno, hcap, hopen, henv, hname⟩
    obtain ⟨name, hmem, hn⟩ :=
      h intent e (letThrough_iff.mpr ⟨hi, hno, rfl, (default_destruction_iff hno.2 hcap).mpr hopen⟩) hcap
    rw [henv] at hn
    cases hn
    exact hname hmem
  · intro h intent merged hlet hcap
    obtain ⟨hi, hno, rfl, hallows⟩ := letThrough_iff.mp hlet
    have hopen := (default_destruction_iff hno.2 hcap).mp hallows
    have ⟨environment, henv, _⟩ := hopen
    by_cases hname : environment ∈ nonProductionNames
    · exact ⟨environment, hname, henv⟩
    · exact absurd ⟨intent, environment, hi, hno, hcap, hopen, henv, hname⟩ h

/-- the packs fail closed exactly where no value of another kind and no environment of another name lets
an action through -/
theorem fails_closed_iff (c : PaymentsConfig) (p : DataPrivacyConfig) :
    FailsClosed T reading raw e c p ↔ ¬ UnreadAmount T reading raw e c ∧ ¬ UnreadMovement T reading raw e p ∧
      ¬ UnreadExport T reading raw e ∧ ¬ UnrecognisedEnvironment T raw e := by
  rw [← amountsClosed_iff, ← movementsClosed_iff, ← exportsClosed_iff, ← environmentsClosed_iff]
  constructor
  · intro ⟨h1, h2, h3, h4⟩
    exact ⟨h1, h2, h3, h4⟩
  · intro ⟨h1, h2, h3, h4⟩
    exact ⟨h1, h2, h3, h4⟩

end

/-! ## an amount in words and an environment called `prod` -/

/-- `int(..)` on ASCII digits -/
def plainPlatform : PreflightPlatform :=
  { samplePlatform grantHash with
    intOfStr := fun s =>
      if s ≠ "" ∧ s.toList.all Digits.isDigit then .ok (s.toList.foldl (fun n c => 10 * n + (c.toNat - 48)) 0)
      else valueError "invalid literal for int() with base 10"
    lower := asciiLower }

/-- the sample, as some other action -/
def sampleAction (capability : String) : ActionIntent :=
  { sampleIntent with action := ⟨capability, capability, [], [], []⟩ }

theorem fails_open :
    ¬ AmountsClosed plainPlatform .asParsed (.inl (sampleAction "payment.release"))
        (members [("amount_minor", .str "ten million")]) ⟨100000, by decide⟩ ∧
      ¬ EnvironmentsClosed plainPlatform (.inl (sampleAction "database.delete"))
        (members [("environment", .str "prod")]) := by
  constructor
  · rw [amountsClosed_iff, not_not]
    refine ⟨sampleAction "payment.release", .str "ten million", rfl, ⟨rfl, by decide +kernel⟩, ?_, rfl, ?_⟩
    · refine ⟨by decide, by decide +kernel, by decide +kernel, ⟨0, by decide +kernel, by decide⟩, ?_⟩
      exact Fallible.exists_ok (by decide +kernel)
    · decide +kernel
  · rw [environmentsClosed_iff, not_not]
    refine ⟨sampleAction "database.delete", "prod", rfl, ⟨rfl, by decide +kernel⟩, by decide, ?_, ?_, by decide⟩
    · refine ⟨"prod", by decide +kernel, by decide, by decide, ?_⟩
      exact Fallible.exists_ok (by decide +kernel)
    · decide +kernel

end Actenon
