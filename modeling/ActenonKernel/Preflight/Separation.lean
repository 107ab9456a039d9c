import ActenonKernel.Preflight.Asks

/-!
# Separation of duties in preflight

`separation_of_duties` of the access-governance pack compares the requester with the ids of the member
`approver_ids`, stripped and in lower case.  The ids of verified approval artifacts are merged into
`verified_approver_ids`, which no rule reads.

* `SelfApproval`               some accepted approver is the requester, but for case;
* `ConflictSeen`               what the rule compares;
* `AccessReadable`             the texts the rules of the pack read can be read;
* `self_approval_denied_iff`   a self-approval is denied exactly when the rule sees it.
-/

set_option linter.unusedSectionVars false

namespace Actenon

section
variable (T : PreflightPlatform) (intent : ActionIntent) (evidence : Dict)

/-- the ids of the evidence, as they are written -/
def assertedApprovers : Except PyError (List String) :=
  typeTexts T (evidenceValue intent evidence "approver_ids" (.tup []))

/-- some approver that counts towards the approval is the requester, but for case -/
def SelfApproval (approvals : List VerifiedApprovalArtifact) : Prop :=
  approvalPresent T intent (mergeApprovals evidence approvals) = true ∧
    ∃ id, ((∃ ids, assertedApprovers T intent evidence = .ok ids ∧ id ∈ ids) ∨ id ∈ approvals.map (·.approver.id)) ∧
      T.lower id = T.lower intent.requester.id

/-- what `separation_of_duties` looks at -/
def ConflictSeen : Prop :=
  (∃ ids, stringValues T intent evidence "approver_ids" = .ok ids ∧ T.lower intent.requester.id ∈ ids) ∨
    truthyValue T (evidenceValue intent evidence "requester_is_approver") = true

/-- the texts that the rules of the pack read can be read -/
structure AccessReadable (roles : List String) : Prop where
  ids : ∃ ids, stringValues T intent evidence "approver_ids" = .ok ids
  access : ∃ asked, privilegedAccessAsk T roles intent evidence = .ok asked
  types : (∃ r, privilegedAccessAsk T roles intent evidence = .ok (some r)) →
    ∃ types, approverTypes T intent evidence = .ok types

end

/-! ## the rules -/

section
variable {T : PreflightPlatform} {intent : ActionIntent} {e : Dict} {roles : List String} {r : RuleResult}

theorem separationOfDuties_ok (hcap : intent.action.capability ∈ accessGovernanceCapabilities)
    (hp : approvalPresent T intent e = true) {o : Option RuleResult} :
    separationOfDuties T intent e = .ok o ↔ ∃ ids, stringValues T intent e "approver_ids" = .ok ids ∧
      (if T.lower intent.requester.id ∈ ids ∨ truthyValue T (evidenceValue intent e "requester_is_approver") = true
        then some separationViolation else none) = o := by
  unfold separationOfDuties
  rw [if_neg (not_not.mpr hcap), hp]
  simp only [Bool.not_true, Bool.false_eq_true, if_false, Fallible.bind_eq_ok]
  refine exists_congr fun ids => and_congr_right fun _ => ?_
  by_cases h1 : T.lower intent.requester.id ∈ ids
  · simp [h1, Fallible.pure_eq_ok]
  · by_cases h2 : truthyValue T (evidenceValue intent e "requester_is_approver") = true
    · simp [h1, h2, Fallible.pure_eq_ok]
    · simp [h1, h2, Fallible.pure_eq_ok]

/-- with the ids read, the rule gives a result exactly for a conflict -/
theorem separationOfDuties_seen (hcap : intent.action.capability ∈ accessGovernanceCapabilities)
    (hp : approvalPresent T intent e = true) :
    separationOfDuties T intent e = .ok (some separationViolation) ↔
      (∃ ids, stringValues T intent e "approver_ids" = .ok ids) ∧ ConflictSeen T intent e := by
  rw [separationOfDuties_ok hcap hp]
  constructor
  · intro ⟨ids, hids, h⟩
    refine ⟨⟨ids, hids⟩, ?_⟩
    split at h
    · rename_i hc
      exact hc.imp (fun hmem => ⟨ids, hids, hmem⟩) fun ht => ht
    · cases h
  · intro ⟨⟨ids, hids⟩, hc⟩
    refine ⟨ids, hids, ?_⟩
    have hseen : T.lower intent.requester.id ∈ ids ∨
        truthyValue T (evidenceValue intent e "requester_is_approver") = true := by
      rcases hc with ⟨ids', hids', hmem⟩ | ht
      · rw [hids] at hids'
        cases hids'
        exact Or.inl hmem
      · exact Or.inr ht
    rw [if_pos hseen]

/-- of the rules of the pack only `separation_of_duties` denies -/
theorem accessGovernance_deny {rule : PreflightRule} (hrule : rule ∈ (accessGovernancePack T roles).rules)
    (h : rule intent e = .ok (some r)) (hdeny : r.outcome = .deny) :
    rule = separationOfDuties T ∧ r = separationViolation := by
  simp only [accessGovernancePack, List.mem_cons, List.not_mem_nil, or_false] at hrule
  rcases hrule with rfl | rfl | rfl | rfl
  · unfold domainCapabilityRule at h
    split at h <;> cases h
    cases hdeny
  · refine ⟨rfl, ?_⟩
    unfold separationOfDuties at h
    split at h
    · cases h
    · split at h
      · cases h
      · simp only [Fallible.bind_eq_ok] at h
        obtain ⟨ids, -, h⟩ := h
        split at h <;> cases h
        rfl
  · have ha := unlessApproved_some T h
    unfold privilegedAccessAsk at ha
    split at ha
    · cases ha
    · simp only [Fallible.bind_eq_ok] at ha
      obtain ⟨role, -, tier, -, mode, -, ha⟩ := ha
      split at ha <;> cases ha
      cases hdeny
  · cases h
    cases hdeny

/-- an approval rule returns when its values can be read -/
theorem unlessApproved_returns {ask : PreflightRule} (hp : approvalPresent T intent e = true)
    (hall : ∀ {r}, ask intent e = .ok (some r) → r.outcome = .approvalRequired) :
    (∃ o, unlessApproved T ask intent e = .ok o) ↔ (∃ asked, ask intent e = .ok asked) ∧
      ((∃ r, ask intent e = .ok (some r)) → ∃ types, approverTypes T intent e = .ok types) := by
  cases ha : ask intent e with
  | error err =>
    rw [unlessApproved_error T ha]
    simp
  | ok asked =>
    cases asked with
    | none =>
      rw [unlessApproved_none T ha]
      simp
    | some r =>
      rw [unlessApproved_asked T ha (hall ha)]
      unfold approvalSatisfied
      rw [if_pos hp]
      cases approverTypes T intent e with
      | error err => simp [Except.map, bind, Except.bind]
      | ok types => simp [Except.map, bind, Except.bind, pure, Except.pure]

theorem privilegedAccessAsk_outcome (h : privilegedAccessAsk T roles intent e = .ok (some r)) :
    r.outcome = .approvalRequired := by
  unfold privilegedAccessAsk at h
  split at h
  · cases h
  · simp only [Fallible.bind_eq_ok] at h
    obtain ⟨role, -, tier, -, mode, -, h⟩ := h
    split at h <;> cases h
    rfl

/-- the rules of the pack return exactly when their texts can be read -/
theorem accessGovernance_returns (hcap : intent.action.capability ∈ accessGovernanceCapabilities)
    (hp : approvalPresent T intent e = true) :
    (∀ rule ∈ (accessGovernancePack T roles).rules, ∃ o, rule intent e = .ok o) ↔ AccessReadable T intent e roles := by
  have hsep : (∃ o, separationOfDuties T intent e = .ok o) ↔
      ∃ ids, stringValues T intent e "approver_ids" = .ok ids := by
    simp only [separationOfDuties_ok hcap hp]
    constructor
    · intro ⟨o, ids, hids, _⟩
      exact ⟨ids, hids⟩
    · intro ⟨ids, hids⟩
      exact ⟨_, ids, hids, rfl⟩
  have hpriv := @unlessApproved_returns T intent e (privilegedAccessAsk T roles) hp privilegedAccessAsk_outcome
  have hdom : ∃ o, domainCapabilityRule "access_governance_v1" accessGovernanceCapabilities intent e = .ok o := by
    unfold domainCapabilityRule
    rw [if_pos hcap]
    exact ⟨_, rfl⟩
  simp only [accessGovernancePack, List.forall_mem_cons, List.not_mem_nil, false_implies, implies_true, and_true]
  constructor
  · intro ⟨_, h1, h2, _⟩
    exact ⟨hsep.mp h1, (hpriv.mp h2).1, (hpriv.mp h2).2⟩
  · intro ⟨h1, h2, h3⟩
    exact ⟨hdom, hsep.mpr h1, hpriv.mpr ⟨h2, h3⟩, _, rfl⟩

end

/-! ## the decision -/

section
variable {T : PreflightPlatform} {intent : ActionIntent} {evidence : Dict} {roles : List String}
  {raw : ActionIntent ⊕ Json} {approvals : List VerifiedApprovalArtifact}

theorem conflictSeen_merged :
    ConflictSeen T intent (mergeApprovals evidence approvals) ↔ ConflictSeen T intent evidence := by
  have h : SameBesideApprovals (mergeApprovals evidence approvals) evidence := mergeApprovals_same
  unfold ConflictSeen
  simp (disch := decide) only [stringValues_beside T intent h, evidenceValue_beside intent h]

/-- the results hold a denial, and then the decision is that one -/
theorem access_selected {results : List RuleResult} {e : Dict}
    (hres : evaluate intent e (accessGovernancePack T roles).rules = .ok results)
    (hmem : separationViolation ∈ results) :
    ∃ selected, selectResult (candidates results) = some selected ∧ selected = separationViolation := by
  have hblock : separationViolation ∈ blockers results := List.mem_filter.mpr ⟨hmem, by decide⟩
  have hcand : candidates results = blockers results := by
    unfold candidates
    rw [if_neg (by simpa using List.ne_nil_of_mem hblock)]
  obtain ⟨selected, hs⟩ := selectResult_isSome (List.ne_nil_of_mem (hcand ▸ hblock))
  obtain ⟨hin, hmax⟩ := selectResult_some hs
  rw [hcand] at hin hmax
  have hdeny := top_is_deny (hmax _ hblock) rfl rfl
  obtain ⟨rule, hrule, hr⟩ := ((mem_results hres).2 selected).mp (List.mem_filter.mp hin).1
  exact ⟨selected, hs, (accessGovernance_deny hrule hr hdeny).2⟩

/-- an approval by the requester is denied exactly when `separation_of_duties` compares its id and the
texts of the evidence can be read -/
theorem self_approval_denied_iff (hi : coerceIntent raw = .ok intent)
    (hcap : intent.action.capability ∈ accessGovernanceCapabilities)
    (hv : verifiedApprovals T.toPlatform intent evidence = .ok approvals)
    (hself : SelfApproval T intent evidence approvals) :
    (∃ d, PreflightEngine.check T (accessGovernancePack T roles) raw evidence = .ok d ∧ d.outcome = .deny) ↔
      ConflictSeen T intent evidence ∧ AccessReadable T intent (mergeApprovals evidence approvals) roles ∧
        ∃ id, decisionId T.toPlatform intent separationViolation.reasonCode .deny = .ok id := by
  have hp := hself.1
  have hm : withVerifiedApprovals T.toPlatform intent evidence = .ok (mergeApprovals evidence approvals) :=
    withVerifiedApprovals_ok.mpr ⟨approvals, hv, rfl⟩
  rw [← conflictSeen_merged]
  constructor
  · intro ⟨d, hd, hdeny⟩
    obtain ⟨intent', merged, results, hi', hm', hres, hdec⟩ := check_ok.mp hd
    rw [hi] at hi'
    cases hi'
    rw [hm] at hm'
    cases hm'
    obtain ⟨selected, id, hs, hid, ho, -⟩ := decision_ok hdec
    have hin := candidates_subset (selectResult_some hs).1
    obtain ⟨rule, hrule, hr⟩ := ((mem_results hres).2 selected).mp hin
    obtain ⟨rfl, rfl⟩ := accessGovernance_deny hrule hr (ho.symm.trans hdeny)
    exact ⟨((separationOfDuties_seen hcap hp).mp hr).2, (accessGovernance_returns hcap hp).mp (mem_results hres).1,
      id, hid⟩
  · intro ⟨hseen, hread, id, hid⟩
    obtain ⟨results, hres⟩ := evaluate_total ((accessGovernance_returns hcap hp).mpr hread)
    have hmem : separationViolation ∈ results := ((mem_results hres).2 _).mpr
      ⟨separationOfDuties T, by simp [accessGovernancePack], (separationOfDuties_seen hcap hp).mpr ⟨hread.ids, hseen⟩⟩
    obtain ⟨selected, hs, rfl⟩ := access_selected hres hmem
    obtain ⟨d, hd⟩ := decision_of_selected (List.ne_nil_of_mem hmem) hs hid
    exact ⟨d, check_ok.mpr ⟨intent, _, results, hi, hm, hres, hd⟩, outcome_deny hd hmem rfl rfl⟩

end

/-! ## `alice` approves her own grant -/

/-- her signed approval verifies -/
theorem alice_verified (further : List (String × Json)) :
    ∃ approvals, verifiedApprovals (grantPlatform "alice").toPlatform sampleGrant (approvedEvidence "alice" further)
      = .ok approvals ∧ approvals.map (·.approver.id) = ["alice"] := by
  have hids : (verifiedApprovals (grantPlatform "alice").toPlatform sampleGrant
      (approvedEvidence "alice" [])).toOption.map (·.map (·.approver.id)) = some ["alice"] := by decide +kernel
  rw [verifiedApprovals_further]
  cases hv : verifiedApprovals (grantPlatform "alice").toPlatform sampleGrant (approvedEvidence "alice" []) with
  | error e =>
    rw [hv] at hids
    cases hids
  | ok approvals =>
    rw [hv] at hids
    exact ⟨approvals, rfl, Option.some.inj hids⟩

/-- and counts towards the requirement -/
theorem alice_selfApproval (further : List (String × Json)) {approvals : List VerifiedApprovalArtifact}
    (hids : approvals.map (·.approver.id) = ["alice"]) :
    SelfApproval (grantPlatform "alice") sampleGrant (approvedEvidence "alice" further) approvals := by
  have hne : approvals ≠ [] := by
    intro h
    rw [h] at hids
    cases hids
  exact ⟨approvalPresent_of_verified hne, "alice", Or.inr (by rw [hids]; exact List.mem_cons_self), rfl⟩

/-- named in `approver_ids` as well, she is seen -/
theorem self_approval_denied_alice :
    ∃ d, PreflightEngine.check (grantPlatform "alice") (accessGovernancePack (grantPlatform "alice"))
      (.inl sampleGrant) (approvedEvidence "alice" [("approver_ids", strings ["Alice"])]) = .ok d ∧
        d.outcome = .deny := by
  obtain ⟨approvals, hv, hids⟩ := alice_verified [("approver_ids", strings ["Alice"])]
  have hsame : SameBesideApprovals (mergeApprovals (approvedEvidence "alice" [("approver_ids", strings ["Alice"])])
    approvals) (approvedEvidence "alice" [("approver_ids", strings ["Alice"])]) := mergeApprovals_same
  have hne : approvals ≠ [] := by
    intro h
    rw [h] at hids
    cases hids
  refine (self_approval_denied_iff rfl (by decide) hv (alice_selfApproval _ hids)).mpr
    ⟨Or.inl ⟨["alice"], by decide +kernel, by decide +kernel⟩, ?_, ?_⟩
  · refine ⟨?_, ?_, fun _ => ?_⟩
    · rw [stringValues_beside _ _ hsame (by decide)]
      exact ⟨["alice"], by decide +kernel⟩
    · rw [(privilegedOrStandingAccess_asks _ _).beside hsame]
      exact Fallible.exists_ok (by decide +kernel)
    · apply approverTypes_total (verifiedTypes_merged hne)
      rw [assertedTypes_beside hsame]
      rfl
  · exact Fallible.exists_ok (by decide +kernel)

/-- without that, her own approval lets the grant through -/
theorem self_approval_allowed :
    ∃ approvals d, sampleGrant.action.capability ∈ accessGovernanceCapabilities ∧
      verifiedApprovals (grantPlatform "alice").toPlatform sampleGrant
        (approvedEvidence "alice" [("approver_types", strings ["resource_owner"])]) = .ok approvals ∧
      SelfApproval (grantPlatform "alice") sampleGrant
        (approvedEvidence "alice" [("approver_types", strings ["resource_owner"])]) approvals ∧
      PreflightEngine.check (grantPlatform "alice") (accessGovernancePack (grantPlatform "alice"))
        (.inl sampleGrant) (approvedEvidence "alice" [("approver_types", strings ["resource_owner"])]) = .ok d ∧
      d.outcome = .allow := by
  obtain ⟨approvals, hv, hids⟩ := alice_verified [("approver_types", strings ["resource_owner"])]
  obtain ⟨d, hd, hallow⟩ := outcome_some (show (PreflightEngine.check (grantPlatform "alice")
    (accessGovernancePack (grantPlatform "alice")) (.inl sampleGrant)
    (approvedEvidence "alice" [("approver_types", strings ["resource_owner"])])).toOption.map (·.outcome)
      = some .allow by decide +kernel)
  exact ⟨approvals, d, by decide, hv, alice_selfApproval _ hids, hd, hallow⟩

end Actenon
