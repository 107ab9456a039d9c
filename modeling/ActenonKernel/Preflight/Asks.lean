import ActenonKernel.Preflight.Engine

/-!
# What the rules of the packs ask for

A rule reads approvals in one of two ways: it drops a result that asks for an approval
(`unlessApproved`), or it is `separationOfDuties`.  Everything else it reads off members that an
approval does not touch.

* `SameBesideApprovals`        the same evidence but for approvals;
* `Asks`                       a rule, what it asks for and the reason codes of its results;
* `BuiltInPack.asks`           the rules of the packs in that form;
* `approverTypes_mem`          the types of the approvers;
* `mem_results`                a result comes from a rule;
* `find_mergeApprovals`        what verified approvals leave alone.
-/

set_option linter.unusedSectionVars false

namespace Actenon

/-! ## dictionaries -/

theorem Dict.find_map_update (d : Dict) (k k' : Key) (v : Json) :
    Dict.find (d.map fun p => if p.1 = k then (k, v) else p) k'
      = if k = k' then (Dict.find d k').map fun _ => v else Dict.find d k' := by
  induction d with
  | nil => simp [Dict.find_nil]
  | cons p d ih =>
    obtain ⟨k1, v1⟩ := p
    by_cases h1 : k1 = k
    · subst h1
      rw [List.map_cons, if_pos rfl, Dict.find_cons, Dict.find_cons, ih]
      by_cases h2 : k1 = k' <;> simp [h2]
    · rw [List.map_cons, if_neg h1, Dict.find_cons, Dict.find_cons, ih]
      by_cases h2 : k1 = k'
      · have h3 : k ≠ k' := fun e => h1 (h2.trans e.symm)
        simp [h2, h3]
      · simp [h2]

theorem Dict.find_set (d : Dict) (k k' : Key) (v : Json) :
    Dict.find (Dict.set d k v) k' = if k = k' then some v else Dict.find d k' := by
  unfold Dict.set
  by_cases hk : (Dict.find d k).isSome = true
  · rw [if_pos hk, Dict.find_map_update]
    by_cases h : k = k'
    · subst h
      obtain ⟨w, hw⟩ := Option.isSome_iff_exists.mp hk
      simp [hw]
    · simp [h]
  · rw [if_neg hk, Dict.find_append, Dict.find_cons, Dict.find_nil]
    by_cases h : k = k'
    · subst h
      simp at hk
      simp [hk]
    · simp [h]

/-! ## evidence -/

/-- the members of the evidence that approvals are in -/
def approvalMembers : List String :=
  ["approval_artifacts", "verified_approval_present", "verified_approver_types", "verified_approver_ids",
    "verified_approval_ids"]

/-- the same evidence but for approvals -/
def SameBesideApprovals (e e' : Dict) : Prop :=
  ∀ key ∉ approvalMembers, Dict.find e (.str key) = Dict.find e' (.str key)

theorem SameBesideApprovals.trans {e e' e'' : Dict} (h : SameBesideApprovals e e')
    (h' : SameBesideApprovals e' e'') : SameBesideApprovals e e'' := fun key hkey =>
  (h key hkey).trans (h' key hkey)

theorem SameBesideApprovals.symm {e e' : Dict} (h : SameBesideApprovals e e') : SameBesideApprovals e' e :=
  fun key hkey => (h key hkey).symm

section
variable {evidence : Dict} {approvals : List VerifiedApprovalArtifact}

/-- a member of the evidence with the verified approvals -/
theorem find_mergeApprovals (hne : approvals ≠ []) (key : String) :
    Dict.find (mergeApprovals evidence approvals) (.str key) =
      if key = "verified_approval_present" then some (.bool true)
      else if key = "verified_approver_types" then some (strings (approvals.map (·.approvalType)).eraseDups)
      else if key = "verified_approver_ids" then some (strings (approvals.map (·.approver.id)).eraseDups)
      else if key = "verified_approval_ids" then some (strings (approvals.map (·.approvalId)))
      else Dict.find evidence (.str key) := by
  unfold mergeApprovals
  rw [if_neg (by simpa using hne)]
  simp only [List.foldl_cons, List.foldl_nil, Dict.find_set, Key.str.injEq]
  by_cases h1 : key = "verified_approval_present"
  · subst h1; simp
  by_cases h2 : key = "verified_approver_types"
  · subst h2; simp
  by_cases h3 : key = "verified_approver_ids"
  · subst h3; simp
  by_cases h4 : key = "verified_approval_ids"
  · subst h4; simp
  simp [h1, h2, h3, h4, eq_comm]

@[simp] theorem mergeApprovals_nil : mergeApprovals evidence [] = evidence := rfl

theorem mergeApprovals_same : SameBesideApprovals (mergeApprovals evidence approvals) evidence := by
  intro key hkey
  by_cases hne : approvals = []
  · rw [hne, mergeApprovals_nil]
  · simp only [approvalMembers, List.mem_cons, List.not_mem_nil, or_false, not_or] at hkey
    rw [find_mergeApprovals hne, if_neg hkey.2.1, if_neg hkey.2.2.1, if_neg hkey.2.2.2.1, if_neg hkey.2.2.2.2]

theorem withVerifiedApprovals_ok {P : Platform} {intent : ActionIntent} {merged : Dict} :
    withVerifiedApprovals P intent evidence = .ok merged ↔
      ∃ approvals, verifiedApprovals P intent evidence = .ok approvals ∧ mergeApprovals evidence approvals = merged := by
  unfold withVerifiedApprovals
  simp only [Fallible.bind_eq_ok, Fallible.pure_eq_ok]

/-- verified approvals are an approval -/
theorem approvalPresent_of_verified {T : PreflightPlatform} {intent : ActionIntent} (hne : approvals ≠ []) :
    approvalPresent T intent (mergeApprovals evidence approvals) = true := by
  unfold approvalPresent Dict.get
  rw [find_mergeApprovals hne, if_pos rfl]
  simp [truthyValue]

end

/-! ## reading beside approvals -/

section
variable (T : PreflightPlatform) (intent : ActionIntent) {e e' : Dict} (h : SameBesideApprovals e e')
include h

theorem get_beside {key : String} (hkey : key ∉ approvalMembers) : Dict.get e key = Dict.get e' key := by
  unfold Dict.get
  rw [h key hkey]

theorem getD_beside {key : String} (hkey : key ∉ approvalMembers) (dflt : Json) :
    Dict.getD e key dflt = Dict.getD e' key dflt := by
  unfold Dict.getD
  rw [h key hkey]

theorem suppliedValue_beside {key : String} (hkey : key ∉ approvalMembers) :
    suppliedValue intent e key = suppliedValue intent e' key := by
  unfold suppliedValue
  rw [h key hkey]

theorem evidenceValue_beside {key : String} (hkey : key ∉ approvalMembers) (dflt : Json) :
    evidenceValue intent e key dflt = evidenceValue intent e' key dflt := by
  unfold evidenceValue
  rw [suppliedValue_beside intent h hkey]

theorem stringValue_beside {key : String} (hkey : key ∉ approvalMembers) (dflt : String) :
    stringValue T intent e key dflt = stringValue T intent e' key dflt := by
  unfold stringValue
  rw [evidenceValue_beside intent h hkey]

theorem stringValues_beside {key : String} (hkey : key ∉ approvalMembers) :
    stringValues T intent e key = stringValues T intent e' key := by
  unfold stringValues
  rw [evidenceValue_beside intent h hkey]

theorem env_beside : env T intent e = env T intent e' := by
  unfold env
  simp (disch := decide) only [get_beside h]

theorem rowCount_beside : rowCount T intent e = rowCount T intent e' := by
  unfold rowCount suppliedRowCount
  simp (disch := decide) only [h _]

theorem sensitivityClassification_beside :
    sensitivityClassification T intent e = sensitivityClassification T intent e' := by
  unfold sensitivityClassification
  simp (disch := decide) only [stringValue_beside T intent h]

theorem isExternalDestination_beside : isExternalDestination T intent e = isExternalDestination T intent e' := by
  unfold isExternalDestination
  simp (disch := decide) only [stringValue_beside T intent h]

theorem hasChangeTicket_beside : hasChangeTicket T intent e = hasChangeTicket T intent e' := by
  unfold hasChangeTicket
  simp (disch := decide) only [get_beside h]

theorem hasBackupEvidence_beside : hasBackupEvidence T intent e = hasBackupEvidence T intent e' := by
  unfold hasBackupEvidence
  simp (disch := decide) only [get_beside h]

theorem roleText_beside : roleText T intent e = roleText T intent e' := by
  unfold roleText
  simp (disch := decide) only [stringValue_beside T intent h]

theorem newPayee_beside : newPayee T intent e = newPayee T intent e' := by
  unfold newPayee
  simp (disch := decide) only [evidenceValue_beside intent h]

theorem destinationChanged_beside : destinationChanged T intent e = destinationChanged T intent e' := by
  unfold destinationChanged
  simp (disch := decide) only [evidenceValue_beside intent h]

theorem suppliedAmount_beside : suppliedAmount intent e = suppliedAmount intent e' := by
  unfold suppliedAmount
  simp (disch := decide) only [suppliedValue_beside intent h]

end

/-! ## approver types -/

theorem typeTexts_strings (T : PreflightPlatform) (xs : List String) : typeTexts T (strings xs) = .ok xs := by
  show (xs.map Json.str).mapM (pyStr T.toPlatform) = .ok xs
  induction xs with
  | nil => rfl
  | cons x xs ih =>
    rw [List.map_cons, List.mapM_cons, ih]
    rfl

section
variable {T : PreflightPlatform} {intent : ActionIntent} {e e' : Dict} {types : List String}

theorem assertedTypes_beside (h : SameBesideApprovals e e') : assertedTypes intent e = assertedTypes intent e' := by
  unfold assertedTypes
  simp (disch := decide) only [get_beside h]

/-- the types are the verified and the asserted ones -/
theorem approverTypes_mem {verified : List String}
    (hv : typeTexts T ((Dict.get e "verified_approver_types").orElse (.tup [])) = .ok verified)
    (h : approverTypes T intent e = .ok types) :
    ∃ asserted, typeTexts T (assertedTypes intent e) = .ok asserted ∧
      ∀ x, x ∈ types ↔ x ∈ verified ∨ x ∈ asserted := by
  unfold approverTypes at h
  rw [hv] at h
  simp only [Fallible.ok_bind] at h
  cases hj : assertedTypes intent e with
  | str s =>
    rw [hj] at h
    cases h
    exact ⟨[s], rfl, fun x => by simp⟩
  | arr xs | tup xs =>
    rw [hj] at h
    simp only [Fallible.bind_eq_ok, Fallible.pure_eq_ok] at h
    obtain ⟨texts, ht, rfl⟩ := h
    exact ⟨texts, ht, fun x => by simp⟩
  | _ =>
    rw [hj] at h
    cases h
    exact ⟨[], rfl, fun x => by simp⟩

/-- their texts have to be there -/
theorem approverTypes_total {verified asserted : List String}
    (hv : typeTexts T ((Dict.get e "verified_approver_types").orElse (.tup [])) = .ok verified)
    (ha : typeTexts T (assertedTypes intent e) = .ok asserted) : ∃ types, approverTypes T intent e = .ok types := by
  unfold approverTypes
  rw [hv]
  simp only [Fallible.ok_bind]
  cases hj : assertedTypes intent e with
  | arr xs | tup xs =>
    rw [hj] at ha
    exact ⟨_, Fallible.bind_eq_ok.mpr ⟨asserted, ha, rfl⟩⟩
  | _ => exact ⟨_, rfl⟩

/-- the types of verified approvals, in the merged evidence -/
theorem verifiedTypes_merged {evidence : Dict} {approvals : List VerifiedApprovalArtifact} (hne : approvals ≠ []) :
    typeTexts T ((Dict.get (mergeApprovals evidence approvals) "verified_approver_types").orElse (.tup []))
      = .ok (approvals.map (·.approvalType)).eraseDups := by
  have htypes : Dict.get (mergeApprovals evidence approvals) "verified_approver_types"
      = strings (approvals.map (·.approvalType)).eraseDups := by
    unfold Dict.get
    rw [find_mergeApprovals hne, if_neg (by decide), if_pos rfl]
    rfl
  have htruthy : (strings (approvals.map (·.approvalType)).eraseDups).truthy = true := by
    cases approvals with
    | nil => exact absurd rfl hne
    | cons a rest => simp [strings, Json.truthy, List.eraseDups_cons]
  rw [htypes, Json.orElse, if_pos htruthy, typeTexts_strings]

end

/-! ## results -/

section
variable {intent : ActionIntent} {e : Dict} {rules : List PreflightRule} {results : List RuleResult}

/-- every rule returned, and the results are theirs -/
theorem mem_results (h : evaluate intent e rules = .ok results) :
    (∀ rule ∈ rules, ∃ o, rule intent e = .ok o) ∧
      ∀ r, r ∈ results ↔ ∃ rule ∈ rules, rule intent e = .ok (some r) := by
  induction rules generalizing results with
  | nil =>
    cases h
    simp
  | cons rule rules ih =>
    unfold evaluate at h
    simp only [Fallible.bind_eq_ok, Fallible.pure_eq_ok] at h
    obtain ⟨o, ho, rest, hrest, rfl⟩ := h
    obtain ⟨h1, h2⟩ := ih hrest
    refine ⟨List.forall_mem_cons.mpr ⟨⟨o, ho⟩, h1⟩, fun r => ?_⟩
    rw [List.mem_append, h2 r, List.exists_mem_cons_iff, ho]
    simp

theorem evaluate_total (h : ∀ rule ∈ rules, ∃ o, rule intent e = .ok o) :
    ∃ results, evaluate intent e rules = .ok results := by
  induction rules with
  | nil => exact ⟨[], rfl⟩
  | cons rule rules ih =>
    obtain ⟨o, ho⟩ := h rule List.mem_cons_self
    obtain ⟨results, hr⟩ := ih fun rule' h' => h rule' (List.mem_cons_of_mem _ h')
    refine ⟨o.toList ++ results, ?_⟩
    unfold evaluate
    rw [ho, hr]
    rfl

end

/-! ## the rules -/

/-- a rule, what it asks for and the reason codes of its results -/
structure Asks (T : PreflightPlatform) (rule ask : PreflightRule) (codes : List String) : Prop where
  gated : rule = unlessApproved T ask
  beside : ∀ {intent e e'}, SameBesideApprovals e e' → ask intent e = ask intent e'
  code : ∀ {intent e r}, ask intent e = .ok (some r) → r.reasonCode ∈ codes

section
variable (T : PreflightPlatform)

/-- a rule that asks for no approval -/
theorem unlessApproved_plain {ask : PreflightRule}
    (h : ∀ {intent e r}, ask intent e = .ok (some r) → r.outcome ≠ .approvalRequired) : ask = unlessApproved T ask := by
  funext intent e
  unfold unlessApproved
  cases ha : ask intent e with
  | error err => rfl
  | ok o =>
    cases o with
    | none => rfl
    | some r =>
      show _ = if r.outcome = .approvalRequired then _ else _
      rw [if_neg (h ha)]
      rfl

section
variable {ask : PreflightRule} {intent : ActionIntent} {e : Dict} {r : RuleResult}

theorem unlessApproved_none (h : ask intent e = .ok none) : unlessApproved T ask intent e = .ok none := by
  unfold unlessApproved
  rw [h]
  rfl

theorem unlessApproved_error {err : PyError} (h : ask intent e = .error err) :
    unlessApproved T ask intent e = .error err := by
  unfold unlessApproved
  rw [h]
  rfl

theorem unlessApproved_other (h : ask intent e = .ok (some r)) (ho : r.outcome ≠ .approvalRequired) :
    unlessApproved T ask intent e = .ok (some r) := by
  unfold unlessApproved
  rw [h]
  show (if r.outcome = .approvalRequired then _ else _) = _
  rw [if_neg ho]
  rfl

theorem unlessApproved_asked (h : ask intent e = .ok (some r)) (ho : r.outcome = .approvalRequired) :
    unlessApproved T ask intent e = (approvalSatisfied T intent e r.requiredApprovals).map
      fun satisfied => if satisfied then none else some r := by
  unfold unlessApproved
  rw [h]
  show (if r.outcome = .approvalRequired then _ else _) = _
  rw [if_pos ho]
  rfl

/-- a result of the rule is what it asks for -/
theorem unlessApproved_some (h : unlessApproved T ask intent e = .ok (some r)) : ask intent e = .ok (some r) := by
  cases ha : ask intent e with
  | error err =>
    rw [unlessApproved_error T ha] at h
    cases h
  | ok o =>
    cases o with
    | none =>
      rw [unlessApproved_none T ha] at h
      cases h
    | some s =>
      by_cases ho : s.outcome = .approvalRequired
      · rw [unlessApproved_asked T ha ho, Fallible.map_eq_ok] at h
        obtain ⟨satisfied, -, h⟩ := h
        split at h <;> cases h
        rfl
      · rw [unlessApproved_other T ha ho] at h
        exact h

/-- without an approval the rule returns what it asks for -/
theorem unlessApproved_absent (hp : approvalPresent T intent e = false) :
    unlessApproved T ask intent e = ask intent e := by
  cases ha : ask intent e with
  | error err => exact unlessApproved_error T ha
  | ok o =>
    cases o with
    | none => exact unlessApproved_none T ha
    | some s =>
      by_cases ho : s.outcome = .approvalRequired
      · rw [unlessApproved_asked T ha ho]
        unfold approvalSatisfied
        rw [hp]
        rfl
      · exact unlessApproved_other T ha ho

end

theorem Asks.plain {ask : PreflightRule} {codes : List String}
    (hb : ∀ {intent e e'}, SameBesideApprovals e e' → ask intent e = ask intent e')
    (hr : ∀ {intent e r}, ask intent e = .ok (some r) → r.reasonCode ∈ codes ∧ r.outcome ≠ .approvalRequired) :
    Asks T ask ask codes where
  gated := unlessApproved_plain T fun h => (hr h).2
  beside := hb
  code := fun h => (hr h).1

theorem domainCapabilityRule_asks (packId : String) (capabilities : List String) :
    Asks T (domainCapabilityRule packId capabilities) (domainCapabilityRule packId capabilities)
      ["PREFLIGHT_CAPABILITY_NOT_COVERED"] := by
  apply Asks.plain
  · exact fun _ => rfl
  · intro intent e r h
    unfold domainCapabilityRule at h
    split at h <;> cases h
    simp

theorem requirementsSatisfiedRule_asks (packId summary : String) :
    Asks T (requirementsSatisfiedRule packId summary) (requirementsSatisfiedRule packId summary)
      ["PREFLIGHT_REQUIREMENTS_SATISFIED"] := by
  apply Asks.plain
  · exact fun _ => rfl
  · intro intent e r h
    cases h
    simp

theorem unsupportedCapability_asks :
    Asks T (unsupportedCapability T) (unsupportedCapability T) ["PREFLIGHT_CAPABILITY_UNCLASSIFIED"] := by
  apply Asks.plain
  · intro intent e e' h
    unfold unsupportedCapability
    simp (disch := decide) only [getD_beside h]
  · intro intent e r h
    unfold unsupportedCapability at h
    split at h
    · cases h
    · simp only [Fallible.bind_eq_ok] at h
      obtain ⟨text, -, h⟩ := h
      split at h <;> cases h
      simp

theorem missingChangeTicket_asks :
    Asks T (missingChangeTicket T) (missingChangeTicket T) ["PREFLIGHT_CHANGE_TICKET_REQUIRED"] := by
  apply Asks.plain
  · intro intent e e' h
    unfold missingChangeTicket
    simp only [env_beside T intent h, hasChangeTicket_beside T intent h]
  · intro intent e r h
    unfold missingChangeTicket at h
    simp only [Fallible.bind_eq_ok] at h
    obtain ⟨environment, -, h⟩ := h
    split at h <;> cases h
    simp

theorem missingBackupEvidence_asks :
    Asks T (missingBackupEvidence T) (missingBackupEvidence T) ["PREFLIGHT_BACKUP_EVIDENCE_REQUIRED"] := by
  apply Asks.plain
  · intro intent e e' h
    unfold missingBackupEvidence
    simp only [env_beside T intent h, hasBackupEvidence_beside T intent h]
  · intro intent e r h
    unfold missingBackupEvidence at h
    simp only [Fallible.bind_eq_ok] at h
    obtain ⟨environment, -, h⟩ := h
    split at h <;> cases h
    simp

theorem productionDestructive_asks :
    Asks T (productionDestructiveWithoutApproval T) (productionDestructiveAsk T)
      ["PREFLIGHT_PRODUCTION_BACKUP_DELETE_DENIED", "PREFLIGHT_PRODUCTION_DESTRUCTIVE_APPROVAL_REQUIRED"] where
  gated := rfl
  beside := by
    intro intent e e' h
    unfold productionDestructiveAsk
    simp only [env_beside T intent h]
  code := by
    intro intent e r h
    unfold productionDestructiveAsk at h
    simp only [Fallible.bind_eq_ok] at h
    obtain ⟨environment, -, h⟩ := h
    split at h
    · cases h
    · split at h <;> cases h <;> simp

theorem broadDataExport_asks :
    Asks T (broadDataExport T) (broadDataExportAsk T) ["PREFLIGHT_BROAD_DATA_EXPORT_APPROVAL_REQUIRED"] where
  gated := rfl
  beside := by
    intro intent e e' h
    unfold broadDataExportAsk
    simp (disch := decide) only [rowCount_beside T intent h, isExternalDestination_beside T intent h, getD_beside h]
  code := by
    intro intent e r h
    unfold broadDataExportAsk at h
    split at h
    · cases h
    · simp only [Fallible.bind_eq_ok] at h
      obtain ⟨rows, -, external, -, h⟩ := h
      split at h <;> cases h
      simp

theorem adminPermissionGrant_asks :
    Asks T (adminPermissionGrant T) (adminPermissionAsk T) ["PREFLIGHT_ADMIN_PERMISSION_APPROVAL_REQUIRED"] where
  gated := rfl
  beside := by
    intro intent e e' h
    unfold adminPermissionAsk
    simp (disch := decide) only [getD_beside h]
  code := by
    intro intent e r h
    unfold adminPermissionAsk at h
    split at h
    · cases h
    · simp only [Fallible.bind_eq_ok] at h
      obtain ⟨text, -, h⟩ := h
      split at h <;> cases h
      simp

theorem sandboxLowRiskAllow_asks :
    Asks T (sandboxLowRiskAllow T) (sandboxLowRiskAllow T) ["PREFLIGHT_SANDBOX_LOW_RISK_ALLOWED"] := by
  apply Asks.plain
  · intro intent e e' h
    unfold sandboxLowRiskAllow
    simp only [env_beside T intent h]
  · intro intent e r h
    unfold sandboxLowRiskAllow at h
    simp only [Fallible.bind_eq_ok] at h
    obtain ⟨environment, -, h⟩ := h
    split at h <;> cases h
    simp

theorem defaultDecision_asks :
    Asks T (defaultDecision T) (defaultDecision T)
      ["PREFLIGHT_CONTEXT_REQUIRED", "PREFLIGHT_REQUIREMENTS_SATISFIED"] := by
  apply Asks.plain
  · intro intent e e' h
    unfold defaultDecision
    simp only [env_beside T intent h]
  · intro intent e r h
    unfold defaultDecision at h
    simp only [Fallible.bind_eq_ok] at h
    obtain ⟨environment, -, h⟩ := h
    split at h <;> cases h <;> simp

theorem classificationRequired_asks :
    Asks T (classificationRequired T) (classificationRequired T) ["PREFLIGHT_DATA_CLASSIFICATION_REQUIRED"] := by
  apply Asks.plain
  · intro intent e e' h
    unfold classificationRequired
    simp (disch := decide) only [sensitivityClassification_beside T intent h, evidenceValue_beside intent h]
  · intro intent e r h
    unfold classificationRequired at h
    split at h
    · cases h
    · simp only [Fallible.bind_eq_ok] at h
      obtain ⟨sensitivity, -, h⟩ := h
      split at h <;> cases h
      simp

theorem broadOrSensitiveExport_asks (c : DataPrivacyConfig) :
    Asks T (broadOrSensitiveExport T c) (broadOrSensitiveAsk T c)
      ["PREFLIGHT_BROAD_DATA_EXPORT_APPROVAL_REQUIRED"] where
  gated := rfl
  beside := by
    intro intent e e' h
    unfold broadOrSensitiveAsk
    simp (disch := decide) only [rowCount_beside T intent h, isExternalDestination_beside T intent h,
      sensitivityClassification_beside T intent h, evidenceValue_beside intent h]
  code := by
    intro intent e r h
    unfold broadOrSensitiveAsk at h
    split at h
    · cases h
    · simp only [Fallible.bind_eq_ok] at h
      obtain ⟨rows, -, sensitivity, -, external, -, h⟩ := h
      split at h <;> cases h
      simp

theorem externalDestinationControl_asks (c : DataPrivacyConfig) :
    Asks T (externalDestinationControl T c) (externalDestinationControl T c)
      ["PREFLIGHT_EXTERNAL_EGRESS_EVIDENCE_REQUIRED"] := by
  apply Asks.plain
  · intro intent e e' h
    unfold externalDestinationControl
    simp (disch := decide) only [isExternalDestination_beside T intent h, evidenceValue_beside intent h,
      stringValue_beside T intent h]
  · intro intent e r h
    unfold externalDestinationControl at h
    split at h
    · cases h
    · simp only [Fallible.bind_eq_ok] at h
      obtain ⟨external, -, h⟩ := h
      split at h
      · cases h
      · obtain ⟨destination, -, h⟩ := Fallible.bind_eq_ok.mp h
        split at h <;> cases h
        simp

theorem residencyControl_asks (c : DataPrivacyConfig) :
    Asks T (residencyControl T c) (residencyControl T c) ["PREFLIGHT_RESIDENCY_EVIDENCE_REQUIRED"] := by
  apply Asks.plain
  · intro intent e e' h
    unfold residencyControl
    simp (disch := decide) only [evidenceValue_beside intent h, stringValue_beside T intent h]
  · intro intent e r h
    unfold residencyControl at h
    split at h
    · cases h
    · simp only [Fallible.bind_eq_ok] at h
      obtain ⟨source, -, destination, -, h⟩ := h
      split at h
      · cases h
      · split at h <;> cases h
        simp

theorem privilegedOrStandingAccess_asks (roles : List String) :
    Asks T (privilegedOrStandingAccess T roles) (privilegedAccessAsk T roles)
      ["PREFLIGHT_PRIVILEGED_ACCESS_APPROVAL_REQUIRED"] where
  gated := rfl
  beside := by
    intro intent e e' h
    unfold privilegedAccessAsk
    simp (disch := decide) only [roleText_beside T intent h, stringValue_beside T intent h]
  code := by
    intro intent e r h
    unfold privilegedAccessAsk at h
    split at h
    · cases h
    · simp only [Fallible.bind_eq_ok] at h
      obtain ⟨role, -, roleTier, -, accessMode, -, h⟩ := h
      split at h <;> cases h
      simp

theorem paymentApproval_asks (c : PaymentsConfig) :
    Asks T (paymentApproval T c) (paymentApprovalAsk T c) ["PREFLIGHT_PAYMENT_APPROVAL_REQUIRED"] where
  gated := rfl
  beside := by
    intro intent e e' h
    unfold paymentApprovalAsk
    simp only [suppliedAmount_beside intent h, newPayee_beside T intent h, destinationChanged_beside T intent h]
  code := by
    intro intent e r h
    unfold paymentApprovalAsk at h
    split at h
    · cases h
    · simp only [Fallible.bind_eq_ok] at h
      obtain ⟨amount, -, h⟩ := h
      split at h <;> cases h
      simp

theorem payeeVerification_asks :
    Asks T (payeeVerification T) (payeeVerification T)
      ["PREFLIGHT_PAYEE_DESTINATION_VERIFICATION_REQUIRED"] := by
  apply Asks.plain
  · intro intent e e' h
    unfold payeeVerification
    simp (disch := decide) only [newPayee_beside T intent h, destinationChanged_beside T intent h,
      evidenceValue_beside intent h]
  · intro intent e r h
    unfold payeeVerification at h
    split at h
    · cases h
    · split at h
      · cases h
      · split at h <;> cases h
        simp

theorem highRiskClinicalAction_asks :
    Asks T (highRiskClinicalAction T) (highRiskClinicalAsk T) ["PREFLIGHT_CLINICAL_REVIEW_REQUIRED"] where
  gated := rfl
  beside := by
    intro intent e e' h
    unfold highRiskClinicalAsk
    simp (disch := decide) only [stringValue_beside T intent h]
  code := by
    intro intent e r h
    unfold highRiskClinicalAsk at h
    split at h
    · cases h
    · simp only [Fallible.bind_eq_ok] at h
      obtain ⟨risk, -, h⟩ := h
      split at h <;> cases h
      simp

end

end Actenon
