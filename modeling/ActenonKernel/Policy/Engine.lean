import ActenonKernel.Core.Equal
import ActenonKernel.Models.Runtime
import ActenonKernel.Proof.Minting

/-!
# The policy engine (`actenon/policy/engine.py`)

Hard rules can only stop an action; the workflow rules of the tenant have to allow it.  A rule
returns an evaluation, nothing, or raises.

* `AdmissionContext`         the context as the policy engine and the minter read it;
* `IntentChronologyHardRule`, `IntentTtlHardRule`, `CapabilityScopeHardRule`,
  `TenantWorkflowRule`       the rules of the module;
* `PolicyEngine.evaluate`    the decision;
* `Prevails`                 what the workflow rules say together: the most severe outcome;
* `evaluate_returns`, `deny_of_hard_rule`, `outcome_allow_iff`    when the engine decides, what a hard
  rule's denial does and when it allows;
* `policy_combination`       when the engine allows, and what another order or a further rule changes.
-/

set_option linter.unusedSectionVars false

namespace Actenon

/-- a context with what the policy engine and the minter read -/
structure AdmissionContext extends DynamicContextInput where
  facts : Dict := []
  requiredEvidenceTypes : List String := []
  approverTypes : List String := []
  maxTtlSeconds : Option Int := some 900

/-- `rule.evaluate` -/
abbrev PolicyRule := ActionIntent → AdmissionContext → Except PyError (Option RuleEvaluation)

/-! ## rules -/

structure IntentChronologyHardRule where
  ruleId : String := "hard.intent.chronology"

def IntentChronologyHardRule.evaluate (self : IntentChronologyHardRule) : PolicyRule := fun intent context =>
  if context.now < intent.issuedAt then
    .ok (some { ruleId := self.ruleId, outcome := .deny, reasonCode := "INTENT_ISSUED_IN_FUTURE"
                summary := "The action intent was issued in the future." })
  else if intent.expiresAt ≤ context.now then
    .ok (some { ruleId := self.ruleId, outcome := .deny, reasonCode := "INTENT_EXPIRED"
                summary := "The action intent has expired." })
  else .ok none

/-- the microseconds of `timedelta(seconds=n)`; its days are bounded -/
def timedeltaSeconds (n : Int) : Except PyError Int :=
  let days := n / 86400
  if days < -2147483648 ∨ 2147483647 < days then
    .error ⟨.overflowError, "Python int too large to convert to C int"⟩
  else if days < -999999999 ∨ 999999999 < days then
    .error ⟨.overflowError, s!"days={days}; must have magnitude <= 999999999"⟩
  else .ok (n * 1000000)

/-- a positive number of seconds is less than a billion days, or too large -/
theorem timedeltaSeconds_cases {n : Int} (hn : 0 < n) :
    n < 86400000000000 ∧ timedeltaSeconds n = .ok (n * 1000000) ∨
      86400000000000 ≤ n ∧ ∃ message, timedeltaSeconds n = .error ⟨.overflowError, message⟩ := by
  unfold timedeltaSeconds
  dsimp only
  split
  · exact Or.inr ⟨by omega, _, rfl⟩
  · split
    · exact Or.inr ⟨by omega, _, rfl⟩
    · exact Or.inl ⟨by omega, rfl⟩

structure IntentTtlHardRule where
  defaultMaxTtlSeconds : Int := 900
  ruleId : String := "hard.intent.ttl"

def IntentTtlHardRule.evaluate (self : IntentTtlHardRule) : PolicyRule := fun intent context =>
  let maxTtlSeconds := context.maxTtlSeconds.getD self.defaultMaxTtlSeconds
  if maxTtlSeconds ≤ 0 then
    .ok (some { ruleId := self.ruleId, outcome := .deny, reasonCode := "INVALID_MAX_TTL"
                summary := "The runtime max TTL configuration is invalid." })
  else do
    let limit ← timedeltaSeconds maxTtlSeconds
    if limit < (intent.expiresAt.us : Int) - intent.issuedAt.us then
      return some { ruleId := self.ruleId, outcome := .deny, reasonCode := "INTENT_TTL_EXCEEDED"
                    summary := "The action intent exceeds the configured maximum lifetime."
                    details := members [("max_ttl_seconds", .int maxTtlSeconds)] }
    return none

structure CapabilityScopeHardRule where
  ruleId : String := "hard.scope.capability"

def CapabilityScopeHardRule.evaluate (self : CapabilityScopeHardRule) : PolicyRule := fun intent context =>
  if context.scopeCapabilities ≠ [] ∧ intent.action.capability ∉ context.scopeCapabilities then
    .ok (some { ruleId := self.ruleId, outcome := .deny, reasonCode := "CAPABILITY_OUTSIDE_SCOPE"
                summary := "The requested capability is outside the protected endpoint scope."
                details := members [("allowed_capabilities", strings context.scopeCapabilities)] })
  else .ok none

structure TenantWorkflowRule where
  ruleId : String
  outcome : String
  summary : String
  reasonCode : String
  tenantIds : List String := []
  capabilities : List String := []
  requiredFactValues : List (String × Json) := []
  requiredEvidenceTypes : List String := []
  approverTypes : List String := []

/-- the rule is about the tenant, the capability and the facts -/
def TenantWorkflowRule.applies (self : TenantWorkflowRule) (intent : ActionIntent)
    (context : AdmissionContext) : Bool :=
  (self.tenantIds.isEmpty || intent.tenant.tenantId ∈ self.tenantIds)
    && (self.capabilities.isEmpty || intent.action.capability ∈ self.capabilities)
    && self.requiredFactValues.all fun p => (Dict.get context.facts p.1).pyEq p.2

def TenantWorkflowRule.evaluate (self : TenantWorkflowRule) : PolicyRule := fun intent context =>
  if !self.applies intent context then .ok none
  else
    let evidenceTypes := intent.evidenceRefs.map EvidenceRef.type
    let missingEvidence := sortedSet (self.requiredEvidenceTypes.filter (· ∉ evidenceTypes))
    let evaluation (outcome : PolicyOutcome) : RuleEvaluation :=
      { ruleId := self.ruleId, outcome := outcome, reasonCode := self.reasonCode, summary := self.summary }
    if self.outcome = "needs-evidence" ∧ missingEvidence ≠ [] then
      .ok (some { evaluation .needsEvidence with requiredEvidence := missingEvidence })
    else if self.outcome = "approval-required" then
      .ok (some { evaluation .approvalRequired with
        approverTypes := if self.approverTypes.isEmpty then context.approverTypes else self.approverTypes })
    else if self.outcome = "deny" then .ok (some (evaluation .deny))
    else if self.outcome = "allow" then .ok (some (evaluation .allow))
    else .ok none

/-! ## the engines -/

/-- the evaluations of the rules that return one, in their order -/
def evaluateRules (intent : ActionIntent) (context : AdmissionContext) :
    List PolicyRule → Except PyError (List RuleEvaluation)
  | [] => .ok []
  | rule :: rules => do
    let evaluation ← rule intent context
    let evaluations ← evaluateRules intent context rules
    return evaluation.toList ++ evaluations

structure HardRuleEngine where
  rules : List PolicyRule

def HardRuleEngine.evaluate (self : HardRuleEngine) (intent : ActionIntent) (context : AdmissionContext) :
    Except PyError (List RuleEvaluation) := evaluateRules intent context self.rules

structure TenantWorkflowRuleLayer where
  tenantRules : List (String × List PolicyRule) := []
  defaultRules : List PolicyRule := []

/-- `tenant_rules.get(tenant_id, ())` -/
def TenantWorkflowRuleLayer.rulesOf (self : TenantWorkflowRuleLayer) (tenantId : String) : List PolicyRule :=
  (self.tenantRules.lookup tenantId).getD []

/-- the default rules and those of the tenant -/
def TenantWorkflowRuleLayer.rules (self : TenantWorkflowRuleLayer) (intent : ActionIntent) : List PolicyRule :=
  self.defaultRules ++ self.rulesOf intent.tenant.tenantId

def TenantWorkflowRuleLayer.evaluate (self : TenantWorkflowRuleLayer) (intent : ActionIntent)
    (context : AdmissionContext) : Except PyError (List RuleEvaluation) :=
  evaluateRules intent context (self.rules intent)

def workflowDefaultDeny : RuleEvaluation where
  ruleId := "workflow.default_deny"
  outcome := .deny
  reasonCode := "NO_WORKFLOW_RULE_MATCH"
  summary := "No tenant workflow rule matched the action intent."

def workflowNoAllow : RuleEvaluation where
  ruleId := "workflow.no_allow"
  outcome := .deny
  reasonCode := "WORKFLOW_DENIED"
  summary := "The workflow layer did not produce an allow decision."

/-- the evaluations with an outcome -/
def withOutcome (outcome : PolicyOutcome) (evaluations : List RuleEvaluation) : List RuleEvaluation :=
  evaluations.filter (·.outcome = outcome)

/-- the decision once no hard rule denies: `evaluations` are all of them, `workflow` those of the layer -/
def workflowDecision (evaluations workflow : List RuleEvaluation) : PolicyDecision :=
  if workflow.isEmpty then
    { outcome := .deny, summary := workflowDefaultDeny.summary
      ruleEvaluations := evaluations ++ [workflowDefaultDeny], reasonCodes := [workflowDefaultDeny.reasonCode] }
  else
    match withOutcome .deny workflow with
    | first :: rest =>
      { outcome := .deny, summary := first.summary, ruleEvaluations := evaluations
        reasonCodes := (first :: rest).map RuleEvaluation.reasonCode }
    | [] =>
      match withOutcome .needsEvidence workflow with
      | first :: rest =>
        { outcome := .needsEvidence, summary := first.summary, ruleEvaluations := evaluations
          reasonCodes := (first :: rest).map RuleEvaluation.reasonCode
          requiredEvidence := sortedSet ((first :: rest).flatMap RuleEvaluation.requiredEvidence) }
      | [] =>
        match withOutcome .approvalRequired workflow with
        | first :: rest =>
          { outcome := .approvalRequired, summary := first.summary, ruleEvaluations := evaluations
            reasonCodes := (first :: rest).map RuleEvaluation.reasonCode
            approverTypes := sortedSet ((first :: rest).flatMap RuleEvaluation.approverTypes) }
        | [] =>
          match withOutcome .allow workflow with
          | first :: rest =>
            { outcome := .allow, summary := first.summary, ruleEvaluations := evaluations
              reasonCodes := (first :: rest).map RuleEvaluation.reasonCode }
          | [] =>
            { outcome := .deny, summary := workflowNoAllow.summary
              ruleEvaluations := evaluations ++ [workflowNoAllow], reasonCodes := [workflowNoAllow.reasonCode] }

/-- the decision when hard rules deny -/
def hardDenial (evaluations : List RuleEvaluation) (first : RuleEvaluation) (rest : List RuleEvaluation) :
    PolicyDecision where
  outcome := .deny
  summary := first.summary
  ruleEvaluations := evaluations
  reasonCodes := (first :: rest).map RuleEvaluation.reasonCode

structure PolicyEngine where
  hardRules : HardRuleEngine
  tenantWorkflowRules : TenantWorkflowRuleLayer

def PolicyEngine.evaluate (self : PolicyEngine) (intent : ActionIntent) (context : AdmissionContext) :
    Except PyError PolicyDecision := do
  let evaluations ← self.hardRules.evaluate intent context
  match withOutcome .deny evaluations with
  | first :: rest => return hardDenial evaluations first rest
  | [] =>
    let workflow ← self.tenantWorkflowRules.evaluate intent context
    return workflowDecision (evaluations ++ workflow) workflow

/-! ## what the rules returned -/

section
variable {intent : ActionIntent} {context : AdmissionContext} {rules rules' : List PolicyRule}
  {evaluations : List RuleEvaluation}

theorem mem_evaluateRules (h : evaluateRules intent context rules = .ok evaluations) (e : RuleEvaluation) :
    e ∈ evaluations ↔ ∃ rule ∈ rules, rule intent context = .ok (some e) := by
  induction rules generalizing evaluations with
  | nil =>
    cases h
    simp
  | cons rule rules ih =>
    simp only [evaluateRules, Fallible.bind_eq_ok, Fallible.pure_eq_ok] at h
    obtain ⟨r, hr, rest, hrest, rfl⟩ := h
    rw [List.mem_append, ih hrest, List.exists_mem_cons_iff, hr, Option.mem_toList]
    refine or_congr ?_ Iff.rfl
    exact ⟨fun h => congrArg Except.ok h, fun h => Except.ok.inj h⟩

/-- the evaluations are there when every rule returns -/
theorem evaluateRules_returns : (∃ evaluations, evaluateRules intent context rules = .ok evaluations) ↔
    ∀ rule ∈ rules, ∃ r, rule intent context = .ok r := by
  induction rules with
  | nil => simp [evaluateRules]
  | cons rule rules ih =>
    simp only [evaluateRules, Fallible.bind_eq_ok, Fallible.pure_eq_ok, List.forall_mem_cons, ← ih]
    constructor
    · rintro ⟨_, r, hr, rest, hrest, rfl⟩
      exact ⟨⟨r, hr⟩, rest, hrest⟩
    · rintro ⟨⟨r, hr⟩, rest, hrest⟩
      exact ⟨_, r, hr, rest, hrest, rfl⟩

theorem evaluateRules_perm (hp : rules.Perm rules')
    (h : evaluateRules intent context rules = .ok evaluations) :
    ∃ evaluations', evaluateRules intent context rules' = .ok evaluations' ∧ evaluations.Perm evaluations' := by
  induction hp generalizing evaluations with
  | nil => exact ⟨evaluations, h, List.Perm.refl _⟩
  | cons rule _ ih =>
    simp only [evaluateRules, Fallible.bind_eq_ok, Fallible.pure_eq_ok] at h ⊢
    obtain ⟨r, hr, rest, hrest, rfl⟩ := h
    obtain ⟨rest', hrest', hp⟩ := ih hrest
    exact ⟨_, ⟨r, hr, rest', hrest', rfl⟩, hp.append_left _⟩
  | swap first second rules =>
    simp only [evaluateRules, Fallible.bind_eq_ok, Fallible.pure_eq_ok] at h ⊢
    obtain ⟨r, hr, _, ⟨r', hr', rest, hrest, rfl⟩, rfl⟩ := h
    refine ⟨_, ⟨r', hr', _, ⟨r, hr, rest, hrest, rfl⟩, rfl⟩, ?_⟩
    rw [← List.append_assoc, ← List.append_assoc]
    exact List.Perm.append_right _ List.perm_append_comm
  | trans _ _ ih ih' =>
    obtain ⟨mid, hmid, hp⟩ := ih h
    obtain ⟨last, hlast, hp'⟩ := ih' hmid
    exact ⟨last, hlast, hp.trans hp'⟩

end

/-! ## the most severe outcome -/

/-- the precedence of the workflow outcomes -/
def PolicyOutcome.severity : PolicyOutcome → Nat
  | .allow => 0
  | .approvalRequired => 1
  | .needsEvidence => 2
  | .deny => 3

theorem PolicyOutcome.severity_injective {a b : PolicyOutcome} (h : a.severity = b.severity) : a = b := by
  cases a <;> cases b <;> first | rfl | cases h

/-- one of the evaluations has the outcome and none has a more severe one -/
structure Prevails (workflow : List RuleEvaluation) (outcome : PolicyOutcome) : Prop where
  returned : ∃ e ∈ workflow, e.outcome = outcome
  most : ∀ e ∈ workflow, e.outcome.severity ≤ outcome.severity

section
variable {workflow workflow' evaluations evaluations' : List RuleEvaluation} {outcome outcome' : PolicyOutcome}

theorem Prevails.perm (h : Prevails workflow outcome) (hp : workflow.Perm workflow') :
    Prevails workflow' outcome := by
  obtain ⟨e, he, ho⟩ := h.returned
  exact ⟨⟨e, hp.mem_iff.mp he, ho⟩, fun e he => h.most e (hp.mem_iff.mpr he)⟩

theorem Prevails.unique (h : Prevails workflow outcome) (h' : Prevails workflow outcome') : outcome = outcome' := by
  obtain ⟨e, he, ho⟩ := h.returned
  obtain ⟨e', he', ho'⟩ := h'.returned
  refine PolicyOutcome.severity_injective (Nat.le_antisymm ?_ ?_)
  · rw [← ho]
    exact h'.most e he
  · rw [← ho']
    exact h.most e' he'

theorem prevails_allow : Prevails workflow .allow ↔ workflow ≠ [] ∧ ∀ e ∈ workflow, e.outcome = .allow := by
  constructor
  · intro h
    obtain ⟨e, he, -⟩ := h.returned
    refine ⟨List.ne_nil_of_mem he, fun e he => ?_⟩
    exact PolicyOutcome.severity_injective (Nat.le_zero.mp (h.most e he))
  · intro ⟨hne, hall⟩
    obtain ⟨e, he⟩ := List.exists_mem_of_ne_nil _ hne
    exact ⟨⟨e, he, hall e he⟩, fun e he => by rw [hall e he]⟩

theorem withOutcome_nil : withOutcome outcome workflow = [] ↔ ∀ e ∈ workflow, e.outcome ≠ outcome := by
  simp [withOutcome, List.filter_eq_nil_iff]

theorem withOutcome_cons {first : RuleEvaluation} {rest : List RuleEvaluation}
    (h : withOutcome outcome workflow = first :: rest) : ∃ e ∈ workflow, e.outcome = outcome := by
  have hmem : first ∈ withOutcome outcome workflow := by
    rw [h]
    exact List.mem_cons_self
  obtain ⟨hfirst, ho⟩ := List.mem_filter.mp hmem
  exact ⟨first, hfirst, of_decide_eq_true ho⟩

/-- an outcome that none of the more severe ones takes away -/
theorem prevails_of_absent {first : RuleEvaluation} {rest : List RuleEvaluation}
    (h : withOutcome outcome workflow = first :: rest)
    (habsent : ∀ o : PolicyOutcome, outcome.severity < o.severity → withOutcome o workflow = []) :
    Prevails workflow outcome := by
  refine ⟨withOutcome_cons h, fun e he => Nat.le_of_not_lt fun hlt => ?_⟩
  exact withOutcome_nil.mp (habsent e.outcome hlt) e he rfl

/-- **The decision of the workflow layer has the most severe outcome, with the reason codes of the
rules that returned it.** -/
theorem workflowDecision_prevails (hne : workflow ≠ []) :
    Prevails workflow (workflowDecision evaluations workflow).outcome ∧
      (workflowDecision evaluations workflow).reasonCodes =
        (withOutcome (workflowDecision evaluations workflow).outcome workflow).map RuleEvaluation.reasonCode := by
  unfold workflowDecision
  rw [if_neg (by simpa using hne)]
  split
  · rename_i first rest hdeny
    have hp : Prevails workflow .deny := prevails_of_absent hdeny fun o ho => by
      cases o <;> exact absurd ho (by decide)
    exact ⟨hp, by rw [hdeny]⟩
  rename_i hdeny
  split
  · rename_i first rest hneeds
    have hp : Prevails workflow .needsEvidence := prevails_of_absent hneeds fun o ho => by
      cases o <;> first | exact hdeny | exact absurd ho (by decide)
    exact ⟨hp, by rw [hneeds]⟩
  rename_i hneeds
  split
  · rename_i first rest happroval
    have hp : Prevails workflow .approvalRequired := prevails_of_absent happroval fun o ho => by
      cases o <;> first | exact hdeny | exact hneeds | exact absurd ho (by decide)
    exact ⟨hp, by rw [happroval]⟩
  rename_i happroval
  split
  · rename_i first rest hallow
    have hp : Prevails workflow .allow := prevails_of_absent hallow fun o ho => by
      cases o <;> first | exact hdeny | exact hneeds | exact happroval | exact absurd ho (by decide)
    exact ⟨hp, by rw [hallow]⟩
  · -- an evaluation has one of the four outcomes
    rename_i hallow
    obtain ⟨e, he⟩ := List.exists_mem_of_ne_nil _ hne
    exfalso
    cases ho : e.outcome with
    | allow => exact withOutcome_nil.mp hallow e he ho
    | deny => exact withOutcome_nil.mp hdeny e he ho
    | approvalRequired => exact withOutcome_nil.mp happroval e he ho
    | needsEvidence => exact withOutcome_nil.mp hneeds e he ho

theorem workflowDecision_allow : (workflowDecision evaluations workflow).outcome = .allow ↔
    workflow ≠ [] ∧ ∀ e ∈ workflow, e.outcome = .allow := by
  by_cases hne : workflow = []
  · subst hne
    simp [workflowDecision]
  · rw [← prevails_allow]
    obtain ⟨hp, -⟩ := @workflowDecision_prevails workflow evaluations hne
    constructor
    · intro h
      rwa [h] at hp
    · exact fun h => hp.unique h

theorem workflowDecision_perm (hp : workflow.Perm workflow') :
    (workflowDecision evaluations workflow).outcome = (workflowDecision evaluations' workflow').outcome ∧
      (workflowDecision evaluations workflow).reasonCodes.Perm
        (workflowDecision evaluations' workflow').reasonCodes := by
  by_cases hne : workflow = []
  · subst hne
    rw [← hp.nil_eq]
    exact ⟨rfl, List.Perm.refl _⟩
  · have hne' : workflow' ≠ [] := fun h => hne (h ▸ hp).eq_nil
    obtain ⟨h1, h2⟩ := @workflowDecision_prevails workflow evaluations hne
    obtain ⟨h3, h4⟩ := @workflowDecision_prevails workflow' evaluations' hne'
    have ho := (h1.perm hp).unique h3
    refine ⟨ho, ?_⟩
    rw [h2, h4, ho]
    exact (hp.filter _).map _

end

/-! ## the decision -/

section
variable {E E' : PolicyEngine} {intent : ActionIntent} {context : AdmissionContext} {d : PolicyDecision}

/-- a denial by hard rules, or the decision of the workflow layer -/
theorem policyEvaluate_ok : E.evaluate intent context = .ok d ↔
    ∃ hard, evaluateRules intent context E.hardRules.rules = .ok hard ∧
      ((∃ first rest, withOutcome .deny hard = first :: rest ∧ d = hardDenial hard first rest) ∨
        (withOutcome .deny hard = [] ∧
          ∃ workflow, evaluateRules intent context (E.tenantWorkflowRules.rules intent) = .ok workflow ∧
            d = workflowDecision (hard ++ workflow) workflow)) := by
  unfold PolicyEngine.evaluate HardRuleEngine.evaluate TenantWorkflowRuleLayer.evaluate
  rw [Fallible.bind_eq_ok]
  refine exists_congr fun hard => and_congr_right fun _ => ?_
  cases hdeny : withOutcome .deny hard with
  | nil =>
    simp only [Fallible.bind_eq_ok, Fallible.pure_eq_ok, reduceCtorEq, false_and, exists_false, false_or, true_and]
    exact exists_congr fun workflow => and_congr_right fun _ => eq_comm
  | cons first rest =>
    simp only [Fallible.pure_eq_ok, reduceCtorEq, false_and, or_false, List.cons.injEq]
    constructor
    · rintro rfl
      exact ⟨first, rest, ⟨rfl, rfl⟩, rfl⟩
    · rintro ⟨_, _, ⟨rfl, rfl⟩, rfl⟩
      rfl

/-- a decision to allow -/
def EngineAllows (E : PolicyEngine) (intent : ActionIntent) (context : AdmissionContext) : Prop :=
  ∃ d, E.evaluate intent context = .ok d ∧ d.outcome = .allow

theorem engineAllows_iff : EngineAllows E intent context ↔
    ∃ hard workflow, evaluateRules intent context E.hardRules.rules = .ok hard ∧ withOutcome .deny hard = [] ∧
      evaluateRules intent context (E.tenantWorkflowRules.rules intent) = .ok workflow ∧ workflow ≠ [] ∧
        ∀ e ∈ workflow, e.outcome = .allow := by
  unfold EngineAllows
  constructor
  · rintro ⟨d, hd, ho⟩
    obtain ⟨hard, hhard, ⟨first, rest, hdeny, rfl⟩ | ⟨hdeny, workflow, hw, rfl⟩⟩ := policyEvaluate_ok.mp hd
    · cases ho
    · exact ⟨hard, workflow, hhard, hdeny, hw, workflowDecision_allow.mp ho⟩
  · rintro ⟨hard, workflow, hhard, hdeny, hw, hall⟩
    exact ⟨_, policyEvaluate_ok.mpr ⟨hard, hhard, Or.inr ⟨hdeny, workflow, hw, rfl⟩⟩,
      workflowDecision_allow.mpr hall⟩

/-- the same outcome with the same reason codes in some order, or an exception on both sides -/
def SameVerdict : Except PyError PolicyDecision → Except PyError PolicyDecision → Prop
  | .ok d, .ok d' => d.outcome = d'.outcome ∧ d.reasonCodes.Perm d'.reasonCodes
  | .error _, .error _ => True
  | _, _ => False

/-- the lists of the other engine are those of this one in some order -/
structure PolicyEngine.Permuted (E E' : PolicyEngine) : Prop where
  hard : E.hardRules.rules.Perm E'.hardRules.rules
  dflt : E.tenantWorkflowRules.defaultRules.Perm E'.tenantWorkflowRules.defaultRules
  tenant : ∀ tenantId, (E.tenantWorkflowRules.rulesOf tenantId).Perm (E'.tenantWorkflowRules.rulesOf tenantId)

theorem PolicyEngine.Permuted.symm (h : E.Permuted E') : E'.Permuted E :=
  ⟨h.hard.symm, h.dflt.symm, fun tenantId => (h.tenant tenantId).symm⟩

theorem PolicyEngine.Permuted.rules (h : E.Permuted E') :
    (E.tenantWorkflowRules.rules intent).Perm (E'.tenantWorkflowRules.rules intent) :=
  h.dflt.append (h.tenant _)

/-- an engine that decides does so in another order of its rules, with the same verdict -/
theorem evaluate_permuted (h : E.Permuted E') (hd : E.evaluate intent context = .ok d) :
    ∃ d', E'.evaluate intent context = .ok d' ∧ d.outcome = d'.outcome ∧ d.reasonCodes.Perm d'.reasonCodes := by
  obtain ⟨hard, hhard, hcase⟩ := policyEvaluate_ok.mp hd
  obtain ⟨hard', hhard', hperm⟩ := evaluateRules_perm h.hard hhard
  have hdenials : (withOutcome .deny hard).Perm (withOutcome .deny hard') := hperm.filter _
  obtain ⟨first, rest, hdeny, rfl⟩ | ⟨hdeny, workflow, hw, rfl⟩ := hcase
  · rw [hdeny] at hdenials
    cases hdeny' : withOutcome .deny hard' with
    | nil =>
      rw [hdeny'] at hdenials
      cases hdenials.eq_nil
    | cons first' rest' =>
      rw [hdeny'] at hdenials
      exact ⟨_, policyEvaluate_ok.mpr ⟨hard', hhard', Or.inl ⟨first', rest', hdeny', rfl⟩⟩, rfl, hdenials.map _⟩
  · obtain ⟨workflow', hw', hperm'⟩ := evaluateRules_perm (@PolicyEngine.Permuted.rules _ _ intent h) hw
    rw [hdeny] at hdenials
    exact ⟨_, policyEvaluate_ok.mpr ⟨hard', hhard', Or.inr ⟨hdenials.nil_eq.symm, workflow', hw', rfl⟩⟩,
      workflowDecision_perm hperm'⟩

theorem sameVerdict_permuted (h : E.Permuted E') :
    SameVerdict (E.evaluate intent context) (E'.evaluate intent context) := by
  cases hd : E.evaluate intent context with
  | ok d =>
    obtain ⟨d', hd', hsame⟩ := evaluate_permuted h hd
    rw [hd']
    exact hsame
  | error e =>
    cases hd' : E'.evaluate intent context with
    | ok d' =>
      obtain ⟨d, hd'', -⟩ := evaluate_permuted h.symm hd'
      rw [hd] at hd''
      cases hd''
    | error e' => trivial

/-- the other list has one rule more, somewhere -/
def Inserted (rule : PolicyRule) (rules rules' : List PolicyRule) : Prop :=
  ∃ before after, rules = before ++ after ∧ rules' = before ++ rule :: after

/-- the other engine has one rule more, in one of its lists -/
inductive PolicyEngine.Adds (rule : PolicyRule) (E E' : PolicyEngine) : Prop where
  | hard (rules : Inserted rule E.hardRules.rules E'.hardRules.rules)
      (workflow : E'.tenantWorkflowRules = E.tenantWorkflowRules)
  | dflt (hardRules : E'.hardRules = E.hardRules)
      (rules : Inserted rule E.tenantWorkflowRules.defaultRules E'.tenantWorkflowRules.defaultRules)
      (tenant : E'.tenantWorkflowRules.tenantRules = E.tenantWorkflowRules.tenantRules)
  | tenant (tenantId : String) (hardRules : E'.hardRules = E.hardRules)
      (dflt : E'.tenantWorkflowRules.defaultRules = E.tenantWorkflowRules.defaultRules)
      (rules : Inserted rule (E.tenantWorkflowRules.rulesOf tenantId) (E'.tenantWorkflowRules.rulesOf tenantId))
      (others : ∀ other, other ≠ tenantId →
        E'.tenantWorkflowRules.rulesOf other = E.tenantWorkflowRules.rulesOf other)

theorem Inserted.append {rule : PolicyRule} {rules rules' : List PolicyRule} (h : Inserted rule rules rules')
    (before after : List PolicyRule) : Inserted rule (before ++ rules ++ after) (before ++ rules' ++ after) := by
  obtain ⟨front, back, rfl, rfl⟩ := h
  exact ⟨before ++ front, back ++ after, by simp, by simp⟩

/-- the workflow rules for the intent are the same, or one more -/
theorem PolicyEngine.Adds.cases {rule : PolicyRule} (h : E.Adds rule E') (intent : ActionIntent) :
    (E.hardRules.rules = E'.hardRules.rules ∨ Inserted rule E.hardRules.rules E'.hardRules.rules) ∧
      (E.tenantWorkflowRules.rules intent = E'.tenantWorkflowRules.rules intent ∨
        Inserted rule (E.tenantWorkflowRules.rules intent) (E'.tenantWorkflowRules.rules intent)) := by
  unfold TenantWorkflowRuleLayer.rules
  cases h with
  | hard rules workflow => exact ⟨Or.inr rules, Or.inl (by rw [workflow])⟩
  | dflt hardRules rules tenant =>
    refine ⟨Or.inl (by rw [hardRules]), Or.inr ?_⟩
    have hsame : E'.tenantWorkflowRules.rulesOf intent.tenant.tenantId
        = E.tenantWorkflowRules.rulesOf intent.tenant.tenantId := by
      unfold TenantWorkflowRuleLayer.rulesOf
      rw [tenant]
    rw [hsame]
    simpa using rules.append [] (E.tenantWorkflowRules.rulesOf intent.tenant.tenantId)
  | tenant tenantId hardRules dflt rules others =>
    refine ⟨Or.inl (by rw [hardRules]), ?_⟩
    by_cases hid : intent.tenant.tenantId = tenantId
    · rw [hid, dflt]
      exact Or.inr (by simpa using rules.append E.tenantWorkflowRules.defaultRules [])
    · rw [others _ hid, dflt]
      exact Or.inl rfl

/-- the evaluations without the further rule are there, and fewer -/
theorem evaluateRules_inserted {rule : PolicyRule} {rules rules' : List PolicyRule}
    {evaluations' : List RuleEvaluation} (h : rules = rules' ∨ Inserted rule rules rules')
    (h' : evaluateRules intent context rules' = .ok evaluations') :
    ∃ evaluations, evaluateRules intent context rules = .ok evaluations ∧ (∀ e ∈ evaluations, e ∈ evaluations') ∧
      ∀ e ∈ evaluations', e ∈ evaluations ∨ rule intent context = .ok (some e) := by
  have hsub : ∀ r ∈ rules, r ∈ rules' := by
    rcases h with rfl | ⟨before, after, rfl, rfl⟩
    · exact fun r hr => hr
    · intro r hr
      rcases List.mem_append.mp hr with hr | hr
      · exact List.mem_append_left _ hr
      · exact List.mem_append_right _ (List.mem_cons_of_mem _ hr)
  have hsup : ∀ r ∈ rules', r ∈ rules ∨ r = rule := by
    rcases h with rfl | ⟨before, after, rfl, rfl⟩
    · exact fun r hr => Or.inl hr
    · intro r hr
      rcases List.mem_append.mp hr with hr | hr
      · exact Or.inl (List.mem_append_left _ hr)
      · rcases List.mem_cons.mp hr with rfl | hr
        · exact Or.inr rfl
        · exact Or.inl (List.mem_append_right _ hr)
  obtain ⟨evaluations, he⟩ := evaluateRules_returns.mpr fun r hr => evaluateRules_returns.mp ⟨_, h'⟩ r (hsub r hr)
  refine ⟨evaluations, he, fun e hmem => ?_, fun e hmem => ?_⟩
  · obtain ⟨r, hr, heval⟩ := (mem_evaluateRules he e).mp hmem
    exact (mem_evaluateRules h' e).mpr ⟨r, hsub r hr, heval⟩
  · obtain ⟨r, hr, heval⟩ := (mem_evaluateRules h' e).mp hmem
    rcases hsup r hr with hr | rfl
    · exact Or.inl ((mem_evaluateRules he e).mpr ⟨r, hr, heval⟩)
    · exact Or.inr heval

/-- a further rule that does not allow makes no engine allow -/
theorem allows_of_added {rule : PolicyRule} (h : E.Adds rule E')
    (hrule : ∀ e, rule intent context = .ok (some e) → e.outcome ≠ .allow) (hallow : EngineAllows E' intent context) :
    EngineAllows E intent context := by
  obtain ⟨hard', workflow', hhard', hdeny', hw', hne', hall'⟩ := engineAllows_iff.mp hallow
  obtain ⟨hhardRules, hworkflowRules⟩ := h.cases intent
  obtain ⟨hard, hhard, hhardSub, -⟩ := evaluateRules_inserted hhardRules hhard'
  obtain ⟨workflow, hw, hwSub, hwSup⟩ := evaluateRules_inserted hworkflowRules hw'
  refine engineAllows_iff.mpr ⟨hard, workflow, hhard, ?_, hw, ?_, fun e he => hall' e (hwSub e he)⟩
  · rw [withOutcome_nil] at hdeny' ⊢
    exact fun e he => hdeny' e (hhardSub e he)
  · -- one of the evaluations that allow is not from the further rule
    obtain ⟨e, he⟩ := List.exists_mem_of_ne_nil _ hne'
    rcases hwSup e he with hmem | hevaluated
    · exact List.ne_nil_of_mem hmem
    · exact absurd (hall' e he) (hrule e hevaluated)

/-- what a rule of the list returned -/
def RuleReturned (rules : List PolicyRule) (intent : ActionIntent) (context : AdmissionContext)
    (e : RuleEvaluation) : Prop := ∃ rule ∈ rules, rule intent context = .ok (some e)

/-- the engine decides when the hard rules return, and those of the workflow where no hard rule denies -/
theorem evaluate_returns : (∃ d, E.evaluate intent context = .ok d) ↔
    (∀ rule ∈ E.hardRules.rules, ∃ r, rule intent context = .ok r) ∧
      ((∀ e, RuleReturned E.hardRules.rules intent context e → e.outcome ≠ .deny) →
        ∀ rule ∈ E.tenantWorkflowRules.rules intent, ∃ r, rule intent context = .ok r) := by
  rw [← evaluateRules_returns, ← evaluateRules_returns]
  constructor
  · rintro ⟨d, hd⟩
    obtain ⟨hard, hhard, ⟨first, rest, hdeny, -⟩ | ⟨-, workflow, hw, -⟩⟩ := policyEvaluate_ok.mp hd
    · obtain ⟨e, he, ho⟩ := withOutcome_cons hdeny
      exact ⟨⟨hard, hhard⟩, fun h => absurd ho (h e ((mem_evaluateRules hhard e).mp he))⟩
    · exact ⟨⟨hard, hhard⟩, fun _ => ⟨workflow, hw⟩⟩
  · rintro ⟨⟨hard, hhard⟩, hworkflow⟩
    cases hdeny : withOutcome .deny hard with
    | cons first rest => exact ⟨_, policyEvaluate_ok.mpr ⟨hard, hhard, Or.inl ⟨first, rest, hdeny, rfl⟩⟩⟩
    | nil =>
      obtain ⟨workflow, hw⟩ := hworkflow fun e he =>
        withOutcome_nil.mp hdeny e ((mem_evaluateRules hhard e).mpr he)
      exact ⟨_, policyEvaluate_ok.mpr ⟨hard, hhard, Or.inr ⟨hdeny, workflow, hw, rfl⟩⟩⟩

/-- what a hard rule denies, the engine denies -/
theorem deny_of_hard_rule {rule : PolicyRule} (hrule : rule ∈ E.hardRules.rules) {e : RuleEvaluation}
    (he : rule intent context = .ok (some e)) (hout : e.outcome = .deny)
    (hd : E.evaluate intent context = .ok d) : d.outcome = .deny := by
  obtain ⟨hard, hhard, ⟨first, rest, -, rfl⟩ | ⟨hdeny, -⟩⟩ := policyEvaluate_ok.mp hd
  · rfl
  · exact absurd hout (withOutcome_nil.mp hdeny e ((mem_evaluateRules hhard e).mpr ⟨rule, hrule, he⟩))

/-- no hard rule of the engine denies -/
def PolicyEngine.NoHardDenial (E : PolicyEngine) (intent : ActionIntent) (context : AdmissionContext) : Prop :=
  ∀ e, RuleReturned E.hardRules.rules intent context e → e.outcome ≠ .deny

/-- no hard rule denies, and the workflow rules that speak all allow -/
structure PolicyEngine.RulesAllow (E : PolicyEngine) (intent : ActionIntent) (context : AdmissionContext) : Prop where
  hard : E.NoHardDenial intent context
  some : ∃ e, RuleReturned (E.tenantWorkflowRules.rules intent) intent context e
  workflow : ∀ e, RuleReturned (E.tenantWorkflowRules.rules intent) intent context e → e.outcome = .allow

/-- an engine that decides allows what its rules allow -/
theorem outcome_allow_iff (hd : E.evaluate intent context = .ok d) :
    d.outcome = .allow ↔ E.RulesAllow intent context := by
  obtain ⟨hard, hhard, ⟨first, rest, hdeny, rfl⟩ | ⟨hdeny, workflow, hw, rfl⟩⟩ := policyEvaluate_ok.mp hd
  · obtain ⟨e, he, ho⟩ := withOutcome_cons hdeny
    refine iff_of_false (fun h => nomatch h) fun h => ?_
    exact h.hard e ((mem_evaluateRules hhard e).mp he) ho
  · rw [workflowDecision_allow]
    constructor
    · rintro ⟨hne, hall⟩
      obtain ⟨e, he⟩ := List.exists_mem_of_ne_nil _ hne
      exact ⟨fun e he => withOutcome_nil.mp hdeny e ((mem_evaluateRules hhard e).mpr he),
        ⟨e, (mem_evaluateRules hw e).mp he⟩, fun e he => hall e ((mem_evaluateRules hw e).mpr he)⟩
    · intro h
      obtain ⟨e, he⟩ := h.some
      exact ⟨List.ne_nil_of_mem ((mem_evaluateRules hw e).mpr he),
        fun e he => h.workflow e ((mem_evaluateRules hw e).mp he)⟩

/-- **How the rules combine.**  The engine allows exactly when every rule returns, no hard rule
denies, some workflow rule allows and none denies or asks for evidence or approval; the order of the
rules in their lists does not matter, and no further rule that does not allow makes it allow. -/
theorem policy_combination (E : PolicyEngine) (intent : ActionIntent) (context : AdmissionContext) :
    ((∃ d, E.evaluate intent context = .ok d ∧ d.outcome = .allow) ↔
      (∀ rule ∈ E.hardRules.rules ++ E.tenantWorkflowRules.rules intent, ∃ r, rule intent context = .ok r) ∧
      (∀ e, RuleReturned E.hardRules.rules intent context e → e.outcome ≠ .deny) ∧
      (∃ e, RuleReturned (E.tenantWorkflowRules.rules intent) intent context e ∧ e.outcome = .allow) ∧
      ∀ e, RuleReturned (E.tenantWorkflowRules.rules intent) intent context e →
        e.outcome ≠ .deny ∧ e.outcome ≠ .needsEvidence ∧ e.outcome ≠ .approvalRequired) ∧
    (∀ E', E.Permuted E' → SameVerdict (E.evaluate intent context) (E'.evaluate intent context)) ∧
    ∀ E' rule, E.Adds rule E' → (∀ e, rule intent context = .ok (some e) → e.outcome ≠ .allow) →
      EngineAllows E' intent context → EngineAllows E intent context := by
  refine ⟨?_, fun E' h => sameVerdict_permuted h, fun E' rule h hrule => allows_of_added h hrule⟩
  show EngineAllows E intent context ↔ _
  rw [engineAllows_iff]
  constructor
  · rintro ⟨hard, workflow, hhard, hdeny, hw, hne, hall⟩
    have hret : ∀ e, RuleReturned (E.tenantWorkflowRules.rules intent) intent context e → e.outcome = .allow :=
      fun e he => hall e ((mem_evaluateRules hw e).mpr he)
    refine ⟨fun rule hrule => ?_, fun e he => ?_, ?_, fun e he => ?_⟩
    · rcases List.mem_append.mp hrule with hrule | hrule
      · exact evaluateRules_returns.mp ⟨_, hhard⟩ rule hrule
      · exact evaluateRules_returns.mp ⟨_, hw⟩ rule hrule
    · exact withOutcome_nil.mp hdeny e ((mem_evaluateRules hhard e).mpr he)
    · obtain ⟨e, he⟩ := List.exists_mem_of_ne_nil _ hne
      exact ⟨e, (mem_evaluateRules hw e).mp he, hall e he⟩
    · rw [hret e he]
      decide
  · rintro ⟨hreturns, hhard, ⟨e, he, -⟩, hall⟩
    obtain ⟨hard, hh⟩ := evaluateRules_returns.mpr fun rule h => hreturns rule (List.mem_append_left _ h)
    obtain ⟨workflow, hw⟩ := evaluateRules_returns.mpr fun rule h => hreturns rule (List.mem_append_right _ h)
    refine ⟨hard, workflow, hh, ?_, hw, List.ne_nil_of_mem ((mem_evaluateRules hw e).mpr he), fun e he => ?_⟩
    · exact withOutcome_nil.mpr fun e he => hhard e ((mem_evaluateRules hh e).mp he)
    · obtain ⟨h1, h2, h3⟩ := hall e ((mem_evaluateRules hw e).mp he)
      cases ho : e.outcome with
      | allow => rfl
      | deny => exact absurd ho h1
      | needsEvidence => exact absurd ho h2
      | approvalRequired => exact absurd ho h3

end

end Actenon
