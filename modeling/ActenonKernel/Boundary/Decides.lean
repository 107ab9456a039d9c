import ActenonKernel.Boundary.Admission
import ActenonKernel.Boundary.Intake
import ActenonKernel.Policy.InvoiceDecides

/-!
# What admission can decide (`actenon/core/kernel.py`, `actenon/policy/`)

The rule about the shape of an action denies what it cannot use, but the rules after it, and the
receipt of the denial, read the same parameters.  Admission decides where all of these can be read
and where what is allowed can be signed.

* `conclude_returns`      what a decided intent needs to get its result;
* `AlwaysDecides`         the engine decides and no kernel with it raises;
* `admission_decides_iff`    when that is so, for both engines;
* `admission_raises_without_amount`    a refund without an amount is not denied.
-/

set_option linter.unusedSectionVars false

namespace Actenon

open Program

section
variable {P : Platform} {H : MintProtocol} {K : ProtectedExecutionKernel} {drawn : Drawn} {intent : ActionIntent}
  {decision : PolicyDecision} {context : AdmissionContext}

/-! ## after the decision -/

/-- the receipt of the decision can be built -/
def Receipted (P : Platform) (intent : ActionIntent) (context : AdmissionContext) (decision : PolicyDecision) : Prop :=
  DecisionReadable P intent ∧
    (isInvoicePaymentIntent intent = true → decision.outcome = .approvalRequired → ChainsIterable context)

theorem returns_receipt {α : Type} {refs : DecisionRefs} {f : StoredReceipt → Admit α}
    (hf : ∀ receipt, Returns (f receipt)) :
    Returns (createDecisionReceipt P drawn intent decision context refs >>= f) ↔ Receipted P intent context decision := by
  unfold Receipted
  have hreceipt : (∃ make, decisionReceipt P intent decision context refs = .ok make) ↔ _ := decisionReceipt_iff
  rw [← hreceipt]
  unfold createDecisionReceipt
  cases decisionReceipt P intent decision context refs with
  | ok make => exact iff_of_true (hf (make drawn.receiptId)) ⟨make, rfl⟩
  | error e =>
    refine iff_of_false ?_ fun ⟨_, h⟩ => nomatch h
    rintro ⟨a, ha⟩
    cases ha

theorem returns_deny :
    Returns (ProtectedExecutionKernel.deny P drawn intent decision context) ↔ Receipted P intent context decision :=
  returns_receipt fun _ => returns_write.mpr (returns_write.mpr (returns_pure _))

theorem returns_postpone :
    Returns (ProtectedExecutionKernel.postpone P drawn intent decision context) ↔
      Receipted P intent context decision :=
  returns_receipt fun _ => returns_write.mpr (returns_pure _)

theorem returns_admit {pccb : PCCB} :
    Returns ( K.admit P drawn intent decision context pccb) ↔ Receipted P intent context decision :=
  returns_write.trans (returns_receipt fun _ => returns_writeWhen.mpr (returns_write.mpr (returns_pure _)))

/-- the seal client answers as it likes -/
theorem returns_resolve {α : Type} {pccb : PCCB} {f : Except RefusalException PCCB → Admit α}
    (hf : ∀ answer, Returns (f answer)) : Returns (K.resolveExecutionPccb intent decision context pccb >>= f) := by
  unfold ProtectedExecutionKernel.resolveExecutionPccb
  split
  · exact hf _
  · refine ⟨trivial, fun r _ => ?_⟩
    cases (show Except SealFailure PCCB from r) with
    | ok sealedPccb => exact hf _
    | error e =>
      cases e with
      | proofSealError exc => exact hf _
      | other => exact hf _

theorem returns_allow (hreceipt : Receipted P intent context decision)
    (hmint : ∃ pccb, K.pccbMinter.mint P H decision (mintRequest drawn intent context) = .ok pccb) :
    Returns (K.allow P H drawn intent decision context) := by
  obtain ⟨localPccb, hlocal⟩ := hmint
  refine returns_lift.mpr ⟨localPccb, hlocal, returns_resolve fun answer => ?_⟩
  cases answer with
  | ok pccb => exact returns_admit.mpr hreceipt
  | error exc =>
    dsimp only
    split
    · exact returns_admit.mpr hreceipt
    · exact returns_write.mpr (returns_pure _)

/-- without a seal client -/
theorem returns_allow_unsealed (hseal : K.proofSealClient = false)
    (h : Returns (K.allow P H drawn intent decision context)) :
    Receipted P intent context decision ∧
      ∃ pccb, K.pccbMinter.mint P H decision (mintRequest drawn intent context) = .ok pccb := by
  obtain ⟨localPccb, hlocal, h⟩ := returns_lift.mp h
  refine ⟨?_, localPccb, hlocal⟩
  unfold ProtectedExecutionKernel.resolveExecutionPccb at h
  rw [hseal] at h
  exact returns_admit.mp h

/-- what a decided intent needs to get its result -/
theorem conclude_returns (hreceipt : Receipted P intent context decision)
    (hmint : decision.outcome = .allow →
      ∃ pccb, K.pccbMinter.mint P H decision (mintRequest drawn intent context) = .ok pccb) :
    Returns (K.conclude P H drawn intent decision context) := by
  unfold ProtectedExecutionKernel.conclude
  cases ho : decision.outcome with
  | deny => exact returns_deny.mpr hreceipt
  | approvalRequired => exact returns_postpone.mpr hreceipt
  | needsEvidence => exact returns_postpone.mpr hreceipt
  | allow => exact returns_allow hreceipt (hmint ho)

theorem conclude_needs (hseal : K.proofSealClient = false)
    (h : Returns (K.conclude P H drawn intent decision context)) :
    Receipted P intent context decision ∧ (decision.outcome = .allow →
      ∃ pccb, K.pccbMinter.mint P H decision (mintRequest drawn intent context) = .ok pccb) := by
  unfold ProtectedExecutionKernel.conclude at h
  cases ho : decision.outcome with
  | deny =>
    rw [ho] at h
    exact ⟨returns_deny.mp h, fun h => nomatch h⟩
  | approvalRequired =>
    rw [ho] at h
    exact ⟨returns_postpone.mp h, fun h => nomatch h⟩
  | needsEvidence =>
    rw [ho] at h
    exact ⟨returns_postpone.mp h, fun h => nomatch h⟩
  | allow =>
    rw [ho] at h
    obtain ⟨hreceipt, hmint⟩ := returns_allow_unsealed hseal h
    exact ⟨hreceipt, fun _ => hmint⟩

/-- a parsed intent is decided before anything is concluded -/
theorem submitIntent_returns {payload : Json} (hparse : ActionIntentIntakeService.parse payload = .ok intent) :
    Returns (K.submitIntent P H drawn payload context) ↔
      ∃ decision, K.policyEngine.evaluate intent context = .ok decision ∧
        Returns (K.conclude P H drawn intent decision context) := by
  unfold ProtectedExecutionKernel.submitIntent
  rw [hparse]
  exact returns_writeWhen.trans returns_lift

end

/-! ## the two engines -/

section
variable {P : PolicyPlatform} {receiptStore : Option ReceiptLookup} {intent : ActionIntent}
  {context : AdmissionContext} {d : PolicyDecision}

/-- a payment of invoices is no refund -/
theorem refund_denies_invoice (hinvoice : isInvoicePaymentIntent intent = true)
    (hd : (buildRefundPolicyEngine P receiptStore).evaluate intent context = .ok d) : d.outcome = .deny := by
  have hname : intent.action.name ≠ "refund.create" := by
    rw [isInvoicePaymentIntent, Bool.and_eq_true, decide_eq_true_eq] at hinvoice
    rw [hinvoice.1]
    decide
  have hshape : ∃ e, RefundActionShapeRule.evaluate P {} intent context = .ok (some e) ∧ e.outcome = .deny := by
    unfold RefundActionShapeRule.evaluate
    rw [if_pos hname]
    exact ⟨_, rfl, rfl⟩
  obtain ⟨e, he, ho⟩ := hshape
  exact deny_of_hard_rule (by simp [buildRefundPolicyEngine]) he ho hd

/-- the workflow rules return something only for a payment of the tenant -/
theorem workflow_of_tenant {workflow : List RuleEvaluation} (hne : workflow ≠ [])
    (hw : evaluateRules intent context
      ((buildInvoicePaymentPolicyEngine P receiptStore).tenantWorkflowRules.rules intent) = .ok workflow) :
    intent.tenant.tenantId = "tenant_demo" := by
  by_contra htenant
  have hrules : (buildInvoicePaymentPolicyEngine P receiptStore).tenantWorkflowRules.rules intent = _ :=
    rules_of_tenant rfl
  rw [hrules, if_neg htenant] at hw
  cases hw
  exact hne rfl

/-- the items of what has texts -/
theorem iterable_of_texts {x : Json} {ts : List String} (h : texts P x = .ok ts) : Iterable x := by
  obtain ⟨xs, hxs, -⟩ := Fallible.bind_eq_ok.mp h
  exact ⟨xs, hxs⟩

/-- where the invoice engine asks for approvals, it has read the chains -/
theorem invoice_chains (hinvoice : isInvoicePaymentIntent intent = true)
    (hdecidable : InvoiceDecidable P receiptStore intent context)
    (hd : (buildInvoicePaymentPolicyEngine P receiptStore).evaluate intent context = .ok d)
    (ho : d.outcome = .approvalRequired) : ChainsIterable context := by
  obtain ⟨hard, hhard, ⟨first, rest, -, rfl⟩ | ⟨hdeny, workflow, hw, rfl⟩⟩ := policyEvaluate_ok.mp hd
  · cases ho
  · have hne : workflow ≠ [] := by
      rintro rfl
      cases ho
    have hdemo : demoPayment "tenant_demo" intent = true := by
      rw [isInvoicePaymentIntent, Bool.and_eq_true] at hinvoice
      rw [demoPayment, Bool.and_eq_true]
      exact ⟨decide_eq_true (workflow_of_tenant hne hw), hinvoice.2⟩
    obtain ⟨chains, hchains, -⟩ := (hdecidable.workflow (fun e he =>
      withOutcome_nil.mp hdeny e ((mem_evaluateRules hhard e).mpr he)) hdemo).approvals
    obtain ⟨required, hrequired, h⟩ := Fallible.bind_eq_ok.mp hchains
    obtain ⟨provided, hprovided, -⟩ := Fallible.bind_eq_ok.mp h
    exact ⟨iterable_of_texts hrequired, iterable_of_texts hprovided⟩

end

/-! ## admission -/

section
variable (P : PolicyPlatform) (H : MintProtocol) (M : PCCBMinter) (drawn : Drawn)

/-- the engine decides, denies what the rule about the shape denies, and no kernel with the engine and
the minter raises while its stores and its writer return -/
structure AlwaysDecides (E : PolicyEngine) (shape : PolicyRule) (payload : Json) (intent : ActionIntent)
    (context : AdmissionContext) : Prop where
  decides : ∃ d, E.evaluate intent context = .ok d
  denies : ∀ d e, E.evaluate intent context = .ok d → shape intent context = .ok (some e) → e.outcome = .deny →
    d.outcome = .deny
  submits : ∀ K : ProtectedExecutionKernel, K.policyEngine = E → K.pccbMinter = M →
    ∀ t r, Reaches (K.submitIntent P.toPlatform H drawn payload context ()) t (.ret r) →
      writesReturn.Possible () t → ∃ result, r.1 = .ok result

/-- the receipt of the decision and the proof of what is allowed can be made -/
structure Concludable (E : PolicyEngine) (intent : ActionIntent) (context : AdmissionContext) : Prop where
  receipt : DecisionReadable P.toPlatform intent
  proof : E.RulesAllow intent context → Signable P.toPlatform M H (mintRequest drawn intent context)

variable {P H M drawn} {E : PolicyEngine} {shape : PolicyRule} {payload : Json} {intent : ActionIntent}
  {context : AdmissionContext}

theorem alwaysDecides_iff (hparse : ActionIntentIntakeService.parse payload = .ok intent)
    (hshape : shape ∈ E.hardRules.rules)
    (hchains : ∀ d, E.evaluate intent context = .ok d → isInvoicePaymentIntent intent = true →
      d.outcome = .approvalRequired → ChainsIterable context) :
    AlwaysDecides P H M drawn E shape payload intent context ↔
      (∃ d, E.evaluate intent context = .ok d) ∧ Concludable P H M drawn E intent context := by
  constructor
  · intro h
    obtain ⟨d, hd⟩ := h.decides
    have hreturns : Returns (({ policyEngine := E, pccbMinter := M } : ProtectedExecutionKernel).submitIntent
        P.toPlatform H drawn payload context) := returns_iff_runs.mpr (h.submits _ rfl rfl)
    obtain ⟨d', hd', hconclude⟩ := (submitIntent_returns hparse).mp hreturns
    obtain rfl : d = d' := Except.ok.inj (hd.symm.trans hd')
    obtain ⟨hreceipt, hmint⟩ := conclude_needs rfl hconclude
    refine ⟨⟨d, hd⟩, hreceipt.1, fun hallow => ?_⟩
    exact (mint_returns_iff.mp (hmint ((outcome_allow_iff hd).mpr hallow))).2
  · rintro ⟨⟨d, hd⟩, h⟩
    refine ⟨⟨d, hd⟩, fun d e hd he ho => deny_of_hard_rule hshape he ho hd, ?_⟩
    rintro K rfl rfl
    refine returns_iff_runs.mp ((submitIntent_returns hparse).mpr ⟨d, hd, ?_⟩)
    refine conclude_returns ⟨h.receipt, hchains d hd⟩ fun ho => mint_returns_iff.mpr ⟨decide_eq_true ho, ?_⟩
    exact h.proof ((outcome_allow_iff hd).mp ho)

/-- **When admission decides.**  An intent that was parsed gets a decision, a denial where the rule about
the shape denies, and a result of every kernel with the engine, exactly when the parameters and facts
that the rules of the engine read are readable, the parameters that the receipt quotes are readable, and
what the rules allow can be signed. -/
theorem admission_decides_iff (P : PolicyPlatform) (H : MintProtocol) (M : PCCBMinter) (drawn : Drawn)
    (receiptStore : Option ReceiptLookup) (payload : Json) (intent : ActionIntent) (context : AdmissionContext)
    (hparse : ActionIntentIntakeService.parse payload = .ok intent) :
    (AlwaysDecides P H M drawn (buildRefundPolicyEngine P receiptStore) (RefundActionShapeRule.evaluate P {})
        payload intent context ↔
      RefundDecidable P receiptStore intent context ∧
        Concludable P H M drawn (buildRefundPolicyEngine P receiptStore) intent context) ∧
    (AlwaysDecides P H M drawn (buildInvoicePaymentPolicyEngine P receiptStore)
        (InvoicePaymentActionShapeRule.evaluate P {}) payload intent context ↔
      InvoiceDecidable P receiptStore intent context ∧
        Concludable P H M drawn (buildInvoicePaymentPolicyEngine P receiptStore) intent context) := by
  constructor
  · rw [← refund_decides_iff]
    refine alwaysDecides_iff hparse (by simp [buildRefundPolicyEngine]) fun d hd hinvoice ho => ?_
    rw [refund_denies_invoice hinvoice hd] at ho
    cases ho
  · rw [← invoice_decides_iff]
    refine alwaysDecides_iff hparse (by simp [buildInvoicePaymentPolicyEngine]) fun d hd hinvoice ho => ?_
    exact invoice_chains hinvoice (invoice_decides_iff.mp ⟨d, hd⟩) hd ho

end

/-! ## the sample -/

/-- SHA-256 at the action hash input of the refund -/
def demoHash (m : List UInt8) : List UInt8 :=
  if m.length = 345 then
    (Hex.fromHex "2f2aa0e973e24e292a2b8e77d9a04363cde9c30f03f4c77b7518ca20a23cc64e".toList).getD []
  else sampleHash m

def demoPlatform : PolicyPlatform where
  toPlatform := samplePlatform demoHash
  upper s := String.ofList (s.toList.map Char.toUpper)
  profile := "ACTENON-JCS-STRICT-1"

/-- a refund of five euros -/
def demoRefund : ActionIntent :=
  { sampleIntent with
    tenant := ⟨"tenant_demo", []⟩
    action := ⟨"refund.create", "refund.execute", members [("amount_minor", .int 500), ("currency", .str "EUR")],
      [], []⟩
    target := ⟨"payment", "pay_1", .null, []⟩ }

/-- a context in which the demonstration tenant allows refunds -/
def demoContext : AdmissionContext :=
  { sampleContext with
    scopeCapabilities := ["refund.execute"]
    facts := members [("risk_level", .str "normal")]
    maxTtlSeconds := some 3600 }

def demoDrawn : Drawn := ⟨"esc_1", "pccb_1", "n1", "rcpt_1", "rfsl_1"⟩

theorem demo_parsed : ActionIntentIntakeService.parse (.obj demoRefund.toDict) = .ok demoRefund := by
  refine parse_toDict ⟨by decide, by decide, by decide, by decide, by decide, ?_⟩ (by decide) ?_
  · intro e he
    cases he
  · exact List.cons_ne_nil _ _

theorem demo_hash : sha256Hex demoPlatform.toPlatform (.obj (buildActionHashInput demoRefund)) =
    .ok "2f2aa0e973e24e292a2b8e77d9a04363cde9c30f03f4c77b7518ca20a23cc64e" := by
  decide +kernel

theorem demo_signable :
    Signable demoPlatform.toPlatform sampleMinter sampleProtocol (mintRequest demoDrawn demoRefund demoContext) := by
  have hpayload : ∃ payload, canonicalizeBytes demoPlatform.toPlatform (.obj (sampleMinter.unsigned sampleProtocol
      (mintRequest demoDrawn demoRefund demoContext) ["refund.execute"]
      "2f2aa0e973e24e292a2b8e77d9a04363cde9c30f03f4c77b7518ca20a23cc64e").unsignedPayload) = .ok payload := by
    apply Fallible.exists_ok
    decide +kernel
  refine ⟨["refund.execute"], rfl, sha256Hex_exists.mp ⟨_, demo_hash⟩, fun hash hhash => ?_⟩
  obtain rfl := Except.ok.inj (demo_hash.symm.trans hhash)
  exact ⟨canonicalizeBytes_exists.mp hpayload, fun payload _ => ⟨_, rfl, fun record h => nomatch h⟩⟩

theorem demo_readable : RefundDecisionReadable demoPlatform.toPlatform demoRefund.action.parameters where
  amount := ⟨.int 500, 500, rfl, rfl, _, rfl⟩
  currency := ⟨.str "EUR", rfl, _, rfl⟩

/-- the refund is decided, and every kernel returns -/
theorem admission_decides_sample :
    AlwaysDecides demoPlatform sampleProtocol sampleMinter demoDrawn (buildRefundPolicyEngine demoPlatform none)
      (RefundActionShapeRule.evaluate demoPlatform {}) (.obj demoRefund.toDict) demoRefund demoContext := by
  refine (admission_decides_iff demoPlatform sampleProtocol sampleMinter demoDrawn none (.obj demoRefund.toDict)
    demoRefund demoContext demo_parsed).1.mpr ⟨⟨?_, fun lookup h => (nomatch h), ?_, ?_, ?_⟩, ⟨?_, ?_⟩, ?_⟩
  · show (3600 : Int) < 86400000000000
    decide
  · exact ⟨.int 500, rfl, 500, rfl⟩
  · exact fun h => absurd rfl h
  · exact ⟨.str "EUR", rfl⟩
  · exact fun _ => demo_readable
  · exact fun h => nomatch h
  · exact fun _ => demo_signable

/-- the refund without its amount -/
def refundWithoutAmount : ActionIntent :=
  { demoRefund with action := { demoRefund.action with parameters := members [("currency", .str "EUR")] } }

/-- **A refund without an amount is parsed and its shape is denied, and the engine raises `KeyError`.** -/
theorem admission_raises_without_amount :
    ActionIntentIntakeService.parse (.obj refundWithoutAmount.toDict) = .ok refundWithoutAmount ∧
      (∃ e, RefundActionShapeRule.evaluate demoPlatform {} refundWithoutAmount demoContext = .ok (some e) ∧
        e.outcome = .deny) ∧
      (buildRefundPolicyEngine demoPlatform none).evaluate refundWithoutAmount demoContext
        = .error ⟨.keyError, "amount_minor"⟩ ∧
      ¬ AlwaysDecides demoPlatform sampleProtocol sampleMinter demoDrawn (buildRefundPolicyEngine demoPlatform none)
        (RefundActionShapeRule.evaluate demoPlatform {}) (.obj refundWithoutAmount.toDict) refundWithoutAmount
        demoContext := by
  have hraises : (buildRefundPolicyEngine demoPlatform none).evaluate refundWithoutAmount demoContext
      = .error ⟨.keyError, "amount_minor"⟩ := rfl
  refine ⟨?_, ⟨_, rfl, rfl⟩, hraises, fun h => ?_⟩
  · refine parse_toDict ⟨by decide, by decide, by decide, by decide, by decide, ?_⟩ (by decide) ?_
    · intro e he
      cases he
    · exact List.cons_ne_nil _ _
  · obtain ⟨d, hd⟩ := h.decides
    rw [hraises] at hd
    cases hd

end Actenon
