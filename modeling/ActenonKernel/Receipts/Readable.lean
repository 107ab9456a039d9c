import ActenonKernel.Receipts.Factory

/-!
# Parameters a refused receipt can be built from (`actenon/receipts/refund.py`, `invoice_payment.py`)

A refused receipt of a refund or of an invoice payment quotes parameters of the action, which nothing
has validated where a proof is refused.

* `RefusalReadable`       the parameters that the builder of the capability reads;
* `refusedReceipt_iff`    the receipt can be built exactly when they are there and readable.
-/

set_option linter.unusedSectionVars false

namespace Actenon

section
variable (P : Platform)

/-- a value that can stand in an f-string -/
def HasText (x : Json) : Prop := ∃ s, pyStr P x = .ok s

structure RefundReadable (parameters : Dict) : Prop where
  amount : ∃ v, Dict.find parameters (.str "amount_minor") = some v ∧ HasText P v ∧ ∃ n, pyInt P v = .ok n
  currency : ∃ v, Dict.find parameters (.str "currency") = some v ∧ HasText P v

structure InvoiceReadable (parameters : Dict) : Prop where
  texts : ∀ name ∈ ["amount_minor", "currency", "supplier_id", "payment_batch_id"],
    ∃ v, Dict.find parameters (.str name) = some v ∧ HasText P v
  present : ∀ name ∈ ["payer_entity_id", "bank_account_reference", "payment_date", "batch_hash", "proposer_id"],
    ∃ v, Dict.find parameters (.str name) = some v
  invoices : ∃ v xs, Dict.find parameters (.str "invoice_ids") = some v ∧ v.iterate = .ok xs

/-- the parameters a refused receipt of the intent quotes -/
structure RefusalReadable (intent : ActionIntent) : Prop where
  refund : isRefundIntent intent = true → RefundReadable P intent.action.parameters
  invoice : isInvoicePaymentIntent intent = true → InvoiceReadable P intent.action.parameters

variable {P} {intent : ActionIntent} {refusal : Refusal}

theorem item_ok {d : Dict} {name : String} {v : Json} : Dict.item d name = .ok v ↔ Dict.find d (.str name) = some v := by
  unfold Dict.item
  cases Dict.find d (.str name) with
  | none => exact iff_of_false (fun h => nomatch h) fun h => nomatch h
  | some w => exact ⟨fun h => congrArg some (Except.ok.inj h), fun h => congrArg Except.ok (Option.some.inj h)⟩

theorem refund_not_invoice (h : isRefundIntent intent = true) : isInvoicePaymentIntent intent = false := by
  unfold isRefundIntent at h
  unfold isInvoicePaymentIntent
  rw [Bool.and_eq_true, decide_eq_true_eq] at h
  rw [h.1]
  rfl

theorem refund_summary_iff : (∃ r, (do
      let summary ← refundSummaryForRefusal P intent
      let fields ← refundDetailFields P intent
      return (summary, fields)) = .ok r) ↔ RefundReadable P intent.action.parameters := by
  unfold refundSummaryForRefusal refundDetailFields refundAmountMinor refundCurrency
  simp only [Fallible.bind_eq_ok, item_ok]
  constructor
  · rintro ⟨_, _, ⟨v, hv, s, hs, c, hc, t, ht, -⟩, _, ⟨n, ⟨v', hv', hn⟩, -⟩, -⟩
    rw [hv] at hv'
    cases hv'
    exact ⟨⟨v, hv, ⟨s, hs⟩, n, hn⟩, c, hc, t, ht⟩
  · rintro ⟨⟨v, hv, ⟨s, hs⟩, n, hn⟩, c, hc, t, ht⟩
    exact ⟨_, _, ⟨v, hv, s, hs, c, hc, t, ht, rfl⟩, _, ⟨n, ⟨v, hv, hn⟩, t, ⟨c, hc, ht⟩, rfl⟩, rfl⟩

theorem invoice_summary_iff {code : String} : (∃ r, (do
      let summary ← invoicePaymentOperatorSummaryForRefusal P intent code
      let fields ← invoicePaymentDetailFields intent
      return (summary, fields)) = .ok r) ↔ InvoiceReadable P intent.action.parameters := by
  unfold invoicePaymentOperatorSummaryForRefusal invoicePaymentDetailFields
  simp only [Fallible.bind_eq_ok, item_ok]
  constructor
  · rintro ⟨_, _, ⟨v, hv, s, hs, c, hc, t, ht, u, hu, x, hx, b, hb, y, hy, -⟩, _,
      ⟨payer, hpayer, _, _, account, haccount, w, hw, xs, hxs, _, _, _, _, date, hdate, _, _, hash, hhash,
        proposer, hproposer, -⟩, -⟩
    refine ⟨?_, ?_, w, xs, hw, hxs⟩
    · intro name hname
      simp only [List.mem_cons, List.not_mem_nil, or_false] at hname
      rcases hname with rfl | rfl | rfl | rfl
      · exact ⟨v, hv, s, hs⟩
      · exact ⟨c, hc, t, ht⟩
      · exact ⟨u, hu, x, hx⟩
      · exact ⟨b, hb, y, hy⟩
    · intro name hname
      simp only [List.mem_cons, List.not_mem_nil, or_false] at hname
      rcases hname with rfl | rfl | rfl | rfl | rfl
      · exact ⟨payer, hpayer⟩
      · exact ⟨account, haccount⟩
      · exact ⟨date, hdate⟩
      · exact ⟨hash, hhash⟩
      · exact ⟨proposer, hproposer⟩
  · rintro ⟨htexts, hpresent, w, xs, hw, hxs⟩
    obtain ⟨v, hv, s, hs⟩ := htexts "amount_minor" (by simp)
    obtain ⟨c, hc, t, ht⟩ := htexts "currency" (by simp)
    obtain ⟨u, hu, x, hx⟩ := htexts "supplier_id" (by simp)
    obtain ⟨b, hb, y, hy⟩ := htexts "payment_batch_id" (by simp)
    obtain ⟨payer, hpayer⟩ := hpresent "payer_entity_id" (by simp)
    obtain ⟨account, haccount⟩ := hpresent "bank_account_reference" (by simp)
    obtain ⟨date, hdate⟩ := hpresent "payment_date" (by simp)
    obtain ⟨hash, hhash⟩ := hpresent "batch_hash" (by simp)
    obtain ⟨proposer, hproposer⟩ := hpresent "proposer_id" (by simp)
    exact ⟨_, _, ⟨v, hv, s, hs, c, hc, t, ht, u, hu, x, hx, b, hb, y, hy, rfl⟩, _,
      ⟨payer, hpayer, u, hu, account, haccount, w, hw, xs, hxs, v, hv, c, hc, date, hdate, b, hb, hash, hhash,
        proposer, hproposer, rfl⟩, rfl⟩

theorem refusedSummary_iff : (∃ r, refusedSummary P intent refusal = .ok r) ↔ RefusalReadable P intent := by
  unfold refusedSummary
  by_cases hr : isRefundIntent intent = true
  · rw [if_pos hr]
    refine refund_summary_iff.trans ⟨fun h => ⟨fun _ => h, fun hi => ?_⟩, fun h => h.refund hr⟩
    rw [refund_not_invoice hr] at hi
    cases hi
  · rw [if_neg hr]
    by_cases hi : isInvoicePaymentIntent intent = true
    · rw [if_pos hi]
      exact invoice_summary_iff.trans ⟨fun h => ⟨fun h' => absurd h' hr, fun _ => h⟩, fun h => h.invoice hi⟩
    · rw [if_neg hi]
      exact iff_of_true ⟨_, rfl⟩ ⟨fun h => absurd h hr, fun h => absurd h hi⟩

/-- **A refused receipt can be built exactly when the parameters it quotes are readable.** -/
theorem refusedReceipt_iff {request : ProtectedExecutionRequest} :
    (∃ make, refusedReceipt P request refusal = .ok make) ↔ RefusalReadable P request.intent := by
  unfold refusedReceipt
  have hsummary : (∃ r, refusedSummary P request.intent refusal = .ok r) ↔ RefusalReadable P request.intent :=
    refusedSummary_iff
  rw [Fallible.exists_bind_ok, ← hsummary]
  constructor
  · rintro ⟨r, hr, -⟩
    exact ⟨r, hr⟩
  · rintro ⟨r, hr⟩
    exact ⟨r, hr, _, rfl⟩

end

end Actenon
