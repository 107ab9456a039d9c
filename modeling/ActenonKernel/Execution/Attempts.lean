import ActenonKernel.Execution.Reports

/-!
# One outcome for each attempt

An attempt whose refusals can be quoted leaves one receipt, and a refusal just with a refused one, unless
the record of the idempotency store raises after the executed receipt was written, or something that is no
`Exception` escapes from a call before.

* `SettlesOnce`          what the calls of a run have to do;
* `one_outcome_iff`      when it is all that one outcome needs.
-/

set_option linter.unusedSectionVars false

namespace Actenon

open Program

/-! ## runs with one outcome -/

/-- no record raised; and where something escapes, it is from the record or after one that raised -/
def SettlesOnce {α : Type} (g : Written) : End Op α → Prop
  | .returned _ => g.recordFailed = false
  | .escaped op => op.isRecord = true ∨ g.recordFailed = true

/-- nothing escapes from a writer or a factory -/
def Delivering {α : Type} (o : End Op α) : Prop := ∀ op, o = .escaped op → op.delivers = false

theorem Expected.delivered {t : List KernelEvent} (h : Expected t) : Delivered t := fun e he => (h e he).delivered

section
variable {P : Platform} {X : ProtectedExecutor} {request : ProtectedExecutionRequest}

theorem ended_of_run {decision : Option PolicyDecision} {t : List KernelEvent}
    {o : End Op (Except Raised ExecutionResult × Locals)} (h : EndsIn (X.call P request decision) t o)
    (hexpected : Expected t) : o.Meets attemptMonitor (fun r g => Ended r.1 g) (written t) := by
  have hmeets := wp_ends (wp_call_outcome decision) h
    ((Monitor.possible_allowing (M := outcomeMonitor)).mpr (hexpected.delivered.possible {}))
  unfold attemptMonitor at hmeets
  rw [Monitor.run_allowing, run_outcomeMonitor] at hmeets
  exact hmeets

/-- **One outcome for each attempt.**  In every run of `execute` with answering writers there is one outcome
exactly where no record raises and nothing escapes before it: just if the parameters that the receipt of a
refusal quotes are readable. -/
theorem one_outcome_iff (P : Platform) (X : ProtectedExecutor) (request : ProtectedExecutionRequest)
    (decision : Option PolicyDecision) :
    (∀ t o, EndsIn (X.call P request decision) t o → Expected t → Delivering o →
        (OneOutcome (written t) ↔ SettlesOnce (written t) o)) ↔
      RefusalReadable P request.intent := by
  constructor
  · intro h
    by_contra hread
    -- everything refuses, and the call raises out of its `except` clause
    have hends : EndsIn (X.call P request decision) _ _ := refusedRun_ends decision
    have hexpected : Expected (refusedRun P X request decision).2.2 := refusedRun_expected decision
    have hiff := h _ _ hends hexpected fun op hop => nomatch hop
    obtain ⟨e, he⟩ := refusedRun_raises (X := X) hread decision
    have hended : Ended (refusedRun P X request decision).1.1 _ := ended_of_run hends hexpected
    rw [he] at hended
    have hfailed := (show Interrupted _ from hended).oneOutcome_iff
    have hsettled : SettlesOnce (written (refusedRun P X request decision).2.2)
        (.returned (refusedRun P X request decision).1 : End Op _) ↔ _ = false := Iff.rfl
    rw [hfailed, hsettled] at hiff
    cases hb : (written (refusedRun P X request decision).2.2).recordFailed with
    | true => exact nomatch (hiff.mp hb).symm.trans hb
    | false => exact nomatch (hiff.mpr hb).symm.trans hb
  · intro hread t o h hexpected hdelivering
    have hmeets := ended_of_run h hexpected
    cases h with
    | @returned r h =>
      obtain ⟨result, hresult⟩ := reported_of_reaches hread (r := r.1) (v := r.2) h hexpected
      have hended : Ended r.1 (written t) := hmeets
      rw [hresult] at hended
      exact hended.oneOutcome_iff
    | @escaped op _ h => exact hmeets (hdelivering op rfl)

end

/-! ## the sample, with a record that raises -/

/-- another call records the operation with another hash before this one does -/
def conflictEnv : (op : Op) → World → Res op × World
  | .record _ operationId hash _, w =>
    (recordConflict operationPlatform operationId
      "0000000000000000000000000000000000000000000000000000000000000000" hash, w)
  | op, w => World.env operationPlatform sampleAnswers op w

/-- the sample operation in a world -/
def outcomeRun (env : (op : Op) → World → Res op × World) :=
  exec env ((operationCall true).program operationPlatform) emptyWorld

theorem outcomeRun_facts :
    Delivered (outcomeRun conflictEnv).2.2 ∧ (written (outcomeRun conflictEnv).2.2).receipts.length = 2 := by
  decide +kernel

/-- the record raises after the executed receipt was written: a refused receipt follows it -/
theorem two_receipts_written :
    ∃ t r, Reaches ((operationCall true).program operationPlatform) t (.ret r) ∧ Delivered t ∧
      (written t).receipts.length = 2 ∧ ¬ OneOutcome (written t) := by
  refine ⟨_, _, exec_reaches conflictEnv _ emptyWorld, outcomeRun_facts.1, outcomeRun_facts.2, ?_⟩
  rintro ⟨receipt, hone, -⟩
  have htwo := outcomeRun_facts.2
  unfold outcomeRun at htwo
  rw [hone] at htwo
  cases htwo

end Actenon
