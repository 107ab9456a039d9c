import ActenonKernel.Execution.Operations

/-!
# What an attempt writes

The executed receipt is written inside the `try` block, and the record of the idempotency store comes
after it: what it raises goes to an `except` clause that writes a refusal and a second receipt.

* `Written`              what a run has written;
* `OneOutcome`           one receipt, and a refusal exactly with a refused one;
* `Ended`                what a call has written where it ends; `wp_call_outcome`.
-/

set_option linter.unusedSectionVars false

namespace Actenon

open Program

/-! ## what is written -/

/-- the writers and the factories of the identifiers -/
def Op.delivers : Op → Bool
  | .receiptId | .refusalId | .writeReceipt _ | .writeRefusal _ => true
  | _ => false

structure Written where
  receipts : List Receipt := []
  refusals : List Refusal := []
  /-- a record of the idempotency store raised -/
  recordFailed : Bool := false

def Written.next (g : Written) (e : KernelEvent) : Written :=
  match e.1 with
  | .writeReceipt receipt => { g with receipts := g.receipts ++ [receipt] }
  | .writeRefusal refusal => { g with refusals := g.refusals ++ [refusal] }
  | .record _ _ _ _ => { g with recordFailed := g.recordFailed || failed e }
  | _ => g

/-- what a run has written -/
def written (t : List KernelEvent) : Written := t.foldl Written.next {}

/-- one receipt, and a refusal exactly with a refused one -/
def OneOutcome (g : Written) : Prop :=
  ∃ receipt, g.receipts = [receipt] ∧ (g.refusals ≠ [] ↔ receipt.outcome = .refused)

/-- writers and factories answer -/
def Delivered (t : List KernelEvent) : Prop := ∀ e ∈ t, e.1.delivers = true → failed e = false

instance (t : List KernelEvent) : Decidable (Delivered t) :=
  inferInstanceAs (Decidable (∀ e ∈ t, e.1.delivers = true → failed e = false))

def outcomeMonitor : Monitor Res Written where
  allow _ _ := True
  possible _ op r := op.delivers = true → failed ⟨op, r⟩ = false
  next g op r := g.next ⟨op, r⟩

/-- where the `try` block raises: nothing is written, or the receipt is and its record failed -/
def Interrupted (g : Written) : Prop :=
  g = {} ∨ ∃ receipt, receipt.outcome = .executed ∧ g = { receipts := [receipt], recordFailed := true }

/-- what escapes from a call leaves one outcome just where the executed receipt is written -/
def Settling (g : Written) (op : Op) : Prop :=
  op.delivers = false → (OneOutcome g ↔ op.isRecord = true ∨ g.recordFailed = true)

/-- the monitor of an attempt, with what its calls leave if something escapes from them -/
def attemptMonitor : Monitor Res Written := outcomeMonitor.allowing Settling

/-- where a call ends -/
def Ended (r : Except Raised ExecutionResult) (g : Written) : Prop :=
  match r with
  | .error _ => Interrupted g
  | .ok result =>
    (result.receipt.outcome = .executed ∧ g = { receipts := [result.receipt] }) ∨
      (result.receipt.outcome = .refused ∧ ∃ g₀ refusal, Interrupted g₀ ∧
        g = { g₀ with receipts := g₀.receipts ++ [result.receipt], refusals := [refusal] })

theorem oneOutcome_executed {receipt : Receipt} (h : receipt.outcome = .executed) (b : Bool) :
    OneOutcome { receipts := [receipt], recordFailed := b } := by
  refine ⟨receipt, rfl, fun hn => absurd rfl hn, ?_⟩
  intro hrefused
  cases h.symm.trans hrefused

theorem not_oneOutcome_empty : ¬ OneOutcome {} := fun ⟨_, h, _⟩ => nomatch h

theorem Interrupted.oneOutcome_iff {g : Written} (h : Interrupted g) : OneOutcome g ↔ g.recordFailed = true := by
  rcases h with rfl | ⟨receipt, hout, rfl⟩
  · exact iff_of_false not_oneOutcome_empty fun hf => nomatch hf
  · exact iff_of_true (oneOutcome_executed hout true) rfl

theorem Interrupted.settling {g : Written} (h : Interrupted g) {op : Op} (hop : op.isRecord = false) :
    Settling g op := by
  intro _
  rw [hop, h.oneOutcome_iff]
  simp

theorem settling_delivers {g : Written} {op : Op} (hop : op.delivers = true) : Settling g op :=
  fun h => nomatch hop.symm.trans h

/-- where the executed receipt is written and its record is made -/
theorem settling_record {receipt : Receipt} (h : receipt.outcome = .executed) {op : Op} (hop : op.isRecord = true) :
    Settling { receipts := [receipt] } op :=
  fun _ => iff_of_true (oneOutcome_executed h false) (Or.inl hop)

section
variable {P : Platform} {X : ProtectedExecutor} {request : ProtectedExecutionRequest}

/-! ## steps that write nothing -/

/-- neither a writer nor the record -/
def Unwriting : Op → Prop
  | .writeReceipt _ => False
  | .writeRefusal _ => False
  | .record _ _ _ _ => False
  | _ => True

theorem Unwriting.next {op : Op} (h : Unwriting op) (g : Written) (r : Res op) : g.next ⟨op, r⟩ = g := by
  cases op with
  | writeReceipt r => cases h
  | writeRefusal r => cases h
  | record s o a r => cases h
  | _ => rfl

theorem Unwriting.isRecord {op : Op} (h : Unwriting op) : op.isRecord = false := by
  cases op with
  | record s o a r => cases h
  | _ => rfl

/-- an interrupted attempt stays as it is -/
theorem unwriting_step {g₀ : Written} (h : Interrupted g₀) (g : Written) (op : Op) (hg : g = g₀) (hop : Unwriting op) :
    attemptMonitor.allow g op ∧ ∀ r, attemptMonitor.possible g op r → attemptMonitor.next g op r = g₀ := by
  subst hg
  exact ⟨h.settling hop.isRecord, fun r _ => hop.next _ r⟩

theorem wp_unwriting {α : Type} {m : Run α} (hm : Frame Unwriting (fun _ => True) m) (v : Locals) {g : Written}
    (h : Interrupted g) : wp attemptMonitor (m v) (fun _ g' => g' = g) g :=
  wp_mono (wp_frame (K := fun g' => g' = g) hm (unwriting_step h) trivial rfl) fun _ _ h => h.2

/-- a statement that never raises -/
def Calm {α : Type} (m : Run α) : Prop :=
  ∀ J : Locals → Prop, (∀ v b, J v → J { v with replayConsumed := b }) →
    ∀ v, J v → Only Unwriting (fun r => (∃ a, r.1 = .ok a) ∧ J r.2) (m v)

theorem wp_calm {α : Type} {m : Run α} (hm : Calm m) (v : Locals) {g : Written} (h : Interrupted g) :
    wp attemptMonitor (m v) (fun r g' => (∃ a, r.1 = .ok a) ∧ g' = g) g :=
  wp_mono (wp_of_only (K := fun g' => g' = g) (unwriting_step h) (hm (fun _ => True) (fun _ _ h => h) v trivial) rfl)
    fun _ _ h => ⟨h.1.1, h.2⟩

theorem calm_releaseCredential (credential : Option BrokeredCredential) (outcome : Dict) :
    Calm (releaseCredential credential outcome) := by
  intro J _ v hv
  cases credential with
  | none => exact ⟨⟨(), rfl⟩, hv⟩
  | some c =>
    refine only_catching (frame_perform (J := J) (show Unwriting (.release c outcome) from trivial) v hv) ?_ ?_
    · exact fun a s' hs => ⟨⟨a, rfl⟩, hs⟩
    · exact fun e s' hs => ⟨⟨(), rfl⟩, hs⟩

theorem calm_releaseUnlessConsumed (reason : String) : Calm (X.releaseUnlessConsumed request reason) := by
  intro J _ v hv
  unfold ProtectedExecutor.releaseUnlessConsumed
  show Only Unwriting _ ((if v.replayConsumed then pure () else
    X.releaseReplayClaim request v.replayState reason) v)
  cases v.replayConsumed with
  | true => exact ⟨⟨(), rfl⟩, hv⟩
  | false =>
    show Only Unwriting _ (X.releaseReplayClaim request v.replayState reason v)
    unfold ProtectedExecutor.releaseReplayClaim
    cases X.replayProtector with
    | none => exact ⟨⟨(), rfl⟩, hv⟩
    | some inst =>
      cases v.replayState with
      | none => exact ⟨⟨(), rfl⟩, hv⟩
      | some state =>
        refine only_catching (frame_seq (J := J) (frame_releaseClaim (fun _ _ _ => trivial)
          (fun _ _ _ _ => trivial) _ _ _ _) (fun _ => frame_pure _) v hv) ?_ ?_
        · exact fun a s' hs => ⟨⟨a, rfl⟩, hs⟩
        · exact fun e s' hs => ⟨⟨(), rfl⟩, hs⟩

/-- `_mark_replay_consumed` raises refusals only -/
theorem only_consumeReplay {J : Locals → Prop} (hJ : ∀ v b, J v → J { v with replayConsumed := b })
    {v : Locals} (hv : J v) :
    Only Unwriting (fun r => (∀ e, r.1 ≠ .error (.other e)) ∧ J r.2) (X.consumeReplay request v) := by
  have hmark : Only Unwriting (fun r => (∀ e, r.1 ≠ .error (.other e)) ∧ J r.2)
      (X.markReplayConsumed request v.replayState v) := by
    unfold ProtectedExecutor.markReplayConsumed
    cases X.replayProtector with
    | none => exact ⟨fun e he => (nomatch he), hv⟩
    | some inst =>
      cases v.replayState with
      | none => exact ⟨fun e he => (nomatch he), hv⟩
      | some state =>
        refine only_catching (frame_seq (J := J) (frame_markConsumed (fun _ _ _ => trivial)
          (fun _ _ _ => trivial) _ _ _) (fun _ => frame_pure _) v hv) ?_ ?_
        · exact fun a s' hs => ⟨fun e he => (nomatch he), hs⟩
        · intro e s' hs
          cases e with
          | refusal e => exact ⟨fun e he => (nomatch he), hs⟩
          | other e =>
            unfold ProtectedExecutor.onStoreFailure
            cases X.failOpen with
            | true => exact ⟨fun e he => (nomatch he), hs⟩
            | false => exact ⟨fun e he => (nomatch he), hs⟩
  refine hmark.bind ?_
  rintro ⟨r, v'⟩ ⟨hr, hv'⟩
  cases r with
  | ok b => exact ⟨fun e he => (nomatch he), hJ v' b hv'⟩
  | error e =>
    refine ⟨?_, hv'⟩
    intro e' he
    cases he
    exact hr e' rfl

theorem calm_consumeUnlessConsumed : Calm (X.consumeUnlessConsumed request) := by
  intro J hJ v hv
  unfold ProtectedExecutor.consumeUnlessConsumed
  show Only Unwriting _ ((if v.replayConsumed then pure () else
    Act.catching (X.consumeReplay request) _) v)
  cases v.replayConsumed with
  | true => exact ⟨⟨(), rfl⟩, hv⟩
  | false =>
    refine only_catching (only_consumeReplay hJ hv) ?_ ?_
    · exact fun a s' hs => ⟨⟨a, rfl⟩, hs.2⟩
    · intro e s' hs
      cases e with
      | refusal e => exact ⟨⟨(), rfl⟩, hs.2⟩
      | other e => exact absurd rfl (hs.1 e)

/-! ## the `except` clauses -/

theorem refused_outcome {v : Locals} {created receipt : Receipt}
    (h : v.refusedReceipt P created = .ok receipt) : receipt.outcome = created.outcome := by
  unfold Locals.refusedReceipt at h
  split at h
  · cases h
    rfl
  · unfold effectRefusalReceipt at h
    obtain ⟨shown, _, h⟩ := Fallible.bind_eq_ok.mp h
    rw [← Fallible.pure_eq_ok.mp h]

/-- a refusal and its receipt after an interruption -/
theorem interrupted_written {g : Written} (h : Interrupted g) (receipt : Receipt) (refusal : Refusal) :
    (⟨g.receipts ++ [receipt], g.refusals ++ [refusal], g.recordFailed⟩ : Written)
      = { g with receipts := g.receipts ++ [receipt], refusals := [refusal] } := by
  rcases h with rfl | ⟨first, -, rfl⟩
  · rfl
  · rfl

/-- the refusal and its receipt are written, or the receipt cannot be built -/
theorem wp_emitRefusal_outcome (exc : RefusalException) (v : Locals) {g : Written} (h : Interrupted g) :
    wp attemptMonitor (emitRefusal P request exc v) (fun r g' => Ended r.1 g') g := by
  refine wp_seq (fun r g' => (∃ refusal, r.1 = .ok refusal) ∧ g' = g) ?_ ?_ fun e v1 g1 ⟨⟨_, h1⟩, _⟩ => nomatch h1
  · refine wp_perform (settling_delivers rfl) (fun refusalId _ => ⟨⟨_, rfl⟩, rfl⟩) ?_
    intro e hp
    cases hp rfl
  rintro refusal v1 g1 ⟨-, rfl⟩
  refine wp_seq (fun r g' => g' = g1 ∧ ∀ created, r.1 = .ok created → created.outcome = .refused) ?_ ?_
    fun e v2 g2 h2 => h2.1 ▸ h
  · refine wp_lift ?_ fun e _ => ⟨rfl, fun created hcreated => nomatch hcreated⟩
    intro make hmake
    refine wp_perform (settling_delivers rfl) (fun receiptId _ => ⟨rfl, ?_⟩) ?_
    · intro created hcreated
      cases hcreated
      exact (refusedReceipt_ok (orRaise_ok hmake) receiptId).1
    · intro e hp
      cases hp rfl
  rintro created v2 g2 ⟨rfl, hrefused⟩
  refine wp_vars (wp_lift ?_ fun e _ => h)
  intro receipt hreceipt
  have hout : receipt.outcome = .refused := (refused_outcome (orRaise_ok hreceipt)).trans (hrefused created rfl)
  refine wp_perform (settling_delivers rfl) ?_ fun e hp => nomatch hp rfl
  intro _ _
  refine wp_perform (settling_delivers rfl) ?_ fun e hp => nomatch hp rfl
  intro _ _
  exact Or.inr ⟨hout, g2, refusal, h, interrupted_written h receipt refusal⟩

theorem wp_onRaise_outcome (e : Raised) (v : Locals) {g : Written} (h : Interrupted g) :
    wp attemptMonitor (X.onRaise P request e v) (fun r g' => Ended r.1 g') g := by
  cases e with
  | refusal caught =>
    refine wp_vars (wp_seq _ (wp_calm (calm_releaseCredential _ _) v h) ?_ fun e v1 g1 ⟨⟨_, h1⟩, _⟩ => nomatch h1)
    rintro _ v1 g1 ⟨-, rfl⟩
    refine wp_seq _ (wp_calm (calm_releaseUnlessConsumed _) v1 h) ?_ fun e v1 g1 ⟨⟨_, h1⟩, _⟩ => nomatch h1
    rintro _ v2 g2 ⟨-, rfl⟩
    exact wp_emitRefusal_outcome _ v2 h
  | other e =>
    refine wp_vars (wp_seq _ (wp_calm (calm_releaseCredential _ _) v h) ?_ fun e v1 g1 ⟨⟨_, h1⟩, _⟩ => nomatch h1)
    rintro _ v1 g1 ⟨-, rfl⟩
    refine wp_seq _ (wp_calm calm_consumeUnlessConsumed v1 h) ?_ fun e v1 g1 ⟨⟨_, h1⟩, _⟩ => nomatch h1
    rintro _ v2 g2 ⟨-, rfl⟩
    exact wp_emitRefusal_outcome _ v2 h

/-! ## the `try` block -/

/-- the `try` block returns with its receipt written, or is interrupted -/
def TriedOnce (r : Except Raised ExecutionResult × Locals) (g : Written) : Prop :=
  match r.1 with
  | .ok result => result.receipt.outcome = .executed ∧ g = { receipts := [result.receipt] }
  | .error _ => Interrupted g

theorem interrupted_empty : Interrupted {} := Or.inl rfl

/-- the receipt is drawn; nothing is written -/
theorem wp_createReceipt_outcome (payload : Json) (v : Locals) :
    wp attemptMonitor (createExecutionReceipt P request payload v)
      (fun r g' => g' = {} ∧ ∀ created, r.1 = .ok created → created.outcome = .executed) {} := by
  refine wp_lift ?_ fun e _ => ⟨rfl, fun created hr => nomatch hr⟩
  intro make hmake
  refine wp_perform (settling_delivers rfl) ?_ fun e hp => nomatch hp rfl
  intro receiptId _
  refine ⟨rfl, ?_⟩
  intro created hr
  cases hr
  exact executionReceipt_outcome (orRaise_ok hmake) receiptId

theorem withEvidence_outcome (v : Locals) (receipt : Receipt) :
    (v.withEvidence receipt).outcome = receipt.outcome := by
  unfold Locals.withEvidence
  split
  · rfl
  · rfl

/-- a statement that writes nothing, and the rest of the `try` block -/
theorem wp_unwriting_then {α : Type} {m : Run α} (hm : Frame Unwriting (fun _ => True) m)
    {f : α → Run ExecutionResult} {v : Locals} (hf : ∀ a v', wp attemptMonitor (f a v') TriedOnce {}) :
    wp attemptMonitor ((m >>= f) v) TriedOnce {} := by
  refine wp_seq _ (wp_unwriting hm v interrupted_empty) ?_ ?_
  · rintro a v' _ rfl
    exact hf a v'
  · rintro e v' _ rfl
    exact interrupted_empty

theorem wp_complete_outcome (credential : BrokeredCredential) (payload : Json) (v : Locals) :
    wp attemptMonitor (X.complete P request credential payload v) TriedOnce {} := by
  refine wp_unwriting_then (frame_readEvidence (fun _ _ h => h) _) fun _ v1 => ?_
  refine wp_lift ?_ fun e _ => interrupted_empty
  intro given _
  refine wp_perform (interrupted_empty.settling rfl) ?_ fun e _ => interrupted_empty
  intro _ _
  refine wp_seq _ (wp_createReceipt_outcome _ v1) ?_ fun e v2 g2 h2 => Or.inl h2.1
  rintro created v2 g2 ⟨rfl, hcreated⟩
  have hout : (v2.withEvidence created).outcome = .executed :=
    (withEvidence_outcome v2 created).trans (hcreated created rfl)
  refine wp_vars (wp_perform (settling_delivers rfl) ?_ fun e hp => nomatch hp rfl)
  intro _ _
  unfold ProtectedExecutor.recordResult
  cases X.operation request with
  | none => exact ⟨hout, rfl⟩
  | some op =>
    refine wp_perform (settling_record hout rfl) (fun _ _ => ⟨hout, rfl⟩) ?_
    intro e _
    exact Or.inr ⟨_, hout, rfl⟩

theorem wp_dispatch_outcome (v : Locals) : wp attemptMonitor (X.dispatch P request v) TriedOnce {} := by
  refine wp_unwriting_then (frame_consumeEscrow fun _ _ _ _ => trivial) fun _ v1 => ?_
  refine wp_unwriting_then (frame_claimEffect (fun _ _ => trivial) fun _ _ h => h) fun _ v2 => ?_
  refine wp_perform (interrupted_empty.settling rfl) ?_ fun e _ => interrupted_empty
  intro credential _
  refine wp_assign (wp_unwriting_then (frame_consumeReplay (fun _ _ => trivial) fun _ _ h => h) fun _ v4 => ?_)
  refine wp_assign (wp_perform (interrupted_empty.settling rfl) ?_ fun e _ => interrupted_empty)
  intro payload _
  exact wp_complete_outcome credential payload _

theorem wp_returnPrior_outcome (prior : Prior) (v : Locals) :
    wp attemptMonitor (X.returnPrior P request prior v) TriedOnce {} := by
  unfold ProtectedExecutor.returnPrior
  split
  · cases hc : (priorConflict P (Dict.get request.intent.metadata "operation_id") prior
        request.pccb.actionHash.value : PyM ExecutionResult) with
    | ok result =>
      unfold priorConflict at hc
      obtain ⟨name, _, hc⟩ := Fallible.bind_eq_ok.mp hc
      cases hc
    | error e => exact interrupted_empty
  · refine wp_unwriting_then (frame_consumeReplay (fun _ _ => trivial) fun _ _ h => h) fun _ v4 => ?_
    refine wp_seq _ (wp_createReceipt_outcome _ v4) ?_ fun e v5 g5 h5 => Or.inl h5.1
    rintro created v5 g5 ⟨rfl, hcreated⟩
    exact wp_perform (settling_delivers rfl) (fun _ _ => ⟨hcreated created rfl, rfl⟩) fun e hp => nomatch hp rfl

theorem wp_attempt_outcome (decision : Option PolicyDecision) (v : Locals) :
    wp attemptMonitor (X.attempt P request decision v) TriedOnce {} := by
  refine wp_lift ?_ fun e _ => interrupted_empty
  intro _ _
  refine wp_unwriting_then (frame_claimReplay fun _ _ => trivial) fun state v1 => ?_
  refine wp_assign (wp_unwriting_then (frame_lookupPrior fun _ _ _ => trivial) fun prior v3 => ?_)
  cases prior with
  | none => exact wp_dispatch_outcome v3
  | some prior => exact wp_returnPrior_outcome prior v3

/-- **One call.** -/
theorem wp_call_outcome (decision : Option PolicyDecision) :
    wp attemptMonitor (X.call P request decision) (fun r g => Ended r.1 g) {} := by
  refine wp_catching _ (wp_attempt_outcome decision {}) ?_ ?_
  · exact fun result v g h => Or.inl h
  · exact fun e v g h => wp_onRaise_outcome e v h

/-! ## runs -/

theorem run_outcomeMonitor (t : List KernelEvent) (g : Written) :
    outcomeMonitor.run g t = t.foldl Written.next g := by
  induction t generalizing g with
  | nil => rfl
  | cons e t ih => exact ih _

theorem Delivered.possible {t : List KernelEvent} (h : Delivered t) (g : Written) :
    outcomeMonitor.Possible g t := by
  induction t generalizing g with
  | nil => trivial
  | cons e t ih =>
    exact ⟨h e List.mem_cons_self, ih (fun x hx => h x (List.mem_cons_of_mem _ hx)) _⟩

/-- the outcome of a call that returns -/
theorem Ended.oneOutcome_iff {result : ExecutionResult} {g : Written} (h : Ended (.ok result) g) :
    OneOutcome g ↔ g.recordFailed = false := by
  rcases h with ⟨hout, rfl⟩ | ⟨hout, g₀, refusal, rfl | ⟨receipt, hexec, rfl⟩, rfl⟩
  · exact iff_of_true (oneOutcome_executed hout false) rfl
  · exact iff_of_true ⟨result.receipt, rfl, fun _ => hout, fun _ hn => nomatch hn⟩ rfl
  · exact iff_of_false (fun ⟨_, hr, _⟩ => nomatch hr) fun hf => nomatch hf

end

end Actenon
