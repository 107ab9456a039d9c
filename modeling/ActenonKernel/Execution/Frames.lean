import ActenonKernel.Execution.Executor

/-!
# What the phases of an execution call

For every phase of `execute`: the operations it can call, and the local variables it leaves alone.
`I` is any set of operations that has those of the phase, `J` any property of the variables that
the assignments of the phase keep.
-/

set_option linter.unusedSectionVars false

namespace Actenon

open Program

/-! ## the replay store -/

section
variable {S : Type} {I : Op → Prop} {J : S → Prop} (hinspect : ∀ inst k n, I (.store inst (.inspect k n)))
include hinspect

theorem frame_inspect (inst : Nat) (key : String) (now : Datetime) (depth : Nat) :
    Frame I J (inspectUpTo inst key now depth) := by
  induction depth with
  | zero => exact frame_raise _
  | succ depth ih =>
    refine frame_seq (frame_perform (hinspect _ _ _)) fun answer => ?_
    cases answer with
    | missing => exact frame_pure _
    | expired => exact ih
    | found row => exact frame_pure _

theorem frame_claimOnce (hclaim : ∀ inst c n, I (.store inst (.claim c n))) (inst : Nat)
    (claim : ActionConsumptionClaim) (now : Datetime) : Frame I J (claimOnce inst claim now) := by
  refine frame_seq (frame_perform (hclaim _ _ _)) fun inserted => ?_
  refine frame_seq (frame_inspect hinspect _ _ _ _) fun state => ?_
  cases inserted with
  | false => exact frame_raise _
  | true => exact frame_pure _

theorem frame_claimRequest (hclaim : ∀ inst c n, I (.store inst (.claim c n))) (P : Platform)
    (inst : Nat) (request : ProtectedExecutionRequest) : Frame I J (claimRequest P inst request) :=
  frame_seq (frame_lift _) fun claim => frame_claimOnce hinspect hclaim inst claim _

theorem frame_markConsumed (hconsume : ∀ inst k n, I (.store inst (.consume k n))) (inst : Nat)
    (key : String) (now : Datetime) : Frame I J (markConsumed inst key now) := by
  refine frame_seq (frame_perform (hconsume _ _ _)) fun changed => ?_
  refine frame_seq (frame_inspect hinspect _ _ _ _) fun state => ?_
  cases changed with
  | false => exact frame_raise _
  | true => exact frame_pure _

theorem frame_releaseClaim (hrelease : ∀ inst k n r, I (.store inst (.release k n r))) (inst : Nat)
    (key : String) (now : Datetime) (reason : String) :
    Frame I J (releaseClaim inst key now reason) := by
  refine frame_seq (frame_perform (hrelease _ _ _ _)) fun answer => ?_
  cases answer with
  | missing => exact frame_raise _
  | alreadyConsumed row => exact frame_pure _
  | notClaimed status => exact frame_raise _
  | released => exact frame_inspect hinspect _ _ _ _

end

/-! ## artifacts -/

section
variable {S : Type} {I : Op → Prop} {J : S → Prop} {P : Platform}
  {request : ProtectedExecutionRequest}

theorem frame_createExecutionReceipt (hid : I .receiptId) (payload : Json) :
    Frame I J (createExecutionReceipt P request payload) :=
  frame_seq (frame_lift _) fun _ => frame_seq (frame_perform hid) fun _ => frame_pure _

theorem frame_createRefusal (hid : I .refusalId) (exc : RefusalException) :
    Frame I J (createRefusal request exc) :=
  frame_seq (frame_perform hid) fun _ => frame_pure _

theorem frame_createRefusedReceipt (hid : I .receiptId) (refusal : Refusal) :
    Frame I J (createRefusedReceipt P request refusal) :=
  frame_seq (frame_lift _) fun _ => frame_seq (frame_perform hid) fun _ => frame_pure _

theorem frame_writeOutcome (hreceipt : ∀ r, I (.writeReceipt r)) (hrefusal : ∀ r, I (.writeRefusal r))
    (refusal : Refusal) (receipt : Receipt) : Frame I J (writeOutcome refusal receipt) :=
  frame_seq (frame_perform (hrefusal refusal)) fun _ =>
    frame_seq (frame_perform (hreceipt receipt)) fun _ => frame_pure _

end

/-! ## the executor -/

section
variable {I : Op → Prop} {J : Locals → Prop} {P : Platform} {X : ProtectedExecutor}
  {request : ProtectedExecutionRequest}

theorem frame_onStoreFailure {α : Type} (dflt : α) (unavailable e : Raised) :
    Frame I J (X.onStoreFailure dflt unavailable e) := by
  cases e with
  | refusal e => exact frame_raise _
  | other e =>
    show Frame I J (if X.failOpen then pure dflt else Act.raise unavailable)
    split
    · exact frame_pure _
    · exact frame_raise _

theorem frame_claimReplay (hstore : ∀ inst tx, I (.store inst tx)) :
    Frame I J (X.claimReplay P request) := by
  unfold ProtectedExecutor.claimReplay
  split
  · exact frame_pure _
  · exact frame_catching (frame_claimRequest (fun _ _ _ => hstore _ _) (fun _ _ _ => hstore _ _) _ _ _) fun e => frame_onStoreFailure _ _ e

theorem frame_markReplayConsumed (hstore : ∀ inst tx, I (.store inst tx))
    (state : Option ActionConsumptionState) : Frame I J (X.markReplayConsumed request state) := by
  unfold ProtectedExecutor.markReplayConsumed
  split
  · exact frame_catching (frame_seq (frame_markConsumed (fun _ _ _ => hstore _ _) (fun _ _ _ => hstore _ _) _ _ _) fun _ => frame_pure _)
      fun e => frame_onStoreFailure _ _ e
  · exact frame_pure _

theorem frame_releaseReplayClaim (hstore : ∀ inst tx, I (.store inst tx))
    (state : Option ActionConsumptionState) (reason : String) :
    Frame I J (X.releaseReplayClaim request state reason) := by
  unfold ProtectedExecutor.releaseReplayClaim
  split
  · exact frame_catching (frame_seq (frame_releaseClaim (fun _ _ _ => hstore _ _) (fun _ _ _ _ => hstore _ _) _ _ _ _) fun _ => frame_pure _)
      fun _ => frame_pure _
  · exact frame_pure _

theorem frame_consumeReplay (hstore : ∀ inst tx, I (.store inst tx))
    (hJ : ∀ v b, J v → J { v with replayConsumed := b }) : Frame I J (X.consumeReplay request) :=
  frame_seq frame_vars fun _ => frame_seq (frame_markReplayConsumed hstore _) fun b =>
    frame_assign fun v => hJ v b

theorem frame_releaseCredential (hrelease : ∀ c d, I (.release c d))
    (credential : Option BrokeredCredential) (outcome : Dict) :
    Frame I J (releaseCredential credential outcome) := by
  unfold releaseCredential
  split
  · exact frame_pure _
  · exact frame_catching (frame_perform (hrelease _ _)) fun _ => frame_pure _

theorem frame_consumeEscrow (hescrow : ∀ i p c n, I (.escrowConsume i p c n)) :
    Frame I J (X.consumeEscrow request) := by
  unfold ProtectedExecutor.consumeEscrow
  split
  · split
    · exact frame_raise _
    · exact frame_perform (hescrow _ _ _ _)
  · exact frame_pure _

theorem frame_claimRequest_effect {S : Type} {J : S → Prop} (heffect : ∀ r q, I (.effectClaim r q))
    (E : EffectProtector) : Frame I J (E.claimRequest P request (S := S)) := by
  refine frame_seq (frame_lift _) fun reference => ?_
  refine frame_seq (frame_catching (frame_perform (heffect _ _)) fun _ => frame_raise _) fun claimed => ?_
  cases claimed with
  | false => exact frame_raise _
  | true => exact frame_pure _

theorem frame_claimEffect (heffect : ∀ r q, I (.effectClaim r q))
    (hJ : ∀ v r, J v → J { v with effectReference := some r }) : Frame I J (X.claimEffect P request) := by
  unfold ProtectedExecutor.claimEffect
  split
  · exact frame_pure _
  · exact frame_seq (frame_claimRequest_effect heffect _) fun r => frame_assign fun v => hJ v r

theorem frame_readEvidence (hJ : ∀ v d, J v → J { v with effectEvidence := some d }) (payload : Json) :
    Frame I J (readEvidence P payload) := by
  refine frame_seq frame_vars fun v => ?_
  split
  · exact frame_pure _
  · refine frame_seq (frame_lift _) fun raw => ?_
    split
    · exact frame_raise _
    · refine frame_seq (frame_assign fun v => hJ v _) fun _ => ?_
      split
      · exact frame_pure _
      · exact frame_raise _

theorem frame_lookupPrior (hlookup : ∀ s o, X.operation request = some (s, o) → I (.lookup s o)) :
    Frame I J (X.lookupPrior request) := by
  unfold ProtectedExecutor.lookupPrior
  split
  · exact frame_pure _
  · rename_i hop
    exact frame_perform (hlookup _ _ hop)

theorem frame_recordResult
    (hrecord : ∀ s o, X.operation request = some (s, o) → ∀ a r, I (.record s o a r)) (payload : Json) :
    Frame I J (X.recordResult request payload) := by
  unfold ProtectedExecutor.recordResult
  split
  · exact frame_pure _
  · rename_i hop
    exact frame_perform (hrecord _ _ hop _ _)

theorem frame_returnPrior (hstore : ∀ inst tx, I (.store inst tx)) (hreceipt : I .receiptId)
    (hwrite : ∀ r, I (.writeReceipt r)) (hJ : ∀ v b, J v → J { v with replayConsumed := b })
    (prior : Prior) : Frame I J (X.returnPrior P request prior) := by
  unfold ProtectedExecutor.returnPrior
  split
  · exact frame_lift _
  · exact frame_seq (frame_consumeReplay hstore hJ) fun _ =>
      frame_seq (frame_createExecutionReceipt hreceipt _) fun _ =>
        frame_seq (frame_perform (hwrite _)) fun _ => frame_pure _

theorem frame_complete (hrelease : ∀ c d, I (.release c d)) (hreceipt : I .receiptId)
    (hwrite : ∀ r, I (.writeReceipt r))
    (hrecord : ∀ s o, X.operation request = some (s, o) → ∀ a r, I (.record s o a r))
    (hJ : ∀ v d, J v → J { v with effectEvidence := some d }) (credential : BrokeredCredential)
    (payload : Json) : Frame I J (X.complete P request credential payload) :=
  frame_seq (frame_readEvidence hJ _) fun _ => frame_seq (frame_lift _) fun _ =>
    frame_seq (frame_perform (hrelease _ _)) fun _ =>
      frame_seq (frame_createExecutionReceipt hreceipt _) fun _ => frame_seq frame_vars fun _ =>
        frame_seq (frame_perform (hwrite _)) fun _ =>
          frame_seq (frame_recordResult hrecord _) fun _ => frame_pure _

/-! ## the `except` clauses -/

theorem frame_releaseUnlessConsumed (hstore : ∀ inst tx, I (.store inst tx)) (reason : String) :
    Frame I J (X.releaseUnlessConsumed request reason) := by
  refine frame_seq frame_vars fun v => ?_
  split
  · exact frame_pure _
  · exact frame_releaseReplayClaim hstore _ _

theorem frame_consumeUnlessConsumed (hstore : ∀ inst tx, I (.store inst tx))
    (hJ : ∀ v b, J v → J { v with replayConsumed := b }) :
    Frame I J (X.consumeUnlessConsumed request) := by
  refine frame_seq frame_vars fun v => ?_
  split
  · exact frame_pure _
  · refine frame_catching (frame_consumeReplay hstore hJ) fun e => ?_
    cases e with
    | refusal e => exact frame_pure _
    | other e => exact frame_raise _

theorem frame_emitRefusal (hreceipt : I .receiptId) (hrefusal : I .refusalId)
    (hwrite : ∀ r, I (.writeReceipt r)) (hwriteRefusal : ∀ r, I (.writeRefusal r))
    (exc : RefusalException) : Frame I J (emitRefusal P request exc) :=
  frame_seq (frame_createRefusal hrefusal _) fun _ =>
    frame_seq (frame_createRefusedReceipt hreceipt _) fun _ => frame_seq frame_vars fun _ =>
      frame_seq (frame_lift _) fun _ => frame_writeOutcome hwrite hwriteRefusal _ _

theorem frame_onRaise (hstore : ∀ inst tx, I (.store inst tx)) (hrelease : ∀ c d, I (.release c d))
    (hreceipt : I .receiptId) (hrefusal : I .refusalId) (hwrite : ∀ r, I (.writeReceipt r))
    (hwriteRefusal : ∀ r, I (.writeRefusal r)) (hJ : ∀ v b, J v → J { v with replayConsumed := b })
    (e : Raised) : Frame I J (X.onRaise P request e) := by
  cases e with
  | refusal caught =>
    exact frame_seq frame_vars fun _ => frame_seq (frame_releaseCredential hrelease _ _) fun _ =>
      frame_seq (frame_releaseUnlessConsumed hstore _) fun _ =>
        frame_emitRefusal hreceipt hrefusal hwrite hwriteRefusal _
  | other e =>
    exact frame_seq frame_vars fun _ => frame_seq (frame_releaseCredential hrelease _ _) fun _ =>
      frame_seq (frame_consumeUnlessConsumed hstore hJ) fun _ =>
        frame_emitRefusal hreceipt hrefusal hwrite hwriteRefusal _

/-! ## the whole call -/

/-- everything but the idempotency store -/
def Elsewhere : Op → Prop
  | .lookup _ _ => False
  | .record _ _ _ _ => False
  | _ => True

/-- a call reaches the idempotency store for its own operation only -/
theorem frame_execute (hother : ∀ op, Elsewhere op → I op)
    (hlookup : ∀ s o, X.operation request = some (s, o) → I (.lookup s o))
    (hrecord : ∀ s o, X.operation request = some (s, o) → ∀ a r, I (.record s o a r))
    (decision : Option PolicyDecision) :
    Frame I (fun _ => True) (X.execute P request decision) := by
  have hstore : ∀ inst tx, I (.store inst tx) := fun _ _ => hother _ trivial
  have hrelease : ∀ c d, I (.release c d) := fun _ _ => hother _ trivial
  have hid : I .receiptId := hother _ trivial
  have hwrite : ∀ r, I (.writeReceipt r) := fun _ => hother _ trivial
  refine frame_catching ?_ fun e => frame_onRaise hstore hrelease hid (hother _ trivial) hwrite
    (fun _ => hother _ trivial) (fun _ _ h => h) e
  refine frame_seq (frame_lift _) fun _ => frame_seq (frame_claimReplay hstore) fun _ =>
    frame_seq (frame_assign fun _ h => h) fun _ => frame_seq (frame_lookupPrior hlookup) fun prior => ?_
  cases prior with
  | some prior => exact frame_returnPrior hstore hid hwrite (fun _ _ h => h) prior
  | none =>
    refine frame_seq (frame_consumeEscrow fun _ _ _ _ => hother _ trivial) fun _ =>
      frame_seq (frame_claimEffect (fun _ _ => hother _ trivial) fun _ _ h => h) fun _ =>
      frame_seq (frame_perform (hother _ trivial)) fun _ => frame_seq (frame_assign fun _ h => h) fun _ =>
      frame_seq (frame_consumeReplay hstore fun _ _ h => h) fun _ =>
      frame_seq (frame_assign fun _ h => h) fun _ => frame_seq (frame_perform (hother _ trivial)) fun _ => ?_
    exact frame_complete hrelease hid hwrite hrecord (fun _ _ h => h) _ _

end

end Actenon
