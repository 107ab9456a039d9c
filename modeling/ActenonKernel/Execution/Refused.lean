import ActenonKernel.Execution.Window
import ActenonKernel.Escrow.Sqlite

/-!
# What a refusal before the handler leaves behind

A call that runs alone claims the replay key, consumes the escrow and asks for a credential before it
calls the handler.  A refusal on the way gives the claim back, so that the key can be claimed after
the call exactly when it could before.  The escrow is not given back: once it is consumed, a refused
credential leaves its record consumed.

* `wp_attempt_retractable`            where the `try` block stands when it raises a refusal;
* `wp_onRefusal_usable`          what the `except` clause makes of it;
* `refused_before_handler`       both stores after the call.
-/

set_option linter.unusedSectionVars false

namespace Actenon

open Program

/-! ## runs against the stores -/

/-- the operation comes before the handler and before a receipt is made -/
def Op.isEarly : Op → Bool
  | .handler _ _ | .receiptId | .writeReceipt _ => false
  | _ => true

/-- the credential broker raised a refusal -/
def credentialRefused (e : KernelEvent) : Bool :=
  match e with
  | ⟨.acquire _, answer⟩ =>
    match (show PyM BrokeredCredential from answer) with
    | .error (.refusal _) => true
    | _ => false
  | _ => false

/-- what a call that runs alone has done: the stores, whether it is still early, and whether a
credential was refused -/
structure Held where
  alone : Alone
  escrow : EscrowTable
  early : Bool := true
  refused : Bool := false

def Held.stores (g : Held) : Stores := ⟨g.alone.world, g.escrow⟩

section
variable (P : Platform) (realText : PyFloat → String) (answers : (op : Op) → Res op)

def held : Monitor Res Held where
  allow _ _ := True
  possible g op r := r = (Stores.env P realText answers op g.stores).1
  next g op r :=
    { alone := (alone P answers).next g.alone op r
      escrow := (Stores.env P realText answers op g.stores).2.escrow
      early := g.early && op.isEarly
      refused := g.refused || credentialRefused ⟨op, r⟩ }

/-- the stores as a call sees them are the stores -/
theorem held_stores (w : Stores) (g : Held) (op : Op) (h : g.stores = w) :
    (held P realText answers).possible g op (Stores.env P realText answers op w).1 ∧
      ((held P realText answers).next g op (Stores.env P realText answers op w).1).stores
        = (Stores.env P realText answers op w).2 := by
  subst h
  refine ⟨rfl, ?_⟩
  cases op <;> rfl

theorem held_run (g : Held) (t : List KernelEvent) :
    ((held P realText answers).run g t).early = (g.early && t.all fun e => e.1.isEarly) ∧
      ((held P realText answers).run g t).refused = (g.refused || t.any credentialRefused) := by
  induction t generalizing g with
  | nil => exact ⟨(Bool.and_true _).symm, (Bool.or_false _).symm⟩
  | cons e t ih =>
    obtain ⟨h1, h2⟩ := ih ((held P realText answers).next g e.1 e.2)
    rw [List.all_cons, List.any_cons, ← Bool.and_assoc, ← Bool.or_assoc]
    exact ⟨h1, h2⟩

/-- the run of a program that meets its specification, from its stores -/
theorem held_exec {α : Type} {p : Prog Op Res α} {Q : α → Held → Prop} {w : Stores} {g : Held}
    (hg : g.stores = w) (h : wp (held P realText answers) p Q g) :
    ∃ g', Q (exec (Stores.env P realText answers) p w).1 g' ∧
      g'.stores = (exec (Stores.env P realText answers) p w).2.1 ∧
      g'.early = (g.early && (exec (Stores.env P realText answers) p w).2.2.all fun e => e.1.isEarly) ∧
      g'.refused
        = (g.refused || (exec (Stores.env P realText answers) p w).2.2.any credentialRefused) := by
  obtain ⟨hQ, hstores⟩ := wp_exec (R := fun w g => g.stores = w)
    (fun w g op hg => held_stores P realText answers w g op hg) h hg
  obtain ⟨hearly, hrefused⟩ := held_run P realText answers g
    (exec (Stores.env P realText answers) p w).2.2
  exact ⟨_, hQ, hstores, hearly, hrefused⟩

end

section
variable {P : Platform} {realText : PyFloat → String} {answers : (op : Op) → Res op} {S α : Type}

/-- the parts of the ghost state that the replay store does not touch -/
structure Held.Beside (g g' : Held) : Prop where
  escrow : g'.escrow = g.escrow
  early : g'.early = g.early
  refused : g'.refused = g.refused

theorem Held.Beside.trans {g g' g'' : Held} (h : g.Beside g') (h' : g'.Beside g'') : g.Beside g'' :=
  ⟨h'.escrow.trans h.escrow, h'.early.trans h.early, h'.refused.trans h.refused⟩

/-- a phase that calls the replay store only does what it does without the escrow -/
theorem wp_held_of_alone {J : S → Prop} {m : Kernel S α} (hm : Frame (fun op => op.isStore = true) J m)
    {v : S} (hv : J v) {g : Held} {Q : Except Raised α × S → Alone → Prop}
    (h : wp (alone P answers) (m v) Q g.alone) :
    wp (held P realText answers) (m v) (fun r g' => Q r g'.alone ∧ J r.2 ∧ g.Beside g') g := by
  refine wp_and (wp_pull_only Held.alone (fun _ _ _ => trivial) ?_ (fun _ _ _ _ => rfl) (hm v hv) h) ?_
  · intro g op r hop hp
    cases op with
    | store inst tx => exact hp
    | _ => cases hop
  · refine wp_frame (K := fun g' => g.Beside g') hm ?_ hv ⟨rfl, rfl, rfl⟩
    intro g' op hbeside hop
    refine ⟨trivial, fun r _ => ?_⟩
    cases op with
    | store inst tx =>
      exact hbeside.trans ⟨rfl, Bool.and_true _, Bool.or_false _⟩
    | _ => cases hop

/-- neither a store nor the escrow: the stores stay as they are -/
def Storeless : Op → Prop
  | .store _ _ | .record _ _ _ _ | .escrowConsume _ _ _ _ => False
  | _ => True

theorem held_next_storeless {g : Held} {op : Op} (hop : Storeless op) (r : Res op) :
    ((held P realText answers).next g op r).stores = g.stores := by
  cases op with
  | store inst tx => cases hop
  | record s o a x => cases hop
  | escrowConsume i p c n => cases hop
  | _ => rfl

theorem wp_storeless {J : S → Prop} {m : Kernel S α} (hm : Frame Storeless J m) {v : S} (hv : J v)
    {g : Held} {w : Stores} (hg : g.stores = w) :
    wp (held P realText answers) (m v) (fun r g' => J r.2 ∧ g'.stores = w) g := by
  refine wp_frame (K := fun g' : Held => g'.stores = w) hm ?_ hv hg
  intro g' op hg' hop
  exact ⟨trivial, fun r _ => (held_next_storeless hop r).trans hg'⟩

/-- the operation changes nothing that a call is judged by -/
def Idle : Op → Prop
  | .lookup _ _ | .release _ _ => True
  | _ => False

theorem held_next_idle {g : Held} {op : Op} (hop : Idle op) (r : Res op) :
    (held P realText answers).next g op r = g := by
  cases op with
  | lookup s o =>
    show Held.mk ⟨g.alone.world, false || g.alone.handled⟩ g.escrow (g.early && true) (g.refused || false) = g
    rw [Bool.false_or, Bool.and_true, Bool.or_false]
  | release c o =>
    show Held.mk ⟨g.alone.world, false || g.alone.handled⟩ g.escrow (g.early && true) (g.refused || false) = g
    rw [Bool.false_or, Bool.and_true, Bool.or_false]
  | _ => cases hop

/-- what is no longer early stays so -/
theorem wp_late {m : Kernel S α} (hm : Frame (fun _ => True) (fun _ => True) m) (v : S) {g : Held}
    (hg : g.early = false) :
    wp (held P realText answers) (m v) (fun _ g' => g'.early = false) g := by
  refine wp_mono (wp_frame (K := fun g' : Held => g'.early = false) hm ?_ trivial hg) fun _ _ h => h.2
  intro g' op hg' _
  refine ⟨trivial, fun r _ => ?_⟩
  show (g'.early && op.isEarly) = false
  rw [hg', Bool.false_and]

end

/-! ## the `try` block -/

section
variable {P : Platform} {realText : PyFloat → String} {answers : (op : Op) → Res op}
  {X : ProtectedExecutor} {request : ProtectedExecutionRequest} {key : String} {inst : Nat} {w : Stores}

/-- the escrow after a refusal: as before, or consumed when the credential was refused after it -/
def EscrowAfter (realText : PyFloat → String) (request : ProtectedExecutionRequest) (refused : Bool)
    (before after : EscrowTable) : Prop :=
  (refused = false → after = before) ∧
  (refused = true → ∃ id record, boundText realText request.pccb.escrowId = .ok (some id) ∧
    before.find id = some record ∧ record.state = .issued ∧
    after = consumeRecord before id request.context.now)

/-- the call has claimed the key, which it could -/
def Claiming (request : ProtectedExecutionRequest) (key : String) (w : Stores) (v : Locals) (g : Alone) :
    Prop :=
  ∃ row, v.replayState = some row ∧ row.replayKey = key ∧ row.status = .claimed ∧ g.Has key row ∧
    w.world.replay.Claimable key request.context.now

/-- the call has claimed nothing, and the row of the key is as before -/
def Unclaiming (key : String) (w : Stores) (v : Locals) (g : Alone) : Prop :=
  v.replayState = none ∧ g.world.replay.Monotone ∧
    g.world.replay.find key = w.world.replay.find key

/-- where the `try` block stands when it raises a refusal early -/
structure Retractable (realText : PyFloat → String) (request : ProtectedExecutionRequest) (key : String)
    (w : Stores) (v : Locals) (g : Held) : Prop where
  unconsumed : v.replayConsumed = false
  claim : Claiming request key w v g.alone ∨ Unclaiming key w v g.alone
  escrow : EscrowAfter realText request g.refused w.escrow g.escrow

/-- a claim of the request goes in, or it is refused and the row of the key stays as it is.  A row
that `inspect` would expire is one that the claim itself expires. -/
theorem wp_claimRequest_cases {S : Type} (inst : Nat) (v : S) {g : Alone}
    (hkey : buildReplayKey P request.intent request.pccb request.context = .ok key)
    (hm : g.world.replay.Monotone) (hlive : request.context.now < request.pccb.expiresAt)
    (htext : ∀ row, g.world.replay.find key = some row → row.status = .claimed →
      row.expiresAt ≤ request.context.now → row.textExpired request.context.now = true) :
    wp (alone P answers) (claimRequest P inst request v)
      (fun r g' => (∃ row, r = (.ok (some row), v) ∧ row.replayKey = key ∧ row.status = .claimed ∧
          g'.Has key row ∧ g.world.replay.Claimable key request.context.now) ∨
        ∃ e, r = (.error (.refusal e), v) ∧ g'.world.replay.Monotone ∧
          g'.world.replay.find key = g.world.replay.find key) g := by
  by_cases hfree : g.world.replay.Claimable key request.context.now
  · refine wp_mono (wp_claimRequest_alone inst v hkey hm hfree) ?_
    rintro r g' ⟨row, hr, hrow, hstatus, hhas, -⟩
    exact Or.inl ⟨row, hr, hrow, hstatus.mpr hlive, hhas, hfree⟩
  · obtain ⟨row, hrow, hnot⟩ := row_of_not_claimable hfree
    obtain ⟨claim, hclaim, -, rfl⟩ := buildActionConsumptionClaim_ok hkey
    have hread : row.readAt request.context.now = row :=
      if_neg fun hdue => hnot ⟨hdue.1, htext row hrow hdue.1 hdue.2⟩
    refine wp_lift ?_ fun e he => ?_
    · intro claim' hc
      cases hclaim.symm.trans (orRaise_ok hc)
      refine wp_mono (wp_claimOnce_taken inst claim request.context.now v ⟨hm, hrow⟩ hfree) ?_
      rintro r g' ⟨hr, hhas, -⟩
      rw [hread] at hr hhas
      exact Or.inr ⟨_, hr, hhas.monotone, hhas.find.trans hrow.symm⟩
    · rw [hclaim] at he
      cases he

/-- the same for the executor, with the escrow beside it -/
theorem wp_claimReplay_held (hinst : X.replayProtector = some inst)
    (hkey : buildReplayKey P request.intent request.pccb request.context = .ok key)
    (hm : w.world.replay.Monotone) (hlive : request.context.now < request.pccb.expiresAt)
    (htext : ∀ row, w.world.replay.find key = some row → row.status = .claimed →
      row.expiresAt ≤ request.context.now → row.textExpired request.context.now = true) :
    wp (held P realText answers) (X.claimReplay P request {})
      (fun r g' => (r.2 = ({} : Locals) ∧ Held.Beside ⟨⟨w.world, false⟩, w.escrow, true, false⟩ g') ∧
        ((∃ row, r.1 = .ok (some row) ∧ Claiming request key w { replayState := some row } g'.alone) ∨
          ∃ e, r.1 = .error (.refusal e) ∧ Unclaiming key w {} g'.alone))
      ⟨⟨w.world, false⟩, w.escrow, true, false⟩ := by
  have hreplay : X.claimReplay P request = Act.catching (claimRequest P inst request)
      (X.onStoreFailure none (replayStoreUnavailable
        "Replay/single-use state could not be established. Execution was refused." "claim")) := by
    unfold ProtectedExecutor.claimReplay
    rw [hinst]
  rw [hreplay]
  refine wp_catching _ (wp_held_of_alone (J := fun v => v = {})
    (frame_claimRequest (fun _ _ _ => rfl) (fun _ _ _ => rfl) P inst request) rfl
    (wp_claimRequest_cases inst _ hkey hm hlive htext)) ?_ ?_
  · rintro state v g' ⟨⟨row, hr, hrow, hstatus, hhas, hfree⟩ | ⟨e, hr, -⟩, hv, hbeside⟩
    · cases hr
      exact ⟨⟨rfl, hbeside⟩, Or.inl ⟨row, rfl, row, rfl, hrow, hstatus, hhas, hfree⟩⟩
    · cases hr
  · rintro e v g' ⟨⟨row, hr, -⟩ | ⟨e', hr, hm', hfind⟩, hv, hbeside⟩
    · cases hr
    · cases hr
      exact ⟨⟨rfl, hbeside⟩, Or.inr ⟨e', rfl, rfl, hm', hfind⟩⟩

/-- a lookup that raises does not raise a refusal -/
theorem find_error {rs : Records} {operationId : Json} {e : Raised} (h : rs.find operationId = .error e) :
    ∃ e', e = .other e' := by
  unfold Records.find at h
  cases hk : operationId.toKey with
  | ok k =>
    rw [hk] at h
    cases h
  | error e' =>
    rw [hk] at h
    cases h
    exact ⟨e', rfl⟩

/-- after the receipt has been started, or on an exception that is no refusal -/
def LateOrOther {α : Type} (r : Except Raised α × Locals) (g : Held) : Prop :=
  (∀ e, r.1 ≠ .error (.refusal e)) ∨ g.early = false

theorem wp_createExecutionReceipt_late {β : Type} (payload : Json) {f : Receipt → Run β} {v : Locals}
    {g : Held} (hf : ∀ receipt, Frame (fun _ => True) (fun _ => True) (f receipt)) :
    wp (held P realText answers) ((createExecutionReceipt P request payload >>= f) v) LateOrOther g := by
  refine wp_seq (fun r g' => (∃ e, r.1 = .error (.other e)) ∨ g'.early = false) ?_ ?_ ?_
  · refine wp_lift ?_ ?_
    · intro make _
      refine wp_perform trivial (fun _ _ => Or.inr ?_) fun _ _ => Or.inr ?_
      · exact Bool.and_false _
      · exact Bool.and_false _
    · intro e he
      refine Or.inl ?_
      cases hx : executionReceipt P request payload with
      | ok make =>
        rw [hx] at he
        cases he
      | error e' =>
        rw [hx] at he
        cases he
        exact ⟨e', rfl⟩
  · rintro receipt v' g' (⟨e, he⟩ | hg')
    · cases he
    · exact wp_mono (wp_late (hf receipt) v' hg') fun _ _ h => Or.inr h
  · rintro e v' g' (⟨e', he⟩ | hg')
    · cases he
      exact Or.inl fun e he => nomatch he
    · exact Or.inr hg'

/-- the refusals of the `try` block that come early -/
def RaisedEarly (realText : PyFloat → String) (request : ProtectedExecutionRequest) (key : String)
    (w : Stores) (r : Except Raised ExecutionResult × Locals) (g : Held) : Prop :=
  ∀ e, r.1 = .error (.refusal e) → g.early = true → Retractable realText request key w r.2 g

theorem LateOrOther.raisedEarly {r : Except Raised ExecutionResult × Locals} {g : Held}
    (h : LateOrOther r g) : RaisedEarly realText request key w r g := by
  intro e he hearly
  rcases h with h | h
  · exact absurd he (h e)
  · rw [h] at hearly
    cases hearly

/-- the key is consumed for the prior result, and everything that can still be refused is late -/
theorem wp_returnPrior_held (hinst : X.replayProtector = some inst) (prior : Prior) {v : Locals} {g : Held}
    (hback : Retractable realText request key w v g) (hclaim : Claiming request key w v g.alone) :
    wp (held P realText answers) (X.returnPrior P request prior v)
      (RaisedEarly realText request key w) g := by
  unfold ProtectedExecutor.returnPrior
  split
  · exact fun e _ _ => hback
  · obtain ⟨row, hv, hrow, hstatus, hhas, -⟩ := hclaim
    refine wp_seq _ (wp_held_of_alone (J := fun _ => True)
      (frame_consumeReplay (fun _ _ => rfl) fun _ _ h => h) trivial
      (wp_consumeReplay_alone hinst hrow hv hhas hstatus)) ?_ ?_
    · rintro u v' g' -
      refine wp_mono (wp_createExecutionReceipt_late prior.result fun receipt => ?_)
        fun _ _ h => h.raisedEarly
      exact frame_seq (frame_perform trivial) fun _ => frame_pure _
    · rintro e v' g' ⟨⟨hr, -⟩, -⟩
      cases hr

/-- from the credential on: it is refused, or the key is consumed and the handler called -/
theorem wp_acquire_held (hinst : X.replayProtector = some inst) {v : Locals} {g : Held}
    (hback : ∀ refused : Bool, refused = true → Retractable realText request key w v { g with refused := refused })
    (hclaim : Claiming request key w v g.alone) :
    wp (held P realText answers) ((Act.perform (.acquire request) rfl >>= fun credential => do
        Act.assign fun v => { v with brokeredCredential := some credential }
        X.consumeReplay request
        Act.assign fun v => { v with handlerStarted := true }
        let payload : Json ← Act.perform (.handler request (some credential)) rfl
        X.complete P request credential payload : Run ExecutionResult) v)
      (RaisedEarly realText request key w) g := by
  refine wp_perform trivial ?_ ?_
  · intro credential _
    refine wp_assign ?_
    obtain ⟨row, hv, hrow, hstatus, hhas, -⟩ := hclaim
    refine wp_seq _ (wp_held_of_alone (J := fun _ => True)
      (frame_consumeReplay (fun _ _ => rfl) fun _ _ h => h) trivial
      (wp_consumeReplay_alone hinst hrow (v := { v with brokeredCredential := some credential }) hv
        hhas hstatus)) ?_ ?_
    · rintro u v' g' -
      refine wp_assign (wp_perform trivial ?_ ?_)
      · intro payload _
        refine wp_mono (wp_late (frame_complete (fun _ _ => trivial) trivial (fun _ => trivial)
          (fun _ _ _ _ _ => trivial) (fun _ _ h => h) _ _) _ (Bool.and_false _)) ?_
        exact fun _ _ h => LateOrOther.raisedEarly (Or.inr h)
      · exact fun e _ => LateOrOther.raisedEarly (Or.inr (Bool.and_false _))
    · rintro e v' g' ⟨⟨hr, -⟩, -⟩
      cases hr
  · intro e _ e' he hearly
    cases he
    have h := hback (g.refused || true) (Bool.or_true _)
    exact ⟨h.unconsumed, h.claim, h.escrow⟩

theorem wp_dispatch_held (hinst : X.replayProtector = some inst) (hescrow : X.escrow = true)
    (heffect : X.effectProtector = none)
    (hrecord : ∀ id record, boundText realText request.pccb.escrowId = .ok (some id) →
      w.escrow.find id = some record → request.context.now < record.expiresAt)
    {v : Locals} {g : Held} (hback : Retractable realText request key w v g)
    (hclaim : Claiming request key w v g.alone) (hkept : g.escrow = w.escrow) :
    wp (held P realText answers) (X.dispatch P request v) (RaisedEarly realText request key w) g := by
  have hclaimEffect : X.claimEffect P request = pure () := by
    unfold ProtectedExecutor.claimEffect
    rw [heffect]
  unfold ProtectedExecutor.dispatch ProtectedExecutor.consumeEscrow
  rw [hclaimEffect, if_pos hescrow]
  split
  · exact fun e _ _ => hback
  · rcases consume_live request.pccb.pccbId request.intent.action.capability hrecord with ⟨e, hconsume⟩ | ⟨id, record, hid, hfind, hstate, hconsume⟩
    · -- the escrow refuses, and its table stays
      have henv : Stores.env P realText answers (.escrowConsume request.pccb.escrowId request.pccb.pccbId
          request.intent.action.capability request.context.now) g.stores
          = ((.error e : PyM Unit), g.stores) := by
        show ((consume realText g.escrow _ _ _ _).1, ({ g.stores with
          escrow := (consume realText g.escrow _ _ _ _).2 } : Stores)) = _
        rw [hkept, hconsume]
        exact congrArg (fun t => ((.error e : PyM Unit), Stores.mk g.alone.world t)) hkept.symm
      refine wp_perform trivial ?_ ?_
      · intro u hp
        have hp' : (Except.ok u : PyM Unit) = _ := hp
        rw [henv] at hp'
        cases hp'
      · intro e' _ e'' he hearly
        refine ⟨hback.unconsumed, ?_, ?_⟩
        · exact hback.claim
        · show EscrowAfter realText request (g.refused || false) w.escrow
            (Stores.env P realText answers _ g.stores).2.escrow
          rw [henv, Bool.or_false]
          exact hback.escrow
    · -- the escrow is consumed
      have henv : (Stores.env P realText answers (.escrowConsume request.pccb.escrowId request.pccb.pccbId
          request.intent.action.capability request.context.now) g.stores)
          = ((.ok () : PyM Unit), ⟨g.alone.world, consumeRecord w.escrow id request.context.now⟩) := by
        show ((consume realText g.escrow _ _ _ _).1, ({ g.stores with
          escrow := (consume realText g.escrow _ _ _ _).2 } : Stores)) = _
        rw [hkept, hconsume]
        rfl
      refine wp_perform trivial ?_ ?_
      · intro u _
        refine wp_acquire_held hinst ?_ hclaim
        intro refused hrefused
        refine ⟨hback.unconsumed, hback.claim, ?_⟩
        show EscrowAfter realText request refused w.escrow (Stores.env P realText answers _ g.stores).2.escrow
        rw [henv]
        refine ⟨fun h => ?_, fun _ => ⟨id, record, hid, hfind, hstate, rfl⟩⟩
        rw [hrefused] at h
        cases h
      · intro e hp
        have hp' : (Except.error e : PyM Unit) = _ := hp
        rw [henv] at hp'
        cases hp'

/-- what the `try` block needs of the stores: a store that was not set back, a record of the escrow
before its end, and no claim whose expiry reads differently as a text -/
structure InOrder (realText : PyFloat → String) (request : ProtectedExecutionRequest) (key : String)
    (w : Stores) : Prop where
  monotone : w.world.replay.Monotone
  record : ∀ id record, boundText realText request.pccb.escrowId = .ok (some id) →
    w.escrow.find id = some record → request.context.now < record.expiresAt
  text : ∀ row, w.world.replay.find key = some row → row.status = .claimed →
    row.expiresAt ≤ request.context.now → row.textExpired request.context.now = true

/-- **Where the `try` block stands** when it raises a refusal early. -/
theorem wp_attempt_retractable (hinst : X.replayProtector = some inst) (hescrow : X.escrow = true)
    (heffect : X.effectProtector = none)
    (hkey : buildReplayKey P request.intent request.pccb request.context = .ok key)
    (hlive : request.context.now < request.pccb.expiresAt) (hw : InOrder realText request key w)
    (d : Option PolicyDecision) :
    wp (held P realText answers) (X.attempt P request d {}) (RaisedEarly realText request key w)
      ⟨⟨w.world, false⟩, w.escrow, true, false⟩ := by
  have hsame : EscrowAfter realText request false w.escrow w.escrow := ⟨fun _ => rfl, fun h => nomatch h⟩
  refine wp_lift ?_ ?_
  · intro _ _
    refine wp_seq _ (wp_claimReplay_held hinst hkey hw.monotone hlive hw.text) ?_ ?_
    · rintro state v g' ⟨⟨hv, hbeside⟩, ⟨row, hr, hclaim⟩ | ⟨e, hr, -⟩⟩
      · cases hr
        cases hv
        have hescrow' : g'.escrow = w.escrow := hbeside.escrow
        have hback : Retractable realText request key w { replayState := some row } g' := by
          refine ⟨rfl, Or.inl hclaim, ?_⟩
          rw [hbeside.refused, hescrow']
          exact hsame
        refine wp_assign ?_
        have hdispatch : wp (held P realText answers)
            (X.dispatch P request { replayState := some row }) (RaisedEarly realText request key w) g' :=
          wp_dispatch_held hinst hescrow heffect hw.record hback hclaim hescrow'
        unfold ProtectedExecutor.lookupPrior
        split
        · exact hdispatch
        · rename_i store operationId _
          refine wp_perform trivial ?_ ?_
          · intro prior _
            rw [held_next_idle (show Idle (.lookup store operationId) from trivial)]
            cases prior with
            | none => exact hdispatch
            | some prior => exact wp_returnPrior_held hinst prior hback hclaim
          · intro e hp e' he _
            have hp' : (Except.error e : PyM (Option Prior)) = (g'.alone.world.records store).find operationId := hp
            obtain ⟨e'', rfl⟩ := find_error hp'.symm
            cases he
      · cases hr
    · rintro e v g' ⟨⟨hv, hbeside⟩, ⟨row, hr, -⟩ | ⟨e', hr, hclaim⟩⟩
      · cases hr
      · cases hv
        intro _ _ _
        refine ⟨rfl, Or.inr hclaim, ?_⟩
        rw [hbeside.refused, hbeside.escrow]
        exact hsame
  · exact fun e _ _ _ _ => ⟨rfl, Or.inr ⟨rfl, hw.monotone, rfl⟩, hsame⟩

/-! ## the `except` clause -/

/-- the key can be claimed as before, and the escrow is left as it is -/
def Usable (request : ProtectedExecutionRequest) (key : String) (w : Stores) (escrow : EscrowTable)
    (w' : Stores) : Prop :=
  w'.world.replay.Monotone ∧
    (w'.world.replay.Claimable key request.context.now ↔ w.world.replay.Claimable key request.context.now) ∧
    w'.escrow = escrow

/-- a claim that is held is given back -/
theorem wp_releaseUnlessConsumed_held (hinst : X.replayProtector = some inst) (reason : String)
    {v : Locals} {g : Held} (h : Retractable realText request key w v g) :
    wp (held P realText answers) (X.releaseUnlessConsumed request reason v)
      (fun _ g' => Usable request key w g.escrow g'.stores) g := by
  refine wp_vars ?_
  rw [h.unconsumed]
  show wp _ (X.releaseReplayClaim request v.replayState reason v) _ g
  rcases h.claim with ⟨row, hv, rfl, hstatus, hhas, hfree⟩ | ⟨hv, hm, hfind⟩
  · rw [hv]
    unfold ProtectedExecutor.releaseReplayClaim
    rw [hinst]
    have hframe : Frame (fun op : Op => op.isStore = true) (fun _ : Locals => True)
        (releaseClaim inst row.replayKey request.context.now reason) :=
      frame_releaseClaim (fun _ _ _ => rfl) (fun _ _ _ _ => rfl) _ _ _ _
    have husable : ∀ g' : Held, (∃ row', g'.alone.Has row.replayKey row' ∧ row'.status = .released) →
        g.Beside g' → Usable request row.replayKey w g.escrow g'.stores := by
      rintro g' ⟨row', hhas', hs⟩ hbeside
      exact ⟨hhas'.monotone, ⟨fun _ => hfree, fun _ => claimable_of_released _ hhas'.find hs⟩, hbeside.escrow⟩
    refine wp_catching (fun _ g' => Usable request row.replayKey w g.escrow g'.stores) ?_
      (fun _ _ _ h => h) fun _ _ _ h => h
    refine wp_seq _ (wp_held_of_alone hframe trivial
      (wp_releaseClaim_alone inst request.context.now reason v hhas hstatus)) ?_ ?_
    · rintro state v' g' ⟨⟨-, hrow, -⟩, -, hbeside⟩
      exact husable g' hrow hbeside
    · rintro e v' g' ⟨⟨-, hrow, -⟩, -, hbeside⟩
      exact husable g' hrow hbeside
  · rw [hv]
    unfold ProtectedExecutor.releaseReplayClaim
    rw [hinst]
    exact ⟨hm, claimable_congr hfind, rfl⟩

/-- a failure to give the credential back is not raised -/
theorem wp_releaseCredential_held {β : Type} (credential : Option BrokeredCredential) (outcome : Dict)
    {f : Unit → Run β} {v : Locals} {g : Held} {Q : Except Raised β × Locals → Held → Prop}
    (h : wp (held P realText answers) (f () v) Q g) :
    wp (held P realText answers) ((releaseCredential credential outcome >>= f) v) Q g := by
  cases credential with
  | none => exact h
  | some c =>
    refine ⟨trivial, fun r _ => ?_⟩
    rw [held_next_idle (show Idle (.release c outcome) from trivial)]
    change PyM Unit at r
    cases r with
    | ok u => exact h
    | error e => exact h

/-- **What the `except` clause leaves behind.** -/
theorem wp_onRefusal_usable (hinst : X.replayProtector = some inst) (caught : RefusalException)
    {v : Locals} {g : Held} (h : Retractable realText request key w v g) :
    wp (held P realText answers) (X.onRefusal P request caught v)
      (fun _ g' => Usable request key w g.escrow g'.stores) g := by
  refine wp_vars (wp_releaseCredential_held _ _ ?_)
  refine wp_seq _ (wp_releaseUnlessConsumed_held hinst _ h) ?_ fun _ _ _ husable => husable
  intro u v' g' husable
  refine wp_mono (wp_storeless (J := fun _ => True) (w := g'.stores) (frame_emitRefusal trivial trivial
    (fun _ => trivial) (fun _ => trivial) _) trivial rfl) ?_
  rintro r g'' ⟨-, hg''⟩
  rw [hg'']
  exact husable

end

/-! ## the call -/

section
variable (P : Platform) (realText : PyFloat → String) (answers : (op : Op) → Res op)

/-- the `try` block against the stores -/
def ProtectedExecutor.tryAlone (X : ProtectedExecutor) (request : ProtectedExecutionRequest)
    (d : Option PolicyDecision) (w : Stores) :=
  exec (Stores.env P realText answers) (X.attempt P request d {}) w

/-- the call against the stores -/
def ProtectedExecutor.callAlone (X : ProtectedExecutor) (request : ProtectedExecutionRequest)
    (d : Option PolicyDecision) (w : Stores) :=
  exec (Stores.env P realText answers) (X.call P request d) w

/-- the call ends in a refusal that the `try` block raised as one, before it called the handler or
made a receipt -/
def RefusedEarly (X : ProtectedExecutor) (request : ProtectedExecutionRequest)
    (d : Option PolicyDecision) (w : Stores) : Prop :=
  (∃ e, (X.tryAlone P realText answers request d w).1.1 = .error (.refusal e)) ∧
    ((X.tryAlone P realText answers request d w).2.2.all fun e => e.1.isEarly) = true

/-- `claim_once` goes through -/
def ClaimSucceeds (inst : Nat) (claim : ActionConsumptionClaim) (now : Datetime) (w : Stores) : Prop :=
  ∃ state, (exec (Stores.env P realText answers) (claimOnce inst claim now ()) w).1.1 = .ok state

theorem claimSucceeds_iff {inst : Nat} {claim : ActionConsumptionClaim} {now : Datetime} {w : Stores}
    (hm : w.world.replay.Monotone) :
    ClaimSucceeds P realText answers inst claim now w ↔ w.world.replay.Claimable claim.replayKey now := by
  have hframe : Frame (fun op : Op => op.isStore = true) (fun _ : Unit => True) (claimOnce inst claim now) :=
    frame_claimOnce (fun _ _ _ => rfl) (fun _ _ _ => rfl) inst claim now
  unfold ClaimSucceeds
  by_cases hfree : w.world.replay.Claimable claim.replayKey now
  · obtain ⟨g', ⟨⟨hr, -⟩, -⟩, -⟩ := held_exec P realText answers rfl
      (wp_held_of_alone (g := ⟨⟨w.world, false⟩, w.escrow, true, false⟩) hframe (v := ()) trivial
        (wp_claimOnce_alone inst claim now () hm hfree))
    refine ⟨fun _ => hfree, fun _ => ⟨some ((claim.row now).readAt now), ?_⟩⟩
    exact congrArg Prod.fst hr
  · obtain ⟨row, hrow, -⟩ := row_of_not_claimable hfree
    obtain ⟨g', ⟨⟨hr, -⟩, -⟩, -⟩ := held_exec P realText answers rfl
      (wp_held_of_alone (g := ⟨⟨w.world, false⟩, w.escrow, true, false⟩) hframe (v := ()) trivial
        (wp_claimOnce_taken inst claim now () ⟨hm, hrow⟩ hfree))
    refine ⟨?_, fun h => absurd h hfree⟩
    rintro ⟨state, hstate⟩
    have hr' : (exec (Stores.env P realText answers) (claimOnce inst claim now ()) w).1.1 = _ :=
      congrArg Prod.fst hr
    rw [hr'] at hstate
    cases hstate

/-- **A refusal before the handler leaves the proof usable.**  After a call that runs alone and is
refused early, `claim_once` of the replay key goes through exactly when it did before the call, for
every store object; the escrow is as before, except that a credential refused after the escrow leaves
its record consumed. -/
theorem refused_before_handler (X : ProtectedExecutor) (request : ProtectedExecutionRequest)
    (d : Option PolicyDecision) (key : String) (w : Stores) (hreplay : X.replayProtector.isSome)
    (hescrow : X.escrow = true) (heffect : X.effectProtector = none)
    (hkey : buildReplayKey P request.intent request.pccb request.context = .ok key)
    (hlive : request.context.now < request.pccb.expiresAt) (hw : InOrder realText request key w)
    (hrefused : RefusedEarly P realText answers X request d w) :
    (∀ inst claim, claim.replayKey = key →
      (ClaimSucceeds P realText answers inst claim request.context.now
          (X.callAlone P realText answers request d w).2.1 ↔
        ClaimSucceeds P realText answers inst claim request.context.now w)) ∧
    EscrowAfter realText request ((X.tryAlone P realText answers request d w).2.2.any credentialRefused)
      w.escrow (X.callAlone P realText answers request d w).2.1.escrow := by
  obtain ⟨inst, hinst⟩ := Option.isSome_iff_exists.mp hreplay
  obtain ⟨⟨e, he⟩, hearly⟩ := hrefused
  obtain ⟨g, hraised, hstores, hg, hgrefused⟩ := held_exec P realText answers (w := w) rfl
    (wp_attempt_retractable hinst hescrow heffect hkey hlive hw d)
  have hback := hraised e he (hg.trans hearly)
  obtain ⟨g', husable, hstores', -⟩ := held_exec P realText answers hstores
    (wp_onRefusal_usable (P := P) hinst e hback)
  -- the call is the `try` block and then the `except` clause
  have hcall : (X.callAlone P realText answers request d w).2.1 = g'.stores := by
    rw [hstores']
    refine (exec_bind (Stores.env P realText answers) (X.attempt P request d {})
      (Act.recover (X.onRaise P request)) w).2.trans ?_
    generalize hx : exec (Stores.env P realText answers) (X.attempt P request d {}) w = x at he ⊢
    obtain ⟨⟨r, v⟩, w1, t⟩ := x
    have hr : r = .error (.refusal e) := by
      have := he
      unfold ProtectedExecutor.tryAlone at this
      rw [hx] at this
      exact this
    subst hr
    rfl
  rw [hcall]
  obtain ⟨hm, hclaimable, hescrow'⟩ := husable
  refine ⟨?_, ?_⟩
  · rintro inst' claim rfl
    rw [claimSucceeds_iff P realText answers hm, claimSucceeds_iff P realText answers hw.monotone]
    exact hclaimable
  · rw [show g'.stores.escrow = g.escrow from hescrow']
    have hrefused' : g.refused = (X.tryAlone P realText answers request d w).2.2.any credentialRefused :=
      hgrefused.trans (Bool.false_or _)
    rw [← hrefused']
    exact hback.escrow

end

/-! ## a refused credential, and a claim that ended within the second -/

/-- the sample with an escrow, half a second into its window -/
def escrowRequest : ProtectedExecutionRequest where
  intent := sampleIntent
  pccb := { samplePccb with escrowId := .str "esc_1" }
  context := { sampleContext with now := ⟨63871286400500000, by decide⟩ }

def escrowExecutor : ProtectedExecutor := { sampleExecutor with escrow := true }

def sampleRecord : EscrowRecord where
  escrowId := "esc_1"
  pccbId := "pccb_1"
  capability := "repo.read"
  expiresAt := sampleExpiry

def escrowStores (db : ReplayDb) : Stores := ⟨⟨db, fun _ => []⟩, ⟨[sampleRecord], List.nodup_singleton _⟩⟩

/-- the broker refuses the credential -/
def brokerRefuses : (op : Op) → Res op
  | .acquire _ => (raiseRefusal ⟨"credential", "CREDENTIAL_REFUSED", "no credential", false, [], [], []⟩ :
      PyM BrokeredCredential)
  | op => sampleAnswers op

/-- the key of the sample, claimed by a proof that ended on the second -/
def endedClaim : ActionConsumptionClaim where
  replayKey := sampleReplayKey
  intentId := some "int_1"
  pccbId := "pccb_1"
  nonce := "n1"
  actionHash := samplePccb.actionHash.value
  audience := "service:aud"
  capability := "repo.read"
  tenantId := some "t1"
  subjectId := some "svc"
  expiresAt := sampleIssued

def endedDb : ReplayDb :=
  ((StoreTx.claim endedClaim ⟨63871286000000000, by decide⟩).run 0 emptyDb).2

theorem endedDb_monotone : endedDb.Monotone := by
  have hm : emptyDb.Monotone := fun _ => Nat.le_refl _
  exact (run_counter (.claim endedClaim ⟨63871286000000000, by decide⟩) 0 hm).1

theorem sampleRecord_live {db : ReplayDb} (id : String) (record : EscrowRecord)
    (h : (escrowStores db).escrow.find id = some record) :
    escrowRequest.context.now < record.expiresAt := by
  have hmem : record ∈ [sampleRecord] := List.mem_of_find?_eq_some h
  rw [List.mem_singleton.mp hmem]
  decide

/-- the broker refuses in the first run, the replay store in the second -/
def refusedAt (db : ReplayDb) (answers : (op : Op) → Res op) : Bool :=
  let r := escrowExecutor.tryAlone kernelPlatform (fun _ => "") answers escrowRequest none (escrowStores db)
  (match r.1.1 with
    | .error (.refusal _) => true
    | _ => false) && r.2.2.all fun e => e.1.isEarly

theorem refusedAt_iff {db : ReplayDb} {answers : (op : Op) → Res op} (h : refusedAt db answers = true) :
    RefusedEarly kernelPlatform (fun _ => "") answers escrowExecutor escrowRequest none (escrowStores db) := by
  unfold refusedAt at h
  dsimp only at h
  rw [Bool.and_eq_true] at h
  refine ⟨?_, h.2⟩
  have h1 := h.1
  split at h1
  · rename_i e he
    exact ⟨e, he⟩
  · cases h1

/-- the stores after a call of the sample -/
def afterCall (db : ReplayDb) (answers : (op : Op) → Res op) : Stores :=
  (escrowExecutor.callAlone kernelPlatform (fun _ => "") answers escrowRequest none (escrowStores db)).2.1

/-- `claim_once` of the key of the sample, by another store object -/
def claimsAgain (w : Stores) : Bool :=
  (exec (Stores.env kernelPlatform (fun _ => "") brokerRefuses)
    (claimOnce 1 { endedClaim with expiresAt := sampleExpiry } escrowRequest.context.now ()) w).1.1.toBool

theorem claimsAgain_iff {w : Stores} {again : Bool} (h : claimsAgain w = again) :
    ClaimSucceeds kernelPlatform (fun _ => "") brokerRefuses 1 { endedClaim with expiresAt := sampleExpiry }
      escrowRequest.context.now w ↔ again = true := by
  subst h
  constructor
  · rintro ⟨state, hs⟩
    unfold claimsAgain
    rw [hs]
    rfl
  · exact fun h => Fallible.exists_ok h

/-- the replay key and the runs of the sample -/
theorem escrowRequest_facts :
    ((buildReplayKey kernelPlatform escrowRequest.intent escrowRequest.pccb escrowRequest.context
        = .ok sampleReplayKey ∧
      refusedAt emptyDb brokerRefuses = true) ∧
      (escrowExecutor.tryAlone kernelPlatform (fun _ => "") brokerRefuses escrowRequest none
        (escrowStores emptyDb)).2.2.any credentialRefused = true) ∧
    (refusedAt endedDb brokerRefuses = true ∧
      ((afterCall emptyDb brokerRefuses).escrow.find "esc_1").map EscrowRecord.state = some .consumed) ∧
    claimsAgain (escrowStores emptyDb) = true ∧ claimsAgain (escrowStores endedDb) = false ∧
      claimsAgain (afterCall endedDb brokerRefuses) = true := by
  decide +kernel

theorem escrowStores_inOrder : InOrder (fun _ => "") escrowRequest sampleReplayKey (escrowStores emptyDb) where
  monotone _ := Nat.le_refl _
  record id record _ h := sampleRecord_live id record h
  text _ h := nomatch h

/-- after the refused credential the key of the sample can be claimed again, and its record is
consumed -/
theorem refused_before_handler_sample :
    RefusedEarly kernelPlatform (fun _ => "") brokerRefuses escrowExecutor escrowRequest none
      (escrowStores emptyDb) ∧
    ClaimSucceeds kernelPlatform (fun _ => "") brokerRefuses 1 { endedClaim with expiresAt := sampleExpiry }
      escrowRequest.context.now (afterCall emptyDb brokerRefuses) ∧
    ∃ id, (afterCall emptyDb brokerRefuses).escrow
      = consumeRecord (escrowStores emptyDb).escrow id escrowRequest.context.now := by
  obtain ⟨⟨⟨hkey, hrefused⟩, hcredential⟩, -, hagain, -⟩ := escrowRequest_facts
  obtain ⟨hclaim, -, hescrow⟩ := refused_before_handler kernelPlatform (fun _ => "") brokerRefuses
    escrowExecutor escrowRequest none sampleReplayKey (escrowStores emptyDb) rfl rfl rfl hkey (by decide)
    escrowStores_inOrder (refusedAt_iff hrefused)
  obtain ⟨id, record, -, -, -, hafter⟩ := hescrow hcredential
  exact ⟨refusedAt_iff hrefused, (hclaim 1 _ rfl).mpr ((claimsAgain_iff hagain).mpr rfl), id, hafter⟩

/-- a refused credential leaves the escrow consumed; and a claim that ended half a second ago, which
the text of its expiry does not show, is expired by the refused call and can be claimed only then -/
theorem refusal_leaves_traces :
    (buildReplayKey kernelPlatform escrowRequest.intent escrowRequest.pccb escrowRequest.context
        = .ok sampleReplayKey ∧
      escrowRequest.context.now < escrowRequest.pccb.expiresAt ∧
      ∀ db id record, (escrowStores db).escrow.find id = some record →
        escrowRequest.context.now < record.expiresAt) ∧
    (RefusedEarly kernelPlatform (fun _ => "") brokerRefuses escrowExecutor escrowRequest none
        (escrowStores emptyDb) ∧
      ((escrowStores emptyDb).escrow.find "esc_1").map EscrowRecord.state = some .issued ∧
      ((afterCall emptyDb brokerRefuses).escrow.find "esc_1").map EscrowRecord.state = some .consumed) ∧
    endedDb.Monotone ∧
      RefusedEarly kernelPlatform (fun _ => "") brokerRefuses escrowExecutor escrowRequest none
        (escrowStores endedDb) ∧
      ¬ ClaimSucceeds kernelPlatform (fun _ => "") brokerRefuses 1 { endedClaim with expiresAt := sampleExpiry }
        escrowRequest.context.now (escrowStores endedDb) ∧
      ClaimSucceeds kernelPlatform (fun _ => "") brokerRefuses 1 { endedClaim with expiresAt := sampleExpiry }
        escrowRequest.context.now (afterCall endedDb brokerRefuses) := by
  obtain ⟨⟨⟨hkey, hrefused⟩, -⟩, ⟨hended, hconsumed⟩, -, hbefore, hafter⟩ := escrowRequest_facts
  refine ⟨⟨hkey, by decide, fun db id record h => sampleRecord_live id record h⟩,
    ⟨refusedAt_iff hrefused, by decide, hconsumed⟩, endedDb_monotone, refusedAt_iff hended, ?_, ?_⟩
  · intro h
    cases (claimsAgain_iff hbefore).mp h
  · exact (claimsAgain_iff hafter).mpr rfl

end Actenon
