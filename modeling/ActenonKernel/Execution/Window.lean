import ActenonKernel.Execution.SingleUse
import ActenonKernel.Replay.Alone

/-!
# The window of the verifier and the window of the replay store

The verifier accepts a proof up to `expires_at` and the clock skew; the replay store reads a claim
back as expired from `expires_at` on.  A call that runs alone on a fresh proof, with nothing that
fails, consumes the key and calls the handler exactly when `now` is before `expires_at`.

* `wp_attempt_fresh`        up to the dispatch, with the row as it is read back;
* `execute_fresh_iff`       the exact condition.
-/

set_option linter.unusedSectionVars false

namespace Actenon

open Program

/-- nothing outside the stores fails -/
def NothingFails (answers : (op : Op) → Res op) : Prop :=
  ∀ op, op.isStore = false → ∃ a : Value op, answers op = Except.ok a

section
variable {P : Platform} {answers : (op : Op) → Res op} {X : ProtectedExecutor}
  {request : ProtectedExecutionRequest} {key : String} {inst : Nat}

/-! ## phases -/

/-- a phase that does not call the handler -/
theorem wp_unhandled {α : Type} {J : Locals → Prop} {m : Run α} (hm : Frame NotHandler J m) {v : Locals}
    (hv : J v) {g : Alone} (hg : g.handled = false) :
    wp (alone P answers) (m v) (fun _ g' => g'.handled = false) g := by
  refine wp_mono (wp_frame (K := fun g => g.handled = false) hm ?_ hv hg) fun _ _ h => h.2
  intro g op hg hop
  refine ⟨trivial, fun r _ => ?_⟩
  show (op.isHandler || g.handled) = false
  rw [hg]
  cases op with
  | handler r c => cases hop
  | _ => rfl

/-- the handler was called and the row is consumed -/
def Done (key : String) (g : Alone) : Prop :=
  (∃ row, g.world.replay.find key = some row ∧ row.status = .consumed) ∧ g.handled = true

/-- which stays so -/
theorem wp_done {α : Type} {m : Run α} (hm : Frame (fun _ => True) (fun _ => True) m) (v : Locals)
    {g : Alone} (hg : Done key g) : wp (alone P answers) (m v) (fun _ g' => Done key g') g := by
  refine wp_mono (wp_frame (K := Done key) hm ?_ trivial hg) fun _ _ h => h.2
  rintro g op ⟨⟨row, hrow, hc⟩, hh⟩ _
  refine ⟨trivial, fun r _ => ⟨⟨row, ?_, hc⟩, ?_⟩⟩
  · exact (step_find (World.env_step P answers op g.world) key).consumed hrow hc
  · show (op.isHandler || g.handled) = true
    rw [hh, Bool.or_true]

theorem wp_onRaise_done (e : Raised) (v : Locals) {g : Alone} (hg : Done key g) :
    wp (alone P answers) (X.onRaise P request e v) (fun _ g' => Done key g') g :=
  wp_done (frame_onRaise (fun _ _ => trivial) (fun _ _ => trivial) trivial trivial (fun _ => trivial)
    (fun _ => trivial) (fun _ _ h => h) e) v hg

theorem wp_onRaise_unhandled (e : Raised) (v : Locals) {g : Alone} (hg : g.handled = false) :
    wp (alone P answers) (X.onRaise P request e v) (fun _ g' => g'.handled = false) g :=
  wp_unhandled (J := fun _ => True) (frame_onRaise (fun _ _ => trivial) (fun _ _ => trivial) trivial
    trivial (fun _ => trivial) (fun _ => trivial) (fun _ _ h => h) e) trivial hg

/-- an operation outside the stores, where nothing fails -/
theorem wp_answered {S β : Type} {op : Op} {f : Value op → Kernel S β} {v : S} {g : Alone}
    {Q : Except Raised β × S → Alone → Prop} (hanswers : NothingFails answers)
    (hstore : op.isStore = false) (henv : World.env P answers op g.world = (answers op, g.world))
    (hf : ∀ a, answers op = Except.ok a →
      wp (alone P answers) (f a v) Q ⟨g.world, op.isHandler || g.handled⟩) :
    wp (alone P answers) ((Act.perform op rfl >>= f) v) Q g := by
  have hnext : ∀ r, (alone P answers).next g op r = ⟨g.world, op.isHandler || g.handled⟩ := by
    intro r
    show (⟨(World.env P answers op g.world).2, _⟩ : Alone) = _
    rw [henv]
  refine wp_perform trivial ?_ ?_
  · intro a hp
    have ha : (Except.ok a : PyM (Value op)) = (World.env P answers op g.world).1 := hp
    rw [henv] at ha
    rw [hnext]
    exact hf a ha.symm
  · intro e hp
    obtain ⟨a, ha⟩ := hanswers op hstore
    have he : (Except.error e : PyM (Value op)) = (World.env P answers op g.world).1 := hp
    rw [henv, ha] at he
    cases he

theorem row_readAt_claimed {claim : ActionConsumptionClaim} {now : Datetime} :
    ((claim.row now).readAt now).status = .claimed ↔ now < claim.expiresAt := by
  unfold ActionConsumptionState.readAt
  by_cases h : claim.expiresAt ≤ now
  · rw [if_pos ⟨rfl, h⟩]
    exact ⟨fun hc => (nomatch hc), fun hlt => absurd h (Datetime.not_le.mpr hlt)⟩
  · rw [if_neg fun hc => h hc.2]
    exact ⟨fun _ => Datetime.not_le.mp h, fun _ => rfl⟩

theorem row_readAt_key (claim : ActionConsumptionClaim) (now : Datetime) :
    ((claim.row now).readAt now).replayKey = claim.replayKey := by
  unfold ActionConsumptionState.readAt
  split
  · rfl
  · rfl

/-- the row of a new claim as it is read back: claimed before the proof expires -/
def ReadBack {S : Type} (request : ProtectedExecutionRequest) (key : String) (v : S) (g : Alone)
    (r : Except Raised (Option ActionConsumptionState) × S) (g' : Alone) : Prop :=
  ∃ row, r = (.ok (some row), v) ∧ row.replayKey = key ∧
    (row.status = .claimed ↔ request.context.now < request.pccb.expiresAt) ∧ g'.Has key row ∧
    g'.handled = g.handled ∧ g'.world.records = g.world.records

theorem buildActionConsumptionClaim_ok
    (hkey : buildReplayKey P request.intent request.pccb request.context = .ok key) :
    ∃ claim, buildActionConsumptionClaim P request = .ok claim ∧
      claim.expiresAt = request.pccb.expiresAt ∧ claim.replayKey = key := by
  unfold buildActionConsumptionClaim
  rw [hkey]
  exact ⟨_, rfl, rfl, rfl⟩

/-- a claim that can be made goes in -/
theorem wp_claimRequest_alone {S : Type} (inst : Nat) (v : S) {g : Alone}
    (hkey : buildReplayKey P request.intent request.pccb request.context = .ok key)
    (hm : g.world.replay.Monotone) (hfree : g.world.replay.Claimable key request.context.now) :
    wp (alone P answers) (claimRequest P inst request v) (ReadBack request key v g) g := by
  obtain ⟨claim, hclaim, hexpires, rfl⟩ := buildActionConsumptionClaim_ok hkey
  refine wp_lift ?_ fun e he => ?_
  · intro claim' hc
    cases hclaim.symm.trans (orRaise_ok hc)
    refine wp_mono (wp_claimOnce_alone inst claim request.context.now v hm hfree) ?_
    rintro r g' ⟨hr, hrest⟩
    exact ⟨_, hr, row_readAt_key claim _, hexpires ▸ row_readAt_claimed, hrest⟩
  · rw [hclaim] at he
    cases he

/-- a fresh proof: accepted, allowed, without an effect constraint, its key and its operation not
seen before -/
structure Fresh (P : Platform) (X : ProtectedExecutor) (request : ProtectedExecutionRequest)
    (d : Option PolicyDecision) (key : String) (w : World) : Prop where
  verified : X.proofVerifier.verify P request.intent request.pccb request.context = .ok ()
  allowed : ∀ decision, d = some decision → decision.allowed = true
  noEffect : Dict.find request.pccb.extensions (.str "effect") = none
  replayKey : buildReplayKey P request.intent request.pccb request.context = .ok key
  unseen : w.replay.find key = none
  noPrior : ∀ store operationId, X.operation request = some (store, operationId) →
    (w.records store).find operationId = .ok none

theorem admit_ok {d : Option PolicyDecision} {w : World} (h : Fresh P X request d key w) :
    X.authorize P request d = .ok () := by
  unfold ProtectedExecutor.authorize
  rw [h.verified]
  have hpolicy : checkPolicy d = .ok () := by
    cases d with
    | none => rfl
    | some decision => exact if_pos (h.allowed decision rfl)
  rw [Fallible.ok_bind, hpolicy, Fallible.ok_bind]
  refine if_neg ?_
  rw [h.noEffect]
  exact fun hc => nomatch hc.1

/-- up to the dispatch: the claim goes in and is read back -/
theorem wp_attempt_fresh {d : Option PolicyDecision} {w : World} (h : Fresh P X request d key w)
    (hm : w.replay.Monotone) (hinst : X.replayProtector = some inst)
    {Q : Except Raised ExecutionResult × Locals → Alone → Prop}
    (hQ : ∀ row g, row.replayKey = key →
      (row.status = .claimed ↔ request.context.now < request.pccb.expiresAt) → g.Has key row →
      g.handled = false →
      wp (alone P answers) (X.dispatch P request { replayState := some row }) Q g) :
    wp (alone P answers) (X.attempt P request d {}) Q ⟨w, false⟩ := by
  refine wp_lift ?_ fun e he => nomatch (admit_ok h).symm.trans he
  intro _ _
  have hreplay : X.claimReplay P request = Act.catching (claimRequest P inst request)
      (X.onStoreFailure none (replayStoreUnavailable
        "Replay/single-use state could not be established. Execution was refused." "claim")) := by
    unfold ProtectedExecutor.claimReplay
    rw [hinst]
  rw [hreplay]
  refine wp_seq (ReadBack request key {} ⟨w, false⟩) (wp_catching _ (wp_claimRequest_alone inst _
    h.replayKey hm (claimable_of_none _ h.unseen)) (fun _ _ _ hdone => hdone) ?_) ?_ ?_
  · rintro e v g ⟨row, hr, -⟩
    cases hr
  · rintro state v g ⟨row, hr, hkey, hstatus, hhas, hhandled, hrecords⟩
    cases hr
    refine wp_assign ?_
    have hrun := hQ row g hkey hstatus hhas hhandled
    unfold ProtectedExecutor.lookupPrior
    split
    · exact hrun
    · rename_i store operationId hop
      have hanswer : (World.env P answers (.lookup store operationId) g.world).1
          = (.ok none : PyM (Option Prior)) := by
        show (g.world.records store).find operationId = .ok none
        rw [hrecords]
        exact h.noPrior store operationId hop
      refine wp_perform trivial ?_ ?_
      · intro prior hp
        have hp' : (Except.ok prior : PyM (Option Prior)) = _ := hp
        rw [hanswer] at hp'
        cases hp'
        exact hrun
      · intro e hp
        have hp' : (Except.error e : PyM (Option Prior)) = _ := hp
        rw [hanswer] at hp'
        cases hp'
  · rintro e v g ⟨row, hr, -⟩
    cases hr

/-! ## the dispatch -/

/-- neither a transaction of the replay store nor the handler -/
def Outside : Op → Prop
  | .store _ _ | .handler _ _ => False
  | _ => True

/-- a phase that leaves the store alone -/
theorem wp_outside {α : Type} {J : Locals → Prop} {m : Run α} (hm : Frame Outside J m) {v : Locals}
    (hv : J v) {g : Alone} {row : ActionConsumptionState} (hg : g.Has key row) (hh : g.handled = false) :
    wp (alone P answers) (m v) (fun r g' => J r.2 ∧ g'.Has key row ∧ g'.handled = false) g := by
  refine wp_frame (K := fun g : Alone => g.Has key row ∧ g.handled = false) hm ?_ hv ⟨hg, hh⟩
  rintro g op ⟨hg, hh⟩ hop
  refine ⟨trivial, fun r _ => ?_⟩
  have hworld : (World.env P answers op g.world).2.replay = g.world.replay := by
    cases op with
    | store inst tx => cases hop
    | _ => rfl
  have hhandler : op.isHandler = false := by
    cases op with
    | handler r c => cases hop
    | _ => rfl
  refine ⟨⟨?_, ?_⟩, ?_⟩
  · exact hworld ▸ hg.monotone
  · exact hworld ▸ hg.find
  · show (op.isHandler || g.handled) = false
    rw [hhandler, hh]
    rfl

theorem consumeReplay_eq (hinst : X.replayProtector = some inst) {v : Locals}
    {row : ActionConsumptionState} (hv : v.replayState = some row) :
    X.consumeReplay request v = (Act.catching (do
        let _ ← markConsumed inst row.replayKey request.context.now
        pure true)
      (X.onStoreFailure false (replayStoreUnavailable
        "Replay/single-use consumption could not be recorded. Execution was refused." "consume"))
      >>= fun consumed => Act.assign fun v => { v with replayConsumed := consumed }) v := by
  unfold ProtectedExecutor.consumeReplay ProtectedExecutor.markReplayConsumed
  rw [hinst]
  show _ = _
  cases v
  cases hv
  rfl

/-- a claimed row is consumed -/
theorem wp_consumeReplay_alone (hinst : X.replayProtector = some inst) {v : Locals} {g : Alone}
    {row : ActionConsumptionState} (hkey : row.replayKey = key) (hv : v.replayState = some row)
    (hg : g.Has key row) (hc : row.status = .claimed) :
    wp (alone P answers) (X.consumeReplay request v)
      (fun r g' => r.1 = .ok () ∧ ∃ row', g'.Has key row' ∧ row'.status = .consumed) g := by
  subst hkey
  rw [consumeReplay_eq hinst hv]
  refine wp_seq (fun r g' => r.1 = .ok true ∧ ∃ row', g'.Has row.replayKey row' ∧
    row'.status = .consumed) ?_ ?_ fun e v' g' h => nomatch h.1
  · refine wp_catching (fun r g' => r.1 = .ok true ∧ ∃ row', g'.Has row.replayKey row' ∧
      row'.status = .consumed) ?_ (fun _ _ _ h => h) fun e v' g' h => nomatch h.1
    refine wp_seq _ (wp_markConsumed_alone inst request.context.now v hg hc) ?_ ?_
    · rintro state v' g' ⟨⟨row', -, hg', hc'⟩, -⟩
      exact ⟨rfl, row', hg', hc'⟩
    · rintro e v' g' ⟨⟨row', hr, -⟩, -⟩
      cases hr
  · intro b v' g' h
    exact ⟨rfl, h.2⟩

/-- another row is refused -/
theorem wp_consumeReplay_refused (hinst : X.replayProtector = some inst) {v : Locals} {g : Alone}
    {row : ActionConsumptionState} (hkey : row.replayKey = key) (hv : v.replayState = some row)
    (hg : g.Has key row) (hh : g.handled = false) (hc : row.status ≠ .claimed) :
    wp (alone P answers) (X.consumeReplay request v)
      (fun r g' => (∀ u, r.1 ≠ .ok u) ∧ g'.handled = false) g := by
  subst hkey
  rw [consumeReplay_eq hinst hv]
  refine wp_seq (fun r g' => (∀ b, r.1 ≠ .ok b) ∧ g'.handled = false) ?_
    (fun b v' g' h => absurd rfl (h.1 b)) fun e v' g' h => ⟨fun u hu => (nomatch hu), h.2⟩
  refine wp_catching (fun r g' => r.1 = .error (replayStateInvalid row.replayKey (some row)) ∧
    g'.handled = false) ?_ (fun b v' g' h => nomatch h.1) ?_
  · refine wp_seq _ (wp_markConsumed_refused inst request.context.now v hg hc) ?_ ?_
    · rintro state v' g' ⟨hr, -⟩
      cases hr
    · rintro e v' g' ⟨hr, -, hh', -⟩
      cases hr
      exact ⟨rfl, hh'.trans hh⟩
  · rintro e v' g' ⟨hr, hh'⟩
    cases hr
    exact ⟨fun b hb => (nomatch hb), hh'⟩

theorem consumeEscrow_answered {β : Type} {f : Unit → Run β} {v : Locals} {g : Alone}
    {Q : Except Raised β × Locals → Alone → Prop} (hanswers : NothingFails answers)
    (hescrow : X.escrow = true → request.pccb.escrowId ≠ .null)
    (hf : wp (alone P answers) (f () v) Q g) :
    wp (alone P answers) ((X.consumeEscrow request >>= f) v) Q g := by
  unfold ProtectedExecutor.consumeEscrow
  split
  · rename_i he
    split
    · rename_i hnull
      exact absurd hnull (hescrow he)
    · exact wp_answered hanswers rfl rfl fun _ _ => hf
  · exact hf

/-- **Before the proof expires** the key is consumed and the handler called. -/
theorem wp_dispatch_live (hinst : X.replayProtector = some inst) (hanswers : NothingFails answers)
    (heffect : X.effectProtector = none) (hescrow : X.escrow = true → request.pccb.escrowId ≠ .null)
    {row : ActionConsumptionState} {g : Alone} (hkey : row.replayKey = key) (hg : g.Has key row)
    (hc : row.status = .claimed) :
    wp (alone P answers) (X.dispatch P request { replayState := some row })
      (fun _ g' => Done key g') g := by
  refine consumeEscrow_answered hanswers hescrow ?_
  have hclaim : X.claimEffect P request = pure () := by
    unfold ProtectedExecutor.claimEffect
    rw [heffect]
  rw [hclaim]
  refine wp_answered hanswers rfl rfl ?_
  intro credential _
  refine wp_assign ?_
  refine wp_seq _ (wp_consumeReplay_alone hinst hkey rfl (show Alone.Has ⟨g.world, g.handled⟩ key row
    from hg) hc) ?_ fun e v' g' h => nomatch h.1
  rintro u v' g' ⟨-, row', hg', hc'⟩
  refine wp_assign ?_
  refine wp_answered hanswers rfl rfl ?_
  intro payload _
  exact wp_done (frame_complete (fun _ _ => trivial) trivial (fun _ => trivial)
    (fun _ _ _ _ _ => trivial) (fun _ _ h => h) _ _) _ ⟨⟨row', hg'.find, hc'⟩, rfl⟩

/-- an effect protector refuses a proof without a reference -/
theorem ownReference_error (E : EffectProtector)
    (hno : Dict.find request.pccb.extensions (.str "effect") = none) :
    ∃ e, E.ownReference P request = .error e := by
  have hget : Dict.get request.pccb.extensions "effect" = .null := by
    unfold Dict.get
    rw [hno]
    rfl
  unfold EffectProtector.ownReference effectClaimInput
  rw [hget]
  exact ⟨_, rfl⟩

/-- **Otherwise** the handler is not called. -/
theorem wp_dispatch_refused (hinst : X.replayProtector = some inst)
    (hno : Dict.find request.pccb.extensions (.str "effect") = none)
    {row : ActionConsumptionState} {g : Alone} (hkey : row.replayKey = key) (hg : g.Has key row)
    (hh : g.handled = false)
    (hbad : row.status ≠ .claimed ∨ X.effectProtector.isSome ∨
      (X.escrow = true ∧ request.pccb.escrowId = .null)) :
    wp (alone P answers) (X.dispatch P request { replayState := some row })
      (fun _ g' => g'.handled = false) g := by
  by_cases hescrow : X.escrow = true ∧ request.pccb.escrowId = .null
  · have hraise : ∃ e, X.consumeEscrow request = Act.raise e := by
      unfold ProtectedExecutor.consumeEscrow
      rw [if_pos hescrow.1, hescrow.2]
      exact ⟨_, rfl⟩
    obtain ⟨e, he⟩ := hraise
    unfold ProtectedExecutor.dispatch
    rw [he]
    exact hh
  · refine wp_seq _ (wp_outside (J := fun v => v.replayState = some row)
      (frame_consumeEscrow fun _ _ _ _ => trivial) rfl hg hh) ?_ fun e v' g' h => h.2.2
    rintro u v1 g1 ⟨hv1, hg1, hh1⟩
    cases hE : X.effectProtector with
    | some E =>
      obtain ⟨e, he⟩ := ownReference_error (P := P) E hno
      have hraise : X.claimEffect P request v1 = .ret (.error e, v1) := by
        unfold ProtectedExecutor.claimEffect
        rw [hE]
        show Prog.bind (Prog.bind (.ret (E.ownReference P request, v1)) (Act.resume _))
          (Act.resume _) = _
        rw [he]
        rfl
      refine wp_seq (fun r g' => r.1 = .error e ∧ g'.handled = false) ?_ (fun _ _ _ h => nomatch h.1)
        fun _ _ _ h => h.2
      rw [hraise]
      exact ⟨rfl, hh1⟩
    | none =>
      have hc : row.status ≠ .claimed := by
        rw [hE] at hbad
        rcases hbad with h | h | h
        · exact h
        · cases h
        · exact absurd h hescrow
      refine wp_seq _ (wp_outside (J := fun v => v.replayState = some row)
        (frame_claimEffect (fun _ _ => trivial) fun _ _ h => h) hv1 hg1 hh1) ?_ fun e v' g' h => h.2.2
      rintro u v2 g2 ⟨hv2, hg2, hh2⟩
      refine wp_perform trivial ?_ fun e _ => hh2
      intro credential _
      refine wp_assign ?_
      refine wp_seq _ (wp_consumeReplay_refused hinst hkey
        (v := { v2 with brokeredCredential := some credential }) hv2
        (show Alone.Has ⟨g2.world, g2.handled⟩ key row from hg2) hh2 hc) ?_ fun e v' g' h => h.2
      rintro u' v3 g3 ⟨hr, -⟩
      exact absurd rfl (hr u')

/-! ## the call -/

theorem wp_call_live {d : Option PolicyDecision} {w : World} (h : Fresh P X request d key w)
    (hm : w.replay.Monotone) (hinst : X.replayProtector = some inst) (hanswers : NothingFails answers)
    (hlive : request.context.now < request.pccb.expiresAt) (heffect : X.effectProtector = none)
    (hescrow : X.escrow = true → request.pccb.escrowId ≠ .null) :
    wp (alone P answers) (X.call P request d) (fun _ g' => Done key g') ⟨w, false⟩ := by
  refine wp_catching (fun _ g' => Done key g') (wp_attempt_fresh h hm hinst ?_) (fun _ _ _ hdone => hdone)
    fun e v g' hdone => wp_onRaise_done e v hdone
  intro row g hkey hstatus hg _
  exact wp_dispatch_live hinst hanswers heffect hescrow hkey hg (hstatus.mpr hlive)

theorem wp_call_refused {d : Option PolicyDecision} {w : World} (h : Fresh P X request d key w)
    (hm : w.replay.Monotone) (hinst : X.replayProtector = some inst)
    (hbad : ¬ request.context.now < request.pccb.expiresAt ∨ X.effectProtector.isSome ∨
      (X.escrow = true ∧ request.pccb.escrowId = .null)) :
    wp (alone P answers) (X.call P request d) (fun _ g' => g'.handled = false) ⟨w, false⟩ := by
  refine wp_catching (fun _ g' => g'.handled = false) (wp_attempt_fresh h hm hinst ?_)
    (fun _ _ _ hh => hh) fun e v g' hh => wp_onRaise_unhandled e v hh
  intro row g hkey hstatus hg hh
  refine wp_dispatch_refused hinst h.noEffect hkey hg hh ?_
  rw [ne_eq, hstatus]
  exact hbad

end

/-! ## the exact condition -/

section
variable {P : Platform}

/-- a store that was made by transactions has not gone back -/
theorem monotone_of_follows {w : World} {t : List KernelEvent}
    (h : Follows (World.step P) emptyWorld t w) : w.replay.Monotone := by
  refine follows_invariant (I := fun w => w.replay.Monotone) ?_ h fun _ => Nat.le_refl _
  intro w e w' hs hm
  obtain ⟨op, answer⟩ := e
  cases op with
  | store inst tx => exact hs.1.monotone hm
  | lookup store operationId =>
    rw [hs.2]
    exact hm
  | record store operationId actionHash result =>
    rw [hs.2]
    exact hm
  | _ =>
    rw [hs]
    exact hm

theorem run_handled (answers : (op : Op) → Res op) (g : Alone) (t : List KernelEvent) :
    ((alone P answers).run g t).handled = (t.any (fun e => e.1.isHandler) || g.handled) := by
  induction t generalizing g with
  | nil => rfl
  | cons e t ih =>
    show ((alone P answers).run _ t).handled = _
    rw [ih, List.any_cons]
    show (_ || (e.1.isHandler || g.handled)) = _
    rw [Bool.or_comm e.1.isHandler (t.any _), Bool.or_assoc]

/-- the run against a world of a call that meets its specification -/
theorem runAlone_spec {answers : (op : Op) → Res op} {c : ExecuteCall} {w : World}
    {Q : Alone → Prop}
    (h : wp (alone P answers) (c.program P) (fun _ g => Q g) ⟨w, false⟩) :
    Q ⟨(c.runAlone P answers w).2.1, (c.runAlone P answers w).2.2.any fun e => e.1.isHandler⟩ := by
  have hexec : Q ((alone P answers).run ⟨w, false⟩ (c.runAlone P answers w).2.2) ∧
      ((alone P answers).run ⟨w, false⟩ (c.runAlone P answers w).2.2).world
        = (c.runAlone P answers w).2.1 := by
    refine wp_exec (R := fun w g => g.world = w) ?_ h rfl
    rintro w g op rfl
    exact ⟨rfl, rfl⟩
  have hhandled := run_handled (P := P) answers ⟨w, false⟩ (c.runAlone P answers w).2.2
  rw [Bool.or_false] at hhandled
  rw [← hexec.2, ← hhandled]
  exact hexec.1

/-- **The two windows.**  A call that runs alone on a fresh proof, with nothing that fails, consumes
the key and calls the handler if and only if `now` is before `expires_at`, the executor has no effect
protector and an escrow finds its reference.  The skew of the verifier does not help. -/
theorem execute_fresh_iff (answers : (op : Op) → Res op) (X : ProtectedExecutor)
    (request : ProtectedExecutionRequest) (d : Option PolicyDecision) (key : String) (w : World)
    (t : List KernelEvent) (hw : Follows (World.step P) emptyWorld t w)
    (hreplay : X.replayProtector.isSome) (hfresh : Fresh P X request d key w)
    (hanswers : NothingFails answers) :
    ((∃ row, ((⟨X, request, d⟩ : ExecuteCall).runAlone P answers w).2.1.replay.find key = some row ∧
        row.status = .consumed) ∧
      (((⟨X, request, d⟩ : ExecuteCall).runAlone P answers w).2.2.any fun e => e.1.isHandler) = true) ↔
    request.context.now < request.pccb.expiresAt ∧ X.effectProtector = none ∧
      (X.escrow = true → request.pccb.escrowId ≠ .null) := by
  obtain ⟨inst, hinst⟩ := Option.isSome_iff_exists.mp hreplay
  have hm := monotone_of_follows hw
  constructor
  · intro hdone
    by_contra hbad
    have hunhandled : (((⟨X, request, d⟩ : ExecuteCall).runAlone P answers w).2.2.any
        fun e => e.1.isHandler) = false :=
      runAlone_spec (c := ⟨X, request, d⟩) (Q := fun g => g.handled = false)
        (wp_call_refused hfresh hm hinst (by
          by_contra hnot
          push Not at hnot
          obtain ⟨h1, h2, h3⟩ := hnot
          exact hbad ⟨h1, Option.not_isSome_iff_eq_none.mp h2, h3⟩))
    rw [hunhandled] at hdone
    exact nomatch hdone.2
  · rintro ⟨hlive, heffect, hescrow⟩
    exact runAlone_spec (c := ⟨X, request, d⟩) (Q := Done key)
      (wp_call_live hfresh hm hinst hanswers hlive heffect hescrow)

end

/-! ## the sample, before and at its end -/

theorem sampleAnswers_nothingFails : NothingFails sampleAnswers := by
  intro op hop
  cases op with
  | store inst tx => cases hop
  | _ => exact ⟨_, rfl⟩

/-- the sample request at another time -/
def sampleRequestAt (now : Datetime) : ProtectedExecutionRequest :=
  { sampleRequest with context := { sampleContext with now := now } }

/-- a request of the sample that verifies is fresh in an empty world -/
theorem sample_fresh (now : Datetime)
    (h : (sampleVerifier.verify kernelPlatform sampleIntent samplePccb
      { sampleContext with now := now }).toBool = true) :
    Fresh kernelPlatform sampleExecutor (sampleRequestAt now) none sampleReplayKey emptyWorld where
  verified := by
    obtain ⟨u, hu⟩ := Fallible.exists_ok h
    exact hu
  allowed := fun _ h => nomatch h
  noEffect := rfl
  replayKey := by
    show buildReplayKey kernelPlatform sampleIntent samplePccb sampleContext = _
    decide +kernel
  unseen := rfl
  noPrior := fun _ _ h => nomatch h

/-- before the end of its window the sample is consumed and handled -/
theorem execute_fresh_iff_sample :
    sampleContext.now < samplePccb.expiresAt ∧
      ((⟨sampleExecutor, sampleRequestAt sampleIssued, none⟩ : ExecuteCall).runAlone kernelPlatform
        sampleAnswers emptyWorld).2.2.any (fun e => e.1.isHandler) = true := by
  have hlive : sampleContext.now < samplePccb.expiresAt := by decide
  refine ⟨hlive, ?_⟩
  exact ((execute_fresh_iff sampleAnswers sampleExecutor (sampleRequestAt sampleIssued) none
    sampleReplayKey emptyWorld [] rfl rfl (sample_fresh sampleIssued (by decide +kernel))
    sampleAnswers_nothingFails).mpr ⟨hlive, rfl, fun h => nomatch h⟩).2

/-- at the end of the window, which the verifier accepts, the handler is not called -/
theorem execute_fresh_at_expiry :
    sampleVerifier.verify kernelPlatform sampleIntent samplePccb
        { sampleContext with now := samplePccb.expiresAt } = .ok () ∧
      Fresh kernelPlatform sampleExecutor (sampleRequestAt samplePccb.expiresAt) none sampleReplayKey
        emptyWorld ∧
      NothingFails sampleAnswers ∧
      ((⟨sampleExecutor, sampleRequestAt samplePccb.expiresAt, none⟩ : ExecuteCall).runAlone
        kernelPlatform sampleAnswers emptyWorld).2.2.any (fun e => e.1.isHandler) = false := by
  have hfresh := sample_fresh samplePccb.expiresAt (by decide +kernel)
  exact ⟨hfresh.verified, hfresh, sampleAnswers_nothingFails, by decide +kernel⟩

end Actenon
