import ActenonKernel.Execution.Evidence
import ActenonKernel.Execution.Outcomes
import ActenonKernel.Receipts.Readable

/-!
# Every execution is reported

Whatever the `try` block raises, an `except` clause builds a refused receipt of it, outside the `try`
block.  What can fail there is the builder of the capability, which reads parameters that nothing has
validated, and the hash of the evidence.

* `Expected`         the broker, the stores and the writers do as they should;
* `Ready`            the evidence that the receipt of a refusal needs can be hashed;
* `reports_iff`      when `execute` returns a result in every run.
-/

set_option linter.unusedSectionVars false

namespace Actenon

open Program

/-! ## what is expected of the others -/

/-- a refusal with a brief code, or no refusal -/
def Briefly {α : Type} (x : PyM α) : Prop := ∀ exc, x = .error (.refusal exc) → Brief exc.refusalCode

/-- between the claim of an effect and the handler: the evidence quotes the code of what these raise -/
def Op.quoted : Op → Bool
  | .store _ _ | .acquire _ => true
  | _ => false

/-- writers and factories answer, and the replay store and the broker raise no refusals with long codes -/
structure ExpectedEvent (e : KernelEvent) : Prop where
  delivered : e.1.delivers = true → failed e = false
  brief : e.1.quoted = true → Briefly (show PyM (Value e.1) from e.2)

/-- nothing unexpected is raised; the handler may raise anything -/
def Expected (t : List KernelEvent) : Prop := ∀ e ∈ t, ExpectedEvent e

def reportMonitor : Monitor Res Unit where
  allow _ _ := True
  possible _ op r := ExpectedEvent ⟨op, r⟩
  next _ _ _ := ()

theorem Expected.possible {t : List KernelEvent} (h : Expected t) : reportMonitor.Possible () t := by
  induction t with
  | nil => trivial
  | cons e t ih => exact ⟨h e List.mem_cons_self, ih fun x hx => h x (List.mem_cons_of_mem _ hx)⟩

/-- a frame under the monitor -/
theorem wp_expected {α : Type} {I : Op → Prop} {J : Locals → Prop} {m : Run α} (hm : Frame I J m)
    {v : Locals} (hv : J v) : wp reportMonitor (m v) (fun r _ => J r.2) () :=
  wp_mono (wp_frame (K := fun _ => True) hm (fun _ _ _ _ => ⟨trivial, fun _ _ => trivial⟩) hv trivial)
    fun _ _ h => h.1

theorem wp_calm_expected {α : Type} {m : Run α} (hm : Calm m) {J : Locals → Prop}
    (hJ : ∀ v b, J v → J { v with replayConsumed := b }) {v : Locals} (hv : J v) :
    wp reportMonitor (m v) (fun r _ => (∃ a, r.1 = .ok a) ∧ J r.2) () :=
  wp_mono (wp_of_only (K := fun _ => True) (fun _ _ _ _ => ⟨trivial, fun _ _ => trivial⟩) (hm J hJ v hv) trivial)
    fun _ _ h => h.1

/-! ## brief refusals -/

section
variable {S α β : Type}

/-- what the statement raises is brief -/
def RaisesBriefly (m : Kernel S α) : Prop := ∀ s, wp reportMonitor (m s) (fun r _ => Briefly r.1) ()

theorem briefly_ok (a : α) : Briefly (.ok a : PyM α) := fun _ h => nomatch h

theorem briefly_other (e : PyError) : Briefly (.error (.other e) : PyM α) := fun _ h => nomatch h

theorem briefly_refusal {exc : RefusalException} (h : Brief exc.refusalCode) :
    Briefly (.error (.refusal exc) : PyM α) := by
  intro exc' he
  cases he
  exact h

theorem raisesBriefly_pure (a : α) : RaisesBriefly (pure a : Kernel S α) := fun _ => briefly_ok a

theorem raisesBriefly_raise {e : Raised} (h : Briefly (.error e : PyM α)) :
    RaisesBriefly (Act.raise e : Kernel S α) := fun _ => h

theorem raisesBriefly_perform {op : Op} (hop : op.quoted = true) {f : Value op → Kernel S β}
    (hf : ∀ a, RaisesBriefly (f a)) :
    RaisesBriefly ((Act.perform op rfl : Kernel S (Value op)) >>= f) := by
  intro s
  refine wp_perform trivial (fun a _ => hf a s) ?_
  intro e hp exc he
  exact hp.brief hop exc (congrArg Except.error (Except.error.inj he))

theorem raisesBriefly_seq {m : Kernel S α} {f : α → Kernel S β} (hm : RaisesBriefly m)
    (hf : ∀ a, RaisesBriefly (f a)) : RaisesBriefly (m >>= f) := by
  intro s
  refine wp_seq _ (hm s) (fun a s' _ _ => hf a s') ?_
  intro e s' _ h exc he
  exact h exc (congrArg Except.error (Except.error.inj he))

theorem raisesBriefly_inspect (inst : Nat) (key : String) (now : Datetime) (depth : Nat) :
    RaisesBriefly (S := S) (inspectUpTo inst key now depth) := by
  induction depth with
  | zero => exact raisesBriefly_raise (briefly_other _)
  | succ depth ih =>
    refine raisesBriefly_perform (show (Op.store inst (.inspect key now)).quoted = true from rfl) fun answer => ?_
    cases answer with
    | missing => exact raisesBriefly_pure _
    | expired => exact ih
    | found row => exact raisesBriefly_pure _

theorem raisesBriefly_markConsumed (inst : Nat) (key : String) (now : Datetime) :
    RaisesBriefly (S := S) (markConsumed inst key now) := by
  refine raisesBriefly_perform (show (Op.store inst (.consume key now)).quoted = true from rfl) fun changed => ?_
  refine raisesBriefly_seq (raisesBriefly_inspect _ _ _ _) fun state => ?_
  cases changed with
  | true => exact raisesBriefly_pure _
  | false =>
    refine raisesBriefly_raise (briefly_refusal ?_)
    show Brief "REPLAY_STATE_INVALID"
    decide

end

section
variable {P : Platform} {X : ProtectedExecutor} {request : ProtectedExecutionRequest}

theorem raisesBriefly_consumeReplay : RaisesBriefly (X.consumeReplay request) := by
  intro v
  refine wp_vars (wp_seq (fun r _ => Briefly r.1) ?_ (fun _ _ _ _ => briefly_ok ()) ?_)
  · unfold ProtectedExecutor.markReplayConsumed
    cases X.replayProtector with
    | none => exact briefly_ok false
    | some inst =>
      cases v.replayState with
      | none => exact briefly_ok false
      | some state =>
        refine wp_catching (fun r _ => Briefly r.1) ?_ (fun a _ _ _ => briefly_ok a) ?_
        · exact raisesBriefly_seq (raisesBriefly_markConsumed _ _ _) (fun _ => raisesBriefly_pure true) v
        · intro e v' _ he
          cases e with
          | refusal exc => exact briefly_refusal (he exc rfl)
          | other e =>
            unfold ProtectedExecutor.onStoreFailure
            dsimp only
            cases X.failOpen with
            | true => exact briefly_ok false
            | false =>
              refine briefly_refusal ?_
              show Brief "REPLAY_STORE_UNAVAILABLE"
              decide
  · intro e v' _ h exc he
    exact h exc (congrArg Except.error (Except.error.inj he))

/-! ## the evidence that a refusal needs -/

/-- the evidence of a refusal with these codes can be hashed -/
def Evidenced (P : Platform) (v : Locals) (codes : List String) : Prop :=
  ∀ reference, v.effectReference = some reference →
    ∃ d, refusedEvidence P reference v.handlerStarted v.effectEvidence codes = .ok d

/-- the reference that was claimed has evidence for every brief code -/
def Owned (P : Platform) (v : Locals) : Prop :=
  ∀ reference, v.effectReference = some reference → ∀ started code, Brief code →
    ∃ d, refusedEvidence P reference started none [code] = .ok d

/-- where the `try` block raises; before the handler starts, a claimed effect is refused briefly -/
structure Ready (P : Platform) (v : Locals) (e : Raised) : Prop where
  owned : Owned P v
  brief : v.effectReference ≠ none → v.handlerStarted = false → Briefly (.error e : PyM Unit)

theorem Owned.evidenced {v : Locals} (h : Owned P v) {code : String} (hcode : Brief code) :
    Evidenced P v [code] := by
  intro reference hreference
  cases he : v.effectEvidence with
  | some d => exact ⟨d, rfl⟩
  | none => exact h reference hreference _ code hcode

theorem owned_of_none {v : Locals} (h : v.effectReference = none) : Owned P v :=
  fun _ hr => nomatch h.symm.trans hr

theorem ready_of_none {v : Locals} {e : Raised} (h : v.effectReference = none) : Ready P v e :=
  ⟨owned_of_none h, fun hne => absurd h hne⟩

theorem ready_of_started {v : Locals} {e : Raised} (h : Owned P v) (hs : v.handlerStarted = true) :
    Ready P v e := ⟨h, fun _ hf => nomatch hs.symm.trans hf⟩

/-- the refusal that is reported has evidence -/
theorem Ready.reported {v : Locals} {exc : RefusalException} (h : Ready P v (.refusal exc)) :
    Evidenced P v [(v.reported exc).refusalCode] := by
  intro reference hreference
  have hsome : v.effectReference.isSome = true := by rw [hreference]; rfl
  have hne : v.effectReference ≠ none := fun hn => nomatch hn.symm.trans hreference
  cases hstarted : v.handlerStarted with
  | false =>
    have hcaught : v.reported exc = exc := by
      unfold Locals.reported
      rw [hstarted, Bool.and_false, Bool.false_and]
      rfl
    rw [hcaught, ← hstarted]
    exact h.owned.evidenced (h.brief hne hstarted exc rfl) reference hreference
  | true =>
    cases hevidence : v.effectEvidence with
    | some d => exact ⟨d, rfl⟩
    | none =>
      have hheld : v.reported exc = heldForReconciliation := by
        unfold Locals.reported
        rw [hsome, hstarted, hevidence]
        rfl
      rw [hheld]
      refine h.owned reference hreference true _ ?_
      show Brief "OUTCOME_UNKNOWN"
      decide

/-! ## the `except` clauses -/

/-- the call returns a result -/
def Reported (r : Except Raised ExecutionResult × Locals) : Prop := ∃ result, r.1 = .ok result

theorem refusedReceipt_codes {refusal : Refusal} {make : String → Receipt}
    (h : refusedReceipt P request refusal = .ok make) (receiptId : String) :
    (make receiptId).reasonCodes = [refusal.reasonCode] := by
  unfold refusedReceipt at h
  obtain ⟨⟨summary, details⟩, -, h⟩ := Fallible.bind_eq_ok.mp h
  rw [← Fallible.pure_eq_ok.mp h]

theorem Evidenced.refusedReceipt {v : Locals} {created : Receipt} (h : Evidenced P v created.reasonCodes) :
    ∃ receipt, v.refusedReceipt P created = .ok receipt := by
  unfold Locals.refusedReceipt
  split
  · exact ⟨_, rfl⟩
  · rename_i reference hreference
    obtain ⟨d, hd⟩ := h reference hreference
    unfold effectRefusalReceipt
    rw [hd]
    exact ⟨_, rfl⟩

/-- the artifacts of a refusal whose receipt can be built -/
theorem wp_emitRefusal_reported (hread : RefusalReadable P request.intent) {exc : RefusalException} {v : Locals}
    (hv : Evidenced P v [exc.refusalCode]) :
    wp reportMonitor (emitRefusal P request exc v) (fun r _ => Reported r) () := by
  refine wp_seq (fun r _ => ∃ refusal, r = (.ok refusal, v) ∧ refusal.reasonCode = exc.refusalCode) ?_ ?_
    fun e v1 _ ⟨_, h1, _⟩ => nomatch h1
  · refine wp_perform trivial (fun refusalId _ => ⟨_, rfl, rfl⟩) ?_
    intro e hp
    cases hp.delivered rfl
  rintro refusal v1 _ ⟨_, hr, hcode⟩
  cases hr
  refine wp_seq (fun r _ => ∃ created, r = (.ok created, v) ∧ created.reasonCodes = [exc.refusalCode]) ?_ ?_
    fun e v2 _ ⟨_, h2, _⟩ => nomatch h2
  · refine wp_lift ?_ ?_
    · intro make hmake
      refine wp_perform trivial (fun receiptId _ => ?_) ?_
      · exact ⟨_, rfl, hcode ▸ refusedReceipt_codes (orRaise_ok hmake) receiptId⟩
      · intro e hp
        cases hp.delivered rfl
    · intro e he
      obtain ⟨make, hmake⟩ := refusedReceipt_iff.mpr hread
      rw [hmake] at he
      cases he
  rintro created v2 _ ⟨_, hr, hcodes⟩
  cases hr
  refine wp_vars (wp_lift ?_ ?_)
  · intro receipt _
    refine wp_perform trivial ?_ fun e hp => nomatch hp.delivered rfl
    intro _ _
    refine wp_perform trivial ?_ fun e hp => nomatch hp.delivered rfl
    intro _ _
    exact ⟨_, rfl⟩
  · intro e he
    obtain ⟨receipt, hreceipt⟩ := (show Evidenced P v created.reasonCodes by rwa [hcodes]).refusedReceipt
    rw [hreceipt] at he
    cases he

/-- what an `except` clause does before the artifacts -/
theorem wp_calm_then {m : Run Unit} (hm : Calm m) {f : Unit → Run ExecutionResult} {code : String} {v : Locals}
    (hv : Evidenced P v [code])
    (hf : ∀ v', Evidenced P v' [code] → wp reportMonitor (f () v') (fun r _ => Reported r) ()) :
    wp reportMonitor ((m >>= f) v) (fun r _ => Reported r) () := by
  refine wp_seq _ (wp_calm_expected hm (J := fun v => Evidenced P v [code]) (fun _ _ h => h) hv) ?_
    fun e v1 _ ⟨⟨_, h1⟩, _⟩ => nomatch h1
  rintro _ v1 _ ⟨-, hv1⟩
  exact hf v1 hv1

theorem wp_onRaise_reported (hread : RefusalReadable P request.intent) {e : Raised} {v : Locals}
    (hv : Ready P v e) : wp reportMonitor (X.onRaise P request e v) (fun r _ => Reported r) () := by
  cases e with
  | refusal caught =>
    refine wp_vars (wp_calm_then (calm_releaseCredential _ _) hv.reported fun v1 hv1 => ?_)
    refine wp_calm_then (calm_releaseUnlessConsumed _) hv1 fun v2 hv2 => ?_
    exact wp_emitRefusal_reported hread hv2
  | other e =>
    have hcode : Brief (if v.crossed then "OUTCOME_UNKNOWN" else "EXECUTION_FAILED") := by
      cases v.crossed with
      | true => exact (by decide : Brief "OUTCOME_UNKNOWN")
      | false => exact (by decide : Brief "EXECUTION_FAILED")
    refine wp_vars (wp_calm_then (calm_releaseCredential _ _) (hv.owned.evidenced hcode) fun v1 hv1 => ?_)
    refine wp_calm_then calm_consumeUnlessConsumed hv1 fun v2 hv2 => ?_
    exact wp_emitRefusal_reported hread hv2

/-! ## the `try` block -/

/-- the `try` block returns, or what it raises can be reported -/
def ReadyAttempt (P : Platform) (r : Except Raised ExecutionResult × Locals) : Prop :=
  ∀ e, r.1 = .error e → Ready P r.2 e

theorem readyAttempt_of_none {r : Except Raised ExecutionResult × Locals} (h : r.2.effectReference = none) :
    ReadyAttempt P r := fun _ _ => ready_of_none h

theorem signed_of_verified {V : PCCBVerifier} {intent : ActionIntent} {pccb : PCCB} {context : DynamicContextInput}
    (h : V.verify P intent pccb context = .ok ()) :
    ∃ bytes, canonicalizeBytes P (.obj pccb.unsignedPayload) = .ok bytes := by
  have hauth := (verify_ok h).1
  unfold PCCBVerifier.authenticate at hauth
  obtain ⟨_, -, hauth⟩ := Fallible.bind_eq_ok.mp hauth
  obtain ⟨_, -, hauth⟩ := Fallible.bind_eq_ok.mp hauth
  obtain ⟨bytes, hbytes, -⟩ := Fallible.bind_eq_ok.mp hauth
  exact ⟨bytes, Fallible.mapError_eq_ok.mp hbytes⟩

theorem authorize_signed {decision : Option PolicyDecision} (h : X.authorize P request decision = .ok ()) :
    ∃ bytes, canonicalizeBytes P (.obj request.pccb.unsignedPayload) = .ok bytes := by
  unfold ProtectedExecutor.authorize at h
  obtain ⟨_, hverify, -⟩ := Fallible.bind_eq_ok.mp h
  exact signed_of_verified hverify

/-- the reference that is claimed is the one of the proof -/
theorem ownReference_parsed {E : EffectProtector} {reference : EffectReference}
    (h : E.ownReference P request = .ok reference) :
    EffectReference.fromDict P (Dict.get request.pccb.extensions "effect") = .ok reference := by
  unfold EffectProtector.ownReference at h
  obtain ⟨⟨parsed, authority⟩, hinput, h⟩ := Fallible.bind_eq_ok.mp h
  obtain ⟨_, -, h⟩ := Fallible.bind_eq_ok.mp h
  obtain ⟨_, -, h⟩ := Fallible.bind_eq_ok.mp h
  obtain ⟨_, -, h⟩ := Fallible.bind_eq_ok.mp h
  obtain ⟨_, -, h⟩ := Fallible.bind_eq_ok.mp h
  obtain ⟨_, -, h⟩ := Fallible.bind_eq_ok.mp h
  have hparsed := Fallible.pure_eq_ok.mp h
  subst hparsed
  unfold effectClaimInput at hinput
  cases hd : EffectReference.fromDict P (Dict.get request.pccb.extensions "effect") with
  | error e =>
    rw [hd] at hinput
    cases hinput
  | ok reference =>
    rw [hd] at hinput
    dsimp only at hinput
    split at hinput
    · cases hinput
      rfl
    · cases hinput

theorem wp_claimEffect_reported {bytes : List UInt8}
    (hsigned : canonicalizeBytes P (.obj request.pccb.unsignedPayload) = .ok bytes) {v : Locals}
    (hv : v.effectReference = none) (hs : v.handlerStarted = false) :
    wp reportMonitor (X.claimEffect P request v) (fun r _ => (r.2.handlerStarted = false ∧ Owned P r.2) ∧
      ∀ e, r.1 = .error e → r.2.effectReference = none) () := by
  unfold ProtectedExecutor.claimEffect
  cases X.effectProtector with
  | none => exact ⟨⟨hs, owned_of_none hv⟩, fun _ h => nomatch h⟩
  | some E =>
    refine wp_seq (fun r _ => r.2 = v ∧ ∀ reference, r.1 = .ok reference →
      E.ownReference P request = .ok reference) ?_ ?_ ?_
    · refine wp_lift ?_ fun e _ => ⟨rfl, fun _ hr => nomatch hr⟩
      intro reference hreference
      refine wp_seq _ (wp_expected (I := fun _ => True) (J := fun v' => v' = v)
        (frame_catching (frame_perform trivial) fun _ => frame_raise _) rfl) ?_ ?_
      · intro claimed v' _ hv'
        cases claimed with
        | false => exact ⟨hv', fun _ hr => nomatch hr⟩
        | true =>
          refine ⟨hv', ?_⟩
          intro reference' hr
          cases hr
          exact hreference
      · exact fun e v' _ hv' => ⟨hv', fun _ hr => nomatch hr⟩
    · rintro reference v' _ ⟨rfl, hreference⟩
      refine ⟨⟨hs, ?_⟩, fun _ h => nomatch h⟩
      intro reference' hr started code hcode
      cases hr
      exact refusedEvidence_of_signed hsigned (ownReference_parsed (hreference reference rfl)) started hcode
    · rintro e v' _ ⟨rfl, -⟩
      exact ⟨⟨hs, owned_of_none hv⟩, fun _ _ => hv⟩

theorem wp_dispatch_reported {bytes : List UInt8}
    (hsigned : canonicalizeBytes P (.obj request.pccb.unsignedPayload) = .ok bytes) {v : Locals}
    (hv : v.effectReference = none) (hs : v.handlerStarted = false) :
    wp reportMonitor (X.dispatch P request v) (fun r _ => ReadyAttempt P r) () := by
  refine wp_seq _ (wp_expected (I := fun _ => True)
    (J := fun v => v.effectReference = none ∧ v.handlerStarted = false)
    (frame_consumeEscrow fun _ _ _ _ => trivial) ⟨hv, hs⟩) ?_ fun e v1 _ h1 => readyAttempt_of_none h1.1
  rintro _ v1 _ ⟨hv1, hs1⟩
  refine wp_seq _ (wp_claimEffect_reported hsigned hv1 hs1) ?_ fun e v2 _ h2 => readyAttempt_of_none (h2.2 e rfl)
  rintro _ v2 _ ⟨⟨hs2, ho2⟩, -⟩
  refine wp_perform trivial ?_ ?_
  · intro credential _
    refine wp_assign ?_
    have hstarted : ∀ v' : Locals, v'.handlerStarted = false ∧ Owned P v' →
        Owned P { v' with handlerStarted := true } := fun _ h => h.2
    refine wp_seq _ (wp_and (raisesBriefly_consumeReplay _) (wp_expected (I := fun _ => True)
      (J := fun v => v.handlerStarted = false ∧ Owned P v)
      (frame_consumeReplay (fun _ _ => trivial) fun _ _ h => h) ⟨hs2, ho2⟩)) ?_ ?_
    · rintro _ v3 _ ⟨-, hv3⟩
      refine wp_assign (wp_perform trivial ?_ ?_)
      · intro payload _
        refine wp_mono (wp_expected (I := fun _ => True) (J := fun v => Owned P v ∧ v.handlerStarted = true)
          (frame_complete (fun _ _ => trivial) trivial (fun _ => trivial) (fun _ _ _ _ _ => trivial)
            (fun _ _ h => h) _ _) ⟨hstarted v3 hv3, rfl⟩) ?_
        exact fun r _ h e _ => ready_of_started h.1 h.2
      · exact fun e _ e' _ => ready_of_started (hstarted v3 hv3) rfl
    · rintro e v3 _ ⟨hbrief, -, ho3⟩ e' he
      refine ⟨ho3, fun _ _ exc hexc => hbrief exc ?_⟩
      rw [Except.error.inj he, Except.error.inj hexc]
  · intro e hp e' he
    refine ⟨ho2, fun _ _ exc hexc => hp.brief rfl exc ?_⟩
    show (Except.error e : PyM BrokeredCredential) = _
    rw [Except.error.inj he, Except.error.inj hexc]
    rfl

theorem wp_attempt_reported (decision : Option PolicyDecision) :
    wp reportMonitor (X.attempt P request decision {}) (fun r _ => ReadyAttempt P r) () := by
  refine wp_lift ?_ fun e _ => readyAttempt_of_none rfl
  intro _ hauthorized
  obtain ⟨bytes, hsigned⟩ := authorize_signed hauthorized
  refine wp_seq _ (wp_expected (I := fun _ => True)
    (J := fun v => v.effectReference = none ∧ v.handlerStarted = false)
    (frame_claimReplay fun _ _ => trivial) ⟨rfl, rfl⟩) ?_ fun e v1 _ h1 => readyAttempt_of_none h1.1
  intro state v1 _ hv1
  refine wp_assign (wp_seq _ (wp_expected (I := fun _ => True)
    (J := fun v => v.effectReference = none ∧ v.handlerStarted = false)
    (frame_lookupPrior fun _ _ _ => trivial) hv1) ?_ fun e v2 _ h2 => readyAttempt_of_none h2.1)
  intro prior v2 _ hv2
  cases prior with
  | none => exact wp_dispatch_reported hsigned hv2.1 hv2.2
  | some prior =>
    refine wp_mono (wp_expected (I := fun _ => True) (J := fun v => v.effectReference = none)
      (frame_returnPrior (fun _ _ => trivial) trivial (fun _ => trivial) (fun _ _ h => h) prior) hv2.1) ?_
    exact fun r _ h => readyAttempt_of_none h

/-- **One call** whose refusals can be quoted -/
theorem wp_call_reported (hread : RefusalReadable P request.intent) (decision : Option PolicyDecision) :
    wp reportMonitor (X.call P request decision) (fun r _ => Reported r) () := by
  refine wp_catching _ (wp_attempt_reported decision) ?_ ?_
  · exact fun result v _ _ => ⟨result, rfl⟩
  · exact fun e v _ h => wp_onRaise_reported hread (h e rfl)

/-! ## a call that is refused -/

/-- writers and factories answer, everything else refuses -/
def refusingAnswers : (op : Op) → Res op
  | .receiptId | .refusalId => .ok ""
  | .writeReceipt _ | .writeRefusal _ => .ok ()
  | _ => .error (.refusal { category := "execution", refusalCode := "REFUSED", message := "refused" })

theorem refusingAnswers_expected (op : Op) : ExpectedEvent ⟨op, refusingAnswers op⟩ := by
  have hbrief : ∀ {α : Type}, Briefly (.error (.refusal
      { category := "execution", refusalCode := "REFUSED", message := "refused" }) : PyM α) :=
    briefly_refusal (by decide : Brief "REFUSED")
  cases op with
  | receiptId | refusalId => exact ⟨fun _ => rfl, fun _ => briefly_ok _⟩
  | writeReceipt r | writeRefusal r => exact ⟨fun _ => rfl, fun _ => briefly_ok _⟩
  | _ => exact ⟨fun h => (nomatch h), fun _ => hbrief⟩

/-- the only answers are the refusing ones -/
def refusingMonitor : Monitor Res Unit where
  allow _ _ := True
  possible _ op r := r = refusingAnswers op
  next _ _ _ := ()

theorem wp_refusing {α : Type} (m : Run α) (v : Locals) : wp refusingMonitor (m v) (fun _ _ => True) () :=
  wp_mono (wp_frame (K := fun _ => True) (frame_any m) (fun _ _ _ _ => ⟨trivial, fun _ _ => trivial⟩) trivial trivial)
    fun _ _ _ => trivial

/-- the call raises -/
def RaisedAny {α : Type} (r : Except Raised α × Locals) : Prop := ∃ e, r.1 = .error e

theorem wp_refused_perform {α β : Type} (op : Op) (h : Res op = PyM α)
    (hop : ∀ a, cast h (refusingAnswers op) ≠ .ok a) (f : α → Run β) (v : Locals) :
    wp refusingMonitor ((Act.perform op h >>= f) v) (fun r _ => RaisedAny r) () := by
  refine wp_perform trivial ?_ fun e _ => ⟨e, rfl⟩
  intro a ha
  refine absurd ?_ (hop a)
  rw [← show cast h.symm (.ok a) = refusingAnswers op from ha, cast_cast, cast_eq]

theorem wp_attempt_refused (decision : Option PolicyDecision) :
    wp refusingMonitor (X.attempt P request decision {}) (fun r _ => RaisedAny r) () := by
  refine wp_lift ?_ fun e _ => ⟨e, rfl⟩
  intro _ _
  refine wp_seq _ (wp_refusing _ _) ?_ fun e _ _ _ => ⟨e, rfl⟩
  intro state v1 _ _
  refine wp_assign (wp_seq (fun r _ => ∀ prior, r.1 ≠ .ok (some prior)) ?_ ?_ fun e _ _ _ => ⟨e, rfl⟩)
  · unfold ProtectedExecutor.lookupPrior
    cases X.operation request with
    | none => exact fun _ h => nomatch h
    | some operation =>
      refine ⟨trivial, ?_⟩
      rintro r hr prior hprior
      subst hr
      cases hprior
  · intro prior v2 _ hprior
    cases prior with
    | some prior => exact absurd rfl (hprior prior)
    | none =>
      refine wp_seq _ (wp_refusing _ _) ?_ fun e _ _ _ => ⟨e, rfl⟩
      intro _ v3 _ _
      refine wp_seq _ (wp_refusing _ _) ?_ fun e _ _ _ => ⟨e, rfl⟩
      intro _ v4 _ _
      refine wp_refused_perform (.acquire request) rfl ?_ _ _
      intro credential h
      cases h

theorem wp_emitRefusal_refused (hread : ¬ RefusalReadable P request.intent) (exc : RefusalException) (v : Locals) :
    wp refusingMonitor (emitRefusal P request exc v) (fun r _ => RaisedAny r) () := by
  refine wp_seq _ (wp_refusing _ _) ?_ fun e _ _ _ => ⟨e, rfl⟩
  intro refusal v1 _ _
  refine wp_seq (fun r _ => RaisedAny r) ?_ (fun _ _ _ h => nomatch h) fun e _ _ _ => ⟨e, rfl⟩
  refine wp_lift ?_ fun e _ => ⟨e, rfl⟩
  intro make hmake
  exact absurd (refusedReceipt_iff.mp ⟨make, orRaise_ok hmake⟩) hread

theorem wp_call_unreadable (hread : ¬ RefusalReadable P request.intent) (decision : Option PolicyDecision) :
    wp refusingMonitor (X.call P request decision) (fun r _ => RaisedAny r) () := by
  refine wp_catching _ (wp_attempt_refused decision) (fun _ _ _ h => h) ?_
  intro e v _ _
  cases e with
  | refusal caught =>
    refine wp_vars (wp_seq _ (wp_refusing _ _) ?_ fun e _ _ _ => ⟨e, rfl⟩)
    intro _ v1 _ _
    refine wp_seq _ (wp_refusing _ _) ?_ fun e _ _ _ => ⟨e, rfl⟩
    intro _ v2 _ _
    exact wp_emitRefusal_refused hread _ _
  | other e =>
    refine wp_vars (wp_seq _ (wp_refusing _ _) ?_ fun e _ _ _ => ⟨e, rfl⟩)
    intro _ v1 _ _
    refine wp_seq _ (wp_refusing _ _) ?_ fun e _ _ _ => ⟨e, rfl⟩
    intro _ v2 _ _
    exact wp_emitRefusal_refused hread _ _

def refusingEnv (op : Op) (_ : Unit) : Res op × Unit := (refusingAnswers op, ())

/-- a run of a call in which everything refuses -/
def refusedRun (P : Platform) (X : ProtectedExecutor) (request : ProtectedExecutionRequest)
    (decision : Option PolicyDecision) := exec refusingEnv (X.call P request decision) ()

theorem refusedRun_expected (decision : Option PolicyDecision) : Expected (refusedRun P X request decision).2.2 := by
  unfold refusedRun
  generalize X.call P request decision = p
  induction p with
  | ret a => exact fun e he => nomatch he
  | call op k ih =>
    intro e he
    rcases List.mem_cons.mp he with rfl | he
    · exact refusingAnswers_expected op
    · exact ih _ e he

theorem refusedRun_ends (decision : Option PolicyDecision) :
    EndsIn (X.call P request decision) (refusedRun P X request decision).2.2
      (.returned (refusedRun P X request decision).1) := .returned (exec_reaches refusingEnv _ ())

/-- a request whose refusals cannot be quoted raises -/
theorem refusedRun_raises (hread : ¬ RefusalReadable P request.intent) (decision : Option PolicyDecision) :
    ∃ e, (refusedRun P X request decision).1.1 = .error e := by
  have hpossible : ∀ (w g : Unit) op, True →
      refusingMonitor.possible g op (refusingEnv op w).1 ∧ True := fun _ _ _ _ => ⟨rfl, trivial⟩
  exact (wp_exec (R := fun _ _ => True) hpossible (wp_call_unreadable hread decision) (w := ()) trivial).1

/-- a call that returns returns a result -/
theorem reported_of_reaches (hread : RefusalReadable P request.intent) {decision : Option PolicyDecision}
    {t : List KernelEvent} {r : Except Raised ExecutionResult} {v : Locals}
    (h : Reaches (X.call P request decision) t (.ret (r, v))) (hexpected : Expected t) :
    ∃ result, r = .ok result :=
  (wp_reaches (wp_call_reported hread decision) h hexpected.possible).2

/-- **When every execution is reported.**  In every run of a call in which nothing unexpected is raised, the
executor returns a result unless something escapes that is no `Exception`: exactly if the parameters that the
receipt of a refusal quotes are readable. -/
theorem reports_iff (P : Platform) (X : ProtectedExecutor) (request : ProtectedExecutionRequest)
    (decision : Option PolicyDecision) :
    (∀ t o, EndsIn (X.call P request decision) t o → Expected t →
        ((∃ result v, o = .returned (.ok result, v)) ↔ ¬ o.Escaped)) ↔
      RefusalReadable P request.intent := by
  constructor
  · intro h
    by_contra hread
    obtain ⟨result, v, hresult⟩ := (h _ _ (refusedRun_ends decision) (refusedRun_expected decision)).mpr id
    obtain ⟨e, he⟩ := refusedRun_raises (X := X) hread decision
    rw [End.returned.inj hresult] at he
    cases he
  · intro hread t o h hexpected
    cases h with
    | @returned r h =>
      obtain ⟨result, hresult⟩ := reported_of_reaches hread (r := r.1) (v := r.2) h hexpected
      exact iff_of_true ⟨result, r.2, congrArg End.returned (Prod.ext hresult rfl)⟩ id
    | escaped h => exact iff_of_false (fun ⟨_, _, h⟩ => nomatch h) (not_not.mpr trivial)

end

/-! ## a refund without an amount -/

/-- a refund intent as it can be parsed, for which no proof was minted -/
def amountlessRefund : ActionIntent :=
  { sampleIntent with
    action := ⟨"refund.create", "refund.execute", [], [], []⟩ }

/-- the call raises the `KeyError` of the builder -/
theorem reports_unless_readable :
    ¬ ∀ t o, EndsIn (sampleExecutor.call kernelPlatform { sampleRequest with intent := amountlessRefund } none) t o →
      Expected t → ∃ result v, o = .returned (.ok result, v) := by
  intro h
  have hread := (reports_iff kernelPlatform sampleExecutor { sampleRequest with intent := amountlessRefund } none).mp ?_
  · obtain ⟨v, hv, -⟩ := (hread.refund (by decide)).amount
    cases hv
  · intro t o ho hexpected
    obtain ⟨result, v, rfl⟩ := h t o ho hexpected
    exact iff_of_true ⟨result, v, rfl⟩ id

end Actenon
