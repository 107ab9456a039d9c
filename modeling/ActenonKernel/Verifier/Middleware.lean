import ActenonKernel.Execution.Window
import ActenonKernel.Execution.Trace

/-!
# The protected endpoint (`actenon/verifier/middleware.py`)

The middleware calls the handler on a claim and consumes the claim afterwards.  Whether the receipt
of a handler that returned says `executed` is decided by what comes after the handler: the row has
to be `claimed` still when it is consumed, and the receipt has to be built.

* `ProtectedEndpointMiddleware.execute`    the program;
* `course`                the monitor of one call;
* `endpoint_executed_iff`     when the result is an executed receipt.
-/

set_option linter.unusedSectionVars false

namespace Actenon

open Program

/-! ## the program -/

structure ProtectedEndpointMiddleware where
  proofVerifier : PCCBVerifier
  /-- the store object of the replay protector -/
  replayProtector : Nat

/-- the local variable is `replay_state` -/
abbrev Endpoint := Kernel (Option ActionConsumptionState)

section
variable (P : Platform) (E : ProtectedEndpointMiddleware) (request : ProtectedExecutionRequest)

/-- `replay_state.replay_key` -/
def replayKeyOf : Option ActionConsumptionState → Except PyError String
  | some state => .ok state.replayKey
  | none => attributeError "'NoneType' object has no attribute 'replay_key'"

/-- `escrow_id is None` -/
def Json.isNone : Json → Bool
  | .null => true
  | _ => false

def ProtectedEndpointMiddleware.authorize : PyM Unit := do
  E.proofVerifier.verify P request.intent request.pccb request.context
  raiseWhen ((Dict.find request.pccb.extensions (.str "effect")).isSome)
    (.refusal
      { category := "policy"
        refusalCode := "POLICY_REFUSAL"
        message := "This middleware cannot enforce effect ownership; use an effect-aware ProtectedExecutor." })
  raiseWhen request.pccb.escrowId.isNone
    (.refusal
      { category := "escrow"
        refusalCode := "ESCROW_REFERENCE_MISSING"
        message := "The proof does not include an escrow reference." })

/-- what follows the handler in the `try` block -/
def ProtectedEndpointMiddleware.finish (payload : Json) : Endpoint ExecutionResult := do
  let replayState ← Act.vars
  let replayKey ← Act.lift (orRaise (replayKeyOf replayState))
  let _ ← markConsumed E.replayProtector replayKey request.context.now
  let receipt ← createExecutionReceipt P request payload
  writeReceipt receipt
  pure ⟨receipt, none, payload⟩

/-- the `try` block -/
def ProtectedEndpointMiddleware.attempt : Endpoint ExecutionResult := do
  Act.lift (E.authorize P request)
  let replayState ← claimRequest P E.replayProtector request
  Act.assign fun _ => replayState
  let _ : Unit ← Act.perform (.escrowConsume request.pccb.escrowId request.pccb.pccbId
    request.intent.action.capability request.context.now) rfl
  let payload : Json ← Act.perform (.handler request none) rfl
  E.finish P request payload

/-- the refusals after which the claim is given back -/
def releasable (category : String) : Bool :=
  category = "escrow" || category = "authorization" || category = "proof"

/-- a claim is given back after some refusals; what that raises goes on -/
def ProtectedEndpointMiddleware.giveBack (exc : RefusalException) : Endpoint Unit := do
  let replayState ← Act.vars
  match replayState with
  | none => pure ()
  | some state =>
    if releasable exc.category then do
      let _ ← releaseClaim E.replayProtector state.replayKey request.context.now exc.refusalCode
      pure ()
    else pure ()

/-- a claim is consumed after any other exception; what that raises goes on -/
def ProtectedEndpointMiddleware.consumeAfterFailure : Endpoint Unit := do
  let replayState ← Act.vars
  match replayState with
  | none => pure ()
  | some state => do
    let _ ← markConsumed E.replayProtector state.replayKey request.context.now
    pure ()

/-- the artifacts of a refusal -/
def refuseEndpoint (exc : RefusalException) : Endpoint ExecutionResult := do
  let refusal ← createRefusal request exc
  let receipt ← createRefusedReceipt P request refusal
  writeOutcome refusal receipt

def ProtectedEndpointMiddleware.onRaise : Raised → Endpoint ExecutionResult
  | .refusal exc => do
    E.giveBack request exc
    refuseEndpoint P request exc
  | .other e => do
    E.consumeAfterFailure request
    refuseEndpoint P request
      (executionFailed request safeHandlerExceptionCode safeHandlerExceptionMessage e)

def ProtectedEndpointMiddleware.execute : Endpoint ExecutionResult :=
  Act.catching (E.attempt P request) (E.onRaise P request)

/-- one call of `execute` -/
def ProtectedEndpointMiddleware.call :
    Prog Op Res (Except Raised ExecutionResult × Option ActionConsumptionState) :=
  E.execute P request none

end

/-! ## the monitor -/

/-- the answer of a `mark_consumed`: whether it changed the row of the key -/
def consumeAnswer (key : String) (e : KernelEvent) : Option Bool :=
  match e with
  | ⟨.store _ (.consume _ _), _⟩ => some (consumptionOf key e)
  | _ => none

/-- `inspect` found the row of the key claimed and expired it -/
def expiryOf (key : String) (e : KernelEvent) : Bool :=
  match e with
  | ⟨.store _ (.inspect k _), answer⟩ =>
    match (show PyM InspectResult from answer) with
    | .ok .expired => k = key
    | _ => false
  | _ => false

/-- the course of a call: what it shows, its claim, and the answer to its first `mark_consumed` -/
structure Course where
  seen : Seen := {}
  ticket : Ticket := {}
  first : Option Bool := none

/-- what a single call sees; a row that it consumed does not expire -/
def course (key : String) : Monitor Res Course where
  allow _ _ := True
  possible g op r := (singleUse default key).possible g.ticket op r ∧
    (g.first = some true → expiryOf key ⟨op, r⟩ = false)
  next g op r := ⟨g.seen.next ⟨op, r⟩, (singleUse default key).next g.ticket op r,
    g.first.or (consumeAnswer key ⟨op, r⟩)⟩

/-- the result is an executed receipt -/
def Executed (r : Except Raised ExecutionResult) : Prop :=
  ∃ result, r = .ok result ∧ result.receipt.outcome = .executed ∧ result.refusal = none

instance (r : Except Raised ExecutionResult) : Decidable (Executed r) :=
  match r with
  | .ok result => decidable_of_iff (result.receipt.outcome = .executed ∧ result.refusal.isNone = true)
      ⟨fun h => ⟨result, rfl, h.1, Option.isNone_iff_eq_none.mp h.2⟩,
        fun ⟨_, hr, ho, hn⟩ => by cases hr; exact ⟨ho, Option.isNone_iff_eq_none.mpr hn⟩⟩
  | .error _ => isFalse fun ⟨_, hr, _⟩ => nomatch hr

/-- the receipt of the payload can be built -/
def Buildable (P : Platform) (request : ProtectedExecutionRequest) (payload : Json) : Prop :=
  ∃ make, executionReceipt P request payload = .ok make

/-- an executed receipt after a handler that returned, and when it comes about -/
def Settled (P : Platform) (request : ProtectedExecutionRequest)
    (r : Except Raised ExecutionResult × Option ActionConsumptionState) (g : Course) : Prop :=
  ∀ payload, g.seen.handler = some (none, .ok payload) →
    (Executed r.1 ↔ Buildable P request payload ∧ g.seen.failedAfter = false ∧ g.first = some true)

section
variable {P : Platform} {E : ProtectedEndpointMiddleware} {request : ProtectedExecutionRequest}
  {key : String}

/-! ## before the handler -/

/-- neither the handler nor `mark_consumed` -/
def Preparing : Op → Prop
  | .handler _ _ => False
  | .store _ (.consume _ _) => False
  | _ => True

theorem Preparing.notHandler {op : Op} (h : Preparing op) : NotHandler op := by
  cases op with
  | handler r c => cases h
  | _ => trivial

/-- before the handler nothing has been consumed -/
theorem wp_preparing {α S : Type} {J : S → Prop} {m : Kernel S α} (hm : Frame Preparing J m) {v : S}
    (hv : J v) {g : Course} (hg : g.seen = {} ∧ g.first = none) :
    wp (course key) (m v) (fun r g' => J r.2 ∧ g'.seen = {} ∧ g'.first = none) g := by
  refine wp_frame (K := fun g : Course => g.seen = {} ∧ g.first = none) hm ?_ hv hg
  rintro g op ⟨hs, hf⟩ hop
  refine ⟨trivial, fun r _ => ⟨?_, ?_⟩⟩
  · exact (next_notHandler hop.notHandler (congrArg Seen.handler hs) r).trans hs
  · show g.first.or (consumeAnswer key ⟨op, r⟩) = none
    rw [hf, Option.none_or]
    cases op with
    | store inst tx =>
      cases tx with
      | consume k now => cases hop
      | _ => rfl
    | _ => rfl

/-- no handler has returned -/
def Unreturned (g : Course) : Prop := ∀ payload, g.seen.handler ≠ some (none, .ok payload)

/-- what holds of the claim alone -/
theorem wp_ticket {α : Type} {p : Prog Op Res α} {Q : α → Ticket → Prop} {g : Course}
    (h : wp (singleUse default key) p Q g.ticket) : wp (course key) p (fun a g' => Q a g'.ticket) g := by
  refine wp_pull Course.ticket ?_ ?_ ?_ h
  · intro g op _
    trivial
  · intro g op r hp
    exact hp.1
  · intro g op r
    rfl

/-! ## after the handler -/

/-- the handler returned this payload -/
def Returned (payload : Json) (g : Course) : Prop := g.seen.handler = some (none, .ok payload)

theorem Returned.next {payload : Json} {g : Course} (h : Returned payload g) (key : String) (op : Op)
    (r : Res op) :
    Returned payload ((course key).next g op r) := next_handler h _

/-- the receipt cannot be an executed one any more -/
structure Lost (P : Platform) (request : ProtectedExecutionRequest) (payload : Json) (g : Course) :
    Prop where
  returned : Returned payload g
  cause : ¬ Buildable P request payload ∨ g.seen.failedAfter = true ∨ g.first = some false

theorem Lost.next {payload : Json} {g : Course} (h : Lost P request payload g) (op : Op) (r : Res op) :
    Lost P request payload ((course key).next g op r) where
  returned := h.returned.next key op r
  cause := by
    rcases h.cause with hb | hf | hs
    · exact Or.inl hb
    · exact Or.inr (Or.inl (failedAfter_next hf _))
    · refine Or.inr (Or.inr ?_)
      show g.first.or _ = some false
      rw [hs]
      rfl

/-- a failure after the handler -/
theorem Lost.of_error {payload : Json} {g : Course} (h : Returned payload g) (op : Op) (e : Raised) :
    Lost P request payload ((course key).next g op (.error e : PyM (Value op))) :=
  ⟨h.next key op _, Or.inr (Or.inl (failedAfter_of_error h op e))⟩

/-- an operation after the handler that goes through, and is not `mark_consumed` -/
theorem next_course_ok {payload : Json} {g : Course} (h : Returned payload g) {op : Op} {a : Value op}
    (hop : consumeAnswer key ⟨op, (.ok a : PyM (Value op))⟩ = none) :
    ((course key).next g op (.ok a : PyM (Value op))).seen = g.seen ∧
      ((course key).next g op (.ok a : PyM (Value op))).first = g.first := by
  refine ⟨next_of_ok h op a, ?_⟩
  show g.first.or _ = g.first
  rw [hop, Option.or_none]

/-- reading the row after the handler -/
theorem wp_inspect_course {payload : Json} (inst : Nat) (now : Datetime) (depth : Nat)
    (v : Option ActionConsumptionState) {g : Course} (hg : Returned payload g) :
    wp (course key) (inspectUpTo inst key now depth v)
      (fun r g' => Returned payload g' ∧ g'.first = g.first ∧
        (∀ state, r.1 = .ok state → g'.seen = g.seen) ∧
        (∀ e, r.1 = .error e → g'.seen.failedAfter = true ∨ depth = 0 ∨ g.first ≠ some true)) g := by
  induction depth generalizing g with
  | zero => exact ⟨hg, rfl, fun _ _ => rfl, fun _ _ => Or.inr (Or.inl rfl)⟩
  | succ depth ih =>
    refine wp_perform trivial ?_ ?_
    · intro answer hp
      have hok : consumeAnswer key ⟨.store inst (.inspect key now), (.ok answer : PyM InspectResult)⟩
        = none := rfl
      obtain ⟨hseen, hfirst⟩ := next_course_ok hg hok
      cases answer with
      | missing =>
        exact ⟨hg.next _ _ _, hfirst, fun _ _ => hseen, fun _ h => nomatch h⟩
      | found row =>
        exact ⟨hg.next _ _ _, hfirst, fun _ _ => hseen, fun _ h => nomatch h⟩
      | expired =>
        refine wp_mono (ih (hg.next key (.store inst (.inspect key now)) _)) ?_
        rintro r g' ⟨h1, h2, h3, h4⟩
        have hne : g.first ≠ some true := by
          intro h
          have hex : decide (key = key) = false := hp.2 h
          rw [decide_eq_false_iff_not] at hex
          exact hex rfl
        refine ⟨h1, h2.trans hfirst, fun state h => (h3 state h).trans hseen, fun e h => ?_⟩
        exact Or.inr (Or.inr hne)
    · intro e _
      refine ⟨hg.next _ _ _, Option.or_none, fun _ h => (nomatch h), fun _ _ => Or.inl ?_⟩
      exact failedAfter_of_error hg (.store inst (.inspect key now)) e

/-- `mark_consumed` after the handler: it changes the row, or the receipt is lost -/
theorem wp_markConsumed_course {payload : Json} (inst : Nat) (now : Datetime)
    (v : Option ActionConsumptionState) {g : Course} (hg : Returned payload g) (hfirst : g.first = none) :
    wp (course key) (markConsumed inst key now v)
      (fun r g' => (∀ state, r.1 = .ok state → Returned payload g' ∧ g'.seen = g.seen ∧
          g'.first = some true) ∧
        (∀ e, r.1 = .error e → Lost P request payload g')) g := by
  refine wp_perform trivial ?_ ?_
  · intro changed _
    have hret : Returned payload ((course key).next g (.store inst (.consume key now))
      (.ok changed : PyM Bool)) := hg.next key _ _
    have hseen : ((course key).next g (.store inst (.consume key now)) (.ok changed : PyM Bool)).seen
      = g.seen := next_of_ok hg (.store inst (.consume key now)) changed
    have hnext : ((course key).next g (.store inst (.consume key now)) (.ok changed : PyM Bool)).first
        = some changed := by
      show g.first.or (some (changed && decide (key = key))) = some changed
      rw [hfirst, decide_eq_true rfl, Bool.and_true]
      rfl
    refine wp_seq _ (wp_inspect_course inst now recursionLimit v hret) ?_ ?_
    · rintro state v' g' ⟨h1, h2, h3, -⟩
      cases changed with
      | true => exact ⟨fun _ _ => ⟨h1, (h3 state rfl).trans hseen, h2.trans hnext⟩, fun _ h => nomatch h⟩
      | false =>
        exact ⟨fun _ h => (nomatch h), fun _ _ => ⟨h1, Or.inr (Or.inr (h2.trans hnext))⟩⟩
    · rintro e v' g' ⟨h1, h2, -, h4⟩
      refine ⟨fun _ h => (nomatch h), fun _ _ => ⟨h1, Or.inr ?_⟩⟩
      rcases h4 e rfl with hf | hz | hn
      · exact Or.inl hf
      · cases hz
      · cases changed with
        | true => exact absurd hnext hn
        | false => exact Or.inr (h2.trans hnext)
  · intro e _
    exact ⟨fun _ h => (nomatch h), fun _ _ => Lost.of_error hg (.store inst (.consume key now)) e⟩

/-- an executed receipt, or the receipt is lost -/
def Finished (P : Platform) (request : ProtectedExecutionRequest) (payload : Json)
    (r : Except Raised ExecutionResult) (g : Course) : Prop :=
  (∀ result, r = .ok result → Executed r ∧ Returned payload g ∧ Buildable P request payload ∧
    g.seen.failedAfter = false ∧ g.first = some true) ∧
  (∀ e, r = .error e → Lost P request payload g)

theorem finished_of_lost {payload : Json} {g : Course} (h : Lost P request payload g) (e : Raised) :
    Finished P request payload (.error e) g := ⟨fun _ h => (nomatch h), fun _ _ => h⟩

theorem wp_finish {payload : Json} {row : ActionConsumptionState} (hrow : row.replayKey = key)
    {g : Course} (hg : Returned payload g) (hfail : g.seen.failedAfter = false) (hfirst : g.first = none) :
    wp (course key) (E.finish P request payload (some row))
      (fun r g' => Finished P request payload r.1 g') g := by
  subst hrow
  refine wp_vars (wp_lift ?_ fun e h => nomatch h)
  intro k hk
  obtain rfl : row.replayKey = k := Except.ok.inj hk
  refine wp_seq _ (wp_markConsumed_course (P := P) E.replayProtector request.context.now _ hg hfirst) ?_
    fun e v' g' h => finished_of_lost (h.2 e rfl) e
  intro state v' g' h
  obtain ⟨h1, h2, h3⟩ := h.1 state rfl
  have hfail' : g'.seen.failedAfter = false := by rw [h2, hfail]
  -- the receipt: it is built, its identifier is drawn, it is written
  refine wp_seq (fun r g'' => (∀ receipt, r.1 = .ok receipt → receipt.outcome = .executed ∧
      Buildable P request payload ∧ Returned payload g'' ∧ g''.seen.failedAfter = false ∧
      g''.first = some true) ∧ (∀ e, r.1 = .error e → Lost P request payload g'')) ?_ ?_
    fun e v'' g'' h => finished_of_lost (h.2 e rfl) e
  · refine wp_lift ?_ ?_
    · intro make hmake
      refine wp_perform trivial ?_ ?_
      · intro receiptId _
        have hok : consumeAnswer row.replayKey ⟨.receiptId, (.ok receiptId : PyM String)⟩ = none := rfl
        obtain ⟨hseen, hf⟩ := next_course_ok h1 hok
        refine ⟨fun receipt hr => ?_, fun _ h => nomatch h⟩
        cases hr
        exact ⟨executionReceipt_outcome (orRaise_ok hmake) receiptId, ⟨make, orRaise_ok hmake⟩,
          h1.next _ _ _, (congrArg Seen.failedAfter hseen).trans hfail', hf.trans h3⟩
      · intro e _
        exact ⟨fun _ h => (nomatch h), fun _ _ => Lost.of_error h1 .receiptId e⟩
    · intro e he
      refine ⟨fun _ h => (nomatch h), fun _ _ => ⟨h1, Or.inl ?_⟩⟩
      rintro ⟨make, hmake⟩
      rw [hmake] at he
      cases he
  · intro receipt v'' g'' h
    obtain ⟨ho, hb, hr, hf, hs⟩ := h.1 receipt rfl
    refine wp_perform trivial ?_ ?_
    · intro u _
      have hok : consumeAnswer row.replayKey ⟨.writeReceipt receipt, (.ok u : PyM Unit)⟩ = none := rfl
      obtain ⟨hseen, hfirst'⟩ := next_course_ok hr hok
      refine ⟨fun result _ => ⟨⟨_, rfl, ho, rfl⟩, hr.next _ _ _, hb, ?_, hfirst'.trans hs⟩,
        fun _ h => nomatch h⟩
      exact (congrArg Seen.failedAfter hseen).trans hf
    · intro e _
      exact finished_of_lost (Lost.of_error hr (.writeReceipt receipt) e) e

/-! ## the call -/

theorem frame_giveBack {I : Op → Prop} {J : Option ActionConsumptionState → Prop}
    (hstore : ∀ inst tx, I (.store inst tx)) (exc : RefusalException) :
    Frame I J (E.giveBack request exc) := by
  refine frame_seq frame_vars fun v => ?_
  split
  · exact frame_pure _
  · split
    · exact frame_seq (frame_releaseClaim (fun _ _ _ => hstore _ _) (fun _ _ _ _ => hstore _ _) _ _ _ _)
        fun _ => frame_pure _
    · exact frame_pure _

theorem frame_consumeAfterFailure {I : Op → Prop} {J : Option ActionConsumptionState → Prop}
    (hstore : ∀ inst tx, I (.store inst tx)) : Frame I J (E.consumeAfterFailure request) := by
  refine frame_seq frame_vars fun v => ?_
  split
  · exact frame_pure _
  · exact frame_seq (frame_markConsumed (fun _ _ _ => hstore _ _) (fun _ _ _ => hstore _ _) _ _ _)
      fun _ => frame_pure _

theorem not_executed_error (e : Raised) : ¬ Executed (.error e) := fun ⟨_, h, _⟩ => nomatch h

/-- a refusal is not an executed receipt -/
theorem only_refuseEndpoint {I : Op → Prop} (hI : ∀ op, NotHandler op → I op) (exc : RefusalException)
    (v : Option ActionConsumptionState) :
    Only I (fun r => ¬ Executed r.1) (refuseEndpoint P request exc v) := by
  refine only_after (J := fun _ => True) (frame_createRefusal (hI _ trivial) exc) trivial ?_
    fun e _ _ => not_executed_error e
  intro refusal v1 _
  refine only_after (J := fun _ => True) (frame_createRefusedReceipt (hI _ trivial) refusal) trivial ?_
    fun e _ _ => not_executed_error e
  intro receipt v2 _
  refine only_after (J := fun _ => True) (frame_perform (hI (.writeRefusal refusal) trivial)) trivial ?_
    fun e _ _ => not_executed_error e
  intro _ v3 _
  refine only_after (J := fun _ => True) (frame_perform (hI (.writeReceipt receipt) trivial)) trivial ?_
    fun e _ _ => not_executed_error e
  rintro _ v4 _ ⟨result, hr, -, hno⟩
  cases hr
  cases hno

theorem only_onRaise_endpoint {I : Op → Prop} (hI : ∀ op, NotHandler op → I op) (e : Raised)
    (v : Option ActionConsumptionState) :
    Only I (fun r => ¬ Executed r.1) (E.onRaise P request e v) := by
  cases e with
  | refusal exc =>
    exact only_after (J := fun _ => True) (frame_giveBack (fun _ _ => hI _ trivial) exc) trivial
      (fun _ v' _ => only_refuseEndpoint hI _ v') fun e _ _ => not_executed_error e
  | other e =>
    exact only_after (J := fun _ => True) (frame_consumeAfterFailure fun _ _ => hI _ trivial) trivial
      (fun _ v' _ => only_refuseEndpoint hI _ v') fun e _ _ => not_executed_error e

/-- what the `try` block leaves -/
def Attempted (P : Platform) (request : ProtectedExecutionRequest) (r : Except Raised ExecutionResult)
    (g : Course) : Prop :=
  ((∀ result, r ≠ .ok result) ∧ Unreturned g) ∨ ∃ payload, Finished P request payload r g

theorem unreturned_of_empty {g : Course} (h : g.seen = {}) : Unreturned g := by
  intro payload hp
  rw [h] at hp
  cases hp

theorem attempted_of_empty {g : Course} (h : g.seen = {}) (e : Raised) :
    Attempted P request (.error e) g :=
  Or.inl ⟨fun _ h => (nomatch h), unreturned_of_empty h⟩

theorem wp_attempt_endpoint
    (hkey : ∀ k, buildReplayKey P request.intent request.pccb request.context = .ok k → k = key) :
    wp (course key) (E.attempt P request none) (fun r g => Attempted P request r.1 g) {} := by
  refine wp_lift ?_ fun e _ => attempted_of_empty rfl e
  intro _ _
  refine wp_seq _ (wp_and (wp_ticket (wp_claimRequest hkey E.replayProtector none _))
    (wp_preparing (J := fun _ => True) (frame_claimRequest (fun _ _ _ => trivial) (fun _ _ _ => trivial)
      P E.replayProtector request) trivial ⟨rfl, rfl⟩)) ?_ fun e v g h => attempted_of_empty h.2.2.1 e
  rintro state v g ⟨hstate, -, hseen, hfirst⟩
  obtain ⟨row, rfl, hrow⟩ := hstate state rfl
  refine wp_assign ?_
  have hescrow : Preparing (.escrowConsume request.pccb.escrowId request.pccb.pccbId
    request.intent.action.capability request.context.now) := trivial
  refine wp_seq _ (wp_preparing (J := fun v => v = some row) (frame_perform hescrow) rfl ⟨hseen, hfirst⟩)
    ?_ fun e v g h => attempted_of_empty h.2.1 e
  rintro _ v1 g1 ⟨hv1, hseen1, hfirst1⟩
  obtain rfl : v1 = some row := hv1
  have hnext : ∀ answer : PyM Json, g1.seen.next ⟨.handler request none, answer⟩
      = ⟨some (none, answer), false⟩ := by
    intro answer
    rw [hseen1]
    rfl
  refine wp_perform trivial ?_ ?_
  · intro payload _
    refine wp_mono (wp_finish hrow ?_ ?_ ?_) fun r g' h => Or.inr ⟨payload, h⟩
    · exact congrArg Seen.handler (hnext (.ok payload))
    · exact congrArg Seen.failedAfter (hnext (.ok payload))
    · exact congrArg (Option.or · none) hfirst1
  · intro e _
    refine Or.inl ⟨fun _ h => (nomatch h), ?_⟩
    intro payload hp
    cases (congrArg Seen.handler (hnext (.error e))).symm.trans hp

theorem wp_endpoint
    (hkey : ∀ k, buildReplayKey P request.intent request.pccb request.context = .ok k → k = key) :
    wp (course key) (E.call P request) (fun r g => Settled P request r g) {} := by
  refine wp_catching _ (wp_attempt_endpoint hkey) ?_ ?_
  · rintro result v g (⟨hno, -⟩ | ⟨payload, hdone, -⟩)
    · exact absurd rfl (hno result)
    · obtain ⟨hex, hret, hb, hf, hs⟩ := hdone result rfl
      intro payload' hp
      cases hret.symm.trans hp
      exact ⟨fun _ => ⟨hb, hf, hs⟩, fun _ => hex⟩
  · rintro e v g (⟨-, hun⟩ | ⟨payload, -, hlost⟩)
    · refine wp_mono (wp_of_only (K := Unreturned) ?_ (only_onRaise_endpoint (fun _ h => h) e v) hun) ?_
      · intro g op hg hop
        refine ⟨trivial, fun r _ payload h => hg payload ?_⟩
        rw [← handler_next_notHandler hop r]
        exact h
      · intro r g' h payload hp
        exact absurd hp (h.2 payload)
    · refine wp_mono (wp_of_only (K := Lost P request payload) ?_
        (only_onRaise_endpoint (I := fun _ => True) (fun _ _ => trivial) e v) (hlost e rfl)) ?_
      · intro g op hg _
        exact ⟨trivial, fun r _ => hg.next op r⟩
      · rintro r g' ⟨hno, hlost'⟩ payload' hp
        cases hlost'.returned.symm.trans hp
        refine ⟨fun h => absurd h hno, ?_⟩
        rintro ⟨hb, hf, hs⟩
        rcases hlost'.cause with h | h | h
        · exact absurd hb h
        · cases hf.symm.trans h
        · cases hs.symm.trans h

/-! ## histories -/

theorem run_seen (g : Course) (t : List KernelEvent) :
    ((course key).run g t).seen = t.foldl Seen.next g.seen := by
  induction t generalizing g with
  | nil => rfl
  | cons e t ih => exact ih _

theorem run_first (g : Course) (t : List KernelEvent) :
    ((course key).run g t).first = g.first.or (t.findSome? (consumeAnswer key)) := by
  induction t generalizing g with
  | nil => exact Option.or_none.symm
  | cons e t ih =>
    show ((course key).run _ t).first = _
    rw [ih]
    show (g.first.or (consumeAnswer key e)).or _ = _
    rw [Option.or_assoc, List.findSome?_cons]
    cases consumeAnswer key e with
    | none => rfl
    | some b => rfl

theorem consumeAnswer_true {e : KernelEvent} (h : consumeAnswer key e = some true) :
    consumptionOf key e = true := by
  unfold consumeAnswer at h
  split at h
  · exact Option.some.inj h
  · cases h

/-- a row this call has claimed is there, and one it has consumed is consumed -/
def Kept (key : String) (w : World) (g : Course) : Prop :=
  (g.ticket.claimed = true → (w.replay.find key).isSome) ∧
    (g.first = some true → ∃ row, w.replay.find key = some row ∧ row.status = .consumed)

theorem Kept.step {w w' : World} {e : KernelEvent} {g : Course} (hs : World.step P w e w')
    (h : Kept key w g) : Kept key w' g :=
  ⟨fun hc => (step_find hs key).present (h.1 hc), fun hf => by
    obtain ⟨row, hrow, hc⟩ := h.2 hf
    exact ⟨row, (step_find hs key).consumed hrow hc, hc⟩⟩

theorem not_expiryOf {w w' : World} {e : KernelEvent} {row : ActionConsumptionState}
    (hs : World.step P w e w') (hrow : w.replay.find key = some row) (hc : row.status = .consumed) :
    expiryOf key e = false := by
  obtain ⟨op, answer⟩ := e
  cases op with
  | store inst tx =>
    cases tx with
    | inspect k now =>
      change PyM InspectResult at answer
      match answer, hs.1 with
      | .error _, _ => rfl
      | .ok .missing, _ => rfl
      | .ok (.found _), _ => rfl
      | .ok .expired, .inr ⟨_, he, _⟩ => cases he
      | .ok .expired, .inl hrun =>
        refine decide_eq_false ?_
        intro hk
        subst hk
        obtain ⟨row', hrow', hc'⟩ := inspect_expired hrun
        cases hrow.symm.trans hrow'
        cases hc.symm.trans hc'
    | _ => rfl
  | _ => rfl

theorem course_step {w w' : World} {e : KernelEvent} {g : Course} (hs : World.step P w e w')
    (h : Kept key w g) :
    (course key).possible g e.1 e.2 ∧ Kept key w' ((course key).next g e.1 e.2) := by
  have hstep : (singleUse default key).possible _ e.1 e.2 ∧ _ := singleUse_step hs h.1
  obtain ⟨hp, hclaimed⟩ := hstep
  refine ⟨⟨hp, fun hf => ?_⟩, hclaimed, ?_⟩
  · obtain ⟨row, hrow, hc⟩ := h.2 hf
    exact not_expiryOf hs hrow hc
  · intro hf
    change g.first.or (consumeAnswer key e) = some true at hf
    cases hg : g.first with
    | some b =>
      rw [hg] at hf
      exact (h.step hs).2 (hg.trans hf)
    | none =>
      rw [hg, Option.none_or] at hf
      obtain ⟨inst, now, rfl⟩ := consumptionOf_iff (consumeAnswer_true hf)
      exact (step_consumption hs).2

/-- the transaction of the first `mark_consumed` of the call goes through, and the row of the key is
`claimed` in the store it finds -/
def ClaimedWhenConsumed (P : Platform) (key : String) (w : World) (h : List (Bool × KernelEvent))
    (w' : World) : Prop :=
  ∃ before after inst now changed v,
    h = before ++ (true, ⟨.store inst (.consume key now), (.ok changed : PyM Bool)⟩) :: after ∧
    (∀ e ∈ proj true before, consumeAnswer key e = none) ∧
    Follows (World.step P) w (before.map Prod.snd) v ∧
    Follows (World.step P) v
      (⟨.store inst (.consume key now), (.ok changed : PyM Bool)⟩ :: after.map Prod.snd) w' ∧
    ∃ row, v.replay.find key = some row ∧ row.status = .claimed

theorem claimedWhenConsumed_iff {w w' : World} {h : List (Bool × KernelEvent)}
    (hf : Follows (World.step P) w (h.map Prod.snd) w') :
    ClaimedWhenConsumed P key w h w' ↔ (proj true h).findSome? (consumeAnswer key) = some true := by
  rw [List.findSome?_eq_some_iff]
  constructor
  · rintro ⟨before, after, inst, now, changed, v, rfl, hbefore, -, ⟨u, hs, -⟩, row, hrow, hc⟩
    refine ⟨proj true before, ⟨.store inst (.consume key now), (.ok changed : PyM Bool)⟩,
      proj true after, ?_, ?_, hbefore⟩
    · rw [proj_append, proj_cons_self]
    · show some (changed && decide (key = key)) = some true
      obtain ⟨hrun | ⟨_, he, _⟩, -⟩ := hs
      · rw [consume_answer hrun hrow hc, decide_eq_true rfl]
        rfl
      · cases he
  · rintro ⟨t1, e, t2, hsplit, he, hbefore⟩
    obtain ⟨inst, now, rfl⟩ := consumptionOf_iff (consumeAnswer_true he)
    obtain ⟨before, after, rfl, hb, ha⟩ := proj_eq_append_cons hsplit
    rw [List.map_append, follows_append] at hf
    obtain ⟨v, hv, hv'⟩ := hf
    refine ⟨before, after, inst, now, true, v, rfl, hb.symm ▸ hbefore, hv, hv', ?_⟩
    obtain ⟨u, hs, -⟩ := hv'
    exact (step_consumption hs).1

end

/-- **When the endpoint tells the truth.**  A call whose handler returned, among any other callers of
the store, returns an executed receipt if and only if the receipt can be built, no operation after
the handler fails, and the row of the key is still `claimed` when `mark_consumed` finds it. -/
theorem endpoint_executed_iff {P : Platform} {E : ProtectedEndpointMiddleware}
    {request : ProtectedExecutionRequest} {key : String} {w w' : World}
    {h : List (Bool × KernelEvent)} {payload : Json}
    {r : Except Raised ExecutionResult × Option ActionConsumptionState}
    (hkey : buildReplayKey P request.intent request.pccb request.context = .ok key)
    (hf : Follows (World.step P) w (h.map Prod.snd) w')
    (hr : Reaches (E.call P request) (proj true h) (.ret r))
    (hhandler : (seen (proj true h)).handler = some (none, .ok payload)) :
    Executed r.1 ↔ Buildable P request payload ∧ (seen (proj true h)).failedAfter = false ∧
      ClaimedWhenConsumed P key w h w' := by
  have hkept : Kept key w {} := ⟨fun h => (nomatch h), fun h => (nomatch h)⟩
  have hpossible := (possible_of_follows (M := course key) (R := Kept key)
    (fun _ _ _ _ hs hk => course_step hs hk) (fun _ _ _ _ hs hk => hk.step hs) true hf hkept).1
  have hsettled := (wp_reaches (wp_endpoint fun k hk => (Except.ok.inj (hkey.symm.trans hk)).symm) hr
    hpossible).2 payload ((congrArg Seen.handler (run_seen _ _)).trans hhandler)
  rw [run_seen, run_first] at hsettled
  rw [claimedWhenConsumed_iff hf]
  exact hsettled

/-! ## a call that runs alone -/

section
variable {P : Platform} {answers : (op : Op) → Res op} {E : ProtectedEndpointMiddleware}
  {request : ProtectedExecutionRequest} {key : String}

/-- a refusal, whatever happens on the way -/
theorem wp_onRaise_alone (e : Raised) (v : Option ActionConsumptionState) (g : Alone) :
    wp (alone P answers) (E.onRaise P request e v) (fun r _ => ¬ Executed r.1) g :=
  wp_mono (wp_of_only (K := fun _ => True) (fun _ _ _ _ => ⟨trivial, fun _ _ => trivial⟩)
    (only_onRaise_endpoint (I := fun _ => True) (fun _ _ => trivial) e v) trivial) fun _ _ h => h.1

/-- the receipt after the consumption -/
theorem wp_receipt_alone (hanswers : NothingFails answers) {payload : Json}
    (v : Option ActionConsumptionState) (g : Alone) :
    wp (alone P answers) ((do
        let receipt ← createExecutionReceipt P request payload
        writeReceipt receipt
        pure ⟨receipt, none, payload⟩ : Endpoint ExecutionResult) v)
      (fun r _ => (∀ result, r.1 = .ok result → Executed r.1 ∧ Buildable P request payload) ∧
        ∀ e, r.1 = .error e → ¬ Buildable P request payload) g := by
  refine wp_bind (wp_lift ?_ ?_)
  · intro make hmake
    refine wp_answered hanswers rfl rfl fun receiptId _ => ?_
    refine wp_answered hanswers rfl rfl fun _ _ => ?_
    refine ⟨fun result hr => ⟨⟨_, rfl, executionReceipt_outcome (orRaise_ok hmake) receiptId, rfl⟩,
      make, orRaise_ok hmake⟩, fun e he => nomatch he⟩
  · intro e he
    refine ⟨fun result hr => (nomatch hr), fun _ _ => ?_⟩
    rintro ⟨make, hmake⟩
    rw [hmake] at he
    cases he

/-- the `try` block of a call that runs alone on a fresh proof -/
theorem wp_attempt_alone (hanswers : NothingFails answers)
    (hauthorize : E.authorize P request = .ok ()) {w : World} (hm : w.replay.Monotone)
    (hkey : buildReplayKey P request.intent request.pccb request.context = .ok key)
    (hnew : w.replay.find key = none) {payload : Json}
    (hpayload : answers (.handler request none) = (.ok payload : PyM Json)) :
    wp (alone P answers) (E.attempt P request none)
      (fun r _ => (∀ result, r.1 = .ok result → Executed r.1 ∧
          request.context.now < request.pccb.expiresAt ∧ Buildable P request payload) ∧
        ∀ e, r.1 = .error e →
          ¬ (request.context.now < request.pccb.expiresAt ∧ Buildable P request payload)) ⟨w, false⟩ := by
  refine wp_lift ?_ fun e he => nomatch hauthorize.symm.trans he
  intro _ _
  refine wp_seq _ (wp_claimRequest_alone E.replayProtector none hkey hm (claimable_of_none _ hnew)) ?_ ?_
  · rintro state v g ⟨row, hr, hrow, hstatus, hhas, -⟩
    cases hr
    refine wp_assign (wp_answered hanswers rfl rfl fun _ _ => wp_answered hanswers rfl rfl ?_)
    intro answer hanswer
    obtain rfl : payload = answer := Except.ok.inj (hpayload.symm.trans hanswer)
    subst hrow
    have hhas' : Alone.Has ⟨g.world, true⟩ row.replayKey row := ⟨hhas.monotone, hhas.find⟩
    refine wp_vars (wp_lift ?_ fun e h => nomatch h)
    intro k hk
    obtain rfl : row.replayKey = k := Except.ok.inj hk
    by_cases hlive : request.context.now < request.pccb.expiresAt
    · refine wp_seq _ (wp_markConsumed_alone E.replayProtector request.context.now _ hhas'
        (hstatus.mpr hlive)) ?_ ?_
      · intro state v' g' _
        refine wp_mono (wp_receipt_alone hanswers v' g') ?_
        rintro r g'' ⟨hok, herr⟩
        exact ⟨fun result hr => ⟨(hok result hr).1, hlive, (hok result hr).2⟩,
          fun e he hboth => herr e he hboth.2⟩
      · rintro e v' g' ⟨⟨row', hr, -⟩, -⟩
        cases hr
    · refine wp_seq _ (wp_markConsumed_refused E.replayProtector request.context.now _ hhas'
        (fun hc => hlive (hstatus.mp hc))) ?_ ?_
      · rintro state v' g' ⟨hr, -⟩
        cases hr
      · intro e v' g' _
        exact ⟨fun result hr => (nomatch hr), fun _ _ hboth => hlive hboth.1⟩
  · rintro e v g ⟨row, hr, -⟩
    cases hr

/-- a call against a world, with the world after it and its run -/
def ProtectedEndpointMiddleware.runAlone (P : Platform) (E : ProtectedEndpointMiddleware)
    (answers : (op : Op) → Res op) (request : ProtectedExecutionRequest) (w : World) :=
  exec (World.env P answers) (E.call P request) w

/-- **The clock.**  A call that runs alone on a fresh proof that the verifier accepts, with nothing
that fails and a handler that returns, gives an executed receipt if and only if `now` is before
`expires_at` and the receipt can be built. -/
theorem endpoint_alone_executed_iff (hanswers : NothingFails answers)
    (hauthorize : E.authorize P request = .ok ()) {w : World} {t : List KernelEvent}
    (hw : Follows (World.step P) emptyWorld t w)
    (hkey : buildReplayKey P request.intent request.pccb request.context = .ok key)
    (hnew : w.replay.find key = none) {payload : Json}
    (hpayload : answers (.handler request none) = (.ok payload : PyM Json)) :
    Executed (E.runAlone P answers request w).1.1 ↔
      request.context.now < request.pccb.expiresAt ∧ Buildable P request payload := by
  have hcall : wp (alone P answers) (E.call P request) (fun r _ => Executed r.1 ↔
      request.context.now < request.pccb.expiresAt ∧ Buildable P request payload) ⟨w, false⟩ := by
    refine wp_catching _ (wp_attempt_alone hanswers hauthorize (monotone_of_follows hw) hkey hnew hpayload)
      ?_ ?_
    · rintro result v g ⟨hok, -⟩
      obtain ⟨hex, hcond⟩ := hok result rfl
      exact ⟨fun _ => hcond, fun _ => hex⟩
    · rintro e v g ⟨-, herr⟩
      refine wp_mono (wp_onRaise_alone e v g) ?_
      intro r g' hno
      exact ⟨fun hex => absurd hex hno, fun hcond => absurd hcond (herr e rfl)⟩
  refine (wp_exec (R := fun w g => g.world = w) ?_ hcall rfl).1
  rintro w g op rfl
  exact ⟨rfl, rfl⟩

end

/-! ## the sample, before and at its end -/

/-- the sample with an escrow, at some time -/
def escrowedRequestAt (now : Datetime) : ProtectedExecutionRequest :=
  { sampleRequestAt now with pccb := { samplePccb with escrowId := .str "esc_1" } }

def sampleEndpoint : ProtectedEndpointMiddleware := ⟨sampleVerifier, 0⟩

/-- the run of the sample alone, and its result -/
def sampleEndpointRun (now : Datetime) : List KernelEvent :=
  (sampleEndpoint.runAlone kernelPlatform sampleAnswers (escrowedRequestAt now) emptyWorld).2.2

def sampleEndpointResult (now : Datetime) : Except Raised ExecutionResult :=
  (sampleEndpoint.runAlone kernelPlatform sampleAnswers (escrowedRequestAt now) emptyWorld).1.1

/-- the handler was called without a credential and returned -/
def returned (t : List KernelEvent) : Bool :=
  match (seen t).handler with
  | some (none, .ok _) => true
  | _ => false

theorem returned_iff {t : List KernelEvent} :
    returned t = true ↔ ∃ payload, (seen t).handler = some (none, .ok payload) := by
  unfold returned
  constructor
  · intro h
    split at h
    · rename_i payload hp
      exact ⟨payload, hp⟩
    · cases h
  · rintro ⟨payload, h⟩
    rw [h]

/-- before the end of its window: an executed receipt, and the row was claimed when it was consumed -/
theorem endpoint_executed_iff_sample :
    Executed (sampleEndpointResult sampleIssued) ∧
      ∃ w', ClaimedWhenConsumed kernelPlatform sampleReplayKey emptyWorld
        ((sampleEndpointRun sampleIssued).map (Prod.mk true)) w' := by
  have hproj : proj true ((sampleEndpointRun sampleIssued).map (Prod.mk true))
      = sampleEndpointRun sampleIssued := by rw [proj_tagged, if_pos rfl]
  have hkey : buildReplayKey kernelPlatform (escrowedRequestAt sampleIssued).intent
      (escrowedRequestAt sampleIssued).pccb (escrowedRequestAt sampleIssued).context
        = .ok sampleReplayKey := by decide +kernel
  have hf : Follows (World.step kernelPlatform) emptyWorld
      (((sampleEndpointRun sampleIssued).map (Prod.mk true)).map Prod.snd)
      (sampleEndpoint.runAlone kernelPlatform sampleAnswers (escrowedRequestAt sampleIssued)
        emptyWorld).2.1 := by
    rw [List.map_map]
    exact (List.map_id _).symm ▸ exec_follows (World.env_step kernelPlatform sampleAnswers)
      (sampleEndpoint.call kernelPlatform (escrowedRequestAt sampleIssued)) emptyWorld
  have hr : Reaches (sampleEndpoint.call kernelPlatform (escrowedRequestAt sampleIssued))
      (sampleEndpointRun sampleIssued) (.ret (sampleEndpoint.runAlone kernelPlatform sampleAnswers
        (escrowedRequestAt sampleIssued) emptyWorld).1) := exec_reaches _ _ _
  have hrun : returned (sampleEndpointRun sampleIssued) = true ∧
      Executed (sampleEndpointResult sampleIssued) := by decide +kernel
  obtain ⟨payload, hp⟩ := returned_iff.mp hrun.1
  rw [← hproj] at hr hp
  exact ⟨hrun.2, _, ((endpoint_executed_iff hkey hf hr hp).mp hrun.2).2.2⟩

/-- a refusal together with a refused receipt that states that there were no side effects -/
def deniesEffects (r : Except Raised ExecutionResult) : Bool :=
  match r with
  | .ok result => result.receipt.outcome = .refused && result.refusal.isSome &&
      isStr (Dict.get result.receipt.sideEffects "state") "none"
  | .error _ => false

/-- at the end of its window, which the verifier accepts: the handler returned, nothing failed, and
the receipt says that nothing happened -/
theorem endpoint_denies_effects :
    (sampleVerifier.verify kernelPlatform (escrowedRequestAt samplePccb.expiresAt).intent
      (escrowedRequestAt samplePccb.expiresAt).pccb
      (escrowedRequestAt samplePccb.expiresAt).context).toBool = true ∧
    (∃ payload, (seen (sampleEndpointRun samplePccb.expiresAt)).handler = some (none, .ok payload)) ∧
    (sampleEndpointRun samplePccb.expiresAt).all (fun e => !failed e) = true ∧
    ¬ Executed (sampleEndpointResult samplePccb.expiresAt) ∧
    deniesEffects (sampleEndpointResult samplePccb.expiresAt) = true := by
  rw [← returned_iff]
  decide +kernel

end Actenon
