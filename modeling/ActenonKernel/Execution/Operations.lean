import Mathlib.Data.List.Induction
import ActenonKernel.Execution.SingleUse
import ActenonKernel.Execution.Trace

/-!
# One execution for each operation

Calls with an idempotency store look their operation up before the handler and record it after the
receipt was written.  Between the two other calls can look the same operation up, and everything
that fails before the record loses it.

* `OperationCourse`        the monitor of one call: its lookup, its handler, its record;
* `Completes`, `Serial`    what a history has to keep to;
* `operation_at_most_once` after a handler that returned, no other call of the operation runs one.
-/

set_option linter.unusedSectionVars false

namespace Actenon

open Program

/-! ## the course of a call -/

/-- the operation did what it is called for: `mark_consumed` found its row, a row that is read has not
expired, and nothing raises -/
def wentThrough (e : KernelEvent) : Bool :=
  match e with
  | ⟨.store _ (.consume _ _), answer⟩ =>
    match (show PyM Bool from answer) with
    | .ok changed => changed
    | .error _ => false
  | ⟨.store _ (.inspect _ _), answer⟩ =>
    match (show PyM InspectResult from answer) with
    | .ok .expired => false
    | .ok _ => true
    | .error _ => false
  | e => !failed e

/-- what a lookup found -/
def lookupAnswer (e : KernelEvent) : Option (Option Prior) :=
  match e with
  | ⟨.lookup _ _, answer⟩ =>
    match (show PyM (Option Prior) from answer) with
    | .ok prior => some prior
    | .error _ => none
  | _ => none

def Op.isRecord : Op → Bool
  | .record _ _ _ _ => true
  | _ => false

structure OperationCourse where
  /-- what the lookup found -/
  found : Option (Option Prior) := none
  /-- everything since then went through -/
  smooth : Bool := true
  seen : Seen := {}
  /-- `record` was called -/
  recorded : Bool := false

def OperationCourse.next (g : OperationCourse) (e : KernelEvent) : OperationCourse where
  found := (lookupAnswer e).or g.found
  smooth := g.smooth && (g.found.isNone || wentThrough e)
  seen := g.seen.next e
  recorded := g.recorded || e.1.isRecord

/-- the handler needs a lookup that found nothing, the record a handler that returned -/
def operationMonitor (request : ProtectedExecutionRequest) (store : Nat) (operationId : Json) :
    Monitor Res OperationCourse where
  allow g
    | .lookup s o => s = store ∧ o = operationId ∧ g.found = none
    | .handler _ c => g.found = some none ∧ g.seen.handler = none ∧ c.isSome
    | .record s o hash payload => s = store ∧ o = operationId ∧ hash = request.pccb.actionHash.value ∧
        g.found = some none ∧ g.recorded = false ∧ ∃ c, g.seen.handler = some (some c, .ok payload)
    | _ => True
  possible _ _ _ := True
  next g op r := g.next ⟨op, r⟩

/-- a handler that returned, nothing failed after it, and the receipt can be built: the operation is
recorded -/
def RecordKept (P : Platform) (request : ProtectedExecutionRequest) (g : OperationCourse) : Prop :=
  ∀ c payload, g.seen.handler = some (some c, .ok payload) → g.seen.failedAfter = false →
    ReceiptBuilds P request c payload → g.recorded = true

/-- the outcome of a call that found its operation recorded -/
structure FromPrior (P : Platform) (request : ProtectedExecutionRequest) (operationId : Json) (prior : Prior)
    (smooth : Bool) (r : Except Raised ExecutionResult) : Prop where
  /-- with the same hash the prior result is returned -/
  same : prior.actionHash = request.pccb.actionHash.value → smooth = true →
    (∃ make, executionReceipt P request prior.result = .ok make) →
      ∃ result, r = .ok result ∧ result.refusal = none ∧ result.payload = prior.result
  /-- and nothing else but a refusal -/
  returned : ∀ result, r = .ok result → result.refusal = none →
    prior.actionHash = request.pccb.actionHash.value ∧ result.payload = prior.result
  /-- with another hash the call is refused -/
  conflict : prior.actionHash ≠ request.pccb.actionHash.value → (∃ name, P.repr operationId = .ok name) →
    ∀ result, r = .ok result →
      ∃ refusal, result.refusal = some refusal ∧ refusal.reasonCode = "IDEMPOTENCY_CONFLICT"

/-- where a call ends -/
def Operated (P : Platform) (request : ProtectedExecutionRequest) (operationId : Json)
    (r : Except Raised ExecutionResult) (g : OperationCourse) : Prop :=
  RecordKept P request g ∧ ∀ prior, g.found = some (some prior) → FromPrior P request operationId prior g.smooth r

/-- where the `try` block raises -/
def Abandoned (P : Platform) (request : ProtectedExecutionRequest) (operationId : Json) (e : Raised)
    (g : OperationCourse) : Prop :=
  RecordKept P request g ∧ ∀ prior, g.found = some (some prior) →
    (prior.actionHash = request.pccb.actionHash.value →
      (∃ make, executionReceipt P request prior.result = .ok make) → g.smooth = false) ∧
    (prior.actionHash ≠ request.pccb.actionHash.value → (∃ name, P.repr operationId = .ok name) →
      ∃ exc, e = .refusal exc ∧ exc.refusalCode = "IDEMPOTENCY_CONFLICT")

section
variable {P : Platform} {X : ProtectedExecutor} {request : ProtectedExecutionRequest} {store : Nat}
  {operationId : Json}

/-! ## the `except` clauses -/

/-- neither the lookup nor the handler nor the record -/
def Aside : Op → Prop
  | .lookup _ _ => False
  | .handler _ _ => False
  | .record _ _ _ _ => False
  | _ => True

theorem Aside.allow {op : Op} (h : Aside op) (g : OperationCourse) :
    (operationMonitor request store operationId).allow g op := by
  cases op with
  | lookup s o => cases h
  | handler r c => cases h
  | record s o a r => cases h
  | _ => trivial

theorem Aside.notHandler {op : Op} (h : Aside op) : NotHandler op := by
  cases op with
  | handler r c => cases h
  | _ => trivial

theorem Aside.found {op : Op} (h : Aside op) (g : OperationCourse) (r : Res op) :
    (g.next ⟨op, r⟩).found = g.found := by
  cases op with
  | lookup s o => cases h
  | _ => rfl

theorem Aside.recorded {op : Op} (h : Aside op) (g : OperationCourse) (r : Res op) :
    (g.next ⟨op, r⟩).recorded = g.recorded := by
  cases op with
  | record s o a r => cases h
  | _ => exact Bool.or_false _

theorem smooth_next_false {g : OperationCourse} (h : g.smooth = false) (e : KernelEvent) :
    (g.next e).smooth = false := by
  show (g.smooth && _) = false
  rw [h]
  rfl

/-- nothing that was missed is made up for -/
theorem RecordKept.next {g : OperationCourse} (h : RecordKept P request g) {op : Op} (hop : Aside op) (r : Res op) :
    RecordKept P request (g.next ⟨op, r⟩) := by
  intro c payload hh hf hb
  rw [hop.recorded]
  have hhandler : g.seen.handler = some (some c, .ok payload) := by
    rw [← hh]
    exact (handler_next_notHandler hop.notHandler r).symm
  refine h c payload hhandler ?_ hb
  rw [← Bool.not_eq_true]
  intro hfailed
  cases hf.symm.trans (failedAfter_next hfailed _)

theorem Abandoned.next {e : Raised} {g : OperationCourse} (h : Abandoned P request operationId e g)
    (op : Op) (hop : Aside op) (r : Res op) : Abandoned P request operationId e (g.next ⟨op, r⟩) := by
  refine ⟨h.1.next hop r, ?_⟩
  intro prior hprior
  rw [hop.found] at hprior
  obtain ⟨hsame, hconflict⟩ := h.2 prior hprior
  exact ⟨fun hh hb => smooth_next_false (hsame hh hb) _, hconflict⟩

theorem wp_aside {α : Type} {J : Locals → Prop} {m : Run α} (hm : Frame Aside J m) {v : Locals} (hv : J v)
    {e : Raised} {g : OperationCourse} (h : Abandoned P request operationId e g) :
    wp (operationMonitor request store operationId) (m v)
      (fun r g' => J r.2 ∧ Abandoned P request operationId e g') g :=
  wp_frame (K := Abandoned P request operationId e) hm
    (fun g op hg hop => ⟨hop.allow g, fun r _ => hg.next op hop r⟩) hv h

/-- the refusal that is emitted has the code of the exception -/
theorem wp_emitRefusal_aside (exc : RefusalException) {v : Locals} {e : Raised} {g : OperationCourse}
    (h : Abandoned P request operationId e g) :
    wp (operationMonitor request store operationId) (emitRefusal P request exc v)
      (fun r g' => Abandoned P request operationId e g' ∧ ∀ result, r.1 = .ok result →
        ∃ refusal, result.refusal = some refusal ∧ refusal.reasonCode = exc.refusalCode) g := by
  refine wp_seq (fun r g' => Abandoned P request operationId e g' ∧ ∀ refusal, r.1 = .ok refusal →
    refusal.reasonCode = exc.refusalCode) ?_ ?_ fun e' v' g' h' => ⟨h'.1, fun result hr => nomatch hr⟩
  · refine wp_perform trivial ?_ fun e' _ => ⟨h.next .refusalId trivial _, fun refusal hr => nomatch hr⟩
    intro refusalId _
    refine ⟨h.next .refusalId trivial _, ?_⟩
    intro refusal hr
    cases hr
    rfl
  · rintro refusal v1 g1 ⟨h1, hcode⟩
    refine wp_seq _ (wp_aside (J := fun _ => True) (frame_createRefusedReceipt trivial _) trivial h1) ?_
      fun e' v' g' h' => ⟨h'.2, fun result hr => nomatch hr⟩
    rintro created v2 g2 ⟨-, h2⟩
    refine wp_vars (wp_lift ?_ fun e' _ => ⟨h2, fun result hr => nomatch hr⟩)
    intro receipt _
    have h3 := h2.next (.writeRefusal refusal) trivial
    refine wp_perform trivial ?_ fun e' _ => ⟨h3 _, fun result hr => nomatch hr⟩
    intro _ _
    have h4 := (h3 (.ok ())).next (.writeReceipt receipt) trivial
    refine wp_perform trivial ?_ fun e' _ => ⟨h4 _, fun result hr => nomatch hr⟩
    intro _ _
    refine ⟨h4 _, ?_⟩
    intro result hr
    cases hr
    exact ⟨refusal, rfl, hcode refusal rfl⟩

/-- a refusal after the `try` block -/
theorem Abandoned.operated {e : Raised} {g : OperationCourse} (h : Abandoned P request operationId e g)
    {r : Except Raised ExecutionResult} (hrefused : ∀ result, r = .ok result → result.refusal ≠ none)
    (hcode : ∀ exc, e = .refusal exc → ∀ result, r = .ok result →
      ∃ refusal, result.refusal = some refusal ∧ refusal.reasonCode = exc.refusalCode) :
    Operated P request operationId r g := by
  refine ⟨h.1, ?_⟩
  intro prior hprior
  obtain ⟨hsame, hconflict⟩ := h.2 prior hprior
  refine ⟨?_, ?_, ?_⟩
  · intro hh hsmooth hb
    cases hsmooth.symm.trans (hsame hh hb)
  · intro result hr hnone
    exact absurd hnone (hrefused result hr)
  · intro hh hname result hr
    obtain ⟨exc, he, hexc⟩ := hconflict hh hname
    obtain ⟨refusal, hsome, hreason⟩ := hcode exc he result hr
    exact ⟨refusal, hsome, hreason.trans hexc⟩

theorem wp_onRaise_operation (e : Raised) {v : Locals} (hv : v.effectReference = none)
    {g : OperationCourse} (h : Abandoned P request operationId e g) :
    wp (operationMonitor request store operationId) (X.onRaise P request e v)
      (fun r g' => Operated P request operationId r.1 g') g := by
  cases e with
  | refusal caught =>
    have hreported : v.reported caught = caught := by
      unfold Locals.reported
      rw [hv]
      rfl
    refine wp_vars ?_
    rw [hreported]
    refine wp_seq _ (wp_aside (J := fun _ => True) (frame_releaseCredential (fun _ _ => trivial) _ _)
      trivial h) ?_ fun e v' g' h' => h'.2.operated (fun result hr => nomatch hr) fun _ _ result hr => nomatch hr
    rintro _ v1 g1 ⟨-, h1⟩
    refine wp_seq _ (wp_aside (J := fun _ => True) (frame_releaseUnlessConsumed (fun _ _ => trivial) _)
      trivial h1) ?_ fun e v' g' h' => h'.2.operated (fun result hr => nomatch hr) fun _ _ result hr => nomatch hr
    rintro _ v2 g2 ⟨-, h2⟩
    refine wp_mono (wp_emitRefusal_aside caught h2) ?_
    rintro r g' ⟨h3, hcode⟩
    refine h3.operated ?_ ?_
    · intro result hr hnone
      obtain ⟨refusal, hsome, -⟩ := hcode result hr
      cases hnone.symm.trans hsome
    · intro exc he
      cases he
      exact hcode
  | other e =>
    refine wp_vars (wp_seq _ (wp_aside (J := fun _ => True)
      (frame_releaseCredential (fun _ _ => trivial) _ _) trivial h) ?_ fun e v' g' h' =>
        h'.2.operated (fun result hr => nomatch hr) fun _ _ result hr => nomatch hr)
    rintro _ v1 g1 ⟨-, h1⟩
    refine wp_seq _ (wp_aside (J := fun _ => True) (frame_consumeUnlessConsumed (fun _ _ => trivial)
      fun _ _ h => h) trivial h1) ?_ fun e v' g' h' =>
        h'.2.operated (fun result hr => nomatch hr) fun _ _ result hr => nomatch hr
    rintro _ v2 g2 ⟨-, h2⟩
    refine wp_mono (wp_emitRefusal_aside _ h2) ?_
    rintro r g' ⟨h3, hcode⟩
    refine h3.operated ?_ fun exc he => nomatch he
    intro result hr hnone
    obtain ⟨refusal, hsome, -⟩ := hcode result hr
    cases hnone.symm.trans hsome

/-! ## an operation that was recorded -/

/-- after the lookup a step that does not go through is remembered -/
theorem smooth_next {g : OperationCourse} (hf : g.found.isSome) {e : KernelEvent}
    (he : wentThrough e = false) : (g.next e).smooth = false := by
  show (g.smooth && (g.found.isNone || wentThrough e)) = false
  rw [he, Bool.or_false, Option.isNone_eq_false_iff.mpr hf, Bool.and_false]

theorem found_next {g : OperationCourse} (hf : g.found.isSome) (e : KernelEvent) :
    (g.next e).found.isSome := by
  show ((lookupAnswer e).or g.found).isSome
  rw [Option.isSome_or, hf, Bool.or_true]

/-- the call looked its operation up, and what went wrong before still counts -/
def Since (g g' : OperationCourse) : Prop := g'.found.isSome ∧ (g.smooth = false → g'.smooth = false)

theorem Since.next {g g' : OperationCourse} (h : Since g g') (e : KernelEvent) : Since g (g'.next e) :=
  ⟨found_next h.1 e, fun hs => smooth_next_false (h.2 hs) e⟩

theorem wp_inspect_smooth {S : Type} (inst : Nat) (key : String) (now : Datetime) (depth : Nat) (v : S)
    {g₀ g : OperationCourse} (hg : Since g₀ g) (hdepth : depth = 0 → g.smooth = false) :
    wp (operationMonitor request store operationId) (inspectUpTo inst key now depth v)
      (fun r g' => Since g₀ g' ∧ ∀ e, r.1 = .error e → g'.smooth = false) g := by
  induction depth generalizing g with
  | zero => exact ⟨hg, fun _ _ => hdepth rfl⟩
  | succ depth ih =>
    refine wp_perform trivial ?_ fun e _ => ⟨hg.next _, fun _ _ => smooth_next hg.1 rfl⟩
    intro answer _
    cases answer with
    | expired => exact ih (hg.next _) fun _ => smooth_next hg.1 rfl
    | missing => exact ⟨hg.next _, fun e he => nomatch he⟩
    | found row => exact ⟨hg.next _, fun e he => nomatch he⟩

theorem wp_markConsumed_smooth {S : Type} (inst : Nat) (key : String) (now : Datetime) (v : S)
    {g : OperationCourse} (hf : g.found.isSome) :
    wp (operationMonitor request store operationId) (markConsumed inst key now v)
      (fun r g' => ∀ e, r.1 = .error e → g'.smooth = false) g := by
  refine wp_perform trivial ?_ fun e _ _ _ => smooth_next hf rfl
  intro changed _
  refine wp_seq _ (wp_inspect_smooth inst key now recursionLimit v ⟨found_next hf _, id⟩
    fun h => nomatch h) ?_ fun e v' g' h => h.2
  rintro state v' g' ⟨⟨-, hsmooth⟩, -⟩
  cases changed with
  | true => exact fun e he => nomatch he
  | false => exact fun _ _ => hsmooth (smooth_next hf rfl)

theorem wp_consumeReplay_smooth {v : Locals} {g : OperationCourse} (hf : g.found.isSome) :
    wp (operationMonitor request store operationId) (X.consumeReplay request v)
      (fun r g' => ∀ e, r.1 = .error e → g'.smooth = false) g := by
  refine wp_vars (wp_seq (fun r g' => ∀ e, r.1 = .error e → g'.smooth = false) ?_
    (fun b v' g' _ e he => nomatch he) fun e v' g' h e' he => h e rfl)
  unfold ProtectedExecutor.markReplayConsumed
  cases X.replayProtector with
  | none => exact fun e he => nomatch he
  | some inst =>
    cases v.replayState with
    | none => exact fun e he => nomatch he
    | some state =>
      refine wp_catching (fun r g' => ∀ e, r.1 = .error e → g'.smooth = false) ?_ (fun _ _ _ h => h) ?_
      · exact wp_seq _ (wp_markConsumed_smooth _ _ _ v hf) (fun _ _ _ _ e he => nomatch he)
          fun e v' g' h _ _ => h e rfl
      · intro e v' g' h
        have hs := h e rfl
        cases e with
        | refusal e => exact fun _ _ => hs
        | other e =>
          unfold ProtectedExecutor.onStoreFailure
          cases X.failOpen with
          | true => exact fun _ he => nomatch he
          | false => exact fun _ _ => hs

/-- the `try` block ends -/
def Tried (P : Platform) (request : ProtectedExecutionRequest) (operationId : Json)
    (r : Except Raised ExecutionResult × Locals) (g : OperationCourse) : Prop :=
  match r with
  | (.ok result, _) => Operated P request operationId (.ok result) g
  | (.error e, v) => v.effectReference = none ∧ Abandoned P request operationId e g

/-- nothing has been executed -/
theorem recordKept_of_empty {g : OperationCourse} (h : g.seen = {}) : RecordKept P request g := by
  intro c payload hh
  rw [h] at hh
  cases hh

/-- on the way to the prior result -/
def WithPrior (prior : Prior) (g : OperationCourse) : Prop := g.found = some (some prior) ∧ g.seen = {}

theorem WithPrior.next {prior : Prior} {g : OperationCourse} (h : WithPrior prior g) (op : Op)
    (hop : Aside op) (r : Res op) : WithPrior prior (g.next ⟨op, r⟩) := by
  refine ⟨(hop.found g r).trans h.1, ?_⟩
  show g.seen.next _ = {}
  rw [h.2]
  exact next_notHandler (g := {}) hop.notHandler rfl r

theorem WithPrior.abandoned {prior : Prior} {g : OperationCourse} (h : WithPrior prior g) {e : Raised}
    (hsame : prior.actionHash = request.pccb.actionHash.value →
      (∃ make, executionReceipt P request prior.result = .ok make) → g.smooth = false)
    (hconflict : prior.actionHash ≠ request.pccb.actionHash.value → (∃ name, P.repr operationId = .ok name) →
      ∃ exc, e = .refusal exc ∧ exc.refusalCode = "IDEMPOTENCY_CONFLICT") :
    Abandoned P request operationId e g := by
  refine ⟨recordKept_of_empty h.2, ?_⟩
  intro prior' hprior
  cases h.1.symm.trans hprior
  exact ⟨hsame, hconflict⟩

theorem wp_withPrior {α : Type} {J : Locals → Prop} {m : Run α} (hm : Frame Aside J m) {v : Locals}
    (hv : J v) {prior : Prior} {g : OperationCourse} (h : WithPrior prior g) :
    wp (operationMonitor request store operationId) (m v)
      (fun r g' => J r.2 ∧ WithPrior prior g') g :=
  wp_frame (K := WithPrior prior) hm
    (fun g op hg hop => ⟨hop.allow g, fun r _ => hg.next op hop r⟩) hv h

/-- the hash differs -/
theorem priorConflict_error {α : Type} {prior : Prior} {hash : String} {e : Raised}
    (h : (priorConflict P operationId prior hash : PyM α) = .error e) {name : String}
    (hname : P.repr operationId = .ok name) :
    ∃ exc, e = .refusal exc ∧ exc.refusalCode = "IDEMPOTENCY_CONFLICT" := by
  unfold priorConflict at h
  rw [hname] at h
  cases h
  exact ⟨_, rfl, rfl⟩

theorem wp_returnPrior (hop : Dict.get request.intent.metadata "operation_id" = operationId) {v : Locals}
    (hv : v.effectReference = none) {prior : Prior} {g : OperationCourse} (h : WithPrior prior g) :
    wp (operationMonitor request store operationId) (X.returnPrior P request prior v)
      (Tried P request operationId) g := by
  unfold ProtectedExecutor.returnPrior
  by_cases hhash : prior.actionHash = request.pccb.actionHash.value
  · rw [if_neg (not_not.mpr hhash)]
    have hlost : ∀ {g' : OperationCourse} (e : Raised), WithPrior prior g' →
        ((∃ make, executionReceipt P request prior.result = .ok make) → g'.smooth = false) →
        Abandoned P request operationId e g' := fun e hg hs =>
      hg.abandoned (fun _ => hs) fun hne => absurd hhash hne
    have hsome : ∀ {g' : OperationCourse}, WithPrior prior g' → g'.found.isSome := fun hg => by
      rw [hg.1]
      rfl
    refine wp_seq _ (wp_and (wp_withPrior (J := fun v => v.effectReference = none)
      (frame_consumeReplay (fun _ _ => trivial) fun _ _ h => h) hv h)
      (wp_consumeReplay_smooth (hsome h))) ?_ fun e v1 g1 h1 => ⟨h1.1.1, hlost e h1.1.2 fun _ => h1.2 e rfl⟩
    rintro _ v1 g1 ⟨⟨hv1, h1⟩, -⟩
    refine wp_seq (fun r g' => (r.2.effectReference = none ∧ WithPrior prior g') ∧ ∀ e, r.1 = .error e →
      (∃ make, executionReceipt P request prior.result = .ok make) → g'.smooth = false) ?_ ?_
      fun e v2 g2 h2 => ⟨h2.1.1, hlost e h2.1.2 (h2.2 e rfl)⟩
    · refine wp_lift ?_ ?_
      · intro make hmake
        have h2 := fun r => h1.next .receiptId trivial r
        exact wp_perform trivial (fun receiptId _ => ⟨⟨hv1, h2 _⟩, fun e he => nomatch he⟩)
          fun e _ => ⟨⟨hv1, h2 _⟩, fun _ _ _ => smooth_next (hsome h1) rfl⟩
      · intro e he
        refine ⟨⟨hv1, h1⟩, ?_⟩
        rintro _ _ ⟨make, hmake⟩
        rw [hmake] at he
        cases he
    · rintro created v2 g2 ⟨⟨hv2, h2⟩, -⟩
      have h3 := fun r => h2.next (.writeReceipt created) trivial r
      refine wp_perform trivial ?_ fun e _ => ⟨hv2, hlost e (h3 _) fun _ => smooth_next (hsome h2) rfl⟩
      intro _ _
      refine ⟨recordKept_of_empty (h3 _).2, ?_⟩
      intro prior' hprior
      cases (h3 _).1.symm.trans hprior
      refine ⟨fun _ _ _ => ⟨_, rfl, rfl, rfl⟩, ?_, fun hne => absurd hhash hne⟩
      intro result hr _
      cases hr
      exact ⟨hhash, rfl⟩
  · rw [if_pos hhash, hop]
    cases hc : (priorConflict P operationId prior request.pccb.actionHash.value : PyM ExecutionResult) with
    | ok result =>
      unfold priorConflict at hc
      obtain ⟨name, _, hc⟩ := Fallible.bind_eq_ok.mp hc
      cases hc
    | error e =>
      refine ⟨hv, h.abandoned (fun hh => absurd hh hhash) ?_⟩
      rintro _ ⟨name, hname⟩
      exact priorConflict_error hc hname

/-! ## an operation that was not recorded -/

/-- the lookup found nothing, and the handler has not been called -/
structure Unrecorded (g : OperationCourse) : Prop where
  found : g.found = some none
  seen : g.seen = {}
  recorded : g.recorded = false

theorem abandoned_of_notFound {e : Raised} {g : OperationCourse} (h : g.found = some none)
    (hkept : RecordKept P request g) : Abandoned P request operationId e g := by
  refine ⟨hkept, ?_⟩
  intro prior hprior
  cases h.symm.trans hprior

theorem Unrecorded.abandoned {g : OperationCourse} (h : Unrecorded g) (e : Raised) :
    Abandoned P request operationId e g := abandoned_of_notFound h.found (recordKept_of_empty h.seen)

theorem Unrecorded.next {g : OperationCourse} (h : Unrecorded g) (op : Op) (hop : Aside op) (r : Res op) :
    Unrecorded (g.next ⟨op, r⟩) where
  found := (hop.found g r).trans h.found
  seen := by
    show g.seen.next _ = {}
    rw [h.seen]
    exact next_notHandler (g := {}) hop.notHandler rfl r
  recorded := (hop.recorded g r).trans h.recorded

theorem wp_unrecorded {α : Type} {J : Locals → Prop} {m : Run α} (hm : Frame Aside J m) {v : Locals}
    (hv : J v) {g : OperationCourse} (h : Unrecorded g) :
    wp (operationMonitor request store operationId) (m v) (fun r g' => J r.2 ∧ Unrecorded g') g :=
  wp_frame (K := Unrecorded) hm (fun g op hg hop => ⟨hop.allow g, fun r _ => hg.next op hop r⟩) hv h

/-- the handler has returned, and nothing failed since -/
structure Returning (credential : BrokeredCredential) (payload : Json) (g : OperationCourse) : Prop where
  found : g.found = some none
  seen : g.seen = { handler := some (some credential, .ok payload) }
  recorded : g.recorded = false

section
variable {credential : BrokeredCredential} {payload : Json} {g : OperationCourse}

theorem Returning.next_ok (h : Returning credential payload g) (op : Op) (hop : Aside op) (a : Value op) :
    Returning credential payload (g.next ⟨op, (.ok a : PyM (Value op))⟩) where
  found := (hop.found g _).trans h.found
  seen := by
    show g.seen.next _ = _
    rw [h.seen]
    exact next_of_ok rfl op a
  recorded := (hop.recorded g _).trans h.recorded

theorem Returning.abandoned_of_error (h : Returning credential payload g) (op : Op) (hop : Aside op)
    (e e' : Raised) : Abandoned P request operationId e' (g.next ⟨op, (.error e : PyM (Value op))⟩) := by
  refine abandoned_of_notFound ((hop.found g _).trans h.found) ?_
  intro c payload' _ hf
  have hhandler : g.seen.handler = some (some credential, .ok payload) := by rw [h.seen]
  cases hf.symm.trans (failedAfter_of_error hhandler op e)

theorem Returning.abandoned_of_unbuildable (h : Returning credential payload g)
    (hb : ¬ ReceiptBuilds P request credential payload) (e : Raised) :
    Abandoned P request operationId e g := by
  refine abandoned_of_notFound h.found ?_
  intro c payload' hh _ hbuilds
  rw [h.seen] at hh
  cases hh
  exact absurd hbuilds hb

/-- the receipt is built, or the call is abandoned -/
theorem wp_createReceipt_operation (h : Returning credential payload g) {given : Dict}
    (hgiven : payloadDict payload = .ok given) (v : Locals) :
    wp (operationMonitor request store operationId)
      (createExecutionReceipt P request (.obj (Dict.merge given (brokerPayload credential))) v)
      (fun r g' => r.2 = v ∧ (∀ e, r.1 = .error e → Abandoned P request operationId e g') ∧
        ∀ created, r.1 = .ok created → Returning credential payload g') g := by
  refine wp_lift ?_ ?_
  · intro make _
    exact wp_perform trivial
      (fun receiptId _ => ⟨rfl, fun e he => (nomatch he), fun _ _ => h.next_ok .receiptId trivial receiptId⟩)
      fun e _ => ⟨rfl, fun e' _ => h.abandoned_of_error .receiptId trivial e e', fun _ he => nomatch he⟩
  · intro e he
    refine ⟨rfl, fun e' _ => h.abandoned_of_unbuildable ?_ e', fun _ hr => nomatch hr⟩
    rintro ⟨given', make, hgiven', hmake⟩
    cases hgiven.symm.trans hgiven'
    rw [hmake] at he
    cases he

theorem wp_complete_operation (hop : X.operation request = some (store, operationId))
    (h : Returning credential payload g) {v : Locals} (hv : v.effectReference = none) :
    wp (operationMonitor request store operationId) (X.complete P request credential payload v)
      (Tried P request operationId) g := by
  refine wp_seq (fun r g' => r = (.ok (), v) ∧ g' = g) ?_ ?_ fun e v1 g1 h1 => nomatch h1.1
  · refine wp_vars ?_
    rw [hv]
    exact ⟨rfl, rfl⟩
  rintro _ v1 g1 ⟨hr, rfl⟩
  cases hr
  refine wp_lift ?_ ?_
  · intro given hgiven
    refine wp_perform trivial ?_ fun e _ => ⟨hv, h.abandoned_of_error (.release _ _) trivial e e⟩
    intro _ _
    refine wp_seq _ (wp_createReceipt_operation (h.next_ok (.release _ _) trivial ()) (orRaise_ok hgiven) v)
      ?_ ?_
    · rintro created v1 g1 ⟨rfl, -, h1⟩
      refine wp_vars (wp_perform trivial ?_ fun e _ =>
        ⟨hv, (h1 created rfl).abandoned_of_error (.writeReceipt _) trivial e e⟩)
      intro _ _
      have h2 := (h1 created rfl).next_ok (.writeReceipt (v1.withEvidence created)) trivial ()
      unfold ProtectedExecutor.recordResult
      rw [hop]
      refine wp_perform ⟨rfl, rfl, rfl, h2.found, h2.recorded, credential, ?_⟩ ?_ ?_
      · exact congrArg Seen.handler h2.seen
      · intro _ _
        refine ⟨fun _ _ _ _ _ => Bool.or_true _, ?_⟩
        intro prior hprior
        cases h2.found.symm.trans hprior
      · intro e _
        exact ⟨hv, abandoned_of_notFound h2.found fun _ _ _ _ _ => Bool.or_true _⟩
    · rintro e v1 g1 ⟨rfl, h1, -⟩
      exact ⟨hv, h1 e rfl⟩
  · intro e he
    refine ⟨hv, h.abandoned_of_unbuildable ?_ e⟩
    rintro ⟨given, make, hgiven, -⟩
    rw [hgiven] at he
    cases he

end

theorem wp_dispatch_operation (hE : X.effectProtector = none)
    (hop : X.operation request = some (store, operationId)) {v : Locals} (hv : v.effectReference = none)
    {g : OperationCourse} (h : Unrecorded g) :
    wp (operationMonitor request store operationId) (X.dispatch P request v)
      (Tried P request operationId) g := by
  have hclaim : X.claimEffect P request = pure () := by
    unfold ProtectedExecutor.claimEffect
    rw [hE]
  refine wp_seq _ (wp_unrecorded (J := fun v => v.effectReference = none)
    (frame_consumeEscrow fun _ _ _ _ => trivial) hv h) ?_ fun e v1 g1 h1 => ⟨h1.1, h1.2.abandoned e⟩
  rintro _ v1 g1 ⟨hv1, h1⟩
  rw [hclaim]
  refine wp_perform trivial ?_ fun e _ => ⟨hv1, (h1.next (.acquire request) trivial _).abandoned e⟩
  intro credential _
  refine wp_assign ?_
  refine wp_seq _ (wp_unrecorded (J := fun v => v.effectReference = none)
    (v := { v1 with brokeredCredential := some credential })
    (frame_consumeReplay (fun _ _ => trivial) fun _ _ h => h) hv1 (h1.next (.acquire request) trivial _)) ?_
    fun e v2 g2 h2 => ⟨h2.1, h2.2.abandoned e⟩
  rintro _ v2 g2 ⟨hv2, h2⟩
  refine wp_assign (wp_perform ⟨h2.found, congrArg Seen.handler h2.seen, rfl⟩ ?_ ?_)
  · intro payload _
    have hreturned : Returning credential payload
        (g2.next ⟨.handler request (some credential), (.ok payload : PyM Json)⟩) := by
      refine ⟨h2.found, ?_, (Bool.or_false _).trans h2.recorded⟩
      show g2.seen.next _ = _
      rw [h2.seen]
      rfl
    exact wp_complete_operation hop hreturned hv2
  · intro e _
    refine ⟨hv2, abandoned_of_notFound h2.found ?_⟩
    intro c payload hh
    have hfirst : g2.seen.next ⟨.handler request (some credential), (.error e : PyM Json)⟩
        = { handler := some (some credential, .error e) } := by
      rw [h2.seen]
      rfl
    cases hh.symm.trans (congrArg Seen.handler hfirst)

/-! ## the call -/

theorem Aside.next_empty {op : Op} (h : Aside op) (r : Res op) :
    ({} : OperationCourse).next ⟨op, r⟩ = {} := by
  have hseen : ({} : Seen).next ⟨op, r⟩ = {} := next_notHandler (g := {}) h.notHandler rfl r
  cases op with
  | lookup s o => cases h
  | handler q c => cases h
  | record s o a q => cases h
  | _ => exact congrArg (fun x => (⟨none, true, x, false⟩ : OperationCourse)) hseen

/-- before the lookup -/
theorem wp_unfound {α : Type} {J : Locals → Prop} {m : Run α} (hm : Frame Aside J m) {v : Locals} (hv : J v) :
    wp (operationMonitor request store operationId) (m v) (fun r g' => J r.2 ∧ g' = {}) {} := by
  refine wp_frame (K := fun g : OperationCourse => g = {}) hm ?_ hv rfl
  rintro g op rfl hop
  exact ⟨hop.allow _, fun r _ => hop.next_empty r⟩

theorem abandoned_empty (e : Raised) : Abandoned P request operationId e {} :=
  ⟨recordKept_of_empty rfl, fun _ hprior => nomatch hprior⟩

theorem operation_id (hop : X.operation request = some (store, operationId)) :
    Dict.get request.intent.metadata "operation_id" = operationId := by
  unfold ProtectedExecutor.operation at hop
  split at hop
  · cases hop
  · cases hop
    rfl
  · cases hop

theorem wp_attempt_operation (hE : X.effectProtector = none)
    (hop : X.operation request = some (store, operationId)) (decision : Option PolicyDecision)
    {v : Locals} (hv : v.effectReference = none) :
    wp (operationMonitor request store operationId) (X.attempt P request decision v)
      (Tried P request operationId) {} := by
  refine wp_lift ?_ fun e _ => ⟨hv, abandoned_empty e⟩
  intro _ _
  refine wp_seq _ (wp_unfound (J := fun v => v.effectReference = none)
    (frame_claimReplay fun _ _ => trivial) hv) ?_ ?_
  · rintro state v1 g1 ⟨hv1, rfl⟩
    refine wp_assign ?_
    have hv2 : ({ v1 with replayState := state } : Locals).effectReference = none := hv1
    unfold ProtectedExecutor.lookupPrior
    rw [hop]
    refine wp_perform ⟨rfl, rfl, rfl⟩ ?_ fun e _ => ⟨hv2, abandoned_empty e⟩
    intro prior _
    cases prior with
    | none =>
      have hnone : Unrecorded (({} : OperationCourse).next
          ⟨.lookup store operationId, (.ok none : PyM (Option Prior))⟩) := ⟨rfl, rfl, rfl⟩
      exact wp_dispatch_operation hE hop hv2 hnone
    | some prior =>
      have hsome : WithPrior prior (({} : OperationCourse).next
          ⟨.lookup store operationId, (.ok (some prior) : PyM (Option Prior))⟩) := ⟨rfl, rfl⟩
      exact wp_returnPrior (operation_id hop) hv2 hsome
  · rintro e v1 g1 ⟨hv1, rfl⟩
    exact ⟨hv1, abandoned_empty e⟩

/-- **One call**: a handler only after a lookup that found nothing, a record only after a handler that
returned, and the prior result where there is one. -/
theorem wp_call_operation (hE : X.effectProtector = none)
    (hop : X.operation request = some (store, operationId)) (decision : Option PolicyDecision) :
    wp (operationMonitor request store operationId) (X.call P request decision)
      (fun r g => Operated P request operationId r.1 g) {} := by
  refine wp_catching _ (wp_attempt_operation hE hop decision rfl) ?_ ?_
  · intro result v g h
    exact h
  · rintro e v g ⟨hv, h⟩
    exact wp_onRaise_operation e hv h

end

/-! ## what a run shows -/

/-- the course of a run -/
def courseOf (t : List KernelEvent) : OperationCourse := t.foldl OperationCourse.next {}

section
variable {request : ProtectedExecutionRequest} {store : Nat} {operationId : Json}

theorem run_operationMonitor (t : List KernelEvent) (g : OperationCourse) :
    (operationMonitor request store operationId).run g t = t.foldl OperationCourse.next g := by
  induction t generalizing g with
  | nil => rfl
  | cons e t ih => exact ih _

theorem lookupAnswer_iff {e : KernelEvent} {x : Option Prior} (h : lookupAnswer e = some x) :
    ∃ s o, e = ⟨.lookup s o, (.ok x : PyM (Option Prior))⟩ := by
  obtain ⟨op, answer⟩ := e
  cases op with
  | lookup s o =>
    change PyM (Option Prior) at answer
    cases answer with
    | ok y =>
      cases h
      exact ⟨s, o, rfl⟩
    | error e => cases h
  | _ => cases h

/-- what was found was looked up -/
theorem lookup_of_found {t : List KernelEvent} {x : Option Prior} (h : (courseOf t).found = some x) :
    ∃ t₁ s o t₂, t = t₁ ++ ⟨.lookup s o, (.ok x : PyM (Option Prior))⟩ :: t₂ := by
  induction t using List.reverseRecOn with
  | nil => cases h
  | append_singleton t e ih =>
    unfold courseOf at h
    rw [List.foldl_append] at h
    change (lookupAnswer e).or (courseOf t).found = some x at h
    cases he : lookupAnswer e with
    | some y =>
      rw [he] at h
      cases h
      obtain ⟨s, o, rfl⟩ := lookupAnswer_iff he
      exact ⟨t, s, o, [], rfl⟩
    | none =>
      rw [he, Option.none_or] at h
      obtain ⟨t₁, s, o, t₂, rfl⟩ := ih h
      exact ⟨t₁, s, o, t₂ ++ [e], by rw [List.append_assoc, List.cons_append]⟩

theorem recorded_iff {t : List KernelEvent} :
    (courseOf t).recorded = true ↔ ∃ e ∈ t, e.1.isRecord = true := by
  induction t using List.reverseRecOn with
  | nil => exact ⟨fun h => (nomatch h), fun ⟨_, he, _⟩ => nomatch he⟩
  | append_singleton t e ih =>
    unfold courseOf
    rw [List.foldl_append]
    show ((courseOf t).recorded || e.1.isRecord) = true ↔ _
    rw [Bool.or_eq_true, ih]
    simp only [List.mem_append, List.mem_singleton]
    constructor
    · rintro (⟨x, hx, hr⟩ | hr)
      · exact ⟨x, Or.inl hx, hr⟩
      · exact ⟨e, Or.inr rfl, hr⟩
    · rintro ⟨x, hx | rfl, hr⟩
      · exact Or.inl ⟨x, hx, hr⟩
      · exact Or.inr hr

theorem seen_courseOf (t : List KernelEvent) : (courseOf t).seen = seen t := by
  induction t using List.reverseRecOn with
  | nil => rfl
  | append_singleton t e ih =>
    unfold courseOf seen
    rw [List.foldl_append, List.foldl_append]
    exact congrArg (Seen.next · e) ih

/-- a handler that answered stays in sight -/
theorem handler_courseOf_append {t t' : List KernelEvent} {x : Option BrokeredCredential × PyM Json}
    (h : (courseOf t).seen.handler = some x) : (courseOf (t ++ t')).seen.handler = some x := by
  induction t' using List.reverseRecOn with
  | nil => rwa [List.append_nil]
  | append_singleton t' e ih =>
    rw [← List.append_assoc]
    unfold courseOf
    rw [List.foldl_append]
    exact next_handler ih e

/-- after the lookup, what went through -/
theorem smooth_foldl {g : OperationCourse} (hf : g.found.isSome) (t : List KernelEvent) :
    (t.foldl OperationCourse.next g).smooth = (g.smooth && t.all wentThrough) := by
  induction t generalizing g with
  | nil => exact (Bool.and_true _).symm
  | cons e t ih =>
    rw [List.foldl_cons, ih (found_next hf e), List.all_cons, ← Bool.and_assoc]
    show (g.smooth && (g.found.isNone || wentThrough e) && _) = _
    rw [Option.isNone_eq_false_iff.mpr hf, Bool.false_or]

/-- before the lookup nothing counts -/
theorem smooth_of_unfound {t : List KernelEvent} (h : (courseOf t).found = none) :
    (courseOf t).smooth = true := by
  induction t using List.reverseRecOn with
  | nil => rfl
  | append_singleton t e ih =>
    unfold courseOf at h ⊢
    rw [List.foldl_append] at h ⊢
    change (lookupAnswer e).or (courseOf t).found = none at h
    rw [Option.or_eq_none_iff] at h
    show ((courseOf t).smooth && ((courseOf t).found.isNone || _)) = true
    rw [ih h.2, h.2]
    rfl

/-- one lookup -/
theorem found_of_allowed {g : OperationCourse} {t : List KernelEvent} {x : Option Prior}
    (h : (operationMonitor request store operationId).Allowed g t) (hg : g.found = some x) :
    (t.foldl OperationCourse.next g).found = some x := by
  induction t generalizing g with
  | nil => exact hg
  | cons e t ih =>
    refine ih h.2 ?_
    show (lookupAnswer e).or g.found = some x
    cases he : lookupAnswer e with
    | none => rw [Option.none_or, hg]
    | some y =>
      obtain ⟨s, o, rfl⟩ := lookupAnswer_iff he
      cases hg.symm.trans h.1.2.2

end

/-! ## the idempotency store -/

/-- the identifier stands under this key -/
def underKey (key : Key) (operationId : Json) : Bool :=
  match operationId.toKey with
  | .ok k => k = key
  | .error _ => false

theorem underKey_iff {key : Key} {operationId : Json} :
    underKey key operationId = true ↔ operationId.toKey = .ok key := by
  unfold underKey
  split
  · rename_i k hk
    rw [hk, decide_eq_true_iff]
    exact ⟨congrArg _, Except.ok.inj⟩
  · rename_i e he
    rw [he]
    exact ⟨fun h => (nomatch h), fun h => nomatch h⟩

/-- a lookup of the operation that finds nothing -/
def Misses (store : Nat) (key : Key) (e : KernelEvent) : Prop :=
  ∃ operationId : Json, operationId.toKey = .ok key ∧ e = ⟨.lookup store operationId, (.ok none : PyM (Option Prior))⟩

/-- a record of the operation -/
def recordOf (store : Nat) (key : Key) : Op → Bool
  | .record s o _ _ => s = store && underKey key o
  | _ => false

section
variable {P : Platform} {w w' : World} {store : Nat} {key : Key}

/-- what the store has for the operation -/
def World.prior (w : World) (store : Nat) (key : Key) : Option Prior := (w.records store).lookup key

theorem setRecords_prior (rs : Records) (s : Nat) :
    (w.setRecords s rs).prior store key = if store = s then rs.lookup key else w.prior store key := by
  unfold World.setRecords World.prior
  by_cases h : store = s
  · rw [if_pos h]
    show List.lookup key (if store = s then rs else w.records store) = _
    rw [if_pos h]
  · rw [if_neg h]
    show List.lookup key (if store = s then rs else w.records store) = _
    rw [if_neg h]

/-- what is recorded stays -/
theorem Records.record_some (rs : Records) {operationId : Json} {hash : String} {result : Json} {prior : Prior}
    (h : rs.lookup key = some prior) :
    (rs.record P operationId hash result).2.lookup key = some prior := by
  unfold Records.record
  split
  · exact h
  · split
    · split
      · exact h
      · exact h
    · rw [List.lookup_append, h]
      rfl

/-- another operation is recorded -/
theorem Records.record_other (rs : Records) {operationId : Json} {hash : String} {result : Json}
    (h : underKey key operationId = false) :
    (rs.record P operationId hash result).2.lookup key = rs.lookup key := by
  unfold Records.record
  split
  · rfl
  · rename_i k hk
    split
    · split
      · rfl
      · rfl
    · have hne : (key == k) = false := by
        rw [beq_eq_false_iff_ne]
        rintro rfl
        rw [underKey_iff.mpr hk] at h
        cases h
      rw [List.lookup_append, List.lookup_cons, hne, List.lookup_nil, Option.or_none]

/-- the operation is recorded -/
theorem Records.record_none (rs : Records) {operationId : Json} {hash : String} {result : Json}
    (h : rs.lookup key = none) (hkey : operationId.toKey = .ok key) :
    (rs.record P operationId hash result).2.lookup key = some ⟨hash, result⟩ := by
  unfold Records.record
  rw [hkey]
  dsimp only
  rw [h]
  dsimp only
  rw [List.lookup_append, h, Option.none_or, List.lookup_cons, beq_self_eq_true]

theorem step_prior_some {e : KernelEvent} {prior : Prior} (h : World.step P w e w')
    (hp : w.prior store key = some prior) : w'.prior store key = some prior := by
  obtain ⟨op, answer⟩ := e
  cases op with
  | store inst tx =>
    unfold World.prior
    rw [h.2]
    exact hp
  | lookup s o =>
    rw [h.2]
    exact hp
  | record s o a r =>
    rw [h.2, setRecords_prior]
    split
    · rename_i hs
      subst hs
      exact Records.record_some _ hp
    · exact hp
  | _ =>
    rw [h]
    exact hp

theorem step_prior_other {e : KernelEvent} (h : World.step P w e w') (he : recordOf store key e.1 = false) :
    w'.prior store key = w.prior store key := by
  obtain ⟨op, answer⟩ := e
  cases op with
  | store inst tx =>
    unfold World.prior
    rw [h.2]
  | lookup s o => rw [h.2]
  | record s o a r =>
    rw [h.2, setRecords_prior]
    split
    · rename_i hs
      subst hs
      refine Records.record_other _ ?_
      rwa [recordOf, decide_eq_true rfl, Bool.true_and] at he
    · rfl
  | _ => rw [h]

theorem follows_prior_some {t : List KernelEvent} {prior : Prior} (h : Follows (World.step P) w t w')
    (hp : w.prior store key = some prior) : w'.prior store key = some prior :=
  follows_invariant (I := fun v => v.prior store key = some prior)
    (fun _ _ _ hs hv => step_prior_some hs hv) h hp

theorem follows_prior_none {t : List KernelEvent} (h : Follows (World.step P) w t w')
    (hp : w.prior store key = none) (ht : ∀ e ∈ t, recordOf store key e.1 = false) :
    w'.prior store key = none := by
  induction t generalizing w with
  | nil =>
    cases h
    exact hp
  | cons e t ih =>
    obtain ⟨v, hv, h⟩ := h
    refine ih h ?_ fun x hx => ht x (List.mem_cons_of_mem _ hx)
    rw [step_prior_other hv (ht e List.mem_cons_self), hp]

/-- a record of an operation that has none -/
theorem step_record {operationId : Json} {hash : String} {result : Json} {answer : PyM Unit}
    (h : World.step P w ⟨.record store operationId hash result, answer⟩ w')
    (hp : w.prior store key = none) (hkey : operationId.toKey = .ok key) :
    w'.prior store key = some ⟨hash, result⟩ := by
  rw [h.2, setRecords_prior, if_pos rfl]
  exact Records.record_none _ hp hkey

/-- what a lookup finds is what the store has -/
theorem step_lookup {operationId : Json} {answer : PyM (Option Prior)}
    (h : World.step P w ⟨.lookup store operationId, answer⟩ w') (hkey : operationId.toKey = .ok key) :
    answer = .ok (w.prior store key) := by
  have ha : answer = (w.records store).find operationId := h.1
  rw [ha]
  unfold Records.find
  rw [hkey]
  rfl

end

/-! ## histories -/

/-- the call is for the operation under this key of this store -/
def ExecuteCall.Operates (c : ExecuteCall) (store : Nat) (key : Key) : Prop :=
  ∃ operationId, c.executor.operation c.request = some (store, operationId) ∧ operationId.toKey = .ok key

section
variable (P : Platform) {ι : Type} [DecidableEq ι] (calls : ι → ExecuteCall)
  (h : List (Option ι × KernelEvent)) (store : Nat) (key : Key)

/-- the call has returned -/
def HasReturned (i : ι) (c : List (Option ι × KernelEvent)) : Prop :=
  ∃ r, Reaches ((calls i).program P) (proj (some i) c) (.ret r)

/-- after a handler that returned nothing fails, and its receipt can be built -/
def Completes : Prop :=
  ∀ i, (calls i).Operates store key → ∀ credential payload,
    (seen (proj (some i) h)).handler = some (some credential, .ok payload) →
      (seen (proj (some i) h)).failedAfter = false ∧ ReceiptBuilds P (calls i).request credential payload

/-- when a call does not find the operation, every other call that did not find it has returned -/
def Serial : Prop :=
  ∀ i before e after, h = before ++ (some i, e) :: after → Misses store key e →
    ∀ j, j ≠ i → (∃ e' ∈ proj (some j) before, Misses store key e') → HasReturned P calls j before

end

section
variable {P : Platform} {ι : Type} [DecidableEq ι] {calls : ι → ExecuteCall} {w w' : World}
  {h : List (Option ι × KernelEvent)} {store : Nat} {key : Key}

/-- a call that has returned does nothing more -/
theorem HasReturned.rest {i : ι} {c c' : List (Option ι × KernelEvent)} (hf : HasReturned P calls i c)
    (H : History P calls w h w') (hc : h = c ++ c') : proj (some i) c' = [] := by
  obtain ⟨r, hr⟩ := hf
  obtain ⟨p, hp⟩ := H.reached i
  rw [hc, proj_append] at hp
  exact hr.done hp

/-- an operation has no effect protector -/
theorem effectProtector_none {X : ProtectedExecutor} {request : ProtectedExecutionRequest} {s : Nat} {o : Json}
    (hop : X.operation request = some (s, o)) : X.effectProtector = none := by
  unfold ProtectedExecutor.operation at hop
  split at hop
  · assumption
  · assumption
  · cases hop

/-- the calls of a call for an operation are allowed, and it ends as it should -/
theorem operates_allowed (H : History P calls w h w') {i : ι} {operationId : Json}
    (hop : (calls i).executor.operation (calls i).request = some (store, operationId)) :
    (operationMonitor (calls i).request store operationId).Allowed {} (proj (some i) h) ∧
      ∀ c r, Reaches ((calls i).program P) (proj (some i) c) (.ret r) →
        Operated P (calls i).request operationId r.1 (courseOf (proj (some i) c)) := by
  have hspec := wp_call_operation (P := P) (effectProtector_none hop) hop (calls i).policyDecision
  obtain ⟨p, hp⟩ := H.reached i
  refine ⟨(wp_reaches hspec hp (Monitor.possible_of_all (fun _ _ _ => trivial) _ _)).1, ?_⟩
  intro c r hr
  have hret := (wp_reaches hspec hr (Monitor.possible_of_all (fun _ _ _ => trivial) _ _)).2
  rw [run_operationMonitor] at hret
  exact hret

/-- an event of a call is allowed where it stands -/
theorem operates_allow (H : History P calls w h w') {i : ι} {operationId : Json}
    (hop : (calls i).executor.operation (calls i).request = some (store, operationId))
    {d d' : List (Option ι × KernelEvent)} {e : KernelEvent} (hd : h = d ++ (some i, e) :: d') :
    (operationMonitor (calls i).request store operationId).allow (courseOf (proj (some i) d)) e.1 := by
  have hallowed := (operates_allowed H hop).1
  rw [hd, proj_append, proj_cons_self] at hallowed
  have hallow := (Monitor.allowed_append.mp hallowed).2.1
  rwa [run_operationMonitor] at hallow

/-- a call has looked its operation up before its handler and its record -/
theorem own_lookup (H : History P calls w h w') {i : ι} {operationId : Json}
    (hop : (calls i).executor.operation (calls i).request = some (store, operationId))
    {d d' : List (Option ι × KernelEvent)} (hd : h = d ++ d')
    (hfound : (courseOf (proj (some i) d)).found = some none) :
    ∃ c c', d = c ++ (some i, ⟨.lookup store operationId, (.ok none : PyM (Option Prior))⟩) :: c' := by
  obtain ⟨t₁, s, o, t₂, ht⟩ := lookup_of_found hfound
  obtain ⟨c, c', rfl, -, -⟩ := proj_eq_append_cons ht
  rw [List.append_assoc, List.cons_append] at hd
  obtain ⟨rfl, rfl, -⟩ := operates_allow H hop hd
  exact ⟨c, c', rfl⟩

/-- **Two calls of one operation.**  A handler or a record of the one comes before the lookup of the
other, or after the other has returned. -/
theorem exclusive (H : History P calls w h w') (hserial : Serial P calls h store key) {i j : ι}
    (hij : j ≠ i) {operationId : Json}
    (hop : (calls j).executor.operation (calls j).request = some (store, operationId))
    (hkey : operationId.toKey = .ok key) {b b' : List (Option ι × KernelEvent)} {l : KernelEvent}
    (hl : Misses store key l) (hb : h = b ++ (some i, l) :: b')
    {d d' : List (Option ι × KernelEvent)} {e : KernelEvent} (hd : h = d ++ (some j, e) :: d')
    (hfound : (courseOf (proj (some j) d)).found = some none) :
    (∃ m, b = d ++ (some j, e) :: m) ∨
      ∃ c c', d = c ++ (some j, ⟨.lookup store operationId, (.ok none : PyM (Option Prior))⟩) :: c' ∧
        HasReturned P calls i c := by
  have htag : ∀ x y : KernelEvent, ((some j, x) : Option ι × KernelEvent) ≠ (some i, y) := by
    intro x y hxy
    exact hij (Option.some.inj (congrArg Prod.fst hxy))
  obtain ⟨c, c', rfl⟩ := own_lookup H hop hd hfound
  have hlookup : Misses store key ⟨.lookup store operationId, (.ok none : PyM (Option Prior))⟩ :=
    ⟨operationId, hkey, rfl⟩
  have hc : h = c ++ (some j, ⟨.lookup store operationId, (.ok none : PyM (Option Prior))⟩)
      :: (c' ++ (some j, e) :: d') := by
    rw [hd, List.append_assoc, List.cons_append]
  rcases append_cons_cases (hc.symm.trans hb) with ⟨-, hxy⟩ | ⟨m, hm⟩ | ⟨m, hm⟩
  · exact absurd hxy (htag _ _)
  · -- the lookup of `j` comes first: `j` has returned when `i` looks up
    have hdone : HasReturned P calls j b := by
      refine hserial i b l b' hb hl j hij ⟨⟨.lookup store operationId, (.ok none : PyM (Option Prior))⟩,
        ?_, hlookup⟩
      rw [hm, mem_proj]
      exact List.mem_append_right _ List.mem_cons_self
    have hrest := hdone.rest H hb
    rcases append_cons_cases (hd.symm.trans hb) with ⟨-, hxy⟩ | hbefore | ⟨m', hm'⟩
    · exact absurd hxy (htag _ _)
    · exact Or.inl hbefore
    · have hmem : e ∈ proj (some j) ((some i, l) :: b') := by
        rw [mem_proj]
        rw [hm', hb, List.append_assoc, List.cons_append] at hd
        rw [List.append_cancel_left hd]
        exact List.mem_cons_of_mem _ (List.mem_append_right _ List.mem_cons_self)
      rw [hrest] at hmem
      cases hmem
  · -- the lookup of `i` comes first: `i` has returned when `j` looks up
    refine Or.inr ⟨c, c', rfl, hserial j c _ _ hc hlookup i (Ne.symm hij) ⟨l, ?_, hl⟩⟩
    rw [hm, mem_proj]
    exact List.mem_append_right _ List.mem_cons_self

/-- only calls for the operation record it -/
theorem operates_of_record (H : History P calls w h w') {x : Option ι × KernelEvent} (hx : x ∈ h)
    (hr : recordOf store key x.2.1 = true) :
    ∃ j operationId, x.1 = some j ∧
      (calls j).executor.operation (calls j).request = some (store, operationId) ∧
      operationId.toKey = .ok key := by
  obtain ⟨tag, op, answer⟩ := x
  cases op with
  | record s o a q =>
    rw [recordOf, Bool.and_eq_true, decide_eq_true_iff, underKey_iff] at hr
    obtain ⟨rfl, hkey⟩ := hr
    cases tag with
    | none =>
      have hs := H.others _ (mem_proj.mpr hx)
      cases hs
    | some j =>
      refine ⟨j, o, rfl, ?_, hkey⟩
      obtain ⟨p, hp⟩ := H.reached j
      have honly : Only (fun op => ∀ s o a q, op = .record s o a q →
          (calls j).executor.operation (calls j).request = some (s, o)) (fun _ => True)
          ((calls j).program P) := by
        refine frame_execute ?_ ?_ ?_ (calls j).policyDecision {} trivial
        · rintro op hop s o a q rfl
          cases hop
        · intro s o _ s' o' a q he
          cases he
        · intro s o hop a q s' o' a' q' he
          cases he
          exact hop
      exact honly.mem hp _ (mem_proj.mpr hx) _ _ _ _ rfl
  | _ => cases hr

/-- between the lookup of a call and its record nobody records the operation -/
theorem no_record_between (H : History P calls w h w') (hserial : Serial P calls h store key) {i : ι}
    {b m d : List (Option ι × KernelEvent)} {l e : KernelEvent} (hl : Misses store key l)
    (hd : h = (b ++ (some i, l) :: m) ++ (some i, e) :: d)
    (hunrecorded : (courseOf (proj (some i) (b ++ (some i, l) :: m))).recorded = false) :
    ∀ x ∈ m.map Prod.snd, recordOf store key x.1 = false := by
  intro x hx
  obtain ⟨y, hy, rfl⟩ := List.mem_map.mp hx
  rw [← Bool.not_eq_true]
  intro hrecord
  have hyh : y ∈ h := by
    rw [hd]
    exact List.mem_append_left _ (List.mem_append_right _ (List.mem_cons_of_mem _ hy))
  obtain ⟨j, operationId, hj, hop, hkey⟩ := operates_of_record H hyh hrecord
  obtain ⟨tag, op, answer⟩ := y
  cases hj
  have hisRecord : op.isRecord = true := by
    cases op with
    | record s o a q => rfl
    | _ => cases hrecord
  by_cases hji : j = i
  · subst hji
    have hmem : (⟨op, answer⟩ : KernelEvent) ∈ proj (some j) (b ++ (some j, l) :: m) :=
      mem_proj.mpr (List.mem_append_right _ (List.mem_cons_of_mem _ hy))
    cases hunrecorded.symm.trans (recorded_iff.mpr ⟨_, hmem, hisRecord⟩)
  · obtain ⟨m₁, m₂, rfl⟩ := List.append_of_mem hy
    have hb : h = b ++ (some i, l) :: (m₁ ++ (some j, ⟨op, answer⟩) :: m₂ ++ (some i, e) :: d) := by
      rw [hd, List.append_assoc, List.cons_append]
    have hpos : h = (b ++ (some i, l) :: m₁) ++ (some j, ⟨op, answer⟩) :: (m₂ ++ (some i, e) :: d) := by
      rw [hb]
      simp only [List.append_assoc, List.cons_append]
    have hfound : (courseOf (proj (some j) (b ++ (some i, l) :: m₁))).found = some none := by
      have hallow := operates_allow H hop hpos
      cases op with
      | record s o a q => exact hallow.2.2.2.1
      | _ => cases hisRecord
    rcases exclusive H hserial hji hop hkey hl hb hpos hfound with ⟨m', hm'⟩ | ⟨c, c', hc, hdone⟩
    · have hlen := congrArg List.length hm'
      simp only [List.length_append, List.length_cons] at hlen
      omega
    · -- `i` had returned, but its record is still to come
      have hrest := hdone.rest H (hpos.trans (by rw [hc, List.append_assoc]))
      have hmem : e ∈ proj (some i) (((some j, ⟨.lookup store operationId, (.ok none : PyM (Option Prior))⟩)
          :: c') ++ (some j, ⟨op, answer⟩) :: (m₂ ++ (some i, e) :: d)) := by
        rw [mem_proj]
        refine List.mem_append_right _ (List.mem_cons_of_mem _ (List.mem_append_right _ List.mem_cons_self))
      rw [hrest] at hmem
      cases hmem

/-- **The record.**  When a call whose handler returned has returned itself, the store has its result. -/
theorem prior_of_finished (H : History P calls w h w') (hcompletes : Completes P calls h store key)
    (hserial : Serial P calls h store key) {i : ι} {operationId : Json}
    (hop : (calls i).executor.operation (calls i).request = some (store, operationId))
    (hkey : operationId.toKey = .ok key) {credential : BrokeredCredential} {payload : Json}
    (hseen : (seen (proj (some i) h)).handler = some (some credential, .ok payload))
    {c c' : List (Option ι × KernelEvent)} (hc : h = c ++ c') (hf : HasReturned P calls i c) {v : World}
    (hv : Follows (World.step P) w (c.map Prod.snd) v) :
    v.prior store key = some ⟨(calls i).request.pccb.actionHash.value, payload⟩ := by
  obtain ⟨r, hr⟩ := hf
  have hall : proj (some i) h = proj (some i) c := by
    rw [hc, proj_append, HasReturned.rest ⟨r, hr⟩ H hc, List.append_nil]
  have hi : (calls i).Operates store key := ⟨operationId, hop, hkey⟩
  obtain ⟨hfailed, hbuilds⟩ := hcompletes i hi credential payload hseen
  rw [hall, ← seen_courseOf] at hseen hfailed
  have hrecorded := ((operates_allowed H hop).2 c r hr).1 credential payload hseen hfailed hbuilds
  -- the record of the call, and its lookup before it
  obtain ⟨⟨op, answer⟩, he, hisRecord⟩ := recorded_iff.mp hrecorded
  obtain ⟨t₁, t₂, ht⟩ := List.append_of_mem he
  obtain ⟨d, d', rfl, hd₁, -⟩ := proj_eq_append_cons ht
  have hd : h = d ++ (some i, ⟨op, answer⟩) :: (d' ++ c') := by
    rw [hc, List.append_assoc, List.cons_append]
  cases op with
  | record s o a q =>
    obtain ⟨rfl, rfl, rfl, hfound, hunrecorded, credential', hreturned⟩ := operates_allow H hop hd
    have hpayload : q = payload := by
      rw [proj_append, handler_courseOf_append hreturned] at hseen
      cases hseen
      rfl
    subst hpayload
    obtain ⟨b, m, rfl⟩ := own_lookup H hop hd hfound
    have hlookup : Misses s key ⟨.lookup s o, (.ok none : PyM (Option Prior))⟩ := ⟨o, hkey, rfl⟩
    rw [List.map_append, List.map_append, follows_append] at hv
    obtain ⟨v₃, hv₃, v₄, hstep, hlast⟩ := hv
    rw [follows_append] at hv₃
    obtain ⟨v₁, -, v₂, hfirst, hmiddle⟩ := hv₃
    have hnone : v₁.prior s key = none := by
      have hanswer := step_lookup hfirst hkey
      exact (Except.ok.inj hanswer).symm
    have hnone₂ : v₂.prior s key = none := (step_prior_other hfirst rfl).trans hnone
    have hnone₃ := follows_prior_none hmiddle hnone₂ (no_record_between H hserial hlookup hd hunrecorded)
    exact follows_prior_some hlast (step_record hstep hnone₃ hkey)
  | _ => cases hisRecord

/-- after a call whose handler returned has returned, no lookup of its operation finds nothing -/
theorem no_miss_of_finished (H : History P calls w h w') (hcompletes : Completes P calls h store key)
    (hserial : Serial P calls h store key) {i : ι} {operationId : Json}
    (hop : (calls i).executor.operation (calls i).request = some (store, operationId))
    (hkey : operationId.toKey = .ok key) {credential : BrokeredCredential} {payload : Json}
    (hseen : (seen (proj (some i) h)).handler = some (some credential, .ok payload))
    {c c' : List (Option ι × KernelEvent)} {tag : Option ι} {o : Json} (ho : o.toKey = .ok key)
    (hc : h = c ++ (tag, ⟨.lookup store o, (.ok none : PyM (Option Prior))⟩) :: c')
    (hf : HasReturned P calls i c) : False := by
  have hv := H.follows
  rw [hc, List.map_append, follows_append] at hv
  obtain ⟨v, hv, v', hstep, -⟩ := hv
  have hprior := prior_of_finished H hcompletes hserial hop hkey hseen hc hf hv
  have hanswer := Except.ok.inj (step_lookup hstep ho)
  cases hanswer.trans hprior

/-- what a record of a call writes -/
theorem record_of_seen (H : History P calls w h w') {i : ι} {operationId : Json}
    (hop : (calls i).executor.operation (calls i).request = some (store, operationId))
    {credential : BrokeredCredential} {payload : Json}
    (hseen : (seen (proj (some i) h)).handler = some (some credential, .ok payload))
    {d d' : List (Option ι × KernelEvent)} {s : Nat} {o : Json} {hash : String} {result : Json} {answer : PyM Unit}
    (hd : h = d ++ (some i, ⟨.record s o hash result, answer⟩) :: d') :
    hash = (calls i).request.pccb.actionHash.value ∧ result = payload := by
  obtain ⟨-, -, rfl, -, -, credential', hreturned⟩ := operates_allow H hop hd
  rw [← seen_courseOf, hd, proj_append, handler_courseOf_append hreturned] at hseen
  cases hseen
  exact ⟨rfl, rfl⟩

/-- **Who recorded it.**  What is recorded after a call did not find its operation is its own result. -/
theorem prior_of_miss (H : History P calls w h w') (hcompletes : Completes P calls h store key)
    (hserial : Serial P calls h store key) {i : ι} {operationId : Json}
    (hop : (calls i).executor.operation (calls i).request = some (store, operationId))
    (hkey : operationId.toKey = .ok key) {credential : BrokeredCredential} {payload : Json}
    (hseen : (seen (proj (some i) h)).handler = some (some credential, .ok payload))
    {b m c' : List (Option ι × KernelEvent)}
    (hc : h = (b ++ (some i, ⟨.lookup store operationId, (.ok none : PyM (Option Prior))⟩) :: m) ++ c') {v : World}
    (hv : Follows (World.step P) w
      ((b ++ (some i, ⟨.lookup store operationId, (.ok none : PyM (Option Prior))⟩) :: m).map Prod.snd) v)
    {prior : Prior} (hprior : v.prior store key = some prior) :
    prior = ⟨(calls i).request.pccb.actionHash.value, payload⟩ := by
  have hlookup : Misses store key ⟨.lookup store operationId, (.ok none : PyM (Option Prior))⟩ :=
    ⟨operationId, hkey, rfl⟩
  rw [List.map_append, follows_append] at hv
  obtain ⟨v₁, -, v₂, hfirst, hlast⟩ := hv
  have hnone : v₂.prior store key = none :=
    (step_prior_other hfirst rfl).trans (Except.ok.inj (step_lookup hfirst hkey)).symm
  cases hrecord : m.find? (fun x => recordOf store key x.2.1) with
  | none =>
    -- nobody has recorded it
    have hunrecorded := follows_prior_none hlast hnone (by
      intro e he
      obtain ⟨x, hx, rfl⟩ := List.mem_map.mp he
      exact Bool.not_eq_true _ ▸ List.find?_eq_none.mp hrecord x hx)
    cases hunrecorded.symm.trans hprior
  | some x =>
    -- the first record is the call's own
    obtain ⟨hx, m₁, m₂, rfl, hfree⟩ := List.find?_eq_some_iff_append.mp hrecord
    have hd : h = (b ++ (some i, ⟨.lookup store operationId, (.ok none : PyM (Option Prior))⟩) :: m₁) ++
        x :: (m₂ ++ c') := by
      simp only [hc, List.append_assoc, List.cons_append]
    obtain ⟨k, ok, htag, hopk, hkeyk⟩ := operates_of_record H
      (hd ▸ List.mem_append_right _ List.mem_cons_self) hx
    obtain ⟨tag, op, answer⟩ := x
    cases htag
    cases op with
    | record s o hash result =>
      rw [recordOf, Bool.and_eq_true, decide_eq_true_iff, underKey_iff] at hx
      obtain ⟨rfl, ho⟩ := hx
      obtain rfl : k = i := by
        by_contra hki
        obtain ⟨-, -, -, hfound, -⟩ := operates_allow H hopk hd
        have hb := hd
        rw [List.append_assoc, List.cons_append] at hb
        rcases exclusive H hserial hki hopk hkeyk hlookup hb hd hfound with ⟨m', hm'⟩ | ⟨c₀, c₁, hc₀, hdone⟩
        · have hlen := congrArg List.length hm'
          simp only [List.length_append, List.length_cons] at hlen
          omega
        · rw [hc₀, List.append_assoc] at hd
          exact no_miss_of_finished H hcompletes hserial hop hkey hseen hkeyk hd hdone
      obtain ⟨rfl, rfl⟩ := record_of_seen H hop hseen hd
      rw [List.map_append, follows_append] at hlast
      obtain ⟨v₃, hmiddle, v₄, hstep, hrest⟩ := hlast
      have hnone₃ : v₃.prior s key = none := by
        refine follows_prior_none hmiddle hnone ?_
        intro e he
        obtain ⟨y, hy, rfl⟩ := List.mem_map.mp he
        simpa using hfree y hy
      exact Option.some.inj (hprior.symm.trans (follows_prior_some hrest (step_record hstep hnone₃ ho)))
    | _ => cases hx

/-- the handler of a call is the one that is seen -/
theorem seen_of_handler (H : History P calls w h w') {i : ι} {operationId : Json}
    (hop : (calls i).executor.operation (calls i).request = some (store, operationId))
    {before after : List (Option ι × KernelEvent)} {q : ProtectedExecutionRequest}
    {c : Option BrokeredCredential} {answer : PyM Json}
    (hh : h = before ++ (some i, ⟨.handler q c, answer⟩) :: after) :
    (courseOf (proj (some i) before)).found = some none ∧
      ∃ credential, (seen (proj (some i) h)).handler = some (some credential, answer) := by
  obtain ⟨hfound, hnone, hsome⟩ := operates_allow H hop hh
  obtain ⟨credential, rfl⟩ := Option.isSome_iff_exists.mp hsome
  refine ⟨hfound, credential, ?_⟩
  have hfirst : (courseOf (proj (some i) before ++ [⟨.handler q (some credential), answer⟩])).seen.handler
      = some (some credential, answer) := by
    unfold courseOf
    rw [List.foldl_append]
    show (Seen.next (courseOf (proj (some i) before)).seen _).handler = _
    unfold Seen.next
    rw [hnone]
  rw [← seen_courseOf, hh, proj_append, proj_cons_self, List.append_cons]
  exact handler_courseOf_append hfirst

/-- a call that found its operation recorded -/
theorem fromPrior_of_found (H : History P calls w h w') {j : ι} {operationId : Json}
    (hop : (calls j).executor.operation (calls j).request = some (store, operationId))
    {d d' : List (Option ι × KernelEvent)} {prior : Prior}
    (hd : h = d ++ (some j, ⟨.lookup store operationId, (.ok (some prior) : PyM (Option Prior))⟩) :: d')
    (hunfound : (courseOf (proj (some j) d)).found = none) {r : Except Raised ExecutionResult} {v : Locals}
    (hr : Reaches ((calls j).program P) (proj (some j) h) (.ret (r, v))) :
    FromPrior P (calls j).request operationId prior ((proj (some j) d').all wentThrough) r := by
  obtain ⟨hallowed, hend⟩ := operates_allowed H hop
  have hoperated := hend h (r, v) hr
  rw [hd, proj_append, proj_cons_self] at hallowed hoperated
  have hrest := (Monitor.allowed_append.mp hallowed).2.2
  rw [run_operationMonitor] at hrest
  obtain ⟨g, hg⟩ : ∃ g, g = OperationCourse.next (courseOf (proj (some j) d))
    ⟨.lookup store operationId, (.ok (some prior) : PyM (Option Prior))⟩ := ⟨_, rfl⟩
  have hcourse : ∀ t, courseOf (proj (some j) d ++
      ⟨.lookup store operationId, (.ok (some prior) : PyM (Option Prior))⟩ :: t)
        = t.foldl OperationCourse.next g := by
    intro t
    unfold courseOf
    rw [List.foldl_append, List.foldl_cons, hg]
    rfl
  have hfound : g.found = some (some prior) := by rw [hg]; rfl
  have hsmooth : g.smooth = true := by
    rw [hg]
    show ((courseOf (proj (some j) d)).smooth && ((courseOf (proj (some j) d)).found.isNone || _)) = true
    rw [smooth_of_unfound hunfound, hunfound]
    rfl
  have hallowed' : (operationMonitor (calls j).request store operationId).Allowed g (proj (some j) d') := by
    rw [hg]
    exact hrest
  rw [hcourse] at hoperated
  have hprior := hoperated.2 prior (found_of_allowed hallowed' hfound)
  rw [smooth_foldl (by rw [hfound]; rfl), hsmooth, Bool.true_and] at hprior
  exact hprior

/-- **Operation-level at-most-once.**  In a history that `Completes` and is `Serial` in an operation:
once the handler of one call has returned, no other call of the operation calls the handler; it
finds the recorded result, and returns it or is refused. -/
theorem operation_at_most_once (H : History P calls w h w') (hcompletes : Completes P calls h store key)
    (hserial : Serial P calls h store key) {i j : ι} (hij : j ≠ i) (hi : (calls i).Operates store key)
    (hj : (calls j).Operates store key) {before after : List (Option ι × KernelEvent)}
    {q : ProtectedExecutionRequest} {c : Option BrokeredCredential} {payload : Json}
    (hh : h = before ++ (some i, ⟨.handler q c, (.ok payload : PyM Json)⟩) :: after) :
    (∀ e ∈ proj (some j) after, NotHandler e.1) ∧
    ∀ mid operationId answer rest,
      after = mid ++ (some j, ⟨.lookup store operationId, answer⟩) :: rest →
      answer = .ok (some ⟨(calls i).request.pccb.actionHash.value, payload⟩) ∧
      ∀ r v, Reaches ((calls j).program P) (proj (some j) h) (.ret (r, v)) →
        FromPrior P (calls j).request operationId ⟨(calls i).request.pccb.actionHash.value, payload⟩
          ((proj (some j) rest).all wentThrough) r := by
  obtain ⟨oi, hopi, hkeyi⟩ := hi
  obtain ⟨oj, hopj, hkeyj⟩ := hj
  obtain ⟨hfound, credential, hseen⟩ := seen_of_handler H hopi hh
  obtain ⟨b, m, rfl⟩ := own_lookup H hopi hh hfound
  have hlookup : Misses store key ⟨.lookup store oi, (.ok none : PyM (Option Prior))⟩ := ⟨oi, hkeyi, rfl⟩
  constructor
  · intro e he
    obtain ⟨t₁, t₂, ht⟩ := List.append_of_mem he
    obtain ⟨a, a', rfl, -, -⟩ := proj_eq_append_cons ht
    obtain ⟨op, answer⟩ := e
    cases op with
    | handler q' c' =>
      exfalso
      rw [← List.cons_append, ← List.append_assoc] at hh
      obtain ⟨hfoundj, -, -⟩ := operates_allow H hopj hh
      have hb := hh
      rw [List.append_assoc, List.append_assoc, List.cons_append] at hb
      rcases exclusive H hserial hij hopj hkeyj hlookup hb hh hfoundj with
        ⟨m', hm'⟩ | ⟨c₀, c₁, hc, hdone⟩
      · have hlen := congrArg List.length hm'
        simp only [List.length_append, List.length_cons] at hlen
        omega
      · -- `i` had returned when `j` looked up, so the result was there
        rw [hc, List.append_assoc] at hh
        exact no_miss_of_finished H hcompletes hserial hopi hkeyi hseen hkeyj hh hdone
    | _ => trivial
  · rintro mid o answer rest rfl
    rw [← List.cons_append, ← List.append_assoc] at hh
    obtain ⟨-, rfl, hunfound⟩ := operates_allow H hopj hh
    have hf := H.follows
    rw [hh, List.map_append, follows_append] at hf
    obtain ⟨v, hv, v', hstep, -⟩ := hf
    have hprior : v.prior store key = some ⟨(calls i).request.pccb.actionHash.value, payload⟩ := by
      cases hfound : v.prior store key with
      | none =>
        -- a lookup that finds nothing is one that `i` has returned before
        have hmiss : Misses store key ⟨.lookup store o, answer⟩ := by
          rw [step_lookup hstep hkeyj, hfound]
          exact ⟨o, hkeyj, rfl⟩
        have hdone := hserial j _ _ _ hh hmiss i (Ne.symm hij)
          ⟨⟨.lookup store oi, (.ok none : PyM (Option Prior))⟩,
            mem_proj.mpr (List.mem_append_left _ (List.mem_append_right _ List.mem_cons_self)), hlookup⟩
        exact hfound.symm.trans (prior_of_finished H hcompletes hserial hopi hkeyi hseen hh hdone hv)
      | some prior =>
        rw [List.append_assoc b, List.cons_append] at hh hv
        exact congrArg some (prior_of_miss H hcompletes hserial hopi hkeyi hseen hh hv hfound)
    have hanswer : answer = .ok (some ⟨(calls i).request.pccb.actionHash.value, payload⟩) :=
      (step_lookup hstep hkeyj).trans (congrArg Except.ok hprior)
    refine ⟨hanswer, ?_⟩
    subst hanswer
    intro r u hr
    exact fromPrior_of_found H hopj hh hunfound hr

end

/-! ## calls one after the other -/

section
variable (P : Platform) (answers : (op : Op) → Res op) (c d : ExecuteCall) (w : World)

/-- nothing of the first call follows the second -/
theorem runBoth_pairwise :
    (runBoth P answers c d w).Pairwise fun x y => x.1 = some false → y.1 = some false := by
  unfold runBoth
  rw [List.pairwise_append]
  refine ⟨?_, ?_, ?_⟩
  · rw [List.pairwise_map]
    exact List.pairwise_of_forall fun _ _ hx => nomatch hx
  · rw [List.pairwise_map]
    exact List.pairwise_of_forall fun _ _ _ => rfl
  · intro x hx y hy
    obtain ⟨a, -, rfl⟩ := List.mem_map.mp hx
    exact fun h => nomatch h

/-- a history of one call after the other is serial -/
theorem serial_runBoth (store : Nat) (key : Key) :
    Serial P (fun first : Bool => if first then c else d) (runBoth P answers c d w) store key := by
  intro i before e after hh _ j hji
  rintro ⟨e', he', -⟩
  have hpairwise := runBoth_pairwise P answers c d w
  rw [hh, List.pairwise_append] at hpairwise
  obtain ⟨-, hlater, hcross⟩ := hpairwise
  cases i with
  | true =>
    obtain rfl : j = false := by simpa using hji
    have hfalse := hcross _ (mem_proj.mp he') _ List.mem_cons_self rfl
    cases hfalse
  | false =>
    obtain rfl : j = true := by simpa using hji
    refine ⟨(c.runAlone P answers w).1, ?_⟩
    have hafter : proj (some true) ((some false, e) :: after) = [] := by
      rw [List.eq_nil_iff_forall_not_mem]
      intro x hx
      rw [mem_proj, List.mem_cons] at hx
      rcases hx with hx | hx
      · cases hx
      · have hfalse := (List.pairwise_cons.mp hlater).1 _ hx rfl
        cases hfalse
    have hall : proj (some true) (runBoth P answers c d w) = (c.runAlone P answers w).2.2 := by
      rw [proj_runBoth, if_pos rfl, if_neg (by decide), List.append_nil]
    have hproj : proj (some true) before = (c.runAlone P answers w).2.2 := by
      rw [← hall, hh, proj_append, hafter, List.append_nil]
    rw [hproj]
    exact runAlone_reaches P answers c w

end

/-! ## the sample operation -/

/-- SHA-256 at the replay key input of the second proof too -/
def operationHash (m : List UInt8) : List UInt8 :=
  if m.length = 328 then
    (Hex.fromHex "964b9d53741493a80f56e820aa9b323c3b34956fbd83ddbcfd55fb705abda3f7".toList).getD []
  else sampleHash m

def operationPlatform : Platform := samplePlatform operationHash

/-- the sample intent as an operation, with one of two proofs -/
def operationCall (first : Bool) : ExecuteCall where
  executor := { sampleExecutor with idempotencyStore := some 0 }
  request :=
    { sampleRequest with
      intent := { sampleIntent with metadata := members [("operation_id", .str "op_1")] }
      pccb := if first then samplePccb else { samplePccb with nonce := "n12" } }

theorem operationCall_operates (first : Bool) : (operationCall first).Operates 0 (.str "op_1") :=
  ⟨.str "op_1", rfl, rfl⟩

/-- the broker cannot be reached when the credential is given back -/
def releaseFails : (op : Op) → Res op
  | .release _ _ => (.error (.other ⟨.other "TimeoutError", "broker"⟩) : PyM Unit)
  | op => sampleAnswers op

/-- the two calls, one after the other -/
def operationRun (answers : (op : Op) → Res op) : List (Option Bool × KernelEvent) :=
  runBoth operationPlatform answers (operationCall true) (operationCall false) emptyWorld

theorem operationRun_history (answers : (op : Op) → Res op) :
    ∃ w', History operationPlatform (fun first : Bool => if first then operationCall true else operationCall false)
      emptyWorld (operationRun answers) w' :=
  ⟨_, history_runBoth operationPlatform answers (operationCall true) (operationCall false) emptyWorld⟩

/-- the handler returned -/
def handlerReturned (e : KernelEvent) : Bool :=
  match e with
  | ⟨.handler _ _, answer⟩ =>
    match (show PyM Json from answer) with
    | .ok _ => true
    | .error _ => false
  | _ => false

theorem handlerReturned_iff {e : KernelEvent} (h : handlerReturned e = true) :
    ∃ q c payload, e = ⟨.handler q c, (.ok payload : PyM Json)⟩ := by
  obtain ⟨op, answer⟩ := e
  cases op with
  | handler q c =>
    change PyM Json at answer
    cases answer with
    | ok payload => exact ⟨q, c, payload, rfl⟩
    | error e => cases h
  | _ => cases h

/-- where the handler of the first call returned -/
theorem returned_position {h : List (Option Bool × KernelEvent)}
    (hr : (proj (some true) h).any handlerReturned = true) :
    ∃ before q c payload after, h = before ++ (some true, ⟨.handler q c, (.ok payload : PyM Json)⟩) :: after := by
  obtain ⟨e, he, hreturned⟩ := List.any_eq_true.mp hr
  obtain ⟨q, c, payload, rfl⟩ := handlerReturned_iff hreturned
  obtain ⟨before, after, hh⟩ := List.append_of_mem (mem_proj.mp he)
  exact ⟨before, q, c, payload, after, hh⟩

/-- the two runs of the sample operation -/
theorem operationRun_facts :
    (((proj (some true) (operationRun sampleAnswers)).any handlerReturned = true ∧
      (seen (proj (some true) (operationRun sampleAnswers))).failedAfter = false) ∧
      buildsReceipt operationPlatform (operationCall true).request
        (seen (proj (some true) (operationRun sampleAnswers))) = true ∧
      (seen (proj (some false) (operationRun sampleAnswers))).handler.isNone = true) ∧
    (proj (some true) (operationRun releaseFails)).any handlerReturned = true ∧
      (proj (some false) (operationRun releaseFails)).any (fun e => e.1.isHandler) = true := by
  decide +kernel

/-- the second call of the sample operation does not call the handler -/
theorem operation_at_most_once_sample :
    ∃ before q c payload after, operationRun sampleAnswers
        = before ++ (some true, ⟨.handler q c, (.ok payload : PyM Json)⟩) :: after ∧
      ∀ e ∈ proj (some false) after, NotHandler e.1 := by
  obtain ⟨⟨hreturned, hfailed⟩, hbuilds, hnone⟩ := operationRun_facts.1
  obtain ⟨before, q, c, payload, after, hh⟩ := returned_position hreturned
  obtain ⟨w', H⟩ := operationRun_history sampleAnswers
  have hcompletes : Completes operationPlatform
      (fun first : Bool => if first then operationCall true else operationCall false)
      (operationRun sampleAnswers) 0 (.str "op_1") := by
    intro first _ credential payload' hseen
    cases first with
    | true => exact ⟨hfailed, receiptBuilds_of_check hbuilds hseen⟩
    | false =>
      rw [hseen] at hnone
      cases hnone
  exact ⟨before, q, c, payload, after, hh, (operation_at_most_once H hcompletes
    (serial_runBoth operationPlatform sampleAnswers (operationCall true) (operationCall false) emptyWorld 0
      (.str "op_1"))
    (i := true) (j := false) (by decide) (operationCall_operates true) (operationCall_operates false) hh).1⟩

/-- the credential cannot be given back: nothing is recorded, and the second call runs the handler -/
theorem operation_repeated :
    (∃ w', History operationPlatform
      (fun first : Bool => if first then operationCall true else operationCall false) emptyWorld
      (operationRun releaseFails) w') ∧
    (∀ first, (operationCall first).Operates 0 (.str "op_1")) ∧
    ∃ before q c payload after, operationRun releaseFails
        = before ++ (some true, ⟨.handler q c, (.ok payload : PyM Json)⟩) :: after ∧
      ∃ e ∈ proj (some false) after, e.1.isHandler = true := by
  obtain ⟨hreturned, hagain⟩ := operationRun_facts.2
  obtain ⟨before, q, c, payload, after, hh⟩ := returned_position hreturned
  refine ⟨operationRun_history releaseFails, operationCall_operates, before, q, c, payload, after, hh, ?_⟩
  obtain ⟨e, he, hhandler⟩ := List.any_eq_true.mp hagain
  refine ⟨e, ?_, hhandler⟩
  have hpairwise := runBoth_pairwise operationPlatform releaseFails (operationCall true) (operationCall false)
    emptyWorld
  change (operationRun releaseFails).Pairwise _ at hpairwise
  rw [hh, List.pairwise_append] at hpairwise
  rw [hh, mem_proj, List.mem_append, List.mem_cons] at he
  rcases he with he | he | he
  · have hfalse := hpairwise.2.2 _ he _ List.mem_cons_self rfl
    cases hfalse
  · cases he
  · exact mem_proj.mpr he

end Actenon
