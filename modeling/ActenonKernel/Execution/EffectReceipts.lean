import ActenonKernel.Execution.SingleUse
import ActenonKernel.Execution.Trace

/-!
# What the receipts of an effect say

An executor with an effect protector writes into every receipt what became of the effect.  The
receipt is judged by the run: what the handler answered, and the evidence of the boundary in it.

* `boundaryEvidence`    the evidence in the handler's answer, where it is valid for this effect;
* `Faithful`            what a receipt may say;
* `Undone`              a committed effect whose receipt could not be finished;
* `effect_receipt_faithful_iff`    the receipt is faithful unless the run is `Undone`.
-/

set_option linter.unusedSectionVars false

namespace Actenon

open Program

/-! ## what a receipt says -/

/-- `extensions["effect"]` -/
def Receipt.effect (receipt : Receipt) : Dict :=
  match Dict.get receipt.extensions "effect" with
  | .obj d => d
  | _ => []

/-- the outcome that evidence states -/
def states (evidence : Dict) (outcome : String) : Bool := isStr (Dict.get evidence "outcome") outcome

/-- `execution_occurred is False` -/
def statesNoExecution (evidence : Dict) : Bool :=
  match Dict.get evidence "execution_occurred" with
  | .bool b => !b
  | _ => false

/-- `side_effects["state"]` -/
def Receipt.sideEffectState (receipt : Receipt) : Json := Dict.get receipt.sideEffects "state"

section
variable (P : Platform) (E : EffectProtector) (request : ProtectedExecutionRequest)

/-- the evidence in a payload, where it is valid for the effect of the request -/
def payloadEvidence (payload : Json) : Option Dict :=
  match E.ownReference P request, payloadGet payload "effect_evidence" with
  | .ok reference, .ok raw => validEvidence P reference raw
  | _, _ => none

/-- the evidence of the boundary in a run -/
def boundaryEvidence (s : Seen) : Option Dict :=
  match s.handler with
  | some (_, .ok payload) => payloadEvidence P E request payload
  | _ => none

/-- what a receipt may say after a run -/
structure Faithful (s : Seen) (receipt : Receipt) : Prop where
  notExecuted : (states receipt.effect "NOT_EXECUTED" = true ∨ statesNoExecution receipt.effect = true) →
    s.handler = none ∨ ∃ d, boundaryEvidence P E request s = some d ∧ states d "NOT_EXECUTED" = true
  committed : states receipt.effect "COMMITTED" = true →
    boundaryEvidence P E request s = some receipt.effect
  executed : states receipt.effect "COMMITTED" = true →
    receipt.outcome = .executed ∧ isStr receipt.sideEffectState "none" = false
  ambiguous : states receipt.effect "AMBIGUOUS" = true → isStr receipt.sideEffectState "unknown" = true

/-- the boundary has committed the effect, and then an operation failed or the receipt cannot be
built -/
def Undone (s : Seen) : Prop :=
  ∃ credential payload d, s.handler = some (some credential, .ok payload) ∧
    boundaryEvidence P E request s = some d ∧ states d "COMMITTED" = true ∧
    (s.failedAfter = true ∨ ¬ ReceiptBuilds P request credential payload)

/-- the monitor of a call: every receipt that is written is faithful unless the run is `Undone` -/
def effectMonitor : Monitor Res Seen where
  allow g
    | .writeReceipt receipt => Faithful P E request g receipt ↔ ¬ Undone P E request g
    | _ => True
  possible _ _ _ := True
  next g op r := g.next ⟨op, r⟩

/-- the result of a call -/
def Judged (r : Except Raised ExecutionResult) (g : Seen) : Prop :=
  ∀ result, r = .ok result → (Faithful P E request g result.receipt ↔ ¬ Undone P E request g)

end

/-- `validate_effect_outcome` accepts only triples whose outcome agrees with `execution_occurred` -/
def ConsistentOutcomes (P : Platform) : Prop :=
  ∀ outcome occurred hash, P.validateEffectOutcome outcome occurred hash = true →
    (isStr outcome "COMMITTED" = true ∧ occurred = .bool true) ∨
    (isStr outcome "NOT_EXECUTED" = true ∧ occurred = .bool false) ∨
    (isStr outcome "AMBIGUOUS" = true ∧ occurred = .null)

section
variable {P : Platform} {E : EffectProtector} {request : ProtectedExecutionRequest}

/-! ## evidence -/

theorem isStr_iff {j : Json} {s : String} : isStr j s = true ↔ j = .str s := by
  unfold isStr
  split
  · simp
  · rename_i h
    constructor
    · intro hf
      cases hf
    · intro hj
      exact absurd hj (h s)

/-- an outcome is one text -/
theorem states_unique {d : Dict} {a b : String} (ha : states d a = true) (hb : states d b = true) :
    a = b := by
  have h := (isStr_iff.mp ha).symm.trans (isStr_iff.mp hb)
  exact Json.str.inj h

/-- evidence without an execution says so -/
theorem states_of_noExecution (hconsistent : ConsistentOutcomes P) {reference : EffectReference}
    {raw : Json} {d : Dict} (h : validEvidence P reference raw = some d)
    (hno : statesNoExecution d = true) : states d "NOT_EXECUTED" = true := by
  unfold validEvidence at h
  split at h
  · split at h
    · rename_i hv
      cases h
      rw [Bool.and_eq_true] at hv
      rcases hconsistent _ _ _ hv.2 with ⟨_, ho⟩ | ⟨hs, _⟩ | ⟨_, ho⟩
      · rw [statesNoExecution, ho] at hno
        cases hno
      · exact hs
      · rw [statesNoExecution, ho] at hno
        cases hno
    · cases h
  · cases h

theorem payloadEvidence_valid {payload : Json} {d : Dict}
    (h : payloadEvidence P E request payload = some d) :
    ∃ reference raw, E.ownReference P request = .ok reference ∧ validEvidence P reference raw = some d := by
  unfold payloadEvidence at h
  split at h
  · rename_i reference raw hr _
    exact ⟨reference, raw, hr, h⟩
  · cases h

theorem boundaryEvidence_valid {s : Seen} {d : Dict} (h : boundaryEvidence P E request s = some d) :
    ∃ reference raw, E.ownReference P request = .ok reference ∧ validEvidence P reference raw = some d := by
  unfold boundaryEvidence at h
  split at h
  · exact payloadEvidence_valid h
  · cases h

/-! ## the receipts -/

theorem effect_of_extensions {receipt : Receipt} {d : Dict}
    (h : Dict.get receipt.extensions "effect" = .obj d) : receipt.effect = d := by
  unfold Receipt.effect
  rw [h]

theorem effect_of_extensions_nil {receipt : Receipt} (h : receipt.extensions = []) :
    receipt.effect = [] := by
  unfold Receipt.effect
  rw [h]
  rfl

/-- a receipt without the extension says nothing -/
theorem faithful_of_silent {s : Seen} {receipt : Receipt} (h : receipt.effect = []) :
    Faithful P E request s receipt := by
  have hs : ∀ outcome, states receipt.effect outcome = false := by
    intro outcome
    rw [h]
    rfl
  have hn : statesNoExecution receipt.effect = false := by
    rw [h]
    rfl
  refine ⟨?_, ?_, ?_, ?_⟩
  · intro hor
    rw [hs, hn] at hor
    simp at hor
  · intro hc
    cases (hs _).symm.trans hc
  · intro hc
    cases (hs _).symm.trans hc
  · intro ha
    cases (hs _).symm.trans ha

theorem executionReceipt_ok {payload : Json} {make : String → Receipt}
    (h : executionReceipt P request payload = .ok make) (receiptId : String) :
    (make receiptId).outcome = .executed ∧ (make receiptId).extensions = [] ∧
      isStr (make receiptId).sideEffectState "completed" = true := by
  unfold executionReceipt at h
  obtain ⟨sideEffects, hs, h⟩ := Fallible.bind_eq_ok.mp h
  obtain ⟨⟨summary, details⟩, _, h⟩ := Fallible.bind_eq_ok.mp h
  rw [← Fallible.pure_eq_ok.mp h]
  refine ⟨rfl, rfl, ?_⟩
  unfold executionSideEffects at hs
  obtain ⟨a, _, hs⟩ := Fallible.bind_eq_ok.mp hs
  obtain ⟨b, _, hs⟩ := Fallible.bind_eq_ok.mp hs
  obtain ⟨c, _, hs⟩ := Fallible.bind_eq_ok.mp hs
  obtain ⟨d, _, hs⟩ := Fallible.bind_eq_ok.mp hs
  rw [isStr_iff]
  show Dict.get sideEffects "state" = _
  rw [← Fallible.pure_eq_ok.mp hs]
  unfold Dict.get
  rw [Dict.find_append, Dict.find_append, Dict.find_append, Dict.find_append, find_members_cons,
    if_pos rfl]
  rfl

/-- what the executor itself says about the effect -/
theorem refusedEvidence_none {reference : EffectReference} {started : Bool} {codes : List String} {d : Dict}
    (h : refusedEvidence P reference started none codes = .ok d) :
    Dict.get d "outcome" = .str (if started then "AMBIGUOUS" else "NOT_EXECUTED") ∧
      Dict.get d "execution_occurred" = if started then .null else .bool false := by
  unfold refusedEvidence at h
  obtain ⟨hash, _, h⟩ := Fallible.bind_eq_ok.mp h
  rw [← Fallible.pure_eq_ok.mp h]
  unfold Dict.get EffectReference.toDict
  rw [Dict.find_append, Dict.find_append]
  simp only [find_members_cons, find_members_nil, String.reduceEq, if_true, if_false, Option.none_or,
    Option.getD_some, and_self]

/-! ## refused receipts -/

/-- where an exception is caught: the variables say what the run shows -/
structure Aborted (P : Platform) (E : EffectProtector) (request : ProtectedExecutionRequest)
    (v : Locals) (g : Seen) : Prop where
  started : v.handlerStarted = g.handler.isSome
  unclaimed : v.effectReference = none → g.handler = none
  evidence : boundaryEvidence P E request g = v.effectEvidence
  undone : ∀ d, v.effectEvidence = some d → states d "COMMITTED" = true → Undone P E request g

/-- the evidence in a refused receipt -/
theorem effectRefusalReceipt_ok {created receipt : Receipt} {reference : EffectReference}
    {started : Bool} {evidence : Option Dict} (hext : created.extensions = [])
    (h : effectRefusalReceipt P created reference started evidence = .ok receipt) :
    ∃ shown, refusedEvidence P reference started evidence created.reasonCodes = .ok shown ∧
      receipt.effect = shown ∧ receipt.outcome = created.outcome ∧
      receipt.sideEffectState = .str (if states shown "AMBIGUOUS" then "unknown" else "none") := by
  unfold effectRefusalReceipt at h
  obtain ⟨shown, hs, h⟩ := Fallible.bind_eq_ok.mp h
  rw [← Fallible.pure_eq_ok.mp h]
  refine ⟨shown, hs, effect_of_extensions ?_, rfl, ?_⟩
  · rw [hext]
    rfl
  · unfold Receipt.sideEffectState Dict.get
    rw [find_members_cons, if_pos rfl]
    rfl

/-- the receipt after the evidence of the boundary -/
theorem faithful_of_evidence (hconsistent : ConsistentOutcomes P) {g : Seen} {receipt : Receipt}
    {d : Dict} (hd : boundaryEvidence P E request g = some d) (heffect : receipt.effect = d)
    (hcommitted : states d "COMMITTED" = true →
      receipt.outcome = .executed ∧ isStr receipt.sideEffectState "none" = false)
    (hambiguous : states d "AMBIGUOUS" = true → isStr receipt.sideEffectState "unknown" = true) :
    Faithful P E request g receipt := by
  obtain ⟨reference, raw, -, hvalid⟩ := boundaryEvidence_valid hd
  subst heffect
  refine ⟨?_, fun _ => hd, hcommitted, hambiguous⟩
  rintro (hn | hn)
  · exact Or.inr ⟨_, hd, hn⟩
  · exact Or.inr ⟨_, hd, states_of_noExecution hconsistent hvalid hn⟩

/-- the receipt after the executor's own evidence -/
theorem faithful_of_own {g : Seen} {receipt : Receipt}
    (houtcome : Dict.get receipt.effect "outcome"
      = .str (if g.handler.isSome then "AMBIGUOUS" else "NOT_EXECUTED"))
    (hoccurred : Dict.get receipt.effect "execution_occurred"
      = if g.handler.isSome then .null else .bool false)
    (hambiguous : states receipt.effect "AMBIGUOUS" = true →
      isStr receipt.sideEffectState "unknown" = true) : Faithful P E request g receipt := by
  have hcommitted : states receipt.effect "COMMITTED" = false := by
    unfold states
    rw [houtcome]
    cases g.handler.isSome with
    | true => rfl
    | false => rfl
  refine ⟨?_, ?_, ?_, hambiguous⟩
  · intro hn
    left
    cases hg : g.handler with
    | none => rfl
    | some x =>
      rw [hg, Option.isSome_some, if_pos rfl] at houtcome hoccurred
      unfold states statesNoExecution at hn
      rw [houtcome, hoccurred] at hn
      exact absurd hn (by decide)
  · intro hc
    cases hcommitted.symm.trans hc
  · intro hc
    cases hcommitted.symm.trans hc

theorem not_undone_of_none {g : Seen} (h : boundaryEvidence P E request g = none) :
    ¬ Undone P E request g := by
  rintro ⟨_, _, d, _, hd, _⟩
  cases h.symm.trans hd

theorem not_undone_of_some {g : Seen} {d : Dict} (h : boundaryEvidence P E request g = some d)
    (hc : states d "COMMITTED" = false) : ¬ Undone P E request g := by
  rintro ⟨_, _, d', _, hd, hc', _⟩
  cases h.symm.trans hd
  cases hc.symm.trans hc'

theorem refused_faithful_iff (hconsistent : ConsistentOutcomes P) {v : Locals} {g : Seen}
    (hv : Aborted P E request v g) {refusal : Refusal} {make : String → Receipt}
    (hmake : refusedReceipt P request refusal = .ok make) {receiptId : String} {receipt : Receipt}
    (hr : v.refusedReceipt P (make receiptId) = .ok receipt) :
    Faithful P E request g receipt ↔ ¬ Undone P E request g := by
  obtain ⟨houtcome, hext⟩ := refusedReceipt_ok hmake receiptId
  unfold Locals.refusedReceipt at hr
  split at hr
  · rename_i hnone
    cases hr
    refine iff_of_true (faithful_of_silent (effect_of_extensions_nil hext)) ?_
    rintro ⟨_, _, _, hh, _⟩
    cases (hv.unclaimed hnone).symm.trans hh
  · obtain ⟨shown, hshown, heffect, hout, hstate⟩ := effectRefusalReceipt_ok hext hr
    have hambiguous : states shown "AMBIGUOUS" = true →
        isStr receipt.sideEffectState "unknown" = true := by
      intro ha
      rw [hstate, ha]
      rfl
    cases hev : v.effectEvidence with
    | some d =>
      rw [hev] at hshown
      obtain rfl : d = shown := Except.ok.inj hshown
      have hd := hv.evidence.trans hev
      cases hc : states d "COMMITTED" with
      | true =>
        refine iff_of_false ?_ (not_not.mpr (hv.undone d hev hc))
        intro hf
        have hexec := (hf.executed (heffect ▸ hc)).1
        rw [hout, houtcome] at hexec
        cases hexec
      | false =>
        refine iff_of_true (faithful_of_evidence hconsistent hd heffect ?_ hambiguous)
          (not_undone_of_some hd hc)
        intro hc'
        cases hc.symm.trans hc'
    | none =>
      rw [hev] at hshown
      obtain ⟨ho, hx⟩ := refusedEvidence_none hshown
      rw [← heffect, hv.started] at ho hx
      refine iff_of_true (faithful_of_own ho hx ?_) (not_undone_of_none (hv.evidence.trans hev))
      rw [heffect]
      exact hambiguous

/-! ## the `except` clauses -/

/-- neither the handler nor a receipt -/
def Quiet : Op → Prop
  | .handler _ _ => False
  | .writeReceipt _ => False
  | _ => True

theorem Quiet.notHandler {op : Op} (h : Quiet op) : NotHandler op := by
  cases op with
  | handler r c => cases h
  | _ => trivial

theorem Quiet.allow {op : Op} (h : Quiet op) (g : Seen) : (effectMonitor P E request).allow g op := by
  cases op with
  | writeReceipt r => cases h
  | _ => trivial

theorem boundaryEvidence_next {op : Op} (hop : NotHandler op) (g : Seen) (r : Res op) :
    boundaryEvidence P E request (g.next ⟨op, r⟩) = boundaryEvidence P E request g := by
  unfold boundaryEvidence
  rw [handler_next_notHandler hop]

theorem Undone.next {op : Op} (hop : NotHandler op) {g : Seen} (r : Res op)
    (h : Undone P E request g) : Undone P E request (g.next ⟨op, r⟩) := by
  obtain ⟨credential, payload, d, hh, hd, hc, hlate⟩ := h
  refine ⟨credential, payload, d, ?_, ?_, hc, ?_⟩
  · rw [handler_next_notHandler hop, hh]
  · rw [boundaryEvidence_next hop, hd]
  · exact hlate.imp_left fun hf => failedAfter_next hf _

theorem Aborted.next {v : Locals} {g : Seen} (h : Aborted P E request v g) (op : Op)
    (hop : NotHandler op) (r : Res op) : Aborted P E request v (g.next ⟨op, r⟩) where
  started := by rw [handler_next_notHandler hop, h.started]
  unclaimed := by
    rw [handler_next_notHandler hop]
    exact h.unclaimed
  evidence := by rw [boundaryEvidence_next hop, h.evidence]
  undone d hd hc := (h.undone d hd hc).next hop r

/-- the variables that tell of the effect are the same -/
def SameEffect (v v' : Locals) : Prop :=
  v'.handlerStarted = v.handlerStarted ∧ v'.effectReference = v.effectReference ∧
    v'.effectEvidence = v.effectEvidence

theorem Aborted.congr {v v' : Locals} {g : Seen} (h : Aborted P E request v g) (hv : SameEffect v v') :
    Aborted P E request v' g := by
  obtain ⟨h1, h2, h3⟩ := hv
  exact ⟨h1.trans h.started, h2 ▸ h.unclaimed, h3 ▸ h.evidence, h3 ▸ h.undone⟩

theorem wp_cleanup {α : Type} {m : Run α} {v : Locals} (hm : Frame Quiet (SameEffect v) m) {g : Seen}
    (h : Aborted P E request v g) :
    wp (effectMonitor P E request) (m v) (fun r g' => Aborted P E request r.2 g') g := by
  refine wp_mono (wp_frame (K := Aborted P E request v) hm ?_ ⟨rfl, rfl, rfl⟩ h) ?_
  · intro g op hg hop
    exact ⟨hop.allow g, fun r _ => hg.next op hop.notHandler r⟩
  · rintro r g' ⟨hs, hg⟩
    exact hg.congr hs

/-- a receipt that is judged right is written and returned -/
theorem wp_writeJudged {g : Seen} (result : ExecutionResult)
    (h : Faithful P E request g result.receipt ↔ ¬ Undone P E request g) (v : Locals) :
    wp (effectMonitor P E request) ((writeReceipt result.receipt >>= fun _ => pure result) v)
      (fun r g' => Judged P E request r.1 g') g := by
  refine wp_perform h ?_ fun e _ result' hr => nomatch hr
  intro _ _ result' hr
  cases hr
  have hkept : ∀ g', g' = g → (Faithful P E request g' result.receipt ↔ ¬ Undone P E request g') := by
    rintro g' rfl
    exact h
  exact hkept _ (next_ok_notHandler (.writeReceipt result.receipt) trivial ())

theorem wp_emitRefusal (hconsistent : ConsistentOutcomes P) (exc : RefusalException) {v : Locals}
    {g : Seen} (h : Aborted P E request v g) :
    wp (effectMonitor P E request) (emitRefusal P request exc v)
      (fun r g' => Judged P E request r.1 g') g := by
  refine wp_seq _ (wp_cleanup (frame_createRefusal trivial exc) h) ?_ fun e v' g' _ result hr => nomatch hr
  intro refusal v1 g1 h1
  refine wp_seq (fun r g' => Aborted P E request r.2 g' ∧ ∀ created, r.1 = .ok created →
    ∃ make receiptId, refusedReceipt P request refusal = .ok make ∧ created = make receiptId) ?_ ?_
    fun e v' g' _ result hr => nomatch hr
  · refine wp_lift ?_ fun e _ => ⟨h1, fun created hr => nomatch hr⟩
    intro make hmake
    refine wp_perform trivial ?_ fun e _ => ⟨h1.next .receiptId trivial _, fun created hr => nomatch hr⟩
    intro receiptId _
    refine ⟨h1.next .receiptId trivial _, ?_⟩
    intro created hr
    cases hr
    exact ⟨make, receiptId, orRaise_ok hmake, rfl⟩
  · rintro created v2 g2 ⟨h2, hcreated⟩
    obtain ⟨make, receiptId, hmake, rfl⟩ := hcreated created rfl
    refine wp_vars (wp_lift ?_ fun e _ result hr => nomatch hr)
    intro receipt hreceipt
    refine wp_perform trivial ?_ fun e _ result hr => nomatch hr
    intro _ _
    have hjudged := refused_faithful_iff hconsistent (h2.next (.writeRefusal refusal) trivial (.ok ()))
      hmake (orRaise_ok hreceipt)
    exact wp_writeJudged ⟨receipt, some refusal, .null⟩ hjudged v2

variable {X : ProtectedExecutor}

theorem wp_onRaise_effect (hconsistent : ConsistentOutcomes P) (e : Raised) {v : Locals} {g : Seen}
    (h : Aborted P E request v g) :
    wp (effectMonitor P E request) (X.onRaise P request e v)
      (fun r g' => Judged P E request r.1 g') g := by
  cases e with
  | refusal caught =>
    refine wp_vars (wp_seq _ (wp_cleanup (frame_releaseCredential (fun _ _ => trivial) _ _) h) ?_
      fun e v' g' _ result hr => nomatch hr)
    intro _ v1 g1 h1
    refine wp_seq _ (wp_cleanup (frame_releaseUnlessConsumed (fun _ _ => trivial) _) h1) ?_
      fun e v' g' _ result hr => nomatch hr
    intro _ v2 g2 h2
    exact wp_emitRefusal hconsistent _ h2
  | other e =>
    refine wp_vars (wp_seq _ (wp_cleanup (frame_releaseCredential (fun _ _ => trivial) _ _) h) ?_
      fun e v' g' _ result hr => nomatch hr)
    intro _ v1 g1 h1
    refine wp_seq _ (wp_cleanup (frame_consumeUnlessConsumed (fun _ _ => trivial) fun _ _ h => h) h1) ?_
      fun e v' g' _ result hr => nomatch hr
    intro _ v2 g2 h2
    exact wp_emitRefusal hconsistent _ h2

/-! ## the `try` block -/

/-- the `try` block returns a result that is judged right, or raises -/
def JudgedAttempt (P : Platform) (E : EffectProtector) (request : ProtectedExecutionRequest)
    (r : Except Raised ExecutionResult × Locals) (g : Seen) : Prop :=
  match r with
  | (.ok result, _) => Faithful P E request g result.receipt ↔ ¬ Undone P E request g
  | (.error _, v) => Aborted P E request v g

/-- before the handler -/
structure Unstarted (P : Platform) (E : EffectProtector) (request : ProtectedExecutionRequest)
    (v : Locals) : Prop where
  started : v.handlerStarted = false
  evidence : v.effectEvidence = none
  reference : ∀ reference, v.effectReference = some reference → E.ownReference P request = .ok reference

theorem Unstarted.aborted {v : Locals} (h : Unstarted P E request v) : Aborted P E request v {} where
  started := h.started
  unclaimed _ := rfl
  evidence := h.evidence.symm
  undone _ hd := nomatch h.evidence.symm.trans hd

/-- a phase before the handler -/
theorem wp_unstarted {α : Type} {m : Run α} {J : Locals → Prop} (hm : Frame Quiet J m) {v : Locals}
    (hv : J v) : wp (effectMonitor P E request) (m v) (fun r g' => J r.2 ∧ g' = {}) {} := by
  refine wp_frame (K := fun g : Seen => g = ({} : Seen)) hm ?_ hv rfl
  rintro g op rfl hop
  exact ⟨hop.allow _, fun r _ => next_notHandler (g := {}) hop.notHandler rfl r⟩

theorem wp_claimEffect (hE : X.effectProtector = some E) {v : Locals} (hv : Unstarted P E request v) :
    wp (effectMonitor P E request) (X.claimEffect P request v)
      (fun r g' => (Unstarted P E request r.2 ∧ ∀ u, r.1 = .ok u → r.2.effectReference.isSome) ∧ g' = {})
      {} := by
  unfold ProtectedExecutor.claimEffect
  rw [hE]
  refine wp_seq (fun r g' => (r.2 = v ∧ ∀ reference, r.1 = .ok reference →
    E.ownReference P request = .ok reference) ∧ g' = {}) ?_ ?_ ?_
  · refine wp_lift ?_ fun e _ => ⟨⟨rfl, fun _ hr => nomatch hr⟩, rfl⟩
    intro reference hreference
    have hop : Quiet (.effectClaim reference request) := trivial
    refine wp_seq _ (wp_unstarted (J := fun v' => v' = v) (frame_catching (frame_perform hop)
      fun _ => frame_raise _) rfl) ?_ ?_
    · rintro claimed v' g' ⟨rfl, rfl⟩
      cases claimed with
      | false => exact ⟨⟨rfl, fun _ hr => nomatch hr⟩, rfl⟩
      | true =>
        refine ⟨⟨rfl, ?_⟩, rfl⟩
        intro reference' hr
        cases hr
        exact hreference
    · rintro e v' g' ⟨rfl, rfl⟩
      exact ⟨⟨rfl, fun _ hr => nomatch hr⟩, rfl⟩
  · rintro reference v' g' ⟨⟨rfl, hreference⟩, rfl⟩
    refine ⟨⟨⟨hv.started, hv.evidence, ?_⟩, fun _ _ => rfl⟩, rfl⟩
    intro reference' hr
    cases hr
    exact hreference reference rfl
  · rintro e v' g' ⟨⟨rfl, -⟩, rfl⟩
    exact ⟨⟨hv, fun _ hr => nomatch hr⟩, rfl⟩

/-- the boundary has committed the effect, and the variables say so -/
structure Committed (P : Platform) (E : EffectProtector) (request : ProtectedExecutionRequest)
    (payload : Json) (v : Locals) (d : Dict) : Prop where
  started : v.handlerStarted = true
  claimed : v.effectReference ≠ none
  evidence : v.effectEvidence = some d
  boundary : payloadEvidence P E request payload = some d
  committed : states d "COMMITTED" = true

/-- the handler has answered, and nothing failed since -/
def answered (credential : BrokeredCredential) (payload : Json) : Seen :=
  { handler := some (some credential, .ok payload) }

theorem wp_readEvidence {credential : BrokeredCredential} {payload : Json} {v : Locals}
    (hstarted : v.handlerStarted = true) (hnone : v.effectEvidence = none) {reference : EffectReference}
    (hv : v.effectReference = some reference) (hown : E.ownReference P request = .ok reference) :
    wp (effectMonitor P E request) (readEvidence P payload v)
      (fun r g' => g' = answered credential payload ∧
        (∀ e, r.1 = .error e → Aborted P E request r.2 g') ∧
        ∀ u, r.1 = .ok u → ∃ d, Committed P E request payload r.2 d)
      (answered credential payload) := by
  have hread : ∀ raw, payloadGet payload "effect_evidence" = .ok raw →
      boundaryEvidence P E request (answered credential payload) = validEvidence P reference raw := by
    intro raw hraw
    show payloadEvidence P E request payload = _
    unfold payloadEvidence
    rw [hown, hraw]
  have hclaimed : v.effectReference ≠ none := fun hn => nomatch hn.symm.trans hv
  refine wp_vars ?_
  rw [hv]
  refine wp_lift ?_ ?_
  · intro raw hraw
    have hraw := hread raw (orRaise_ok hraw)
    cases hvalid : validEvidence P reference raw with
    | none =>
      rw [hvalid] at hraw
      refine ⟨rfl, fun e _ => ?_, fun u hr => nomatch hr⟩
      exact ⟨hstarted, fun hn => absurd hn hclaimed, hraw.trans hnone.symm,
        fun d hd => (nomatch hnone.symm.trans hd)⟩
    | some d =>
      rw [hvalid] at hraw
      refine wp_assign ?_
      split
      · rename_i hc
        exact ⟨rfl, fun e hr => (nomatch hr), fun u _ => ⟨d, hstarted, hclaimed, rfl, hraw, hc⟩⟩
      · rename_i hc
        refine ⟨rfl, fun e _ => ?_, fun u hr => nomatch hr⟩
        refine ⟨hstarted, fun hn => absurd hn hclaimed, hraw, ?_⟩
        intro d' hd hc'
        cases hd
        exact absurd hc' hc
  · intro e he
    refine ⟨rfl, fun e' _ => ?_, fun u hr => nomatch hr⟩
    refine ⟨hstarted, fun hn => absurd hn hclaimed, ?_, fun d hd => (nomatch hnone.symm.trans hd)⟩
    show payloadEvidence P E request payload = _
    unfold payloadEvidence
    rw [hnone]
    cases hget : payloadGet payload "effect_evidence" with
    | ok raw =>
      rw [hget] at he
      cases he
    | error e => cases E.ownReference P request <;> rfl

/-- a step after the evidence was read fails, or the receipt cannot be built -/
theorem Committed.aborted {credential : BrokeredCredential} {payload : Json} {v : Locals} {d : Dict}
    (h : Committed P E request payload v d) {g : Seen}
    (hg : g.handler = some (some credential, .ok payload))
    (hlate : g.failedAfter = true ∨ ¬ ReceiptBuilds P request credential payload) :
    Aborted P E request v g := by
  have hboundary : boundaryEvidence P E request g = some d := by
    unfold boundaryEvidence
    rw [hg]
    exact h.boundary
  refine ⟨?_, fun hn => absurd hn h.claimed, hboundary.trans h.evidence.symm, ?_⟩
  · rw [hg, h.started]
    rfl
  · intro d' _ _
    exact ⟨credential, payload, d, hg, hboundary, h.committed, hlate⟩

/-- a step that fails -/
theorem Committed.aborted_of_error {credential : BrokeredCredential} {payload : Json} {v : Locals}
    {d : Dict} (h : Committed P E request payload v d) (op : Op) (e : Raised) :
    Aborted P E request v ((answered credential payload).next ⟨op, (.error e : PyM (Value op))⟩) :=
  h.aborted (next_handler rfl _) (Or.inl (failedAfter_of_error rfl op e))

/-- the executed receipt of a committed effect -/
theorem executed_faithful (hconsistent : ConsistentOutcomes P) {credential : BrokeredCredential}
    {payload : Json} {v : Locals} {d : Dict} (h : Committed P E request payload v d)
    (hbuilds : ReceiptBuilds P request credential payload) {receiptPayload : Json}
    {make : String → Receipt} (hmake : executionReceipt P request receiptPayload = .ok make)
    (receiptId : String) :
    Faithful P E request (answered credential payload) (v.withEvidence (make receiptId)) ∧
      ¬ Undone P E request (answered credential payload) := by
  obtain ⟨houtcome, hext, hstate⟩ := executionReceipt_ok hmake receiptId
  have hshown : (v.withEvidence (make receiptId)) = { make receiptId with
      extensions := Dict.set (make receiptId).extensions (.str "effect") (.obj d) } := by
    unfold Locals.withEvidence
    rw [h.evidence]
  rw [hshown]
  refine ⟨faithful_of_evidence hconsistent h.boundary
    (effect_of_extensions (by rw [hext]; rfl)) ?_ ?_, ?_⟩
  · intro _
    refine ⟨houtcome, ?_⟩
    show isStr (make receiptId).sideEffectState "none" = false
    rw [isStr_iff.mp hstate]
    rfl
  · intro ha
    exact absurd (states_unique ha h.committed) (by decide)
  · rintro ⟨credential', payload', d', hh, -, -, hf | hf⟩
    · cases hf
    · cases hh
      exact hf hbuilds

/-- the receipt is built, or the run is undone -/
theorem wp_createReceipt_effect {credential : BrokeredCredential} {payload : Json} {v : Locals} {d : Dict}
    (hd : Committed P E request payload v d) {given : Dict} (hgiven : payloadDict payload = .ok given) :
    wp (effectMonitor P E request)
      (createExecutionReceipt P request (.obj (Dict.merge given (brokerPayload credential))) v)
      (fun r g' => (∀ e, r.1 = .error e → Aborted P E request r.2 g') ∧
        ∀ created, r.1 = .ok created → r.2 = v ∧ g' = answered credential payload ∧
          ∃ make receiptId, executionReceipt P request
            (.obj (Dict.merge given (brokerPayload credential))) = .ok make ∧ created = make receiptId)
      (answered credential payload) := by
  refine wp_lift ?_ ?_
  · intro make hmake
    refine wp_perform trivial ?_ fun e _ => ⟨fun _ _ => hd.aborted_of_error _ e,
      fun created hr => nomatch hr⟩
    intro receiptId _
    refine ⟨fun e hr => (nomatch hr), ?_⟩
    intro created hr
    cases hr
    exact ⟨rfl, rfl, make, receiptId, orRaise_ok hmake, rfl⟩
  · intro e he
    refine ⟨fun _ _ => hd.aborted rfl (Or.inr ?_), fun created hr => nomatch hr⟩
    rintro ⟨given', make, hgiven', hmake⟩
    cases hgiven.symm.trans hgiven'
    rw [hmake] at he
    cases he

theorem wp_complete_effect (hE : X.effectProtector = some E) (hconsistent : ConsistentOutcomes P)
    {credential : BrokeredCredential} {payload : Json} {v : Locals} (hstarted : v.handlerStarted = true)
    (hnone : v.effectEvidence = none) {reference : EffectReference}
    (hv : v.effectReference = some reference) (hown : E.ownReference P request = .ok reference) :
    wp (effectMonitor P E request) (X.complete P request credential payload v)
      (JudgedAttempt P E request) (answered credential payload) := by
  have hrecord : X.recordResult request payload = pure () := by
    unfold ProtectedExecutor.recordResult ProtectedExecutor.operation
    rw [hE]
  refine wp_seq _ (wp_readEvidence hstarted hnone hv hown) ?_ fun e v1 g1 h => h.2.1 e rfl
  rintro _ v1 g1 ⟨rfl, -, h⟩
  obtain ⟨d, hd⟩ := h _ rfl
  refine wp_lift ?_ ?_
  · intro given hgiven
    refine wp_perform trivial ?_ fun e _ => hd.aborted_of_error _ e
    intro _ _
    refine wp_seq _ (wp_createReceipt_effect hd (orRaise_ok hgiven)) ?_ fun e v2 g2 h => h.1 e rfl
    rintro created v2 g2 ⟨-, h2⟩
    obtain ⟨rfl, rfl, make, receiptId, hmake, rfl⟩ := h2 created rfl
    obtain ⟨hfaithful, hundone⟩ := executed_faithful hconsistent hd
      ⟨given, make, orRaise_ok hgiven, hmake⟩ hmake receiptId
    refine wp_vars (wp_perform (iff_of_true hfaithful hundone) ?_ fun e _ => hd.aborted_of_error _ e)
    intro _ _
    rw [hrecord]
    exact iff_of_true hfaithful hundone
  · intro e he
    refine hd.aborted rfl (Or.inr ?_)
    rintro ⟨given, make, hgiven, -⟩
    rw [hgiven] at he
    cases he

theorem wp_dispatch_effect (hE : X.effectProtector = some E) (hconsistent : ConsistentOutcomes P)
    {v : Locals} (hv : Unstarted P E request v) :
    wp (effectMonitor P E request) (X.dispatch P request v) (JudgedAttempt P E request) {} := by
  refine wp_seq _ (wp_unstarted (frame_consumeEscrow fun _ _ _ _ => trivial) hv) ?_ ?_
  · rintro _ v1 g1 ⟨h1, rfl⟩
    refine wp_seq _ (wp_claimEffect hE h1) ?_ ?_
    · rintro _ v2 g2 ⟨⟨h2, hclaimed⟩, rfl⟩
      obtain ⟨reference, hreference⟩ := Option.isSome_iff_exists.mp (hclaimed _ rfl)
      refine wp_perform trivial ?_ fun e _ => h2.aborted
      intro credential _
      refine wp_assign ?_
      refine wp_seq _ (wp_unstarted (J := fun v' => Unstarted P E request v' ∧
        v'.effectReference = some reference) (frame_consumeReplay (fun _ _ => trivial) fun _ _ h =>
          ⟨⟨h.1.started, h.1.evidence, h.1.reference⟩, h.2⟩)
        ⟨⟨h2.started, h2.evidence, h2.reference⟩, hreference⟩) ?_ ?_
      · rintro _ v3 g3 ⟨⟨h3, hr3⟩, rfl⟩
        refine wp_assign (wp_perform trivial ?_ ?_)
        · intro payload _
          exact wp_complete_effect hE hconsistent rfl h3.evidence hr3 (h3.reference reference hr3)
        · intro e _
          exact ⟨rfl, fun hn => (nomatch hn.symm.trans hr3), h3.evidence.symm,
            fun d hd => (nomatch h3.evidence.symm.trans hd)⟩
      · rintro e v3 g3 ⟨⟨h3, -⟩, rfl⟩
        exact h3.aborted
    · rintro e v2 g2 ⟨⟨h2, -⟩, rfl⟩
      exact h2.aborted
  · rintro e v1 g1 ⟨h1, rfl⟩
    exact h1.aborted

theorem wp_attempt_effect (hE : X.effectProtector = some E) (hconsistent : ConsistentOutcomes P)
    (decision : Option PolicyDecision) {v : Locals} (hv : Unstarted P E request v) :
    wp (effectMonitor P E request) (X.attempt P request decision v) (JudgedAttempt P E request) {} := by
  have hlookup : X.lookupPrior request = pure none := by
    unfold ProtectedExecutor.lookupPrior ProtectedExecutor.operation
    rw [hE]
  refine wp_lift ?_ fun e _ => hv.aborted
  intro _ _
  refine wp_seq _ (wp_unstarted (frame_claimReplay fun _ _ => trivial) hv) ?_ ?_
  · rintro state v1 g1 ⟨h1, rfl⟩
    rw [hlookup]
    exact wp_dispatch_effect hE hconsistent ⟨h1.started, h1.evidence, h1.reference⟩
  · rintro e v1 g1 ⟨h1, rfl⟩
    exact h1.aborted

/-- **One call**: the receipts it writes, and the one it returns. -/
theorem wp_call_effect (hE : X.effectProtector = some E) (hconsistent : ConsistentOutcomes P)
    (decision : Option PolicyDecision) :
    wp (effectMonitor P E request) (X.call P request decision)
      (fun r g => Judged P E request r.1 g) {} := by
  refine wp_catching _ (wp_attempt_effect hE hconsistent decision ⟨rfl, rfl, fun r h => nomatch h⟩) ?_ ?_
  · intro result v g h result' hr
    cases hr
    exact h
  · intro e v g h
    exact wp_onRaise_effect hconsistent e h

theorem run_effectMonitor (t : List KernelEvent) (g : Seen) :
    (effectMonitor P E request).run g t = t.foldl Seen.next g := by
  induction t generalizing g with
  | nil => rfl
  | cons e t ih => exact ih _

/-- **What the receipts of an effect say.**  In every run of `execute` with an effect protector, every
receipt that is written and the receipt that is returned is faithful to the run so far exactly when
the run is not `Undone`. -/
theorem effect_receipt_faithful_iff (hE : X.effectProtector = some E) (hconsistent : ConsistentOutcomes P)
    {decision : Option PolicyDecision} {t : List KernelEvent}
    {p : Prog Op Res (Except Raised ExecutionResult × Locals)}
    (h : Reaches (X.call P request decision) t p) :
    (∀ before receipt answer after, t = before ++ ⟨.writeReceipt receipt, answer⟩ :: after →
      (Faithful P E request (seen before) receipt ↔ ¬ Undone P E request (seen before))) ∧
    ∀ result v, p = .ret (.ok result, v) →
      (Faithful P E request (seen t) result.receipt ↔ ¬ Undone P E request (seen t)) := by
  obtain ⟨hallowed, hret⟩ := wp_reaches (wp_call_effect hE hconsistent decision) h
    (Monitor.possible_of_all (fun _ _ _ => trivial) _ t)
  rw [run_effectMonitor] at hret
  refine ⟨?_, ?_⟩
  · rintro before receipt answer after rfl
    have hallow := (Monitor.allowed_append.mp hallowed).2.1
    rw [run_effectMonitor] at hallow
    exact hallow
  · rintro result v rfl
    exact hret result rfl

end

/-! ## the sample effect -/

/-- SHA-256 at the inputs of the sample effect -/
def effectHash (m : List UInt8) : List UInt8 :=
  if m.length = 323 then
    (Hex.fromHex "ab6cc7512ffd938f7618a193c40eb243ea3540798922944ac1be621a14835dbe".toList).getD []
  else if m.length = 155 then
    (Hex.fromHex "b731e7f227bdcbb0b9bb83750f4cf2e3a62fa30191c0c88ad2be218960df8577".toList).getD []
  else if m.length = 359 then
    (Hex.fromHex "df7e4450107369704554ffb85d7175ffd6ed3c4a36f91f4568d20aa9f7d65815".toList).getD []
  else List.replicate 32 0

def effectPlatform : Platform :=
  { samplePlatform effectHash with
    parseAuthorityExtension := fun extensions =>
      match Dict.get extensions "authority" with
      | .obj authority => some authority
      | _ => none
    effectIdentity := fun descriptor =>
      match sha256Hex (samplePlatform effectHash) (.obj descriptor) with
      | .ok hash => some ("effect_" ++ hash)
      | .error _ => none }

theorem effectPlatform_consistent : ConsistentOutcomes effectPlatform := by
  intro outcome occurred hash h
  have h : (samplePlatform effectHash).validateEffectOutcome outcome occurred hash = true := h
  unfold samplePlatform at h
  dsimp only at h
  split at h
  · exact Or.inl ⟨rfl, rfl⟩
  · exact Or.inr (Or.inl ⟨rfl, rfl⟩)
  · exact Or.inr (Or.inr ⟨rfl, rfl⟩)
  · cases h

def sampleEffect : EffectReference where
  profile := "ACTENON-EFFECT-1"
  effectId := "effect_b731e7f227bdcbb0b9bb83750f4cf2e3a62fa30191c0c88ad2be218960df8577"
  reservationId := "reservation_bbbbbbbbbbbbbbbbbbbbbbbbbbbbbbbb"
  ownerAttemptId := "exec_aaaaaaaaaaaaaaaaaaaaaaaaaaaaaaaa"

/-- the sample intent under the identifier of the attempt that owns the effect -/
def effectRequest : ProtectedExecutionRequest where
  intent := { sampleIntent with intentId := sampleEffect.ownerAttemptId }
  pccb := { samplePccb with
    intentId := .str sampleEffect.ownerAttemptId
    actionHash := { samplePccb.actionHash with
      value := "ab6cc7512ffd938f7618a193c40eb243ea3540798922944ac1be621a14835dbe" }
    extensions := members [("effect", .obj sampleEffect.toDict),
      ("authority", .obj (members [("issuer", .str "issuer:iss"), ("grant_id", .str "grant-effect"),
        ("revocable", .bool false)]))] }
  context := sampleContext

def sampleProtector : EffectProtector where
  owner := "merchant:acme"

def effectCall : ExecuteCall where
  executor := { sampleExecutor with effectProtector := some sampleProtector }
  request := effectRequest

/-- the handler answers with evidence that the effect was committed -/
def committedAnswers : (op : Op) → Res op
  | .handler _ _ => (.ok (.obj (members [("effect_evidence", .obj (sampleEffect.toDict ++
      members [("outcome", .str "COMMITTED"), ("execution_occurred", .bool true),
        ("evidence_hash", .str "b731e7f227bdcbb0b9bb83750f4cf2e3a62fa30191c0c88ad2be218960df8577")]))])) :
      PyM Json)
  | op => sampleAnswers op

/-- after that the broker cannot be reached -/
def brokerLostAnswers : (op : Op) → Res op
  | .release _ _ => (.error (.other ⟨.other "TimeoutError", "broker"⟩) : PyM Unit)
  | op => committedAnswers op

/-- the run of the sample effect -/
def effectRun (answers : (op : Op) → Res op) := effectCall.runAlone effectPlatform answers emptyWorld

theorem effectRun_reaches (answers : (op : Op) → Res op) {result : ExecutionResult}
    (h : (effectRun answers).1.1 = .ok result) :
    Reaches (effectCall.program effectPlatform) (effectRun answers).2.2
      (.ret (.ok result, (effectRun answers).1.2)) := by
  unfold effectRun ExecuteCall.runAlone at h ⊢
  rw [← h]
  exact exec_reaches_pair (World.env effectPlatform answers) (effectCall.program effectPlatform) emptyWorld

/-- the call returned a result that passes a check -/
def returnsWith (q : ExecutionResult → Bool) : Except Raised ExecutionResult → Bool
  | .ok result => q result
  | .error _ => false

theorem returnsWith_iff {q : ExecutionResult → Bool} {x : Except Raised ExecutionResult}
    (h : returnsWith q x = true) : ∃ result, x = .ok result ∧ q result = true := by
  cases x with
  | ok result => exact ⟨result, rfl, h⟩
  | error e => cases h

theorem not_undone_of_builds {s : Seen} (hf : s.failedAfter = false)
    (hb : buildsReceipt effectPlatform effectRequest s = true) :
    ¬ Undone effectPlatform sampleProtector effectRequest s := by
  rintro ⟨credential, payload, d, hh, -, -, hfailed | hbuilds⟩
  · cases hf.symm.trans hfailed
  · exact hbuilds (receiptBuilds_of_check hb hh)

def committedReceipt (result : ExecutionResult) : Bool := states result.receipt.effect "COMMITTED"

def deniedReceipt (result : ExecutionResult) : Bool :=
  decide (result.receipt.outcome = .refused) && isStr result.receipt.sideEffectState "none"

/-- the two runs of the sample effect -/
theorem effectRun_facts :
    ((returnsWith committedReceipt (effectRun committedAnswers).1.1 = true ∧
      (seen (effectRun committedAnswers).2.2).failedAfter = false) ∧
      buildsReceipt effectPlatform effectRequest (seen (effectRun committedAnswers).2.2) = true) ∧
    returnsWith (fun result => committedReceipt result && deniedReceipt result)
      (effectRun brokerLostAnswers).1.1 = true := by
  decide +kernel

/-- the committed effect of the sample has a faithful receipt that says so -/
theorem effect_receipt_faithful_sample :
    ∃ t result v, Reaches (effectCall.program effectPlatform) t (.ret (.ok result, v)) ∧
      states result.receipt.effect "COMMITTED" = true ∧
      ¬ Undone effectPlatform sampleProtector effectRequest (seen t) ∧
      Faithful effectPlatform sampleProtector effectRequest (seen t) result.receipt := by
  obtain ⟨⟨hreturns, hfailed⟩, hbuilds⟩ := effectRun_facts.1
  obtain ⟨result, hresult, hcommitted⟩ := returnsWith_iff hreturns
  have hreach := effectRun_reaches _ hresult
  have hundone := not_undone_of_builds hfailed hbuilds
  exact ⟨_, result, _, hreach, hcommitted, hundone,
    ((effect_receipt_faithful_iff rfl effectPlatform_consistent hreach).2 result _ rfl).mpr hundone⟩

/-- the broker fails after the commit: the receipt is refused, states `COMMITTED` and no side effect -/
theorem effect_receipt_denies_commit :
    effectCall.executor.effectProtector = some sampleProtector ∧ ConsistentOutcomes effectPlatform ∧
      ∃ t result v, Reaches (effectCall.program effectPlatform) t (.ret (.ok result, v)) ∧
        states result.receipt.effect "COMMITTED" = true ∧ result.receipt.outcome = .refused ∧
        isStr result.receipt.sideEffectState "none" = true ∧
        ¬ Faithful effectPlatform sampleProtector effectRequest (seen t) result.receipt := by
  obtain ⟨result, hresult, hchecked⟩ := returnsWith_iff effectRun_facts.2
  rw [Bool.and_eq_true, deniedReceipt, Bool.and_eq_true, decide_eq_true_iff] at hchecked
  obtain ⟨hcommitted, hrefused, hnone⟩ := hchecked
  refine ⟨rfl, effectPlatform_consistent, _, result, _, effectRun_reaches _ hresult, hcommitted, hrefused,
    hnone, ?_⟩
  intro hfaithful
  cases hrefused.symm.trans (hfaithful.executed hcommitted).1

end Actenon
