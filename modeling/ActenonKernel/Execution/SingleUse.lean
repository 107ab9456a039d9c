import ActenonKernel.Execution.Frames
import ActenonKernel.Proof.Binding

/-!
# A proof is used once

Any number of calls of `execute` share one replay database, and their transactions come in any
order.  Every call of the handler was paid for by a `mark_consumed` of the same replay key that
changed a row, and that happens once in the history of a database.

* `History`           runs of many calls over one world;
* `singleUse`         the monitor of one call: the handler needs a consumption of its own;
* `consumptions_le_one`    one consumption of a key;
* `execute_single_use`     at most one handler call for each replay key.
-/

set_option linter.unusedSectionVars false

namespace Actenon

open Program

/-! ## histories -/

/-- a call of `execute` -/
structure ExecuteCall where
  executor : ProtectedExecutor
  request : ProtectedExecutionRequest
  policyDecision : Option PolicyDecision := none

def ExecuteCall.program (P : Platform) (c : ExecuteCall) :
    Prog Op Res (Except Raised ExecutionResult × Locals) :=
  c.executor.call P c.request c.policyDecision

/-- calls of `execute`, each as far as it got, and transactions of the replay store that others
make (`none`) -/
structure History (P : Platform) {ι : Type} [DecidableEq ι] (calls : ι → ExecuteCall) (w : World)
    (h : List (Option ι × KernelEvent)) (w' : World) : Prop where
  follows : Follows (World.step P) w (h.map Prod.snd) w'
  reached : ∀ i, ∃ p, Reaches ((calls i).program P) (proj (some i) h) p
  others : ∀ e ∈ proj none h, e.1.isStore = true

/-! ## the events -/

/-- the handler is called with a request of this replay key -/
def handlerOf (P : Platform) (key : String) (e : KernelEvent) : Bool :=
  match e.1 with
  | .handler request _ =>
    match buildReplayKey P request.intent request.pccb request.context with
    | .ok k => k = key
    | .error _ => false
  | _ => false

/-- `mark_consumed` changed the row of this replay key -/
def consumptionOf (key : String) (e : KernelEvent) : Bool :=
  match e with
  | ⟨.store _ (.consume k _), answer⟩ =>
    match (show PyM Bool from answer) with
    | .ok changed => changed && k = key
    | .error _ => false
  | _ => false

theorem consumptionOf_iff {key : String} {e : KernelEvent} (h : consumptionOf key e = true) :
    ∃ inst now, e = ⟨.store inst (.consume key now), (.ok true : PyM Bool)⟩ := by
  obtain ⟨op, answer⟩ := e
  cases op with
  | store inst tx =>
    cases tx with
    | consume k now =>
      change PyM Bool at answer
      cases answer with
      | error e => cases h
      | ok changed =>
        have hc : (changed && decide (k = key)) = true := h
        rw [Bool.and_eq_true, decide_eq_true_iff] at hc
        obtain ⟨rfl, rfl⟩ := hc
        exact ⟨inst, now, rfl⟩
    | _ => cases h
  | _ => cases h

/-! ## the store -/

section
variable {P : Platform}

/-- a consumed row stays as it is -/
theorem follows_consumed {w w' : World} {t : List KernelEvent} {key : String}
    {row : ActionConsumptionState} (h : Follows (World.step P) w t w')
    (hw : w.replay.find key = some row) (hc : row.status = .consumed) :
    w'.replay.find key = some row :=
  follows_invariant (I := fun v => v.replay.find key = some row)
    (fun _ _ _ hs hv => (step_find hs key).consumed hv hc) h hw

/-- what the step of a consumption tells -/
theorem step_consumption {w w' : World} {inst : Nat} {key : String} {now : Datetime}
    (h : World.step P w ⟨.store inst (.consume key now), (.ok true : PyM Bool)⟩ w') :
    (∃ row, w.replay.find key = some row ∧ row.status = .claimed) ∧
      ∃ row, w'.replay.find key = some row ∧ row.status = .consumed := by
  obtain ⟨hs | ⟨e, he, -⟩, -⟩ := h
  · exact consume_ok hs
  · cases he

theorem no_consumption {w w' : World} {t : List KernelEvent} {key : String}
    {row : ActionConsumptionState} (h : Follows (World.step P) w t w')
    (hw : w.replay.find key = some row) (hc : row.status = .consumed) :
    t.countP (consumptionOf key) = 0 := by
  induction t generalizing w with
  | nil => rfl
  | cons e t ih =>
    obtain ⟨v, hv, h⟩ := h
    rw [List.countP_cons_of_neg ?_]
    · exact ih h ((step_find hv key).consumed hw hc)
    · intro he
      obtain ⟨inst, now, rfl⟩ := consumptionOf_iff he
      obtain ⟨⟨row', hr, hs⟩, -⟩ := step_consumption hv
      cases hw.symm.trans hr
      cases hc.symm.trans hs

/-- **One consumption.**  A history changes the row of a key to `consumed` at most once. -/
theorem consumptions_le_one {w w' : World} {t : List KernelEvent} (key : String)
    (h : Follows (World.step P) w t w') : t.countP (consumptionOf key) ≤ 1 := by
  induction t generalizing w with
  | nil => exact Nat.zero_le _
  | cons e t ih =>
    obtain ⟨v, hv, h⟩ := h
    by_cases he : consumptionOf key e = true
    · obtain ⟨inst, now, rfl⟩ := consumptionOf_iff he
      obtain ⟨-, row, hr, hc⟩ := step_consumption hv
      rw [List.countP_cons_of_pos he, no_consumption h hr hc]
    · rw [List.countP_cons_of_neg he]
      exact ih h

end

/-! ## one call -/

/-- what a call has done: its claim went in, and the consumptions it has not used -/
structure Ticket where
  claimed : Bool := false
  unused : Nat := 0

/-- the handler is called with the request of the call, and needs a consumption; a row that this call
has inserted is there when it is read -/
def singleUse (request : ProtectedExecutionRequest) (key : String) : Monitor Res Ticket where
  allow g
    | .handler r _ => r = request ∧ 0 < g.unused
    | _ => True
  possible g
    | .store _ (.inspect k _) => fun (answer : PyM InspectResult) =>
      match answer with
      | .ok .missing => k = key → g.claimed = false
      | .ok (.found row) => row.replayKey = k
      | _ => True
    | _ => fun _ => True
  next g
    | .store _ (.claim c _) => fun (answer : PyM Bool) =>
      match answer with
      | .ok true => if c.replayKey = key then { g with claimed := true } else g
      | _ => g
    | .store _ (.consume k _) => fun (answer : PyM Bool) =>
      match answer with
      | .ok true => if k = key then { g with unused := g.unused + 1 } else g
      | _ => g
    | .handler _ _ => fun _ => { g with unused := g.unused - 1 }
    | _ => fun _ => g

section
variable {P : Platform} {X : ProtectedExecutor} {request : ProtectedExecutionRequest} {key : String}

theorem singleUse_notHandler (g : Ticket) (op : Op) (_ : True) (h : NotHandler op) :
    (singleUse request key).allow g op ∧
      ∀ r, (singleUse request key).possible g op r → True := by
  refine ⟨?_, fun _ _ => trivial⟩
  cases op with
  | handler r c => cases h
  | _ => trivial

/-- a phase that does not call the handler -/
theorem wp_notHandler {α : Type} {J : Locals → Prop} {m : Run α} (hm : Frame NotHandler J m) {v : Locals}
    (hv : J v) (g : Ticket) : wp (singleUse request key) (m v) (fun r _ => J r.2) g :=
  wp_mono (wp_frame (K := fun _ => True) hm singleUse_notHandler hv trivial) fun _ _ h => h.1

/-- the row that is read has the key, and it is there if this call inserted it -/
theorem wp_inspect {S : Type} (inst : Nat) (now : Datetime) (depth : Nat) (v : S) (g : Ticket) :
    wp (singleUse request key) (inspectUpTo inst key now depth v)
      (fun r g' => g' = g ∧ ∀ state, r.1 = .ok state →
        (state = none → g.claimed = false) ∧ ∀ row, state = some row → row.replayKey = key) g := by
  induction depth with
  | zero => exact ⟨rfl, fun state h => nomatch h⟩
  | succ depth ih =>
    refine wp_perform trivial ?_ fun e _ => ⟨rfl, fun state h => nomatch h⟩
    intro answer hp
    cases answer with
    | expired => exact ih
    | missing =>
      refine ⟨rfl, ?_⟩
      intro state h
      cases h
      exact ⟨fun _ => hp rfl, fun row h => nomatch h⟩
    | found row =>
      refine ⟨rfl, ?_⟩
      intro state h
      cases h
      refine ⟨fun h => (nomatch h), ?_⟩
      intro row' h
      cases h
      exact hp

theorem wp_claimOnce {S : Type} (inst : Nat) (claim : ActionConsumptionClaim)
    (hkey : claim.replayKey = key) (now : Datetime) (v : S) (g : Ticket) :
    wp (singleUse request key) (claimOnce inst claim now v)
      (fun r _ => ∀ state, r.1 = .ok state → ∃ row, state = some row ∧ row.replayKey = key) g := by
  subst hkey
  refine wp_perform trivial ?_ fun e _ state h => nomatch h
  intro inserted _
  refine wp_seq _ (wp_inspect inst now recursionLimit v _) ?_ fun e v' g' _ state h => nomatch h
  intro state v' g' hread
  obtain ⟨hnone, hrow⟩ := hread.2 state rfl
  cases inserted with
  | false => exact fun state h => nomatch h
  | true =>
    intro state' h
    cases h
    have hclaimed : (if claim.replayKey = claim.replayKey then
        ({ g with claimed := true } : Ticket) else g).claimed = true := by rw [if_pos rfl]
    cases state with
    | none => exact absurd (hclaimed.symm.trans (hnone rfl)) (by simp)
    | some row => exact ⟨row, rfl, hrow row rfl⟩

/-- the replay key of a claim -/
theorem buildActionConsumptionClaim_key {claim : ActionConsumptionClaim}
    (h : buildActionConsumptionClaim P request = .ok claim) :
    buildReplayKey P request.intent request.pccb request.context = .ok claim.replayKey := by
  unfold buildActionConsumptionClaim at h
  obtain ⟨k, hk, h⟩ := Fallible.bind_eq_ok.mp h
  rw [← Fallible.pure_eq_ok.mp h]
  exact hk

theorem wp_claimRequest {S : Type} {q : ProtectedExecutionRequest}
    (hkey : ∀ k, buildReplayKey P request.intent request.pccb request.context = .ok k → k = key)
    (inst : Nat) (v : S) (g : Ticket) :
    wp (singleUse q key) (claimRequest P inst request v)
      (fun r _ => ∀ state, r.1 = .ok state → ∃ row, state = some row ∧ row.replayKey = key) g := by
  refine wp_lift ?_ fun e _ state h => nomatch h
  intro claim hclaim
  exact wp_claimOnce inst claim (hkey _ (buildActionConsumptionClaim_key (orRaise_ok hclaim))) _ v g

/-- an exception of the store ends the call -/
theorem wp_onStoreFailure {α : Type} (hclosed : X.failOpen = false) (dflt : α) (unavailable e : Raised)
    {Q : Except Raised α × Locals → Ticket → Prop} {v : Locals} {g : Ticket}
    (hQ : ∀ e', Q (.error e', v) g) :
    wp (singleUse request key) (X.onStoreFailure dflt unavailable e v) Q g := by
  cases e with
  | refusal e => exact hQ _
  | other e =>
    unfold ProtectedExecutor.onStoreFailure
    rw [hclosed]
    exact hQ _

/-- a claim that goes through gives the row of the key -/
theorem wp_claimReplay {inst : Nat} (hinst : X.replayProtector = some inst)
    (hclosed : X.failOpen = false)
    (hkey : ∀ k, buildReplayKey P request.intent request.pccb request.context = .ok k → k = key)
    (v : Locals) (g : Ticket) :
    wp (singleUse request key) (X.claimReplay P request v)
      (fun r _ => ∀ state, r.1 = .ok state → ∃ row, state = some row ∧ row.replayKey = key) g := by
  unfold ProtectedExecutor.claimReplay
  rw [hinst]
  exact wp_catching _ (wp_claimRequest hkey inst v g) (fun _ _ _ h => h)
    fun e v' g' _ => wp_onStoreFailure hclosed _ _ e fun e' state h => nomatch h

/-- the state that `execute` holds is the row of the key -/
def Holds (key : String) (v : Locals) : Prop := ∃ row, v.replayState = some row ∧ row.replayKey = key

/-- `mark_consumed` that goes through is a consumption -/
theorem wp_consumeReplay {inst : Nat} (hinst : X.replayProtector = some inst)
    (hclosed : X.failOpen = false) {v : Locals} (hv : Holds key v) (g : Ticket) :
    wp (singleUse request key) (X.consumeReplay request v)
      (fun r g' => ∀ u, r.1 = .ok u → 0 < g'.unused) g := by
  obtain ⟨row, hrow, rfl⟩ := hv
  have hmark : wp (singleUse request row.replayKey)
      (X.markReplayConsumed request v.replayState v)
      (fun r g' => ∀ b, r.1 = .ok b → 0 < g'.unused) g := by
    unfold ProtectedExecutor.markReplayConsumed
    rw [hinst, hrow]
    refine wp_catching (fun r g' => ∀ b, r.1 = .ok b → 0 < g'.unused) ?_ (fun _ _ _ h => h)
      fun e v' g' _ => wp_onStoreFailure hclosed _ _ e fun e' b h => nomatch h
    refine wp_seq (fun r g' => ∀ state, r.1 = .ok state → 0 < g'.unused) ?_ ?_ fun e v' g' _ b h => nomatch h
    · refine wp_perform trivial ?_ fun e _ state h => nomatch h
      intro changed _
      refine wp_seq _ (wp_inspect inst _ recursionLimit v _) ?_ fun e v' g' _ state h => nomatch h
      rintro state v' g' ⟨rfl, -⟩
      cases changed with
      | false => exact fun state h => nomatch h
      | true =>
        intro state' _
        show 0 < (if row.replayKey = row.replayKey then
          ({ g with unused := g.unused + 1 } : Ticket) else g).unused
        rw [if_pos rfl]
        exact Nat.succ_pos _
    · intro state v' g' h b _
      exact h state rfl
  refine wp_vars (wp_seq _ hmark ?_ ?_)
  · intro b v' g' h u hu
    exact h b rfl
  · intro e v' g' h u hu
    cases hu

/-- before the handler a consumption, after it no handler -/
theorem wp_dispatch {inst : Nat} (hinst : X.replayProtector = some inst) (hclosed : X.failOpen = false)
    {v : Locals} (hv : Holds key v) (g : Ticket) :
    wp (singleUse request key) (X.dispatch P request v) (fun _ _ => True) g := by
  refine wp_seq _ (wp_notHandler (frame_consumeEscrow fun _ _ _ _ => trivial) hv g) ?_
    fun _ _ _ _ => trivial
  intro _ v1 g1 h1
  refine wp_seq _ (wp_notHandler (frame_claimEffect (fun _ _ => trivial) fun _ _ h => h) h1 g1) ?_
    fun _ _ _ _ => trivial
  intro _ v2 g2 h2
  refine wp_perform trivial ?_ fun _ _ => trivial
  intro credential _
  refine wp_assign ?_
  refine wp_seq _ (wp_consumeReplay hinst hclosed (v := { v2 with brokeredCredential := some credential })
    h2 _) ?_ fun _ _ _ _ => trivial
  intro _ v3 g3 h3
  refine wp_assign ?_
  refine wp_perform ⟨rfl, h3 _ rfl⟩ ?_ fun _ _ => trivial
  intro payload _
  exact wp_mono (wp_notHandler (J := fun _ => True) (frame_complete (fun _ _ => trivial) trivial
    (fun _ => trivial) (fun _ _ _ _ _ => trivial) (fun _ _ h => h) _ _) trivial _)
    fun _ _ _ => trivial

theorem wp_attempt {inst : Nat} (hinst : X.replayProtector = some inst) (hclosed : X.failOpen = false)
    (hkey : ∀ k, buildReplayKey P request.intent request.pccb request.context = .ok k → k = key)
    (d : Option PolicyDecision) (v : Locals) (g : Ticket) :
    wp (singleUse request key) (X.attempt P request d v) (fun _ _ => True) g := by
  refine wp_lift ?_ fun _ _ => trivial
  intro _ _
  refine wp_seq _ (wp_claimReplay hinst hclosed hkey v g) ?_ fun _ _ _ _ => trivial
  intro state v1 g1 h1
  obtain ⟨row, rfl, hrow⟩ := h1 state rfl
  refine wp_assign ?_
  have hv : Holds key { v1 with replayState := some row } := ⟨row, rfl, hrow⟩
  refine wp_seq _ (wp_notHandler (frame_lookupPrior fun _ _ _ => trivial) hv g1) ?_ fun _ _ _ _ => trivial
  intro prior v2 g2 h2
  cases prior with
  | none => exact wp_dispatch hinst hclosed h2 g2
  | some prior =>
    exact wp_mono (wp_notHandler (frame_returnPrior (fun _ _ => trivial) trivial (fun _ => trivial)
      (fun _ _ h => h) prior) h2 g2) fun _ _ _ => trivial

/-- **One call**: it calls the handler with its own request, and pays with a consumption. -/
theorem wp_call {inst : Nat} (hinst : X.replayProtector = some inst) (hclosed : X.failOpen = false)
    (hkey : ∀ k, buildReplayKey P request.intent request.pccb request.context = .ok k → k = key)
    (d : Option PolicyDecision) (g : Ticket) :
    wp (singleUse request key) (X.call P request d) (fun _ _ => True) g := by
  refine wp_catching _ (wp_attempt hinst hclosed hkey d {} g) (fun _ _ _ _ => trivial) ?_
  intro e v g' _
  exact wp_mono (wp_notHandler (J := fun _ => True) (frame_onRaise (fun _ _ => trivial)
    (fun _ _ => trivial) trivial trivial (fun _ => trivial) (fun _ => trivial) (fun _ _ h => h) e)
    trivial g') fun _ _ _ => trivial

/-! ## histories and monitors -/

/-- the row this call has inserted is there -/
theorem singleUse_step {w w' : World} {e : KernelEvent} {g : Ticket} (h : World.step P w e w')
    (hR : g.claimed = true → (w.replay.find key).isSome) :
    (singleUse request key).possible g e.1 e.2 ∧
      (((singleUse request key).next g e.1 e.2).claimed = true → (w'.replay.find key).isSome) := by
  have hkeep : g.claimed = true → (w'.replay.find key).isSome := fun hc =>
    (step_find h key).present (hR hc)
  obtain ⟨op, answer⟩ := e
  cases op with
  | store inst tx =>
    obtain ⟨hs, -⟩ := h
    cases tx with
    | claim c now =>
      refine ⟨trivial, ?_⟩
      change PyM Bool at answer
      match answer, hs with
      | .error _, _ => exact hkeep
      | .ok false, _ => exact hkeep
      | .ok true, .inr ⟨_, he, _⟩ => cases he
      | .ok true, .inl hs =>
        show (if c.replayKey = key then ({ g with claimed := true } : Ticket) else g).claimed = true → _
        split
        · rename_i hk
          subst hk
          intro _
          rw [claim_ok hs]
          rfl
        · exact hkeep
    | inspect k now =>
      refine ⟨?_, hkeep⟩
      change PyM InspectResult at answer
      match answer, hs with
      | .error _, _ => trivial
      | .ok .expired, _ => trivial
      | .ok .missing, .inr ⟨_, he, _⟩ => cases he
      | .ok .missing, .inl hs =>
        intro hk
        subst hk
        rw [← Bool.not_eq_true]
        intro hc
        have hsome := hR hc
        rw [inspect_missing hs] at hsome
        cases hsome
      | .ok (.found row), .inr ⟨_, he, _⟩ => cases he
      | .ok (.found row), .inl hs => exact find_key (inspect_found hs)
    | consume k now =>
      refine ⟨trivial, ?_⟩
      change PyM Bool at answer
      match answer with
      | .error _ => exact hkeep
      | .ok false => exact hkeep
      | .ok true =>
        show (if k = key then ({ g with unused := g.unused + 1 } : Ticket) else g).claimed = true → _
        split
        · exact hkeep
        · exact hkeep
    | _ => exact ⟨trivial, hkeep⟩
  | _ => exact ⟨trivial, hkeep⟩

/-- every caller of a history sees possible answers -/
theorem singleUse_possible {ι : Type} [DecidableEq ι] {w w' : World} {h : List (ι × KernelEvent)}
    (hf : Follows (World.step P) w (h.map Prod.snd) w') (i : ι) :
    (singleUse request key).Possible {} (proj i h) :=
  (possible_of_follows (M := singleUse request key)
    (R := fun w g => g.claimed = true → (w.replay.find key).isSome)
    (fun _ _ _ _ hs hR => singleUse_step hs hR)
    (fun _ _ _ _ hs hR hc => (step_find hs key).present (hR hc)) i hf (fun h => nomatch h)).1

/-! ## counting -/

/-- only a consumption gives something to use -/
theorem unused_next_le (g : Ticket) (e : KernelEvent) (h : ¬ consumptionOf key e = true) :
    ((singleUse request key).next g e.1 e.2).unused ≤ g.unused := by
  obtain ⟨op, answer⟩ := e
  cases op with
  | handler r c => exact Nat.sub_le _ _
  | store inst tx =>
    cases tx with
    | claim c now =>
      change PyM Bool at answer
      match answer with
      | .error _ => exact Nat.le_refl _
      | .ok false => exact Nat.le_refl _
      | .ok true =>
        show (if c.replayKey = key then ({ g with claimed := true } : Ticket) else g).unused ≤ _
        split
        · exact Nat.le_refl _
        · exact Nat.le_refl _
    | consume k now =>
      change PyM Bool at answer
      cases answer with
      | error e => exact Nat.le_refl _
      | ok changed =>
        cases changed with
        | false => exact Nat.le_refl _
        | true =>
          have hk : ¬ k = key := by
            intro hk
            subst hk
            exact h (by simp [consumptionOf])
          show (if k = key then ({ g with unused := g.unused + 1 } : Ticket) else g).unused ≤ _
          rw [if_neg hk]
    | _ => exact Nat.le_refl _
  | _ => exact Nat.le_refl _

theorem handlerOf_iff {e : KernelEvent} (h : handlerOf P key e = true) :
    ∃ r c, e.1 = .handler r c ∧ buildReplayKey P r.intent r.pccb r.context = .ok key := by
  obtain ⟨op, answer⟩ := e
  cases op with
  | handler r c =>
    refine ⟨r, c, rfl, ?_⟩
    simp only [handlerOf] at h
    split at h
    · rename_i k hk
      rw [hk, of_decide_eq_true h]
    · cases h
  | _ => cases h

/-- the handler calls of a run were paid for -/
theorem handlers_le {g : Ticket} {t : List KernelEvent} (h : (singleUse request key).Allowed g t) :
    t.countP (handlerOf P key) ≤ g.unused + t.countP (consumptionOf key) := by
  induction t generalizing g with
  | nil => exact Nat.zero_le _
  | cons e t ih =>
    obtain ⟨h1, h2⟩ := h
    have ht := ih h2
    by_cases hh : handlerOf P key e = true
    · obtain ⟨op, answer⟩ := e
      obtain ⟨r, c, rfl, -⟩ := handlerOf_iff hh
      have hpaid : 0 < g.unused := h1.2
      have hnext : t.countP (handlerOf P key) ≤ (g.unused - 1) + t.countP (consumptionOf key) := ht
      rw [List.countP_cons_of_pos hh, List.countP_cons_of_neg (by simp [consumptionOf])]
      omega
    · rw [List.countP_cons_of_neg hh]
      by_cases hc : consumptionOf key e = true
      · rw [List.countP_cons_of_pos hc]
        obtain ⟨inst, now, rfl⟩ := consumptionOf_iff hc
        have hnext : t.countP (handlerOf P key)
            ≤ (if key = key then ({ g with unused := g.unused + 1 } : Ticket) else g).unused
              + t.countP (consumptionOf key) := ht
        rw [if_pos rfl] at hnext
        show _ ≤ g.unused + (t.countP (consumptionOf key) + 1)
        have hone : ({ g with unused := g.unused + 1 } : Ticket).unused = g.unused + 1 := rfl
        omega
      · rw [List.countP_cons_of_neg hc]
        refine Nat.le_trans ht (Nat.add_le_add_right ?_ _)
        exact unused_next_le g e hc

/-- a call has no handler calls of another replay key -/
theorem no_handlers {k : String} {g : Ticket} {t : List KernelEvent}
    (h : (singleUse request key).Allowed g t)
    (hk : buildReplayKey P request.intent request.pccb request.context ≠ .ok k) :
    t.countP (handlerOf P k) = 0 := by
  induction t generalizing g with
  | nil => rfl
  | cons e t ih =>
    obtain ⟨h1, h2⟩ := h
    rw [List.countP_cons_of_neg ?_]
    · exact ih h2
    · intro hh
      obtain ⟨op, answer⟩ := e
      obtain ⟨r, c, rfl, hr⟩ := handlerOf_iff hh
      obtain rfl : r = request := h1.1
      exact hk hr

end

/-- replay protection is enabled and fails closed -/
def ProtectedExecutor.Guarded (X : ProtectedExecutor) : Prop :=
  X.replayProtector.isSome ∧ X.failOpen = false

section
variable {P : Platform} {ι : Type} [DecidableEq ι] {calls : ι → ExecuteCall} {w w' : World}
  {h : List (Option ι × KernelEvent)}

/-- the part of one call pays for its handler calls -/
theorem handlers_le_of_call (hguarded : ∀ i, (calls i).executor.Guarded) (H : History P calls w h w')
    (key : String) (i : ι) :
    (proj (some i) h).countP (handlerOf P key) ≤ (proj (some i) h).countP (consumptionOf key) := by
  obtain ⟨p, hp⟩ := H.reached i
  obtain ⟨hsome, hclosed⟩ := hguarded i
  obtain ⟨inst, hinst⟩ := Option.isSome_iff_exists.mp hsome
  have hrun : ∀ key', (∀ k, buildReplayKey P (calls i).request.intent (calls i).request.pccb
      (calls i).request.context = .ok k → k = key') →
      (singleUse (calls i).request key').Allowed {} (proj (some i) h) := fun key' hkey =>
    (wp_reaches (wp_call hinst hclosed hkey (calls i).policyDecision {}) hp
      (singleUse_possible H.follows (some i))).1
  cases hk : buildReplayKey P (calls i).request.intent (calls i).request.pccb
      (calls i).request.context with
  | error e =>
    rw [no_handlers (hrun key fun k h => nomatch hk.symm.trans h) (by rw [hk]; exact fun h => nomatch h)]
    exact Nat.zero_le _
  | ok k =>
    have hallowed := hrun k fun k' h => (Except.ok.inj (hk.symm.trans h)).symm
    by_cases hkey : k = key
    · subst hkey
      have hle := handlers_le (P := P) hallowed
      rw [Nat.zero_add] at hle
      exact hle
    · rw [no_handlers hallowed (by rw [hk]; exact fun h => hkey (Except.ok.inj h))]
      exact Nat.zero_le _

/-- transactions of others are no handler calls -/
theorem no_handlers_of_others (H : History P calls w h w') (key : String) :
    (proj none h).countP (handlerOf P key) = 0 := by
  rw [List.countP_eq_zero]
  intro e he hh
  obtain ⟨r, c, hop, -⟩ := handlerOf_iff hh
  have hs := H.others e he
  rw [hop] at hs
  cases hs

theorem countP_filter_eq_proj (p : KernelEvent → Bool) (i : Option ι) :
    (h.filter fun e => e.1 = i).countP (p ∘ Prod.snd) = (proj i h).countP p := by
  unfold proj
  rw [List.countP_map]

/-- the handler calls of a history were paid for -/
theorem handlers_le_consumptions (hguarded : ∀ i, (calls i).executor.Guarded)
    (H : History P calls w h w') (key : String) :
    (h.map Prod.snd).countP (handlerOf P key) ≤ (h.map Prod.snd).countP (consumptionOf key) := by
  rw [List.countP_map, List.countP_map]
  refine countP_le_of_proj _ _ h ?_
  intro i
  rw [countP_filter_eq_proj, countP_filter_eq_proj]
  cases i with
  | none =>
    rw [no_handlers_of_others H key]
    exact Nat.zero_le _
  | some i => exact handlers_le_of_call hguarded H key i

/-- `claim_once` that goes through returns the row -/
theorem claimOnce_isSome (hf : Follows (World.step P) w (h.map Prod.snd) w') {i : Option ι} {S : Type}
    {s s' : S} {before run after : List KernelEvent} {inst : Nat} {claim : ActionConsumptionClaim}
    {now : Datetime} {state : Option ActionConsumptionState}
    (hrun : proj i h = before ++ run ++ after)
    (hr : Reaches (claimOnce inst claim now s) run (.ret (.ok state, s'))) : state.isSome := by
  have hp : (singleUse default claim.replayKey).Possible {} (before ++ run ++ after) := by
    rw [← hrun]
    exact singleUse_possible hf i
  have hrunPossible := (Monitor.possible_append.mp (Monitor.possible_append.mp hp).1).2
  obtain ⟨row, rfl, -⟩ := (wp_reaches (wp_claimOnce inst claim rfl now s _) hr hrunPossible).2 state rfl
  rfl

/-- **A proof is used once.**  In every history of calls of `execute` and of transactions of the
replay store, for every replay key: the handler is called at most once, `mark_consumed` succeeds at
most once, a consumed row stays as it is, and a `claim_once` that succeeds returns the row. -/
theorem execute_single_use (hguarded : ∀ i, (calls i).executor.Guarded) (H : History P calls w h w')
    (key : String) :
    (h.map Prod.snd).countP (handlerOf P key) ≤ 1 ∧
    (h.map Prod.snd).countP (consumptionOf key) ≤ 1 ∧
    (∀ before after v row, h = before ++ after → Follows (World.step P) w (before.map Prod.snd) v →
      Follows (World.step P) v (after.map Prod.snd) w' → v.replay.find key = some row →
      row.status = .consumed → w'.replay.find key = some row) ∧
    (∀ (i : Option ι) (S : Type) (s s' : S) before run after inst claim now state,
      proj i h = before ++ run ++ after →
      Reaches (claimOnce inst claim now s) run (.ret (.ok state, s')) → state.isSome) := by
  have hone := consumptions_le_one key H.follows
  refine ⟨Nat.le_trans (handlers_le_consumptions hguarded H key) hone, hone, ?_, ?_⟩
  · intro before after v row _ _ hafter hrow hc
    exact follows_consumed hafter hrow hc
  · intro i S s s' before run after inst claim now state hrun hr
    exact claimOnce_isSome H.follows hrun hr

end

/-! ## the sample, twice -/

def sampleCredential : BrokeredCredential where
  credentialId := "cred_1"
  issuedAt := sampleIssued
  expiresAt := sampleIssued
  scope := ["repo.read"]

/-- a world in which nothing fails -/
def sampleAnswers : (op : Op) → Res op
  | .store _ _ => (.error (.other ⟨.other "OperationalError", "no store"⟩) : PyM _)
  | .lookup _ _ => (.ok none : PyM (Option Prior))
  | .effectClaim _ _ => (.ok true : PyM Bool)
  | .acquire _ => (.ok sampleCredential : PyM BrokeredCredential)
  | .handler _ _ => (.ok (.obj (members [("external_reference", .str "ext_1")])) : PyM Json)
  | .receiptId => (.ok "rcpt_1" : PyM String)
  | .refusalId => (.ok "rfsl_1" : PyM String)
  | .record _ _ _ _ | .escrowConsume _ _ _ _ | .release _ _ | .writeReceipt _ | .writeRefusal _ =>
    (.ok () : PyM Unit)

def sampleExecutor : ProtectedExecutor where
  proofVerifier := sampleVerifier
  replayProtector := some 0

def sampleCall : ExecuteCall := ⟨sampleExecutor, sampleRequest, none⟩

/-- a call against a world, with the world after it and its run -/
def ExecuteCall.runAlone (P : Platform) (answers : (op : Op) → Res op) (c : ExecuteCall) (w : World) :=
  exec (World.env P answers) (c.program P) w

section
variable (P : Platform) (answers : (op : Op) → Res op) (c d : ExecuteCall) (w : World)

theorem runAlone_reaches :
    Reaches (c.program P) (c.runAlone P answers w).2.2 (.ret (c.runAlone P answers w).1) :=
  exec_reaches _ _ _

/-- two calls, one after the other -/
def runBoth : List (Option Bool × KernelEvent) :=
  (c.runAlone P answers w).2.2.map (Prod.mk (some true)) ++
    (d.runAlone P answers (c.runAlone P answers w).2.1).2.2.map (Prod.mk (some false))

theorem proj_runBoth (i : Option Bool) :
    proj i (runBoth P answers c d w) =
      (if some true = i then (c.runAlone P answers w).2.2 else []) ++
        if some false = i then (d.runAlone P answers (c.runAlone P answers w).2.1).2.2 else [] := by
  unfold runBoth
  rw [proj_append, proj_tagged, proj_tagged]

theorem history_runBoth :
    History P (fun first : Bool => if first then c else d) w (runBoth P answers c d w)
      (d.runAlone P answers (c.runAlone P answers w).2.1).2.1 where
  follows := by
    unfold runBoth
    rw [List.map_append, List.map_map, List.map_map, follows_append]
    refine ⟨(c.runAlone P answers w).2.1, ?_, ?_⟩
    · exact (List.map_id _).symm ▸ exec_follows (World.env_step P answers) _ w
    · exact (List.map_id _).symm ▸ exec_follows (World.env_step P answers) _ _
  reached := by
    intro first
    rw [proj_runBoth]
    cases first with
    | true =>
      show ∃ p, Reaches (c.program P) ((c.runAlone P answers w).2.2 ++ []) p
      rw [List.append_nil]
      exact ⟨_, runAlone_reaches P answers c w⟩
    | false => exact ⟨_, runAlone_reaches P answers d _⟩
  others := by
    intro e he
    rw [proj_runBoth] at he
    cases he

end

/-- the proof of the sample is presented twice -/
def sampleTwice : List (Option Bool × KernelEvent) :=
  runBoth kernelPlatform sampleAnswers sampleCall sampleCall emptyWorld

def sampleReplayKey : String := "rpk_99905ff373fc048d972f03ca8bec025f92f752ff72be2384c6a7c6c33464c12d"

/-- the first call runs the handler, the second does not -/
theorem execute_single_use_twice :
    (sampleTwice.map Prod.snd).countP (handlerOf kernelPlatform sampleReplayKey) = 1 := by
  have hguarded : ∀ first : Bool, (if first then sampleCall else sampleCall).executor.Guarded := by
    intro first
    rw [ite_self]
    exact ⟨rfl, rfl⟩
  refine Nat.le_antisymm (execute_single_use hguarded
    (history_runBoth kernelPlatform sampleAnswers sampleCall sampleCall emptyWorld) sampleReplayKey).1 ?_
  decide +kernel

end Actenon
