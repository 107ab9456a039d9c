import ActenonKernel.Boundary.SingleUse
import ActenonKernel.Replay.Alone

/-!
# The two replay modes of the boundary

A `BoundaryVerifier` keeps the used proofs in a replay store or in a set of its process.  The same
requests, one after the other, go through both.

* `StoreTx.About`             a transaction about one key leaves the other rows as they are;
* `Steady`                    programs that the answers of others decide;
* `runDurable`, `runInMemory`    the results of a sequence of requests in each mode;
* `FirstUsesLive`             every first use of a proof comes before `expires_at`;
* `boundary_modes_agree`      then the modes give the same results.
-/

set_option linter.unusedSectionVars false

namespace Actenon

open Program

/-! ## rows of other keys -/

/-- the transaction is about this key -/
def StoreTx.About (key : String) : StoreTx → Prop
  | .claim c _ => c.replayKey = key
  | .consume k _ => k = key
  | .release k _ _ => k = key
  | .inspect k _ => k = key
  | .purge _ => False

/-- the operation is a transaction about this key -/
def Op.About (key : String) : Op → Prop
  | .store _ tx => tx.About key
  | _ => False

section
variable {db : ReplayDb} {inst : Nat} {key k : String}

theorem find_commit_update_other {α : Type} (p : ActionConsumptionState → Bool)
    (f : ActionConsumptionState → ActionConsumptionState) (hf : ∀ r, (f r).replayKey = r.replayKey)
    (hp : ∀ r, p r = true → r.replayKey = key) (result : α) (hk : k ≠ key) :
    (commitTable db inst (db.table.update p f hf) result).2.find k = db.find k := by
  rcases commitTable_find db inst (db.table.update p f hf) result k with h | h
  · exact h
  · rw [h, Table.find_update]
    show (db.find k).map _ = db.find k
    cases hrow : db.find k with
    | none => rfl
    | some row =>
      have hp' : ¬ p row = true := fun hpr => hk ((find_key hrow).symm.trans (hp row hpr))
      rw [Option.map_some, if_neg hp']

/-- a transaction about one key leaves the rows of the others -/
theorem run_find_other {tx : StoreTx} (h : tx.About key) (hk : k ≠ key) :
    (tx.run inst db).2.find k = db.find k := by
  have hrow : ∀ status r, rowIs key status r = true → r.replayKey = key := fun status r hr =>
    (rowIs_iff.mp hr).1
  cases tx with
  | claim claim now =>
    obtain rfl : claim.replayKey = key := h
    refine transaction_snd (I := fun db' => db'.find k = db.find k) rfl ?_
    unfold claimTx
    dsimp only
    split
    · rfl
    · rename_i hnone
      change (deleteEnded (expireRow db.table claim.replayKey now) claim.replayKey).find claim.replayKey
        = none at hnone
      rcases commitTable_find (db.observe inst db.counter) inst ((deleteEnded (expireRow db.table
        claim.replayKey now) claim.replayKey).insert (claim.row now)) true k with hc | hc
      · exact hc
      · refine hc.trans ?_
        rw [Table.find_insert_of_none (r := claim.row now) hnone,
          if_neg (show ¬ (claim.row now).replayKey = k from fun he => hk he.symm)]
        rcases find_claimable db.table claim.replayKey now k with hf | ⟨hf, -⟩
        · exact hf
        · exact absurd hf hk
  | consume replayKey now =>
    obtain rfl : replayKey = key := h
    refine transaction_snd (I := fun db' => db'.find k = db.find k) rfl ?_
    unfold consumeTx
    split
    · rfl
    · exact find_commit_update_other _ _ _ (hrow .claimed) _ hk
  | release replayKey now reason =>
    obtain rfl : replayKey = key := h
    refine transaction_snd (I := fun db' => db'.find k = db.find k) rfl ?_
    unfold releaseTx
    split
    · rfl
    · split
      · rfl
      · split
        · rfl
        · exact find_commit_update_other _ _ _ (hrow .claimed) _ hk
  | inspect replayKey now =>
    obtain rfl : replayKey = key := h
    refine transaction_snd (I := fun db' => db'.find k = db.find k) rfl ?_
    unfold inspectTx
    split
    · rfl
    · split
      · exact find_commit_update_other _ _ _ (hrow .claimed) _ hk
      · rfl
  | purge now => exact absurd h id

/-- a consumed row is in the way of a claim -/
theorem not_claimable_of_consumed {row : ActionConsumptionState} (now : Datetime)
    (h : db.find key = some row) (hc : row.status = .consumed) : ¬ db.Claimable key now := by
  rcases find_claimable db.table key now key with hf | ⟨-, -, old, hold, hs⟩
  · intro hfree
    cases (hf.symm.trans hfree).symm.trans h
  · cases h.symm.trans hold
    exact absurd hc hs

end

section
variable {P : Platform} {answers : (op : Op) → Res op} {S α : Type} {key k : String} {w : World}

/-- a program about one key leaves the rows of the others -/
theorem exec_find_other {p : Prog Op Res α} {Q : α → Prop} (h : Only (Op.About key) Q p) (hk : k ≠ key) :
    (exec (World.env P answers) p w).2.1.replay.find k = w.replay.find k := by
  induction p generalizing w with
  | ret a => rfl
  | call op f ih =>
    obtain ⟨hop, hrest⟩ := h
    refine (ih _ (hrest _)).trans ?_
    cases op with
    | store inst tx => exact run_find_other hop hk
    | _ => exact absurd hop id

theorem about_inspect (inst : Nat) (now : Datetime) (depth : Nat) (J : S → Prop) :
    Frame (Op.About key) J (inspectUpTo inst key now depth) := by
  induction depth with
  | zero => exact frame_raise _
  | succ depth ih =>
    refine frame_seq (frame_perform rfl) fun answer => ?_
    cases answer with
    | missing => exact frame_pure _
    | expired => exact ih
    | found row => exact frame_pure _

theorem about_claimOnce (inst : Nat) (claim : ActionConsumptionClaim) (now : Datetime) (J : S → Prop) :
    Frame (Op.About claim.replayKey) J (claimOnce inst claim now) := by
  refine frame_seq (frame_perform rfl) fun inserted => ?_
  refine frame_seq (about_inspect inst now _ J) fun state => ?_
  cases inserted with
  | false => exact frame_raise _
  | true => exact frame_pure _

theorem about_markConsumed (inst : Nat) (now : Datetime) (J : S → Prop) :
    Frame (Op.About key) J (markConsumed inst key now) := by
  refine frame_seq (frame_perform rfl) fun changed => ?_
  refine frame_seq (about_inspect inst now _ J) fun state => ?_
  cases changed with
  | false => exact frame_raise _
  | true => exact frame_pure _

/-- what is proved of a program that runs alone -/
theorem exec_alone {p : Prog Op Res α} {Q : α → World → Prop}
    (h : wp (alone P answers) p (fun a g => Q a g.world) ⟨w, false⟩) :
    Q (exec (World.env P answers) p w).1 (exec (World.env P answers) p w).2.1 := by
  have henv : ∀ (w : World) (g : Alone) (op : Op), g.world = w →
      (alone P answers).possible g op (World.env P answers op w).1 ∧
        ((alone P answers).next g op (World.env P answers op w).1).world = (World.env P answers op w).2 := by
    intro w g op hg
    subst hg
    exact ⟨rfl, rfl⟩
  have hexec := wp_exec (R := fun w g => g.world = w) henv h rfl
  rw [← hexec.2]
  exact hexec.1

end

/-! ## programs that the answers of others decide -/

section
variable {P : Platform} {answers : (op : Op) → Res op} {S α β : Type}

/-- the result depends on the answers only; the variables and the world stay as they are -/
def Steady (P : Platform) (answers : (op : Op) → Res op) (m : Kernel S α) (r : Except Raised α) : Prop :=
  ∀ s w, (exec (World.env P answers) (m s) w).1 = (r, s) ∧ (exec (World.env P answers) (m s) w).2.1 = w

theorem steady_pure (a : α) : Steady P answers (pure a : Kernel S α) (.ok a) := fun _ _ => ⟨rfl, rfl⟩

theorem steady_raise (e : Raised) : Steady P answers (Act.raise e : Kernel S α) (.error e) :=
  fun _ _ => ⟨rfl, rfl⟩

theorem steady_lift (x : Except Raised α) : Steady P answers (Act.lift x : Kernel S α) x :=
  fun _ _ => ⟨rfl, rfl⟩

theorem steady_effectClaim (reference : EffectReference) (request : ProtectedExecutionRequest) :
    Steady P answers (Act.perform (.effectClaim reference request) rfl : Kernel S Bool)
      (answers (.effectClaim reference request)) := fun _ _ => ⟨rfl, rfl⟩

theorem steady_seq {m : Kernel S α} {f : α → Kernel S β} (hm : ∃ r, Steady P answers m r)
    (hf : ∀ a, ∃ r, Steady P answers (f a) r) : ∃ r, Steady P answers (m >>= f) r := by
  obtain ⟨x, hx⟩ := hm
  have hbind : ∀ s w, (exec (World.env P answers) ((m >>= f) s) w).1
      = (exec (World.env P answers) (Act.resume f (x, s)) w).1 ∧
      (exec (World.env P answers) ((m >>= f) s) w).2.1
        = (exec (World.env P answers) (Act.resume f (x, s)) w).2.1 := by
    intro s w
    obtain ⟨h1, h2⟩ := exec_bind (World.env P answers) (m s) (Act.resume f) w
    rw [(hx s w).1, (hx s w).2] at h1 h2
    exact ⟨h1, h2⟩
  cases x with
  | error e => exact ⟨.error e, hbind⟩
  | ok a =>
    obtain ⟨r, hr⟩ := hf a
    exact ⟨r, fun s w => ⟨(hbind s w).1.trans (hr s w).1, (hbind s w).2.trans (hr s w).2⟩⟩

theorem steady_catching {m : Kernel S α} {handler : Raised → Kernel S α} (hm : ∃ r, Steady P answers m r)
    (hf : ∀ e, ∃ r, Steady P answers (handler e) r) : ∃ r, Steady P answers (Act.catching m handler) r := by
  obtain ⟨x, hx⟩ := hm
  have hbind : ∀ s w, (exec (World.env P answers) (Act.catching m handler s) w).1
      = (exec (World.env P answers) (Act.recover handler (x, s)) w).1 ∧
      (exec (World.env P answers) (Act.catching m handler s) w).2.1
        = (exec (World.env P answers) (Act.recover handler (x, s)) w).2.1 := by
    intro s w
    obtain ⟨h1, h2⟩ := exec_bind (World.env P answers) (m s) (Act.recover handler) w
    rw [(hx s w).1, (hx s w).2] at h1 h2
    exact ⟨h1, h2⟩
  cases x with
  | ok a => exact ⟨.ok a, hbind⟩
  | error e =>
    obtain ⟨r, hr⟩ := hf e
    exact ⟨r, fun s w => ⟨(hbind s w).1.trans (hr s w).1, (hbind s w).2.trans (hr s w).2⟩⟩

theorem steady_claimRequest (E : EffectProtector) (request : ProtectedExecutionRequest) :
    ∃ r, Steady P answers (E.claimRequest P request : Kernel S EffectReference) r := by
  refine steady_seq ⟨_, steady_lift _⟩ fun reference => ?_
  refine steady_seq (steady_catching ⟨_, steady_effectClaim reference request⟩ fun e => ⟨_, steady_raise _⟩) ?_
  intro claimed
  cases claimed with
  | true => exact ⟨_, steady_pure _⟩
  | false => exact ⟨_, steady_raise _⟩

end

/-! ## one request -/

/-- what the set of the process keeps of a proof -/
def identityKey (P : Platform) (pccb : PCCB) : PyM String := orRaise (sha256Hex P (.obj (identityInput pccb)))

section
variable {P : Platform} {answers : (op : Op) → Res op} {B : BoundaryVerifier}
  {request : BoundaryVerificationRequest} {x : ProtectedExecutionRequest}

/-- the steps after the claim -/
def BoundaryVerifier.pass (P : Platform) (B : BoundaryVerifier) (request : BoundaryVerificationRequest)
    (x : ProtectedExecutionRequest) : Kernel (List String) BoundaryVerificationResult := do
  let effect ← B.claimEffect P x
  match effect with
  | .inl r => pure r
  | .inr reference => do
    let hash ← Act.lift (B.receiptRequestHash P request)
    pure (.success x.pccb.pccbId ("rcpt_" ++ String.ofList (request.receiptUuid.toList.take 16)) reference hash)

theorem steady_pass : ∃ r, Steady P answers (B.pass P request x) r := by
  refine steady_seq ?_ fun effect => ?_
  · unfold BoundaryVerifier.claimEffect
    cases B.effectProtector with
    | none => exact ⟨_, steady_pure _⟩
    | some E =>
      refine steady_catching (steady_seq (steady_claimRequest E x) fun reference => ⟨_, steady_pure _⟩) ?_
      intro e
      cases e with
      | refusal r =>
        by_cases hproof : r.category = "proof"
        · exact ⟨_, by simpa [hproof] using steady_pure _⟩
        · exact ⟨_, by simpa [hproof] using steady_raise _⟩
      | other e => exact ⟨_, steady_raise _⟩
  · cases effect with
    | inl r => exact ⟨_, steady_pure _⟩
    | inr reference => exact steady_seq ⟨_, steady_lift _⟩ fun hash => ⟨_, steady_pure _⟩

/-- the result of a call, by the claim and by the steps after it -/
def concluded (passed : Except Raised BoundaryVerificationResult) :
    Except Raised (Option BoundaryVerificationResult) → BoundaryVerificationResult
  | .ok (some r) => r
  | .ok none => passed.toOption.getD outcomeUnknown
  | .error _ => outcomeUnknown

/-- the steps after the claim, if it goes through -/
def finishWith (P : Platform) (B : BoundaryVerifier) (request : BoundaryVerificationRequest)
    (x : ProtectedExecutionRequest) :
    Option BoundaryVerificationResult → Kernel (List String) BoundaryVerificationResult
  | some r => pure r
  | none => B.pass P request x

theorem finish_eq : B.finish P request x.intent x.pccb x.context
    = B.claimSingleUse P x.intent x.pccb x.context >>= finishWith P B request x := rfl

theorem exec_verifyBoundary (hchecked : B.checkRequest P request = .ok (x.intent, x.pccb, x.context))
    {passed : Except Raised BoundaryVerificationResult} (hpass : Steady P answers (B.pass P request x) passed)
    {used used' : List String} {w : World} {claimed : Except Raised (Option BoundaryVerificationResult)}
    (hclaim : (exec (World.env P answers) (B.claimSingleUse P x.intent x.pccb x.context used) w).1
      = (claimed, used')) :
    (exec (World.env P answers) (B.verifyBoundary P request used) w).1 = (.ok (concluded passed claimed), used') ∧
      (exec (World.env P answers) (B.verifyBoundary P request used) w).2.1
        = (exec (World.env P answers) (B.claimSingleUse P x.intent x.pccb x.context used) w).2.1 := by
  have hfinish : ∀ v : World, (exec (World.env P answers) (B.finish P request x.intent x.pccb x.context used) v).1
      = (exec (World.env P answers) (Act.resume (finishWith P B request x)
          (exec (World.env P answers) (B.claimSingleUse P x.intent x.pccb x.context used) v).1)
          (exec (World.env P answers) (B.claimSingleUse P x.intent x.pccb x.context used) v).2.1).1 ∧
      (exec (World.env P answers) (B.finish P request x.intent x.pccb x.context used) v).2.1
      = (exec (World.env P answers) (Act.resume (finishWith P B request x)
          (exec (World.env P answers) (B.claimSingleUse P x.intent x.pccb x.context used) v).1)
          (exec (World.env P answers) (B.claimSingleUse P x.intent x.pccb x.context used) v).2.1).2.1 := by
    intro v
    rw [finish_eq]
    exact exec_bind _ _ _ _
  unfold BoundaryVerifier.verifyBoundary
  rw [hchecked]
  obtain ⟨h1, h2⟩ := exec_bind (World.env P answers) (B.finish P request x.intent x.pccb x.context used)
    (Act.recover fun _ => pure outcomeUnknown) w
  refine (and_congr (Eq.congr_left h1) (Eq.congr_left h2)).mpr ?_
  rw [(hfinish w).1, (hfinish w).2, hclaim]
  cases claimed with
  | error e => exact ⟨rfl, rfl⟩
  | ok refusal =>
    cases refusal with
    | some r => exact ⟨rfl, rfl⟩
    | none =>
      have hresume : Act.resume (finishWith P B request x) (.ok none, used') = B.pass P request x used' := rfl
      rw [hresume, (hpass _ _).1, (hpass _ _).2]
      cases passed with
      | error e => exact ⟨rfl, rfl⟩
      | ok r => exact ⟨rfl, rfl⟩

variable (answers)

/-- the set of the process -/
theorem exec_claim_memory (hmode : B.replayStore = none) {key : String} (hkey : identityKey P x.pccb = .ok key)
    (used : List String) (w : World) :
    exec (World.env P answers) (B.claimSingleUse P x.intent x.pccb x.context used) w
      = (if key ∈ used then (.ok (some replayDetected), used) else (.ok none, key :: used), w, []) := by
  have hprogram : B.claimSingleUse P x.intent x.pccb x.context used
      = .ret (if key ∈ used then (.ok (some replayDetected), used) else (.ok none, key :: used)) := by
    unfold identityKey at hkey
    unfold BoundaryVerifier.claimSingleUse
    rw [hmode, hkey]
    show (if key ∈ used then pure (some replayDetected) else _ : Kernel (List String) _) used = _
    by_cases hused : key ∈ used
    · simp only [hused, if_true]
      rfl
    · simp only [hused, if_false]
      rfl
  rw [hprogram]
  rfl

theorem claim_of_key {key : String} (hkey : buildReplayKey P x.intent x.pccb x.context = .ok key) :
    ∃ claim, buildActionConsumptionClaim P x = .ok claim ∧ claim.replayKey = key ∧
      claim.expiresAt = x.pccb.expiresAt := by
  unfold buildActionConsumptionClaim
  rw [hkey]
  exact ⟨_, rfl, rfl, rfl⟩

section
variable {inst : Nat} (hmode : B.replayStore = some inst) {key : String}
  (hkey : buildReplayKey P x.intent x.pccb x.context = .ok key) (used : List String) {w : World}

include hmode hkey

/-- a proof that is new and not yet at its end is consumed -/
theorem exec_claim_fresh (hm : w.replay.Monotone) (hnone : w.replay.find key = none)
    (hlive : x.context.now < x.pccb.expiresAt) :
    (exec (World.env P answers) (B.claimSingleUse P x.intent x.pccb x.context used) w).1 = (.ok none, used) ∧
      ∃ row, row.status = .consumed ∧ (⟨(exec (World.env P answers)
        (B.claimSingleUse P x.intent x.pccb x.context used) w).2.1, false⟩ : Alone).Has key row := by
  obtain ⟨claim, hclaim, rfl, hexpires⟩ := claim_of_key hkey
  have hread : (claim.row x.context.now).readAt x.context.now = claim.row x.context.now := by
    refine if_neg fun h => ?_
    have hle : claim.expiresAt ≤ x.context.now := h.2
    rw [hexpires] at hle
    exact Nat.not_le.mpr hlive hle
  refine exec_alone (Q := fun (r : Except Raised (Option BoundaryVerificationResult) × List String) v => r = (.ok none, used) ∧
    ∃ row, row.status = .consumed ∧ (⟨v, false⟩ : Alone).Has claim.replayKey row) ?_
  unfold BoundaryVerifier.claimSingleUse
  rw [hmode]
  refine wp_lift ?_ ?_
  · intro claim' hclaim'
    obtain rfl : claim = claim' := Except.ok.inj (hclaim.symm.trans (orRaise_ok hclaim'))
    refine wp_catching (fun r g => r = (.ok none, used) ∧ ∃ row, row.status = .consumed ∧
      g.Has claim.replayKey row) ?_ ?_ ?_
    · refine wp_seq _ (wp_claimOnce_alone inst claim x.context.now used hm
        (claimable_of_none x.context.now hnone)) ?_ ?_
      · rintro state v g ⟨hr, hhas, -, -⟩
        cases hr
        rw [hread] at hhas
        refine wp_seq _ (wp_markConsumed_alone inst x.context.now used hhas rfl) ?_ ?_
        · rintro state' v' g' ⟨⟨row, hr, hhas', hc⟩, -⟩
          cases hr
          exact ⟨rfl, row, hc, hhas'⟩
        · rintro e v' g' ⟨⟨row, hr, -⟩, -⟩
          cases hr
      · rintro e v g ⟨hr, -⟩
        cases hr
    · rintro a v g ⟨hr, row, hc, hhas⟩
      cases hr
      exact ⟨rfl, row, hc, hhas.monotone, hhas.find⟩
    · rintro e v g ⟨hr, -⟩
      cases hr
  · intro e he
    rw [hclaim] at he
    cases he

/-- a proof whose row is consumed is a replay -/
theorem exec_claim_taken {row : ActionConsumptionState} (hm : w.replay.Monotone)
    (hrow : w.replay.find key = some row) (hc : row.status = .consumed) :
    (exec (World.env P answers) (B.claimSingleUse P x.intent x.pccb x.context used) w).1
        = (.ok (some replayDetected), used) ∧
      (⟨(exec (World.env P answers) (B.claimSingleUse P x.intent x.pccb x.context used) w).2.1,
        false⟩ : Alone).Has key row := by
  obtain ⟨claim, hclaim, rfl, -⟩ := claim_of_key hkey
  have hread : row.readAt x.context.now = row := readAt_of_ne _ (by rw [hc]; simp)
  refine exec_alone (Q := fun (r : Except Raised (Option BoundaryVerificationResult) × List String) v => r = (.ok (some replayDetected), used) ∧
    (⟨v, false⟩ : Alone).Has claim.replayKey row) ?_
  unfold BoundaryVerifier.claimSingleUse
  rw [hmode]
  refine wp_lift ?_ ?_
  · intro claim' hclaim'
    obtain rfl : claim = claim' := Except.ok.inj (hclaim.symm.trans (orRaise_ok hclaim'))
    refine wp_catching (fun r g => (∃ e, r = (.error (.refusal e), used)) ∧ g.Has claim.replayKey row) ?_ ?_ ?_
    · refine wp_seq _ (wp_claimOnce_taken inst claim x.context.now used ⟨hm, hrow⟩
        (not_claimable_of_consumed x.context.now hrow hc)) ?_ ?_
      · rintro state v g ⟨hr, -⟩
        cases hr
      · rintro e v g ⟨hr, hhas, -, -⟩
        cases hr
        rw [hread] at hhas
        exact ⟨⟨_, rfl⟩, hhas⟩
    · rintro a v g ⟨⟨e, hr⟩, -⟩
      cases hr
    · rintro e v g ⟨⟨e', hr⟩, hhas⟩
      cases hr
      exact ⟨rfl, hhas.monotone, hhas.find⟩
  · intro e he
    rw [hclaim] at he
    cases he

/-- and no claim touches another row -/
theorem exec_claim_other {k : String} (hk : k ≠ key) :
    (exec (World.env P answers) (B.claimSingleUse P x.intent x.pccb x.context used) w).2.1.replay.find k
      = w.replay.find k := by
  obtain ⟨claim, hclaim, rfl, -⟩ := claim_of_key hkey
  have hframe : Frame (Op.About claim.replayKey) (fun _ => True)
      (B.claimSingleUse P x.intent x.pccb x.context) := by
    unfold BoundaryVerifier.claimSingleUse
    rw [hmode]
    show Frame _ _ (Act.lift (orRaise (buildActionConsumptionClaim P x)) >>= _)
    rw [hclaim]
    refine frame_catching (frame_seq (about_claimOnce inst claim _ _) fun state =>
      frame_seq (about_markConsumed inst _ _) fun state' => frame_pure _) fun e => ?_
    cases e with
    | refusal e => exact frame_pure _
    | other e => exact frame_pure _
  exact exec_find_other (hframe used trivial) hk

end

end

/-! ## one identity, one key in each mode -/

/-- the members of a key input that make the identity -/
structure Identifies (d : Dict) (pccb : PCCB) : Prop where
  uniqueKeys : d.UniqueKeys
  pccbId : Dict.find d (.str "pccb_id") = some (.str pccb.pccbId)
  nonce : Dict.find d (.str "nonce") = some (.str pccb.nonce)
  actionHash : Dict.find d (.str "action_hash") = some (.obj pccb.actionHash.toDict)
  audience : Dict.find d (.str "audience") = some (.obj pccb.audience.toDict)

theorem identifies_identityInput (pccb : PCCB) : Identifies (identityInput pccb) pccb where
  uniqueKeys := by simp [Dict.UniqueKeys, identityInput, keys_members]
  pccbId := by simp [identityInput, find_members_cons]
  nonce := by simp [identityInput, find_members_cons]
  actionHash := by simp [identityInput, find_members_cons]
  audience := by simp [identityInput, find_members_cons]

theorem identifies_replayKeyInput (intent : ActionIntent) (pccb : PCCB) :
    Identifies (replayKeyInput intent pccb) pccb where
  uniqueKeys := by simp [Dict.UniqueKeys, replayKeyInput, keys_members]
  pccbId := by simp [replayKeyInput, find_members_cons]
  nonce := by simp [replayKeyInput, find_members_cons]
  actionHash := by simp [replayKeyInput, find_members_cons]
  audience := by simp [replayKeyInput, find_members_cons]

/-- what is hashed for a request -/
def ProtectedExecutionRequest.messages (P : Platform) (x : ProtectedExecutionRequest) : List (List UInt8) :=
  hashedBytes P (.obj (buildActionHashInput x.intent)) ++ hashedBytes P (.obj (identityInput x.pccb))
    ++ hashedBytes P (.obj (replayKeyInput x.intent x.pccb))

def ProtectedExecutionRequest.Verified (P : Platform) (x : ProtectedExecutionRequest) : Prop :=
  ∃ V : PCCBVerifier, V.verify P x.intent x.pccb x.context = .ok ()

section
variable {P : Platform} {M : List (List UInt8)} {x y : ProtectedExecutionRequest}

theorem PCCB.SameIdentity.symm {p q : PCCB} (h : p.SameIdentity q) : q.SameIdentity p :=
  ⟨h.1.symm, h.2.1.symm, h.2.2.1.symm, h.2.2.2.symm⟩

theorem CollisionFree.mono {N : List (List UInt8)} (h : CollisionFree P M) (hsub : N ⊆ M) :
    CollisionFree P N := fun m hm m' hm' he => h m (hsub hm) m' (hsub hm') he

/-- inputs with one hash have one text -/
theorem sameIdentity_of_hash (hM : CollisionFree P M) {d d' : Dict} {hash : String}
    (h : sha256Hex P (.obj d) = .ok hash) (h' : sha256Hex P (.obj d') = .ok hash)
    (hd : hashedBytes P (.obj d) ⊆ M) (hd' : hashedBytes P (.obj d') ⊆ M)
    {p q : PCCB} (hp : Identifies d p) (hq : Identifies d' q) : p.SameIdentity q := by
  obtain ⟨bytes, hb, hv⟩ := sha256Hex_ok h
  obtain ⟨bytes', hb', hv'⟩ := sha256Hex_ok h'
  have hsha : P.sha256 bytes = P.sha256 bytes' :=
    Hex.toHex_injective (String.ofList_injective (hv.symm.trans hv'))
  have hmem : ∀ {j : Json} {b : List UInt8}, canonicalizeBytes P j = .ok b → b ∈ hashedBytes P j := by
    intro j b hj
    unfold hashedBytes
    rw [hj]
    exact List.mem_cons_self
  obtain rfl : bytes = bytes' := hM bytes (hd (hmem hb)) bytes' (hd' (hmem hb')) hsha
  have hsame : Dict.Same d d' := canonicalizeBytes_inj hb hb'
  have hget := hsame.get hq.uniqueKeys
  have h1 := hget "pccb_id"
  have h2 := hget "nonce"
  have h3 := hget "action_hash"
  simp only [Dict.get, hp.pccbId, hq.pccbId, hp.nonce, hq.nonce, hp.actionHash, hq.actionHash,
    Option.getD_some] at h1 h2 h3
  exact ⟨Json.same_str h1, Json.same_str h2, DigestSpec.eq_of_toDict h3,
    alike_of_member hb hb' hq.uniqueKeys hp.audience hq.audience⟩

theorem identityKey_of_identity (h : x.pccb.SameIdentity y.pccb) :
    identityKey P x.pccb = identityKey P y.pccb := by
  obtain ⟨hpccb, hnonce, hhash, haudience⟩ := h
  have hinput : Json.Alike (.obj (identityInput x.pccb)) (.obj (identityInput y.pccb)) := by
    unfold identityInput
    rw [hpccb, hnonce, hhash]
    refine alike_members ?_
    exact .cons ⟨rfl, .refl _⟩ (.cons ⟨rfl, .refl _⟩ (.cons ⟨rfl, .refl _⟩ (.cons ⟨rfl, haudience⟩ .nil)))
  unfold identityKey sha256Hex
  rw [hinput.bytes]

theorem replayKey_of_identity (hM : CollisionFree P M) (hx : x.messages P ⊆ M) (hy : y.messages P ⊆ M)
    (hVx : x.Verified P) (hVy : y.Verified P) (h : x.pccb.SameIdentity y.pccb) :
    buildReplayKey P x.intent x.pccb x.context = buildReplayKey P y.intent y.pccb y.context := by
  obtain ⟨V, hV⟩ := hVx
  obtain ⟨V', hV'⟩ := hVy
  refine buildReplayKey_of_identity hV hV' h (hM.mono (List.append_subset.mpr ⟨?_, ?_⟩))
  · exact fun m hm => hx (List.mem_append_left _ (List.mem_append_left _ hm))
  · exact fun m hm => hy (List.mem_append_left _ (List.mem_append_left _ hm))

/-- the set has a key of this identity only -/
theorem identity_of_identityKey (hM : CollisionFree P M) (hx : x.messages P ⊆ M) (hy : y.messages P ⊆ M)
    {key : String} (h : identityKey P x.pccb = .ok key) (h' : identityKey P y.pccb = .ok key) :
    x.pccb.SameIdentity y.pccb := by
  refine sameIdentity_of_hash hM (orRaise_ok h) (orRaise_ok h') ?_ ?_ (identifies_identityInput _)
    (identifies_identityInput _)
  · exact fun m hm => hx (List.mem_append_left _ (List.mem_append_right _ hm))
  · exact fun m hm => hy (List.mem_append_left _ (List.mem_append_right _ hm))

/-- the store has a row of this identity only -/
theorem identity_of_replayKey (hM : CollisionFree P M) (hx : x.messages P ⊆ M) (hy : y.messages P ⊆ M)
    {key : String} (h : buildReplayKey P x.intent x.pccb x.context = .ok key)
    (h' : buildReplayKey P y.intent y.pccb y.context = .ok key) : x.pccb.SameIdentity y.pccb := by
  unfold buildReplayKey at h h'
  simp only [Fallible.bind_eq_ok, Fallible.pure_eq_ok] at h h'
  obtain ⟨hash, hhash, rfl⟩ := h
  obtain ⟨hash', hhash', he⟩ := h'
  obtain rfl : hash' = hash := (String.append_right_inj "rpk_").mp he
  refine sameIdentity_of_hash hM hhash hhash' ?_ ?_ (identifies_replayKeyInput _ _)
    (identifies_replayKeyInput _ _)
  · exact fun m hm => hx (List.mem_append_right _ hm)
  · exact fun m hm => hy (List.mem_append_right _ hm)

end

/-! ## sequences of requests -/

/-- a request, with what the effect protector answers -/
structure BoundaryStep where
  request : BoundaryVerificationRequest
  answers : (op : Op) → Res op

def BoundaryVerifier.durable (B : BoundaryVerifier) (inst : Nat) : BoundaryVerifier :=
  { B with replayStore := some inst }

def BoundaryVerifier.inMemory (B : BoundaryVerifier) : BoundaryVerifier := { B with replayStore := none }

/-- what steps 1 to 6 let through -/
def BoundaryVerifier.accepted (P : Platform) (B : BoundaryVerifier) (step : BoundaryStep) :
    Option ProtectedExecutionRequest :=
  match B.checkRequest P step.request with
  | .ok (intent, pccb, context) => some ⟨intent, pccb, context⟩
  | .error _ => none

/-- the results with a replay store, which does not fail -/
def runDurable (P : Platform) (B : BoundaryVerifier) (inst : Nat) :
    List BoundaryStep → World → List (Except Raised BoundaryVerificationResult)
  | [], _ => []
  | step :: steps, w =>
    let run := exec (World.env P step.answers) ((B.durable inst).verifyBoundary P step.request []) w
    run.1.1 :: runDurable P B inst steps run.2.1

/-- the results with the set of the process -/
def runInMemory (P : Platform) (B : BoundaryVerifier) :
    List BoundaryStep → List String → List (Except Raised BoundaryVerificationResult)
  | [], _ => []
  | step :: steps, used =>
    let run := exec (World.env P step.answers) (B.inMemory.verifyBoundary P step.request used) emptyWorld
    run.1.1 :: runInMemory P B steps run.1.2

/-- the proof can be claimed by both modes: its keys can be built, and it is not at its end -/
structure ProtectedExecutionRequest.Claimable (P : Platform) (x : ProtectedExecutionRequest) : Prop where
  replayKey : ∃ key, buildReplayKey P x.intent x.pccb x.context = .ok key
  identityKey : ∃ key, identityKey P x.pccb = .ok key
  live : x.context.now < x.pccb.expiresAt

/-- every first use of a proof is a request that can be claimed -/
def FirstUsesLive (P : Platform) (B : BoundaryVerifier) (steps : List BoundaryStep) : Prop :=
  ∀ before step after x, steps = before ++ step :: after → B.accepted P step = some x →
    (∀ earlier ∈ before, ∀ y, B.accepted P earlier = some y → ¬ y.pccb.SameIdentity x.pccb) →
    x.Claimable P

/-- the messages of a sequence -/
def runMessages (P : Platform) (B : BoundaryVerifier) (steps : List BoundaryStep) : List (List UInt8) :=
  (steps.filterMap (B.accepted P)).flatMap (ProtectedExecutionRequest.messages P)

/-- both modes know the requests `seen` -/
structure SameUses (P : Platform) (seen : List ProtectedExecutionRequest) (w : World) (used : List String) :
    Prop where
  monotone : w.replay.Monotone
  consumed : ∀ x ∈ seen, ∃ key row, buildReplayKey P x.intent x.pccb x.context = .ok key ∧
    w.replay.find key = some row ∧ row.status = .consumed
  rows : ∀ key, w.replay.find key ≠ none →
    ∃ x ∈ seen, buildReplayKey P x.intent x.pccb x.context = .ok key
  added : ∀ x ∈ seen, ∃ key ∈ used, identityKey P x.pccb = .ok key
  keys : ∀ key ∈ used, ∃ x ∈ seen, identityKey P x.pccb = .ok key

section
variable {P : Platform} {B : BoundaryVerifier} {step : BoundaryStep} {x : ProtectedExecutionRequest}

theorem accepted_iff : B.accepted P step = some x ↔
    B.checkRequest P step.request = .ok (x.intent, x.pccb, x.context) := by
  unfold BoundaryVerifier.accepted
  constructor
  · intro h
    split at h
    · rename_i intent pccb context hc
      cases h
      exact hc
    · cases h
  · intro h
    rw [h]

theorem accepted_verified (h : B.accepted P step = some x) : x.Verified P := by
  obtain ⟨V, -, -, hV, -⟩ := checkRequest_ok (accepted_iff.mp h)
  exact ⟨V, hV⟩

/-- a request that is refused in steps 1 to 6 -/
theorem exec_of_not_accepted (h : B.accepted P step = none) :
    ∃ r, ∀ (C : BoundaryVerifier) used w, C.checkRequest P step.request = B.checkRequest P step.request →
      exec (World.env P step.answers) (C.verifyBoundary P step.request used) w = ((.ok r, used), w, []) := by
  unfold BoundaryVerifier.accepted at h
  split at h
  · cases h
  · rename_i stop hstop
    cases stop with
    | refused reason code =>
      refine ⟨.failure reason code, fun C used w hC => ?_⟩
      unfold BoundaryVerifier.verifyBoundary
      rw [hC, hstop]
      rfl
    | raised e =>
      refine ⟨outcomeUnknown, fun C used w hC => ?_⟩
      unfold BoundaryVerifier.verifyBoundary
      rw [hC, hstop]
      rfl

/-- the two runs of one request, by their claims -/
theorem results_of_claims {inst : Nat} {w : World} {used used' : List String}
    {claimed : Except Raised (Option BoundaryVerificationResult)} (h : B.accepted P step = some x)
    (hd : (exec (World.env P step.answers)
      ((B.durable inst).claimSingleUse P x.intent x.pccb x.context []) w).1 = (claimed, []))
    (hm : (exec (World.env P step.answers)
      (B.inMemory.claimSingleUse P x.intent x.pccb x.context used) emptyWorld).1 = (claimed, used')) :
    let durable := exec (World.env P step.answers) ((B.durable inst).verifyBoundary P step.request []) w
    let memory := exec (World.env P step.answers) (B.inMemory.verifyBoundary P step.request used) emptyWorld
    durable.1.1 = memory.1.1 ∧ memory.1.2 = used' ∧ durable.2.1 = (exec (World.env P step.answers)
      ((B.durable inst).claimSingleUse P x.intent x.pccb x.context []) w).2.1 := by
  obtain ⟨passed, hpass⟩ : ∃ r, Steady P step.answers (B.pass P step.request x) r := steady_pass
  have hchecked := accepted_iff.mp h
  obtain ⟨h1, h2⟩ := exec_verifyBoundary (B := B.durable inst) hchecked hpass hd
  obtain ⟨h3, -⟩ := exec_verifyBoundary (B := B.inMemory) hchecked hpass hm
  refine ⟨?_, ?_, h2⟩
  · rw [h1, h3]
  · rw [h3]

variable {M : List (List UInt8)} {seen : List ProtectedExecutionRequest} {w : World} {used : List String}
  (inst : Nat)

/-- a request whose keys both modes have now -/
theorem SameUses.extend (h : SameUses P seen w used) {key key' : String} {row : ActionConsumptionState}
    {w' : World} {used' : List String} (hkey : buildReplayKey P x.intent x.pccb x.context = .ok key)
    (hkey' : identityKey P x.pccb = .ok key') (hhas : (⟨w', false⟩ : Alone).Has key row)
    (hc : row.status = .consumed) (hother : ∀ k, k ≠ key → w'.replay.find k = w.replay.find k)
    (hused : ∀ k, k ∈ used' ↔ k = key' ∨ k ∈ used) : SameUses P (seen ++ [x]) w' used' where
  monotone := hhas.monotone
  consumed := by
    intro y hy
    rcases List.mem_append.mp hy with hy | hy
    · obtain ⟨k, r, hk, hr, hrc⟩ := h.consumed y hy
      by_cases he : k = key
      · subst he
        exact ⟨k, row, hk, hhas.find, hc⟩
      · exact ⟨k, r, hk, (hother k he).trans hr, hrc⟩
    · obtain rfl := List.mem_singleton.mp hy
      exact ⟨key, row, hkey, hhas.find, hc⟩
  rows := by
    intro k hk
    by_cases he : k = key
    · subst he
      exact ⟨x, List.mem_append_right _ List.mem_cons_self, hkey⟩
    · rw [hother k he] at hk
      obtain ⟨y, hy, hyk⟩ := h.rows k hk
      exact ⟨y, List.mem_append_left _ hy, hyk⟩
  added := by
    intro y hy
    rcases List.mem_append.mp hy with hy | hy
    · obtain ⟨k, hk, hyk⟩ := h.added y hy
      exact ⟨k, (hused k).mpr (Or.inr hk), hyk⟩
    · obtain rfl := List.mem_singleton.mp hy
      exact ⟨key', (hused key').mpr (Or.inl rfl), hkey'⟩
  keys := by
    intro k hk
    rcases (hused k).mp hk with rfl | hk
    · exact ⟨x, List.mem_append_right _ List.mem_cons_self, hkey'⟩
    · obtain ⟨y, hy, hyk⟩ := h.keys k hk
      exact ⟨y, List.mem_append_left _ hy, hyk⟩

/-- a proof that both modes know -/
theorem step_replay (hM : CollisionFree P M) (huses : SameUses P seen w used) (haccepted : B.accepted P step = some x)
    (hx : x.messages P ⊆ M) {y : ProtectedExecutionRequest} (hy : y ∈ seen) (hVy : y.Verified P)
    (hMy : y.messages P ⊆ M) (hid : y.pccb.SameIdentity x.pccb) :
    let durable := exec (World.env P step.answers) ((B.durable inst).verifyBoundary P step.request []) w
    let memory := exec (World.env P step.answers) (B.inMemory.verifyBoundary P step.request used) emptyWorld
    durable.1.1 = memory.1.1 ∧ SameUses P (seen ++ [x]) durable.2.1 memory.1.2 := by
  have hkeys := replayKey_of_identity hM hMy hx hVy (accepted_verified haccepted) hid
  have hids := identityKey_of_identity (P := P) hid
  obtain ⟨key, row, hkey, hrow, hc⟩ := huses.consumed y hy
  obtain ⟨key', hused, hkey'⟩ := huses.added y hy
  rw [hkeys] at hkey
  rw [hids] at hkey'
  obtain ⟨hd, hhas⟩ := exec_claim_taken step.answers (B := B.durable inst) rfl hkey [] huses.monotone hrow hc
  have hm := exec_claim_memory step.answers (B := B.inMemory) rfl hkey' used emptyWorld
  rw [if_pos hused] at hm
  obtain ⟨h1, h2, h3⟩ := results_of_claims haccepted hd (congrArg Prod.fst hm)
  refine ⟨h1, ?_⟩
  rw [h2, h3]
  refine huses.extend hkey hkey' hhas hc (fun k hk => exec_claim_other step.answers rfl hkey [] hk) fun k => ?_
  constructor
  · exact Or.inr
  · rintro (rfl | hk)
    · exact hused
    · exact hk

/-- a proof that both modes see for the first time -/
theorem step_first (hM : CollisionFree P M) (huses : SameUses P seen w used) (haccepted : B.accepted P step = some x)
    (hx : x.messages P ⊆ M) (hseen : ∀ y ∈ seen, y.messages P ⊆ M)
    (hnew : ∀ y ∈ seen, ¬ y.pccb.SameIdentity x.pccb) (hlive : x.Claimable P) :
    let durable := exec (World.env P step.answers) ((B.durable inst).verifyBoundary P step.request []) w
    let memory := exec (World.env P step.answers) (B.inMemory.verifyBoundary P step.request used) emptyWorld
    durable.1.1 = memory.1.1 ∧ SameUses P (seen ++ [x]) durable.2.1 memory.1.2 := by
  obtain ⟨key, hkey⟩ := hlive.replayKey
  obtain ⟨key', hkey'⟩ := hlive.identityKey
  have hnone : w.replay.find key = none := by
    by_contra hsome
    obtain ⟨y, hy, hyk⟩ := huses.rows key hsome
    exact hnew y hy (identity_of_replayKey hM (hseen y hy) hx hyk hkey)
  have hunused : key' ∉ used := by
    intro hused
    obtain ⟨y, hy, hyk⟩ := huses.keys key' hused
    exact hnew y hy (identity_of_identityKey hM (hseen y hy) hx hyk hkey')
  obtain ⟨hd, row, hc, hhas⟩ := exec_claim_fresh step.answers (B := B.durable inst) rfl hkey [] huses.monotone hnone hlive.live
  have hm := exec_claim_memory step.answers (B := B.inMemory) rfl hkey' used emptyWorld
  rw [if_neg hunused] at hm
  obtain ⟨h1, h2, h3⟩ := results_of_claims haccepted hd (congrArg Prod.fst hm)
  refine ⟨h1, ?_⟩
  rw [h2, h3]
  exact huses.extend hkey hkey' hhas hc (fun k hk => exec_claim_other step.answers rfl hkey [] hk) fun k => List.mem_cons

/-- **One more request.** -/
theorem step_modes (hM : CollisionFree P M) (hseen : ∀ y ∈ seen, y.Verified P ∧ y.messages P ⊆ M)
    (hstep : ∀ x, B.accepted P step = some x → x.messages P ⊆ M) (huses : SameUses P seen w used)
    (hlive : ∀ x, B.accepted P step = some x → (∀ y ∈ seen, ¬ y.pccb.SameIdentity x.pccb) → x.Claimable P) :
    let durable := exec (World.env P step.answers) ((B.durable inst).verifyBoundary P step.request []) w
    let memory := exec (World.env P step.answers) (B.inMemory.verifyBoundary P step.request used) emptyWorld
    durable.1.1 = memory.1.1 ∧
      SameUses P (seen ++ (B.accepted P step).toList) durable.2.1 memory.1.2 := by
  cases haccepted : B.accepted P step with
  | none =>
    obtain ⟨r, hr⟩ := exec_of_not_accepted haccepted
    rw [hr (B.durable inst) [] w rfl, hr B.inMemory used emptyWorld rfl, Option.toList_none, List.append_nil]
    exact ⟨rfl, huses⟩
  | some x =>
    have hx := hstep x haccepted
    rw [Option.toList_some]
    by_cases hreplay : ∃ y ∈ seen, y.pccb.SameIdentity x.pccb
    · obtain ⟨y, hy, hid⟩ := hreplay
      obtain ⟨hVy, hMy⟩ := hseen y hy
      exact step_replay inst hM huses haccepted hx hy hVy hMy hid
    · have hnew : ∀ y ∈ seen, ¬ y.pccb.SameIdentity x.pccb := fun y hy hid => hreplay ⟨y, hy, hid⟩
      exact step_first inst hM huses haccepted hx (fun y hy => (hseen y hy).2) hnew (hlive x haccepted hnew)

/-- the run from a point on, by the requests before it -/
theorem runs_of_sameUses (hM : CollisionFree P M) (steps before : List BoundaryStep)
    (hmessages : runMessages P B (before ++ steps) ⊆ M)
    (hlive : FirstUsesLive P B (before ++ steps))
    (huses : SameUses P (before.filterMap (B.accepted P)) w used) :
    runDurable P B inst steps w = runInMemory P B steps used := by
  induction steps generalizing before w used with
  | nil => rfl
  | cons step steps ih =>
    have hseen : ∀ y ∈ before.filterMap (B.accepted P), y.Verified P ∧ y.messages P ⊆ M := by
      intro y hy
      obtain ⟨s, hs, hsy⟩ := List.mem_filterMap.mp hy
      refine ⟨accepted_verified hsy, fun m hm => hmessages ?_⟩
      exact List.mem_flatMap.mpr ⟨y, List.mem_filterMap.mpr ⟨s, List.mem_append_left _ hs, hsy⟩, hm⟩
    have hstep : ∀ x, B.accepted P step = some x → x.messages P ⊆ M := by
      intro x hx m hm
      refine hmessages (List.mem_flatMap.mpr ⟨x, List.mem_filterMap.mpr ⟨step, ?_, hx⟩, hm⟩)
      exact List.mem_append_right _ List.mem_cons_self
    have hfirst : ∀ x, B.accepted P step = some x →
        (∀ y ∈ before.filterMap (B.accepted P), ¬ y.pccb.SameIdentity x.pccb) → x.Claimable P := by
      intro x hx hnew
      exact hlive before step steps x rfl hx fun s hs y hy =>
        hnew y (List.mem_filterMap.mpr ⟨s, hs, hy⟩)
    obtain ⟨hresult, hnext⟩ := step_modes inst hM hseen hstep huses hfirst
    have hbefore : (before ++ [step]).filterMap (B.accepted P)
        = before.filterMap (B.accepted P) ++ (B.accepted P step).toList := by
      rw [List.filterMap_append]
      cases h : B.accepted P step with
      | none => simp [h]
      | some x => simp [h]
    have happend : (before ++ [step]) ++ steps = before ++ step :: steps := by simp
    refine congrArg₂ List.cons hresult ?_
    exact ih (before ++ [step]) (happend ▸ hmessages) (happend ▸ hlive) (hbefore ▸ hnext)

theorem sameUses_empty : SameUses P [] emptyWorld [] where
  monotone := fun _ => Nat.le_refl _
  consumed := fun _ h => nomatch h
  rows := fun _ h => absurd rfl h
  added := fun _ h => nomatch h
  keys := fun _ h => nomatch h

/-- **The modes agree** on every sequence in which each first use of a proof can be claimed: request
by request, the store and the set give one result. -/
theorem boundary_modes_agree (B : BoundaryVerifier) (inst : Nat) (steps : List BoundaryStep)
    (hfree : CollisionFree P (runMessages P B steps)) (hlive : FirstUsesLive P B steps) :
    runDurable P B inst steps emptyWorld = runInMemory P B steps [] :=
  runs_of_sameUses inst hfree steps [] (fun _ h => h) hlive sameUses_empty

end

/-! ## the sample, before and at its end -/

/-- the sample proof at this time -/
def sampleStep (now : Datetime) : BoundaryStep :=
  ⟨sampleBoundaryRequest (String.ofList sampleTokenText) (.intent sampleIntent) now, sampleAnswers⟩

theorem sampleStep_accepted {now : Datetime} {x : ProtectedExecutionRequest}
    (h : (sampleBoundary sampleLoads).accepted kernelPlatform (sampleStep now) = some x) :
    x.intent = sampleIntent ∧ x.pccb = samplePccb ∧ x.context.now = now := by
  obtain ⟨-, hdecode, hintent, -, hnow⟩ := checkRequest_ok (accepted_iff.mp h)
  refine ⟨(Except.ok.inj hintent).symm, ?_, hnow⟩
  exact Except.ok.inj (hdecode.symm.trans samplePass_decoded)

theorem sampleRequest_hashed : CollisionFree kernelPlatform (sampleRequest.messages kernelPlatform) := by
  decide +kernel

theorem sampleIdentity_built : (sha256Hex kernelPlatform (.obj (identityInput samplePccb))).toBool = true := by
  decide +kernel

theorem sampleReplayKey_built :
    (sha256Hex kernelPlatform (.obj (replayKeyInput sampleIntent samplePccb))).toBool = true := by
  decide +kernel

/-- the sample proof, twice before its end -/
theorem boundary_modes_agree_twice :
    runDurable kernelPlatform (sampleBoundary sampleLoads) 0 [sampleStep sampleIssued, sampleStep sampleIssued]
        emptyWorld
      = runInMemory kernelPlatform (sampleBoundary sampleLoads) [sampleStep sampleIssued, sampleStep sampleIssued]
        [] := by
  have hstep : ∀ s ∈ [sampleStep sampleIssued, sampleStep sampleIssued], s = sampleStep sampleIssued := by
    intro s hs
    simpa using hs
  refine boundary_modes_agree (sampleBoundary sampleLoads) 0 _ (sampleRequest_hashed.mono ?_) ?_
  · intro m hm
    obtain ⟨x, hx, hmx⟩ := List.mem_flatMap.mp hm
    obtain ⟨s, hs, hsx⟩ := List.mem_filterMap.mp hx
    rw [hstep s hs] at hsx
    obtain ⟨hintent, hpccb, -⟩ := sampleStep_accepted hsx
    unfold ProtectedExecutionRequest.messages at hmx
    rw [hintent, hpccb] at hmx
    exact hmx
  · intro before s after x hsteps hsx _
    rw [hstep s (hsteps ▸ List.mem_append_right _ List.mem_cons_self)] at hsx
    obtain ⟨hintent, hpccb, hnow⟩ := sampleStep_accepted hsx
    obtain ⟨hash, hhash⟩ := Fallible.exists_ok sampleReplayKey_built
    obtain ⟨identity, hidentity⟩ := Fallible.exists_ok sampleIdentity_built
    constructor
    · refine ⟨"rpk_" ++ hash, ?_⟩
      unfold buildReplayKey
      rw [hintent, hpccb, hhash]
      rfl
    · refine ⟨identity, ?_⟩
      unfold identityKey
      rw [hpccb, hidentity]
      rfl
    · rw [hnow, hpccb]
      decide

def resultValid (r : Except Raised BoundaryVerificationResult) : Bool :=
  match r with
  | .ok result => result.valid
  | .error _ => false

/-- the sample with a parser that needs no text -/
def sampleStepBrief (now : Datetime) : BoundaryStep :=
  ⟨sampleBoundaryRequest "\x7b\x7d" (.intent sampleIntent) now, sampleAnswers⟩

def briefBoundary : BoundaryVerifier := sampleBoundary fun _ => .ok (.obj samplePccb.toDict)

theorem briefRuns :
    (runDurable kernelPlatform briefBoundary 0 [sampleStepBrief sampleExpiry] emptyWorld).map resultValid = [false] ∧
      (runInMemory kernelPlatform briefBoundary [sampleStepBrief sampleExpiry] []).map resultValid = [true] := by
  decide +kernel

/-- the token of the sample is not seen -/
theorem verifyBoundary_brief (C : BoundaryVerifier) (hC : C.loads = sampleLoads) (now : Datetime) :
    C.verifyBoundary kernelPlatform (sampleStep now).request
      = { C with loads := fun _ => .ok (.obj samplePccb.toDict) }.verifyBoundary kernelPlatform
        (sampleStepBrief now).request := by
  refine verifyBoundary_of_decoded C (sampleStep now).request _ "\x7b\x7d"
    (ofList_ne_empty sampleTokenText_head) (by decide) ?_
  rw [hC]
  exact samplePass_decoded.trans sampleBrief_decoded.symm

/-- at `expires_at`, which the verifier accepts, the store calls the first use a replay -/
theorem boundary_modes_at_expiry :
    (runDurable kernelPlatform (sampleBoundary sampleLoads) 0 [sampleStep sampleExpiry] emptyWorld).map resultValid
      ≠ (runInMemory kernelPlatform (sampleBoundary sampleLoads) [sampleStep sampleExpiry] []).map resultValid := by
  have hd : runDurable kernelPlatform (sampleBoundary sampleLoads) 0 [sampleStep sampleExpiry] emptyWorld
      = runDurable kernelPlatform briefBoundary 0 [sampleStepBrief sampleExpiry] emptyWorld := by
    unfold runDurable
    rw [verifyBoundary_brief _ rfl]
    rfl
  have hm : runInMemory kernelPlatform (sampleBoundary sampleLoads) [sampleStep sampleExpiry] []
      = runInMemory kernelPlatform briefBoundary [sampleStepBrief sampleExpiry] [] := by
    unfold runInMemory
    rw [verifyBoundary_brief _ rfl]
    rfl
  rw [hd, hm, briefRuns.1, briefRuns.2]
  decide

end Actenon
