import ActenonKernel.Boundary.Verifier
import ActenonKernel.Proof.CanonicalMembers
import ActenonKernel.Execution.SingleUse

/-!
# A proof passes the boundary once

Calls of `verify_boundary` share one replay database and their transactions come in any order.  A call
that returns `valid=True` has made a consumption of its replay key, and the key is that of the proof
and the action, however the token and the intent were written.

* `PCCB.SameIdentity`         the same identity, nonce, action hash and audience;
* `buildReplayKey_of_identity`    two verified requests with one identity have one replay key;
* `BoundaryHistory`           runs of many calls over one database;
* `boundary_single_use`       at most one valid result for each identity.
-/

set_option linter.unusedSectionVars false

namespace Actenon

open Program

/-! ## one identity, one key -/

/-- the identity of a proof: what the code keys its single use on -/
def PCCB.SameIdentity (p q : PCCB) : Prop :=
  p.pccbId = q.pccbId ∧ p.nonce = q.nonce ∧ p.actionHash = q.actionHash ∧
    Json.Alike (.obj p.audience.toDict) (.obj q.audience.toDict)

theorem PCCB.SameIdentity.refl (p : PCCB) : p.SameIdentity p := ⟨rfl, rfl, rfl, .refl _⟩

/-- the same signed payload, up to the order of members -/
def PCCB.SameSigned (P : Platform) (p q : PCCB) : Prop :=
  canonicalEqual P (.obj p.unsignedPayload) (.obj q.unsignedPayload) = true

section
variable {P : Platform}

/-- a proof that is written another way keeps its identity -/
theorem sameIdentity_of_signed {p q : PCCB} (h : p.SameSigned P q) : p.SameIdentity q := by
  obtain ⟨bytes, hp, hq⟩ := canonicalEqual_iff.mp h
  have hsame := PCCB.same_of_unsignedPayload (canonicalizeBytes_inj hp hq)
  have hfind : ∀ r : PCCB, Dict.find r.unsignedPayload (.str "audience") = some (.obj r.audience.toDict) := by
    intro r
    simp [PCCB.unsignedPayload, Dict.find_append, find_members_cons]
  exact ⟨hsame.pccbId, hsame.nonce, hsame.actionHash,
    alike_of_member hp hq q.uniqueKeys (hfind p) (hfind q)⟩

/-- the hashed form of the intents of two verified requests -/
theorem agree_of_verified {V V' : PCCBVerifier} {i i' : ActionIntent} {p q : PCCB} {c c' : DynamicContextInput}
    (h : V.verify P i p c = .ok ()) (h' : V'.verify P i' q c' = .ok ())
    (hvalue : p.actionHash.value = q.actionHash.value)
    (hfree : CollisionFree P (hashedBytes P (.obj (buildActionHashInput i))
      ++ hashedBytes P (.obj (buildActionHashInput i')))) :
    ∃ bytes, canonicalizeBytes P (.obj (buildActionHashInput i)) = .ok bytes ∧
      canonicalizeBytes P (.obj (buildActionHashInput i')) = .ok bytes := by
  obtain ⟨-, -, -, hhash, -⟩ := verify_ok h
  obtain ⟨-, -, -, hhash', -⟩ := verify_ok h'
  obtain ⟨bytes, hb, hv⟩ := checkActionHash_ok hhash
  obtain ⟨bytes', hb', hv'⟩ := checkActionHash_ok hhash'
  have hsha : P.sha256 bytes = P.sha256 bytes' :=
    Hex.toHex_injective (String.ofList_injective (hv.symm.trans (hvalue.trans hv')))
  have hbytes : bytes = bytes' := by
    refine hfree bytes ?_ bytes' ?_ hsha
    · unfold hashedBytes
      rw [hb]
      exact List.mem_append_left _ List.mem_cons_self
    · unfold hashedBytes
      rw [hb']
      exact List.mem_append_right _ List.mem_cons_self
  exact ⟨bytes, hb, hbytes ▸ hb'⟩

/-- **One identity, one replay key.** -/
theorem buildReplayKey_of_identity {V V' : PCCBVerifier} {i i' : ActionIntent} {p q : PCCB}
    {c c' : DynamicContextInput} (h : V.verify P i p c = .ok ()) (h' : V'.verify P i' q c' = .ok ())
    (hid : p.SameIdentity q)
    (hfree : CollisionFree P (hashedBytes P (.obj (buildActionHashInput i))
      ++ hashedBytes P (.obj (buildActionHashInput i')))) :
    buildReplayKey P i p c = buildReplayKey P i' q c' := by
  obtain ⟨hpccb, hnonce, hhash, haudience⟩ := hid
  obtain ⟨bytes, hb, hb'⟩ := agree_of_verified h h' (congrArg DigestSpec.value hhash) hfree
  have hagree := agree_of_canonicalizeBytes hb hb'
  have hfind : ∀ r : ActionIntent, Dict.find (buildActionHashInput r) (.str "target") = some (.obj r.target.toDict) := by
    intro r
    simp [buildActionHashInput, find_members_cons]
  have htarget := alike_of_member hb hb' (buildActionHashInput_uniqueKeys i') (hfind i) (hfind i')
  have hinput : Json.Alike (.obj (replayKeyInput i p)) (.obj (replayKeyInput i' q)) := by
    unfold replayKeyInput
    rw [hpccb, hnonce, hhash, hagree.intentId, hagree.action.2.1]
    refine alike_members ?_
    exact .cons ⟨rfl, .refl _⟩ (.cons ⟨rfl, .refl _⟩ (.cons ⟨rfl, .refl _⟩ (.cons ⟨rfl, .refl _⟩
      (.cons ⟨rfl, haudience⟩ (.cons ⟨rfl, .refl _⟩ (.cons ⟨rfl, htarget⟩ .nil))))))
  unfold buildReplayKey sha256Hex
  rw [hinput.bytes]

/-! ## what is admitted -/

theorem orRefuse_ok {α : Type} {x : PyM α} {caught : Raised → Bool} {reason code : String} {a : α} :
    orRefuse x caught reason code = .ok a ↔ x = .ok a := by
  unfold orRefuse
  cases x with
  | ok b => simp
  | error e => simp

theorem checkProof_ok {V : PCCBVerifier} {intent : ActionIntent} {pccb : PCCB} {context : DynamicContextInput}
    {u : Unit} : checkProof P V intent pccb context = .ok u ↔ V.verify P intent pccb context = .ok () := by
  unfold checkProof
  split
  · rename_i h
    simp [h]
  · rename_i e h
    rw [h]
    split <;> simp
  · rename_i e _ h
    rw [h]
    simp

/-- what steps 1 to 6 have found -/
theorem checkRequest_ok {B : BoundaryVerifier} {request : BoundaryVerificationRequest} {intent : ActionIntent}
    {pccb : PCCB} {context : DynamicContextInput} (h : B.checkRequest P request = .ok (intent, pccb, context)) :
    ∃ V : PCCBVerifier, decodeProofToken B.loads request.proofToken = .ok pccb ∧ request.intent.resolve = .ok intent ∧
      V.verify P intent pccb context = .ok () ∧ context.now = request.now := by
  unfold BoundaryVerifier.checkRequest at h
  cases hV : B.pccbVerifier with
  | none =>
    rw [hV] at h
    simp only [Fallible.bind_eq_ok] at h
    obtain ⟨_, _, h⟩ := h
    cases h
  | some V =>
    rw [hV] at h
    simp only [Fallible.bind_eq_ok, Fallible.pure_eq_ok, orRefuse_ok, checkProof_ok] at h
    obtain ⟨_, _, p, hp, _, _, i, hi, a, ha, _, _, _, hproof, _, _, _, _, he⟩ := h
    cases he
    exact ⟨V, orRaise_ok hp, hi, hproof, rfl⟩

/-- **The encoding of a token is not seen.**  A call depends on its token through the proof only. -/
theorem verifyBoundary_of_decoded (B : BoundaryVerifier) (request : BoundaryVerificationRequest)
    (loads : String → Except PyError Json) (token : String) (hne : request.proofToken ≠ "") (hne' : token ≠ "")
    (h : decodeProofToken B.loads request.proofToken = decodeProofToken loads token) :
    B.verifyBoundary P request
      = { B with loads := loads }.verifyBoundary P { request with proofToken := token } := by
  have hchecked : B.checkRequest P request
      = { B with loads := loads }.checkRequest P { request with proofToken := token } := by
    unfold BoundaryVerifier.checkRequest refuseWhen
    rw [if_neg hne, if_neg hne', h]
    rfl
  have hhash : B.receiptRequestHash P request
      = { B with loads := loads }.receiptRequestHash P { request with proofToken := token } := by
    unfold BoundaryVerifier.receiptRequestHash
    rw [h]
  have hfinish : B.finish P request
      = { B with loads := loads }.finish P { request with proofToken := token } := by
    funext intent pccb context
    unfold BoundaryVerifier.finish
    rw [hhash]
    rfl
  unfold BoundaryVerifier.verifyBoundary
  rw [hchecked, hfinish]

end

/-! ## a valid result was paid for -/

/-- whether a consumption of the key was made -/
def paid (key : String) : Monitor Res Bool where
  allow _ _ := True
  possible _ _ _ := True
  next g op r := g || consumptionOf key ⟨op, r⟩

section
variable {P : Platform} {key : String} {S α : Type}

/-- a run of the monitor -/
theorem paid_run (g : Bool) (t : List KernelEvent) :
    (paid key).run g t = (g || t.any (consumptionOf key)) := by
  induction t generalizing g with
  | nil => exact (Bool.or_false g).symm
  | cons e t ih =>
    show (paid key).run (g || consumptionOf key e) t = _
    rw [ih, List.any_cons, Bool.or_assoc]

theorem paid_possible (g : Bool) (t : List KernelEvent) : (paid key).Possible g t :=
  Monitor.possible_of_all (fun _ _ _ => trivial) g t

/-- what was paid stays paid -/
theorem wp_paid (p : Prog Op Res α) (g : Bool) : wp (paid key) p (fun _ g' => g = true → g' = true) g := by
  induction p generalizing g with
  | ret a => exact fun h => h
  | call op k ih =>
    refine ⟨trivial, fun r _ => wp_mono (ih r _) fun _ g' hg hpaid => hg ?_⟩
    show (g || consumptionOf key ⟨op, r⟩) = true
    rw [hpaid, Bool.true_or]

theorem wp_markConsumed_paid (inst : Nat) (now : Datetime) (s : S) (g : Bool) :
    wp (paid key) (markConsumed inst key now s) (fun r g' => ∀ a, r.1 = .ok a → g' = true) g := by
  refine wp_perform trivial ?_ fun e _ a h => nomatch h
  intro changed _
  refine wp_seq _ (wp_paid _ _) ?_ fun e s' g' _ a h => nomatch h
  intro state s' g' hg
  cases changed with
  | false => exact fun a h => nomatch h
  | true =>
    intro a _
    refine hg ?_
    have hone : consumptionOf key ⟨.store inst (.consume key now), (.ok true : PyM Bool)⟩ = true := by
      simp [consumptionOf]
    exact (Bool.or_eq_true _ _).mpr (Or.inr hone)

/-- a proof that is let through was consumed -/
theorem wp_claimSingleUse {B : BoundaryVerifier} {inst : Nat} (hinst : B.replayStore = some inst)
    {intent : ActionIntent} {pccb : PCCB} {context : DynamicContextInput}
    (hkey : ∀ k, buildReplayKey P intent pccb context = .ok k → k = key) (s : List String) (g : Bool) :
    wp (paid key) (B.claimSingleUse P intent pccb context s)
      (fun r g' => (r.1 = .ok none → g' = true) ∧ ∀ result, r.1 = .ok (some result) → result.valid = false) g := by
  unfold BoundaryVerifier.claimSingleUse
  rw [hinst]
  refine wp_lift ?_ fun e _ => ⟨fun h => (nomatch h), fun result h => nomatch h⟩
  intro claim hclaim
  obtain rfl := hkey _ (buildActionConsumptionClaim_key (orRaise_ok hclaim))
  refine wp_catching (fun r g' => (r.1 = .ok none → g' = true) ∧ ∀ result, r.1 ≠ .ok (some result)) ?_
    (fun a _ _ h => ⟨h.1, fun result hr => absurd hr (h.2 result)⟩) ?_
  · refine wp_seq _ (wp_paid _ _) ?_ fun e s' g' _ => ⟨fun h => (nomatch h), fun result h => nomatch h⟩
    intro state s' g' _
    refine wp_seq _ (wp_markConsumed_paid inst context.now s' g') ?_
      fun e s' g' _ => ⟨fun h => (nomatch h), fun result h => nomatch h⟩
    intro state' s'' g'' hpaid
    exact ⟨fun _ => hpaid state' rfl, fun result h => nomatch h⟩
  · intro e s' g' _
    cases e with
    | refusal e =>
      refine ⟨fun h => (nomatch h), fun result h => ?_⟩
      cases h
      rfl
    | other e =>
      refine ⟨fun h => (nomatch h), fun result h => ?_⟩
      cases h
      rfl

/-- a valid result of a call with a durable store comes after a consumption of its key -/
theorem wp_verifyBoundary {B : BoundaryVerifier} {inst : Nat} (hinst : B.replayStore = some inst)
    {request : BoundaryVerificationRequest}
    (hkey : ∀ intent pccb context k, B.checkRequest P request = .ok (intent, pccb, context) →
      buildReplayKey P intent pccb context = .ok k → k = key) (s : List String) :
    wp (paid key) (B.verifyBoundary P request s)
      (fun r g' => ∀ result, r.1 = .ok result → result.valid = true → g' = true) false := by
  unfold BoundaryVerifier.verifyBoundary
  cases hchecked : B.checkRequest P request with
  | error stop =>
    cases stop with
    | refused reason code =>
      intro result h hvalid
      cases h
      cases hvalid
    | raised e =>
      intro result h hvalid
      cases h
      cases hvalid
  | ok admitted =>
    obtain ⟨intent, pccb, context⟩ := admitted
    refine wp_catching (fun r g' => ∀ result, r.1 = .ok result → result.valid = true → g' = true) ?_
      (fun _ _ _ h => h) ?_
    · unfold BoundaryVerifier.finish
      refine wp_seq _ (wp_claimSingleUse hinst (fun k => hkey intent pccb context k hchecked) s false) ?_
        fun e s' g' _ result h => nomatch h
      rintro refusal s' g' ⟨hpaid, hrefused⟩
      cases refusal with
      | some r =>
        intro result h hvalid
        cases h
        cases (hrefused r rfl).symm.trans hvalid
      | none =>
        have hg : g' = true := hpaid rfl
        exact wp_mono (wp_paid _ g') fun r g'' hkept result _ _ => hkept hg
    · intro e s' g' _ result h hvalid
      cases h
      cases hvalid

end

/-! ## many calls -/

/-- a call of `verify_boundary` with the set of its process -/
structure BoundaryCall where
  verifier : BoundaryVerifier
  request : BoundaryVerificationRequest
  used : List String := []

def BoundaryCall.program (P : Platform) (c : BoundaryCall) :
    Prog Op Res (Except Raised BoundaryVerificationResult × List String) :=
  c.verifier.verifyBoundary P c.request c.used

/-- the call has returned `valid=True` -/
def BoundaryCall.Valid (P : Platform) (c : BoundaryCall) (t : List KernelEvent) : Prop :=
  ∃ result used, Reaches (c.program P) t (.ret (.ok result, used)) ∧ result.valid = true

/-- the action-hash input of the intent of a call, as it is hashed -/
def BoundaryCall.hashedAction (P : Platform) (c : BoundaryCall) : List (List UInt8) :=
  match c.request.intent.resolve with
  | .ok intent => hashedBytes P (.obj (buildActionHashInput intent))
  | .error _ => []

/-- calls of `verify_boundary`, each as far as it got, and transactions of the replay store that
others make (`none`) -/
structure BoundaryHistory (P : Platform) {ι : Type} [DecidableEq ι] (calls : ι → BoundaryCall) (w : World)
    (h : List (Option ι × KernelEvent)) (w' : World) : Prop where
  follows : Follows (World.step P) w (h.map Prod.snd) w'
  reached : ∀ i, ∃ p, Reaches ((calls i).program P) (proj (some i) h) p
  others : ∀ e ∈ proj none h, e.1.isStore = true

section
variable {P : Platform} {ι : Type} [DecidableEq ι] {calls : ι → BoundaryCall} {w w' : World}
  {h : List (Option ι × KernelEvent)}

/-- a valid call was admitted -/
theorem admitted_of_valid {c : BoundaryCall} {t : List KernelEvent} (hc : c.Valid P t) :
    ∃ intent pccb context, c.verifier.checkRequest P c.request = .ok (intent, pccb, context) := by
  obtain ⟨result, used, hr, hvalid⟩ := hc
  unfold BoundaryCall.program BoundaryVerifier.verifyBoundary at hr
  cases hchecked : c.verifier.checkRequest P c.request with
  | ok admitted => exact ⟨admitted.1, admitted.2.1, admitted.2.2, rfl⟩
  | error stop =>
    rw [hchecked] at hr
    cases stop with
    | refused reason code =>
      obtain ⟨-, he⟩ := hr.of_ret
      cases he
      cases hvalid
    | raised e =>
      obtain ⟨-, he⟩ := hr.of_ret
      cases he
      cases hvalid

/-- and has consumed its replay key -/
theorem consumption_of_valid {c : BoundaryCall} {inst : Nat} (hinst : c.verifier.replayStore = some inst)
    {t : List KernelEvent} (hc : c.Valid P t) {intent : ActionIntent} {pccb : PCCB}
    {context : DynamicContextInput} (hchecked : c.verifier.checkRequest P c.request = .ok (intent, pccb, context))
    {key : String} (hkey : ∀ k, buildReplayKey P intent pccb context = .ok k → k = key) :
    ∃ e ∈ t, consumptionOf key e = true := by
  obtain ⟨result, used, hr, hvalid⟩ := hc
  have hkeys : ∀ i p x k, c.verifier.checkRequest P c.request = .ok (i, p, x) →
      buildReplayKey P i p x = .ok k → k = key := by
    intro i p x k hi hk
    cases hchecked.symm.trans hi
    exact hkey k hk
  have hwp := wp_verifyBoundary hinst hkeys c.used
  have hpaid := (wp_reaches hwp hr (paid_possible false t)).2 result rfl hvalid
  rw [paid_run, Bool.false_or, List.any_eq_true] at hpaid
  exact hpaid

theorem hashedAction_of_admitted {c : BoundaryCall} {intent : ActionIntent} {pccb : PCCB}
    {context : DynamicContextInput} (h : c.verifier.checkRequest P c.request = .ok (intent, pccb, context)) :
    c.hashedAction P = hashedBytes P (.obj (buildActionHashInput intent)) := by
  obtain ⟨-, -, hintent, -, -⟩ := checkRequest_ok h
  unfold BoundaryCall.hashedAction
  rw [hintent]

/-- the parts of two callers are apart -/
theorem countP_filter_add_le {i j : ι} (hne : i ≠ j) (p : Option ι × KernelEvent → Bool) :
    (h.filter fun x => x.1 = some i).countP p + (h.filter fun x => x.1 = some j).countP p ≤ h.countP p := by
  induction h with
  | nil => exact Nat.le_refl _
  | cons x h ih =>
    rw [List.countP_cons]
    by_cases hi : x.1 = some i
    · have hj : ¬ x.1 = some j := fun hj => hne (Option.some.inj (hi.symm.trans hj))
      rw [List.filter_cons_of_pos (by simp [hi]), List.filter_cons_of_neg (by simp [hj]), List.countP_cons]
      omega
    · rw [List.filter_cons_of_neg (by simp [hi])]
      by_cases hj : x.1 = some j
      · rw [List.filter_cons_of_pos (by simp [hj]), List.countP_cons]
        omega
      · rw [List.filter_cons_of_neg (by simp [hj])]
        omega

/-- consumptions in the parts of two callers are two -/
theorem two_consumptions {i j : ι} (hne : i ≠ j) {key : String} {e e' : KernelEvent}
    (he : e ∈ proj (some i) h) (hc : consumptionOf key e = true) (he' : e' ∈ proj (some j) h)
    (hc' : consumptionOf key e' = true) : 2 ≤ (h.map Prod.snd).countP (consumptionOf key) := by
  have hpos : ∀ {k : ι} {x : KernelEvent}, x ∈ proj (some k) h → consumptionOf key x = true →
      0 < (h.filter fun y => y.1 = some k).countP (consumptionOf key ∘ Prod.snd) := by
    intro k x hx hcx
    rw [countP_filter_eq_proj]
    exact List.countP_pos_iff.mpr ⟨x, hx, hcx⟩
  have hi := hpos he hc
  have hj := hpos he' hc'
  have hsum := countP_filter_add_le (h := h) hne (consumptionOf key ∘ Prod.snd)
  rw [List.countP_map]
  omega

/-- **A proof passes once.**  Whatever the tokens and the intents were written like: of two calls over
one replay store with one identity, or with one signed payload, not both return `valid=True`. -/
theorem boundary_single_use (hstore : ∀ i, (calls i).verifier.replayStore.isSome)
    (H : BoundaryHistory P calls w h w') {i j : ι} (hne : i ≠ j) {p q : PCCB}
    (hp : decodeProofToken (calls i).verifier.loads (calls i).request.proofToken = .ok p)
    (hq : decodeProofToken (calls j).verifier.loads (calls j).request.proofToken = .ok q)
    (hid : p.SameIdentity q ∨ p.SameSigned P q)
    (hfree : CollisionFree P ((calls i).hashedAction P ++ (calls j).hashedAction P)) :
    ¬ ((calls i).Valid P (proj (some i) h) ∧ (calls j).Valid P (proj (some j) h)) := by
  rintro ⟨hi, hj⟩
  have hid : p.SameIdentity q := hid.elim id sameIdentity_of_signed
  obtain ⟨intent, pccb, context, hchecked⟩ := admitted_of_valid hi
  obtain ⟨intent', pccb', context', hchecked'⟩ := admitted_of_valid hj
  obtain ⟨V, hdecode, -, hproof, -⟩ := checkRequest_ok hchecked
  obtain ⟨V', hdecode', -, hproof', -⟩ := checkRequest_ok hchecked'
  cases hdecode.symm.trans hp
  cases hdecode'.symm.trans hq
  rw [hashedAction_of_admitted hchecked, hashedAction_of_admitted hchecked'] at hfree
  have hsame := buildReplayKey_of_identity hproof hproof' hid hfree
  -- one key for both calls; any key when there is none
  obtain ⟨key, hkey⟩ : ∃ key, ∀ k, buildReplayKey P intent p context = .ok k → k = key := by
    cases hk : buildReplayKey P intent p context with
    | ok k => exact ⟨k, fun k' h => (Except.ok.inj h).symm⟩
    | error e => exact ⟨"", fun k h => nomatch h⟩
  obtain ⟨inst, hinst⟩ := Option.isSome_iff_exists.mp (hstore i)
  obtain ⟨inst', hinst'⟩ := Option.isSome_iff_exists.mp (hstore j)
  obtain ⟨e, he, hc⟩ := consumption_of_valid hinst hi hchecked hkey
  obtain ⟨e', he', hc'⟩ := consumption_of_valid hinst' hj hchecked' fun k hk => hkey k (hsame.trans hk)
  have htwo := two_consumptions hne he hc he' hc'
  have hone := consumptions_le_one key H.follows
  omega

end

/-! ## the sample, twice -/

/-- a call against a world, with the world after it and its run -/
def BoundaryCall.runAlone (P : Platform) (answers : (op : Op) → Res op) (c : BoundaryCall) (w : World) :=
  exec (World.env P answers) (c.program P) w

def BoundaryCall.accepts (P : Platform) (answers : (op : Op) → Res op) (c : BoundaryCall) (w : World) : Bool :=
  match (c.runAlone P answers w).1.1 with
  | .ok result => result.valid
  | .error _ => false

section
variable (P : Platform) (answers : (op : Op) → Res op) (c d : BoundaryCall) (w : World)

theorem BoundaryCall.runAlone_reaches :
    Reaches (c.program P) (c.runAlone P answers w).2.2
      (.ret ((c.runAlone P answers w).1.1, (c.runAlone P answers w).1.2)) :=
  exec_reaches_pair _ _ _

theorem BoundaryCall.valid_of_accepts (h : c.accepts P answers w = true) :
    c.Valid P (c.runAlone P answers w).2.2 := by
  have hr := c.runAlone_reaches P answers w
  unfold BoundaryCall.accepts at h
  split at h
  · rename_i result hresult
    rw [hresult] at hr
    exact ⟨result, _, hr, h⟩
  · cases h

def bothCalls (c d : BoundaryCall) : Bool → BoundaryCall
  | true => c
  | false => d

theorem BoundaryCall.accepts_congr (h : c.program P = d.program P) :
    c.accepts P answers w = d.accepts P answers w := by
  unfold BoundaryCall.accepts BoundaryCall.runAlone
  rw [h]

/-- two calls, one after the other -/
def passTwice : List (Option Bool × KernelEvent) :=
  (c.runAlone P answers w).2.2.map (Prod.mk (some true)) ++
    (d.runAlone P answers (c.runAlone P answers w).2.1).2.2.map (Prod.mk (some false))

theorem proj_passTwice (i : Option Bool) :
    proj i (passTwice P answers c d w) =
      (if some true = i then (c.runAlone P answers w).2.2 else []) ++
        if some false = i then (d.runAlone P answers (c.runAlone P answers w).2.1).2.2 else [] := by
  unfold passTwice
  rw [proj_append, proj_tagged, proj_tagged]

theorem history_passTwice :
    BoundaryHistory P (bothCalls c d) w (passTwice P answers c d w)
      (d.runAlone P answers (c.runAlone P answers w).2.1).2.1 where
  follows := by
    unfold passTwice
    rw [List.map_append, List.map_map, List.map_map, follows_append]
    refine ⟨(c.runAlone P answers w).2.1, ?_, ?_⟩
    · exact (List.map_id _).symm ▸ exec_follows (World.env_step P answers) _ w
    · exact (List.map_id _).symm ▸ exec_follows (World.env_step P answers) _ _
  reached := by
    intro first
    rw [proj_passTwice]
    cases first with
    | true =>
      show ∃ p, Reaches (c.program P) ((c.runAlone P answers w).2.2 ++ []) p
      rw [List.append_nil]
      exact ⟨_, c.runAlone_reaches P answers w⟩
    | false => exact ⟨_, d.runAlone_reaches P answers _⟩
  others := by
    intro e he
    rw [proj_passTwice] at he
    cases he

theorem valid_passTwice_first (h : c.Valid P (c.runAlone P answers w).2.2) :
    (bothCalls c d true).Valid P (proj (some true) (passTwice P answers c d w)) := by
  rw [proj_passTwice, if_pos rfl, if_neg (by decide), List.append_nil]
  exact h

theorem valid_passTwice_second (h : d.Valid P (d.runAlone P answers (c.runAlone P answers w).2.1).2.2) :
    (bothCalls c d false).Valid P (proj (some false) (passTwice P answers c d w)) := by
  rw [proj_passTwice, if_neg (by decide), if_pos rfl, List.nil_append]
  exact h

end

/-- the sample proof as JSON text -/
@[irreducible] def sampleTokenText : List Char := (canonText (.obj samplePccb.toDict)).toOption.getD []

/-- a parser that knows the sample -/
def sampleLoads (text : String) : Except PyError Json :=
  if text = String.ofList sampleTokenText then .ok (.obj samplePccb.toDict) else valueError "no JSON"

/-- a boundary with a replay database -/
def sampleBoundary (loads : String → Except PyError Json) : BoundaryVerifier where
  loads := loads
  pccbVerifier := some sampleVerifier
  replayStore := some 0

/-- the sample proof with this token and this intent -/
def sampleBoundaryRequest (token : String) (intent : IntentArg) (now : Datetime) :
    BoundaryVerificationRequest where
  proofToken := token
  actionType := "repo.read"
  actionHash := ""
  audience := "service:aud"
  intent := intent
  now := now
  contextUuid := "1"
  receiptUuid := "00000000000000000000000000000001"

/-- the token as it is, with the intent as an object -/
def samplePass : BoundaryCall where
  verifier := sampleBoundary sampleLoads
  request := sampleBoundaryRequest (String.ofList sampleTokenText) (.intent sampleIntent) sampleIssued

/-- the token between blanks, with the intent as a document -/
def samplePassAgain : BoundaryCall where
  verifier := sampleBoundary sampleLoads
  request := sampleBoundaryRequest (String.ofList (' ' :: sampleTokenText ++ ['\n', ' ']))
    (.payload (.obj sampleIntent.toDict)) sampleIssued

theorem sampleTokenText_head : sampleTokenText.head? = some '\x7b' := by decide +kernel

theorem decodeProofToken_of_text {loads : String → Except PyError Json} {token text : List Char} {kvs : Dict}
    (h : PyString.strip token = text) (hhead : text.head? = some '\x7b')
    (hloads : loads (String.ofList text) = .ok (.obj kvs)) :
    decodeProofToken loads (String.ofList token) = PCCB.fromDict (.obj kvs) := by
  have htext : tokenText (String.ofList token) = .ok (String.ofList text) := by
    unfold tokenText
    rw [String.toList_ofList, h]
    exact if_pos hhead
  unfold decodeProofToken
  rw [htext]
  show (loads (String.ofList text) >>= _) = _
  rw [hloads]
  rfl

theorem samplePccb_readable : samplePccb.Readable where
  pccbId := by decide
  issuer := by decide
  subject := by decide
  tenant := by decide
  audience := by decide
  action := by decide
  target := by decide
  scope := ⟨by decide, by decide, by simp [samplePccb]⟩
  nonce := by decide
  actionHash := ⟨by decide, by decide, by decide⟩
  signature := ⟨by decide, by decide, by decide, by decide⟩

theorem samplePccb_decoded (token : List Char) (h : PyString.strip token = sampleTokenText) :
    decodeProofToken sampleLoads (String.ofList token) = .ok samplePccb := by
  have hload : sampleLoads (String.ofList sampleTokenText) = .ok (.obj samplePccb.toDict) := if_pos rfl
  rw [decodeProofToken_of_text h sampleTokenText_head hload]
  exact PCCB.fromDict_toDict samplePccb_readable

theorem strip_sampleTokenText : PyString.strip sampleTokenText = sampleTokenText := by decide +kernel

theorem samplePass_decoded :
    decodeProofToken samplePass.verifier.loads samplePass.request.proofToken = .ok samplePccb :=
  samplePccb_decoded sampleTokenText strip_sampleTokenText

theorem samplePassAgain_decoded :
    decodeProofToken samplePassAgain.verifier.loads samplePassAgain.request.proofToken = .ok samplePccb :=
  samplePccb_decoded (' ' :: sampleTokenText ++ ['\n', ' ']) (by decide +kernel)

theorem ofList_ne_empty {cs : List Char} (h : cs.head? = some '\x7b') : String.ofList cs ≠ "" := by
  intro he
  have hnil : (String.ofList cs).toList = [] := congrArg String.toList he
  rw [String.toList_ofList] at hnil
  rw [hnil] at h
  cases h

/-- the sample proof with a parser that needs no text -/
def samplePassBrief : BoundaryCall where
  verifier := sampleBoundary fun _ => .ok (.obj samplePccb.toDict)
  request := sampleBoundaryRequest "\x7b\x7d" (.intent sampleIntent) sampleIssued

theorem samplePassBrief_accepts : samplePassBrief.accepts kernelPlatform sampleAnswers emptyWorld = true := by
  decide +kernel

theorem sampleBrief_decoded :
    decodeProofToken (fun _ => .ok (.obj samplePccb.toDict)) "\x7b\x7d" = .ok samplePccb := by
  have hstrip : PyString.strip ['\x7b', '\x7d'] = ['\x7b', '\x7d'] := by decide
  rw [show ("\x7b\x7d" : String) = String.ofList ['\x7b', '\x7d'] from rfl,
    decodeProofToken_of_text hstrip rfl rfl]
  exact PCCB.fromDict_toDict samplePccb_readable

theorem samplePass_program : samplePass.program kernelPlatform = samplePassBrief.program kernelPlatform := by
  unfold BoundaryCall.program
  rw [verifyBoundary_of_decoded samplePass.verifier samplePass.request
    (fun _ => .ok (.obj samplePccb.toDict)) "\x7b\x7d" (ofList_ne_empty sampleTokenText_head)
    (by decide) (samplePass_decoded.trans sampleBrief_decoded.symm)]
  rfl

theorem samplePass_accepts : samplePass.accepts kernelPlatform sampleAnswers emptyWorld = true :=
  (BoundaryCall.accepts_congr _ _ _ _ _ samplePass_program).trans samplePassBrief_accepts

theorem samplePasses_hashed : CollisionFree kernelPlatform
    (samplePass.hashedAction kernelPlatform ++ samplePassAgain.hashedAction kernelPlatform) := by
  decide +kernel

/-- the first call passes, the second does not -/
theorem boundary_single_use_twice :
    samplePass.Valid kernelPlatform (samplePass.runAlone kernelPlatform sampleAnswers emptyWorld).2.2 ∧
      ¬ samplePassAgain.Valid kernelPlatform (samplePassAgain.runAlone kernelPlatform sampleAnswers
        (samplePass.runAlone kernelPlatform sampleAnswers emptyWorld).2.1).2.2 := by
  have hvalid := samplePass.valid_of_accepts kernelPlatform sampleAnswers emptyWorld samplePass_accepts
  refine ⟨hvalid, fun hagain => ?_⟩
  have hstore : ∀ first, (bothCalls samplePass samplePassAgain first).verifier.replayStore.isSome := by
    intro first
    cases first with
    | true => rfl
    | false => rfl
  exact boundary_single_use (i := true) (j := false) hstore
    (history_passTwice kernelPlatform sampleAnswers samplePass samplePassAgain emptyWorld) (by decide)
    samplePass_decoded samplePassAgain_decoded (.inl (.refl samplePccb)) samplePasses_hashed
    ⟨valid_passTwice_first _ _ _ _ _ hvalid, valid_passTwice_second _ _ _ _ _ hagain⟩

end Actenon
