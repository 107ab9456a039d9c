import ActenonKernel.Proof.Service
import ActenonKernel.Models.SignedPayload

/-!
# A proof binds one action

What a verifier accepts with one proof is one intent: the action hash covers the whole intent that
an executor acts on, and the replay key depends on nothing else that a caller can still choose.

* `verify_ok`          the checks an accepted request went through;
* `verify_binds`       intents accepted with one proof agree, and have one replay key.
-/

set_option linter.unusedSectionVars false

namespace Actenon

section
variable {P : Platform}

/-! ## accepted requests -/

theorem raiseWhen_ok {bad : Prop} [Decidable bad] {e : Raised} {u : Unit} :
    raiseWhen bad e = .ok u ↔ ¬ bad := by
  unfold raiseWhen
  constructor
  · intro h hb
    rw [if_pos hb] at h
    cases h
  · intro hb
    exact if_neg hb

theorem verify_ok {V : PCCBVerifier} {intent : ActionIntent} {pccb : PCCB}
    {context : DynamicContextInput} {u : Unit} (h : V.verify P intent pccb context = .ok u) :
    V.authenticate P pccb = .ok () ∧ V.checkWindow pccb context.now = .ok () ∧
      V.checkBinding P intent pccb context = .ok () ∧ V.checkActionHash P intent pccb = .ok () ∧
      V.checkEdge P pccb context = .ok () ∧ V.checkRevocation P pccb context = .ok () := by
  unfold PCCBVerifier.verify at h
  obtain ⟨_, h1, h⟩ := Fallible.bind_eq_ok.mp h
  obtain ⟨_, h2, h⟩ := Fallible.bind_eq_ok.mp h
  obtain ⟨_, h3, h⟩ := Fallible.bind_eq_ok.mp h
  obtain ⟨_, h4, h⟩ := Fallible.bind_eq_ok.mp h
  obtain ⟨_, h5, h⟩ := Fallible.bind_eq_ok.mp h
  exact ⟨h1, h2, h3, h4, h5, h⟩

/-- the bytes behind two values that are canonically equal -/
theorem canonicalEqual_iff {a b : Json} :
    canonicalEqual P a b = true ↔
      ∃ bytes, canonicalizeBytes P a = .ok bytes ∧ canonicalizeBytes P b = .ok bytes := by
  unfold canonicalEqual
  constructor
  · intro h
    split at h
    · rename_i x y hx hy
      exact ⟨x, hx, by rw [hy, of_decide_eq_true h]⟩
    · cases h
  · rintro ⟨bytes, ha, hb⟩
    rw [ha, hb]
    exact decide_eq_true rfl

theorem checkBinding_target {V : PCCBVerifier} {intent : ActionIntent} {pccb : PCCB}
    {context : DynamicContextInput} (h : V.checkBinding P intent pccb context = .ok ()) :
    canonicalEqual P (.obj pccb.target.toDict) (.obj intent.target.toDict) = true := by
  unfold PCCBVerifier.checkBinding at h
  obtain ⟨_, _, h⟩ := Fallible.bind_eq_ok.mp h
  obtain ⟨_, _, h⟩ := Fallible.bind_eq_ok.mp h
  obtain ⟨_, ht, -⟩ := Fallible.bind_eq_ok.mp h
  exact not_not.mp (raiseWhen_ok.mp ht)

theorem sha256Hex_ok {j : Json} {hash : String} (h : sha256Hex P j = .ok hash) :
    ∃ bytes, canonicalizeBytes P j = .ok bytes ∧
      hash = String.ofList (Hex.toHex (P.sha256 bytes)) := by
  unfold sha256Hex at h
  obtain ⟨bytes, hb, h⟩ := Fallible.bind_eq_ok.mp h
  exact ⟨bytes, hb, (Fallible.pure_eq_ok.mp h).symm⟩

theorem checkActionHash_ok {V : PCCBVerifier} {intent : ActionIntent} {pccb : PCCB}
    (h : V.checkActionHash P intent pccb = .ok ()) :
    ∃ bytes, canonicalizeBytes P (.obj (buildActionHashInput intent)) = .ok bytes ∧
      pccb.actionHash.value = String.ofList (Hex.toHex (P.sha256 bytes)) := by
  unfold PCCBVerifier.checkActionHash at h
  obtain ⟨hash, hh, h⟩ := Fallible.bind_eq_ok.mp h
  obtain ⟨_, _, h⟩ := Fallible.bind_eq_ok.mp h
  have hv := not_not.mp (raiseWhen_ok.mp h)
  obtain ⟨bytes, hb, he⟩ := sha256Hex_ok (Fallible.mapError_eq_ok.mp hh)
  exact ⟨bytes, hb, hv.trans he⟩

/-! ## one intent -/

/-- two intents agree on all that an executor acts on; the last field is canonical equality -/
structure ActionIntent.Agree (P : Platform) (i i' : ActionIntent) : Prop where
  intentId : i.intentId = i'.intentId
  tenant : i.tenant.Same i'.tenant
  requester : i.requester.Same i'.requester
  action : i.action.Same i'.action
  target : i.target.Same i'.target
  issuedAt : i.issuedAt = i'.issuedAt
  expiresAt : i.expiresAt = i'.expiresAt
  canonical : canonicalEqual P (.obj (buildActionHashInput i)) (.obj (buildActionHashInput i')) = true

theorem buildActionHashInput_uniqueKeys (i : ActionIntent) :
    Dict.UniqueKeys (buildActionHashInput i) := by
  refine uniqueKeys_of_sublist ["intent_id", "tenant", "requester", "action", "target", "issued_at",
    "expires_at"] ?_ (by decide)
  unfold buildActionHashInput
  rw [keys_members]
  exact List.Sublist.refl _

/-- intents with the same hashed bytes -/
theorem agree_of_canonicalizeBytes {i i' : ActionIntent} {bytes : List UInt8}
    (h : canonicalizeBytes P (.obj (buildActionHashInput i)) = .ok bytes)
    (h' : canonicalizeBytes P (.obj (buildActionHashInput i')) = .ok bytes) : i.Agree P i' := by
  have hs : Dict.Same (buildActionHashInput i) (buildActionHashInput i') := canonicalizeBytes_inj h h'
  have g := hs.get (buildActionHashInput_uniqueKeys i')
  have h1 := g "intent_id"
  have h2 := g "tenant"
  have h3 := g "requester"
  have h4 := g "action"
  have h5 := g "target"
  have h6 := g "issued_at"
  have h7 := g "expires_at"
  simp only [Dict.get, buildActionHashInput, find_members_cons, String.reduceEq, if_true, if_false,
    Option.getD_some] at h1 h2 h3 h4 h5 h6 h7
  exact
    { intentId := Json.same_str h1
      tenant := TenantRef.same_of_toDict h2
      requester := PartyRef.same_of_toDict h3
      action := ActionSpec.same_of_toDict h4
      target := TargetRef.same_of_toDict h5
      issuedAt := formatTimestamp_injective (Json.same_str h6)
      expiresAt := formatTimestamp_injective (Json.same_str h7)
      canonical := canonicalEqual_iff.mpr ⟨bytes, h, h'⟩ }

/-! ## one replay key -/

/-- the text of a dictionary is made of the texts of its values -/
theorem canonText_obj_congr {d d' : Dict}
    (h : (d.map fun p => (p.1, canonText p.2)) = d'.map fun p => (p.1, canonText p.2)) :
    canonText (.obj d) = canonText (.obj d') := by
  rw [canonText, canonText, canonMembers_eq, canonMembers_eq, h]

theorem buildReplayKey_congr {i i' : ActionIntent} {pccb : PCCB} {c c' : DynamicContextInput}
    (hid : i.intentId = i'.intentId) (hcap : i.action.capability = i'.action.capability)
    (htarget : canonicalEqual P (.obj i.target.toDict) (.obj i'.target.toDict) = true) :
    buildReplayKey P i pccb c = buildReplayKey P i' pccb c' := by
  obtain ⟨bytes, hb, hb'⟩ := canonicalEqual_iff.mp htarget
  obtain ⟨t, ht, e, -⟩ := canonicalizeBytes_ok hb
  obtain ⟨t', ht', e', -⟩ := canonicalizeBytes_ok hb'
  have htext : canonText (.obj i.target.toDict) = canonText (.obj i'.target.toDict) := by
    rw [ht, ht', Text.utf8_injective (e.symm.trans e')]
  have hdepth := (canonicalizeBytes_inj hb hb').depth
  have hinput : canonicalizeBytes P (.obj (replayKeyInput i pccb))
      = canonicalizeBytes P (.obj (replayKeyInput i' pccb)) := by
    refine canonicalizeBytes_congr (canonText_obj_congr ?_) ?_
    · unfold replayKeyInput members
      simp only [List.map_cons, List.map_nil, hid, hcap, htext]
    · unfold replayKeyInput members
      simp only [List.map_cons, List.map_nil, Json.depth, Json.depthMembers, hid, hcap] at hdepth ⊢
      rw [hdepth]
  unfold buildReplayKey sha256Hex
  rw [hinput]

/-- **A proof binds one action.**  Two requests that verifiers accept with one proof carry intents
that agree on all an executor acts on, and have the same replay key. -/
theorem verify_binds (V V' : PCCBVerifier) (pccb : PCCB) (i i' : ActionIntent)
    (c c' : DynamicContextInput) (h : V.verify P i pccb c = .ok ()) (h' : V'.verify P i' pccb c' = .ok ())
    (hfree : CollisionFree P (hashedBytes P (.obj (buildActionHashInput i))
      ++ hashedBytes P (.obj (buildActionHashInput i')))) :
    i.Agree P i' ∧ buildReplayKey P i pccb c = buildReplayKey P i' pccb c' := by
  obtain ⟨-, -, hbind, hhash, -⟩ := verify_ok h
  obtain ⟨-, -, hbind', hhash', -⟩ := verify_ok h'
  obtain ⟨bytes, hb, hv⟩ := checkActionHash_ok hhash
  obtain ⟨bytes', hb', hv'⟩ := checkActionHash_ok hhash'
  have hsha : P.sha256 bytes = P.sha256 bytes' :=
    Hex.toHex_injective (String.ofList_injective (hv.symm.trans hv'))
  have hbytes : bytes = bytes' := by
    refine hfree bytes ?_ bytes' ?_ hsha
    · unfold hashedBytes
      rw [hb]
      exact List.mem_append_left _ List.mem_cons_self
    · unfold hashedBytes
      rw [hb']
      exact List.mem_append_right _ List.mem_cons_self
  subst hbytes
  have hagree := agree_of_canonicalizeBytes hb hb'
  refine ⟨hagree, buildReplayKey_congr hagree.intentId hagree.action.2.1 ?_⟩
  -- both targets have the canonical bytes of the proof's target
  obtain ⟨x, hx, hxi⟩ := canonicalEqual_iff.mp (checkBinding_target hbind)
  obtain ⟨y, hy, hyi⟩ := canonicalEqual_iff.mp (checkBinding_target hbind')
  cases hx.symm.trans hy
  exact canonicalEqual_iff.mpr ⟨x, hxi, hyi⟩

end

/-! ## the sample -/

/-- SHA-256 at the action hash input and the replay key input of the sample -/
def sampleHash (m : List UInt8) : List UInt8 :=
  if m.length = 291 then
    (Hex.fromHex "3a2b61b7f1b82c2985227172e3f228bf99581f3476060a0c45b28cb27f0eb388".toList).getD []
  else if m.length = 327 then
    (Hex.fromHex "99905ff373fc048d972f03ca8bec025f92f752ff72be2384c6a7c6c33464c12d".toList).getD []
  else List.replicate 32 0

def kernelPlatform : Platform := samplePlatform sampleHash

/-- a verifier whose signer accepts -/
def sampleVerifier : PCCBVerifier where
  signer _ _ _ _ := .ok true

def sampleContext : DynamicContextInput where
  requestId := "req_1"
  audience := samplePccb.audience
  scopeCapabilities := ["repo.read"]
  now := sampleIssued

def sampleRequest : ProtectedExecutionRequest := ⟨sampleIntent, samplePccb, sampleContext⟩

instance : Inhabited ProtectedExecutionRequest := ⟨sampleRequest⟩

/-- the sample intent with a note that no check reads -/
def sampleIntentNoted : ActionIntent :=
  { sampleIntent with metadata := members [("note", .str "retry")], justification := .str "again" }

theorem sample_verifies :
    sampleVerifier.verify kernelPlatform sampleIntent samplePccb sampleContext = .ok () := by
  obtain ⟨u, h⟩ := Fallible.exists_ok
    (show (sampleVerifier.verify kernelPlatform sampleIntent samplePccb sampleContext).toBool = true by
      decide +kernel)
  exact h

/-- one message has no collision with itself -/
theorem collisionFree_twice {P : Platform} (j : Json) :
    CollisionFree P (hashedBytes P j ++ hashedBytes P j) := by
  intro m hm m' hm' _
  unfold hashedBytes at hm hm'
  split at hm
  · rename_i bytes hb
    rw [hb] at hm'
    simp only [List.cons_append, List.nil_append, List.mem_cons, List.not_mem_nil, or_false,
      or_self] at hm hm'
    rw [hm, hm']
  · simp at hm

/-- the sample intent with and without the note -/
theorem verify_binds_sample :
    sampleIntent.Agree kernelPlatform sampleIntentNoted ∧
      ∃ key, buildReplayKey kernelPlatform sampleIntent samplePccb sampleContext = .ok key ∧
        buildReplayKey kernelPlatform sampleIntentNoted samplePccb sampleContext = .ok key := by
  obtain ⟨hagree, hkey⟩ := verify_binds sampleVerifier sampleVerifier samplePccb sampleIntent
    sampleIntentNoted sampleContext sampleContext sample_verifies sample_verifies
    (collisionFree_twice (.obj (buildActionHashInput sampleIntent)))
  obtain ⟨key, hk⟩ := Fallible.exists_ok
    (show (buildReplayKey kernelPlatform sampleIntent samplePccb sampleContext).toBool = true by
      decide +kernel)
  exact ⟨hagree, key, hk, hkey.symm.trans hk⟩

end Actenon
