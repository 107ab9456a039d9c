import ActenonKernel.Execution.EffectReceipts
import ActenonKernel.Proof.CanonicalMembers
import ActenonKernel.Proof.CanonicalSize

/-!
# The evidence of a refused execution can be hashed

The executor hashes the effect reference together with the code of the refusal.  The reference comes out
of a proof whose payload has canonical bytes, and the payload holds it beside more than the hashed
document adds; only a long code could make the document too large.

* `Brief`                          a code that is not too long;
* `EffectReference.subset_of_fromDict`    the reference is a part of the extension;
* `refusedEvidence_of_signed`    a verified proof's reference has evidence for every brief code.
-/

set_option linter.unusedSectionVars false

namespace Actenon

/-- at most 62 characters of one byte each, and the quotes -/
def Brief (code : String) : Prop := (Text.utf8 (Text.quote code)).length ≤ 64

instance (code : String) : Decidable (Brief code) :=
  inferInstanceAs (Decidable ((Text.utf8 (Text.quote code)).length ≤ 64))

section
variable {P : Platform}

/-! ## the reference in the extension -/

theorem patternMember_ok {d : Dict} {name s : String} {pattern : String → Bool}
    (h : patternMember d name pattern = .ok s) : Dict.get d name = .str s := by
  unfold patternMember at h
  split at h
  · rename_i s' hs
    split at h
    · rw [hs, Except.ok.inj h]
    · cases h
  · cases h

/-- the members of a parsed reference are members of the extension -/
theorem EffectReference.subset_of_fromDict {raw : Json} {reference : EffectReference}
    (h : EffectReference.fromDict P raw = .ok reference) : ∃ d, raw = .obj d ∧ reference.toDict ⊆ d := by
  unfold EffectReference.fromDict at h
  split at h
  · rename_i d
    split at h
    · split at h
      · rename_i hprofile
        obtain ⟨effectId, he, h⟩ := Fallible.bind_eq_ok.mp h
        obtain ⟨reservationId, hr, h⟩ := Fallible.bind_eq_ok.mp h
        obtain ⟨ownerAttemptId, ho, h⟩ := Fallible.bind_eq_ok.mp h
        have href := Fallible.pure_eq_ok.mp h
        subst href
        have hmem : ∀ name s, Dict.get d name = .str s → (.str name, .str s) ∈ d :=
          fun name s hg => Dict.mem_of_find (Dict.find_of_get hg Json.noConfusion)
        refine ⟨d, rfl, ?_⟩
        unfold EffectReference.toDict members
        simp only [List.map_cons, List.map_nil, List.cons_subset, List.nil_subset, and_true]
        exact ⟨hmem _ _ (isStr_iff.mp hprofile), hmem _ _ (patternMember_ok he), hmem _ _ (patternMember_ok hr),
          hmem _ _ (patternMember_ok ho)⟩
      · cases h
    · cases h
  · cases h

theorem EffectReference.toDict_nodup (reference : EffectReference) : reference.toDict.Nodup := by
  refine List.Nodup.of_map Prod.fst ?_
  unfold EffectReference.toDict
  rw [keys_members]
  show [Key.str "profile", .str "effect_id", .str "reservation_id", .str "owner_attempt_id"].Nodup
  decide

theorem EffectReference.exists_text (reference : EffectReference) :
    ∃ t, canonText (.obj reference.toDict) = .ok t := by
  refine canonText_members ?_
  unfold EffectReference.toDict members
  simp [Key.isText, canonText]

/-! ## the hashed document -/

/-- what `evidence_hash` is the hash of -/
def evidenceInput (reference : EffectReference) (handlerStarted : Bool) (codes : List String) : Dict :=
  members [("reference", .obj reference.toDict), ("handler_started", .bool handlerStarted),
    ("reason", strings codes)]

theorem strings_one_text (code : String) :
    canonText (strings [code]) = .ok (Text.joined '[' ']' [Text.quote code]) := by
  simp [strings, canonText, canonItems, Fallible.ok_bind]

theorem evidenceInput_text (reference : EffectReference) (started : Bool) (code : String) :
    ∃ t, canonText (.obj (evidenceInput reference started [code])) = .ok t := by
  refine canonText_members ?_
  unfold evidenceInput members
  simp only [List.map_cons, List.map_nil, List.forall_mem_cons, List.not_mem_nil, false_implies, implies_true,
    and_true]
  refine ⟨⟨rfl, reference.exists_text⟩, ⟨rfl, ?_⟩, rfl, _, strings_one_text code⟩
  cases started with
  | true | false => exact ⟨_, by rw [canonText]⟩

/-- the document is no more than 114 bytes longer than the reference -/
theorem evidenceInput_bytes (reference : EffectReference) (started : Bool) {code : String} (hcode : Brief code) :
    (Json.obj (evidenceInput reference started [code])).bytes ≤ (Json.obj reference.toDict).bytes + 114 := by
  obtain ⟨t, ht⟩ := evidenceInput_text reference started code
  have hstarted : (Json.bool started).bytes ≤ 5 := by
    cases started with
    | true | false => decide
  have hreason : (strings [code]).bytes = (Text.utf8 (Text.quote code)).length + 2 := by
    rw [Json.bytes_of_text (strings_one_text code), Text.utf8_joined_length (by decide) (by decide) (by simp)]
    simp
  have hkeys : (Text.utf8 (Text.quote "reference")).length = 11 ∧
      (Text.utf8 (Text.quote "handler_started")).length = 17 ∧ (Text.utf8 (Text.quote "reason")).length = 8 := by
    decide
  rw [Json.bytes_obj ht (by simp [evidenceInput, members])]
  unfold Brief at hcode
  unfold evidenceInput members Dict.bytes
  simp only [List.map_cons, List.map_nil, List.sum_cons, List.sum_nil, memberBytes, Key.text, hkeys.1, hkeys.2.1,
    hkeys.2.2, hreason]
  omega

theorem evidenceInput_depth (reference : EffectReference) (started : Bool) (code : String) :
    (Json.obj (evidenceInput reference started [code])).depth = 3 := rfl

/-! ## the signed payload -/

/-- the names of the members every payload has take 160 bytes -/
theorem payload_bytes (pccb : PCCB) (h : pccb.extensions ≠ []) :
    160 + (Json.obj pccb.extensions).bytes ≤ Dict.bytes pccb.unsignedPayload := by
  have hext : dictMember "extensions" pccb.extensions = [(.str "extensions", .obj pccb.extensions)] := by
    unfold dictMember
    rw [if_neg (by rwa [List.isEmpty_iff])]
  have hkeys : (["contract", "pccb_id", "issued_at", "not_before", "expires_at", "issuer", "subject", "tenant",
      "audience", "action", "target", "scope", "nonce", "action_hash"].map fun name =>
        (Text.utf8 (Text.quote name)).length) = [10, 9, 11, 12, 12, 8, 9, 8, 10, 8, 8, 7, 7, 13] := by decide
  simp only [List.map_cons, List.map_nil, List.cons.injEq, and_true] at hkeys
  obtain ⟨h1, h2, h3, h4, h5, h6, h7, h8, h9, h10, h11, h12, h13, h14⟩ := hkeys
  unfold PCCB.unsignedPayload
  rw [Dict.bytes_append, Dict.bytes_append, Dict.bytes_append, hext]
  unfold members Dict.bytes
  simp only [List.map_cons, List.map_nil, List.sum_cons, List.sum_nil, memberBytes, Key.text, h1, h2, h3, h4, h5,
    h6, h7, h8, h9, h10, h11, h12, h13, h14]
  omega

/-- **A verified proof's reference has evidence** for every brief code. -/
theorem refusedEvidence_of_signed {pccb : PCCB} {bytes : List UInt8} {reference : EffectReference}
    (h : canonicalizeBytes P (.obj pccb.unsignedPayload) = .ok bytes)
    (hreference : EffectReference.fromDict P (Dict.get pccb.extensions "effect") = .ok reference)
    (started : Bool) {code : String} (hcode : Brief code) :
    ∃ d, refusedEvidence P reference started none [code] = .ok d := by
  obtain ⟨t, ht, rfl, hdepth, hsize⟩ := canonicalizeBytes_ok h
  obtain ⟨effect, heffect, hsub⟩ := EffectReference.subset_of_fromDict hreference
  have hfind := Dict.mem_of_find (Dict.find_of_get heffect Json.noConfusion)
  have hext : pccb.extensions ≠ [] := List.ne_nil_of_mem hfind
  -- the reference inside the extension inside the payload
  have hmem : Json.obj pccb.extensions ∈ (Json.obj pccb.unsignedPayload).children := by
    refine List.mem_map_of_mem (a := (.str "extensions", Json.obj pccb.extensions)) ?_
    unfold PCCB.unsignedPayload dictMember
    rw [if_neg (by rwa [List.isEmpty_iff])]
    exact List.mem_append_right _ List.mem_cons_self
  have hmem' : Json.obj effect ∈ (Json.obj pccb.extensions).children := List.mem_map_of_mem hfind
  obtain ⟨u, hu, -⟩ := canonText_child ht hmem
  obtain ⟨w, hw, -⟩ := canonText_child hu hmem'
  obtain ⟨r, hr⟩ := reference.exists_text
  obtain ⟨e, he⟩ := evidenceInput_text reference started code
  have hreferenceBytes : (Json.obj reference.toDict).bytes ≤ (Json.obj pccb.extensions).bytes := by
    have hne : effect ≠ [] := fun hnil => by
      rw [hnil] at hsub
      exact nomatch hsub (List.mem_cons_self)
    rw [Json.bytes_obj hr (by simp [EffectReference.toDict, members]), Json.bytes_obj hu hext]
    have h1 := Dict.bytes_le reference.toDict_nodup hsub
    have h2 := memberBytes_le hfind
    unfold memberBytes at h2
    rw [Json.bytes_obj hw hne] at h2
    omega
  have hlength : (Text.utf8 e).length ≤ maxOutputBytes := by
    have h1 := evidenceInput_bytes reference started hcode
    have h2 := payload_bytes pccb hext
    rw [Json.bytes_of_text he] at h1
    rw [utf8_obj_length ht (by simp [PCCB.unsignedPayload, members])] at hsize
    omega
  have hdeep : 3 ≤ P.maxJsonDepth + 1 := by
    have h1 := (Json.depthList_le _ _).mp le_rfl _ hmem
    have h2 := (Json.depthList_le _ _).mp le_rfl _ hmem'
    have h3 : 1 ≤ (Json.obj effect).depth := by rw [Json.depth_children]; omega
    rw [Json.depth_children] at hdepth h1
    omega
  have hbytes := canonicalizeBytes_of_text (P := P) he (by rw [evidenceInput_depth]; exact hdeep) hlength
  unfold evidenceInput at hbytes
  unfold refusedEvidence sha256Hex
  rw [hbytes]
  exact ⟨_, rfl⟩

end

end Actenon
