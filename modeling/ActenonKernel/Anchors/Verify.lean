import ActenonKernel.Anchors.Entries
import ActenonKernel.Receipts.Readable

/-!
# Anchors of entries (`actenon/anchors/local_log.py`)

The anchor of an entry in memory and the anchor of the entry as it is read from the file are alike,
and equal where the metadata of the call has no tuple.

* `Shows`           the members of an entry that its anchor shows, `Shows.entryAnchor` the anchor;
* `Shows.read`      the entry as it is read;
* `verifies_iff`    when an anchor of an entry of the log verifies.
-/

set_option linter.unusedSectionVars false

namespace Actenon

/-- a dictionary as it is read -/
def Dict.asRead (d : Dict) : Dict := sortDict (d.map fun p => (p.1, p.2.asRead))

/-- the anchor of an entry as it is read -/
def ExternalAnchor.asRead (a : ExternalAnchor) : ExternalAnchor :=
  { a with
    entryHash := Dict.asRead a.entryHash
    previousEntryHash := a.previousEntryHash.map Dict.asRead
    metadata := Dict.asRead a.metadata }

/-- the members of an entry that its anchor shows -/
structure Shows (entry : Dict) (a : ExternalAnchor) : Prop where
  anchorId : Dict.find entry (.str "anchor_id") = some (.str a.anchorId)
  anchorType : Dict.find entry (.str "anchor_type") = some (.str a.anchorType)
  artifactDigest : ∃ d, Dict.find entry (.str "artifact_digest") = some (.obj d) ∧
    normalizeArtifactDigest (.obj d) = .ok a.artifactDigest
  anchoredAt : Dict.find entry (.str "anchored_at") = some (.str (formatTimestamp a.anchoredAt))
  logUri : Dict.find entry (.str "log_uri") = some (.str a.logUri)
  sequence : Dict.find entry (.str "sequence") = some (.int a.sequence)
  entryHash : Dict.find entry (.str "entry_hash") = some (.obj a.entryHash)
  previousEntryHash : Dict.get entry "previous_entry_hash" = previousJson a.previousEntryHash
  artifactType : Dict.get entry "artifact_type" = textJson a.artifactType
  artifactId : Dict.get entry "artifact_id" = textJson a.artifactId
  metadata : Dict.get entry "metadata" = dictValue a.metadata

section
variable {L : LocalAppendOnlyAnchorLog} {entry : Dict} {a : ExternalAnchor}

theorem textValue_textJson (o : Option String) : (textJson o).textValue? = o := by cases o <;> rfl

theorem Shows.entryAnchor (h : Shows entry a) : L.entryAnchor entry = .ok a := by
  obtain ⟨d, hd, hdigest⟩ := h.artifactDigest
  have hprevious : parseUnlessNone (expectMapping · "previous_entry_hash") (previousJson a.previousEntryHash) =
      .ok a.previousEntryHash := by
    cases a.previousEntryHash <;> rfl
  have hmetadata : mappingIfAny (dictValue a.metadata) "metadata" = .ok a.metadata := by
    cases a.metadata <;> rfl
  unfold LocalAppendOnlyAnchorLog.entryAnchor
  rw [item_ok.mpr h.anchorId, item_ok.mpr h.anchorType, item_ok.mpr hd, item_ok.mpr h.anchoredAt,
    item_ok.mpr h.logUri, item_ok.mpr h.sequence, item_ok.mpr h.entryHash, h.previousEntryHash, h.artifactType,
    h.artifactId, h.metadata]
  simp only [Fallible.ok_bind, pyStr, pyInt, expectMapping_obj, hdigest, parseTimestamp_formatTimestamp, hprevious,
    hmetadata, textValue_textJson]
  rfl

variable {l : LogLine}

theorem asRead_previousJson (o : Option Dict) : (previousJson o).asRead = previousJson (o.map Dict.asRead) := by
  cases o with
  | none => rfl
  | some d => exact asRead_obj d

theorem asRead_textJson (o : Option String) : (textJson o).asRead = textJson o := by cases o <;> rfl

theorem asRead_dictValue (d : Dict) : (dictValue d).asRead = dictValue (Dict.asRead d) := by
  have hlength : (Dict.asRead d).length = d.length := (sortDict_perm _).length_eq.trans (List.length_map _)
  cases d with
  | nil => rfl
  | cons p d =>
    have hne : (Dict.asRead (p :: d)).isEmpty = false := by
      refine List.isEmpty_eq_false_iff.mpr (List.ne_nil_of_length_pos ?_)
      rw [hlength]
      exact Nat.succ_pos _
    unfold dictValue
    rw [hne]
    exact asRead_obj _

/-- a digest is read with its texts -/
theorem digest_asRead {d : Dict} (h : IsDigest d) : normalizeArtifactDigest (.obj (Dict.asRead d)) = .ok d := by
  obtain ⟨x, v, c, hd, rfl⟩ := h
  have hmap : ((digestOf x v c).map fun p => (p.1, p.2.asRead)) = digestOf x v c := by cases c <;> rfl
  have hperm : (Dict.asRead (digestOf x v c)).Perm (digestOf x v c) := by
    unfold Dict.asRead
    rw [hmap]
    exact sortDict_perm _
  have hu := (hperm.map Prod.fst).nodup_iff.mpr (digestOf_unique x v c)
  exact parseHashSpec_ok.mpr ⟨x, v, c, hd.perm hperm hu, rfl⟩

/-- **The anchor of an entry as it is read.** -/
theorem Shows.read (h : Shows l.entry a) (hd : Dict.find l.entry (.str "artifact_digest") = some (.obj a.artifactDigest))
    (hdigest : IsDigest a.artifactDigest) : Shows l.read a.asRead where
  anchorId := by rw [find_read, h.anchorId]; rfl
  anchorType := by rw [find_read, h.anchorType]; rfl
  artifactDigest := by
    refine ⟨Dict.asRead a.artifactDigest, ?_, digest_asRead hdigest⟩
    rw [find_read, hd]
    exact congrArg some (asRead_obj _)
  anchoredAt := by rw [find_read, h.anchoredAt]; rfl
  logUri := by rw [find_read, h.logUri]; rfl
  sequence := by rw [find_read, h.sequence]; rfl
  entryHash := by
    rw [find_read, h.entryHash]
    exact congrArg some (asRead_obj _)
  previousEntryHash := by rw [get_read, h.previousEntryHash, asRead_previousJson]; rfl
  artifactType := by rw [get_read, h.artifactType, asRead_textJson]; rfl
  artifactId := by rw [get_read, h.artifactId, asRead_textJson]; rfl
  metadata := by rw [get_read, h.metadata, asRead_dictValue]; rfl

end

/-! ## the anchor of a call -/

/-- the anchor of the entry of a call -/
def AnchorCall.anchor (call : AnchorCall) (L : LocalAppendOnlyAnchorLog) (digest : Dict) (sequence : Nat)
    (previous : Option Dict) (hash : String) : ExternalAnchor where
  anchorId := call.anchorId
  anchorType := localAppendOnlyAnchorType
  artifactDigest := digest
  anchoredAt := call.anchoredAt
  logUri := L.logUri
  sequence := sequence
  entryHash := hashDict L.profile hash
  previousEntryHash := previous
  artifactType := call.artifactType
  artifactId := call.artifactId
  metadata := call.metadata.getD []

section
variable {L : LocalAppendOnlyAnchorLog} {call : AnchorCall} {existing : List Dict} {digest : Dict} {previous : Json}
  {hash : String} {entry : Dict} {o : Option Dict}

theorem Prepared.shows (h : Prepared L existing call digest previous hash entry) (ho : previous = previousJson o) :
    Shows entry (call.anchor L digest (existing.length + 1) o hash) := by
  have hdigest := parseHashSpec_digest (normalizeArtifactDigest_isDigest h.normalized) "artifact_digest"
  have hfind := fun name => (congrArg (fun d => Dict.find d (.str name)) h.made).trans
    (find_hashedEntry call L.profile L.logUri digest (existing.length + 1) previous hash name)
  refine ⟨?_, ?_, ⟨digest, ?_, hdigest⟩, ?_, ?_, ?_, ?_, ?_, ?_, ?_, ?_⟩
  · simp [hfind, find_members_cons, AnchorCall.anchor]
  · simp [hfind, find_members_cons, AnchorCall.anchor]
  · simp [hfind, find_members_cons]
  · simp [hfind, find_members_cons, AnchorCall.anchor]
  · simp [hfind, find_members_cons, AnchorCall.anchor]
  · simp [hfind, find_members_cons, AnchorCall.anchor]
  · simp [hfind, find_members_cons, find_members_nil, AnchorCall.anchor]
  · simp [Dict.get, hfind, find_members_cons, AnchorCall.anchor, ho]
  · simp [Dict.get, hfind, find_members_cons, find_members_nil, AnchorCall.anchor]
  · simp [Dict.get, hfind, find_members_cons, find_members_nil, AnchorCall.anchor]
  · simp [Dict.get, hfind, find_members_cons, find_members_nil, AnchorCall.anchor]

theorem hash_ne {P : Platform} (hP : ∀ m, P.sha256 m ≠ []) {j : Json} (h : sha256Hex P j = .ok hash) : hash ≠ "" := by
  obtain ⟨bytes, -, rfl⟩ := sha256Hex_ok h
  intro he
  have hempty : Hex.toHex (P.sha256 bytes) = [] := String.ofList_injective he
  cases hb : P.sha256 bytes with
  | nil => exact hP bytes hb
  | cons b bs =>
    rw [hb] at hempty
    cases hempty

theorem sameHash_asRead {profile value : String} (hne : value ≠ "") {d : Dict} (hp : d.Perm (hashDict profile value)) :
    SameHash profile (Dict.asRead d) d := by
  refine ⟨value, hne, ?_, hp⟩
  have hmap : (d.map fun p => (p.1, p.2.asRead)) = d := map_asRead_texts (texts_of_perm (hashDict_texts _ _) hp)
  unfold Dict.asRead
  rw [hmap]
  exact (sortDict_perm d).trans hp

variable {ls : List LogLine}

/-- the link of an entry is a hash of an entry -/
theorem previous_sameHash (hP : ∀ m, L.platform.sha256 m ≠ [])
    (h : LocalAppendOnlyAnchorLog.previousHash (ls.map LogLine.read) = .ok previous)
    (hvalid : validateChain L.platform L.profile (ls.map LogLine.read) = .ok ()) :
    ∃ o : Option Dict, previous = previousJson o ∧ ∀ d ∈ o, ∃ value, value ≠ "" ∧ d.Perm (hashDict L.profile value) := by
  rcases List.eq_nil_or_concat ls with rfl | ⟨ls, k, rfl⟩
  · cases h
    exact ⟨none, rfl, nofun⟩
  · rw [List.concat_eq_append, List.map_append, List.map_singleton] at h hvalid
    obtain ⟨-, hash, haccepted⟩ := (validateFrom_append 1 none _ _).mp hvalid
    obtain ⟨kvs, hk, hp⟩ := perm_of_pyEq_hash (Json.lawful_get k.read_lawful _) haccepted.entryHash
    have hprevious := previousHash_concat h hk
    refine ⟨some kvs, hprevious, fun d hd => ?_⟩
    cases hd
    exact ⟨hash, hash_ne hP haccepted.hashed, hp⟩

end

/-! ## what verifies -/

section
variable {L : LocalAppendOnlyAnchorLog} {l : LogLine} {a b : ExternalAnchor}

/-- the metadata of an entry are read as they are if they have no tuple -/
theorem metadata_asRead (h : Shows l.entry a) : Dict.pyEq (Dict.asRead a.metadata) a.metadata = (Json.obj a.metadata).tupleFree := by
  have hmetadata := h.metadata
  unfold Dict.pyEq Dict.asRead
  rw [← asRead_obj]
  cases hm : a.metadata with
  | nil => rfl
  | cons p d =>
    rw [hm] at hmetadata
    have hfind := Dict.find_of_get hmetadata Json.noConfusion
    have hmem := Dict.mem_of_find hfind
    obtain ⟨t, ht, -⟩ := canonText_child l.written (List.mem_map_of_mem hmem)
    exact pyEq_asRead ht (((Json.lawful_obj _).mp l.lawful).2 _ hmem)

theorem digestsMatch_self {raw : Json} {d : Dict} (h : normalizeArtifactDigest raw = .ok d) :
    artifactDigestsMatch (.obj d) raw = .ok true := by
  have hdigest := normalizeArtifactDigest_isDigest h
  have hself : normalizeArtifactDigest (.obj d) = .ok d := parseHashSpec_digest hdigest _
  obtain ⟨x, v, c, hd, -⟩ := hdigest
  unfold artifactDigestsMatch
  rw [hself, h, Fallible.ok_bind, Fallible.ok_bind, hd.algorithm, hd.value, hd.canonicalization, pyEq_str.mpr rfl,
    pyEq_str.mpr rfl]
  cases c with
  | none => rfl
  | some c =>
    show Except.ok (Json.pyEq (.str c) (.str c)) = _
    rw [pyEq_str.mpr rfl]

theorem pyIndex_append {α : Type} (before after : List α) (x : α) :
    pyIndex (before ++ x :: after) before.length = .ok x := by
  unfold pyIndex
  dsimp only
  rw [if_neg (by omega), if_neg (by omega), Int.toNat_natCast, List.getElem?_append_right (Nat.le_refl _), Nat.sub_self]
  rfl

/-- **An anchor of an entry of the log verifies** if its metadata have no tuple, whether it is given as it
was returned or as a dictionary. -/
theorem verifies_iff {content : Option (List Char)} {before after : List Dict} {raw : Json} {x : ExternalAnchor ⊕ Json}
    (hread : L.readEntries content = .ok (before ++ l.read :: after)) (hshows : Shows l.entry a)
    (hfind : Dict.find l.entry (.str "artifact_digest") = some (.obj a.artifactDigest))
    (htype : a.anchorType = localAppendOnlyAnchorType) (huri : a.logUri = L.logUri)
    (hplace : a.sequence = before.length + 1) (hraw : normalizeArtifactDigest raw = .ok a.artifactDigest)
    (halike : a.asRead.Alike L.profile b) (hmetadata : b.metadata = a.metadata)
    (hx : LocalAppendOnlyAnchorLog.parsedAnchor x = .ok b) :
    L.verifyExternalAnchor content x raw =
      if (Json.obj a.metadata).tupleFree then .ok { anchor := b, anchoredAt := b.anchoredAt }
      else valueError "external anchor does not match the local log entry" := by
  have hequal : a.asRead.pyEq b = (Json.obj a.metadata).tupleFree := by
    rw [halike.pyEq_iff, hmetadata]
    exact metadata_asRead hshows
  have hbtype : b.anchorType = localAppendOnlyAnchorType := halike.anchorType.symm.trans htype
  have hburi : b.logUri = L.logUri := halike.logUri.symm.trans huri
  have hbdigest : b.artifactDigest = a.artifactDigest := halike.artifactDigest.2.symm
  have hbplace : b.sequence = before.length + 1 := halike.sequence.symm.trans hplace
  have hentry : L.entryAnchor l.read = .ok a.asRead :=
    (hshows.read hfind (normalizeArtifactDigest_isDigest hraw)).entryAnchor
  have hindex : b.sequence - 1 = (before.length : Int) := by omega
  have hlength : ¬ b.sequence > ((before ++ l.read :: after).length : Int) := by
    rw [hbplace, List.length_append, List.length_cons]
    omega
  unfold LocalAppendOnlyAnchorLog.verifyExternalAnchor
  rw [hx, Fallible.ok_bind, if_neg (not_not_intro hbtype), if_neg (not_not_intro hburi), hbdigest, digestsMatch_self hraw,
    Fallible.ok_bind, if_neg (by decide), hread, Fallible.ok_bind, if_neg hlength, hindex, pyIndex_append,
    Fallible.ok_bind, hentry, Fallible.ok_bind, hequal]
  cases (Json.obj a.metadata).tupleFree <;> rfl

end

end Actenon
