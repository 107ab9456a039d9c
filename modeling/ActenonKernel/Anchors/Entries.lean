import ActenonKernel.Anchors.Log
import ActenonKernel.Proof.CanonicalSize

/-!
# The entries of the anchor log (`actenon/anchors/local_log.py`)

The entry a call prepares from the lines it read is a canonical line, and the chain goes on with it
exactly when those were all the lines.

* `validateFrom_append`    one entry more;
* `Prepared`            how an entry was made, `Prepared.line` that it is a line;
* `Prepared.accepted`   the chain accepts it after the lines it was made from;
* `Prepared.place`      and at no other place.
-/

set_option linter.unusedSectionVars false

namespace Actenon

/-! ## one entry more -/

section
variable {P : Platform} {profile : String}

/-- the hash the entry after a log must link to -/
def lastHash (P : Platform) (profile : String) (first : Option Dict) (es : List Dict) : Option Dict :=
  match es.getLast? with
  | none => first
  | some e => some (hashDict profile (entryHashText P e))

theorem lastHash_cons (first : Option Dict) (e : Dict) (es : List Dict) :
    lastHash P profile first (e :: es) = lastHash P profile (some (hashDict profile (entryHashText P e))) es := by
  cases es with
  | nil => rfl
  | cons e' es =>
    unfold lastHash
    rw [List.getLast?_cons_cons]
    cases h : (e' :: es).getLast? with
    | none => rw [List.getLast?_eq_none_iff] at h; cases h
    | some x => rfl

/-- **The chain goes on with an entry** that has its place, its link and its hash. -/
theorem validateFrom_append (index : Int) (first : Option Dict) (es : List Dict) (e : Dict) :
    validateFrom P profile index first (es ++ [e]) = .ok () ↔ validateFrom P profile index first es = .ok () ∧
      ∃ hash, AcceptedEntry P profile (index + es.length) (lastHash P profile first es) e hash := by
  induction es generalizing index first with
  | nil =>
    rw [List.nil_append, validateFrom_cons, List.length_nil, Int.natCast_zero, Int.add_zero]
    exact ⟨fun ⟨hash, h, _⟩ => ⟨rfl, hash, h⟩, fun ⟨_, hash, h⟩ => ⟨hash, h, rfl⟩⟩
  | cons x es ih =>
    have hplace : index + 1 + (es.length : Int) = index + ((x :: es).length : Int) := by
      rw [List.length_cons]
      omega
    rw [List.cons_append, validateFrom_cons, validateFrom_cons, lastHash_cons]
    constructor
    · rintro ⟨hash, hx, h⟩
      obtain ⟨hes, hlast⟩ := (ih _ _).mp h
      rw [hplace, ← hx.text] at hlast
      exact ⟨⟨hash, hx, hes⟩, hlast⟩
    · rintro ⟨⟨hash, hx, hes⟩, hlast⟩
      refine ⟨hash, hx, (ih _ _).mpr ⟨hes, ?_⟩⟩
      rw [hplace, ← hx.text]
      exact hlast

end

/-! ## the entry of a call -/

theorem find_read (l : LogLine) (name : String) :
    Dict.find l.read (.str name) = (Dict.find l.entry (.str name)).map Json.asRead := by
  have hu : l.read.UniqueKeys := by
    have hl := lawful_asRead l.lawful
    rw [asRead_obj] at hl
    exact ((Json.lawful_obj _).mp hl).1
  unfold LogLine.read at hu ⊢
  rw [Dict.find_perm (sortDict_perm _) hu]
  unfold Dict.find
  rw [List.find?_map, Option.map_map, Option.map_map]
  rfl

theorem get_read (l : LogLine) (name : String) : Dict.get l.read name = (Dict.get l.entry name).asRead := by
  unfold Dict.get
  rw [find_read]
  cases Dict.find l.entry (.str name) <;> rfl

theorem LogLine.read_lawful (l : LogLine) : (Json.obj l.read).lawful = true := by
  have hl := lawful_asRead l.lawful
  rw [asRead_obj] at hl
  exact hl

/-- an entry with its hash -/
def AnchorCall.hashedEntry (call : AnchorCall) (profile logUri : String) (digest : Dict) (sequence : Nat)
    (previousHash : Json) (hash : String) : Dict :=
  call.entry logUri digest sequence previousHash ++ members [("entry_hash", .obj (hashDict profile hash))]

section
variable (call : AnchorCall) (profile logUri : String) (digest : Dict) (sequence : Nat) (previousHash : Json)
  (hash : String)

theorem find_hashedEntry (name : String) :
    Dict.find (call.hashedEntry profile logUri digest sequence previousHash hash) (.str name) =
      (((((Dict.find (members [("contract", .obj localAnchorLogEntryContract),
        ("anchor_contract", .obj externalAnchorContract), ("anchor_id", .str call.anchorId),
        ("anchor_type", .str localAppendOnlyAnchorType), ("artifact_digest", .obj digest),
        ("anchored_at", .str (formatTimestamp call.anchoredAt)), ("log_uri", .str logUri),
        ("sequence", .int sequence), ("previous_entry_hash", previousHash)]) (.str name)).or
        (if "artifact_type" = name then (textJson call.artifactType).present? else none)).or
        (if "artifact_id" = name then (textJson call.artifactId).present? else none)).or
        (if "metadata" = name then (dictValue (call.metadata.getD [])).present? else none)).or
        (if "entry_hash" = name then some (.obj (hashDict profile hash)) else none)) := by
  unfold AnchorCall.hashedEntry AnchorCall.entry
  rw [Dict.find_append, Dict.find_append, Dict.find_append, Dict.find_append, find_optMember, find_optMember,
    find_dictMember, find_members_cons "entry_hash", find_members_nil]

/-- the names of the members of an entry -/
def entryNames : List String :=
  ["contract", "anchor_contract", "anchor_id", "anchor_type", "artifact_digest", "anchored_at", "log_uri", "sequence",
    "previous_entry_hash", "artifact_type", "artifact_id", "metadata"]

theorem keys_entry : ((call.entry logUri digest sequence previousHash).map Prod.fst).Sublist (entryNames.map Key.str) := by
  unfold AnchorCall.entry
  rw [List.map_append, List.map_append, List.map_append]
  exact (((List.Sublist.refl _).append (keys_optMember _ _)).append (keys_optMember _ _)).append (keys_dictMember _ _)

theorem hashedEntry_unique : (call.hashedEntry profile logUri digest sequence previousHash hash).UniqueKeys := by
  have hnodup : ((entryNames ++ ["entry_hash"]).map Key.str).Nodup := by decide
  refine List.Nodup.sublist ?_ hnodup
  unfold AnchorCall.hashedEntry
  rw [List.map_append, List.map_append]
  exact (keys_entry call logUri digest sequence previousHash).append (List.Sublist.refl _)

theorem payload_entry : entryHashPayload (call.entry logUri digest sequence previousHash) =
    call.entry logUri digest sequence previousHash := by
  refine List.filter_eq_self.mpr fun p hp => decide_eq_true fun he => ?_
  have hname := (keys_entry call logUri digest sequence previousHash).subset (List.mem_map_of_mem hp)
  rw [he] at hname
  exact absurd hname (by decide)

theorem payload_hashedEntry : entryHashPayload (call.hashedEntry profile logUri digest sequence previousHash hash) =
    call.entry logUri digest sequence previousHash := by
  have hsplit : entryHashPayload (call.hashedEntry profile logUri digest sequence previousHash hash) =
      entryHashPayload (call.entry logUri digest sequence previousHash) ++ [] := List.filter_append _ _
  rw [hsplit, payload_entry, List.append_nil]

end

/-! ## what a call prepares -/

/-- how an entry was made from the entries that were read -/
structure Prepared (L : LocalAppendOnlyAnchorLog) (existing : List Dict) (call : AnchorCall) (digest : Dict)
    (previous : Json) (hash : String) (entry : Dict) : Prop where
  normalized : normalizeArtifactDigest call.artifactDigest = .ok digest
  linked : LocalAppendOnlyAnchorLog.previousHash existing = .ok previous
  hashed : sha256Hex L.platform (.obj (call.entry L.logUri digest (existing.length + 1) previous)) = .ok hash
  made : entry = call.hashedEntry L.profile L.logUri digest (existing.length + 1) previous hash

section
variable {L : LocalAppendOnlyAnchorLog} {content : Option (List Char)} {call : AnchorCall} {entry : Dict}

theorem prepareEntry_ok : L.prepareEntry content call = .ok entry ↔ ∃ existing, L.readEntries content = .ok existing ∧
    ∃ digest previous hash, Prepared L existing call digest previous hash entry := by
  unfold LocalAppendOnlyAnchorLog.prepareEntry computeEntryHash hashSpec
  simp only [Fallible.bind_eq_ok, Fallible.pure_eq_ok, payload_entry]
  constructor
  · rintro ⟨digest, hdigest, existing, hread, previous, hprevious, _, ⟨hash, hhash, rfl⟩, rfl⟩
    exact ⟨existing, hread, digest, previous, hash, hdigest, hprevious, hhash, rfl⟩
  · rintro ⟨existing, hread, digest, previous, hash, h⟩
    exact ⟨digest, h.normalized, existing, hread, previous, h.linked, _, ⟨hash, h.hashed, rfl⟩, h.made.symm⟩

theorem normalizeArtifactDigest_isDigest {raw : Json} {digest : Dict} (h : normalizeArtifactDigest raw = .ok digest) :
    IsDigest digest := by
  unfold normalizeArtifactDigest at h
  cases raw with
  | obj data =>
    obtain ⟨a, v, c, hd, rfl⟩ := parseHashSpec_ok.mp h
    exact ⟨a, v, c, hd.digestOf, rfl⟩
  | null | bool b | int n | float f | str s | arr xs | tup xs => cases h

theorem lawful_texts {d : Dict} (ht : d.Texts) (hu : d.UniqueKeys) : (Json.obj d).lawful = true := by
  refine (Json.lawful_obj d).mpr ⟨hu, fun p hp => ?_⟩
  obtain ⟨s, hs⟩ := ht p hp
  rw [hs]
  rfl

theorem IsDigest.lawful {d : Dict} (h : IsDigest d) : (Json.obj d).lawful = true := by
  obtain ⟨a, v, c, -, rfl⟩ := h
  exact lawful_texts (digestOf_texts a v c) (digestOf_unique a v c)

variable {ls : List LogLine} {digest : Dict} {previous : Json} {hash : String}

/-- the hash of the last line, as it is read -/
theorem previousHash_lawful (h : LocalAppendOnlyAnchorLog.previousHash (ls.map LogLine.read) = .ok previous) :
    previous.lawful = true := by
  unfold LocalAppendOnlyAnchorLog.previousHash at h
  rw [List.getLast?_map] at h
  cases hl : ls.getLast? with
  | none =>
    rw [hl] at h
    cases h
    rfl
  | some l =>
    rw [hl] at h
    have hitem : Dict.item l.read "entry_hash" = .ok previous := h
    unfold Dict.item at hitem
    cases hf : Dict.find l.read (.str "entry_hash") with
    | none =>
      rw [hf] at hitem
      cases hitem
    | some v =>
      rw [hf] at hitem
      cases hitem
      exact ((Json.lawful_obj _).mp l.read_lawful).2 _ (Dict.mem_of_find hf)

theorem lawful_optMember {name : String} {v : Json} (h : v.lawful = true) :
    ∀ p ∈ optMember name v, p.2.lawful = true := by
  cases v <;> simp [optMember] <;> exact h

theorem lawful_dictMember {name : String} {d : Dict} (h : (Json.obj d).lawful = true) :
    ∀ p ∈ dictMember name d, p.2.lawful = true := by
  unfold dictMember
  split
  · exact fun p hp => nomatch hp
  · exact List.forall_mem_singleton.mpr h

theorem textJson_lawful (o : Option String) : (textJson o).lawful = true := by cases o <;> rfl

theorem Prepared.lawful (h : Prepared L (ls.map LogLine.read) call digest previous hash entry) :
    (Json.obj entry).lawful = true := by
  have hmetadata : (Json.obj (call.metadata.getD [])).lawful = true := by
    cases hm : call.metadata with
    | none => rfl
    | some d => exact call.lawful d hm
  rw [h.made, Json.lawful_obj]
  refine ⟨hashedEntry_unique _ _ _ _ _ _ _, ?_⟩
  unfold AnchorCall.hashedEntry AnchorCall.entry
  refine List.forall_mem_append.mpr ⟨List.forall_mem_append.mpr ⟨List.forall_mem_append.mpr
    ⟨List.forall_mem_append.mpr ⟨?_, lawful_optMember (textJson_lawful _)⟩, lawful_optMember (textJson_lawful _)⟩,
    lawful_dictMember hmetadata⟩, ?_⟩
  · unfold members
    refine List.forall_mem_map.mpr ?_
    simp only [List.forall_mem_cons]
    have hdigest := (normalizeArtifactDigest_isDigest h.normalized).lawful
    exact ⟨by decide, by decide, rfl, rfl, hdigest, rfl, rfl, rfl, previousHash_lawful h.linked, fun p hp => nomatch hp⟩
  · exact List.forall_mem_singleton.mpr (lawful_texts (hashDict_texts _ _) (hashDict_unique _ _))

theorem canonText_hashDict (profile value : String) : ∃ t, canonText (.obj (hashDict profile value)) = .ok t := by
  refine canonText_members fun p hp => ?_
  obtain ⟨s, hs⟩ := hashDict_texts profile value p hp
  unfold hashDict members at hp
  obtain ⟨q, -, rfl⟩ := List.mem_map.mp hp
  exact ⟨rfl, _, congrArg canonText hs⟩

/-- **The entry of a call is a canonical line.** -/
theorem Prepared.line (h : Prepared L (ls.map LogLine.read) call digest previous hash entry) :
    ∃ l : LogLine, l.entry = entry := by
  obtain ⟨bytes, hbytes, -⟩ := sha256Hex_ok h.hashed
  obtain ⟨t, ht, -⟩ := canonicalizeBytes_ok hbytes
  have hmembers : ∀ p ∈ entry, p.1.isText = true ∧ ∃ t, canonText p.2 = .ok t := by
    rw [h.made]
    unfold AnchorCall.hashedEntry
    refine List.forall_mem_append.mpr ⟨fun p hp => ?_, ?_⟩
    · obtain ⟨u, hu, -⟩ := canonText_child ht (List.mem_map_of_mem hp)
      exact ⟨LocalAppendOnlyAnchorLog.keys_text ht p hp, u, hu⟩
    · exact List.forall_mem_singleton.mpr ⟨rfl, canonText_hashDict _ _⟩
  obtain ⟨u, hu⟩ := canonText_members hmembers
  exact ⟨⟨entry, u, hu, h.lawful⟩, rfl⟩

/-! ## its place in the chain -/

variable {l : LogLine}

/-- the members of a prepared line -/
theorem Prepared.find (h : Prepared L (ls.map LogLine.read) call digest previous hash l.entry) (name : String) (v : Json)
    (hv : Dict.find (call.hashedEntry L.profile L.logUri digest (ls.length + 1) previous hash) (.str name) = some v) :
    Dict.get l.read name = v.asRead := by
  rw [get_read, h.made, List.length_map]
  unfold Dict.get
  rw [hv]
  rfl

theorem map_asRead_texts {d : Dict} (ht : d.Texts) : (d.map fun p => (p.1, p.2.asRead)) = d := by
  refine (List.map_congr_left fun p hp => ?_).trans (List.map_id d)
  obtain ⟨s, hs⟩ := ht p hp
  obtain ⟨k, x⟩ := p
  cases hs
  rfl

theorem pyEq_asRead_texts {d e : Dict} (ht : e.Texts) (hu : e.UniqueKeys) (hp : d.Perm e) :
    (Json.obj d).asRead.pyEq (.obj e) = true := by
  rw [asRead_obj, map_asRead_texts (texts_of_perm ht hp)]
  exact pyEq_texts ht hu ((sortDict_perm d).trans hp) (List.Perm.refl e)

/-- what is hashed of an entry is read as the same value -/
theorem payload_read (l : LogLine) : Dict.Same (entryHashPayload l.entry) (entryHashPayload l.read) := by
  have hperm : (entryHashPayload l.read).Perm ((entryHashPayload l.entry).map fun p => (p.1, p.2.asRead)) := by
    unfold entryHashPayload LogLine.read
    refine ((sortDict_perm _).filter _).trans (List.Perm.of_eq ?_)
    rw [List.filter_map]
    rfl
  refine (Dict.same_iff _ _).mpr ⟨_, ?_, hperm.symm⟩
  rw [List.forall₂_map_right_iff]
  exact List.forall₂_same.mpr fun p _ => ⟨rfl, same_asRead p.2⟩

theorem payload_lawful (l : LogLine) : (Json.obj (entryHashPayload l.entry)).lawful = true := by
  obtain ⟨hu, hvalues⟩ := (Json.lawful_obj _).mp l.lawful
  refine (Json.lawful_obj _).mpr ⟨hu.sublist (List.filter_sublist.map _), fun p hp => ?_⟩
  exact hvalues p (List.mem_of_mem_filter hp)

theorem Prepared.payload (h : Prepared L (ls.map LogLine.read) call digest previous hash l.entry) :
    sha256Hex L.platform (.obj (entryHashPayload l.read)) = .ok hash := by
  have hsame := payload_read l
  have hpayload := h.hashed
  rw [← payload_hashedEntry call L.profile L.logUri digest _ previous hash, ← h.made] at hpayload
  unfold sha256Hex at hpayload ⊢
  rw [← canonicalizeBytes_congr (canonText_congr hsame (payload_lawful l)) (Json.Same.depth hsame)]
  exact hpayload

/-- the link of an entry is the hash of the last entry -/
theorem previousHash_concat {es : List Dict} {e kvs : Dict}
    (h : LocalAppendOnlyAnchorLog.previousHash (es ++ [e]) = .ok previous)
    (hk : Dict.get e "entry_hash" = .obj kvs) : previous = .obj kvs := by
  unfold LocalAppendOnlyAnchorLog.previousHash at h
  rw [List.getLast?_concat] at h
  have hitem : Dict.item e "entry_hash" = .ok previous := h
  unfold Dict.item at hitem
  rw [Dict.find_of_get hk Json.noConfusion] at hitem
  exact (Except.ok.inj hitem).symm

/-- the hash of the last line is the one the next entry must link to -/
theorem previous_links (h : LocalAppendOnlyAnchorLog.previousHash (ls.map LogLine.read) = .ok previous)
    (hvalid : validateChain L.platform L.profile (ls.map LogLine.read) = .ok ()) :
    previous.asRead.pyEq (previousJson (lastHash L.platform L.profile none (ls.map LogLine.read))) = true := by
  rcases List.eq_nil_or_concat ls with rfl | ⟨ls, k, rfl⟩
  · cases h
    rfl
  · rw [List.concat_eq_append, List.map_append, List.map_singleton] at h hvalid ⊢
    obtain ⟨-, hash, haccepted⟩ := (validateFrom_append 1 none _ _).mp hvalid
    obtain ⟨kvs, hk, hp⟩ := perm_of_pyEq_hash (Json.lawful_get k.read_lawful _) haccepted.entryHash
    rw [previousHash_concat h hk]
    unfold lastHash
    rw [List.getLast?_concat]
    show Json.pyEq _ (.obj (hashDict L.profile (entryHashText L.platform k.read))) = true
    rw [haccepted.text]
    exact pyEq_asRead_texts (hashDict_texts _ _) (hashDict_unique _ _) hp

/-- **The chain goes on** with an entry that was prepared from all its lines. -/
theorem Prepared.accepted (h : Prepared L (ls.map LogLine.read) call digest previous hash l.entry)
    (hvalid : validateChain L.platform L.profile (ls.map LogLine.read) = .ok ()) :
    AcceptedEntry L.platform L.profile (1 + (ls.map LogLine.read).length)
      (lastHash L.platform L.profile none (ls.map LogLine.read)) l.read hash := by
  have hsample : ∀ v : Dict, v.Texts → v.UniqueKeys → (Json.obj v).asRead.pyEq (.obj v) = true :=
    fun v ht hu => pyEq_asRead_texts ht hu (List.Perm.refl v)
  refine ⟨?_, ?_, ?_, ?_, h.payload, ?_⟩
  · rw [h.find "contract" (.obj localAnchorLogEntryContract) (by simp [find_hashedEntry, find_members_cons])]
    decide
  · rw [h.find "anchor_type" (.str localAppendOnlyAnchorType) (by simp [find_hashedEntry, find_members_cons])]
    rfl
  · rw [h.find "sequence" (.int (ls.length + 1 : Nat)) (by simp [find_hashedEntry, find_members_cons])]
    have hplace : ((ls.length + 1 : Nat) : Int) = 1 + (ls.map LogLine.read).length := by
      rw [List.length_map]
      omega
    rw [hplace]
    exact pyEq_int.mpr rfl
  · rw [h.find "previous_entry_hash" previous (by simp [find_hashedEntry, find_members_cons])]
    exact previous_links h.linked hvalid
  · rw [h.find "entry_hash" (.obj (hashDict L.profile hash))
      (by simp [find_hashedEntry, find_members_cons, find_members_nil])]
    exact hsample _ (hashDict_texts _ _) (hashDict_unique _ _)

/-- an entry stands at the place it was prepared for -/
theorem Prepared.place {index : Int} {first : Option Dict} {hash' : String}
    (h : Prepared L (ls.map LogLine.read) call digest previous hash l.entry)
    (haccepted : AcceptedEntry L.platform L.profile index first l.read hash') : index = ls.length + 1 := by
  have hseq := haccepted.sequence
  rw [h.find "sequence" (.int (ls.length + 1 : Nat)) (by simp [find_hashedEntry, find_members_cons])] at hseq
  have hnumber := PyFloat.finite.inj (Option.some.inj (pyEq_int.mp hseq))
  exact (Int.cast_injective hnumber).symm

end

end Actenon
