import ActenonKernel.Core.Equal
import ActenonKernel.Lib.HashChain
import ActenonKernel.Proof.Binding
import ActenonKernel.Proof.CanonicalIff
import ActenonKernel.Proof.CanonicalMembers

/-!
# The chain of the anchor log (`actenon/anchors/local_log.py`)

An entry holds the hash of its other members and the hash of the entry before it.  The profile name
is a constant of `actenon_protocol`.

* `hashSpec`, `computeEntryHash`    the hash of an entry;
* `validateChain`          `_validate_chain`;
* `AcceptedEntry`          what it establishes of an entry;
* `perm_of_pyEq_texts`     a dictionary equal to one of texts has its members;
* `anchor_chain_binding`   the last hash commits to every member of every entry.
-/

set_option linter.unusedSectionVars false

namespace Actenon

/-! ## entries -/

def localAnchorLogEntryContract : Dict :=
  members [("name", .str "local_anchor_log_entry"), ("version", .str "v1")]

def localAppendOnlyAnchorType : String := "local_append_only_log"

/-- a hash with its algorithm and profile -/
def hashDict (profile value : String) : Dict :=
  members [("algorithm", .str "sha-256"), ("canonicalization", .str profile), ("value", .str value)]

section
variable (P : Platform) (profile : String)

def hashSpec (value : Dict) : Except PyError Dict := do
  let hash ← sha256Hex P (.obj value)
  return hashDict profile hash

def entryHashPayload (entry : Dict) : Dict := entry.filter fun p => p.1 ≠ .str "entry_hash"

def computeEntryHash (entry : Dict) : Except PyError Dict := hashSpec P profile (entryHashPayload entry)

/-- `None`, or the hash of the entry before -/
def previousJson : Option Dict → Json
  | none => .null
  | some hash => .obj hash

/-- the loop of `_validate_chain` -/
def validateFrom : Int → Option Dict → List Dict → Except PyError Unit
  | _, _, [] => .ok ()
  | index, previousHash, entry :: entries =>
    if !(Dict.get entry "contract").pyEq (.obj localAnchorLogEntryContract) then
      valueError "local anchor log entry contract is unsupported"
    else if !(Dict.get entry "anchor_type").pyEq (.str localAppendOnlyAnchorType) then
      valueError "local anchor log entry anchor_type is unsupported"
    else if !(Dict.get entry "sequence").pyEq (.int index) then
      valueError "local anchor log sequence is not contiguous"
    else if !(Dict.get entry "previous_entry_hash").pyEq (previousJson previousHash) then
      valueError "local anchor log hash chain is broken"
    else do
      let expectedHash ← computeEntryHash P profile entry
      if !(Dict.get entry "entry_hash").pyEq (.obj expectedHash) then
        valueError "local anchor log entry hash does not match"
      else validateFrom (index + 1) (some expectedHash) entries

def validateChain (entries : List Dict) : Except PyError Unit := validateFrom P profile 1 none entries

/-- what the loop establishes of an entry: its place, its link and its hash -/
structure AcceptedEntry (index : Int) (previousHash : Option Dict) (entry : Dict) (hash : String) : Prop where
  contract : (Dict.get entry "contract").pyEq (.obj localAnchorLogEntryContract) = true
  anchorType : Dict.get entry "anchor_type" = .str localAppendOnlyAnchorType
  sequence : (Dict.get entry "sequence").pyEq (.int index) = true
  previous : (Dict.get entry "previous_entry_hash").pyEq (previousJson previousHash) = true
  hashed : sha256Hex P (.obj (entryHashPayload entry)) = .ok hash
  entryHash : (Dict.get entry "entry_hash").pyEq (.obj (hashDict profile hash)) = true

variable {P profile} {index : Int} {previousHash : Option Dict} {entry : Dict} {entries : List Dict}

theorem validateFrom_cons : validateFrom P profile index previousHash (entry :: entries) = .ok () ↔
    ∃ hash, AcceptedEntry P profile index previousHash entry hash ∧
      validateFrom P profile (index + 1) (some (hashDict profile hash)) entries = .ok () := by
  rw [validateFrom]
  unfold computeEntryHash hashSpec
  constructor
  · intro h
    split_ifs at h with hcontract htype hsequence hprevious
    · cases h
    · cases h
    · cases h
    · cases h
    · simp only [Fallible.bind_eq_ok, Fallible.pure_eq_ok] at h
      obtain ⟨_, ⟨hash, hh, rfl⟩, h⟩ := h
      split at h
      · cases h
      · rename_i hequal
        simp only [Bool.not_eq_true', Bool.not_eq_false] at hcontract htype hsequence hprevious hequal
        exact ⟨hash, ⟨hcontract, pyEq_str.mp htype, hsequence, hprevious, hh, hequal⟩, h⟩
  · rintro ⟨hash, ⟨hcontract, htype, hsequence, hprevious, hh, hequal⟩, h⟩
    rw [if_neg (by simp [hcontract]), if_neg (by simp [pyEq_str.mpr htype]), if_neg (by simp [hsequence]),
      if_neg (by simp [hprevious])]
    simp only [Fallible.bind_eq_ok, Fallible.pure_eq_ok]
    exact ⟨_, ⟨hash, hh, rfl⟩, by rw [if_neg (by simp [hequal]), h]⟩

end

/-! ## dictionaries of texts -/

section
variable {d d' kvs : Dict}

/-- every value is a text -/
def Dict.Texts (d : Dict) : Prop := ∀ p ∈ d, ∃ s, p.2 = .str s

theorem hashDict_texts (profile value : String) : (hashDict profile value).Texts := by
  intro p hp
  simp only [hashDict, members, List.map_cons, List.map_nil, List.mem_cons, List.not_mem_nil, or_false] at hp
  rcases hp with rfl | rfl | rfl <;> exact ⟨_, rfl⟩

theorem pyEqMembers_subset (ht : d.Texts) (h : Json.pyEqMembers kvs d = true) : ∀ p ∈ kvs, p ∈ d := by
  induction kvs with
  | nil => exact fun p hp => nomatch hp
  | cons q kvs ih =>
    obtain ⟨k, x⟩ := q
    rw [Json.pyEqMembers] at h
    cases hf : Dict.find d k with
    | none =>
      rw [hf] at h
      cases h
    | some y =>
      simp only [hf, Bool.and_eq_true] at h
      have hmem : (k, y) ∈ d := Dict.mem_of_find hf
      obtain ⟨s, rfl : y = .str s⟩ := ht _ hmem
      rw [pyEq_str.mp h.1]
      exact List.forall_mem_cons.mpr ⟨hmem, ih h.2⟩

/-- a dictionary that is equal to one of texts has its members, in some order -/
theorem perm_of_pyEq_texts (ht : d.Texts) (hu : kvs.UniqueKeys) (h : (Json.obj kvs).pyEq (.obj d) = true) :
    kvs.Perm d := by
  rw [Json.pyEq, Bool.and_eq_true, decide_eq_true_eq] at h
  have hnodup : kvs.Nodup := hu.of_map
  have hsub : kvs.Subperm d := List.subperm_of_subset hnodup fun p hp => pyEqMembers_subset ht h.2 p hp
  exact hsub.perm_of_length_le (Nat.le_of_eq h.1.symm)

theorem texts_of_perm (ht : d.Texts) (hp : kvs.Perm d) : kvs.Texts := fun p h => ht p (hp.subset h)

theorem obj_of_pyEq {j : Json} (h : j.pyEq (.obj d) = true) : ∃ kvs, j = .obj kvs := by
  cases j with
  | obj kvs => exact ⟨kvs, rfl⟩
  | _ => simp [Json.pyEq, Json.number?] at h

/-- the value of a hash can be read off its members -/
theorem hashDict_injective {profile value value' : String}
    (hp : (hashDict profile value).Perm (hashDict profile value')) : value = value' := by
  have hmem : ((.str "value" : Key), Json.str value) ∈ hashDict profile value' :=
    hp.subset (by simp [hashDict, members])
  simpa [hashDict, members] using hmem

/-! ## the same dictionary -/

theorem SameMember.refl (p : Key × Json) : SameMember p p := ⟨rfl, Json.Same.refl p.2⟩

theorem Dict.Same.of_perm (hp : d.Perm d') : Dict.Same d d' :=
  (Dict.same_iff d d').mpr ⟨d, List.forall₂_same.mpr fun p _ => SameMember.refl p, hp⟩

theorem Dict.Same.cons {p q : Key × Json} (hpq : SameMember p q) (h : Dict.Same d d') :
    Dict.Same (p :: d) (q :: d') := by
  rw [Dict.same_iff] at h ⊢
  obtain ⟨l, hl, hp⟩ := h
  exact ⟨q :: l, List.Forall₂.cons hpq hl, hp.cons q⟩

theorem Dict.Same.of_perms {e e' : Dict} (hp : d.Perm e) (hp' : d'.Perm e') (h : Dict.Same e e') :
    Dict.Same d d' := by
  rw [Dict.same_iff] at h ⊢
  obtain ⟨l, hl, hperm⟩ := h
  obtain ⟨l', hl', hperm'⟩ := List.perm_comp_forall₂ hp hl
  exact ⟨l', hl', (hperm'.trans hperm).trans hp'.symm⟩

/-- the member with a key and the others -/
theorem Dict.perm_cons_filter {k : Key} {x : Json} (hu : d.UniqueKeys) (h : Dict.find d k = some x) :
    d.Perm ((k, x) :: d.filter fun p => p.1 ≠ k) := by
  induction d with
  | nil => cases h
  | cons p d ih =>
    obtain ⟨k', v⟩ := p
    obtain ⟨hk, hd⟩ := List.nodup_cons.mp hu
    rw [Dict.find_cons] at h
    by_cases he : k' = k
    · subst he
      rw [if_pos rfl] at h
      cases h
      have hrest : (d.filter fun p => p.1 ≠ k') = d := by
        refine List.filter_eq_self.mpr fun p hp => ?_
        have hne : p.1 ≠ k' := fun heq => hk (List.mem_map.mpr ⟨p, hp, heq⟩)
        simp [hne]
      rw [List.filter_cons_of_neg (by simp), hrest]
    · rw [if_neg he] at h
      rw [List.filter_cons_of_pos (by simpa using he)]
      exact ((ih hd h).cons _).trans (List.Perm.swap _ _ _)

theorem Json.lawful_get {e : Dict} (h : (Json.obj e).lawful = true) (name : String) :
    (Dict.get e name).lawful = true := by
  unfold Dict.get
  cases hf : Dict.find e (.str name) with
  | none => rfl
  | some x => exact ((Json.lawful_obj e).mp h).2 _ (Dict.mem_of_find hf)

theorem uniqueKeys_of_get {e kvs : Dict} {name : String} (h : (Json.obj e).lawful = true)
    (hg : Dict.get e name = .obj kvs) : kvs.UniqueKeys := by
  have hl := Json.lawful_get h name
  rw [hg] at hl
  exact ((Json.lawful_obj kvs).mp hl).1

end

/-! ## what the last hash commits to -/

def Json.textValue? : Json → Option String
  | .str s => some s
  | _ => none

/-- the `value` of a hash -/
def hashValue? : Json → Option String
  | .obj kvs => (Dict.get kvs "value").textValue?
  | _ => none

/-- the hash an entry links to -/
def previousLink (entry : Dict) : Option String := hashValue? (Dict.get entry "previous_entry_hash")

/-- the hash of an entry that has one -/
def entryHashText (P : Platform) (entry : Dict) : String :=
  (sha256Hex P (.obj (entryHashPayload entry))).toOption.getD ""

section
variable {P : Platform} {profile : String} {index : Int} {previous : Option String} {entry entry' : Dict}
  {entries : List Dict} {hash : String}

/-- a value that is equal to a hash is a dictionary with its members -/
theorem perm_of_pyEq_hash {j : Json} {value : String} (hl : j.lawful = true)
    (h : j.pyEq (.obj (hashDict profile value)) = true) : ∃ kvs, j = .obj kvs ∧ kvs.Perm (hashDict profile value) := by
  obtain ⟨kvs, rfl⟩ := obj_of_pyEq h
  exact ⟨kvs, rfl, perm_of_pyEq_texts (hashDict_texts _ _) ((Json.lawful_obj kvs).mp hl).1 h⟩

theorem hashValue_of_pyEq {j : Json} {value : String} (hl : j.lawful = true)
    (h : j.pyEq (.obj (hashDict profile value)) = true) : hashValue? j = some value := by
  obtain ⟨kvs, rfl, hp⟩ := perm_of_pyEq_hash hl h
  have hfind := Dict.find_perm hp ((Json.lawful_obj kvs).mp hl).1 (.str "value")
  have hget : Dict.get kvs "value" = .str value := by
    unfold Dict.get
    rw [hfind]
    simp [hashDict, find_members_cons]
  show (Dict.get kvs "value").textValue? = _
  rw [hget]
  rfl

theorem pyEq_null {j : Json} : j.pyEq .null = true ↔ j = .null := by
  cases j <;> simp [Json.pyEq, Json.number?]

theorem AcceptedEntry.link (h : AcceptedEntry P profile index (previous.map (hashDict profile)) entry hash)
    (hl : (Json.obj entry).lawful = true) : previousLink entry = previous := by
  have hp := h.previous
  unfold previousLink
  cases previous with
  | none =>
    rw [pyEq_null.mp hp]
    rfl
  | some value => exact hashValue_of_pyEq (Json.lawful_get hl _) hp

theorem AcceptedEntry.text {previousHash : Option Dict} (h : AcceptedEntry P profile index previousHash entry hash) :
    entryHashText P entry = hash := by
  unfold entryHashText
  rw [h.hashed]
  rfl

theorem linked_of_validated (hl : ∀ e ∈ entries, (Json.obj e).lawful = true)
    (h : validateFrom P profile index (previous.map (hashDict profile)) entries = .ok ()) :
    HashChain.Linked (entryHashText P) previousLink previous entries ∧
      ∀ e ∈ entries, ∃ index previousHash hash, AcceptedEntry P profile index previousHash e hash := by
  induction entries generalizing index previous with
  | nil => exact ⟨trivial, fun e he => nomatch he⟩
  | cons e entries ih =>
    obtain ⟨hash, haccepted, hrest⟩ := validateFrom_cons.mp h
    obtain ⟨hlinked, hall⟩ := @ih (index + 1) (some hash) (fun e he => hl e (List.mem_cons_of_mem _ he)) hrest
    refine ⟨⟨haccepted.link (hl e List.mem_cons_self), ?_⟩, List.forall_mem_cons.mpr ⟨⟨_, _, hash, haccepted⟩, hall⟩⟩
    rw [haccepted.text]
    exact hlinked

/-- accepted entries with the same hash are the same in every member -/
theorem same_of_accepted {i i' : Int} {previousHash previousHash' : Option Dict}
    (h : AcceptedEntry P profile i previousHash entry hash) (h' : AcceptedEntry P profile i' previousHash' entry' hash)
    (hl : (Json.obj entry).lawful = true) (hl' : (Json.obj entry').lawful = true)
    (hfree : CollisionFree P (hashedBytes P (.obj (entryHashPayload entry))
      ++ hashedBytes P (.obj (entryHashPayload entry')))) : Dict.Same entry entry' := by
  obtain ⟨bytes, hb, hv⟩ := sha256Hex_ok h.hashed
  obtain ⟨bytes', hb', hv'⟩ := sha256Hex_ok h'.hashed
  have hsha : P.sha256 bytes = P.sha256 bytes' :=
    Hex.toHex_injective (String.ofList_injective (hv.symm.trans hv'))
  obtain rfl : bytes = bytes' := by
    refine hfree bytes (List.mem_append_left _ ?_) bytes' (List.mem_append_right _ ?_) hsha
    · unfold hashedBytes
      rw [hb]
      exact List.mem_cons_self
    · unfold hashedBytes
      rw [hb']
      exact List.mem_cons_self
  have hpayload : Dict.Same (entryHashPayload entry) (entryHashPayload entry') := canonicalizeBytes_inj hb hb'
  obtain ⟨kvs, hk, hp⟩ := perm_of_pyEq_hash (Json.lawful_get hl _) h.entryHash
  obtain ⟨kvs', hk', hp'⟩ := perm_of_pyEq_hash (Json.lawful_get hl' _) h'.entryHash
  have hhash : SameMember (.str "entry_hash", .obj kvs) (.str "entry_hash", .obj kvs') :=
    ⟨rfl, Dict.Same.of_perm (hp.trans hp'.symm)⟩
  have hf := Dict.find_of_get hk Json.noConfusion
  have hf' := Dict.find_of_get hk' Json.noConfusion
  exact Dict.Same.of_perms (Dict.perm_cons_filter ((Json.lawful_obj _).mp hl).1 hf)
    (Dict.perm_cons_filter ((Json.lawful_obj _).mp hl').1 hf') (Dict.Same.cons hhash hpayload)

theorem textValue_of_same {j j' : Json} (h : Json.Same j j') : j.textValue? = j'.textValue? := by
  cases j with
  | arr xs | tup xs =>
    obtain ⟨ys, hys, -⟩ := h
    cases j' <;> first | rfl | cases hys
  | obj kvs =>
    obtain ⟨kvs', _, rfl, -⟩ := h
    rfl
  | null | bool b | int n | float f | str s =>
    rw [Json.Same] at h
    rw [h]

theorem hashValue_of_same {j j' : Json} (hl : j'.lawful = true) (h : Json.Same j j') : hashValue? j = hashValue? j' := by
  cases j with
  | obj kvs =>
    obtain ⟨kvs', _, rfl, -⟩ := id h
    exact textValue_of_same (Dict.Same.get h ((Json.lawful_obj kvs').mp hl).1 "value")
  | arr xs | tup xs =>
    obtain ⟨ys, hys, -⟩ := h
    cases j' <;> first | rfl | cases hys
  | null | bool b | int n | float f | str s =>
    rw [Json.Same] at h
    rw [h]

theorem previousLink_of_same (hl : (Json.obj entry').lawful = true) (h : Dict.Same entry entry') :
    previousLink entry = previousLink entry' :=
  hashValue_of_same (Json.lawful_get hl _) (Dict.Same.get h ((Json.lawful_obj _).mp hl).1 _)

/-- entry hashes that are equal have the same value -/
theorem AcceptedEntry.hash_eq {i i' : Int} {previousHash previousHash' : Option Dict} {hash' : String}
    (h : AcceptedEntry P profile i previousHash entry hash) (h' : AcceptedEntry P profile i' previousHash' entry' hash')
    (hl : (Json.obj entry).lawful = true) (hl' : (Json.obj entry').lawful = true)
    (he : (Dict.get entry "entry_hash").pyEq (Dict.get entry' "entry_hash") = true) : hash = hash' := by
  obtain ⟨kvs, hk, hp⟩ := perm_of_pyEq_hash (Json.lawful_get hl _) h.entryHash
  obtain ⟨kvs', hk', hp'⟩ := perm_of_pyEq_hash (Json.lawful_get hl' _) h'.entryHash
  rw [hk, hk'] at he
  have hperm := perm_of_pyEq_texts (texts_of_perm (hashDict_texts _ _) hp') (uniqueKeys_of_get hl hk) he
  exact hashDict_injective ((hp.symm.trans hperm).trans hp')

end

/-- **The last hash commits to the log.**  Two logs of parsed entries that `_validate_chain` accepts, of
the same length and with the same last `entry_hash`, are equal entry by entry in every member. -/
theorem anchor_chain_binding (P : Platform) (profile : String) (entries entries' : List Dict)
    (hparsed : ∀ e ∈ entries ++ entries', (Json.obj e).lawful = true)
    (h : validateChain P profile entries = .ok ()) (h' : validateChain P profile entries' = .ok ())
    (hlen : entries.length = entries'.length)
    (hlast : ∀ e ∈ entries.getLast?, ∀ e' ∈ entries'.getLast?,
      (Dict.get e "entry_hash").pyEq (Dict.get e' "entry_hash") = true)
    (hfree : CollisionFree P ((entries ++ entries').flatMap fun e => hashedBytes P (.obj (entryHashPayload e)))) :
    List.Forall₂ Dict.Same entries entries' := by
  have hl : ∀ e ∈ entries, (Json.obj e).lawful = true := fun e he => hparsed e (List.mem_append_left _ he)
  have hl' : ∀ e ∈ entries', (Json.obj e).lawful = true := fun e he => hparsed e (List.mem_append_right _ he)
  obtain ⟨hlinked, haccepted⟩ := @linked_of_validated P profile 1 none entries hl h
  obtain ⟨hlinked', haccepted'⟩ := @linked_of_validated P profile 1 none entries' hl' h'
  have hmessages : ∀ e ∈ entries, ∀ e' ∈ entries', CollisionFree P
      (hashedBytes P (.obj (entryHashPayload e)) ++ hashedBytes P (.obj (entryHashPayload e'))) := by
    intro e he e' he' m hm m' hm'
    have hsub : ∀ m ∈ hashedBytes P (.obj (entryHashPayload e)) ++ hashedBytes P (.obj (entryHashPayload e')),
        m ∈ (entries ++ entries').flatMap fun e => hashedBytes P (.obj (entryHashPayload e)) := by
      intro m hm
      rcases List.mem_append.mp hm with hm | hm
      · exact List.mem_flatMap.mpr ⟨e, List.mem_append_left _ he, hm⟩
      · exact List.mem_flatMap.mpr ⟨e', List.mem_append_right _ he', hm⟩
    exact hfree m (hsub m hm) m' (hsub m' hm')
  have hsame : List.Forall₂ (fun e e' => Dict.Same e e' ∧ (Json.obj e').lawful = true) entries entries' := by
    refine (HashChain.commit (fun e e' hR => previousLink_of_same hR.2 hR.1) ?_ hlinked hlinked' hlen ?_).1
    · intro e he e' he' htext
      obtain ⟨_, _, hash, ha⟩ := haccepted e he
      obtain ⟨_, _, hash', ha'⟩ := haccepted' e' he'
      rw [ha.text, ha'.text] at htext
      subst htext
      exact ⟨same_of_accepted ha ha' (hl e he) (hl' e' he') (hmessages e he e' he'), hl' e' he'⟩
    · cases hx : entries.getLast? with
      | none =>
        rw [List.getLast?_eq_none_iff.mp hx] at hlen
        rw [List.length_eq_zero_iff.mp hlen.symm]
        rfl
      | some e =>
        cases hx' : entries'.getLast? with
        | none =>
          rw [List.getLast?_eq_none_iff.mp hx'] at hlen
          rw [List.length_eq_zero_iff.mp hlen] at hx
          cases hx
        | some e' =>
          have he := List.mem_of_getLast? hx
          have he' := List.mem_of_getLast? hx'
          obtain ⟨_, _, hash, ha⟩ := haccepted e he
          obtain ⟨_, _, hash', ha'⟩ := haccepted' e' he'
          rw [Option.map_some, Option.map_some, ha.text, ha'.text]
          exact congrArg some (ha.hash_eq ha' (hl e he) (hl' e' he') (hlast e hx e' hx'))
  exact hsame.imp fun e e' hR => hR.1

/-! ## two spellings of one log -/

/-- SHA-256 at two entries -/
def anchorHash (m : List UInt8) : List UInt8 :=
  if m.length = 159 then
    (Hex.fromHex "82243358988205bc58aba3558c0f32ffbab1c941db1a4506f9dbea2f67157a5d".toList).getD []
  else if m.length = 322 then
    (Hex.fromHex "4ca1e57b655cd7917cf3ad8d7d696623fde0419ebdf34f09f584815172f63407".toList).getD []
  else List.replicate 32 0

def anchorPlatform : Platform := samplePlatform anchorHash

def sampleEntries : List Dict :=
  let first := hashDict "ACTENON-JCS-STRICT-1" "82243358988205bc58aba3558c0f32ffbab1c941db1a4506f9dbea2f67157a5d"
  [members [("contract", .obj localAnchorLogEntryContract), ("anchor_id", .str "anc_1"),
      ("anchor_type", .str localAppendOnlyAnchorType), ("sequence", .int 1), ("previous_entry_hash", .null),
      ("entry_hash", .obj first)],
    members [("contract", .obj localAnchorLogEntryContract), ("anchor_id", .str "anc_2"),
      ("anchor_type", .str localAppendOnlyAnchorType), ("sequence", .int 2), ("previous_entry_hash", .obj first),
      ("metadata", .obj (members [("env", .str "pilot")])), ("entry_hash", .obj (hashDict "ACTENON-JCS-STRICT-1"
        "4ca1e57b655cd7917cf3ad8d7d696623fde0419ebdf34f09f584815172f63407"))]]

/-- the members of every entry in the opposite order -/
def spelledEntries : List Dict := sampleEntries.map List.reverse

theorem anchor_chain_binding_sample : List.Forall₂ Dict.Same sampleEntries spelledEntries := by
  have hvalid : validateChain anchorPlatform "ACTENON-JCS-STRICT-1" sampleEntries = .ok () ∧
      validateChain anchorPlatform "ACTENON-JCS-STRICT-1" spelledEntries = .ok () := by decide +kernel
  refine anchor_chain_binding anchorPlatform "ACTENON-JCS-STRICT-1" sampleEntries spelledEntries ?_ hvalid.1 hvalid.2
    rfl ?_ ?_
  · decide +kernel
  · decide +kernel
  · decide +kernel

end Actenon
