import ActenonKernel.Anchors.Chain
import ActenonKernel.Models.RoundTrip
import ActenonKernel.Proof.CanonicalReads
import ActenonKernel.Receipts.Factory

/-!
# External anchors (`actenon/anchors/models.py`)

An anchor names an entry of a log: its place, its hash and the digest of the artifact.  It travels as
a dictionary inside an attestation.

* `normalizeArtifactDigest`    a digest with the texts it must have;
* `ExternalAnchor.fromDict`, `ExternalAnchor.toDict`;
* `ExternalAnchor.pyEq`     the equality of the dataclass;
* `ExternalAnchor.Alike`    anchors that are equal up to their metadata;
* `fromDict_toDict`         an anchor that travelled is equal to the one sent.
-/

set_option linter.unusedSectionVars false

namespace Actenon

def externalAnchorContract : Dict := members [("name", .str "external_anchor"), ("version", .str "v1")]

/-! ## digests -/

def Anchors.parseHashSpec (raw : Json) (fieldName : String) : Except PyError Dict := do
  let data ← expectMapping raw fieldName
  let algorithm ← expectString (Dict.get data "algorithm") s!"{fieldName}.algorithm"
  let value ← expectString (Dict.get data "value") s!"{fieldName}.value"
  match Dict.get data "canonicalization" with
  | .null => return members [("algorithm", .str algorithm), ("value", .str value)]
  | raw => do
    let canonicalization ← expectString raw s!"{fieldName}.canonicalization"
    return members [("algorithm", .str algorithm), ("value", .str value),
      ("canonicalization", .str canonicalization)]

def normalizeArtifactDigest (raw : Json) : Except PyError Dict := Anchors.parseHashSpec raw "artifact_digest"

def artifactDigestsMatch (left right : Json) : Except PyError Bool := do
  let leftDigest ← normalizeArtifactDigest left
  let rightDigest ← normalizeArtifactDigest right
  if !(Dict.get leftDigest "algorithm").pyEq (Dict.get rightDigest "algorithm") then return false
  else if !(Dict.get leftDigest "value").pyEq (Dict.get rightDigest "value") then return false
  else
    match Dict.get leftDigest "canonicalization", Dict.get rightDigest "canonicalization" with
    | .null, _ => return true
    | _, .null => return true
    | leftCanonicalization, rightCanonicalization => return leftCanonicalization.pyEq rightCanonicalization

def parsePositiveSequence (raw : Json) : Except PyError Int :=
  match raw with
  | .int n => if n ≤ 0 then valueError "external anchor sequence must be a positive integer" else .ok n
  | .bool true => .ok 1
  | _ => valueError "external anchor sequence must be a positive integer"

/-! ## anchors -/

structure ExternalAnchor where
  anchorId : String
  anchorType : String
  artifactDigest : Dict
  anchoredAt : Datetime
  logUri : String
  sequence : Int
  entryHash : Dict
  previousEntryHash : Option Dict := none
  artifactType : Option String := none
  artifactId : Option String := none
  metadata : Dict := []

/-- `parse(x) if x is not None else None` -/
def parseUnlessNone (parse : Json → Except PyError Dict) (raw : Json) : Except PyError (Option Dict) :=
  match raw with
  | .null => .ok none
  | raw => (parse raw).map some

/-- `dict(expect_mapping(x, name)) if x else {}` -/
def mappingIfAny (raw : Json) (fieldName : String) : Except PyError Dict :=
  if raw.truthy then expectMapping raw fieldName else .ok []

def ExternalAnchor.fromDict (raw : Json) : Except PyError ExternalAnchor := do
  let data ← expectMapping raw "external_anchor"
  let contract ← expectMapping (Dict.get data "contract") "external_anchor.contract"
  if !isStr (Dict.get contract "name") "external_anchor" || !isStr (Dict.get contract "version") "v1" then
    valueError "external anchor contract must declare external_anchor v1"
  else do
    let anchorId ← expectString (Dict.get data "anchor_id") "external_anchor.anchor_id"
    let anchorType ← expectString (Dict.get data "anchor_type") "external_anchor.anchor_type"
    let artifactDigest ← normalizeArtifactDigest (Dict.get data "artifact_digest")
    let anchoredAt ← parseTimestamp (Dict.get data "anchored_at") "external_anchor.anchored_at"
    let logUri ← expectString (Dict.get data "log_uri") "external_anchor.log_uri"
    let sequence ← parsePositiveSequence (Dict.get data "sequence")
    let entryHash ← Anchors.parseHashSpec (Dict.get data "entry_hash") "external_anchor.entry_hash"
    let previousEntryHash ← parseUnlessNone (Anchors.parseHashSpec · "external_anchor.previous_entry_hash")
      (Dict.get data "previous_entry_hash")
    let metadata ← mappingIfAny (Dict.get data "metadata") "external_anchor.metadata"
    return {
      anchorId := anchorId, anchorType := anchorType, artifactDigest := artifactDigest, anchoredAt := anchoredAt,
      logUri := logUri, sequence := sequence, entryHash := entryHash, previousEntryHash := previousEntryHash,
      artifactType := (Dict.get data "artifact_type").textValue?,
      artifactId := (Dict.get data "artifact_id").textValue?, metadata := metadata }

/-- a text or `None` -/
def textJson : Option String → Json
  | none => .null
  | some s => .str s

def ExternalAnchor.toDict (a : ExternalAnchor) : Dict :=
  members [("contract", .obj externalAnchorContract), ("anchor_id", .str a.anchorId),
      ("anchor_type", .str a.anchorType), ("artifact_digest", .obj a.artifactDigest),
      ("anchored_at", .str (formatTimestamp a.anchoredAt)), ("log_uri", .str a.logUri),
      ("sequence", .int a.sequence), ("entry_hash", .obj a.entryHash)]
    ++ optMember "previous_entry_hash" (previousJson a.previousEntryHash)
    ++ optMember "artifact_type" (textJson a.artifactType) ++ optMember "artifact_id" (textJson a.artifactId)
    ++ dictMember "metadata" a.metadata

/-- `d == e` -/
def Dict.pyEq (d e : Dict) : Bool := (Json.obj d).pyEq (.obj e)

/-- `x == y` of two dictionaries or `None` -/
def optionalEq : Option Dict → Option Dict → Bool
  | none, none => true
  | some d, some e => Dict.pyEq d e
  | _, _ => false

/-- `a == b` -/
def ExternalAnchor.pyEq (a b : ExternalAnchor) : Bool :=
  a.anchorId = b.anchorId && a.anchorType = b.anchorType && Dict.pyEq a.artifactDigest b.artifactDigest
    && a.anchoredAt = b.anchoredAt && a.logUri = b.logUri && a.sequence = b.sequence
    && Dict.pyEq a.entryHash b.entryHash && optionalEq a.previousEntryHash b.previousEntryHash
    && a.artifactType = b.artifactType && a.artifactId = b.artifactId && Dict.pyEq a.metadata b.metadata

structure AnchorVerificationResult where
  anchor : ExternalAnchor
  anchoredAt : Datetime
  status : String := "verified"

/-! ## digests are read as they are written -/

/-- a digest with the texts it must have -/
def digestOf (algorithm value : String) : Option String → Dict
  | none => members [("algorithm", .str algorithm), ("value", .str value)]
  | some canonicalization => members [("algorithm", .str algorithm), ("value", .str value),
      ("canonicalization", .str canonicalization)]

theorem expectString_ok {raw : Json} {fieldName s : String} :
    expectString raw fieldName = .ok s ↔ raw = .str s ∧ s ≠ "" := by
  unfold expectString
  split
  · rename_i s'
    by_cases he : s' = ""
    · rw [if_pos he]
      refine ⟨fun h => (nomatch h), fun ⟨h, hne⟩ => ?_⟩
      cases h
      exact absurd he hne
    · rw [if_neg he]
      refine ⟨fun h => ?_, fun ⟨h, _⟩ => ?_⟩
      · cases h
        exact ⟨rfl, he⟩
      · cases h
        rfl
  · rename_i hne
    exact ⟨fun h => (nomatch h), fun ⟨h, _⟩ => absurd h (hne s)⟩

/-- the texts of a digest -/
structure HasDigest (data : Dict) (a v : String) (c : Option String) : Prop where
  algorithm : Dict.get data "algorithm" = .str a
  value : Dict.get data "value" = .str v
  canonicalization : Dict.get data "canonicalization" = textJson c
  algorithm_ne : a ≠ ""
  value_ne : v ≠ ""
  canonicalization_ne : c ≠ some ""

theorem parseHashSpec_ok {data d : Dict} {fieldName : String} :
    Anchors.parseHashSpec (.obj data) fieldName = .ok d ↔ ∃ a v c, HasDigest data a v c ∧ d = digestOf a v c := by
  unfold Anchors.parseHashSpec
  rw [show expectMapping (.obj data) fieldName = .ok data from rfl, Fallible.ok_bind]
  simp only [Fallible.bind_eq_ok, expectString_ok]
  constructor
  · rintro ⟨a, ⟨ha, hane⟩, v, ⟨hv, hvne⟩, h⟩
    cases hc : Dict.get data "canonicalization" with
    | null =>
      rw [hc] at h
      cases h
      exact ⟨a, v, none, ⟨ha, hv, hc, hane, hvne, (Option.some_ne_none _).symm⟩, rfl⟩
    | str c =>
      rw [hc] at h
      obtain ⟨c', hc', h⟩ := Fallible.bind_eq_ok.mp h
      obtain ⟨he, hcne⟩ := expectString_ok.mp hc'
      cases he
      cases h
      exact ⟨a, v, some c, ⟨ha, hv, hc, hane, hvne, fun he => hcne (Option.some.inj he)⟩, rfl⟩
    | bool b | int n | float f | arr xs | tup xs | obj kvs =>
      rw [hc] at h
      cases h
  · rintro ⟨a, v, c, hd, rfl⟩
    refine ⟨a, ⟨hd.algorithm, hd.algorithm_ne⟩, v, ⟨hd.value, hd.value_ne⟩, ?_⟩
    rw [hd.canonicalization]
    cases c with
    | none => rfl
    | some c =>
      have hc : expectString (.str c) s!"{fieldName}.canonicalization" = .ok c :=
        expectString_ok.mpr ⟨rfl, fun he => hd.canonicalization_ne (congrArg some he)⟩
      show (expectString (.str c) _ >>= fun c => _) = _
      rw [hc]
      rfl

/-- what a digest has can be read off its normal form -/
theorem HasDigest.digestOf {data : Dict} {a v : String} {c : Option String} (h : HasDigest data a v c) :
    HasDigest (digestOf a v c) a v c := by
  refine ⟨?_, ?_, ?_, h.algorithm_ne, h.value_ne, h.canonicalization_ne⟩
  · cases c <;> simp [Actenon.digestOf, Dict.get, find_members_cons]
  · cases c <;> simp [Actenon.digestOf, Dict.get, find_members_cons]
  · cases c <;> simp [Actenon.digestOf, Dict.get, find_members_cons, find_members_nil, textJson]

/-- the members may stand in any order -/
theorem HasDigest.perm {data data' : Dict} {a v : String} {c : Option String} (h : HasDigest data a v c)
    (hp : data'.Perm data) (hu : data'.UniqueKeys) : HasDigest data' a v c := by
  have hget : ∀ name, Dict.get data' name = Dict.get data name := by
    intro name
    unfold Dict.get
    rw [Dict.find_perm hp hu]
  exact ⟨(hget _).trans h.algorithm, (hget _).trans h.value, (hget _).trans h.canonicalization, h.algorithm_ne,
    h.value_ne, h.canonicalization_ne⟩

theorem digestOf_texts (a v : String) (c : Option String) : (digestOf a v c).Texts := by
  cases c <;> simp [digestOf, members, Dict.Texts]

theorem digestOf_unique (a v : String) (c : Option String) : (digestOf a v c).UniqueKeys := by
  cases c <;> simp [digestOf, members, Dict.UniqueKeys]

theorem hashDict_digest (profile value : String) :
    (hashDict profile value).Perm (digestOf "sha-256" value (some profile)) := (List.Perm.swap _ _ _).cons _

theorem hashDict_unique (profile value : String) : (hashDict profile value).UniqueKeys := by
  simp [hashDict, members, Dict.UniqueKeys]

/-! ## equal dictionaries -/

/-- orders of one dictionary of texts are equal -/
theorem pyEq_texts {d e l : Dict} (ht : l.Texts) (hu : l.UniqueKeys) (hd : d.Perm l) (he : e.Perm l) :
    Dict.pyEq d e = true := by
  unfold Dict.pyEq
  rw [pyEq_obj, hd.length_eq, he.length_eq, decide_eq_true rfl, Bool.true_and, List.all_eq_true]
  intro p hp
  have hue : e.UniqueKeys := (he.map Prod.fst).nodup_iff.mpr hu
  obtain ⟨s, hs⟩ := ht p (hd.subset hp)
  unfold equalUnder
  rw [find_of_mem hue (he.symm.subset (hd.subset hp)), hs]
  exact pyEq_str.mpr rfl

/-! ## anchors that travel -/

/-- a digest in its normal form -/
def IsDigest (d : Dict) : Prop := ∃ a v c, HasDigest d a v c ∧ d = digestOf a v c

theorem IsDigest.pyEq_self {d : Dict} (h : IsDigest d) : Dict.pyEq d d = true := by
  obtain ⟨a, v, c, -, rfl⟩ := h
  exact pyEq_texts (digestOf_texts a v c) (digestOf_unique a v c) (List.Perm.refl _) (List.Perm.refl _)

theorem parseHashSpec_digest {d : Dict} (h : IsDigest d) (fieldName : String) :
    Anchors.parseHashSpec (.obj d) fieldName = .ok d := parseHashSpec_ok.mpr h

/-- orders of one hash of an entry -/
def SameHash (profile : String) (d e : Dict) : Prop :=
  ∃ value, value ≠ "" ∧ d.Perm (hashDict profile value) ∧ e.Perm (hashDict profile value)

section
variable {profile : String} {d e f : Dict}

theorem SameHash.pyEq (h : SameHash profile d e) : Dict.pyEq d e = true := by
  obtain ⟨value, -, hd, he⟩ := h
  exact pyEq_texts (hashDict_texts profile value) (hashDict_unique profile value) hd he

theorem SameHash.symm (h : SameHash profile d e) : SameHash profile e d := by
  obtain ⟨value, hne, hd, he⟩ := h
  exact ⟨value, hne, he, hd⟩

theorem SameHash.trans (h : SameHash profile d e) (h' : SameHash profile e f) : SameHash profile d f := by
  obtain ⟨value, hne, hd, he⟩ := h
  obtain ⟨value', -, he', hf⟩ := h'
  obtain rfl := hashDict_injective (he.symm.trans he')
  exact ⟨value, hne, hd, hf⟩

/-- a hash is parsed as an order of it -/
theorem parseHashSpec_hash (hprofile : profile ≠ "") (h : SameHash profile d d) (fieldName : String) :
    ∃ e, Anchors.parseHashSpec (.obj d) fieldName = .ok e ∧ SameHash profile e d := by
  obtain ⟨value, hne, hp, -⟩ := h
  have hdigest : HasDigest (hashDict profile value) "sha-256" value (some profile) :=
    ⟨rfl, rfl, rfl, by decide, hne, fun he => hprofile (Option.some.inj he)⟩
  have hu : d.UniqueKeys := (hp.map Prod.fst).nodup_iff.mpr (hashDict_unique profile value)
  exact ⟨_, parseHashSpec_ok.mpr ⟨_, _, _, hdigest.perm hp hu, rfl⟩, value, hne, (hashDict_digest profile value).symm, hp⟩

end

/-- anchors that are equal up to their metadata -/
structure ExternalAnchor.Alike (profile : String) (a b : ExternalAnchor) : Prop where
  anchorId : a.anchorId = b.anchorId
  anchorType : a.anchorType = b.anchorType
  artifactDigest : IsDigest a.artifactDigest ∧ a.artifactDigest = b.artifactDigest
  anchoredAt : a.anchoredAt = b.anchoredAt
  logUri : a.logUri = b.logUri
  sequence : a.sequence = b.sequence
  entryHash : SameHash profile a.entryHash b.entryHash
  previousEntryHash : Option.Rel (SameHash profile) a.previousEntryHash b.previousEntryHash
  artifactType : a.artifactType = b.artifactType
  artifactId : a.artifactId = b.artifactId

section
variable {profile : String} {a b c : ExternalAnchor}

theorem optionalEq_of_rel {o p : Option Dict} (h : Option.Rel (SameHash profile) o p) : optionalEq o p = true := by
  cases h with
  | none => rfl
  | some h => exact h.pyEq

/-- anchors that are alike are equal when their metadata are -/
theorem ExternalAnchor.Alike.pyEq_iff (h : a.Alike profile b) : a.pyEq b = Dict.pyEq a.metadata b.metadata := by
  unfold ExternalAnchor.pyEq
  rw [h.anchorId, h.anchorType, ← h.artifactDigest.2, h.artifactDigest.1.pyEq_self, h.anchoredAt, h.logUri, h.sequence,
    h.entryHash.pyEq, optionalEq_of_rel h.previousEntryHash, h.artifactType, h.artifactId]
  simp

theorem rel_trans {o p q : Option Dict} (h : Option.Rel (SameHash profile) o p)
    (h' : Option.Rel (SameHash profile) p q) : Option.Rel (SameHash profile) o q := by
  cases h with
  | none => exact h'
  | some h =>
    cases h' with
    | some h' => exact Option.Rel.some (h.trans h')

theorem ExternalAnchor.Alike.trans (h : a.Alike profile b) (h' : b.Alike profile c) : a.Alike profile c where
  anchorId := h.anchorId.trans h'.anchorId
  anchorType := h.anchorType.trans h'.anchorType
  artifactDigest := ⟨h.artifactDigest.1, h.artifactDigest.2.trans h'.artifactDigest.2⟩
  anchoredAt := h.anchoredAt.trans h'.anchoredAt
  logUri := h.logUri.trans h'.logUri
  sequence := h.sequence.trans h'.sequence
  entryHash := h.entryHash.trans h'.entryHash
  previousEntryHash := rel_trans h.previousEntryHash h'.previousEntryHash
  artifactType := h.artifactType.trans h'.artifactType
  artifactId := h.artifactId.trans h'.artifactId

/-- an anchor whose texts are there and whose hashes are hashes of entries -/
structure ExternalAnchor.Sendable (profile : String) (a : ExternalAnchor) : Prop where
  profile_ne : profile ≠ ""
  anchorId : a.anchorId ≠ ""
  anchorType : a.anchorType ≠ ""
  logUri : a.logUri ≠ ""
  sequence : 0 < a.sequence
  artifactDigest : IsDigest a.artifactDigest
  entryHash : SameHash profile a.entryHash a.entryHash
  previousEntryHash : ∀ d ∈ a.previousEntryHash, SameHash profile d d

/-- **An anchor that travelled is alike to the one that was sent**, with its metadata. -/
theorem fromDict_toDict (h : a.Sendable profile) :
    ∃ b, ExternalAnchor.fromDict (.obj a.toDict) = .ok b ∧ a.Alike profile b ∧ b.metadata = a.metadata := by
  have hprevious : ∃ e, parseUnlessNone (Anchors.parseHashSpec · "external_anchor.previous_entry_hash")
      (previousJson a.previousEntryHash) = .ok e ∧ Option.Rel (SameHash profile) a.previousEntryHash e := by
    cases hp : a.previousEntryHash with
    | none => exact ⟨none, rfl, Option.Rel.none⟩
    | some d =>
      obtain ⟨e, he, hsame⟩ := parseHashSpec_hash h.profile_ne (h.previousEntryHash d hp)
        "external_anchor.previous_entry_hash"
      refine ⟨some e, ?_, Option.Rel.some hsame.symm⟩
      show (Anchors.parseHashSpec (.obj d) _).map some = _
      rw [he]
      rfl
  obtain ⟨e, he, hsame⟩ := parseHashSpec_hash h.profile_ne h.entryHash "external_anchor.entry_hash"
  obtain ⟨p, hp, hrel⟩ := hprevious
  have hmetadata : mappingIfAny (dictValue a.metadata) "external_anchor.metadata" = .ok a.metadata := by
    cases a.metadata <;> rfl
  have hsequence : parsePositiveSequence (.int a.sequence) = .ok a.sequence := if_neg (by have := h.sequence; omega)
  have htext : ∀ o : Option String, (textJson o).textValue? = o := fun o => by cases o <;> rfl
  have hfind : ∀ name, Dict.find a.toDict (.str name) = _ := fun name => by
    unfold ExternalAnchor.toDict
    rw [Dict.find_append, Dict.find_append, Dict.find_append, Dict.find_append, find_optMember, find_optMember,
      find_optMember, find_dictMember]
  have hget : Dict.get a.toDict "contract" = .obj externalAnchorContract ∧
      Dict.get a.toDict "anchor_id" = .str a.anchorId ∧ Dict.get a.toDict "anchor_type" = .str a.anchorType ∧
      Dict.get a.toDict "artifact_digest" = .obj a.artifactDigest ∧
      Dict.get a.toDict "anchored_at" = .str (formatTimestamp a.anchoredAt) ∧
      Dict.get a.toDict "log_uri" = .str a.logUri ∧ Dict.get a.toDict "sequence" = .int a.sequence ∧
      Dict.get a.toDict "entry_hash" = .obj a.entryHash := by
    simp [Dict.get, hfind, find_members_cons]
  have hrest : Dict.get a.toDict "previous_entry_hash" = previousJson a.previousEntryHash ∧
      Dict.get a.toDict "artifact_type" = textJson a.artifactType ∧
      Dict.get a.toDict "artifact_id" = textJson a.artifactId ∧
      Dict.get a.toDict "metadata" = dictValue a.metadata := by
    simp [Dict.get, hfind, find_members_cons, find_members_nil]
  obtain ⟨hcontract, hanchorId, hanchorType, hdigest, hanchoredAt, hlogUri, hseq, hhash⟩ := hget
  obtain ⟨hprev, htype, hid, hmeta⟩ := hrest
  unfold ExternalAnchor.fromDict
  rw [expectMapping_obj, Fallible.ok_bind, hcontract, expectMapping_obj, Fallible.ok_bind, hanchorId, hanchorType,
    hdigest, hanchoredAt, hlogUri, hseq, hhash, hprev, htype, hid, hmeta]
  refine ⟨{ a with entryHash := e, previousEntryHash := p }, ?_, ?_⟩
  · rw [if_neg (by decide), expectString_str h.anchorId, Fallible.ok_bind, expectString_str h.anchorType,
      Fallible.ok_bind, normalizeArtifactDigest, parseHashSpec_digest h.artifactDigest, Fallible.ok_bind,
      parseTimestamp_formatTimestamp, Fallible.ok_bind, expectString_str h.logUri, Fallible.ok_bind, hsequence,
      Fallible.ok_bind, he, Fallible.ok_bind, hp, Fallible.ok_bind, hmetadata, Fallible.ok_bind, htext, htext]
    rfl
  · exact ⟨⟨rfl, rfl, ⟨h.artifactDigest, rfl⟩, rfl, rfl, rfl, hsame.symm, hrel, rfl, rfl⟩, rfl⟩

end

end Actenon
