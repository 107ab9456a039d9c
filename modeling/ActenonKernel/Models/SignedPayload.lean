import ActenonKernel.Models.Contracts
import ActenonKernel.Proof.CanonicalInj
import ActenonKernel.Core.Same

/-!
# What a signature covers

Two proofs with the same signed bytes are the same in every field but the signature: each
`to_dict` keeps its members apart, and a member that is left out stands for one value only.

* `PCCB.Same`                 the same proof up to the signature;
* `TenantRef.same_of_toDict` ... `ScopeSpec.same_of_toDict`    one for each reference type;
* `PCCB.same_of_canonicalizeBytes`    the signed bytes determine the proof.
-/

set_option linter.unusedSectionVars false

namespace Actenon

/-! ## the same references -/

def TenantRef.Same (a b : TenantRef) : Prop :=
  a.tenantId = b.tenantId ∧ Dict.Same a.attributes b.attributes

def PartyRef.Same (a b : PartyRef) : Prop :=
  a.type = b.type ∧ a.id = b.id ∧ Json.Same a.displayName b.displayName ∧
    Dict.Same a.attributes b.attributes

def AudienceRef.Same (a b : AudienceRef) : Prop :=
  a.type = b.type ∧ a.id = b.id ∧ Json.Same a.uri b.uri

def ActionSpec.Same (a b : ActionSpec) : Prop :=
  a.name = b.name ∧ a.capability = b.capability ∧ Dict.Same a.parameters b.parameters ∧
    Dict.Same a.constraints b.constraints ∧ Dict.Same a.scope b.scope

def TargetRef.Same (a b : TargetRef) : Prop :=
  a.resourceType = b.resourceType ∧ a.resourceId = b.resourceId ∧ Json.Same a.uri b.uri ∧
    Dict.Same a.selectors b.selectors

def ScopeSpec.Same (a b : ScopeSpec) : Prop :=
  a.mode = b.mode ∧ a.capabilities = b.capabilities ∧ a.singleUse = b.singleUse ∧
    List.Forall₂ Dict.Same a.resourceSelectors b.resourceSelectors ∧
    Dict.Same a.parameterConstraints b.parameterConstraints

/-- the same proof in every field but the signature -/
structure PCCB.Same (p q : PCCB) : Prop where
  pccbId : p.pccbId = q.pccbId
  issuedAt : p.issuedAt = q.issuedAt
  notBefore : p.notBefore = q.notBefore
  expiresAt : p.expiresAt = q.expiresAt
  issuer : p.issuer.Same q.issuer
  subject : p.subject.Same q.subject
  tenant : p.tenant.Same q.tenant
  audience : p.audience.Same q.audience
  action : p.action.Same q.action
  target : p.target.Same q.target
  scope : p.scope.Same q.scope
  nonce : p.nonce = q.nonce
  actionHash : p.actionHash = q.actionHash
  intentId : Json.Same p.intentId q.intentId
  escrowId : Json.Same p.escrowId q.escrowId
  extensions : Dict.Same p.extensions q.extensions

/-! ## lookups in a `to_dict` -/

/-- the member of a value, if it is not `None` -/
def Json.present? : Json → Option Json
  | .null => none
  | v => some v

/-- the value that is looked up for a dictionary that may be left out -/
def dictValue (d : Dict) : Json := if d.isEmpty then .null else .obj d

@[simp] theorem Json.present?_getD (v : Json) : v.present?.getD .null = v := by cases v <;> rfl

theorem find_optMember (n : String) (v : Json) (k : String) :
    Dict.find (optMember n v) (.str k) = if n = k then v.present? else none := by
  cases v <;> simp [optMember, Json.present?, Dict.find_cons, Dict.find_nil]

theorem find_dictMember (n : String) (d : Dict) (k : String) :
    Dict.find (dictMember n d) (.str k) = if n = k then (dictValue d).present? else none := by
  unfold dictMember dictValue
  split
  · simp [Dict.find_nil, Json.present?]
  · simp [Dict.find_cons, Dict.find_nil, Json.present?]

/-- the value that is looked up for a list that may be left out -/
def listValue (xs : List Json) : Json := if xs.isEmpty then .null else .arr xs

theorem find_listMember (n : String) (xs : List Json) (k : String) :
    Dict.find (listMember n xs) (.str k) = if n = k then (listValue xs).present? else none := by
  unfold listMember listValue
  split
  · simp [Dict.find_nil, Json.present?]
  · simp [Dict.find_cons, Dict.find_nil, Json.present?]

theorem same_arr {xs ys : List Json} (h : Json.Same (.arr xs) (.arr ys)) :
    List.Forall₂ Json.Same xs ys := by
  rw [Json.Same] at h
  obtain ⟨zs, hz, hs⟩ := h
  cases hz
  exact (Json.sameList_iff xs ys).mp hs

theorem same_of_listValue {xs ys : List Json} (h : Json.Same (listValue xs) (listValue ys)) :
    List.Forall₂ Json.Same xs ys := by
  unfold listValue at h
  split at h
  · split at h
    · rw [List.isEmpty_iff.mp ‹xs.isEmpty = true›, List.isEmpty_iff.mp ‹ys.isEmpty = true›]
      exact List.Forall₂.nil
    · rw [Json.Same] at h
      cases h
  · split at h
    · rw [Json.Same] at h
      obtain ⟨zs, hz, -⟩ := h
      cases hz
    · exact same_arr h

theorem same_of_dictValue {d d' : Dict} (h : Json.Same (dictValue d) (dictValue d')) :
    Dict.Same d d' := by
  unfold dictValue at h
  split at h
  · split at h
    · rw [List.isEmpty_iff.mp ‹d.isEmpty = true›, List.isEmpty_iff.mp ‹d'.isEmpty = true›]
      exact Dict.same_nil
    · exact (Json.not_same_null_obj h).elim
  · split at h
    · exact (Json.not_same_obj_null h).elim
    · exact h

/-! ## no member occurs twice -/

theorem keys_members (kvs : List (String × Json)) :
    (members kvs).map Prod.fst = kvs.map fun p => .str p.1 := by
  unfold members
  rw [List.map_map]
  rfl

theorem keys_optMember (n : String) (v : Json) :
    ((optMember n v).map Prod.fst).Sublist [.str n] := by
  cases v <;> simp [optMember]

theorem keys_dictMember (n : String) (d : Dict) :
    ((dictMember n d).map Prod.fst).Sublist [.str n] := by
  unfold dictMember
  split <;> simp

theorem keys_listMember (n : String) (xs : List Json) :
    ((listMember n xs).map Prod.fst).Sublist [.str n] := by
  unfold listMember
  split <;> simp

/-- keys below a list of distinct names -/
theorem uniqueKeys_of_sublist {d : Dict} (names : List String)
    (h : (d.map Prod.fst).Sublist (names.map Key.str)) (hn : names.Nodup) : d.UniqueKeys :=
  h.nodup (hn.map fun _ _ e => Key.str.inj e)

theorem TenantRef.uniqueKeys (t : TenantRef) : t.toDict.UniqueKeys := by
  refine uniqueKeys_of_sublist ["tenant_id", "attributes"] ?_ (by decide)
  unfold TenantRef.toDict
  rw [List.map_append, keys_members]
  exact (List.Sublist.refl _).append (keys_dictMember _ _)

theorem PartyRef.uniqueKeys (t : PartyRef) : t.toDict.UniqueKeys := by
  refine uniqueKeys_of_sublist ["type", "id", "display_name", "attributes"] ?_ (by decide)
  unfold PartyRef.toDict
  rw [List.map_append, List.map_append, keys_members]
  exact ((List.Sublist.refl _).append (keys_optMember _ _)).append (keys_dictMember _ _)

theorem AudienceRef.uniqueKeys (t : AudienceRef) : t.toDict.UniqueKeys := by
  refine uniqueKeys_of_sublist ["type", "id", "uri"] ?_ (by decide)
  unfold AudienceRef.toDict
  rw [List.map_append, keys_members]
  exact (List.Sublist.refl _).append (keys_optMember _ _)

theorem ActionSpec.uniqueKeys (t : ActionSpec) : t.toDict.UniqueKeys := by
  refine uniqueKeys_of_sublist ["name", "capability", "parameters", "constraints", "scope"] ?_
    (by decide)
  unfold ActionSpec.toDict
  rw [List.map_append, List.map_append, keys_members]
  exact ((List.Sublist.refl _).append (keys_dictMember _ _)).append (keys_dictMember _ _)

theorem TargetRef.uniqueKeys (t : TargetRef) : t.toDict.UniqueKeys := by
  refine uniqueKeys_of_sublist ["resource_type", "resource_id", "uri", "selectors"] ?_ (by decide)
  unfold TargetRef.toDict
  rw [List.map_append, List.map_append, keys_members]
  exact ((List.Sublist.refl _).append (keys_optMember _ _)).append (keys_dictMember _ _)

theorem ScopeSpec.uniqueKeys (t : ScopeSpec) : t.toDict.UniqueKeys := by
  refine uniqueKeys_of_sublist
    ["mode", "capabilities", "single_use", "resource_selectors", "parameter_constraints"] ?_ (by decide)
  unfold ScopeSpec.toDict
  rw [List.map_append, List.map_append, keys_members]
  exact ((List.Sublist.refl _).append (keys_listMember _ _)).append (keys_dictMember _ _)

theorem PCCB.uniqueKeys (p : PCCB) : p.unsignedPayload.UniqueKeys := by
  refine uniqueKeys_of_sublist ["contract", "pccb_id", "issued_at", "not_before", "expires_at",
    "issuer", "subject", "tenant", "audience", "action", "target", "scope", "nonce", "action_hash",
    "intent_id", "escrow_reference", "extensions"] ?_ (by decide)
  unfold PCCB.unsignedPayload
  rw [List.map_append, List.map_append, List.map_append, keys_members]
  exact (((List.Sublist.refl _).append (keys_optMember _ _)).append (keys_optMember _ _)).append
    (keys_dictMember _ _)

/-! ## a `to_dict` determines its value -/

theorem TenantRef.same_of_toDict {a b : TenantRef} (h : Dict.Same a.toDict b.toDict) : a.Same b := by
  have g := h.get b.uniqueKeys
  have h1 := g "tenant_id"
  have h2 := g "attributes"
  simp [Dict.get, TenantRef.toDict, Dict.find_append, find_members_cons, find_members_nil,
    find_dictMember] at h1 h2
  exact ⟨Json.same_str h1, same_of_dictValue h2⟩

theorem PartyRef.same_of_toDict {a b : PartyRef} (h : Dict.Same a.toDict b.toDict) : a.Same b := by
  have g := h.get b.uniqueKeys
  have h1 := g "type"
  have h2 := g "id"
  have h3 := g "display_name"
  have h4 := g "attributes"
  simp [Dict.get, PartyRef.toDict, Dict.find_append, find_members_cons, find_members_nil,
    find_optMember, find_dictMember] at h1 h2 h3 h4
  exact ⟨Json.same_str h1, Json.same_str h2, h3, same_of_dictValue h4⟩

theorem AudienceRef.same_of_toDict {a b : AudienceRef} (h : Dict.Same a.toDict b.toDict) :
    a.Same b := by
  have g := h.get b.uniqueKeys
  have h1 := g "type"
  have h2 := g "id"
  have h3 := g "uri"
  simp [Dict.get, AudienceRef.toDict, Dict.find_append, find_members_cons, find_members_nil,
    find_optMember] at h1 h2 h3
  exact ⟨Json.same_str h1, Json.same_str h2, h3⟩

theorem ActionSpec.same_of_toDict {a b : ActionSpec} (h : Dict.Same a.toDict b.toDict) :
    a.Same b := by
  have g := h.get b.uniqueKeys
  have h1 := g "name"
  have h2 := g "capability"
  have h3 := g "parameters"
  have h4 := g "constraints"
  have h5 := g "scope"
  simp [Dict.get, ActionSpec.toDict, Dict.find_append, find_members_cons, find_members_nil,
    find_dictMember] at h1 h2 h3 h4 h5
  exact ⟨Json.same_str h1, Json.same_str h2, h3, same_of_dictValue h4, same_of_dictValue h5⟩

theorem TargetRef.same_of_toDict {a b : TargetRef} (h : Dict.Same a.toDict b.toDict) : a.Same b := by
  have g := h.get b.uniqueKeys
  have h1 := g "resource_type"
  have h2 := g "resource_id"
  have h3 := g "uri"
  have h4 := g "selectors"
  simp [Dict.get, TargetRef.toDict, Dict.find_append, find_members_cons, find_members_nil,
    find_optMember, find_dictMember] at h1 h2 h3 h4
  exact ⟨Json.same_str h1, Json.same_str h2, h3, same_of_dictValue h4⟩

theorem DigestSpec.eq_of_toDict {a b : DigestSpec} (h : Dict.Same a.toDict b.toDict) : a = b := by
  have hu : b.toDict.UniqueKeys := by
    unfold Dict.UniqueKeys DigestSpec.toDict
    rw [keys_members]
    simp
  have g := h.get hu
  have h1 := g "algorithm"
  have h2 := g "canonicalization"
  have h3 := g "value"
  simp [Dict.get, DigestSpec.toDict, find_members_cons] at h1 h2 h3
  cases a
  cases b
  cases Json.same_str h1
  cases Json.same_str h2
  cases Json.same_str h3
  rfl

theorem ScopeSpec.same_of_toDict {a b : ScopeSpec} (h : Dict.Same a.toDict b.toDict) : a.Same b := by
  have g := h.get b.uniqueKeys
  have h1 := g "mode"
  have h2 := g "capabilities"
  have h3 := g "single_use"
  have h4 := g "resource_selectors"
  have h5 := g "parameter_constraints"
  simp [Dict.get, ScopeSpec.toDict, Dict.find_append, find_members_cons, find_members_nil,
    find_listMember, find_dictMember] at h1 h2 h3 h4 h5
  refine ⟨Json.same_str h1, ?_, Json.same_bool h3, ?_, same_of_dictValue h5⟩
  · have h6 := same_arr h2
    rw [List.forall₂_map_left_iff, List.forall₂_map_right_iff] at h6
    exact List.forall₂_eq_eq_eq ▸ h6.imp fun _ _ => Json.same_str
  · have h6 := same_of_listValue h4
    rw [List.forall₂_map_left_iff, List.forall₂_map_right_iff] at h6
    exact h6

/-- the escrow of a proof is read off its reference -/
theorem PCCB.same_of_escrowReference {p q : PCCB}
    (h : Json.Same p.escrowReference q.escrowReference) : Json.Same p.escrowId q.escrowId := by
  have hget : ∀ (e : Json) (b : Bool),
      Dict.get (members [("escrow_id", e), ("single_use", .bool b)]) "escrow_id" = e := fun e b => by
    simp [Dict.get, find_members_cons]
  have hu : ∀ (e : Json) (b : Bool),
      Dict.UniqueKeys (members [("escrow_id", e), ("single_use", .bool b)]) := fun e b => by
    simp [Dict.UniqueKeys, keys_members]
  unfold PCCB.escrowReference at h
  split at h
  · rename_i hp
    split at h
    · rename_i hq
      rw [hp, hq]
      rfl
    · exact (Json.not_same_null_obj h).elim
  · split at h
    · exact (Json.not_same_obj_null h).elim
    · have g := Dict.Same.get h (hu _ _) "escrow_id"
      rw [hget, hget] at g
      exact g

theorem PCCB.same_of_unsignedPayload {p q : PCCB}
    (h : Dict.Same p.unsignedPayload q.unsignedPayload) : p.Same q := by
  have g := h.get q.uniqueKeys
  have h1 := g "pccb_id"
  have h2 := g "issued_at"
  have h3 := g "not_before"
  have h4 := g "expires_at"
  have h5 := g "issuer"
  have h6 := g "subject"
  have h7 := g "tenant"
  have h8 := g "audience"
  have h9 := g "action"
  have h10 := g "target"
  have h11 := g "scope"
  have h12 := g "nonce"
  have h13 := g "action_hash"
  have h14 := g "intent_id"
  have h15 := g "escrow_reference"
  have h16 := g "extensions"
  simp only [Dict.get, PCCB.unsignedPayload, Dict.find_append, find_members_cons, find_members_nil,
    find_optMember, find_dictMember, String.reduceEq, if_true, if_false, Option.or_none,
    Option.none_or, Option.getD_some, Json.present?_getD] at h1 h2 h3 h4 h5 h6 h7 h8 h9 h10 h11 h12 h13 h14 h15 h16
  exact
    { pccbId := Json.same_str h1
      issuedAt := formatTimestamp_injective (Json.same_str h2)
      notBefore := formatTimestamp_injective (Json.same_str h3)
      expiresAt := formatTimestamp_injective (Json.same_str h4)
      issuer := PartyRef.same_of_toDict h5
      subject := PartyRef.same_of_toDict h6
      tenant := TenantRef.same_of_toDict h7
      audience := AudienceRef.same_of_toDict h8
      action := ActionSpec.same_of_toDict h9
      target := TargetRef.same_of_toDict h10
      scope := ScopeSpec.same_of_toDict h11
      nonce := Json.same_str h12
      actionHash := DigestSpec.eq_of_toDict h13
      intentId := h14
      escrowId := PCCB.same_of_escrowReference h15
      extensions := same_of_dictValue h16 }

/-- **The signed bytes determine the proof**: two proofs whose unsigned payloads have the same
canonical bytes are the same in every field but the signature. -/
theorem PCCB.same_of_canonicalizeBytes (P : Platform) (p q : PCCB) (bytes : List UInt8)
    (hp : canonicalizeBytes P (.obj p.unsignedPayload) = .ok bytes)
    (hq : canonicalizeBytes P (.obj q.unsignedPayload) = .ok bytes) : p.Same q :=
  PCCB.same_of_unsignedPayload (canonicalizeBytes_inj hp hq)

/-- the sample proof under another signature -/
def sampleResigned : PCCB := { samplePccb with signature := ⟨"EdDSA", "k2", "base64url", "b3RoZXI"⟩ }

theorem sampleResigned_same :
    ∃ bytes, canonicalizeBytes (samplePlatform id) (.obj samplePccb.unsignedPayload) = .ok bytes ∧
      samplePccb.Same sampleResigned := by
  obtain ⟨bytes, hb⟩ := Fallible.exists_ok
    (show (canonicalizeBytes (samplePlatform id) (.obj samplePccb.unsignedPayload)).toBool = true by
      decide +kernel)
  exact ⟨bytes, hb, PCCB.same_of_canonicalizeBytes (samplePlatform id) samplePccb sampleResigned bytes
    hb hb⟩

end Actenon
