import ActenonKernel.Models.SignedPayload

/-!
# A proof through `to_dict` and `from_dict` (`actenon/models/contracts.py`)

`to_dict` leaves out members that are `None` or empty and writes instants as texts; `from_dict`
puts the defaults back and reads the instants.  For a proof whose required texts are not empty the
two are inverse to each other, to the last field.

* `PCCB.toDict`             `PCCB.to_dict`;
* `PCCB.Readable`           no required text is empty;
* `PCCB.fromDict_toDict`    the proof comes back as it was.
-/

set_option linter.unusedSectionVars false

namespace Actenon

def PCCB.toDict (p : PCCB) : Dict :=
  p.unsignedPayload ++ members [("signature", .obj p.signature.toDict)]

/-! ## required texts -/

def TenantRef.Readable (t : TenantRef) : Prop := t.tenantId ≠ ""

def PartyRef.Readable (p : PartyRef) : Prop := p.type ≠ "" ∧ p.id ≠ ""

def AudienceRef.Readable (a : AudienceRef) : Prop := a.type ≠ "" ∧ a.id ≠ ""

def ActionSpec.Readable (a : ActionSpec) : Prop := a.name ≠ "" ∧ a.capability ≠ ""

def TargetRef.Readable (t : TargetRef) : Prop := t.resourceType ≠ "" ∧ t.resourceId ≠ ""

def ScopeSpec.Readable (s : ScopeSpec) : Prop :=
  s.mode ≠ "" ∧ s.capabilities ≠ [] ∧ ∀ c ∈ s.capabilities, c ≠ ""

def DigestSpec.Readable (d : DigestSpec) : Prop :=
  d.algorithm ≠ "" ∧ d.canonicalization ≠ "" ∧ d.value ≠ ""

def SignatureSpec.Readable (s : SignatureSpec) : Prop :=
  s.algorithm ≠ "" ∧ s.keyId ≠ "" ∧ s.encoding ≠ "" ∧ s.value ≠ ""

instance (t : TenantRef) : Decidable t.Readable := inferInstanceAs (Decidable (_ ≠ _))
instance (p : PartyRef) : Decidable p.Readable := inferInstanceAs (Decidable (_ ∧ _))
instance (a : AudienceRef) : Decidable a.Readable := inferInstanceAs (Decidable (_ ∧ _))
instance (a : ActionSpec) : Decidable a.Readable := inferInstanceAs (Decidable (_ ∧ _))
instance (t : TargetRef) : Decidable t.Readable := inferInstanceAs (Decidable (_ ∧ _))

/-- no text that `PCCB.from_dict` requires is empty -/
structure PCCB.Readable (p : PCCB) : Prop where
  pccbId : p.pccbId ≠ ""
  issuer : p.issuer.Readable
  subject : p.subject.Readable
  tenant : p.tenant.Readable
  audience : p.audience.Readable
  action : p.action.Readable
  target : p.target.Readable
  scope : p.scope.Readable
  nonce : p.nonce ≠ ""
  actionHash : p.actionHash.Readable
  signature : p.signature.Readable

/-! ## reading a member back -/

theorem expectString_str {s : String} (h : s ≠ "") (fieldName : String) :
    expectString (.str s) fieldName = .ok s := if_neg h

theorem expectMapping_obj (d : Dict) (fieldName : String) : expectMapping (.obj d) fieldName = .ok d := rfl

@[simp] theorem Json.present?_str (s : String) : (Json.str s).present? = some (.str s) := rfl

@[simp] theorem Json.present?_obj (d : Dict) : (Json.obj d).present? = some (.obj d) := rfl

@[simp] theorem dictValue_getD (d : Dict) : (dictValue d).present?.getD (.obj []) = .obj d := by
  cases d with
  | nil => rfl
  | cons p d => rfl

@[simp] theorem listValue_getD (xs : List Json) : (listValue xs).present?.getD (.arr []) = .arr xs := by
  cases xs with
  | nil => rfl
  | cons x xs => rfl

/-- a dictionary that may have been left out -/
theorem optionalDict_of_find {data d : Dict} {name : String}
    (h : Dict.find data (.str name) = (dictValue d).present?) : optionalDict data name = .ok d := by
  unfold optionalDict Dict.getD
  rw [h, dictValue_getD]
  rfl

/-! ## references -/

theorem TenantRef.fromDict_toDict {t : TenantRef} (h : t.Readable) :
    TenantRef.fromDict (.obj t.toDict) = .ok t := by
  have hattributes : optionalDict t.toDict "attributes" = .ok t.attributes := by
    apply optionalDict_of_find
    simp [TenantRef.toDict, Dict.find_append, find_members_cons, find_members_nil, find_dictMember]
  have hid : Dict.get t.toDict "tenant_id" = .str t.tenantId := by
    simp [Dict.get, TenantRef.toDict, Dict.find_append, find_members_cons]
  unfold TenantRef.fromDict
  rw [expectMapping_obj, Fallible.ok_bind, hid, expectString_str h, Fallible.ok_bind, hattributes]
  rfl

theorem PartyRef.fromDict_toDict {p : PartyRef} (h : p.Readable) (fieldName : String) :
    PartyRef.fromDict (.obj p.toDict) fieldName = .ok p := by
  have hattributes : optionalDict p.toDict "attributes" = .ok p.attributes := by
    apply optionalDict_of_find
    simp [PartyRef.toDict, Dict.find_append, find_members_cons, find_members_nil, find_optMember,
      find_dictMember]
  have hget : Dict.get p.toDict "type" = .str p.type ∧ Dict.get p.toDict "id" = .str p.id ∧
      Dict.get p.toDict "display_name" = p.displayName := by
    simp [Dict.get, PartyRef.toDict, Dict.find_append, find_members_cons, find_members_nil,
      find_optMember, find_dictMember]
  unfold PartyRef.fromDict
  rw [expectMapping_obj, Fallible.ok_bind, hget.1, expectString_str h.1, Fallible.ok_bind, hget.2.1,
    expectString_str h.2, Fallible.ok_bind, hattributes, hget.2.2]
  rfl

theorem AudienceRef.fromDict_toDict {a : AudienceRef} (h : a.Readable) (fieldName : String) :
    AudienceRef.fromDict (.obj a.toDict) fieldName = .ok a := by
  have hget : Dict.get a.toDict "type" = .str a.type ∧ Dict.get a.toDict "id" = .str a.id ∧
      Dict.get a.toDict "uri" = a.uri := by
    simp [Dict.get, AudienceRef.toDict, Dict.find_append, find_members_cons, find_members_nil,
      find_optMember]
  unfold AudienceRef.fromDict
  rw [expectMapping_obj, Fallible.ok_bind, hget.1, expectString_str h.1, Fallible.ok_bind, hget.2.1,
    expectString_str h.2, Fallible.ok_bind, hget.2.2]
  rfl

theorem ActionSpec.fromDict_toDict {a : ActionSpec} (h : a.Readable) :
    ActionSpec.fromDict (.obj a.toDict) = .ok a := by
  have hdicts : optionalDict a.toDict "constraints" = .ok a.constraints ∧
      optionalDict a.toDict "scope" = .ok a.scope := by
    constructor
    · apply optionalDict_of_find
      simp [ActionSpec.toDict, Dict.find_append, find_members_cons, find_members_nil, find_dictMember]
    · apply optionalDict_of_find
      simp [ActionSpec.toDict, Dict.find_append, find_members_cons, find_members_nil, find_dictMember]
  have hget : Dict.get a.toDict "name" = .str a.name ∧
      Dict.get a.toDict "capability" = .str a.capability ∧
      Dict.get a.toDict "parameters" = .obj a.parameters := by
    simp [Dict.get, ActionSpec.toDict, Dict.find_append, find_members_cons]
  unfold ActionSpec.fromDict
  rw [expectMapping_obj, Fallible.ok_bind, hget.1, expectString_str h.1, Fallible.ok_bind, hget.2.1,
    expectString_str h.2, Fallible.ok_bind, hget.2.2, expectMapping_obj, Fallible.ok_bind, hdicts.1,
    Fallible.ok_bind, hdicts.2]
  rfl

theorem TargetRef.fromDict_toDict {t : TargetRef} (h : t.Readable) :
    TargetRef.fromDict (.obj t.toDict) = .ok t := by
  have hselectors : optionalDict t.toDict "selectors" = .ok t.selectors := by
    apply optionalDict_of_find
    simp [TargetRef.toDict, Dict.find_append, find_members_cons, find_members_nil, find_optMember,
      find_dictMember]
  have hget : Dict.get t.toDict "resource_type" = .str t.resourceType ∧
      Dict.get t.toDict "resource_id" = .str t.resourceId ∧ Dict.get t.toDict "uri" = t.uri := by
    simp [Dict.get, TargetRef.toDict, Dict.find_append, find_members_cons, find_members_nil,
      find_optMember, find_dictMember]
  unfold TargetRef.fromDict
  rw [expectMapping_obj, Fallible.ok_bind, hget.1, expectString_str h.1, Fallible.ok_bind, hget.2.1,
    expectString_str h.2, Fallible.ok_bind, hselectors, hget.2.2]
  rfl

theorem DigestSpec.fromDict_toDict {d : DigestSpec} (h : d.Readable) (fieldName : String) :
    DigestSpec.fromDict (.obj d.toDict) fieldName = .ok d := by
  have hget : Dict.get d.toDict "algorithm" = .str d.algorithm ∧
      Dict.get d.toDict "canonicalization" = .str d.canonicalization ∧
      Dict.get d.toDict "value" = .str d.value := by
    simp [Dict.get, DigestSpec.toDict, find_members_cons]
  unfold DigestSpec.fromDict
  rw [expectMapping_obj, Fallible.ok_bind, hget.1, expectString_str h.1, Fallible.ok_bind, hget.2.1,
    expectString_str h.2.1, Fallible.ok_bind, hget.2.2, expectString_str h.2.2]
  rfl

theorem SignatureSpec.fromDict_toDict {s : SignatureSpec} (h : s.Readable) :
    SignatureSpec.fromDict (.obj s.toDict) = .ok s := by
  have hget : Dict.get s.toDict "algorithm" = .str s.algorithm ∧ Dict.get s.toDict "key_id" = .str s.keyId ∧
      Dict.get s.toDict "encoding" = .str s.encoding ∧ Dict.get s.toDict "value" = .str s.value := by
    simp [Dict.get, SignatureSpec.toDict, find_members_cons]
  unfold SignatureSpec.fromDict
  rw [expectMapping_obj, Fallible.ok_bind, hget.1, expectString_str h.1, Fallible.ok_bind, hget.2.1,
    expectString_str h.2.1, Fallible.ok_bind, hget.2.2.1, expectString_str h.2.2.1, Fallible.ok_bind,
    hget.2.2.2, expectString_str h.2.2.2]
  rfl

/-! ## scope -/

theorem mapM_expectString {cs : List String} (h : ∀ c ∈ cs, c ≠ "") :
    (cs.map Json.str).mapM (fun item => expectString item "scope.capabilities[]") = .ok cs := by
  rw [Fallible.mapM_eq_ok, List.forall₂_map_left_iff]
  induction cs with
  | nil => exact List.Forall₂.nil
  | cons c cs ih =>
    exact List.Forall₂.cons (expectString_str (h c List.mem_cons_self) _)
      (ih fun d hd => h d (List.mem_cons_of_mem _ hd))

theorem mapM_selectorOf (ds : List Dict) : (ds.map Json.obj).mapM selectorOf = .ok ds := by
  rw [Fallible.mapM_eq_ok, List.forall₂_map_left_iff]
  induction ds with
  | nil => exact List.Forall₂.nil
  | cons d ds ih => exact List.Forall₂.cons rfl ih

theorem ScopeSpec.fromDict_toDict {s : ScopeSpec} (h : s.Readable) :
    ScopeSpec.fromDict (.obj s.toDict) = .ok s := by
  have hconstraints : optionalDict s.toDict "parameter_constraints" = .ok s.parameterConstraints := by
    apply optionalDict_of_find
    simp [ScopeSpec.toDict, Dict.find_append, find_members_cons, find_members_nil, find_listMember,
      find_dictMember]
  have hget : Dict.get s.toDict "mode" = .str s.mode ∧
      Dict.get s.toDict "capabilities" = .arr (s.capabilities.map .str) ∧
      Dict.get s.toDict "single_use" = .bool s.singleUse := by
    simp [Dict.get, ScopeSpec.toDict, Dict.find_append, find_members_cons]
  have hselectors : Dict.getD s.toDict "resource_selectors" (.arr [])
      = .arr (s.resourceSelectors.map .obj) := by
    simp [Dict.getD, ScopeSpec.toDict, Dict.find_append, find_members_cons, find_members_nil,
      find_listMember, find_dictMember]
  obtain ⟨hmode, hne, hcaps⟩ := h
  unfold ScopeSpec.fromDict
  rw [expectMapping_obj, Fallible.ok_bind, hget.2.1, hselectors, hget.1, hget.2.2, hconstraints,
    expectString_str hmode]
  obtain ⟨mode, capabilities, singleUse, selectors, constraints⟩ := s
  cases capabilities with
  | nil => exact absurd rfl hne
  | cons c cs =>
    show ((((c :: cs).map Json.str).mapM fun item => expectString item "scope.capabilities[]") >>= fun _ => _) = _
    rw [mapM_expectString hcaps, Fallible.ok_bind]
    show ((selectors.map Json.obj).mapM selectorOf >>= fun _ => _) = _
    rw [mapM_selectorOf, Fallible.ok_bind]
    rfl

/-! ## the proof -/

/-- the members of a written proof -/
structure PCCB.Members (p : PCCB) (d : Dict) : Prop where
  contract : Dict.get d "contract" = .obj (members [("name", .str "pccb"), ("version", .str "v1")])
  pccbId : Dict.get d "pccb_id" = .str p.pccbId
  issuedAt : Dict.get d "issued_at" = .str (formatTimestamp p.issuedAt)
  notBefore : Dict.get d "not_before" = .str (formatTimestamp p.notBefore)
  expiresAt : Dict.get d "expires_at" = .str (formatTimestamp p.expiresAt)
  issuer : Dict.get d "issuer" = .obj p.issuer.toDict
  subject : Dict.get d "subject" = .obj p.subject.toDict
  tenant : Dict.get d "tenant" = .obj p.tenant.toDict
  audience : Dict.get d "audience" = .obj p.audience.toDict
  action : Dict.get d "action" = .obj p.action.toDict
  target : Dict.get d "target" = .obj p.target.toDict
  scope : Dict.get d "scope" = .obj p.scope.toDict
  nonce : Dict.get d "nonce" = .str p.nonce
  actionHash : Dict.get d "action_hash" = .obj p.actionHash.toDict
  signature : Dict.get d "signature" = .obj p.signature.toDict
  intentId : Dict.get d "intent_id" = p.intentId
  escrowReference : Dict.get d "escrow_reference" = p.escrowReference
  extensions : Dict.find d (.str "extensions") = (dictValue p.extensions).present?

theorem PCCB.members_toDict (p : PCCB) : p.Members p.toDict := by
  constructor <;>
    simp only [Dict.get, PCCB.toDict, PCCB.unsignedPayload, Dict.find_append, find_members_cons,
      find_members_nil, find_optMember, find_dictMember, String.reduceEq, if_true, if_false,
      Option.or_none, Option.none_or, Option.getD_some, Json.present?_getD]

/-- the escrow is read off its reference -/
theorem PCCB.escrowId_of_reference (p : PCCB) :
    (if p.escrowReference.truthy then p.escrowReference else .obj []).getAttr "escrow_id" = .ok p.escrowId := by
  unfold PCCB.escrowReference
  split
  · rename_i h
    rw [h]
    rfl
  · simp [Json.truthy, members, Json.getAttr, Dict.get, Dict.find_cons]

/-- **A proof comes back from `to_dict` as it was.** -/
theorem PCCB.fromDict_toDict {p : PCCB} (h : p.Readable) : PCCB.fromDict (.obj p.toDict) = .ok p := by
  have m := p.members_toDict
  have hcontract : declares (members [("name", .str "pccb"), ("version", .str "v1")]) "pccb" "v1" = true := by
    decide
  have hextensions := optionalDict_of_find m.extensions
  unfold PCCB.fromDict
  simp only [expectMapping_obj, Fallible.ok_bind, m.contract, m.pccbId, m.issuedAt, m.notBefore,
    m.expiresAt, m.issuer, m.subject, m.tenant, m.audience, m.action, m.target, m.scope, m.nonce,
    m.actionHash, m.signature, m.intentId, m.escrowReference, hcontract, hextensions,
    expectString_str h.pccbId, expectString_str h.nonce, parseTimestamp_formatTimestamp,
    PartyRef.fromDict_toDict h.issuer, PartyRef.fromDict_toDict h.subject,
    TenantRef.fromDict_toDict h.tenant, AudienceRef.fromDict_toDict h.audience,
    ActionSpec.fromDict_toDict h.action, TargetRef.fromDict_toDict h.target,
    ScopeSpec.fromDict_toDict h.scope, ActionHashSpec.fromDict, DigestSpec.fromDict_toDict h.actionHash,
    SignatureSpec.fromDict_toDict h.signature, PCCB.escrowId_of_reference]
  rfl

end Actenon
