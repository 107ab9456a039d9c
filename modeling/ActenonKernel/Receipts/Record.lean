import ActenonKernel.Anchors.Models
import ActenonKernel.Evidence.Query
import ActenonKernel.Models.RoundTrip

/-!
# Receipts as they are kept (`actenon/models/contracts.py`)

A receipt is kept as the dictionary that `to_dict` makes, and comes back from a file with its members in another
order and its tuples as lists.  `from_dict` reads it as the same receipt all the same.

* `CorrelationRecord`, `ReceiptRecord`    `CorrelationRef` and `Receipt`, a member without a check being a `Json`;
* `ReceiptRecord.fromDict`, `ReceiptRecord.toDict`;
* `ReceiptRecord.Same`        the same value in every field;
* `ReceiptRecord.reads`       what the same dictionary is read as.
-/

set_option linter.unusedSectionVars false

namespace Actenon

/-! ## the contracts -/

/-- `f(x) if x else None` -/
def parseIfTruthy {α : Type} (f : Json → Except PyError α) (x : Json) : Except PyError (Option α) :=
  if x.truthy then (f x).map some else .ok none

structure CorrelationRecord where
  pccbId : Json := .null
  escrowId : Json := .null
  refusalId : Json := .null
  receiptId : Json := .null
  requestId : Json := .null
  actionHash : Option ActionHashSpec := none
  executionAttemptId : Json := .null
  protocolVersion : Json := .null
  executionMode : Json := .null
  verifierIdentity : Json := .null
  targetDigest : Option ActionHashSpec := none

def CorrelationRecord.toDict (c : CorrelationRecord) : Dict :=
  optMember "pccb_id" c.pccbId ++ optMember "escrow_id" c.escrowId ++ optMember "refusal_id" c.refusalId
    ++ optMember "receipt_id" c.receiptId ++ optMember "request_id" c.requestId
    ++ digestMember "action_hash" c.actionHash ++ optMember "execution_attempt_id" c.executionAttemptId
    ++ optMember "protocol_version" c.protocolVersion ++ optMember "execution_mode" c.executionMode
    ++ optMember "verifier_identity" c.verifierIdentity ++ digestMember "target_digest" c.targetDigest

def CorrelationRecord.fromDict (raw : Json) : Except PyError CorrelationRecord := do
  let data ← expectMapping raw "correlation"
  let actionHash ← parseIfTruthy (ActionHashSpec.fromDict · "correlation.action_hash") (Dict.get data "action_hash")
  let targetDigest ← parseIfTruthy (ActionHashSpec.fromDict · "correlation.target_digest") (Dict.get data "target_digest")
  return {
    pccbId := Dict.get data "pccb_id", escrowId := Dict.get data "escrow_id", refusalId := Dict.get data "refusal_id",
    receiptId := Dict.get data "receipt_id", requestId := Dict.get data "request_id", actionHash := actionHash,
    executionAttemptId := Dict.get data "execution_attempt_id", protocolVersion := Dict.get data "protocol_version",
    executionMode := Dict.get data "execution_mode", verifierIdentity := Dict.get data "verifier_identity",
    targetDigest := targetDigest }

/-- the correlation as a dictionary, empty where there is none -/
def correlationDict (c : Option CorrelationRecord) : Dict := (c.map CorrelationRecord.toDict).getD []

structure ReceiptRecord where
  receiptId : String
  intentId : String
  occurredAt : Datetime
  outcome : String
  tenant : TenantRef
  subject : PartyRef
  action : ActionSpec
  target : TargetRef
  summary : String
  phase : Json := .null
  correlation : Option CorrelationRecord := none
  reasonCodes : List String := []
  followUp : Dict := []
  sideEffects : Dict := []
  details : Dict := []
  metadata : Dict := []
  extensions : Dict := []

def ReceiptRecord.toDict (r : ReceiptRecord) : Dict :=
  members [("contract", .obj (members [("name", .str "receipt"), ("version", .str "v1")])),
      ("receipt_id", .str r.receiptId), ("intent_id", .str r.intentId),
      ("occurred_at", .str (formatTimestamp r.occurredAt)), ("outcome", .str r.outcome),
      ("tenant", .obj r.tenant.toDict), ("subject", .obj r.subject.toDict),
      ("action", .obj r.action.toDict), ("target", .obj r.target.toDict), ("summary", .str r.summary)]
    ++ optMember "phase" r.phase ++ dictMember "correlation" (correlationDict r.correlation)
    ++ listMember "reason_codes" (r.reasonCodes.map .str) ++ dictMember "follow_up" r.followUp
    ++ dictMember "side_effects" r.sideEffects ++ dictMember "details" r.details
    ++ dictMember "metadata" r.metadata ++ dictMember "extensions" r.extensions

/-- `isinstance(raw, list)` -/
def expectList (raw : Json) (message : String) : Except PyError (List Json) :=
  match raw with
  | .arr xs => .ok xs
  | _ => valueError message

def ReceiptRecord.fromDict (raw : Json) : Except PyError ReceiptRecord := do
  let data ← expectMapping raw "receipt"
  let contract ← expectMapping (Dict.get data "contract") "contract"
  if !declares contract "receipt" "v1" then
    valueError "contract must declare receipt v1"
  let rawCodes ← expectList (Dict.getD data "reason_codes" (.arr [])) "reason_codes must be an array when provided"
  let receiptId ← expectString (Dict.get data "receipt_id") "receipt_id"
  let intentId ← expectString (Dict.get data "intent_id") "intent_id"
  let occurredAt ← parseTimestamp (Dict.get data "occurred_at") "occurred_at"
  let outcome ← expectString (Dict.get data "outcome") "outcome"
  let tenant ← TenantRef.fromDict (Dict.get data "tenant")
  let subject ← PartyRef.fromDict (Dict.get data "subject") "subject"
  let action ← ActionSpec.fromDict (Dict.get data "action")
  let target ← TargetRef.fromDict (Dict.get data "target")
  let correlation ← parseIfTruthy CorrelationRecord.fromDict (Dict.get data "correlation")
  let summary ← expectString (Dict.get data "summary") "summary"
  let reasonCodes ← rawCodes.mapM fun item => expectString item "reason_codes[]"
  let followUp ← optionalDict data "follow_up"
  let sideEffects ← optionalDict data "side_effects"
  let details ← optionalDict data "details"
  let metadata ← optionalDict data "metadata"
  let extensions ← optionalDict data "extensions"
  return {
    receiptId := receiptId, intentId := intentId, occurredAt := occurredAt, outcome := outcome, tenant := tenant,
    subject := subject, action := action, target := target, summary := summary, phase := Dict.get data "phase",
    correlation := correlation, reasonCodes := reasonCodes, followUp := followUp, sideEffects := sideEffects,
    details := details, metadata := metadata, extensions := extensions }

/-! ## the receipts of the other modules -/

def StoredCorrelation.record (c : StoredCorrelation) : CorrelationRecord where
  pccbId := textJson c.pccbId
  escrowId := c.escrowId
  refusalId := textJson c.refusalId
  receiptId := textJson c.receiptId
  requestId := textJson c.requestId
  actionHash := c.actionHash
  executionAttemptId := textJson c.executionAttemptId
  protocolVersion := textJson c.protocolVersion
  executionMode := textJson c.executionMode
  verifierIdentity := textJson c.verifierIdentity
  targetDigest := c.targetDigest

def StoredReceipt.record (r : StoredReceipt) : ReceiptRecord where
  receiptId := r.receiptId
  intentId := r.intentId
  occurredAt := r.occurredAt
  outcome := r.outcome
  tenant := r.tenant
  subject := r.subject
  action := r.action
  target := r.target
  summary := r.summary
  phase := textJson r.phase
  correlation := r.correlation.map StoredCorrelation.record
  reasonCodes := r.reasonCodes
  followUp := r.followUp
  sideEffects := r.sideEffects
  details := r.details
  metadata := r.metadata
  extensions := r.extensions

theorem optMember_textJson (name : String) (s : Option String) : optMember name (textJson s) = textMember name s := by
  cases s <;> rfl

/-- the receipts that the queries read are kept as the same dictionary -/
theorem StoredReceipt.record_toDict (r : StoredReceipt) : r.record.toDict = r.toDict := by
  have hcorrelation : correlationDict r.record.correlation = (r.correlation.map StoredCorrelation.toDict).getD [] := by
    unfold correlationDict StoredReceipt.record
    cases r.correlation with
    | none => rfl
    | some c => simp [StoredCorrelation.record, CorrelationRecord.toDict, StoredCorrelation.toDict, optMember_textJson]
  unfold ReceiptRecord.toDict StoredReceipt.toDict
  rw [hcorrelation]
  simp [StoredReceipt.record, optMember_textJson]

/-! ## members of the same dictionary -/

section
variable {x : Json} {s : String} {d e : Dict} {name : String}

theorem eq_of_same_str (h : Json.Same (.str s) x) : x = .str s := h

theorem obj_of_same (h : Json.Same (.obj d) x) : ∃ e, x = .obj e ∧ Dict.Same d e := by
  cases x with
  | obj e => exact ⟨e, rfl, h⟩
  | _ =>
    obtain ⟨_, _, h, -⟩ := h
    cases h

theorem null_of_same (h : Json.Same .null x) : x = .null := h

variable (h : Dict.Same d e) (hu : e.UniqueKeys)
include h hu

theorem get_text (hd : Dict.get d name = .str s) : Dict.get e name = .str s := by
  have hsame := h.get hu name
  rw [hd] at hsame
  exact hsame

theorem get_dict {a : Dict} (hd : Dict.get d name = .obj a) : ∃ b, Dict.get e name = .obj b ∧ Dict.Same a b := by
  have hsame := h.get hu name
  rw [hd] at hsame
  exact obj_of_same hsame

theorem get_value {v : Json} (hd : Dict.get d name = v) : Json.Same v (Dict.get e name) := by
  have hsame := h.get hu name
  rw [hd] at hsame
  exact hsame

/-- a dictionary that may have been left out -/
theorem optionalDict_same {a : Dict} (hd : Dict.find d (.str name) = (dictValue a).present?) :
    ∃ b, optionalDict e name = .ok b ∧ Dict.Same a b := by
  obtain ⟨hsame, hnone⟩ := h.find hu (.str name)
  rw [hd] at hsame hnone
  unfold optionalDict Dict.getD
  cases hfind : Dict.find e (.str name) with
  | none =>
    have hempty := hnone.mpr hfind
    cases a with
    | nil => exact ⟨[], rfl, Dict.same_nil⟩
    | cons p a => cases hempty
  | some v =>
    rw [hfind] at hsame hnone
    cases a with
    | nil => exact absurd (hnone.mp rfl) (Option.some_ne_none v)
    | cons p a =>
      obtain ⟨b, hb, hsame⟩ := obj_of_same (d := p :: a) hsame
      obtain rfl : v = .obj b := hb
      exact ⟨b, rfl, hsame⟩

end

/-! ## references -/

section
variable {d : Dict} (hu : d.UniqueKeys)
include hu

theorem TenantRef.reads {t : TenantRef} (h : t.Readable) (hd : Dict.Same t.toDict d) :
    ∃ t', TenantRef.fromDict (.obj d) = .ok t' ∧ t.Same t' := by
  have hid : Dict.get d "tenant_id" = .str t.tenantId := by
    refine get_text hd hu ?_
    simp [Dict.get, TenantRef.toDict, Dict.find_append, find_members_cons]
  have hfind : Dict.find t.toDict (.str "attributes") = (dictValue t.attributes).present? := by
    simp [TenantRef.toDict, Dict.find_append, find_members_cons, find_members_nil, find_dictMember]
  obtain ⟨attributes, hattributes, hsame⟩ := optionalDict_same hd hu hfind
  refine ⟨⟨t.tenantId, attributes⟩, ?_, rfl, hsame⟩
  unfold TenantRef.fromDict
  rw [expectMapping_obj, Fallible.ok_bind, hid, expectString_str h, Fallible.ok_bind, hattributes]
  rfl

theorem PartyRef.reads {t : PartyRef} (h : t.Readable) (hd : Dict.Same t.toDict d) (fieldName : String) :
    ∃ t', PartyRef.fromDict (.obj d) fieldName = .ok t' ∧ t.Same t' := by
  have hget : Dict.get t.toDict "type" = .str t.type ∧ Dict.get t.toDict "id" = .str t.id ∧
      Dict.get t.toDict "display_name" = t.displayName := by
    simp [Dict.get, PartyRef.toDict, Dict.find_append, find_members_cons, find_members_nil,
      find_optMember, find_dictMember]
  have hfind : Dict.find t.toDict (.str "attributes") = (dictValue t.attributes).present? := by
    simp [PartyRef.toDict, Dict.find_append, find_members_cons, find_members_nil, find_optMember, find_dictMember]
  obtain ⟨attributes, hattributes, hsame⟩ := optionalDict_same hd hu hfind
  refine ⟨⟨t.type, t.id, Dict.get d "display_name", attributes⟩, ?_, rfl, rfl, get_value hd hu hget.2.2, hsame⟩
  unfold PartyRef.fromDict
  rw [expectMapping_obj, Fallible.ok_bind, get_text hd hu hget.1, expectString_str h.1, Fallible.ok_bind,
    get_text hd hu hget.2.1, expectString_str h.2, Fallible.ok_bind, hattributes]
  rfl

theorem ActionSpec.reads {t : ActionSpec} (h : t.Readable) (hd : Dict.Same t.toDict d) :
    ∃ t', ActionSpec.fromDict (.obj d) = .ok t' ∧ t.Same t' := by
  have hget : Dict.get t.toDict "name" = .str t.name ∧ Dict.get t.toDict "capability" = .str t.capability ∧
      Dict.get t.toDict "parameters" = .obj t.parameters := by
    simp [Dict.get, ActionSpec.toDict, Dict.find_append, find_members_cons]
  obtain ⟨parameters, hparameters, hsame₁⟩ := get_dict hd hu hget.2.2
  have hfind₂ : Dict.find t.toDict (.str "constraints") = (dictValue t.constraints).present? := by
    simp [ActionSpec.toDict, Dict.find_append, find_members_cons, find_members_nil, find_dictMember]
  obtain ⟨constraints, hconstraints, hsame₂⟩ := optionalDict_same hd hu hfind₂
  have hfind₃ : Dict.find t.toDict (.str "scope") = (dictValue t.scope).present? := by
    simp [ActionSpec.toDict, Dict.find_append, find_members_cons, find_members_nil, find_dictMember]
  obtain ⟨lexical, hscope, hsame₃⟩ := optionalDict_same hd hu hfind₃
  refine ⟨⟨t.name, t.capability, parameters, constraints, lexical⟩, ?_, rfl, rfl, hsame₁, hsame₂, hsame₃⟩
  unfold ActionSpec.fromDict
  rw [expectMapping_obj, Fallible.ok_bind, get_text hd hu hget.1, expectString_str h.1, Fallible.ok_bind,
    get_text hd hu hget.2.1, expectString_str h.2, Fallible.ok_bind, hparameters, expectMapping_obj, Fallible.ok_bind,
    hconstraints, Fallible.ok_bind, hscope]
  rfl

theorem TargetRef.reads {t : TargetRef} (h : t.Readable) (hd : Dict.Same t.toDict d) :
    ∃ t', TargetRef.fromDict (.obj d) = .ok t' ∧ t.Same t' := by
  have hget : Dict.get t.toDict "resource_type" = .str t.resourceType ∧
      Dict.get t.toDict "resource_id" = .str t.resourceId ∧ Dict.get t.toDict "uri" = t.uri := by
    simp [Dict.get, TargetRef.toDict, Dict.find_append, find_members_cons, find_members_nil,
      find_optMember, find_dictMember]
  have hfind : Dict.find t.toDict (.str "selectors") = (dictValue t.selectors).present? := by
    simp [TargetRef.toDict, Dict.find_append, find_members_cons, find_members_nil, find_optMember, find_dictMember]
  obtain ⟨selectors, hselectors, hsame⟩ := optionalDict_same hd hu hfind
  refine ⟨⟨t.resourceType, t.resourceId, Dict.get d "uri", selectors⟩, ?_, rfl, rfl, get_value hd hu hget.2.2, hsame⟩
  unfold TargetRef.fromDict
  rw [expectMapping_obj, Fallible.ok_bind, get_text hd hu hget.1, expectString_str h.1, Fallible.ok_bind,
    get_text hd hu hget.2.1, expectString_str h.2, Fallible.ok_bind, hselectors]
  rfl

theorem DigestSpec.reads {t : DigestSpec} (h : t.Readable) (hd : Dict.Same t.toDict d) (fieldName : String) :
    DigestSpec.fromDict (.obj d) fieldName = .ok t := by
  have hget : Dict.get t.toDict "algorithm" = .str t.algorithm ∧
      Dict.get t.toDict "canonicalization" = .str t.canonicalization ∧ Dict.get t.toDict "value" = .str t.value := by
    simp [Dict.get, DigestSpec.toDict, find_members_cons]
  unfold DigestSpec.fromDict
  rw [expectMapping_obj, Fallible.ok_bind, get_text hd hu hget.1, expectString_str h.1, Fallible.ok_bind,
    get_text hd hu hget.2.1, expectString_str h.2.1, Fallible.ok_bind, get_text hd hu hget.2.2, expectString_str h.2.2]
  rfl

end

/-! ## correlations -/

/-- the value that is looked up for a digest that may be left out -/
def digestValue (t : Option DigestSpec) : Json := (t.map fun t => Json.obj t.toDict).getD .null

theorem find_digestMember (n : String) (t : Option DigestSpec) (k : String) :
    Dict.find (digestMember n t) (.str k) = if n = k then (digestValue t).present? else none := by
  cases t <;> simp [digestMember, digestValue, Dict.find_cons, Dict.find_nil, Json.present?]

/-- a dictionary that may be left out, with the reader of what it stands for -/
theorem optional_same {α : Type} (toDict : α → Dict) (fromDict : Json → Except PyError α) {Same : α → α → Prop}
    {d e : Dict} (h : Dict.Same d e) (hl : (Json.obj e).lawful = true) {name : String} {t : Option α}
    (hd : Dict.get d name = (t.map fun a => Json.obj (toDict a)).getD .null) (hne : ∀ a ∈ t, toDict a ≠ [])
    (hreads : ∀ a ∈ t, ∀ b : Dict, (Json.obj b).lawful = true → Dict.Same (toDict a) b →
      ∃ a', fromDict (.obj b) = .ok a' ∧ Same a a') :
    ∃ t', parseIfTruthy fromDict (Dict.get e name) = .ok t' ∧ Option.Rel Same t t' := by
  have hsame := get_value h ((Json.lawful_obj e).mp hl).1 hd
  have hlawful := Json.lawful_get hl name
  cases t with
  | none =>
    have hnull : Dict.get e name = .null := null_of_same hsame
    rw [hnull]
    exact ⟨none, rfl, Option.Rel.none⟩
  | some a =>
    obtain ⟨b, hb, hab⟩ := obj_of_same (d := toDict a) hsame
    rw [hb] at hlawful ⊢
    obtain ⟨a', ha', hsame'⟩ := hreads a rfl b hlawful hab
    have htruthy : (Json.obj b).truthy = true := by
      show (!b.isEmpty) = true
      rw [← hab.isEmpty, Bool.not_eq_true', List.isEmpty_eq_false_iff]
      exact hne a rfl
    refine ⟨some a', ?_, Option.Rel.some hsame'⟩
    unfold parseIfTruthy
    rw [if_pos htruthy, ha']
    rfl

/-- a digest that may be left out -/
theorem digest_same {d e : Dict} (h : Dict.Same d e) (hl : (Json.obj e).lawful = true) {name fieldName : String}
    {t : Option DigestSpec} (hd : Dict.get d name = digestValue t) (ht : ∀ a ∈ t, a.Readable) :
    parseIfTruthy (ActionHashSpec.fromDict · fieldName) (Dict.get e name) = .ok t := by
  obtain ⟨t', hread, hsame⟩ : ∃ t', parseIfTruthy (ActionHashSpec.fromDict · fieldName) (Dict.get e name) = .ok t' ∧
      Option.Rel Eq t t' :=
    optional_same DigestSpec.toDict _ h hl hd (fun a _ => List.cons_ne_nil _ _) fun a ha b hb hab =>
      ⟨a, DigestSpec.reads ((Json.lawful_obj b).mp hb).1 (ht a ha) hab fieldName, rfl⟩
  rw [hread]
  cases hsame with
  | none => rfl
  | some heq => rw [heq]

def CorrelationRecord.Readable (c : CorrelationRecord) : Prop :=
  (∀ t ∈ c.actionHash, t.Readable) ∧ ∀ t ∈ c.targetDigest, t.Readable

structure CorrelationRecord.Same (c c' : CorrelationRecord) : Prop where
  pccbId : Json.Same c.pccbId c'.pccbId
  escrowId : Json.Same c.escrowId c'.escrowId
  refusalId : Json.Same c.refusalId c'.refusalId
  receiptId : Json.Same c.receiptId c'.receiptId
  requestId : Json.Same c.requestId c'.requestId
  actionHash : c.actionHash = c'.actionHash
  executionAttemptId : Json.Same c.executionAttemptId c'.executionAttemptId
  protocolVersion : Json.Same c.protocolVersion c'.protocolVersion
  executionMode : Json.Same c.executionMode c'.executionMode
  verifierIdentity : Json.Same c.verifierIdentity c'.verifierIdentity
  targetDigest : c.targetDigest = c'.targetDigest

/-- the members of a kept correlation -/
structure CorrelationRecord.Members (c : CorrelationRecord) (d : Dict) : Prop where
  pccbId : Dict.get d "pccb_id" = c.pccbId
  escrowId : Dict.get d "escrow_id" = c.escrowId
  refusalId : Dict.get d "refusal_id" = c.refusalId
  receiptId : Dict.get d "receipt_id" = c.receiptId
  requestId : Dict.get d "request_id" = c.requestId
  actionHash : Dict.get d "action_hash" = digestValue c.actionHash
  executionAttemptId : Dict.get d "execution_attempt_id" = c.executionAttemptId
  protocolVersion : Dict.get d "protocol_version" = c.protocolVersion
  executionMode : Dict.get d "execution_mode" = c.executionMode
  verifierIdentity : Dict.get d "verifier_identity" = c.verifierIdentity
  targetDigest : Dict.get d "target_digest" = digestValue c.targetDigest

theorem CorrelationRecord.members_toDict (c : CorrelationRecord) : c.Members c.toDict := by
  constructor <;>
    simp only [Dict.get, CorrelationRecord.toDict, Dict.find_append, find_optMember, find_digestMember,
      String.reduceEq, if_true, if_false, Option.or_none, Option.none_or, Json.present?_getD]

theorem CorrelationRecord.reads {c : CorrelationRecord} (h : c.Readable) {d : Dict} (hl : (Json.obj d).lawful = true)
    (hd : Dict.Same c.toDict d) : ∃ c', CorrelationRecord.fromDict (.obj d) = .ok c' ∧ c.Same c' := by
  have m := c.members_toDict
  have hu := ((Json.lawful_obj d).mp hl).1
  refine ⟨⟨Dict.get d "pccb_id", Dict.get d "escrow_id", Dict.get d "refusal_id", Dict.get d "receipt_id",
    Dict.get d "request_id", c.actionHash, Dict.get d "execution_attempt_id", Dict.get d "protocol_version",
    Dict.get d "execution_mode", Dict.get d "verifier_identity", c.targetDigest⟩, ?_, ?_⟩
  · unfold CorrelationRecord.fromDict
    rw [expectMapping_obj, Fallible.ok_bind, digest_same hd hl m.actionHash h.1, Fallible.ok_bind,
      digest_same hd hl m.targetDigest h.2]
    rfl
  · exact ⟨get_value hd hu m.pccbId, get_value hd hu m.escrowId, get_value hd hu m.refusalId,
      get_value hd hu m.receiptId, get_value hd hu m.requestId, rfl, get_value hd hu m.executionAttemptId,
      get_value hd hu m.protocolVersion, get_value hd hu m.executionMode, get_value hd hu m.verifierIdentity, rfl⟩

/-! ## receipts -/

/-- no text that `from_dict` requires is empty -/
structure ReceiptRecord.Readable (r : ReceiptRecord) : Prop where
  receiptId : r.receiptId ≠ ""
  intentId : r.intentId ≠ ""
  outcome : r.outcome ≠ ""
  tenant : r.tenant.Readable
  subject : r.subject.Readable
  action : r.action.Readable
  target : r.target.Readable
  summary : r.summary ≠ ""
  correlation : ∀ c ∈ r.correlation, c.Readable
  reasonCodes : ∀ code ∈ r.reasonCodes, code ≠ ""

/-- the same receipt; a correlation without members is like none -/
structure ReceiptRecord.Same (r r' : ReceiptRecord) : Prop where
  receiptId : r.receiptId = r'.receiptId
  intentId : r.intentId = r'.intentId
  occurredAt : r.occurredAt = r'.occurredAt
  outcome : r.outcome = r'.outcome
  tenant : r.tenant.Same r'.tenant
  subject : r.subject.Same r'.subject
  action : r.action.Same r'.action
  target : r.target.Same r'.target
  summary : r.summary = r'.summary
  phase : Json.Same r.phase r'.phase
  correlation : Option.Rel CorrelationRecord.Same (r.correlation.filter fun c => !c.toDict.isEmpty) r'.correlation
  reasonCodes : r.reasonCodes = r'.reasonCodes
  followUp : Dict.Same r.followUp r'.followUp
  sideEffects : Dict.Same r.sideEffects r'.sideEffects
  details : Dict.Same r.details r'.details
  metadata : Dict.Same r.metadata r'.metadata
  extensions : Dict.Same r.extensions r'.extensions

/-- the members of a kept receipt -/
structure ReceiptRecord.Members (r : ReceiptRecord) (d : Dict) : Prop where
  contract : Dict.get d "contract" = .obj (members [("name", .str "receipt"), ("version", .str "v1")])
  receiptId : Dict.get d "receipt_id" = .str r.receiptId
  intentId : Dict.get d "intent_id" = .str r.intentId
  occurredAt : Dict.get d "occurred_at" = .str (formatTimestamp r.occurredAt)
  outcome : Dict.get d "outcome" = .str r.outcome
  tenant : Dict.get d "tenant" = .obj r.tenant.toDict
  subject : Dict.get d "subject" = .obj r.subject.toDict
  action : Dict.get d "action" = .obj r.action.toDict
  target : Dict.get d "target" = .obj r.target.toDict
  summary : Dict.get d "summary" = .str r.summary
  phase : Dict.get d "phase" = r.phase
  correlation : Dict.get d "correlation" = dictValue (correlationDict r.correlation)
  reasonCodes : Dict.find d (.str "reason_codes") = (listValue (r.reasonCodes.map .str)).present?
  followUp : Dict.find d (.str "follow_up") = (dictValue r.followUp).present?
  sideEffects : Dict.find d (.str "side_effects") = (dictValue r.sideEffects).present?
  details : Dict.find d (.str "details") = (dictValue r.details).present?
  metadata : Dict.find d (.str "metadata") = (dictValue r.metadata).present?
  extensions : Dict.find d (.str "extensions") = (dictValue r.extensions).present?

theorem ReceiptRecord.members_toDict (r : ReceiptRecord) : r.Members r.toDict := by
  constructor <;>
    simp only [Dict.get, ReceiptRecord.toDict, Dict.find_append, find_members_cons, find_members_nil, find_optMember,
      find_dictMember, find_listMember, String.reduceEq, if_true, if_false, Option.or_none, Option.none_or,
      Option.getD_some, Json.present?_getD]

/-- a list that may have been left out; a list is read as one, a tuple is not -/
theorem list_same {d e : Dict} (h : Dict.Same d e) (hl : (Json.obj e).lawful = true)
    (ht : (Json.obj e).tupleFree = true) {name : String} {xs : List Json}
    (hd : Dict.find d (.str name) = (listValue xs).present?) :
    ∃ ys, Dict.getD e name (.arr []) = .arr ys ∧ List.Forall₂ Json.Same xs ys ∧ ∀ y ∈ ys, y.lawful = true := by
  have hlawful := (Json.lawful_obj e).mp hl
  obtain ⟨hsame, hnone⟩ := h.find hlawful.1 (.str name)
  rw [hd] at hsame hnone
  unfold Dict.getD
  cases hfind : Dict.find e (.str name) with
  | none =>
    have hempty := hnone.mpr hfind
    cases xs with
    | nil => exact ⟨[], rfl, List.Forall₂.nil, List.forall_mem_nil _⟩
    | cons x xs => cases hempty
  | some v =>
    rw [hfind] at hsame hnone
    have hmem := Dict.mem_of_find hfind
    have hv : v.lawful = true := hlawful.2 _ hmem
    have htuple : v.tupleFree = true := by
      have hall : e.all (fun p => p.2.tupleFree) = true := (tupleFreeMembers_eq e).symm.trans ht
      exact List.all_eq_true.mp hall _ hmem
    cases xs with
    | nil => exact absurd (hnone.mp rfl) (Option.some_ne_none v)
    | cons x xs =>
      obtain ⟨ys, hitems, hys⟩ : ∃ ys, v.items? = some ys ∧ Json.SameList (x :: xs) ys := hsame
      cases v with
      | arr zs =>
        cases hitems
        rw [Json.lawful, Json.lawfulList_iff] at hv
        exact ⟨ys, rfl, (Json.sameList_iff _ _).mp hys, hv⟩
      | tup zs => cases htuple
      | _ => cases hitems

/-- a list of texts -/
theorem texts_same {d e : Dict} (h : Dict.Same d e) (hl : (Json.obj e).lawful = true)
    (ht : (Json.obj e).tupleFree = true) {name : String} {codes : List String}
    (hd : Dict.find d (.str name) = (listValue (codes.map .str)).present?) :
    Dict.getD e name (.arr []) = .arr (codes.map .str) := by
  obtain ⟨ys, hget, hys, -⟩ := list_same h hl ht hd
  rw [List.forall₂_map_left_iff] at hys
  have htexts : List.Forall₂ Eq ys (codes.map Json.str) :=
    List.forall₂_map_right_iff.mpr (hys.flip.imp fun y s hy => eq_of_same_str hy)
  rw [List.forall₂_eq_eq_eq] at htexts
  rw [hget, htexts]

theorem mapM_texts {codes : List String} (h : ∀ c ∈ codes, c ≠ "") (fieldName : String) :
    (codes.map Json.str).mapM (fun item => expectString item fieldName) = .ok codes := by
  rw [Fallible.mapM_eq_ok, List.forall₂_map_left_iff]
  exact List.forall₂_same.mpr fun c hc => expectString_str (h c hc) _

/-- a correlation that may have been left out, or have no members -/
theorem correlation_same {c : Option CorrelationRecord} {d e : Dict} (h : Dict.Same d e)
    (hl : (Json.obj e).lawful = true) (hd : Dict.get d "correlation" = dictValue (correlationDict c))
    (hc : ∀ c' ∈ c, c'.Readable) :
    ∃ c', parseIfTruthy CorrelationRecord.fromDict (Dict.get e "correlation") = .ok c' ∧
      Option.Rel CorrelationRecord.Same (c.filter fun c => !c.toDict.isEmpty) c' := by
  refine optional_same CorrelationRecord.toDict _ h hl ?_ ?_ ?_
  · rw [hd]
    unfold correlationDict dictValue
    cases c with
    | none => rfl
    | some c => cases hempty : c.toDict.isEmpty <;> simp [hempty, Option.filter_some]
  · intro a ha
    have hfilled := (Option.mem_filter_iff.mp ha).2
    simpa [List.isEmpty_iff] using hfilled
  · exact fun a ha b hb hab => CorrelationRecord.reads (hc a (Option.mem_filter_iff.mp ha).1) hb hab

/-- **The same dictionary is read as the same receipt.** -/
theorem ReceiptRecord.reads {r : ReceiptRecord} (h : r.Readable) {d : Dict} (hl : (Json.obj d).lawful = true)
    (ht : (Json.obj d).tupleFree = true) (hd : Dict.Same r.toDict d) :
    ∃ r', ReceiptRecord.fromDict (.obj d) = .ok r' ∧ r.Same r' := by
  have m := r.members_toDict
  have hu := ((Json.lawful_obj d).mp hl).1
  have hunique : ∀ {name : String} {a : Dict}, Dict.get d name = .obj a → (Json.obj a).lawful = true ∧ a.UniqueKeys := by
    intro name a ha
    have hlawful := Json.lawful_get hl name
    rw [ha] at hlawful
    exact ⟨hlawful, ((Json.lawful_obj a).mp hlawful).1⟩
  obtain ⟨contract, hcontract, hsame⟩ := get_dict hd hu m.contract
  have hdeclares : declares contract "receipt" "v1" = true := by
    have hname : Dict.get contract "name" = .str "receipt" := get_text hsame (hunique hcontract).2 rfl
    have hversion : Dict.get contract "version" = .str "v1" := get_text hsame (hunique hcontract).2 rfl
    unfold declares
    rw [hname, hversion]
    decide
  obtain ⟨tenantDict, htenant, hsame⟩ := get_dict hd hu m.tenant
  obtain ⟨tenant, htenant', hsameTenant⟩ := TenantRef.reads (hunique htenant).2 h.tenant hsame
  obtain ⟨subjectDict, hsubject, hsame⟩ := get_dict hd hu m.subject
  obtain ⟨subject, hsubject', hsameSubject⟩ := PartyRef.reads (hunique hsubject).2 h.subject hsame "subject"
  obtain ⟨actionDict, haction, hsame⟩ := get_dict hd hu m.action
  obtain ⟨action, haction', hsameAction⟩ := ActionSpec.reads (hunique haction).2 h.action hsame
  obtain ⟨targetDict, htarget, hsame⟩ := get_dict hd hu m.target
  obtain ⟨target, htarget', hsameTarget⟩ := TargetRef.reads (hunique htarget).2 h.target hsame
  obtain ⟨followUp, hfollowUp, hsameFollowUp⟩ := optionalDict_same hd hu m.followUp
  obtain ⟨sideEffects, hsideEffects, hsameSideEffects⟩ := optionalDict_same hd hu m.sideEffects
  obtain ⟨details, hdetails, hsameDetails⟩ := optionalDict_same hd hu m.details
  obtain ⟨metadata, hmetadata, hsameMetadata⟩ := optionalDict_same hd hu m.metadata
  obtain ⟨extensions, hextensions, hsameExtensions⟩ := optionalDict_same hd hu m.extensions
  obtain ⟨correlation, hcorrelation, hsameCorrelation⟩ := correlation_same hd hl m.correlation h.correlation
  refine ⟨⟨r.receiptId, r.intentId, r.occurredAt, r.outcome, tenant, subject, action, target, r.summary,
    Dict.get d "phase", correlation, r.reasonCodes, followUp, sideEffects, details, metadata, extensions⟩, ?_, ?_⟩
  · unfold ReceiptRecord.fromDict
    simp only [expectMapping_obj, Fallible.ok_bind, hcontract, hdeclares, texts_same hd hl ht m.reasonCodes, expectList,
      get_text hd hu m.receiptId, expectString_str h.receiptId, get_text hd hu m.intentId, expectString_str h.intentId,
      get_text hd hu m.occurredAt, parseTimestamp_formatTimestamp, get_text hd hu m.outcome, expectString_str h.outcome,
      htenant, htenant', hsubject, hsubject', haction, haction', htarget, htarget', hcorrelation,
      get_text hd hu m.summary, expectString_str h.summary, mapM_texts h.reasonCodes, hfollowUp, hsideEffects,
      hdetails, hmetadata, hextensions]
    rfl
  · exact ⟨rfl, rfl, rfl, rfl, hsameTenant, hsameSubject, hsameAction, hsameTarget, rfl, get_value hd hu m.phase,
      hsameCorrelation, rfl, hsameFollowUp, hsameSideEffects, hsameDetails, hsameMetadata, hsameExtensions⟩

end Actenon
