import ActenonKernel.Receipts.Record

/-!
# Refusals as they are kept (`actenon/models/contracts.py`)

* `RefusalRecord`      `Refusal`, a member without a check being a `Json`;
* `RefusalRecord.fromDict`, `RefusalRecord.toDict`    the older `refusal_code` is read for `reason_code`;
* `RefusalRecord.reads`       what the same dictionary is read as.
-/

set_option linter.unusedSectionVars false

namespace Actenon

/-! ## violations -/

def Violation.toDict (v : Violation) : Dict :=
  members [("code", .str v.code), ("message", .str v.message)] ++ optMember "field_path" v.fieldPath
    ++ optMember "expected" v.expected ++ optMember "observed" v.observed

def Violation.fromDict (raw : Json) : Except PyError Violation := do
  let data ← expectMapping raw "violation"
  let code ← expectString (Dict.get data "code") "violation.code"
  let message ← expectString (Dict.get data "message") "violation.message"
  return ⟨code, message, Dict.get data "field_path", Dict.get data "expected", Dict.get data "observed"⟩

def Violation.Readable (v : Violation) : Prop := v.code ≠ "" ∧ v.message ≠ ""

instance (v : Violation) : Decidable v.Readable := inferInstanceAs (Decidable (_ ∧ _))

structure Violation.Same (v v' : Violation) : Prop where
  code : v.code = v'.code
  message : v.message = v'.message
  fieldPath : Json.Same v.fieldPath v'.fieldPath
  expected : Json.Same v.expected v'.expected
  observed : Json.Same v.observed v'.observed

/-! ## refusals -/

structure RefusalRecord where
  refusalId : String
  category : String
  reasonCode : String
  message : String
  retryable : Bool
  refusedAt : Datetime
  intentId : Json := .null
  tenant : Option TenantRef := none
  subject : Option PartyRef := none
  audience : Option AudienceRef := none
  action : Option ActionSpec := none
  target : Option TargetRef := none
  correlation : Option CorrelationRecord := none
  ruleRefs : List String := []
  violations : List Violation := []
  details : Dict := []
  extensions : Dict := []

/-- the value of a reference that may be left out -/
def refValue {α : Type} (toDict : α → Dict) (t : Option α) : Json := (t.map fun a => Json.obj (toDict a)).getD .null

def RefusalRecord.toDict (r : RefusalRecord) : Dict :=
  members [("contract", .obj (members [("name", .str "refusal"), ("version", .str "v1")])),
      ("refusal_id", .str r.refusalId), ("category", .str r.category), ("reason_code", .str r.reasonCode),
      ("message", .str r.message), ("retryable", .bool r.retryable),
      ("refused_at", .str (formatTimestamp r.refusedAt))]
    ++ optMember "intent_id" r.intentId ++ optMember "tenant" (refValue TenantRef.toDict r.tenant)
    ++ optMember "subject" (refValue PartyRef.toDict r.subject)
    ++ optMember "audience" (refValue AudienceRef.toDict r.audience)
    ++ optMember "action" (refValue ActionSpec.toDict r.action)
    ++ optMember "target" (refValue TargetRef.toDict r.target)
    ++ dictMember "correlation" (correlationDict r.correlation) ++ listMember "rule_refs" (r.ruleRefs.map .str)
    ++ listMember "violations" (r.violations.map fun v => .obj v.toDict) ++ dictMember "details" r.details
    ++ dictMember "extensions" r.extensions

/-- the reason code of a refusal, under either name -/
def reasonCodeOf : Json → Json → Except PyError Json
  | .null, refusalCode => .ok refusalCode
  | reasonCode, .null => .ok reasonCode
  | reasonCode, refusalCode =>
    if reasonCode.pyEq refusalCode then .ok reasonCode
    else valueError "reason_code and refusal_code must match when both are provided"

def RefusalRecord.fromDict (raw : Json) : Except PyError RefusalRecord := do
  let data ← expectMapping raw "refusal"
  let contract ← expectMapping (Dict.get data "contract") "contract"
  if !declares contract "refusal" "v1" then
    valueError "contract must declare refusal v1"
  let rawRules ← expectList (Dict.getD data "rule_refs" (.arr [])) "rule_refs must be an array when provided"
  let rawViolations ← expectList (Dict.getD data "violations" (.arr [])) "violations must be an array when provided"
  let rawCode ← reasonCodeOf (Dict.get data "reason_code") (Dict.get data "refusal_code")
  let refusalId ← expectString (Dict.get data "refusal_id") "refusal_id"
  let category ← expectString (Dict.get data "category") "category"
  let reasonCode ← expectString rawCode "reason_code"
  let message ← expectString (Dict.get data "message") "message"
  let retryable ← expectBool (Dict.get data "retryable") "retryable"
  let refusedAt ← parseTimestamp (Dict.get data "refused_at") "refused_at"
  let tenant ← parseIfTruthy TenantRef.fromDict (Dict.get data "tenant")
  let subject ← parseIfTruthy (PartyRef.fromDict · "subject") (Dict.get data "subject")
  let audience ← parseIfTruthy (AudienceRef.fromDict ·) (Dict.get data "audience")
  let action ← parseIfTruthy ActionSpec.fromDict (Dict.get data "action")
  let target ← parseIfTruthy TargetRef.fromDict (Dict.get data "target")
  let correlation ← parseIfTruthy CorrelationRecord.fromDict (Dict.get data "correlation")
  let ruleRefs ← rawRules.mapM fun item => expectString item "rule_refs[]"
  let violations ← rawViolations.mapM Violation.fromDict
  let details ← optionalDict data "details"
  let extensions ← optionalDict data "extensions"
  return {
    refusalId := refusalId, category := category, reasonCode := reasonCode, message := message,
    retryable := retryable, refusedAt := refusedAt, intentId := Dict.get data "intent_id", tenant := tenant,
    subject := subject, audience := audience, action := action, target := target, correlation := correlation,
    ruleRefs := ruleRefs, violations := violations, details := details, extensions := extensions }

/-- no text that `from_dict` requires is empty -/
structure RefusalRecord.Readable (r : RefusalRecord) : Prop where
  refusalId : r.refusalId ≠ ""
  category : r.category ≠ ""
  reasonCode : r.reasonCode ≠ ""
  message : r.message ≠ ""
  tenant : ∀ t ∈ r.tenant, t.Readable
  subject : ∀ t ∈ r.subject, t.Readable
  audience : ∀ t ∈ r.audience, t.Readable
  action : ∀ t ∈ r.action, t.Readable
  target : ∀ t ∈ r.target, t.Readable
  correlation : ∀ c ∈ r.correlation, c.Readable
  ruleRefs : ∀ rule ∈ r.ruleRefs, rule ≠ ""
  violations : ∀ v ∈ r.violations, v.Readable

/-- the same refusal; a correlation without members is like none -/
structure RefusalRecord.Same (r r' : RefusalRecord) : Prop where
  refusalId : r.refusalId = r'.refusalId
  category : r.category = r'.category
  reasonCode : r.reasonCode = r'.reasonCode
  message : r.message = r'.message
  retryable : r.retryable = r'.retryable
  refusedAt : r.refusedAt = r'.refusedAt
  intentId : Json.Same r.intentId r'.intentId
  tenant : Option.Rel TenantRef.Same r.tenant r'.tenant
  subject : Option.Rel PartyRef.Same r.subject r'.subject
  audience : Option.Rel AudienceRef.Same r.audience r'.audience
  action : Option.Rel ActionSpec.Same r.action r'.action
  target : Option.Rel TargetRef.Same r.target r'.target
  correlation : Option.Rel CorrelationRecord.Same (r.correlation.filter fun c => !c.toDict.isEmpty) r'.correlation
  ruleRefs : r.ruleRefs = r'.ruleRefs
  violations : List.Forall₂ Violation.Same r.violations r'.violations
  details : Dict.Same r.details r'.details
  extensions : Dict.Same r.extensions r'.extensions

/-! ## what is read -/

theorem AudienceRef.reads {t : AudienceRef} {d : Dict} (hu : d.UniqueKeys) (h : t.Readable) (hd : Dict.Same t.toDict d) :
    ∃ t', AudienceRef.fromDict (.obj d) = .ok t' ∧ t.Same t' := by
  have hget : Dict.get t.toDict "type" = .str t.type ∧ Dict.get t.toDict "id" = .str t.id ∧
      Dict.get t.toDict "uri" = t.uri := by
    simp [Dict.get, AudienceRef.toDict, Dict.find_append, find_members_cons, find_members_nil, find_optMember]
  refine ⟨⟨t.type, t.id, Dict.get d "uri"⟩, ?_, rfl, rfl, get_value hd hu hget.2.2⟩
  unfold AudienceRef.fromDict
  rw [expectMapping_obj, Fallible.ok_bind, get_text hd hu hget.1, expectString_str h.1, Fallible.ok_bind,
    get_text hd hu hget.2.1, expectString_str h.2]
  rfl

theorem Violation.reads {v : Violation} {d : Dict} (hu : d.UniqueKeys) (h : v.Readable) (hd : Dict.Same v.toDict d) :
    ∃ v', Violation.fromDict (.obj d) = .ok v' ∧ v.Same v' := by
  have hget : Dict.get v.toDict "code" = .str v.code ∧ Dict.get v.toDict "message" = .str v.message ∧
      Dict.get v.toDict "field_path" = v.fieldPath ∧ Dict.get v.toDict "expected" = v.expected ∧
      Dict.get v.toDict "observed" = v.observed := by
    simp [Dict.get, Violation.toDict, Dict.find_append, find_members_cons, find_members_nil, find_optMember]
  obtain ⟨hcode, hmessage, hpath, hexpected, hobserved⟩ := hget
  refine ⟨⟨v.code, v.message, Dict.get d "field_path", Dict.get d "expected", Dict.get d "observed"⟩, ?_,
    rfl, rfl, get_value hd hu hpath, get_value hd hu hexpected, get_value hd hu hobserved⟩
  unfold Violation.fromDict
  rw [expectMapping_obj, Fallible.ok_bind, get_text hd hu hcode, expectString_str h.1, Fallible.ok_bind,
    get_text hd hu hmessage, expectString_str h.2]
  rfl

/-- violations that may have been left out -/
theorem mapM_violations {vs : List Violation} (h : ∀ v ∈ vs, v.Readable) {xs : List Json}
    (hxs : List.Forall₂ Json.Same (vs.map fun v => .obj v.toDict) xs) (hl : ∀ x ∈ xs, x.lawful = true) :
    ∃ vs', xs.mapM Violation.fromDict = .ok vs' ∧ List.Forall₂ Violation.Same vs vs' := by
  rw [List.forall₂_map_left_iff] at hxs
  have hread := (List.forall₂_and_left _ _).mpr ⟨hl, ((List.forall₂_and_left _ _).mpr ⟨h, hxs⟩).flip⟩
  refine Fallible.exists_mapM_forall₂ hread fun x v hx => ?_
  obtain ⟨hlawful, hreadable, hsame⟩ := hx
  obtain ⟨d, rfl, hd⟩ := obj_of_same hsame
  exact Violation.reads ((Json.lawful_obj d).mp hlawful).1 hreadable hd

/-- the members of a kept refusal -/
structure RefusalRecord.Members (r : RefusalRecord) (d : Dict) : Prop where
  contract : Dict.get d "contract" = .obj (members [("name", .str "refusal"), ("version", .str "v1")])
  refusalId : Dict.get d "refusal_id" = .str r.refusalId
  category : Dict.get d "category" = .str r.category
  reasonCode : Dict.get d "reason_code" = .str r.reasonCode
  refusalCode : Dict.get d "refusal_code" = .null
  message : Dict.get d "message" = .str r.message
  retryable : Dict.get d "retryable" = .bool r.retryable
  refusedAt : Dict.get d "refused_at" = .str (formatTimestamp r.refusedAt)
  intentId : Dict.get d "intent_id" = r.intentId
  tenant : Dict.get d "tenant" = refValue TenantRef.toDict r.tenant
  subject : Dict.get d "subject" = refValue PartyRef.toDict r.subject
  audience : Dict.get d "audience" = refValue AudienceRef.toDict r.audience
  action : Dict.get d "action" = refValue ActionSpec.toDict r.action
  target : Dict.get d "target" = refValue TargetRef.toDict r.target
  correlation : Dict.get d "correlation" = dictValue (correlationDict r.correlation)
  ruleRefs : Dict.find d (.str "rule_refs") = (listValue (r.ruleRefs.map .str)).present?
  violations : Dict.find d (.str "violations") = (listValue (r.violations.map fun v => .obj v.toDict)).present?
  details : Dict.find d (.str "details") = (dictValue r.details).present?
  extensions : Dict.find d (.str "extensions") = (dictValue r.extensions).present?

theorem RefusalRecord.members_toDict (r : RefusalRecord) : r.Members r.toDict := by
  constructor <;>
    simp only [Dict.get, RefusalRecord.toDict, Dict.find_append, find_members_cons, find_members_nil, find_optMember,
      find_dictMember, find_listMember, String.reduceEq, if_true, if_false, Option.or_none, Option.none_or,
      Option.getD_some, Option.getD_none, Json.present?_getD]

/-- **The same dictionary is read as the same refusal.** -/
theorem RefusalRecord.reads {r : RefusalRecord} (h : r.Readable) {d : Dict} (hl : (Json.obj d).lawful = true)
    (ht : (Json.obj d).tupleFree = true) (hd : Dict.Same r.toDict d) :
    ∃ r', RefusalRecord.fromDict (.obj d) = .ok r' ∧ r.Same r' := by
  have m := r.members_toDict
  have hu := ((Json.lawful_obj d).mp hl).1
  obtain ⟨contract, hcontract, hsame⟩ := get_dict hd hu m.contract
  have hdeclares : declares contract "refusal" "v1" = true := by
    have hlawful := Json.lawful_get hl "contract"
    rw [hcontract] at hlawful
    have huc := ((Json.lawful_obj contract).mp hlawful).1
    have hname : Dict.get contract "name" = .str "refusal" := get_text hsame huc rfl
    have hversion : Dict.get contract "version" = .str "v1" := get_text hsame huc rfl
    unfold declares
    rw [hname, hversion]
    decide
  have hcode : reasonCodeOf (Dict.get d "reason_code") (Dict.get d "refusal_code") = .ok (.str r.reasonCode) := by
    have hnull : Dict.get d "refusal_code" = .null := null_of_same (get_value hd hu m.refusalCode)
    rw [get_text hd hu m.reasonCode, hnull]
    rfl
  have hretryable : Dict.get d "retryable" = .bool r.retryable := get_value hd hu m.retryable
  obtain ⟨tenant, htenant, hsameTenant⟩ := optional_same TenantRef.toDict _ hd hl m.tenant
    (fun t _ => List.cons_ne_nil _ _) fun t ht b hb => TenantRef.reads ((Json.lawful_obj b).mp hb).1 (h.tenant t ht)
  obtain ⟨subject, hsubject, hsameSubject⟩ := optional_same PartyRef.toDict (PartyRef.fromDict · "subject") hd hl m.subject
    (fun t _ => List.cons_ne_nil _ _) fun t ht b hb hsame =>
      PartyRef.reads ((Json.lawful_obj b).mp hb).1 (h.subject t ht) hsame "subject"
  obtain ⟨audience, haudience, hsameAudience⟩ := optional_same AudienceRef.toDict (AudienceRef.fromDict ·) hd hl m.audience
    (fun t _ => List.cons_ne_nil _ _) fun t ht b hb => AudienceRef.reads ((Json.lawful_obj b).mp hb).1 (h.audience t ht)
  obtain ⟨action, haction, hsameAction⟩ := optional_same ActionSpec.toDict _ hd hl m.action
    (fun t _ => List.cons_ne_nil _ _) fun t ht b hb => ActionSpec.reads ((Json.lawful_obj b).mp hb).1 (h.action t ht)
  obtain ⟨target, htarget, hsameTarget⟩ := optional_same TargetRef.toDict _ hd hl m.target
    (fun t _ => List.cons_ne_nil _ _) fun t ht b hb => TargetRef.reads ((Json.lawful_obj b).mp hb).1 (h.target t ht)
  obtain ⟨correlation, hcorrelation, hsameCorrelation⟩ := correlation_same hd hl m.correlation h.correlation
  obtain ⟨items, hitems, hsameItems, hlawfulItems⟩ := list_same hd hl ht m.violations
  obtain ⟨violations, hviolations, hsameViolations⟩ := mapM_violations h.violations hsameItems hlawfulItems
  obtain ⟨details, hdetails, hsameDetails⟩ := optionalDict_same hd hu m.details
  obtain ⟨extensions, hextensions, hsameExtensions⟩ := optionalDict_same hd hu m.extensions
  refine ⟨⟨r.refusalId, r.category, r.reasonCode, r.message, r.retryable, r.refusedAt, Dict.get d "intent_id",
    tenant, subject, audience, action, target, correlation, r.ruleRefs, violations, details, extensions⟩, ?_, ?_⟩
  · unfold RefusalRecord.fromDict
    simp only [expectMapping_obj, Fallible.ok_bind, hcontract, hdeclares, texts_same hd hl ht m.ruleRefs, hitems,
      expectList, hcode, get_text hd hu m.refusalId, expectString_str h.refusalId, get_text hd hu m.category,
      expectString_str h.category, expectString_str h.reasonCode, get_text hd hu m.message, expectString_str h.message,
      hretryable, expectBool, get_text hd hu m.refusedAt, parseTimestamp_formatTimestamp, htenant, hsubject, haudience,
      haction, htarget, hcorrelation, mapM_texts h.ruleRefs, hviolations, hdetails, hextensions]
    rfl
  · exact ⟨rfl, rfl, rfl, rfl, rfl, rfl, get_value hd hu m.intentId, hsameTenant, hsameSubject, hsameAudience,
      hsameAction, hsameTarget, hsameCorrelation, rfl, hsameViolations, hsameDetails, hsameExtensions⟩

end Actenon
