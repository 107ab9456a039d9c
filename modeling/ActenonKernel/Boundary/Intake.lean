import ActenonKernel.Boundary.Verifier

/-!
# An intent through `to_dict` and the intake (`actenon/models/contracts.py`, `actenon/api/intake.py`)

* `ActionIntent.Readable`           no required text is empty;
* `ActionIntent.fromDict_toDict`    the intent comes back as it was;
* `parse_toDict`                    and the intake accepts it, with a window and a parameter.
-/

set_option linter.unusedSectionVars false

namespace Actenon

def EvidenceRef.Readable (e : EvidenceRef) : Prop := e.type ≠ "" ∧ e.value ≠ ""

/-- no text that `ActionIntent.from_dict` requires is empty -/
structure ActionIntent.Readable (i : ActionIntent) : Prop where
  intentId : i.intentId ≠ ""
  tenant : i.tenant.Readable
  requester : i.requester.Readable
  action : i.action.Readable
  target : i.target.Readable
  evidenceRefs : ∀ e ∈ i.evidenceRefs, e.Readable

theorem EvidenceRef.fromDict_toDict {e : EvidenceRef} (h : e.Readable) :
    EvidenceRef.fromDict (.obj e.toDict) = .ok e := by
  have hdigest : optionalDict e.toDict "digest" = .ok e.digest := by
    apply optionalDict_of_find
    simp [EvidenceRef.toDict, Dict.find_append, find_members_cons, find_members_nil, find_dictMember]
  have hget : Dict.get e.toDict "type" = .str e.type ∧ Dict.get e.toDict "value" = .str e.value := by
    simp [Dict.get, EvidenceRef.toDict, Dict.find_append, find_members_cons]
  unfold EvidenceRef.fromDict
  rw [expectMapping_obj, Fallible.ok_bind, hget.1, expectString_str h.1, Fallible.ok_bind, hget.2,
    expectString_str h.2, Fallible.ok_bind, hdigest]
  rfl

theorem mapM_evidenceRef {refs : List EvidenceRef} (h : ∀ e ∈ refs, e.Readable) :
    (refs.map fun e => Json.obj e.toDict).mapM EvidenceRef.fromDict = .ok refs := by
  rw [Fallible.mapM_eq_ok, List.forall₂_map_left_iff, List.forall₂_same]
  exact fun e he => EvidenceRef.fromDict_toDict (h e he)

/-- the members of a written intent -/
structure ActionIntent.Members (i : ActionIntent) (d : Dict) : Prop where
  contract : Dict.get d "contract" = .obj (members [("name", .str "action_intent"), ("version", .str "v1")])
  intentId : Dict.get d "intent_id" = .str i.intentId
  issuedAt : Dict.get d "issued_at" = .str (formatTimestamp i.issuedAt)
  expiresAt : Dict.get d "expires_at" = .str (formatTimestamp i.expiresAt)
  tenant : Dict.get d "tenant" = .obj i.tenant.toDict
  requester : Dict.get d "requester" = .obj i.requester.toDict
  action : Dict.get d "action" = .obj i.action.toDict
  target : Dict.get d "target" = .obj i.target.toDict
  idempotencyKey : Dict.get d "idempotency_key" = i.idempotencyKey
  justification : Dict.get d "justification" = i.justification
  evidenceRefs : Dict.find d (.str "evidence_refs")
    = (listValue (i.evidenceRefs.map fun e => .obj e.toDict)).present?
  context : Dict.find d (.str "context") = (dictValue i.context).present?
  metadata : Dict.find d (.str "metadata") = (dictValue i.metadata).present?
  extensions : Dict.find d (.str "extensions") = (dictValue i.extensions).present?

theorem ActionIntent.members_toDict (i : ActionIntent) : i.Members i.toDict := by
  constructor <;>
    simp only [Dict.get, ActionIntent.toDict, Dict.find_append, find_members_cons, find_members_nil,
      find_optMember, find_dictMember, find_listMember, String.reduceEq, if_true, if_false, Option.or_none,
      Option.none_or, Option.getD_some, Json.present?_getD]

/-- **An intent comes back from `to_dict` as it was.** -/
theorem ActionIntent.fromDict_toDict {i : ActionIntent} (h : i.Readable) :
    ActionIntent.fromDict (.obj i.toDict) = .ok i := by
  have m := i.members_toDict
  have hcontract : declares (members [("name", .str "action_intent"), ("version", .str "v1")]) "action_intent" "v1"
      = true := by
    decide
  have hevidence : Dict.getD i.toDict "evidence_refs" (.arr []) = .arr (i.evidenceRefs.map fun e => .obj e.toDict) := by
    unfold Dict.getD
    rw [m.evidenceRefs, listValue_getD]
  have hitems : ∀ xs : List Json, (Json.arr xs).iterate = .ok xs := fun _ => rfl
  unfold ActionIntent.fromDict
  simp only [expectMapping_obj, Fallible.ok_bind, m.contract, m.intentId, m.issuedAt, m.expiresAt, m.tenant,
    m.requester, m.action, m.target, m.idempotencyKey, m.justification, hcontract, hevidence, hitems,
    mapM_evidenceRef h.evidenceRefs, optionalDict_of_find m.context, optionalDict_of_find m.metadata,
    optionalDict_of_find m.extensions, expectString_str h.intentId, parseTimestamp_formatTimestamp,
    TenantRef.fromDict_toDict h.tenant, PartyRef.fromDict_toDict h.requester,
    ActionSpec.fromDict_toDict h.action, TargetRef.fromDict_toDict h.target]
  rfl

/-- the intake accepts a written intent that has a window and a parameter -/
theorem parse_toDict {i : ActionIntent} (h : i.Readable) (hwindow : i.issuedAt < i.expiresAt)
    (hparameters : i.action.parameters ≠ []) : ActionIntentIntakeService.parse (.obj i.toDict) = .ok i := by
  have hnone : intakeViolations i = [] := by
    unfold intakeViolations
    rw [if_neg (Datetime.not_le.mpr hwindow), if_neg (by simpa using hparameters)]
    rfl
  unfold ActionIntentIntakeService.parse
  rw [ActionIntent.fromDict_toDict h]
  dsimp only
  rw [hnone]
  rfl

end Actenon
