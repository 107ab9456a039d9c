import ActenonKernel.Models.Timestamp

/-!
# Intents and proofs (`actenon/models/contracts.py`)

The reference types, `ActionIntent` and `PCCB` with their `from_dict` and `to_dict`.  A member
that the source keeps without a check (`data.get(..)`) is a `Json`, `None` being `Json.null`.

* `ActionIntent.fromDict`, `PCCB.fromDict`    parsing, with the errors in the source's order;
* `PCCB.unsignedPayload`    what is signed;
* `PCCB.Same`       the same value in every field but the signature.
-/

set_option linter.unusedSectionVars false

namespace Actenon

/-! ## checks -/

def expectMapping (raw : Json) (fieldName : String) : Except PyError Dict :=
  match raw with
  | .obj kvs => .ok kvs
  | _ => valueError s!"{fieldName} must be an object"

def expectString (raw : Json) (fieldName : String) : Except PyError String :=
  match raw with
  | .str s => if s = "" then valueError s!"{fieldName} must be a non-empty string" else .ok s
  | _ => valueError s!"{fieldName} must be a non-empty string"

def expectBool (raw : Json) (fieldName : String) : Except PyError Bool :=
  match raw with
  | .bool b => .ok b
  | _ => valueError s!"{fieldName} must be a boolean"

/-- `dict(data.get(name, {}))` -/
def optionalDict (data : Dict) (name : String) : Except PyError Dict :=
  pyDict (Dict.getD data name (.obj []))

/-! ## members that are left out -/

/-- the member of a value that is not `None` -/
def optMember (name : String) : Json → Dict
  | .null => []
  | v => [(.str name, v)]

/-- the member of a dictionary that is not empty -/
def dictMember (name : String) (d : Dict) : Dict :=
  if d.isEmpty then [] else [(.str name, .obj d)]

/-- the member of a list that is not empty -/
def listMember (name : String) (xs : List Json) : Dict :=
  if xs.isEmpty then [] else [(.str name, .arr xs)]

/-! ## references -/

structure TenantRef where
  tenantId : String
  attributes : Dict := []

def TenantRef.fromDict (raw : Json) : Except PyError TenantRef := do
  let data ← expectMapping raw "tenant"
  let tenantId ← expectString (Dict.get data "tenant_id") "tenant.tenant_id"
  let attributes ← optionalDict data "attributes"
  return ⟨tenantId, attributes⟩

def TenantRef.toDict (t : TenantRef) : Dict :=
  members [("tenant_id", .str t.tenantId)] ++ dictMember "attributes" t.attributes

structure PartyRef where
  type : String
  id : String
  displayName : Json := .null
  attributes : Dict := []

def PartyRef.fromDict (raw : Json) (fieldName : String) : Except PyError PartyRef := do
  let data ← expectMapping raw fieldName
  let type ← expectString (Dict.get data "type") s!"{fieldName}.type"
  let id ← expectString (Dict.get data "id") s!"{fieldName}.id"
  let attributes ← optionalDict data "attributes"
  return ⟨type, id, Dict.get data "display_name", attributes⟩

def PartyRef.toDict (p : PartyRef) : Dict :=
  members [("type", .str p.type), ("id", .str p.id)] ++ optMember "display_name" p.displayName
    ++ dictMember "attributes" p.attributes

structure AudienceRef where
  type : String
  id : String
  uri : Json := .null

def AudienceRef.fromDict (raw : Json) (fieldName : String := "audience") :
    Except PyError AudienceRef := do
  let data ← expectMapping raw fieldName
  let type ← expectString (Dict.get data "type") s!"{fieldName}.type"
  let id ← expectString (Dict.get data "id") s!"{fieldName}.id"
  return ⟨type, id, Dict.get data "uri"⟩

def AudienceRef.toDict (a : AudienceRef) : Dict :=
  members [("type", .str a.type), ("id", .str a.id)] ++ optMember "uri" a.uri

structure ActionSpec where
  name : String
  capability : String
  parameters : Dict
  constraints : Dict := []
  scope : Dict := []

def ActionSpec.fromDict (raw : Json) : Except PyError ActionSpec := do
  let data ← expectMapping raw "action"
  let name ← expectString (Dict.get data "name") "action.name"
  let capability ← expectString (Dict.get data "capability") "action.capability"
  let parameters ← expectMapping (Dict.get data "parameters") "action.parameters"
  let constraints ← optionalDict data "constraints"
  let scope ← optionalDict data "scope"
  return ⟨name, capability, parameters, constraints, scope⟩

def ActionSpec.toDict (a : ActionSpec) : Dict :=
  members [("name", .str a.name), ("capability", .str a.capability), ("parameters", .obj a.parameters)]
    ++ dictMember "constraints" a.constraints ++ dictMember "scope" a.scope

structure TargetRef where
  resourceType : String
  resourceId : String
  uri : Json := .null
  selectors : Dict := []

def TargetRef.fromDict (raw : Json) : Except PyError TargetRef := do
  let data ← expectMapping raw "target"
  let resourceType ← expectString (Dict.get data "resource_type") "target.resource_type"
  let resourceId ← expectString (Dict.get data "resource_id") "target.resource_id"
  let selectors ← optionalDict data "selectors"
  return ⟨resourceType, resourceId, Dict.get data "uri", selectors⟩

def TargetRef.toDict (t : TargetRef) : Dict :=
  members [("resource_type", .str t.resourceType), ("resource_id", .str t.resourceId)]
    ++ optMember "uri" t.uri ++ dictMember "selectors" t.selectors

structure EvidenceRef where
  type : String
  value : String
  digest : Dict := []

def EvidenceRef.fromDict (raw : Json) : Except PyError EvidenceRef := do
  let data ← expectMapping raw "evidence_ref"
  let type ← expectString (Dict.get data "type") "evidence_ref.type"
  let value ← expectString (Dict.get data "value") "evidence_ref.value"
  let digest ← optionalDict data "digest"
  return ⟨type, value, digest⟩

structure ScopeSpec where
  mode : String
  capabilities : List String
  singleUse : Bool
  resourceSelectors : List Dict := []
  parameterConstraints : Dict := []

/-- `dict(expect_mapping(item, "scope.resource_selectors[]"))` -/
def selectorOf (item : Json) : Except PyError Dict := expectMapping item "scope.resource_selectors[]"

def ScopeSpec.fromDict (raw : Json) : Except PyError ScopeSpec := do
  let data ← expectMapping raw "scope"
  let rawCapabilities ←
    match Dict.get data "capabilities" with
    | .arr (c :: cs) => .ok (c :: cs)
    | _ => valueError "scope.capabilities must be a non-empty array"
  let capabilities ← rawCapabilities.mapM fun item => expectString item "scope.capabilities[]"
  let rawSelectors ← (Dict.getD data "resource_selectors" (.arr [])).iterate
  let selectors ← rawSelectors.mapM selectorOf
  let mode ← expectString (Dict.get data "mode") "scope.mode"
  let singleUse ← expectBool (Dict.get data "single_use") "scope.single_use"
  let parameterConstraints ← optionalDict data "parameter_constraints"
  return ⟨mode, capabilities, singleUse, selectors, parameterConstraints⟩

def ScopeSpec.toDict (s : ScopeSpec) : Dict :=
  members [("mode", .str s.mode), ("capabilities", .arr (s.capabilities.map .str)),
      ("single_use", .bool s.singleUse)]
    ++ listMember "resource_selectors" (s.resourceSelectors.map .obj)
    ++ dictMember "parameter_constraints" s.parameterConstraints

/-- `ActionHashSpec` and `DigestSpec`, which differ in the default name of the field only -/
structure DigestSpec where
  algorithm : String
  canonicalization : String
  value : String
deriving DecidableEq, Repr

abbrev ActionHashSpec := DigestSpec

def DigestSpec.fromDict (raw : Json) (fieldName : String := "artifact_digest") :
    Except PyError DigestSpec := do
  let data ← expectMapping raw fieldName
  let algorithm ← expectString (Dict.get data "algorithm") s!"{fieldName}.algorithm"
  let canonicalization ← expectString (Dict.get data "canonicalization") s!"{fieldName}.canonicalization"
  let value ← expectString (Dict.get data "value") s!"{fieldName}.value"
  return ⟨algorithm, canonicalization, value⟩

def ActionHashSpec.fromDict (raw : Json) (fieldName : String := "action_hash") :
    Except PyError ActionHashSpec := DigestSpec.fromDict raw fieldName

def DigestSpec.toDict (d : DigestSpec) : Dict :=
  members [("algorithm", .str d.algorithm), ("canonicalization", .str d.canonicalization),
    ("value", .str d.value)]

structure SignatureSpec where
  algorithm : String
  keyId : String
  encoding : String
  value : String
deriving DecidableEq, Repr

def SignatureSpec.fromDict (raw : Json) : Except PyError SignatureSpec := do
  let data ← expectMapping raw "signature"
  let algorithm ← expectString (Dict.get data "algorithm") "signature.algorithm"
  let keyId ← expectString (Dict.get data "key_id") "signature.key_id"
  let encoding ← expectString (Dict.get data "encoding") "signature.encoding"
  let value ← expectString (Dict.get data "value") "signature.value"
  return ⟨algorithm, keyId, encoding, value⟩

def SignatureSpec.toDict (s : SignatureSpec) : Dict :=
  members [("algorithm", .str s.algorithm), ("key_id", .str s.keyId),
    ("encoding", .str s.encoding), ("value", .str s.value)]

/-! ## intent -/

structure ActionIntent where
  intentId : String
  issuedAt : Datetime
  expiresAt : Datetime
  tenant : TenantRef
  requester : PartyRef
  action : ActionSpec
  target : TargetRef
  idempotencyKey : Json := .null
  justification : Json := .null
  context : Dict := []
  evidenceRefs : List EvidenceRef := []
  metadata : Dict := []
  extensions : Dict := []

/-- `contract.get("name") != name or contract.get("version") != version` is not met -/
def declares (contract : Dict) (name version : String) : Bool :=
  match Dict.get contract "name", Dict.get contract "version" with
  | .str n, .str v => n = name ∧ v = version
  | _, _ => false

def ActionIntent.fromDict (raw : Json) : Except PyError ActionIntent := do
  let data ← expectMapping raw "action_intent"
  let contract ← expectMapping (Dict.get data "contract") "contract"
  if !declares contract "action_intent" "v1" then
    valueError "contract must declare action_intent v1"
  let rawEvidence ← (Dict.getD data "evidence_refs" (.arr [])).iterate
  let evidenceRefs ← rawEvidence.mapM EvidenceRef.fromDict
  let intentId ← expectString (Dict.get data "intent_id") "intent_id"
  let issuedAt ← parseTimestamp (Dict.get data "issued_at") "issued_at"
  let expiresAt ← parseTimestamp (Dict.get data "expires_at") "expires_at"
  let tenant ← TenantRef.fromDict (Dict.get data "tenant")
  let requester ← PartyRef.fromDict (Dict.get data "requester") "requester"
  let action ← ActionSpec.fromDict (Dict.get data "action")
  let target ← TargetRef.fromDict (Dict.get data "target")
  let context ← optionalDict data "context"
  let metadata ← optionalDict data "metadata"
  let extensions ← optionalDict data "extensions"
  return ⟨intentId, issuedAt, expiresAt, tenant, requester, action, target,
    Dict.get data "idempotency_key", Dict.get data "justification", context, evidenceRefs, metadata,
    extensions⟩

/-! ## proof -/

structure PCCB where
  pccbId : String
  issuedAt : Datetime
  notBefore : Datetime
  expiresAt : Datetime
  issuer : PartyRef
  subject : PartyRef
  tenant : TenantRef
  audience : AudienceRef
  action : ActionSpec
  target : TargetRef
  scope : ScopeSpec
  nonce : String
  actionHash : ActionHashSpec
  signature : SignatureSpec
  intentId : Json := .null
  escrowId : Json := .null
  extensions : Dict := []

def PCCB.fromDict (raw : Json) : Except PyError PCCB := do
  let data ← expectMapping raw "pccb"
  let contract ← expectMapping (Dict.get data "contract") "contract"
  if !declares contract "pccb" "v1" then valueError "contract must declare pccb v1"
  let escrowReference :=
    if (Dict.get data "escrow_reference").truthy then Dict.get data "escrow_reference" else .obj []
  let pccbId ← expectString (Dict.get data "pccb_id") "pccb_id"
  let issuedAt ← parseTimestamp (Dict.get data "issued_at") "issued_at"
  let notBefore ← parseTimestamp (Dict.get data "not_before") "not_before"
  let expiresAt ← parseTimestamp (Dict.get data "expires_at") "expires_at"
  let issuer ← PartyRef.fromDict (Dict.get data "issuer") "issuer"
  let subject ← PartyRef.fromDict (Dict.get data "subject") "subject"
  let tenant ← TenantRef.fromDict (Dict.get data "tenant")
  let audience ← AudienceRef.fromDict (Dict.get data "audience")
  let action ← ActionSpec.fromDict (Dict.get data "action")
  let target ← TargetRef.fromDict (Dict.get data "target")
  let scope ← ScopeSpec.fromDict (Dict.get data "scope")
  let nonce ← expectString (Dict.get data "nonce") "nonce"
  let actionHash ← ActionHashSpec.fromDict (Dict.get data "action_hash")
  let signature ← SignatureSpec.fromDict (Dict.get data "signature")
  let escrowId ← escrowReference.getAttr "escrow_id"
  let extensions ← optionalDict data "extensions"
  return ⟨pccbId, issuedAt, notBefore, expiresAt, issuer, subject, tenant, audience, action, target,
    scope, nonce, actionHash, signature, Dict.get data "intent_id", escrowId, extensions⟩

/-- `{"escrow_id": self.escrow_id, "single_use": self.scope.single_use}` when there is an escrow -/
def PCCB.escrowReference (p : PCCB) : Json :=
  match p.escrowId with
  | .null => .null
  | e => .obj (members [("escrow_id", e), ("single_use", .bool p.scope.singleUse)])

def PCCB.unsignedPayload (p : PCCB) : Dict :=
  members [("contract", .obj (members [("name", .str "pccb"), ("version", .str "v1")])),
      ("pccb_id", .str p.pccbId), ("issued_at", .str (formatTimestamp p.issuedAt)),
      ("not_before", .str (formatTimestamp p.notBefore)),
      ("expires_at", .str (formatTimestamp p.expiresAt)), ("issuer", .obj p.issuer.toDict),
      ("subject", .obj p.subject.toDict), ("tenant", .obj p.tenant.toDict),
      ("audience", .obj p.audience.toDict), ("action", .obj p.action.toDict),
      ("target", .obj p.target.toDict), ("scope", .obj p.scope.toDict), ("nonce", .str p.nonce),
      ("action_hash", .obj p.actionHash.toDict)]
    ++ optMember "intent_id" p.intentId ++ optMember "escrow_reference" p.escrowReference
    ++ dictMember "extensions" p.extensions

/-! ## a sample -/

/-- 2025-01-01T00:00:00Z -/
def sampleIssued : Datetime := ⟨63871286400000000, by decide⟩

/-- 2025-01-01T01:00:00Z -/
def sampleExpiry : Datetime := ⟨63871290000000000, by decide⟩

def sampleIntent : ActionIntent where
  intentId := "int_1"
  issuedAt := sampleIssued
  expiresAt := sampleExpiry
  tenant := ⟨"t1", []⟩
  requester := ⟨"service", "svc", .null, []⟩
  action := ⟨"repo.read", "repo.read", members [("n", .int 1)], [], []⟩
  target := ⟨"repo", "r1", .null, []⟩

/-- the proof minted for the sample intent -/
def samplePccb : PCCB where
  pccbId := "pccb_1"
  issuedAt := sampleIssued
  notBefore := sampleIssued
  expiresAt := sampleExpiry
  issuer := ⟨"issuer", "iss", .null, []⟩
  subject := sampleIntent.requester
  tenant := sampleIntent.tenant
  audience := ⟨"service", "aud", .null⟩
  action := sampleIntent.action
  target := sampleIntent.target
  scope := ⟨"exact", ["repo.read"], true, [], []⟩
  nonce := "n1"
  actionHash := ⟨"sha-256", "ACTENON-JCS-STRICT-1",
    "3a2b61b7f1b82c2985227172e3f228bf99581f3476060a0c45b28cb27f0eb388"⟩
  signature := ⟨"HS256", "k1", "base64url", "c2ln"⟩
  intentId := .str "int_1"

end Actenon
