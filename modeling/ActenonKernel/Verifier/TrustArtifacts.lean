import ActenonKernel.Verifier.KeySet
import ActenonKernel.Proof.Service

/-!
# Trust artifacts (`actenon/verifier/countersignature.py`, `actenon/verifier/trust_artifacts.py`)

Offline verification of receipt counter-signatures, issuer-status artifacts and approval artifacts.
Each is parsed member by member, a key of the pinned set is selected, and the signature is checked on
the canonical bytes of a statement that starts with a context.

* `verifyCountersignature`, `verifyIssuerStatus`, `verifyApprovalArtifact`;
* `countersignatureStatement`, `issuerStatusStatement`, `approvalStatement`    what is signed;
* `verifyCountersignature_ok`, ...    what an accepted artifact went through.
-/

set_option linter.unusedSectionVars false

namespace Actenon

/-! ## counter-signatures -/

/-- `_parse_digest` of `countersignature.py` -/
def parseReceiptDigest (P : Platform) (value : Json) (fieldName : String) : LogM DigestSpec := do
  let data ← requireMapping value fieldName "INVALID_COUNTERSIGNATURE"
  let algorithm ← requireString (Dict.get data "algorithm") s!"{fieldName}.algorithm"
    "INVALID_COUNTERSIGNATURE"
  let canonicalization ← requireString (Dict.get data "canonicalization")
    s!"{fieldName}.canonicalization" "INVALID_COUNTERSIGNATURE"
  let digestValue ← requireString (Dict.get data "value") s!"{fieldName}.value"
    "INVALID_COUNTERSIGNATURE"
  raiseIf (¬ (algorithm = "sha-256" ∧ canonicalization ∈ P.acceptedProfiles ∧ (hex256 digestValue).isSome))
    "INVALID_RECEIPT_DIGEST"
    "receipt digest must declare sha-256, a known canonicalization profile, and a lowercase 64-character hex value"
  return ⟨algorithm, canonicalization, digestValue⟩

/-- `{"algorithm", "canonicalization", "value"}.issubset(data)` -/
def hasDigestMembers (data : Dict) : Bool :=
  (Dict.find data (.str "algorithm")).isSome && (Dict.find data (.str "canonicalization")).isSome
    && (Dict.find data (.str "value")).isSome

/-- `isinstance(contract, Mapping)` and a `receipt` `v1` contract -/
def isReceiptContract (contract : Json) : Bool :=
  match contract with
  | .obj c => declares c "receipt" "v1"
  | _ => false

/-- the value of the digest `_resolve_receipt_digest` returns, which is all that is compared of it; a
`DigestSpec` or a receipt object stands for its `to_dict()` -/
def resolveReceiptDigest (P : Platform) (receiptOrDigest : Json) : LogM String := do
  let data ← requireMapping receiptOrDigest "receipt_or_digest" "INVALID_COUNTERSIGNATURE"
  if hasDigestMembers data then do
    let digest ← parseReceiptDigest P (.obj data) "receipt_or_digest"
    return digest.value
  else do
    raiseIf (¬ isReceiptContract (Dict.get data "contract")) "INVALID_RECEIPT_DIGEST"
      "receipt_or_digest must be a Receipt v1 artifact or a complete digest object"
    match sha256Hex P (.obj data) with
    | .ok value => .ok value
    | .error e =>
      if e.kind = .typeError ∨ e.kind = .valueError then
        logError "INVALID_RECEIPT_DIGEST" "receipt could not be canonicalized for digest verification"
      else .error (.other e)

def countersignatureStatement (receiptDigest : DigestSpec) (witness : PartyRef) (signedAtRaw : String)
    (anchorReference : Option Dict) : Dict :=
  members [("context", .str "actenon.receipt-countersignature.v1"),
      ("receipt_digest", .obj receiptDigest.toDict), ("witness", .obj witness.toDict),
      ("signed_at", .str signedAtRaw)]
    ++ (match anchorReference with
      | none => []
      | some anchor => [(.str "anchor_reference", .obj anchor)])

/-- `_select_trusted_key` -/
def countersignatureKeyRules : KeyRules where
  shapeCode := "INVALID_COUNTERSIGNATURE"
  issuerMessage := "trusted key set issuer is invalid"
  mismatchCode := "WITNESS_MISMATCH"
  mismatchMessage := "counter-signature witness does not match the trusted key-set issuer"
  unknownMessage := "no trusted counter-signing key matched key_id "
  algorithmMessage := "trusted key algorithm does not match the counter-signature"
  use := "receipt_countersignature"
  purposeMessage := "trusted key is not authorized for receipt counter-signatures"
  statusMessage := "trusted counter-signing key is not active or retired"
  notBeforeMessage := "trusted counter-signing key was not valid at signing time"
  expiresMessage := "trusted counter-signing key was expired at signing time"
  revokedMessage := "trusted counter-signing key was revoked at signing time"
  textBounds := false

def countersignatureRules : Ed25519Rules where
  unsupportedMessage :=
    "receipt counter-signature v1 verification supports EdDSA/Ed25519 with base64url encoding"
  shapeCode := "INVALID_COUNTERSIGNATURE"
  jwkMessage := "counter-signing key must be an Ed25519 OKP JWK matching signature.key_id"
  signatureField := "signature.value"
  signatureCode := "INVALID_COUNTERSIGNATURE"
  lengthMessage := "counter-signature key or signature has an invalid Ed25519 length"
  invalidMessage := "receipt counter-signature could not be verified"

structure VerifiedCounterSignature where
  receiptDigest : DigestSpec
  witness : PartyRef
  signedAt : Datetime
  keyId : String
  anchorReference : Option Dict := none

/-- a member that may be left out, and has to be an object otherwise -/
def optionalMapping (value : Json) (fieldName code : String) : LogM (Option Dict) :=
  match value with
  | .null => .ok none
  | v => (requireMapping v fieldName code).map some

def verifyCountersignature (P : Platform) (receiptOrDigest countersignature trustedKeys : Json) :
    LogM VerifiedCounterSignature := do
  let expectedDigest ← resolveReceiptDigest P receiptOrDigest
  let artifact ← requireMapping countersignature "countersignature" "INVALID_COUNTERSIGNATURE"
  let contract ← requireMapping (Dict.get artifact "contract") "countersignature.contract"
    "INVALID_COUNTERSIGNATURE"
  raiseIf (¬ contractIs contract "receipt_countersignature" "v1") "INVALID_COUNTERSIGNATURE"
    "contract must declare receipt_countersignature v1"
  let observedDigest ← parseReceiptDigest P (Dict.get artifact "receipt_digest")
    "countersignature.receipt_digest"
  raiseIf (observedDigest.value ≠ expectedDigest) "RECEIPT_DIGEST_MISMATCH"
    "counter-signature receipt digest does not match the supplied receipt or digest"
  let witness ← orLogError (PartyRef.fromDict (Dict.get artifact "witness") "countersignature.witness")
    "INVALID_COUNTERSIGNATURE" "counter-signature witness or signature is invalid"
  let signature ← orLogError (SignatureSpec.fromDict (Dict.get artifact "signature"))
    "INVALID_COUNTERSIGNATURE" "counter-signature witness or signature is invalid"
  let signedAtRaw ← requireString (Dict.get artifact "signed_at") "countersignature.signed_at"
    "INVALID_COUNTERSIGNATURE"
  let signedAt ← orLogError (parseTimestamp (.str signedAtRaw) "countersignature.signed_at")
    "INVALID_COUNTERSIGNATURE" "countersignature.signed_at must be an RFC3339 timestamp"
  let anchorReference ← optionalMapping (Dict.get artifact "anchor_reference")
    "countersignature.anchor_reference" "INVALID_COUNTERSIGNATURE"
  let keySet ← requireMapping trustedKeys "trusted_keys" "INVALID_COUNTERSIGNATURE"
  let key ← selectKeyWith P countersignatureKeyRules keySet witness signature signedAt
  verifyEd25519With P countersignatureRules
    (countersignatureStatement observedDigest witness signedAtRaw anchorReference) signature key
  return ⟨observedDigest, witness, signedAt, signature.keyId, anchorReference⟩

/-! ## the helpers of `trust_artifacts.py` -/

def parseTimestampText (value : Json) (fieldName code : String) : LogM (String × Datetime) := do
  let raw ← requireString value fieldName code
  let t ← orLogError (parseTimestamp (.str raw) fieldName) code s!"{fieldName} must be an RFC3339 timestamp"
  return (raw, t)

def parseParty (value : Json) (fieldName code : String) : LogM PartyRef :=
  orLogError (PartyRef.fromDict value fieldName) code s!"{fieldName} must identify a party"

def parseSignature (value : Json) (fieldName code : String) : LogM SignatureSpec :=
  orLogError (SignatureSpec.fromDict value) code s!"{fieldName} is invalid"

/-- `_select_key` for one use -/
def trustKeyRules (requiredUse : String) : KeyRules where
  shapeCode := "TRUSTED_KEYS_INVALID"
  issuerMessage := "trusted_keys.issuer must identify a party"
  mismatchCode := "SIGNER_MISMATCH"
  mismatchMessage := "artifact signer does not match the trusted key-set issuer"
  unknownMessage := "no trusted key matched key_id "
  algorithmMessage := "trusted key algorithm does not match the artifact signature"
  use := requiredUse
  purposeMessage := "trusted key is not authorized for " ++ requiredUse
  statusMessage := "trusted key is not active or retired"
  notBeforeMessage := "trusted key was not valid at signing time"
  expiresMessage := "trusted key was expired at signing time"
  revokedMessage := "trusted key was revoked at signing time"
  textBounds := true

def selectKey (P : Platform) (trustedKeys : Json) (signer : PartyRef) (signature : SignatureSpec)
    (signedAt : Datetime) (requiredUse : String) : LogM Dict := do
  let keySet ← requireMapping trustedKeys "trusted_keys" "TRUSTED_KEYS_INVALID"
  selectKeyWith P (trustKeyRules requiredUse) keySet signer signature signedAt

def trustRules : Ed25519Rules where
  unsupportedMessage := "trust artifact v1 supports EdDSA/Ed25519 with base64url encoding"
  shapeCode := "TRUSTED_KEYS_INVALID"
  jwkMessage := "trusted key must be an Ed25519 OKP JWK matching signature.key_id"
  signatureField := "signature.value"
  signatureCode := "SIGNATURE_INVALID"
  lengthMessage := "trusted key or signature has an invalid Ed25519 length"
  invalidMessage := "artifact signature could not be verified"

/-! ## issuer status -/

structure VerifiedIssuerStatus where
  issuer : PartyRef
  authority : PartyRef
  status : String
  issuedAt : Datetime
  expiresAt : Datetime
  keyId : String
  statusReference : Option String := none

/-- the issuer an artifact is checked for: a `PartyRef` or a document -/
inductive IssuerArg where
  | party (p : PartyRef)
  | document (j : Json)

def resolveIssuer : IssuerArg → LogM PartyRef
  | .party p => .ok p
  | .document j => parseParty j "issuer" "INVALID_ISSUER_STATUS"

/-- a member that may be left out, and has to be a non-empty string otherwise -/
def optionalString (value : Json) (fieldName code : String) : LogM (Option String) :=
  match value with
  | .null => .ok none
  | v => (requireString v fieldName code).map some

/-- `timedelta(microseconds=us).total_seconds() > n`: the seconds are the nearest double, and next to
`n` doubles are `2^(log2 n - 52)` apart, with the halfway case going to `n` -/
def secondsExceed (us n : Nat) : Bool := 2 ^ Nat.log2 n * 1000000 < (us - n * 1000000) * 2 ^ 53

def issuerStatusStatement (issuer authority : PartyRef) (status issuedAtRaw expiresAtRaw : String)
    (statusReference : Option String) : Dict :=
  members [("context", .str "actenon.issuer-status.v1"), ("issuer", .obj issuer.toDict),
      ("authority", .obj authority.toDict), ("status", .str status), ("issued_at", .str issuedAtRaw),
      ("expires_at", .str expiresAtRaw)]
    ++ (match statusReference with
      | none => []
      | some r => [(.str "status_reference", .str r)])

/-- `verify_issuer_status` after its policy checks -/
def checkIssuerStatus (P : Platform) (issuer : IssuerArg) (statusArtifact trustedKeys : Json)
    (now : Datetime) (maxAgeSeconds : Nat) : LogM VerifiedIssuerStatus := do
  let expectedIssuer ← resolveIssuer issuer
  let artifact ← requireMapping statusArtifact "status_artifact" "INVALID_ISSUER_STATUS"
  let contract ← requireMapping (Dict.get artifact "contract") "status_artifact.contract"
    "INVALID_ISSUER_STATUS"
  raiseIf (¬ contractIs contract "issuer_status" "v1") "INVALID_ISSUER_STATUS"
    "contract must declare issuer_status v1"
  let observedIssuer ← parseParty (Dict.get artifact "issuer") "status_artifact.issuer"
    "INVALID_ISSUER_STATUS"
  raiseIf (¬ (observedIssuer.type = expectedIssuer.type ∧ observedIssuer.id = expectedIssuer.id))
    "ISSUER_MISMATCH" "issuer-status artifact does not describe the expected issuer"
  let authority ← parseParty (Dict.get artifact "authority") "status_artifact.authority"
    "INVALID_ISSUER_STATUS"
  let status ← requireString (Dict.get artifact "status") "status_artifact.status"
    "INVALID_ISSUER_STATUS"
  raiseIf (status ∉ ["good_standing", "suspended", "revoked"]) "INVALID_ISSUER_STATUS"
    "issuer status must be good_standing, suspended, or revoked"
  let (issuedAtRaw, issuedAt) ← parseTimestampText (Dict.get artifact "issued_at")
    "status_artifact.issued_at" "INVALID_ISSUER_STATUS"
  let (expiresAtRaw, expiresAt) ← parseTimestampText (Dict.get artifact "expires_at")
    "status_artifact.expires_at" "INVALID_ISSUER_STATUS"
  raiseIf (expiresAt ≤ issuedAt) "INVALID_ISSUER_STATUS" "issuer-status expiry must be after issuance"
  raiseIf (now < issuedAt) "ISSUER_STATUS_NOT_YET_VALID" "issuer status is not yet valid"
  raiseIf (expiresAt ≤ now) "ISSUER_STATUS_EXPIRED" "issuer status has expired"
  raiseIf (secondsExceed (now.us - issuedAt.us) maxAgeSeconds) "ISSUER_STATUS_STALE"
    "issuer status exceeds the configured freshness window"
  let statusReference ← optionalString (Dict.get artifact "status_reference")
    "status_artifact.status_reference" "INVALID_ISSUER_STATUS"
  let signature ← parseSignature (Dict.get artifact "signature") "status_artifact.signature"
    "INVALID_ISSUER_STATUS"
  let key ← selectKey P trustedKeys authority signature issuedAt "issuer_status"
  verifyEd25519With P trustRules
    (issuerStatusStatement observedIssuer authority status issuedAtRaw expiresAtRaw statusReference)
    signature key
  raiseIf (status = "revoked") "ISSUER_REVOKED" "issuer status is revoked"
  raiseIf (status = "suspended") "ISSUER_SUSPENDED" "issuer status is suspended"
  return ⟨observedIssuer, authority, status, issuedAt, expiresAt, signature.keyId, statusReference⟩

/-- an artifact or a key set of `None` is `Json.null` -/
def verifyIssuerStatus (P : Platform) (issuer : IssuerArg) (statusArtifact trustedKeys : Json)
    (now : Datetime) (maxAgeSeconds : Int) (statusPolicy : String) : LogM (Option VerifiedIssuerStatus) :=
  if statusPolicy ≠ "required" ∧ statusPolicy ≠ "disabled" then
    uncaught (valueError "status_policy must be 'required' or 'disabled'")
  else if statusPolicy = "disabled" then .ok none
  else do
    raiseIf (statusArtifact matches .null ∨ trustedKeys matches .null) "ISSUER_STATUS_REQUIRED"
      "high-assurance verification requires a signed issuer-status artifact"
    if maxAgeSeconds ≤ 0 then uncaught (valueError "max_age_seconds must be positive")
    let verified ← checkIssuerStatus P issuer statusArtifact trustedKeys now maxAgeSeconds.toNat
    return some verified

/-! ## approvals -/

structure VerifiedApprovalArtifact where
  approvalId : String
  approver : PartyRef
  approvalType : String
  decision : String
  actionHash : ActionHashSpec
  issuedAt : Datetime
  keyId : String

def parseActionHash (P : Platform) (value : Json) : LogM ActionHashSpec := do
  let actionHash ← orLogError (ActionHashSpec.fromDict value) "INVALID_APPROVAL_ARTIFACT"
    "approval action_hash is invalid"
  raiseIf (¬ (actionHash.algorithm = "sha-256" ∧ actionHash.canonicalization ∈ P.acceptedProfiles
      ∧ (hex256 actionHash.value).isSome)) "INVALID_APPROVAL_ARTIFACT"
    "approval action_hash must declare sha-256, a known canonicalization profile, and lowercase hex"
  return actionHash

/-- the action an approval is checked for -/
inductive ExpectedAction where
  | intent (i : ActionIntent)
  | hash (h : ActionHashSpec)
  | document (d : Dict)

/-- the value of the hash `_resolve_expected_action_hash` returns, which is all that is compared -/
def resolveExpectedActionHash (P : Platform) : ExpectedAction → LogM String
  | .hash h => do
    let parsed ← parseActionHash P (.obj h.toDict)
    return parsed.value
  | .intent i => uncaught (sha256Hex P (.obj (buildActionHashInput i)))
  | .document d =>
    if hasDigestMembers d then do
      let parsed ← parseActionHash P (.obj d)
      return parsed.value
    else do
      let i ← orLogError (ActionIntent.fromDict (.obj d)) "INVALID_APPROVAL_ARTIFACT"
        "expected_action must be an Action Intent or action hash"
      uncaught (sha256Hex P (.obj (buildActionHashInput i)))

/-- the binding to an expected action -/
def checkExpectedAction (P : Platform) (actionHash : ActionHashSpec) : Option ExpectedAction → LogM Unit
  | none => .ok ()
  | some expected => do
    let expectedHash ← resolveExpectedActionHash P expected
    raiseIf (actionHash.value ≠ expectedHash) "APPROVAL_ACTION_MISMATCH"
      "approval artifact is not bound to the expected action"

def approvalStatement (approvalId : String) (approver : PartyRef) (approvalType decision : String)
    (actionHash : ActionHashSpec) (issuedAtRaw : String) : Dict :=
  members [("context", .str "actenon.approval-artifact.v1"), ("approval_id", .str approvalId),
    ("approver", .obj approver.toDict), ("approval_type", .str approvalType), ("decision", .str decision),
    ("action_hash", .obj (DigestSpec.toDict actionHash)), ("issued_at", .str issuedAtRaw)]

def verifyApprovalArtifact (P : Platform) (approval trustedKeys : Json)
    (expectedAction : Option ExpectedAction) : LogM VerifiedApprovalArtifact := do
  let artifact ← requireMapping approval "approval" "INVALID_APPROVAL_ARTIFACT"
  let contract ← requireMapping (Dict.get artifact "contract") "approval.contract"
    "INVALID_APPROVAL_ARTIFACT"
  raiseIf (¬ contractIs contract "approval_artifact" "v1") "INVALID_APPROVAL_ARTIFACT"
    "contract must declare approval_artifact v1"
  let approvalId ← requireString (Dict.get artifact "approval_id") "approval.approval_id"
    "INVALID_APPROVAL_ARTIFACT"
  let approver ← parseParty (Dict.get artifact "approver") "approval.approver"
    "INVALID_APPROVAL_ARTIFACT"
  let approvalType ← requireString (Dict.get artifact "approval_type") "approval.approval_type"
    "INVALID_APPROVAL_ARTIFACT"
  let decision ← requireString (Dict.get artifact "decision") "approval.decision"
    "INVALID_APPROVAL_ARTIFACT"
  raiseIf (decision ≠ "approved") "APPROVAL_NOT_GRANTED" "approval artifact decision is not approved"
  let actionHash ← parseActionHash P (Dict.get artifact "action_hash")
  checkExpectedAction P actionHash expectedAction
  let (issuedAtRaw, issuedAt) ← parseTimestampText (Dict.get artifact "issued_at") "approval.issued_at"
    "INVALID_APPROVAL_ARTIFACT"
  let signature ← parseSignature (Dict.get artifact "signature") "approval.signature"
    "INVALID_APPROVAL_ARTIFACT"
  let key ← selectKey P trustedKeys approver signature issuedAt "approval_artifact"
  verifyEd25519With P trustRules
    (approvalStatement approvalId approver approvalType decision actionHash issuedAtRaw) signature key
  return ⟨approvalId, approver, approvalType, decision, actionHash, issuedAt, signature.keyId⟩

/-! ## what an accepted artifact went through -/

theorem verifyEd25519With_ok {P : Platform} {R : Ed25519Rules} {statement : Dict} {signature : SignatureSpec}
    {key : Dict} {u : Unit} :
    verifyEd25519With P R statement signature key = .ok u ↔
      (signature.algorithm = "EdDSA" ∧ signature.encoding = "base64url") ∧
        checkJwkSignature P R statement signature key = .ok () := by
  unfold verifyEd25519With
  simp only [Fallible.bind_eq_ok, raiseIf_ok, not_not]
  constructor
  · rintro ⟨_, hs, hc⟩
    exact ⟨hs, hc⟩
  · rintro ⟨hs, hc⟩
    exact ⟨(), hs, hc⟩

/-- a timestamp that is kept as its text and as a datetime -/
def TimestampRead (value : Json) (fieldName raw : String) (t : Datetime) : Prop :=
  value = .str raw ∧ parseTimestamp value fieldName = .ok t

theorem timestampRead_ok {value : Json} {fieldName code message raw : String} {t : Datetime} :
    (requireString value fieldName code = .ok raw ∧
      orLogError (parseTimestamp (.str raw) fieldName) code message = .ok t) ↔
      TimestampRead value fieldName raw t := by
  rw [requireString_ok, orLogError_ok]
  constructor
  · rintro ⟨⟨hv, _⟩, ht⟩
    exact ⟨hv, hv ▸ ht⟩
  · rintro ⟨hv, ht⟩
    subst hv
    obtain ⟨_, hs, hne⟩ := parseTimestamp_text ht
    exact ⟨⟨rfl, Json.str.inj hs ▸ hne⟩, ht⟩

theorem parseTimestampText_ok {value : Json} {fieldName code : String} {p : String × Datetime} :
    parseTimestampText value fieldName code = .ok p ↔ TimestampRead value fieldName p.1 p.2 := by
  unfold parseTimestampText
  simp only [Fallible.bind_eq_ok, Fallible.pure_eq_ok]
  constructor
  · rintro ⟨raw, hraw, t, ht, e⟩
    subst e
    exact timestampRead_ok.mp ⟨hraw, ht⟩
  · intro h
    obtain ⟨hraw, ht⟩ := timestampRead_ok.mpr h
    exact ⟨p.1, hraw, p.2, ht, rfl⟩

theorem parseParty_ok {value : Json} {fieldName code : String} {p : PartyRef} :
    parseParty value fieldName code = .ok p ↔ PartyRef.fromDict value fieldName = .ok p := orLogError_ok

theorem parseSignature_ok {value : Json} {fieldName code : String} {s : SignatureSpec} :
    parseSignature value fieldName code = .ok s ↔ SignatureSpec.fromDict value = .ok s := orLogError_ok

theorem selectKey_ok {P : Platform} {trustedKeys : Json} {signer : PartyRef} {signature : SignatureSpec}
    {signedAt : Datetime} {requiredUse : String} {key : Dict} :
    selectKey P trustedKeys signer signature signedAt requiredUse = .ok key ↔
      ∃ keySet, trustedKeys = .obj keySet ∧ KeySelected requiredUse keySet signer signature signedAt key := by
  unfold selectKey
  simp only [Fallible.bind_eq_ok, requireMapping_ok, selectKeyWith_ok]
  rfl

/-- what is checked of a signature: the algorithm, the selected key and the signed statement -/
structure SignatureAccepted (P : Platform) (R : Ed25519Rules) (use : String) (artifact keySet : Dict)
    (signer : PartyRef) (signedAt : Datetime) (statement : Dict) (signature : SignatureSpec) (key : Dict) : Prop where
  parsed : SignatureSpec.fromDict (Dict.get artifact "signature") = .ok signature
  selected : KeySelected use keySet signer signature signedAt key
  supported : signature.algorithm = "EdDSA" ∧ signature.encoding = "base64url"
  checked : checkJwkSignature P R statement signature key = .ok ()

section
variable {P : Platform}

/-- what an accepted counter-signature went through -/
structure Countersigned (P : Platform) (expected : String) (artifact keySet : Dict)
    (v : VerifiedCounterSignature) : Prop where
  contract : ∃ c, Dict.get artifact "contract" = .obj c ∧ contractIs c "receipt_countersignature" "v1" = true
  digest : parseReceiptDigest P (Dict.get artifact "receipt_digest") "countersignature.receipt_digest"
    = .ok v.receiptDigest
  value : v.receiptDigest.value = expected
  witness : PartyRef.fromDict (Dict.get artifact "witness") "countersignature.witness" = .ok v.witness
  anchor : optionalMapping (Dict.get artifact "anchor_reference") "countersignature.anchor_reference"
    "INVALID_COUNTERSIGNATURE" = .ok v.anchorReference
  signed : ∃ raw signature key, TimestampRead (Dict.get artifact "signed_at") "countersignature.signed_at" raw
      v.signedAt ∧
    SignatureAccepted P countersignatureRules "receipt_countersignature" artifact keySet v.witness v.signedAt
      (countersignatureStatement v.receiptDigest v.witness raw v.anchorReference) signature key ∧
    v.keyId = signature.keyId

theorem verifyCountersignature_ok {receiptOrDigest countersignature trustedKeys : Json}
    {v : VerifiedCounterSignature} :
    verifyCountersignature P receiptOrDigest countersignature trustedKeys = .ok v ↔
      ∃ expected artifact keySet, resolveReceiptDigest P receiptOrDigest = .ok expected ∧
        countersignature = .obj artifact ∧ trustedKeys = .obj keySet ∧
        Countersigned P expected artifact keySet v := by
  unfold verifyCountersignature
  simp only [Fallible.bind_eq_ok, Fallible.pure_eq_ok, raiseIf_ok, not_not, ne_eq, requireMapping_ok,
    verifyEd25519With_ok, selectKeyWith_ok]
  constructor
  · rintro ⟨expected, hexp, artifact, ha, c, hc, _, hci, digest, hd, _, hval, witness, hw, signature, hs, raw, hraw,
      t, ht, anchor, han, keySet, hks, key, hkey, _, ⟨halg, hjwk⟩, e⟩
    subst e
    exact ⟨expected, artifact, keySet, hexp, ha, hks, ⟨c, hc, hci⟩, hd, hval, orLogError_ok.mp hw, han,
      raw, signature, key, timestampRead_ok.mp ⟨hraw, ht⟩, ⟨orLogError_ok.mp hs, hkey, halg, hjwk⟩, rfl⟩
  · rintro ⟨expected, artifact, keySet, hexp, ha, hks, h⟩
    obtain ⟨c, hc, hci⟩ := h.contract
    obtain ⟨raw, signature, key, ht, hsig, hid⟩ := h.signed
    obtain ⟨hraw, ht⟩ := timestampRead_ok.mpr ht
    exact ⟨expected, hexp, artifact, ha, c, hc, (), hci, v.receiptDigest, h.digest, (), h.value, v.witness,
      orLogError_ok.mpr h.witness, signature, orLogError_ok.mpr hsig.parsed, raw, hraw, v.signedAt, ht,
      v.anchorReference, h.anchor, keySet, hks, key, hsig.selected, (), ⟨hsig.supported, hsig.checked⟩,
      by rw [← hid]⟩

/-- what an accepted issuer status went through -/
structure StatusAccepted (P : Platform) (expected : PartyRef) (artifact keySet : Dict) (now : Datetime)
    (maxAgeSeconds : Nat) (v : VerifiedIssuerStatus) : Prop where
  contract : ∃ c, Dict.get artifact "contract" = .obj c ∧ contractIs c "issuer_status" "v1" = true
  issuer : PartyRef.fromDict (Dict.get artifact "issuer") "status_artifact.issuer" = .ok v.issuer
  expected : v.issuer.type = expected.type ∧ v.issuer.id = expected.id
  authority : PartyRef.fromDict (Dict.get artifact "authority") "status_artifact.authority" = .ok v.authority
  status : Dict.get artifact "status" = .str v.status ∧ v.status = "good_standing"
  window : ¬ v.expiresAt ≤ v.issuedAt ∧ ¬ now < v.issuedAt ∧ ¬ v.expiresAt ≤ now
  fresh : ¬ secondsExceed (now.us - v.issuedAt.us) maxAgeSeconds = true
  reference : optionalString (Dict.get artifact "status_reference") "status_artifact.status_reference"
    "INVALID_ISSUER_STATUS" = .ok v.statusReference
  signed : ∃ issued expires signature key,
    TimestampRead (Dict.get artifact "issued_at") "status_artifact.issued_at" issued v.issuedAt ∧
    TimestampRead (Dict.get artifact "expires_at") "status_artifact.expires_at" expires v.expiresAt ∧
    SignatureAccepted P trustRules "issuer_status" artifact keySet v.authority v.issuedAt
      (issuerStatusStatement v.issuer v.authority v.status issued expires v.statusReference) signature key ∧
    v.keyId = signature.keyId

theorem status_good {status : String} :
    (status ∈ ["good_standing", "suspended", "revoked"] ∧ status ≠ "revoked" ∧ status ≠ "suspended") ↔
      status = "good_standing" := by
  simp only [List.mem_cons, List.not_mem_nil, or_false]
  constructor
  · rintro ⟨h, hr, hs⟩
    rcases h with h | h | h
    · exact h
    · exact absurd h hs
    · exact absurd h hr
  · intro h
    subst h
    decide

theorem checkIssuerStatus_ok {issuer : IssuerArg} {statusArtifact trustedKeys : Json} {now : Datetime}
    {maxAgeSeconds : Nat} {v : VerifiedIssuerStatus} :
    checkIssuerStatus P issuer statusArtifact trustedKeys now maxAgeSeconds = .ok v ↔
      ∃ expected artifact keySet, resolveIssuer issuer = .ok expected ∧ statusArtifact = .obj artifact ∧
        trustedKeys = .obj keySet ∧ StatusAccepted P expected artifact keySet now maxAgeSeconds v := by
  unfold checkIssuerStatus
  simp only [Fallible.bind_eq_ok, Fallible.pure_eq_ok, raiseIf_ok, not_not, requireMapping_ok, requireString_ok,
    parseParty_ok, parseSignature_ok, parseTimestampText_ok, selectKey_ok, verifyEd25519With_ok, Prod.exists]
  constructor
  · rintro ⟨expected, hexp, artifact, ha, c, hc, _, hci, iss, hiss, _, hmatch, auth, hauth, status, hst, _, hmem, i, it,
      hi, x, xt, hx, _, hxi, _, hni, _, hnx, _, hfr, ref, href, signature, hs, key, ⟨keySet, hks, hkey⟩, _, ⟨halg, hjwk⟩, _, hrev,
      _, hsus, e⟩
    subst e
    exact ⟨expected, artifact, keySet, hexp, ha, hks, ⟨c, hc, hci⟩, hiss, hmatch, hauth,
      ⟨hst.1, status_good.mp ⟨hmem, hrev, hsus⟩⟩, ⟨hxi, hni, hnx⟩, hfr, href,
      i, x, signature, key, hi, hx, ⟨hs, hkey, halg, hjwk⟩, rfl⟩
  · rintro ⟨expected, artifact, keySet, hexp, ha, hks, h⟩
    obtain ⟨c, hc, hci⟩ := h.contract
    obtain ⟨i, x, signature, key, hi, hx, hsig, hid⟩ := h.signed
    obtain ⟨hmem, hrev, hsus⟩ := status_good.mpr h.status.2
    have hne : v.status ≠ "" := by
      rw [h.status.2]
      decide
    exact ⟨expected, hexp, artifact, ha, c, hc, (), hci, v.issuer, h.issuer, (), h.expected, v.authority, h.authority,
      v.status, ⟨h.status.1, hne⟩, (), hmem, i, v.issuedAt, hi, x, v.expiresAt, hx, (), h.window.1, (), h.window.2.1,
      (), h.window.2.2, (), h.fresh, v.statusReference, h.reference, signature, hsig.parsed, key,
      ⟨keySet, hks, hsig.selected⟩, (), ⟨hsig.supported, hsig.checked⟩, (), hrev, (), hsus, by rw [← hid]⟩

/-- what an accepted approval went through -/
structure ApprovalAccepted (P : Platform) (expected : Option ExpectedAction) (artifact keySet : Dict)
    (v : VerifiedApprovalArtifact) : Prop where
  contract : ∃ c, Dict.get artifact "contract" = .obj c ∧ contractIs c "approval_artifact" "v1" = true
  approvalId : Dict.get artifact "approval_id" = .str v.approvalId ∧ v.approvalId ≠ ""
  approver : PartyRef.fromDict (Dict.get artifact "approver") "approval.approver" = .ok v.approver
  approvalType : Dict.get artifact "approval_type" = .str v.approvalType ∧ v.approvalType ≠ ""
  decision : Dict.get artifact "decision" = .str v.decision ∧ v.decision = "approved"
  actionHash : parseActionHash P (Dict.get artifact "action_hash") = .ok v.actionHash
  expected : checkExpectedAction P v.actionHash expected = .ok ()
  signed : ∃ issued signature key,
    TimestampRead (Dict.get artifact "issued_at") "approval.issued_at" issued v.issuedAt ∧
    SignatureAccepted P trustRules "approval_artifact" artifact keySet v.approver v.issuedAt
      (approvalStatement v.approvalId v.approver v.approvalType v.decision v.actionHash issued) signature key ∧
    v.keyId = signature.keyId

theorem verifyApprovalArtifact_ok {approval trustedKeys : Json} {expectedAction : Option ExpectedAction}
    {v : VerifiedApprovalArtifact} :
    verifyApprovalArtifact P approval trustedKeys expectedAction = .ok v ↔
      ∃ artifact keySet, approval = .obj artifact ∧ trustedKeys = .obj keySet ∧
        ApprovalAccepted P expectedAction artifact keySet v := by
  unfold verifyApprovalArtifact
  simp only [Fallible.bind_eq_ok, Fallible.pure_eq_ok, raiseIf_ok, not_not, ne_eq, requireMapping_ok, requireString_ok,
    parseParty_ok, parseSignature_ok, parseTimestampText_ok, selectKey_ok, verifyEd25519With_ok, Prod.exists]
  constructor
  · rintro ⟨artifact, ha, c, hc, _, hci, id, hid, approver, hap, kind, hk, decision, hd, _, hdec, hash, hh, _, hex, i, it,
      hi, signature, hs, key, ⟨keySet, hks, hkey⟩, _, ⟨halg, hjwk⟩, e⟩
    subst e
    exact ⟨artifact, keySet, ha, hks, ⟨c, hc, hci⟩, hid, hap, hk, ⟨hd.1, hdec⟩, hh, hex, i, signature, key, hi,
      ⟨hs, hkey, halg, hjwk⟩, rfl⟩
  · rintro ⟨artifact, keySet, ha, hks, h⟩
    obtain ⟨c, hc, hci⟩ := h.contract
    obtain ⟨i, signature, key, hi, hsig, hid⟩ := h.signed
    have hne : ¬ v.decision = "" := by
      rw [h.decision.2]
      decide
    exact ⟨artifact, ha, c, hc, (), hci, v.approvalId, h.approvalId, v.approver, h.approver, v.approvalType,
      h.approvalType, v.decision, ⟨h.decision.1, hne⟩, (), h.decision.2, v.actionHash, h.actionHash, (), h.expected,
      i, v.issuedAt, hi, signature, hsig.parsed, key, ⟨keySet, hks, hsig.selected⟩, (),
      ⟨hsig.supported, hsig.checked⟩, by rw [← hid]⟩

end

/-! ## a sample -/

/-- 32 zero bytes -/
def sampleX : String := "AAAAAAAAAAAAAAAAAAAAAAAAAAAAAAAAAAAAAAAAAAA"

/-- 64 zero bytes -/
def sampleSignatureValue : String :=
  "AAAAAAAAAAAAAAAAAAAAAAAAAAAAAAAAAAAAAAAAAAAAAAAAAAAAAAAAAAAAAAAAAAAAAAAAAAAAAAAAAAAAAA"

/-- a set with one key for counter-signatures -/
def sampleKeySet : Dict :=
  members [("contract", .obj (members [("name", .str "key_discovery"), ("version", .str "v1")])),
    ("issuer", .obj (members [("type", .str "witness"), ("id", .str "w1")])),
    ("keys", .arr [.obj (members [("key_id", .str "k1"), ("algorithm", .str "EdDSA"),
      ("use", .str "receipt_countersignature"), ("status", .str "active"),
      ("public_key_jwk", .obj (members [("kty", .str "OKP"), ("crv", .str "Ed25519"), ("x", .str sampleX)]))])])]

def sampleReceiptDigest (canonicalization : String) : Dict :=
  members [("algorithm", .str "sha-256"), ("canonicalization", .str canonicalization),
    ("value", .str "0000000000000000000000000000000000000000000000000000000000000000")]

/-- a counter-signature by a witness, with further members -/
def sampleCountersignature (witness further : List (String × Json)) : Dict :=
  members ([("contract", .obj (members [("name", .str "receipt_countersignature"), ("version", .str "v1")])),
    ("receipt_digest", .obj (sampleReceiptDigest "RFC8785-JCS")),
    ("witness", .obj (members ([("type", .str "witness"), ("id", .str "w1")] ++ witness))),
    ("signed_at", .str "2025-01-01T00:00:00Z"),
    ("signature", .obj (members [("algorithm", .str "EdDSA"), ("key_id", .str "k1"),
      ("encoding", .str "base64url"), ("value", .str sampleSignatureValue)]))] ++ further)

/-- the signed statement of the witness `w1` -/
def sampleStatement : Dict :=
  countersignatureStatement ⟨"sha-256", "RFC8785-JCS",
    "0000000000000000000000000000000000000000000000000000000000000000"⟩ ⟨"witness", "w1", .null, []⟩
    "2025-01-01T00:00:00Z" none

/-- a platform whose Ed25519 accepts the canonical bytes of one statement only -/
def signingPlatform (statement : Dict) : Platform :=
  { samplePlatform id with
    ed25519Verify := fun _ _ message => (canonicalizeBytes (samplePlatform id) (.obj statement)).toOption = some message }

end Actenon
