import ActenonKernel.Proof.Canonical
import ActenonKernel.Models.Contracts

/-!
# Outcome attestations (`actenon/receipts/attestation.py`)

A receipt or refusal attestation wraps an outcome artifact with its digest, a proof binding and
metadata in a signed payload; external anchors stand beside the signature.  The two classes differ in
their contract and artifact type only, which is the `OutcomeKind`.  What `verify_receipt_attestation`
and `verify_refusal_attestation` return is read from the outcome artifact; here it is that artifact.

* `OutcomeAttestation.fromDict`, `OutcomeAttestation.unsignedPayload`;
* `SignatureVerifier`        a verifier object, with or without `verify_with_metadata`;
* `OutcomeAttestationService.verifyAttestation`    the digest, the binding, the anchors, the signature.
-/

set_option linter.unusedSectionVars false

namespace Actenon

/-- which of the two attestations -/
inductive OutcomeKind where
  | receipt
  | refusal
deriving DecidableEq, Repr

/-- the `artifact_type` -/
def OutcomeKind.text : OutcomeKind → String
  | .receipt => "receipt"
  | .refusal => "refusal"

/-! ## documents -/

/-- `{"algorithm": .., "value": ..}` -/
structure ArtifactDigest where
  algorithm : String
  value : String
deriving DecidableEq, Repr

def ArtifactDigest.toDict (d : ArtifactDigest) : Dict :=
  members [("algorithm", .str d.algorithm), ("value", .str d.value)]

/-- `canonicalization is not None and canonicalization != ATTESTATION_CANONICALIZATION` is not met -/
def parseArtifactDigest (profile : String) (raw : Json) : Except PyError ArtifactDigest := do
  let data ← expectMapping raw "artifact_digest"
  let algorithm ← expectString (Dict.get data "algorithm") "artifact_digest.algorithm"
  let value ← expectString (Dict.get data "value") "artifact_digest.value"
  match Dict.get data "canonicalization" with
  | .null => .ok ⟨algorithm, value⟩
  | c =>
    if isStr c profile then .ok ⟨algorithm, value⟩
    else valueError "outcome attestation canonicalization metadata is not supported"

/-- one member of a proof binding -/
def bindingMember (data : Dict) (fieldName : String) : Except PyError Dict :=
  match Dict.get data fieldName with
  | .null => .ok []
  | v => do
    let text ← expectString v s!"proof_binding.{fieldName}"
    return [(.str fieldName, .str text)]

def normalizeProofBinding (raw : Json) : Except PyError Dict := do
  let data ← expectMapping raw "proof_binding"
  let intentId ← bindingMember data "intent_id"
  let pccbId ← bindingMember data "pccb_id"
  let actionHash ← bindingMember data "action_hash"
  return intentId ++ pccbId ++ actionHash

def parseOptionalMetadata : Json → Except PyError Dict
  | .null => .ok []
  | raw => expectMapping raw "metadata"

/-- the anchors from index `i` on -/
def parseAnchorItems : Nat → List Json → Except PyError (List Dict)
  | _, [] => .ok []
  | i, x :: xs => do
    let anchor ← expectMapping x s!"external_anchors[{i}]"
    let rest ← parseAnchorItems (i + 1) xs
    return anchor :: rest

def parseExternalAnchors : Json → Except PyError (List Dict)
  | .null => .ok []
  | .arr xs => parseAnchorItems 0 xs
  | _ => valueError "external_anchors must be an array"

/-- `ReceiptAttestationV2Alpha1`, `RefusalAttestationV2Alpha1` -/
structure OutcomeAttestation where
  attestationId : String
  issuedAt : Datetime
  issuer : PartyRef
  artifactType : String
  outcomeArtifact : Dict
  artifactDigest : ArtifactDigest
  proofBinding : Dict
  signature : SignatureSpec
  metadata : Dict := []
  externalAnchors : List Dict := []

def OutcomeAttestation.fromDict (kind : OutcomeKind) (profile : String) (raw : Json) :
    Except PyError OutcomeAttestation := do
  let data ← expectMapping raw s!"{kind.text}_attestation"
  let contract ← expectMapping (Dict.get data "contract") "contract"
  if !declares contract (kind.text ++ "_attestation") "v2alpha1" then
    valueError s!"contract must declare {kind.text}_attestation v2alpha1"
  let payload ← expectMapping (Dict.get data "unsigned_payload") "unsigned_payload"
  if (Dict.find payload (.str "external_anchors")).isSome then
    valueError "external_anchors must sit beside signature and must not be inside unsigned_payload"
  let artifactType ← expectString (Dict.get payload "artifact_type") "unsigned_payload.artifact_type"
  if artifactType ≠ kind.text then
    valueError s!"{kind.text} attestation artifact_type must be '{kind.text}'"
  let attestationId ← expectString (Dict.get payload "attestation_id") "unsigned_payload.attestation_id"
  let issuedAt ← parseTimestamp (Dict.get payload "issued_at") "unsigned_payload.issued_at"
  let issuer ← PartyRef.fromDict (Dict.get payload "issuer") "unsigned_payload.issuer"
  let outcomeArtifact ← expectMapping (Dict.get payload "outcome_artifact") "unsigned_payload.outcome_artifact"
  let artifactDigest ← parseArtifactDigest profile (Dict.get payload "artifact_digest")
  let proofBinding ← normalizeProofBinding (Dict.get payload "proof_binding")
  let signature ← SignatureSpec.fromDict (Dict.get data "signature")
  let metadata ← parseOptionalMetadata (Dict.get payload "metadata")
  let externalAnchors ← parseExternalAnchors (Dict.getD data "external_anchors" (.arr []))
  return ⟨attestationId, issuedAt, issuer, artifactType, outcomeArtifact, artifactDigest, proofBinding, signature,
    metadata, externalAnchors⟩

/-- `{key: value for key, value in binding.items() if value is not None}` -/
def presentMembers (d : Dict) : Dict := d.filter fun p => !(p.2 matches .null)

def OutcomeAttestation.unsignedPayload (a : OutcomeAttestation) : Dict :=
  members [("attestation_id", .str a.attestationId), ("issued_at", .str (formatTimestamp a.issuedAt)),
    ("issuer", .obj a.issuer.toDict), ("artifact_type", .str a.artifactType),
    ("artifact_digest", .obj a.artifactDigest.toDict), ("outcome_artifact", .obj a.outcomeArtifact),
    ("proof_binding", .obj (presentMembers a.proofBinding)), ("metadata", .obj a.metadata)]

/-! ## the digest and the binding -/

/-- `except (TypeError, ValueError, RecursionError) as exc: raise ..(message)` -/
def orAttestationError {α : Type} (x : Except PyError α) (message : String) : Except PyError α :=
  match x with
  | .ok a => .ok a
  | .error e => if e.kind = .typeError ∨ e.kind = .valueError then valueError message else .error e

def verifyDigest (P : Platform) (profile : String) (expectedPayload : Dict) (observed : ArtifactDigest) :
    Except PyError Unit := do
  let digest ← parseArtifactDigest profile (.obj observed.toDict)
  if digest.algorithm ≠ "sha-256" then valueError "outcome attestation digest algorithm is not supported"
  let bytes ← orAttestationError (canonicalizeBytes P (.obj expectedPayload))
    "outcome attestation canonicalization failed; the embedded artifact contains values unsupported by the current canonicalizer"
  if digest.value ≠ String.ofList (Hex.toHex (P.sha256 bytes)) then
    valueError "embedded artifact digest does not match the signed attestation payload"

/-- `a or b` -/
def orElse (a b : Json) : Json := if a.truthy then a else b

/-- `x if isinstance(x, Mapping) else {}` -/
def asMapping (j : Json) : Dict := j.dict?.getD []

def actionHashValue (raw : Json) : Json :=
  match raw with
  | .str s => .str s
  | .obj kvs =>
    match Dict.get kvs "value" with
    | .str s => .str s
    | _ => .null
  | _ => .null

/-- a text that is not empty -/
def nonEmptyText : Json → Option String
  | .str s => if s = "" then none else some s
  | _ => none

/-- `_derive_proof_binding(outcome_artifact).get(key)` -/
def derivedBinding (outcome : Dict) (key : String) : Option String :=
  let embedded := asMapping (Dict.get outcome "proof_binding")
  let correlation := asMapping (Dict.get outcome "correlation")
  nonEmptyText <|
    if key = "intent_id" then orElse (Dict.get outcome "intent_id") (Dict.get embedded "intent_id")
    else if key = "pccb_id" then orElse (Dict.get embedded "pccb_id") (Dict.get correlation "pccb_id")
    else orElse (Dict.get embedded "action_hash") (actionHashValue (Dict.get correlation "action_hash"))

/-- one key of `_verify_proof_binding` -/
def verifyBindingKey (outcome proofBinding : Dict) (key : String) : Except PyError Unit :=
  match derivedBinding outcome key with
  | some expected =>
    if isStr (Dict.get proofBinding key) expected then .ok ()
    else valueError s!"proof_binding.{key} does not match the embedded outcome artifact"
  | none =>
    match Dict.get proofBinding key with
    | .null => .ok ()
    | _ => valueError
        s!"proof_binding.{key} is not present in the embedded outcome artifact and must not be invented"

def verifyProofBinding (outcome proofBinding : Dict) : Except PyError Unit := do
  verifyBindingKey outcome proofBinding "intent_id"
  verifyBindingKey outcome proofBinding "pccb_id"
  verifyBindingKey outcome proofBinding "action_hash"

/-! ## external anchors -/

/-- what a call of an external anchor verifier can raise -/
inductive AnchorFailure where
  /-- `ExternalAnchorVerificationError` -/
  | refused (message : String)
  /-- any other `ValueError` -/
  | skipped
  | other (e : PyError)

/-- `verify_external_anchor(anchor, artifact_digest=..).anchored_at` -/
abbrev ExternalAnchorVerifier := Dict → Dict → Except AnchorFailure Datetime

/-- the loop of `_verify_external_anchors`, with the earliest time so far -/
def anchorLoop (verifier : ExternalAnchorVerifier) (digest : Dict) :
    List Dict → Option Datetime → Except PyError (Option Datetime)
  | [], earliest => .ok earliest
  | anchor :: anchors, earliest =>
    match verifier anchor digest with
    | .error (.refused message) => valueError s!"external anchor verification failed: {message}"
    | .error .skipped => anchorLoop verifier digest anchors earliest
    | .error (.other e) => .error e
    | .ok t =>
      match earliest with
      | none => anchorLoop verifier digest anchors (some t)
      | some e => anchorLoop verifier digest anchors (some (if t < e then t else e))

def verifyExternalAnchors (verifier : Option ExternalAnchorVerifier) (digest : Dict) (anchors : List Dict) :
    Except PyError (Option Datetime) :=
  if anchors.isEmpty then .ok none
  else
    match verifier with
    | none => .ok none
    | some v => anchorLoop v digest anchors none

/-! ## the signature -/

/-- a verifier object: `verify_with_metadata`, where it has that method, called with or without the
two arguments about external anchors, and `verify` -/
structure SignatureVerifier where
  verifyWithMetadata : Option (List UInt8 → SignatureSpec → PartyRef → Datetime →
    Option (Bool × Option Datetime) → Except PyError Bool)
  verify : List UInt8 → SignatureSpec → Except PyError Bool

/-- the call of `_verify_unsigned_payload`, with its second try on a `TypeError` -/
def SignatureVerifier.call (V : SignatureVerifier) (payload : List UInt8) (signature : SignatureSpec)
    (issuer : PartyRef) (issuedAt : Datetime) (anchorTime : Option Datetime) : Except PyError Bool :=
  match V.verifyWithMetadata with
  | some f =>
    match f payload signature issuer issuedAt (some (anchorTime.isSome, anchorTime)) with
    | .error e => if e.kind = .typeError then f payload signature issuer issuedAt none else .error e
    | r => r
  | none => V.verify payload signature

structure OutcomeAttestationService where
  /-- `ATTESTATION_CANONICALIZATION`, which is a constant of `actenon_protocol` -/
  profile : String
  signer : SignatureVerifier
  externalAnchorVerifier : Option ExternalAnchorVerifier := none

/-- the checks of a resolved attestation -/
def OutcomeAttestationService.verifyResolved (P : Platform) (S : OutcomeAttestationService)
    (verifier : Option SignatureVerifier) (a : OutcomeAttestation) : Except PyError Dict := do
  verifyDigest P S.profile a.outcomeArtifact a.artifactDigest
  verifyProofBinding a.outcomeArtifact a.proofBinding
  let anchorTime ← verifyExternalAnchors S.externalAnchorVerifier a.artifactDigest.toDict a.externalAnchors
  let payload ← orAttestationError (canonicalizeBytes P (.obj a.unsignedPayload))
    "outcome attestation canonicalization failed during verification; the signed payload contains unsupported values"
  let isValid ← (verifier.getD S.signer).call payload a.signature a.issuer a.issuedAt anchorTime
  if isValid then return a.outcomeArtifact
  else valueError "outcome attestation signature could not be verified"

/-- `verify_receipt_attestation` and `verify_refusal_attestation` of a document -/
def OutcomeAttestationService.verifyAttestation (P : Platform) (S : OutcomeAttestationService)
    (kind : OutcomeKind) (verifier : Option SignatureVerifier) (raw : Json) : Except PyError Dict := do
  let resolved ← OutcomeAttestation.fromDict kind S.profile raw
  S.verifyResolved P verifier resolved

def OutcomeAttestationService.verifyReceiptAttestation (P : Platform) (S : OutcomeAttestationService)
    (verifier : Option SignatureVerifier) (raw : Json) : Except PyError Dict :=
  S.verifyAttestation P .receipt verifier raw

def OutcomeAttestationService.verifyRefusalAttestation (P : Platform) (S : OutcomeAttestationService)
    (verifier : Option SignatureVerifier) (raw : Json) : Except PyError Dict :=
  S.verifyAttestation P .refusal verifier raw

end Actenon
