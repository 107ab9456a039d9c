import ActenonKernel.Models.Runtime
import ActenonKernel.Proof.Canonical

/-!
# Verification of a proof (`actenon/proof/service.py`, `actenon/proof/refusal_messages.py`)

`PCCBVerifier.verify` with its checks in the source's order, its refusal codes and messages, and
what a disclosure mode makes of them.  The signer and the revocation source are parameters.

* `buildActionHashInput`    what the action hash covers;
* `PCCBVerifier.verify`     the pipeline;
* `buildReplayKey`          the replay key of a request (`actenon/replay/service.py`).
-/

set_option linter.unusedSectionVars false

namespace Actenon

/-! ## refusal messages -/

def publicProofRefusalMessages : List (String × String) :=
  [("PROOF_INVALID", "The proof could not be verified."),
    ("PROOF_NOT_YET_VALID", "The proof is not yet valid."),
    ("PROOF_EXPIRED", "The proof has expired."),
    ("AUDIENCE_MISMATCH", "The proof audience does not match this endpoint."),
    ("SCOPE_MODE_INVALID", "The proof scope mode is not supported."),
    ("SCOPE_CAPABILITY_MISMATCH", "The proof scope does not allow this capability."),
    ("INTENT_MISMATCH", "The proof does not match the supplied action intent."),
    ("TENANT_MISMATCH", "The proof tenant does not match the action intent."),
    ("SUBJECT_MISMATCH", "The proof subject does not match the action intent."),
    ("ACTION_MISMATCH", "The proof action does not exactly match the action intent."),
    ("TARGET_MISMATCH", "The proof target does not exactly match the action intent."),
    ("ACTION_HASH_INVALID", "The action hash could not be recomputed safely."),
    ("ACTION_HASH_ALGORITHM_INVALID", "The proof action hash metadata is invalid."),
    ("ACTION_HASH_MISMATCH", "The proof action hash does not match the action intent."),
    ("PROOF_PAYLOAD_INVALID", "The proof payload could not be canonicalized safely."),
    ("SIGNATURE_INVALID", "The proof signature could not be verified."),
    ("UNSUPPORTED_PROTOCOL_VERSION", "The proof declares an unsupported protocol version."),
    ("AUTHORITY_REVOKED", "The proof authority has been revoked."),
    ("PARAMETER_MISMATCH",
      "The proof parameter constraints do not cover this endpoint's constraints.")]

/-- refusals caused by the edge's own declarations -/
def edgeBindingRefusalMessages : List (String × String) :=
  [("SCOPE_CAPABILITY_MISMATCH", "The action capability is not one this endpoint performs."),
    ("PARAMETER_MISMATCH",
      "The proof parameter constraints do not cover this endpoint's constraints."),
    ("TARGET_MISMATCH", "The proof target does not satisfy this endpoint's resource selectors.")]

def authorityStatusUnknownMessage : String :=
  "The proof authority's revocation status could not be established."

def publicProofRefusalMessage (reasonCode : String) : Except PyError String :=
  match publicProofRefusalMessages.lookup reasonCode with
  | some message => .ok message
  | none => valueError s!"unknown public proof refusal reason code: {reasonCode}"

/-- the refusal with a code and its message, or what looking the message up raises -/
def proofRefusal (code : String) (message : Except PyError String) : Raised :=
  match message with
  | .ok m => .refusal (proofVerificationError code m)
  | .error e => .other e

/-! ## the verifier -/

inductive VerifierDisclosureMode where
  | publicGeneric
  | trustedDetailed
  | localDebug
deriving DecidableEq, Repr

structure PCCBVerifier where
  /-- `signer.verify_with_metadata(payload, signature, issuer, issued_at)`; a signer without it
  does not look at the metadata -/
  signer : List UInt8 → SignatureSpec → PartyRef → Datetime → PyM Bool
  /-- in microseconds; a negative tolerance is refused at construction -/
  clockSkewTolerance : Nat := 0
  disclosureMode : VerifierDisclosureMode := .trustedDetailed
  revocationChecker : Option (PCCB → DynamicContextInput → PyM Bool) := none
  boundaryId : Option String := none

/-- what `_raise_pre_auth_failure` raises -/
def PCCBVerifier.preAuthFailure (V : PCCBVerifier) (internalCode : String) : Raised :=
  match V.disclosureMode with
  | .localDebug => proofRefusal internalCode (publicProofRefusalMessage internalCode)
  | _ => proofRefusal "PROOF_INVALID" (publicProofRefusalMessage "PROOF_INVALID")

/-- what `_raise_post_auth_failure` raises with a message of its own -/
def PCCBVerifier.postAuthFailureWith (V : PCCBVerifier) (detailedCode : String)
    (message : Except PyError String) : Raised :=
  match V.disclosureMode with
  | .publicGeneric => proofRefusal "PROOF_INVALID" (publicProofRefusalMessage "PROOF_INVALID")
  | _ => proofRefusal detailedCode message

def PCCBVerifier.postAuthFailure (V : PCCBVerifier) (detailedCode : String) : Raised :=
  V.postAuthFailureWith detailedCode (publicProofRefusalMessage detailedCode)

/-- what `_raise_post_auth_failure` raises with `edge_binding=True` -/
def PCCBVerifier.edgeFailure (V : PCCBVerifier) (detailedCode : String) : Raised :=
  V.postAuthFailureWith detailedCode
    (match edgeBindingRefusalMessages.lookup detailedCode with
    | some message => .ok message
    | none => keyError detailedCode)

/-- `if bad: raise e` -/
def raiseWhen (bad : Prop) [Decidable bad] (e : Raised) : PyM Unit := if bad then .error e else .ok ()

/-! ## comparisons -/

def buildActionHashInput (intent : ActionIntent) : Dict :=
  members [("intent_id", .str intent.intentId), ("tenant", .obj intent.tenant.toDict),
    ("requester", .obj intent.requester.toDict), ("action", .obj intent.action.toDict),
    ("target", .obj intent.target.toDict), ("issued_at", .str (formatTimestamp intent.issuedAt)),
    ("expires_at", .str (formatTimestamp intent.expiresAt))]

section
variable (P : Platform)

/-- `_canonical_equal`: a value without a canonical form is equal to nothing -/
def canonicalEqual (a b : Json) : Bool :=
  match canonicalizeBytes P a, canonicalizeBytes P b with
  | .ok x, .ok y => x = y
  | _, _ => false

/-- the value of a target that a selector key speaks about -/
def TargetRef.selected (target : TargetRef) (key : Key) : Option Json :=
  if key = .str "resource_id" then some (.str target.resourceId)
  else if key = .str "resource_type" then some (.str target.resourceType)
  else Dict.find target.selectors key

def targetSatisfies (target : TargetRef) (selector : Json) : Bool :=
  match selector with
  | .obj (m :: ms) => (m :: ms).all fun p =>
    match target.selected p.1 with
    | some actual => canonicalEqual P actual p.2
    | none => false
  | _ => false

/-- every constraint of the edge was signed -/
def constraintsCovered (signed edge : Dict) : Bool :=
  edge.all fun p =>
    match Dict.find signed p.1 with
    | some value => canonicalEqual P value p.2
    | none => false

/-! ## the pipeline -/

/-- the contract the payload declares -/
def payloadContract (payload : Dict) : Dict :=
  match Dict.getD payload "contract" (.obj []) with
  | .obj contract => contract
  | _ => []

/-- steps 1 to 5: the proof is authentic -/
def PCCBVerifier.authenticate (V : PCCBVerifier) (pccb : PCCB) : PyM Unit := do
  raiseWhen (¬ declares (payloadContract pccb.unsignedPayload) "pccb" "v1")
    (V.preAuthFailure "UNSUPPORTED_PROTOCOL_VERSION")
  raiseWhen (pccb.signature.value = "" ∨ pccb.signature.encoding ≠ "base64url")
    (V.preAuthFailure "SIGNATURE_INVALID")
  let unsignedPayload ← (canonicalizeBytes P (.obj pccb.unsignedPayload)).mapError
    fun _ => V.preAuthFailure "PROOF_PAYLOAD_INVALID"
  let isValid ← V.signer unsignedPayload pccb.signature pccb.issuer pccb.issuedAt
  raiseWhen (¬ isValid) (V.preAuthFailure "SIGNATURE_INVALID")

/-- step 6: `not_before` and `expires_at`, both with the skew -/
def PCCBVerifier.checkWindow (V : PCCBVerifier) (pccb : PCCB) (now : Datetime) : PyM Unit := do
  let latest ← orRaise (now.shift V.clockSkewTolerance)
  raiseWhen (latest < pccb.notBefore) (V.postAuthFailure "PROOF_NOT_YET_VALID")
  let earliest ← orRaise (now.shift (-V.clockSkewTolerance))
  raiseWhen (pccb.expiresAt < earliest) (V.postAuthFailure "PROOF_EXPIRED")

/-- steps 7 to 10: audience, target, scope, tenant, subject and action -/
def PCCBVerifier.checkBinding (V : PCCBVerifier) (intent : ActionIntent) (pccb : PCCB)
    (context : DynamicContextInput) : PyM Unit := do
  raiseWhen (¬ canonicalEqual P (.obj pccb.audience.toDict) (.obj context.audience.toDict))
    (V.postAuthFailure "AUDIENCE_MISMATCH")
  raiseWhen (V.boundaryId.isSome ∧ V.boundaryId ≠ some pccb.audience.id)
    (V.postAuthFailure "AUDIENCE_MISMATCH")
  raiseWhen (¬ canonicalEqual P (.obj pccb.target.toDict) (.obj intent.target.toDict))
    (V.postAuthFailure "TARGET_MISMATCH")
  raiseWhen (pccb.scope.mode ≠ "exact" ∨ pccb.scope.singleUse ≠ true)
    (V.postAuthFailure "SCOPE_MODE_INVALID")
  raiseWhen (¬ P.capabilityInScope intent.action.capability pccb.scope.capabilities)
    (V.postAuthFailure "SCOPE_CAPABILITY_MISMATCH")
  raiseWhen (¬ P.capabilityInScope intent.action.capability context.scopeCapabilities)
    (V.edgeFailure "SCOPE_CAPABILITY_MISMATCH")
  raiseWhen (pccb.intentId.truthy ∧ ¬ isStr pccb.intentId intent.intentId)
    (V.postAuthFailure "INTENT_MISMATCH")
  raiseWhen (¬ canonicalEqual P (.obj pccb.tenant.toDict) (.obj intent.tenant.toDict))
    (V.postAuthFailure "TENANT_MISMATCH")
  raiseWhen (¬ canonicalEqual P (.obj pccb.subject.toDict) (.obj intent.requester.toDict))
    (V.postAuthFailure "SUBJECT_MISMATCH")
  raiseWhen (¬ canonicalEqual P (.obj pccb.action.toDict) (.obj intent.action.toDict))
    (V.postAuthFailure "ACTION_MISMATCH")

/-- step 11: the action hash -/
def PCCBVerifier.checkActionHash (V : PCCBVerifier) (intent : ActionIntent) (pccb : PCCB) :
    PyM Unit := do
  let expectedHash ← (sha256Hex P (.obj (buildActionHashInput intent))).mapError
    fun _ => V.postAuthFailure "ACTION_HASH_INVALID"
  raiseWhen (pccb.actionHash.algorithm ≠ "sha-256" ∨
      pccb.actionHash.canonicalization ∉ P.acceptedProfiles)
    (V.postAuthFailure "ACTION_HASH_ALGORITHM_INVALID")
  raiseWhen (pccb.actionHash.value ≠ expectedHash) (V.postAuthFailure "ACTION_HASH_MISMATCH")

/-- step 11b: the declarations of the edge -/
def PCCBVerifier.checkEdge (V : PCCBVerifier) (pccb : PCCB) (context : DynamicContextInput) :
    PyM Unit := do
  raiseWhen (¬ constraintsCovered P pccb.scope.parameterConstraints context.parameterConstraints)
    (V.edgeFailure "PARAMETER_MISMATCH")
  raiseWhen (context.resourceSelectors ≠ [] ∧
      ¬ context.resourceSelectors.any fun selector => targetSatisfies P pccb.target (.obj selector))
    (V.edgeFailure "TARGET_MISMATCH")

/-- `authority["revocable"] is True` -/
def isRevocable (authority : Dict) : Except PyError Bool :=
  match Dict.find authority (.str "revocable") with
  | some (.bool b) => .ok b
  | some _ => .ok false
  | none => keyError "revocable"

/-- step 13: revocation -/
def PCCBVerifier.checkRevocation (V : PCCBVerifier) (pccb : PCCB) (context : DynamicContextInput) :
    PyM Unit := do
  let unknown := V.postAuthFailureWith "AUTHORITY_REVOKED" (.ok authorityStatusUnknownMessage)
  let authorityRevocable ←
    if (Dict.find pccb.extensions (.str "authority")).isSome then
      match P.parseAuthorityExtension pccb.extensions with
      | none => .error unknown
      | some authority => orRaise (isRevocable authority)
    else .ok false
  match V.revocationChecker with
  | none => raiseWhen authorityRevocable unknown
  | some checker =>
    match checker pccb context with
    | .ok true => .ok ()
    | .ok false => .error (V.postAuthFailure "AUTHORITY_REVOKED")
    | .error _ => .error unknown

def PCCBVerifier.verify (V : PCCBVerifier) (intent : ActionIntent) (pccb : PCCB)
    (context : DynamicContextInput) : PyM Unit := do
  V.authenticate P pccb
  V.checkWindow pccb context.now
  V.checkBinding P intent pccb context
  V.checkActionHash P intent pccb
  V.checkEdge P pccb context
  V.checkRevocation P pccb context

/-! ## the replay key -/

def replayKeyInput (intent : ActionIntent) (pccb : PCCB) : Dict :=
  members [("pccb_id", .str pccb.pccbId), ("intent_id", .str intent.intentId),
    ("nonce", .str pccb.nonce), ("action_hash", .obj pccb.actionHash.toDict),
    ("audience", .obj pccb.audience.toDict), ("capability", .str intent.action.capability),
    ("target", .obj intent.target.toDict)]

def buildReplayKey (intent : ActionIntent) (pccb : PCCB) (_context : DynamicContextInput) :
    Except PyError String := do
  let hash ← sha256Hex P (.obj (replayKeyInput intent pccb))
  return "rpk_" ++ hash

end

end Actenon
