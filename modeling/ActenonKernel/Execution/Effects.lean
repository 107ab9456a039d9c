import ActenonKernel.Replay.Client

/-!
# Effect ownership at the edge (`actenon/execution/effects.py`)

The edge derives the identity of the effect from the request itself, compares it with the signed
reference, and claims the reservation in the ledger of the authority.

* `EffectReference.fromDict`       the reference a proof carries;
* `EffectProtector.claimRequest`   the checks and the claim.
-/

set_option linter.unusedSectionVars false

namespace Actenon

open Program

/-! ## references -/

/-- `set(d) == {..}` -/
def Dict.keysAre (d : Dict) (names : List String) : Bool :=
  names.all (fun name => (Dict.find d (.str name)).isSome) &&
    d.all fun p => names.any fun name => p.1 = .str name

/-- `re.fullmatch(head + "[0-9a-f]" with a count, s)` -/
def hexIdentifier (head : String) (count : Nat → Bool) (s : String) : Bool :=
  head.toList.isPrefixOf s.toList &&
    (s.toList.drop head.length).all (fun c => (Hex.value c).isSome) &&
    count (s.toList.drop head.length).length

def patternMember (d : Dict) (name : String) (pattern : String → Bool) : Except PyError String :=
  match Dict.get d name with
  | .str s => if pattern s then .ok s else valueError "malformed effect reference"
  | _ => valueError "malformed effect reference"

def EffectReference.fromDict (P : Platform) (raw : Json) : Except PyError EffectReference :=
  match raw with
  | .obj d =>
    if Dict.keysAre d ["profile", "effect_id", "reservation_id", "owner_attempt_id"] then
      if isStr (Dict.get d "profile") P.effectProfile then do
        let effectId ← patternMember d "effect_id" (hexIdentifier "effect_" (· = 64))
        let reservationId ← patternMember d "reservation_id" (hexIdentifier "reservation_" (· = 32))
        let ownerAttemptId ← patternMember d "owner_attempt_id" (hexIdentifier "exec_" (16 ≤ ·))
        return ⟨P.effectProfile, effectId, reservationId, ownerAttemptId⟩
      else valueError "unsupported effect profile"
    else valueError "malformed effect reference"
  | _ => valueError "malformed effect reference"

/-! ## the protector -/

structure EffectProtector where
  owner : String
  /-- configuration of the edge, not of the caller -/
  descriptorBuilder : Option (ProtectedExecutionRequest → Except PyError Dict) := none

section
variable (P : Platform) (E : EffectProtector)

/-- the reference and the authority of a proof; an exception that is not a `ValueError` goes on -/
def effectClaimInput (pccb : PCCB) : PyM (EffectReference × Dict) :=
  let malformed : Raised := .refusal (proofVerificationError "MALFORMED_REQUEST"
    "The proof has no usable effect/authority reference.")
  match EffectReference.fromDict P (Dict.get pccb.extensions "effect") with
  | .error _ => .error malformed
  | .ok reference =>
    match P.parseAuthorityExtension pccb.extensions with
    | some authority => .ok (reference, authority)
    | none =>
      .error (if P.capabilityErrorIsValueError then malformed
        else .other ⟨.other "CapabilityError", "malformed authority extension"⟩)

def EffectProtector.expectedDescriptor (request : ProtectedExecutionRequest) : Dict :=
  members [("profile", .str P.effectProfile), ("namespace", .str E.owner), ("kind", .str "exact"),
    ("action_type", .str request.intent.action.capability),
    ("target", .obj (members [("type", .str request.intent.target.resourceType),
      ("id", .str request.intent.target.resourceId)])),
    ("parameters", .obj request.intent.action.parameters)]

/-- one member of the descriptor against the request -/
def sameCanonicalMember (descriptor expected : Dict) (message name : String) :
    Except PyError Unit := do
  let given ← canonicalizeBytes P (Dict.get descriptor name)
  let wanted ← canonicalizeBytes P (Dict.get expected name)
  if given ≠ wanted then valueError message else .ok ()

/-- the identity of the effect, derived from the request -/
def EffectProtector.computedEffect (request : ProtectedExecutionRequest) : Except PyError String := do
  let expected := E.expectedDescriptor P request
  let descriptor ← (E.descriptorBuilder.getD fun _ => .ok expected) request
  ["profile", "namespace", "action_type", "target"].forM
    (sameCanonicalMember P descriptor expected
      "effect descriptor does not match the actual edge request")
  if isStr (Dict.get descriptor "kind") "exact" then
    sameCanonicalMember P descriptor expected "exact effect descriptor dropped or changed parameters"
      "parameters"
  else .ok ()
  match P.effectIdentity descriptor with
  | some identity => .ok identity
  | none => valueError "effect identity"

/-- the checks before the claim -/
def EffectProtector.ownReference (request : ProtectedExecutionRequest) : PyM EffectReference := do
  let (reference, authority) ← effectClaimInput P request.pccb
  raiseWhen (reference.ownerAttemptId ≠ request.intent.intentId)
    (.refusal (proofVerificationError "ACTION_MISMATCH"
      "The effect reservation belongs to a different execution attempt."))
  let issuer ← orRaise (Dict.item authority "issuer")
  raiseWhen (¬ isStr issuer s!"{request.pccb.issuer.type}:{request.pccb.issuer.id}")
    (.refusal (proofVerificationError "ISSUER_UNTRUSTED"
      "The effect authority issuer does not match the proof issuer."))
  let computed ← (E.computedEffect P request).mapError fun _ =>
    .refusal (proofVerificationError "ACTION_MISMATCH"
      "The protected edge could not derive this effect from the exact request.")
  raiseWhen (reference.effectId ≠ computed)
    (.refusal (proofVerificationError "ACTION_MISMATCH"
      "The signed effect identity does not match the protected request."))
  return reference

def EffectProtector.claimRequest {S : Type} (request : ProtectedExecutionRequest) :
    Kernel S EffectReference := do
  let reference ← Act.lift (E.ownReference P request)
  let claimed : Bool ← Act.catching (Act.perform (.effectClaim reference request) rfl) fun _ =>
    Act.raise (.refusal (proofVerificationError "POLICY_REFUSAL"
      "Authoritative effect ownership could not be established; execution refused."))
  if claimed then pure reference
  else Act.raise (.refusal (proofVerificationError "POLICY_REFUSAL"
    "This effect is already owned, completed, unresolved, or not authorized for this attempt."))

end

end Actenon
