import ActenonKernel.Verifier.Inclusion

/-!
# Pinned key sets (`_select_trusted_key`, `_select_key`, `_verify_ed25519`)

Three verifiers select a key of a `key_discovery` document and check an Ed25519 signature with it:
`countersignature.py`, `trust_artifacts.py` and `transparency.py`.  The steps are the same; the codes
and messages, and one more check of the time bounds, are a `KeyRules` and an `Ed25519Rules`.

* `selectKeyWith`, `verifyEd25519With`    the two functions over their rules;
* `selectCheckpointKey_eq`                the one of `transparency.py` is an instance;
* `signedWith`                            the public key and the signature of an artifact;
* `selectKeyWith_ok`, `checkJwkSignature_ok`    what they have checked when they accept;
* `signedWith_of_checked`                 an accepted artifact is signed with its published key;
* `verifyCountersignatureInclusion_ok`    an accepted countersignature is included where its anchor says.
-/

set_option linter.unusedSectionVars false

namespace Actenon

/-! ## what a check that passed says -/

theorem requireMapping_ok {value : Json} {fieldName code : String} {d : Dict} :
    requireMapping value fieldName code = .ok d ↔ value = .obj d := by
  cases value <;> simp [requireMapping, logError]

theorem requireString_ok {value : Json} {fieldName code s : String} :
    requireString value fieldName code = .ok s ↔ value = .str s ∧ s ≠ "" := by
  cases value with
  | str t =>
    by_cases h : t = ""
    · simp only [requireString, h, if_true, logError, Json.str.injEq]
      constructor
      · intro he
        cases he
      · intro he
        exact absurd he.1.symm he.2
    · simp only [requireString, h, if_false, Except.ok.injEq, Json.str.injEq]
      constructor
      · intro he
        exact ⟨he, he ▸ h⟩
      · intro he
        exact he.1
  | _ => simp [requireString, logError]

theorem orLogError_ok {α : Type} {x : Except PyError α} {code message : String} {a : α} :
    orLogError x code message = .ok a ↔ x = .ok a := by
  cases x with
  | ok b => simp [orLogError]
  | error e =>
    unfold orLogError
    constructor
    · intro h
      dsimp only at h
      split at h <;> cases h
    · intro h
      cases h

theorem uncaught_ok {α : Type} {x : Except PyError α} {a : α} : uncaught x = .ok a ↔ x = .ok a :=
  Fallible.mapError_eq_ok

/-- the bytes of unpadded base64url -/
def base64urlBytes (value : String) : Option (List UInt8) :=
  if value = "" then none else (value.toList.mapM base64Value).bind base64Bytes

theorem decodeBase64url_ok {value fieldName code : String} {bytes : List UInt8} :
    decodeBase64url value fieldName code = .ok bytes ↔ base64urlBytes value = some bytes := by
  unfold decodeBase64url base64urlBytes
  by_cases h : value = ""
  · simp [h, logError]
  · rw [if_neg h, if_neg h]
    cases value.toList.mapM base64Value with
    | none => simp [logError]
    | some vs =>
      rw [Option.bind_some]
      cases hb : base64Bytes vs with
      | none => simp [hb, logError]
      | some bytes' => simp [hb]

/-! ## selecting the key -/

/-- the codes and messages of one selector, and the use it asks for -/
structure KeyRules where
  /-- the code for a contract or a key set that is not an object -/
  shapeCode : String
  issuerMessage : String
  mismatchCode : String
  mismatchMessage : String
  /-- the text before the key id -/
  unknownMessage : String
  algorithmMessage : String
  use : String
  purposeMessage : String
  statusMessage : String
  notBeforeMessage : String
  expiresMessage : String
  revokedMessage : String
  /-- a time bound is checked to be a non-empty string before it is parsed -/
  textBounds : Bool

/-- the member of a time bound as a datetime -/
def keyBound (textBounds : Bool) (raw : Json) (fieldName : String) : LogM Datetime := do
  let _ ← if textBounds then requireString raw s!"keys[].{fieldName}" "TRUSTED_KEYS_INVALID" else .ok ""
  orLogError (parseTimestamp raw s!"keys[].{fieldName}") "TRUSTED_KEYS_INVALID"
    s!"keys[].{fieldName} must be an RFC3339 timestamp"

/-- one of the time bounds of a key -/
def checkKeyBoundWith (textBounds : Bool) (key : Dict) (signedAt : Datetime) (fieldName : String)
    (inclusive : Bool) (message : String) : LogM Unit :=
  match Dict.get key fieldName with
  | .null => .ok ()
  | raw => do
    let bound ← keyBound textBounds raw fieldName
    raiseIf ((!inclusive && signedAt < bound) || (inclusive && bound ≤ signedAt)) "KEY_NOT_VALID"
      message

def keyArray (j : Json) : LogM (List Json) :=
  match j with
  | .arr (k :: ks) => .ok (k :: ks)
  | _ => logError "TRUSTED_KEYS_INVALID" "trusted key set must contain a non-empty keys array"

/-- the only key with an id -/
def uniqueKey (P : Platform) (rawKeys : List Json) (keyId unknownMessage : String) : LogM Dict :=
  match rawKeys.filterMap (keyWithId keyId) with
  | [] => do
    let keyId ← uncaught (P.repr (.str keyId))
    logError "UNKNOWN_KEY_ID" (unknownMessage ++ keyId)
  | [key] => .ok key
  | _ => do
    let keyId ← uncaught (P.repr (.str keyId))
    logError "TRUSTED_KEYS_INVALID" ("trusted key set contains duplicate key_id " ++ keyId)

def selectKeyWith (P : Platform) (R : KeyRules) (trustedKeys : Dict) (signer : PartyRef)
    (signature : SignatureSpec) (signedAt : Datetime) : LogM Dict := do
  let contract ← requireMapping (Dict.get trustedKeys "contract") "trusted_keys.contract" R.shapeCode
  raiseIf (¬ declares contract "key_discovery" "v1") "TRUSTED_KEYS_INVALID"
    "trusted key set must declare key_discovery v1"
  let issuer ← orLogError (PartyRef.fromDict (Dict.get trustedKeys "issuer") "trusted_keys.issuer")
    "TRUSTED_KEYS_INVALID" R.issuerMessage
  raiseIf (¬ (issuer.type = signer.type ∧ issuer.id = signer.id)) R.mismatchCode R.mismatchMessage
  let rawKeys ← keyArray (Dict.get trustedKeys "keys")
  let key ← uniqueKey P rawKeys signature.keyId R.unknownMessage
  raiseIf (¬ isStr (Dict.get key "algorithm") signature.algorithm) "SIGNATURE_INVALID"
    R.algorithmMessage
  let uses ← parseUses (Dict.get key "use")
  raiseIf (¬ uses.contains R.use) "KEY_PURPOSE_MISMATCH" R.purposeMessage
  let status ← uncaught (Dict.get key "status").toKey
  raiseIf (¬ (status = .str "active" ∨ status = .str "retired")) "KEY_NOT_VALID" R.statusMessage
  checkKeyBoundWith R.textBounds key signedAt "not_before" false R.notBeforeMessage
  checkKeyBoundWith R.textBounds key signedAt "expires_at" true R.expiresMessage
  checkKeyBoundWith R.textBounds key signedAt "revoked_at" true R.revokedMessage
  return key

/-- the rules of `transparency.py` -/
def checkpointKeyRules : KeyRules where
  shapeCode := "TRUSTED_KEYS_INVALID"
  issuerMessage := "trusted key-set issuer is invalid"
  mismatchCode := "LOG_IDENTITY_MISMATCH"
  mismatchMessage := "checkpoint log identity does not match the trusted key-set issuer"
  unknownMessage := "no trusted checkpoint key matched key_id "
  algorithmMessage := "trusted key algorithm does not match the checkpoint signature"
  use := "transparency_checkpoint"
  purposeMessage := "trusted key is not authorized for transparency checkpoints"
  statusMessage := "trusted checkpoint key is not active or retired"
  notBeforeMessage := "trusted checkpoint key was not valid at signing time"
  expiresMessage := "trusted checkpoint key was expired at signing time"
  revokedMessage := "trusted checkpoint key was revoked at signing time"
  textBounds := false

theorem checkKeyBoundWith_false (key : Dict) (signedAt : Datetime) (fieldName : String)
    (inclusive : Bool) (message : String) :
    checkKeyBoundWith false key signedAt fieldName inclusive message
      = checkKeyBound key signedAt fieldName inclusive message := by
  unfold checkKeyBoundWith checkKeyBound
  cases Dict.get key fieldName <;> rfl

theorem selectCheckpointKey_eq (P : Platform) (trustedKeys : Dict) (log : PartyRef)
    (signature : SignatureSpec) (issuedAt : Datetime) :
    selectCheckpointKey P trustedKeys log signature issuedAt
      = selectKeyWith P checkpointKeyRules trustedKeys log signature issuedAt := by
  unfold selectCheckpointKey selectKeyWith
  have e : checkpointKeyRules.textBounds = false := rfl
  simp only [e, checkKeyBoundWith_false]
  refine bind_congr fun contract => bind_congr fun _ => bind_congr fun issuer => bind_congr fun _ => ?_
  -- one case for each shape of the matches on the array and on the matching keys
  cases Dict.get trustedKeys "keys" with
  | arr ks =>
    cases ks with
    | nil => rfl
    | cons k ks =>
      simp only [keyArray, Fallible.ok_bind, uniqueKey]
      generalize List.filterMap (keyWithId signature.keyId) (k :: ks) = found
      rcases found with _ | ⟨key, _ | ⟨other, rest⟩⟩
      · cases uncaught (P.repr (.str signature.keyId)) <;> rfl
      · rfl
      · cases uncaught (P.repr (.str signature.keyId)) <;> rfl
  | _ => rfl

/-! ## checking the signature -/

/-- the codes and messages of one signature check -/
structure Ed25519Rules where
  unsupportedMessage : String
  /-- the code for a JWK that is not an object or has no readable `x` -/
  shapeCode : String
  jwkMessage : String
  signatureField : String
  signatureCode : String
  lengthMessage : String
  invalidMessage : String

/-- the checks of `_verify_ed25519` that follow the one of the algorithm -/
def checkJwkSignature (P : Platform) (R : Ed25519Rules) (statement : Dict) (signature : SignatureSpec)
    (key : Dict) : LogM Unit := do
  let jwk ← requireMapping (Dict.get key "public_key_jwk") "keys[].public_key_jwk" R.shapeCode
  raiseIf (¬ (isStr (Dict.get jwk "kty") "OKP" && isStr (Dict.get jwk "crv") "Ed25519"
      && noneOr (Dict.get jwk "kid") signature.keyId && noneOr (Dict.get jwk "alg") "EdDSA"))
    "TRUSTED_KEYS_INVALID" R.jwkMessage
  let x ← requireString (Dict.get jwk "x") "public_key_jwk.x" R.shapeCode
  let publicKeyBytes ← decodeBase64url x "public_key_jwk.x" R.shapeCode
  let signatureBytes ← decodeBase64url signature.value R.signatureField R.signatureCode
  raiseIf (¬ (publicKeyBytes.length = 32 ∧ signatureBytes.length = 64)) "SIGNATURE_INVALID"
    R.lengthMessage
  let message ← uncaught (canonicalizeBytes P (.obj statement))
  raiseIf (¬ P.ed25519Verify publicKeyBytes signatureBytes message) "SIGNATURE_INVALID"
    R.invalidMessage

def verifyEd25519With (P : Platform) (R : Ed25519Rules) (statement : Dict) (signature : SignatureSpec)
    (key : Dict) : LogM Unit := do
  raiseIf (¬ (signature.algorithm = "EdDSA" ∧ signature.encoding = "base64url"))
    "UNSUPPORTED_ALGORITHM" R.unsupportedMessage
  checkJwkSignature P R statement signature key

/-- the rules of `transparency.py` -/
def checkpointRules : Ed25519Rules where
  unsupportedMessage := "transparency checkpoint v1 supports EdDSA/Ed25519 with base64url encoding"
  shapeCode := "TRUSTED_KEYS_INVALID"
  jwkMessage := "checkpoint key must be an Ed25519 OKP JWK matching signature.key_id"
  signatureField := "checkpoint.signature.value"
  signatureCode := "SIGNATURE_INVALID"
  lengthMessage := "checkpoint key or signature has an invalid Ed25519 length"
  invalidMessage := "transparency checkpoint signature could not be verified"

/-- a checkpoint is checked by the same steps, the algorithm before the key is selected -/
theorem verifyCheckpointSignature_eq (P : Platform) (checkpoint trustedKeys : Dict) :
    verifyCheckpointSignature P checkpoint trustedKeys = (do
      let c ← parseCheckpoint checkpoint
      raiseIf (¬ (c.signature.algorithm = "EdDSA" ∧ c.signature.encoding = "base64url"))
        "UNSUPPORTED_ALGORITHM" checkpointRules.unsupportedMessage
      let key ← selectKeyWith P checkpointKeyRules trustedKeys c.log c.signature c.issuedAt
      checkJwkSignature P checkpointRules (checkpointStatement c) c.signature key
      return ⟨c.log, c.treeSize, c.rootHash, c.issuedAt, c.signature.keyId⟩) := by
  unfold verifyCheckpointSignature checkJwkSignature
  simp only [selectCheckpointKey_eq, bind_assoc]
  rfl

/-! ## the key and the signature of an artifact -/

/-- the bytes of the public key a key of the set publishes -/
def publishedBytes (key : Dict) : Option (List UInt8) :=
  match Dict.get key "public_key_jwk" with
  | .obj jwk =>
    match Dict.get jwk "x" with
    | .str x => base64urlBytes x
    | _ => none
  | _ => none

/-- the only key of a set with an id -/
def publishedKey (trustedKeys : Dict) (keyId : String) : Option Dict :=
  match Dict.get trustedKeys "keys" with
  | .arr ks =>
    match ks.filterMap (keyWithId keyId) with
    | [key] => some key
    | _ => none
  | _ => none

/-- the public key and the signature bytes of an artifact, read against a key set -/
def signedWith (artifact trustedKeys : Dict) : Option (List UInt8 × List UInt8) := do
  let signature ← (SignatureSpec.fromDict (Dict.get artifact "signature")).toOption
  let key ← publishedKey trustedKeys signature.keyId
  let k ← publishedBytes key
  let σ ← base64urlBytes signature.value
  return (k, σ)

theorem keyArray_ok {j : Json} {rawKeys : List Json} :
    keyArray j = .ok rawKeys ↔ ∃ k ks, j = .arr (k :: ks) ∧ rawKeys = k :: ks := by
  cases j with
  | arr xs =>
    cases xs with
    | nil => simp [keyArray, logError]
    | cons k ks =>
      simp only [keyArray, Except.ok.injEq, Json.arr.injEq, List.cons.injEq]
      constructor
      · intro h
        exact ⟨k, ks, ⟨rfl, rfl⟩, h.symm⟩
      · rintro ⟨_, _, ⟨h, h'⟩, e⟩
        rw [e, h, h']
  | _ => simp [keyArray, logError]

theorem uniqueKey_ok {P : Platform} {rawKeys : List Json} {keyId unknownMessage : String} {key : Dict} :
    uniqueKey P rawKeys keyId unknownMessage = .ok key ↔ rawKeys.filterMap (keyWithId keyId) = [key] := by
  have herr : ∀ code message, (uncaught (P.repr (.str keyId)) >>= fun t =>
      (logError code (message ++ t) : LogM Dict)) ≠ .ok key := by
    intro code message h
    obtain ⟨t, -, h⟩ := Fallible.bind_eq_ok.mp h
    cases h
  unfold uniqueKey
  match rawKeys.filterMap (keyWithId keyId) with
  | [] => simp [herr]
  | [k] => simp
  | _ :: _ :: _ => simp [herr]

/-- a time bound is not there, or a timestamp that the signing time respects -/
def KeyBoundHolds (key : Dict) (signedAt : Datetime) (fieldName : String) (inclusive : Bool) : Prop :=
  Dict.get key fieldName = .null ∨
    ∃ bound, parseTimestamp (Dict.get key fieldName) s!"keys[].{fieldName}" = .ok bound ∧
      if inclusive then signedAt < bound else bound ≤ signedAt

theorem parseTimestamp_text {raw : Json} {fieldName : String} {t : Datetime}
    (h : parseTimestamp raw fieldName = .ok t) : ∃ s, raw = .str s ∧ s ≠ "" := by
  cases raw with
  | str s =>
    refine ⟨s, rfl, ?_⟩
    intro he
    subst he
    cases h
  | _ => cases h

theorem keyBound_ok {textBounds : Bool} {raw : Json} {fieldName : String} {bound : Datetime} :
    keyBound textBounds raw fieldName = .ok bound ↔
      parseTimestamp raw s!"keys[].{fieldName}" = .ok bound := by
  unfold keyBound
  cases textBounds with
  | false => exact orLogError_ok
  | true =>
    show (requireString raw _ _ >>= _) = _ ↔ _
    rw [Fallible.bind_eq_ok]
    constructor
    · rintro ⟨_, _, h⟩
      exact orLogError_ok.mp h
    · intro h
      obtain ⟨s, hs⟩ := parseTimestamp_text h
      exact ⟨s, requireString_ok.mpr hs, orLogError_ok.mpr h⟩

theorem checkKeyBoundWith_ok {textBounds : Bool} {key : Dict} {signedAt : Datetime}
    {fieldName message : String} {inclusive : Bool} {u : Unit} :
    checkKeyBoundWith textBounds key signedAt fieldName inclusive message = .ok u ↔
      KeyBoundHolds key signedAt fieldName inclusive := by
  have hbad : ∀ bound : Datetime, ¬ ((!inclusive && signedAt < bound) || (inclusive && bound ≤ signedAt)) = true ↔
      if inclusive then signedAt < bound else bound ≤ signedAt := by
    intro bound
    cases inclusive with
    | true =>
      show ¬ (decide (bound.us ≤ signedAt.us)) = true ↔ signedAt.us < bound.us
      simp
    | false =>
      show ¬ (decide (signedAt.us < bound.us) || false) = true ↔ bound.us ≤ signedAt.us
      simp
  have hpresent : ∀ raw, ((do
      let bound ← keyBound textBounds raw fieldName
      raiseIf ((!inclusive && signedAt < bound) || (inclusive && bound ≤ signedAt)) "KEY_NOT_VALID"
        message) = .ok u) ↔
      ∃ bound, parseTimestamp raw s!"keys[].{fieldName}" = .ok bound ∧
        if inclusive then signedAt < bound else bound ≤ signedAt := by
    intro raw
    simp only [Fallible.bind_eq_ok, keyBound_ok, raiseIf_ok, hbad]
  unfold checkKeyBoundWith KeyBoundHolds
  cases Dict.get key fieldName with
  | null => simp
  | _ => simp only [hpresent, reduceCtorEq, false_or]

/-- what is checked of a key set and the key that is selected -/
structure KeySelected (use : String) (trustedKeys : Dict) (signer : PartyRef) (signature : SignatureSpec)
    (signedAt : Datetime) (key : Dict) : Prop where
  contract : ∃ c, Dict.get trustedKeys "contract" = .obj c ∧ declares c "key_discovery" "v1" = true
  issuer : ∃ p, PartyRef.fromDict (Dict.get trustedKeys "issuer") "trusted_keys.issuer" = .ok p ∧
    p.type = signer.type ∧ p.id = signer.id
  published : publishedKey trustedKeys signature.keyId = some key
  algorithm : isStr (Dict.get key "algorithm") signature.algorithm = true
  uses : ∃ us, parseUses (Dict.get key "use") = .ok us ∧ us.contains use = true
  status : isStr (Dict.get key "status") "active" = true ∨ isStr (Dict.get key "status") "retired" = true
  notBefore : KeyBoundHolds key signedAt "not_before" false
  expiresAt : KeyBoundHolds key signedAt "expires_at" true
  revokedAt : KeyBoundHolds key signedAt "revoked_at" true

theorem toKey_str {j : Json} {s : String} : j.toKey = .ok (.str s) ↔ isStr j s = true := by
  cases j with
  | str t => simp [Json.toKey, isStr]
  | tup xs =>
    rw [Json.toKey, Fallible.map_eq_ok]
    simp [isStr]
  | _ => simp [Json.toKey, isStr, typeError]

theorem status_ok {j : Json} :
    (∃ status, j.toKey = .ok status ∧ (status = .str "active" ∨ status = .str "retired")) ↔
      (isStr j "active" = true ∨ isStr j "retired" = true) := by
  simp only [← toKey_str]
  constructor
  · rintro ⟨status, hs, h⟩
    rcases h with rfl | rfl
    · exact Or.inl hs
    · exact Or.inr hs
  · intro h
    rcases h with h | h
    · exact ⟨_, h, Or.inl rfl⟩
    · exact ⟨_, h, Or.inr rfl⟩

/-- the array of keys, with the only one that has the id -/
theorem publishedKey_eq_some {trustedKeys : Dict} {keyId : String} {key : Dict} :
    publishedKey trustedKeys keyId = some key ↔
      ∃ k ks, Dict.get trustedKeys "keys" = .arr (k :: ks) ∧ (k :: ks).filterMap (keyWithId keyId) = [key] := by
  unfold publishedKey
  cases Dict.get trustedKeys "keys" with
  | arr ks =>
    cases ks with
    | nil => simp
    | cons k ks =>
      have e : (∃ k' ks', Json.arr (k :: ks) = .arr (k' :: ks') ∧
          (k' :: ks').filterMap (keyWithId keyId) = [key]) ↔ (k :: ks).filterMap (keyWithId keyId) = [key] := by
        simp
      rw [e]
      dsimp only
      generalize (k :: ks).filterMap (keyWithId keyId) = found
      match found with
      | [] => simp
      | [_] => simp
      | _ :: _ :: _ => simp
  | _ => simp

theorem selectKeyWith_ok {P : Platform} {R : KeyRules} {trustedKeys : Dict} {signer : PartyRef}
    {signature : SignatureSpec} {signedAt : Datetime} {key : Dict} :
    selectKeyWith P R trustedKeys signer signature signedAt = .ok key ↔
      KeySelected R.use trustedKeys signer signature signedAt key := by
  unfold selectKeyWith
  simp only [Fallible.bind_eq_ok, Fallible.pure_eq_ok, requireMapping_ok, orLogError_ok, raiseIf_ok, not_not,
    uncaught_ok, keyArray_ok, uniqueKey_ok, checkKeyBoundWith_ok]
  constructor
  · rintro ⟨c, hc, _, hd, p, hp, _, hpt, ks, ⟨k, ks', hks, e⟩, key', hkey, _, halg, us, hus, _, huse, status, hs,
      _, hst, _, hnb, _, hex, _, hrv, ek⟩
    subst e ek
    exact ⟨⟨c, hc, hd⟩, ⟨p, hp, hpt⟩, publishedKey_eq_some.mpr ⟨k, ks', hks, hkey⟩, halg, ⟨us, hus, huse⟩,
      status_ok.mp ⟨status, hs, hst⟩, hnb, hex, hrv⟩
  · intro h
    obtain ⟨c, hc, hd⟩ := h.contract
    obtain ⟨p, hp, hpt⟩ := h.issuer
    obtain ⟨k, ks, hks, hkey⟩ := publishedKey_eq_some.mp h.published
    obtain ⟨us, hus, huse⟩ := h.uses
    obtain ⟨status, hs, hst⟩ := status_ok.mpr h.status
    exact ⟨c, hc, (), hd, p, hp, (), hpt, _, ⟨k, ks, hks, rfl⟩, key, hkey, (), h.algorithm, us, hus, (), huse,
      status, hs, (), hst, (), h.notBefore, (), h.expiresAt, (), h.revokedAt, rfl⟩

/-- the JWK is an Ed25519 key for the key id -/
def jwkMatches (jwk : Dict) (keyId : String) : Bool :=
  isStr (Dict.get jwk "kty") "OKP" && isStr (Dict.get jwk "crv") "Ed25519"
    && noneOr (Dict.get jwk "kid") keyId && noneOr (Dict.get jwk "alg") "EdDSA"

theorem checkJwkSignature_ok {P : Platform} {R : Ed25519Rules} {statement : Dict}
    {signature : SignatureSpec} {key : Dict} {u : Unit} :
    checkJwkSignature P R statement signature key = .ok u ↔
      ∃ jwk x k σ message, Dict.get key "public_key_jwk" = .obj jwk ∧ jwkMatches jwk signature.keyId = true ∧
        Dict.get jwk "x" = .str x ∧ base64urlBytes x = some k ∧ base64urlBytes signature.value = some σ ∧
        (k.length = 32 ∧ σ.length = 64) ∧ canonicalizeBytes P (.obj statement) = .ok message ∧
        P.ed25519Verify k σ message = true := by
  unfold checkJwkSignature
  simp only [Fallible.bind_eq_ok, requireMapping_ok, requireString_ok, raiseIf_ok, not_not, decodeBase64url_ok,
    uncaught_ok]
  constructor
  · rintro ⟨jwk, hjwk, _, hmatch, x, hx, k, hk, σ, hσ, _, hlen, message, hm, hv⟩
    exact ⟨jwk, x, k, σ, message, hjwk, hmatch, hx.1, hk, hσ, hlen, hm, hv⟩
  · rintro ⟨jwk, x, k, σ, message, hjwk, hmatch, hx, hk, hσ, hlen, hm, hv⟩
    have hne : x ≠ "" := by
      intro he
      rw [he] at hk
      cases hk
    exact ⟨jwk, hjwk, (), hmatch, x, ⟨hx, hne⟩, k, hk, σ, hσ, (), hlen, message, hm, hv⟩

theorem publishedBytes_eq {key jwk : Dict} {x : String} (hjwk : Dict.get key "public_key_jwk" = .obj jwk)
    (hx : Dict.get jwk "x" = .str x) : publishedBytes key = base64urlBytes x := by
  unfold publishedBytes
  rw [hjwk]
  dsimp only
  rw [hx]

/-- **An accepted artifact** carries a signature that the published key verifies on the statement. -/
theorem signedWith_of_checked {P : Platform} {use : String} {R : Ed25519Rules}
    {artifact trustedKeys statement : Dict} {signer : PartyRef} {signature : SignatureSpec}
    {signedAt : Datetime} {key : Dict}
    (hs : SignatureSpec.fromDict (Dict.get artifact "signature") = .ok signature)
    (hk : KeySelected use trustedKeys signer signature signedAt key)
    (hv : checkJwkSignature P R statement signature key = .ok ()) :
    ∃ k σ message, signedWith artifact trustedKeys = some (k, σ) ∧
      canonicalizeBytes P (.obj statement) = .ok message ∧ P.ed25519Verify k σ message = true := by
  obtain ⟨jwk, x, k, σ, message, hjwk, -, hx, hk', hσ, -, hm, hver⟩ := checkJwkSignature_ok.mp hv
  have hkb : publishedBytes key = some k := (publishedBytes_eq hjwk hx).trans hk'
  refine ⟨k, σ, message, ?_, hm, hver⟩
  unfold signedWith
  rw [hs]
  show (publishedKey trustedKeys signature.keyId >>= _) = _
  rw [hk.published]
  show (publishedBytes key >>= _) = _
  rw [hkb]
  show (base64urlBytes signature.value >>= _) = _
  rw [hσ]
  rfl

/-! ## a countersignature in the log -/

theorem requireNonnegativeInt_ok {value : Json} {fieldName code : String} {n : Nat} :
    requireNonnegativeInt value fieldName code = .ok n ↔ value = .int n := by
  cases value with
  | int i =>
    unfold requireNonnegativeInt
    dsimp only
    by_cases hi : i < 0
    · rw [if_pos hi, Json.int.injEq]
      exact iff_of_false (fun h => nomatch h) (by omega)
    · rw [if_neg hi, Except.ok.injEq, Json.int.injEq]
      omega
  | _ => simp [requireNonnegativeInt, logError]

/-- what a countersignature says of its place in the log, where its digest is included -/
structure Anchored (P : Platform) (artifact : Dict) (inclusionProof : Json) (checkpoint : Dict)
    (included : VerifiedInclusion) : Prop where
  contract : ∃ contract, Dict.get artifact "contract" = .obj contract ∧
    declares contract "receipt_countersignature" "v1" = true
  anchor : ∃ anchor, Dict.get artifact "anchor_reference" = .obj anchor ∧
    isStr (Dict.get anchor "type") "transparency_log" = true ∧ Dict.get anchor "id" = .str included.logId ∧
    included.logId ≠ "" ∧ Dict.get anchor "leaf_index" = .int included.leafIndex
  digest : ∃ digest, parseDigest P (Dict.get artifact "receipt_digest") "countersignature.receipt_digest" = .ok digest ∧
    verifyInclusion P (.obj digest.spec.toDict) inclusionProof checkpoint = .ok included

/-- an error of the inclusion stays an error -/
theorem orphan_then {x : LogM VerifiedInclusion} {f : VerifiedInclusion → LogM VerifiedInclusion}
    {r : VerifiedInclusion} :
    (match x with
      | .error (.verification code message) =>
        if code = "LEAF_DIGEST_MISMATCH" then
          logError "ORPHAN_COUNTERSIGNATURE"
            "counter-signature digest is not the digest proven at the declared log leaf" >>= f
        else logError code message >>= f
      | r => r >>= f) = .ok r ↔ ∃ included, x = .ok included ∧ f included = .ok r := by
  rcases x with (⟨code, message⟩ | e) | included
  · refine iff_of_false (fun h => ?_) fun ⟨_, h, _⟩ => nomatch h
    dsimp only at h
    split at h
    · cases h
    · cases h
  · exact Fallible.bind_eq_ok
  · exact Fallible.bind_eq_ok

/-- **An accepted countersignature is anchored**: its own digest is included at the leaf and in the log that its
anchor names, under a checkpoint that is signed; and every one that is so is accepted. -/
theorem verifyCountersignatureInclusion_ok {P : Platform} {countersignature inclusionProof : Json}
    {checkpoint trustedKeys : Dict} {r : VerifiedInclusion} :
    verifyCountersignatureInclusion P countersignature inclusionProof checkpoint trustedKeys = .ok r ↔
      ∃ artifact verified included, countersignature = .obj artifact ∧
        verifyCheckpointSignature P checkpoint trustedKeys = .ok verified ∧
        Anchored P artifact inclusionProof checkpoint included ∧ r = { included with checkpoint := some verified } := by
  unfold verifyCountersignatureInclusion
  simp only [Fallible.bind_eq_ok, requireMapping_ok, requireString_ok, raiseIf_ok, not_not, requireNonnegativeInt_ok]
  constructor
  · rintro ⟨artifact, rfl, contract, hcontract, _, hdeclares, digest, hdigest, anchor, hanchor, _, htype, logId,
      ⟨hid, hne⟩, leafIndex, hindex, verified, hverified, h⟩
    obtain ⟨included, hincluded, hrest⟩ := orphan_then.mp h
    obtain ⟨_, hplace, hresult⟩ := Fallible.bind_eq_ok.mp hrest
    obtain ⟨rfl, rfl⟩ := not_not.mp (raiseIf_ok.mp hplace)
    cases Fallible.pure_eq_ok.mp hresult
    exact ⟨artifact, verified, included, rfl, hverified,
      ⟨⟨contract, hcontract, hdeclares⟩, ⟨anchor, hanchor, htype, hid, hne, hindex⟩, digest, hdigest, hincluded⟩, rfl⟩
  · rintro ⟨artifact, verified, included, rfl, hverified, h, rfl⟩
    obtain ⟨contract, hcontract, hdeclares⟩ := h.contract
    obtain ⟨anchor, hanchor, htype, hid, hne, hindex⟩ := h.anchor
    obtain ⟨digest, hdigest, hincluded⟩ := h.digest
    refine ⟨artifact, rfl, contract, hcontract, (), hdeclares, digest, hdigest, anchor, hanchor, (), htype, _,
      ⟨hid, hne⟩, _, hindex, verified, hverified, orphan_then.mpr ⟨included, hincluded, ?_⟩⟩
    exact Fallible.bind_eq_ok.mpr ⟨(), raiseIf_ok.mpr (not_not.mpr ⟨rfl, rfl⟩), rfl⟩

end Actenon
