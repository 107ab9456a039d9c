import ActenonKernel.Proof.Discovery
import ActenonKernel.Proof.Service
import ActenonKernel.Policy.Engine
import ActenonKernel.Verifier.KeySet

/-!
# Keys resolved from a well-known origin (`actenon/proof/signers/well_known.py`)

The resolver keeps the last discovery document until it expires, and fetches it again where a key
is not found. The signature verifier answers `False` for every exception of the resolver's own
classes; the others reach its caller.

* `getDocument`            `_get_document`, with the cache it leaves;
* `selectKey`              `_select_key` with `_assert_key_usable`;
* `resolveKey`             `resolve_key`: at most two documents;
* `verifySignatureWithResolvedKey`    the signature under the key of the document;
* `verifyWithMetadata`     `verify_with_metadata`;
* `WellKnownVerifier.asSigner`        the verifier as the signer of a `PCCBVerifier`.
-/

set_option linter.unusedSectionVars false

namespace Actenon

namespace WellKnown

/-! ## the resolver -/

structure CachedDiscoveryDocument where
  document : KeyDiscoveryDocument
  expiresAt : Datetime

/-- a resolver; what `_normalize_origin` made of the issuer's origin is kept, and `__post_init__` refuses a
lifetime that is not positive -/
structure WellKnownKeyResolver where
  issuerOrigin : String
  defaultCacheMaxAgeSeconds : Int := 300
  positive : 0 < defaultCacheMaxAgeSeconds := by decide
  /-- `fetch_document is _default_fetch_document` -/
  fetchIsDefault : Bool := false

/-- what one call of `_get_document` meets: the time, and what the fetcher returns -/
structure Exchange where
  now : Datetime
  headers : List (String × String)
  body : List UInt8

def WellKnownKeyResolver.discoveryUrl (R : WellKnownKeyResolver) : String := R.issuerOrigin ++ wellKnownKeysPath

section
variable (N : Network)

/-- the value of the last header with a lower-cased name -/
def normalizedHeader (headers : List (String × String)) (name : String) : Option String :=
  (headers.reverse.find? fun h => N.lower h.1 = name).map Prod.snd

/-- `_parse_cache_control_max_age` over the parts of the header -/
def parseMaxAge : List (List Char) → ResolverM (Option Int)
  | [] => .ok none
  | part :: parts =>
    let part := (N.lower (String.ofList (PyString.strip part))).toList
    if "max-age=".toList.isPrefixOf part then
      match N.intOfStr (String.ofList (PyString.strip (part.drop 8))) with
      | .ok parsed => .ok (if parsed > 0 then some parsed else none)
      | .error e => if e.kind = .valueError then .ok none else .error (.other e)
    else parseMaxAge parts

def parseCacheControlMaxAge : Option String → ResolverM (Option Int)
  | none => .ok none
  | some raw => parseMaxAge N (raw.toList.splitOn ',')

/-- `min(candidates) if candidates else default` -/
def chooseMaxAge (cacheControl advisory : Option Int) (dflt : Int) : Int :=
  match cacheControl, advisory with
  | some a, some b => min a b
  | some a, none => a
  | none, some b => b
  | none, none => dflt

/-- `now + timedelta(seconds=max_age)` -/
def expiryOf (now : Datetime) (maxAgeSeconds : Int) : Except PyError Datetime := do
  let lifetime ← timedeltaSeconds maxAgeSeconds
  now.shift lifetime

def fetchDocument (R : WellKnownKeyResolver) (x : Exchange) : ResolverM CachedDiscoveryDocument := do
  validateWellKnownFetchUrl N R.discoveryUrl R.issuerOrigin R.fetchIsDefault
  let document ← parseDiscoveryDocument N x.body R.issuerOrigin R.discoveryUrl
  let cacheControl ← parseCacheControlMaxAge N (normalizedHeader N x.headers "cache-control")
  let maxAgeSeconds := chooseMaxAge cacheControl document.cacheMaxAgeSeconds R.defaultCacheMaxAgeSeconds
  let expiresAt ← letThrough (expiryOf x.now maxAgeSeconds)
  return ⟨document, expiresAt⟩

/-- the document of the cache, while it is fresh -/
def freshDocument (cache : Option CachedDiscoveryDocument) (now : Datetime) : Option KeyDiscoveryDocument :=
  match cache with
  | some cached => if now < cached.expiresAt then some cached.document else none
  | none => none

/-- `_get_document`, with the cache it leaves -/
def getDocument (R : WellKnownKeyResolver) (cache : Option CachedDiscoveryDocument) (bypassCache : Bool)
    (x : Exchange) : ResolverM KeyDiscoveryDocument × Option CachedDiscoveryDocument :=
  match if bypassCache then none else freshDocument cache x.now with
  | some document => (.ok document, cache)
  | none =>
    match fetchDocument N R x with
    | .ok cached => (.ok cached.document, some cached)
    | .error e => (.error e, cache)

/-! ## the key -/

structure KeyRequest where
  keyId : String
  algorithm : String
  issuedAt : Datetime
  issuer : Option PartyRef := none
  requiredUse : Option String := none
  externalAnchorVerified : Bool := false
  externalAnchorTime : Option Datetime := none

structure ResolvedVerificationKey where
  issuer : PartyRef
  origin : String
  publishedAt : Datetime
  key : DiscoveredVerificationKey

/-- a key that is there and is not to be used -/
def refuseKey (kind : ResolverErrorClass) (message : String) : ResolverM Unit := .error (.resolver kind message)

def assertKeyPurpose (key : DiscoveredVerificationKey) (requiredUse : Option String) : ResolverM Unit :=
  match requiredUse with
  | some use =>
    if use ∉ allowedDiscoveryKeyUses ∨ use = legacyVerifyUse then
      formatError s!"required_use {N.repr use} is not a supported purpose"
    else if use ∉ key.use then
      refuseKey .purposeMismatch
        s!"discovery key {N.repr key.keyId} is not authorized for required use {N.repr use}"
    else .ok ()
  | none =>
    if ¬ key.use.any (fun use => use ∈ allowedDiscoveryKeyUses) then
      formatError s!"discovery key {N.repr key.keyId} has no supported use"
    else .ok ()

/-- a hard-revoked key needs an anchor from before the revocation -/
def anchoredBefore (key : DiscoveredVerificationKey) (q : KeyRequest) : Bool :=
  match q.externalAnchorTime, key.hardRevokedAt with
  | some anchored, some hardRevokedAt => q.externalAnchorVerified ∧ anchored < hardRevokedAt
  | _, _ => false

def assertKeyUsable (key : DiscoveredVerificationKey) (q : KeyRequest) : ResolverM Unit := do
  let name := s!"discovery key {N.repr key.keyId}"
  if key.status ∉ allowedDiscoveryKeyStatuses then
    formatError s!"{name} has unsupported status {N.repr key.status}"
  else do
    assertKeyPurpose N key q.requiredUse
    if key.notBefore.any (q.issuedAt < ·) then
      refuseKey .notYetValid s!"{name} is not yet valid for the artifact issuance time"
    else if key.expiresAt.any (· ≤ q.issuedAt) then
      refuseKey .expired s!"{name} is expired for the artifact issuance time"
    else if key.status = "suspended" then
      refuseKey .revoked
        s!"{name} is suspended; this pass has no timestamped suspension boundary for historical verification"
    else if (key.status = "hard_revoked" ∨ key.hardRevokedAt.isSome) ∧ ¬ anchoredBefore key q then
      refuseKey .revoked s!"{name} is hard-revoked and requires an independently verified pre-revocation external anchor"
    else if key.status = "revoked" ∧ key.revokedAt.isNone then
      refuseKey .revoked s!"{name} is revoked without an issue-time boundary"
    else if key.revokedAt.any (· ≤ q.issuedAt) then
      refuseKey .revoked s!"{name} was revoked before or at the artifact issuance time"
    else .ok ()

/-- the issuer of the artifact is not that of the document -/
def issuerDiffers (document : KeyDiscoveryDocument) (issuer : Option PartyRef) : Bool :=
  issuer.any fun p => document.issuer.type ≠ p.type ∨ document.issuer.id ≠ p.id

def selectKey (document : KeyDiscoveryDocument) (q : KeyRequest) : ResolverM ResolvedVerificationKey :=
  if issuerDiffers document q.issuer then
    let given := (q.issuer.map fun p => s!"{p.type}:{p.id}").getD ""
    .error (.resolver .issuerMismatch (s!"discovery document issuer {document.issuer.type}:{document.issuer.id} "
      ++ s!"does not match artifact issuer {given}"))
  else
    match document.keys.filter (fun item => item.keyId = q.keyId) with
    | [] => .error (.resolver .keyNotFound s!"no discovery key matched key_id {N.repr q.keyId}")
    | [key] =>
      if key.algorithm ≠ q.algorithm then
        .error (.resolver .keyNotFound
          s!"discovery key {N.repr q.keyId} advertises algorithm {N.repr key.algorithm}, not {N.repr q.algorithm}")
      else do
        assertKeyUsable N key q
        return ⟨document.issuer, document.origin, document.publishedAt, key⟩
    | _ => formatError s!"multiple discovery keys matched key_id {N.repr q.keyId}"

def isKeyNotFound {α : Type} : ResolverM α → Bool
  | .error (.resolver .keyNotFound _) => true
  | _ => false

/-- `resolve_key`, with the cache it leaves; the second exchange is met where the key is not found -/
def resolveKey (R : WellKnownKeyResolver) (cache : Option CachedDiscoveryDocument) (bypassCache : Bool)
    (first second : Exchange) (q : KeyRequest) :
    ResolverM ResolvedVerificationKey × Option CachedDiscoveryDocument :=
  match getDocument N R cache bypassCache first with
  | (.error e, cache) => (.error e, cache)
  | (.ok document, cache) =>
    let resolved := selectKey N document q
    if isKeyNotFound resolved ∧ ¬ (bypassCache ∨ cache.isNone) then
      match getDocument N R cache true second with
      | (.error e, cache) => (.error e, cache)
      | (.ok refreshed, cache) => (selectKey N refreshed q, cache)
    else (resolved, cache)

/-! ## the signature -/

/-- `_decode_unpadded_base64url_wire` -/
def decodeUnpaddedBase64urlWire (raw : Json) (fieldName : String) : ResolverM (List UInt8) :=
  match raw with
  | .str s =>
    if s = "" then formatError s!"{fieldName} must be a non-empty base64url string"
    else if '=' ∈ s.toList then formatError s!"{fieldName} must be base64url without padding"
    else if (s.toList.mapM base64Value).isNone then
      formatError s!"{fieldName} contains characters outside unpadded base64url"
    else
      match base64urlBytes s with
      | some bytes => .ok bytes
      | none => formatError s!"{fieldName} could not be decoded as base64url"
  | _ => formatError s!"{fieldName} must be a non-empty base64url string"

/-- `jwk[name]`, decoded; the `KeyError` of a missing member is caught -/
def jwkBytes (jwk : Dict) (name : String) : ResolverM (List UInt8) :=
  match Dict.find jwk (.str name) with
  | some raw => decodeUnpaddedBase64urlWire raw s!"public_key_jwk.{name}"
  | none => formatError s!"public_key_jwk is missing required field {N.repr name}"

def intFromBytes (bytes : List UInt8) : Nat := bytes.foldl (fun n b => 256 * n + b.toNat) 0

def neitherNoneNor (x : Json) (s : String) : Bool :=
  match x with
  | .null => false
  | x => !isStr x s

def verifyEdDSA (payload rawSignature : List UInt8) (jwk : Dict) : ResolverM Bool := do
  if ¬ (isStr (Dict.get jwk "kty") "OKP" ∧ isStr (Dict.get jwk "crv") "Ed25519") then
    formatError "EdDSA discovery keys must publish an Ed25519 OKP JWK"
  else do
    let publicKeyBytes ← jwkBytes N jwk "x"
    if publicKeyBytes.length ≠ 32 then
      formatError "EdDSA discovery keys must publish a raw 32-byte Ed25519 public key"
    else if rawSignature.length ≠ 64 then .ok false
    else .ok (N.ed25519Verify publicKeyBytes rawSignature payload)

def verifyRS256 (payload rawSignature : List UInt8) (jwk : Dict) : ResolverM Bool := do
  if ¬ isStr (Dict.get jwk "kty") "RSA" then formatError "RS256 discovery keys must publish an RSA JWK"
  else do
    let modulus ← (jwkBytes N jwk "n").map intFromBytes
    let exponent ← (jwkBytes N jwk "e").map intFromBytes
    if modulus < 2 ^ 2047 then formatError "RS256 discovery keys must use RSA modulus size >= 2048 bits"
    else if exponent ≠ 65537 then formatError "RS256 discovery keys must use public exponent 65537"
    else if ¬ N.rsaPublicNumbers exponent modulus then
      formatError "RS256 discovery key has invalid RSA public numbers"
    else .ok (N.rsaVerify exponent modulus rawSignature payload)

def verifySignatureWithResolvedKey (payload : List UInt8) (signature : SignatureSpec)
    (resolved : ResolvedVerificationKey) : ResolverM Bool := do
  let jwk := resolved.key.publicKeyJwk
  if signature.encoding ≠ "base64url" then .ok false
  else if neitherNoneNor (Dict.get jwk "kid") resolved.key.keyId then
    formatError "public_key_jwk.kid does not match the discovery key_id"
  else if neitherNoneNor (Dict.get jwk "alg") signature.algorithm then
    formatError "public_key_jwk.alg does not match the signature algorithm"
  else if ¬ N.hasCrypto then
    .error (.resolver .unsupportedAlgorithm ("asymmetric well-known key verification requires the optional "
      ++ "'cryptography' package in the current Python path"))
  else do
    let rawSignature ← decodeUnpaddedBase64urlWire (.str signature.value) "signature.value"
    if signature.algorithm = "EdDSA" then verifyEdDSA N payload rawSignature jwk
    else if signature.algorithm = "RS256" then verifyRS256 N payload rawSignature jwk
    else .error (.resolver .unsupportedAlgorithm (s!"well-known verification supports RS256 and EdDSA only when the "
      ++ s!"optional crypto backend is available; got {N.repr signature.algorithm}"))

/-! ## the verifier -/

/-- `WellKnownKeySignatureVerifier` -/
structure WellKnownVerifier where
  resolver : WellKnownKeyResolver
  requiredUse : String := "proof_issuance"
  externalAnchorVerified : Bool := false
  externalAnchorTime : Option Datetime := none

/-- the request of a verifier for the key of a signature -/
def WellKnownVerifier.request (V : WellKnownVerifier) (signature : SignatureSpec) (issuer : Option PartyRef)
    (issuedAt : Datetime) (externalAnchorVerified : Option Bool) (externalAnchorTime : Option Datetime) : KeyRequest where
  keyId := signature.keyId
  algorithm := signature.algorithm
  issuedAt := issuedAt
  issuer := issuer
  requiredUse := some V.requiredUse
  externalAnchorVerified := externalAnchorVerified.getD V.externalAnchorVerified
  externalAnchorTime := externalAnchorTime.or V.externalAnchorTime

/-- `except WellKnownKeyResolverError: return False` -/
def failClosed : ResolverM Bool → Except PyError Bool
  | .ok b => .ok b
  | .error (.resolver _ _) => .ok false
  | .error (.other e) => .error e

/-- `verify_with_metadata`, with the cache it leaves -/
def WellKnownVerifier.verifyWithMetadata (V : WellKnownVerifier) (cache : Option CachedDiscoveryDocument)
    (first second : Exchange) (payload : List UInt8) (signature : SignatureSpec) (issuer : Option PartyRef)
    (issuedAt : Option Datetime) (externalAnchorVerified : Option Bool) (externalAnchorTime : Option Datetime) :
    Except PyError Bool × Option CachedDiscoveryDocument :=
  match issuedAt with
  | none => (.ok false, cache)
  | some issuedAt =>
    let q := V.request signature issuer issuedAt externalAnchorVerified externalAnchorTime
    let (resolved, cache) := resolveKey N V.resolver cache false first second q
    (failClosed (resolved >>= verifySignatureWithResolvedKey N payload signature), cache)

/-- the verifier as the signer of a `PCCBVerifier` -/
def WellKnownVerifier.asSigner (V : WellKnownVerifier) (cache : Option CachedDiscoveryDocument)
    (first second : Exchange) : List UInt8 → SignatureSpec → PartyRef → Datetime → PyM Bool :=
  fun payload signature issuer issuedAt =>
    orRaise (V.verifyWithMetadata N cache first second payload signature (some issuer) (some issuedAt) none none).1

end

end WellKnown

end Actenon
