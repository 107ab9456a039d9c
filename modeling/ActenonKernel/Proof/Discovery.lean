import ActenonKernel.Core.Equal
import ActenonKernel.Models.Contracts
import ActenonKernel.Lib.PyString
import ActenonKernel.Proof.CanonicalReads

/-!
# Discovery documents (`actenon/proof/signers/well_known.py`)

The key set that an issuer publishes at `/.well-known/actenon/keys.json`. It is fetched from the
issuer's origin and read member after member; a member is refused with a `KeyDiscoveryFormatError`
or the exception of the function that reads it is let through.

* `Network`                 what the resolver takes from outside: `urllib`, `ipaddress`, `json`, `cryptography`;
* `normalizeOrigin`         `_normalize_origin`;
* `parseKeyDescriptor`      `_parse_key_descriptor`;
* `parseDiscoveryDocument`  `_parse_discovery_document`.
-/

set_option linter.unusedSectionVars false

namespace Actenon

namespace WellKnown

/-- the subclasses of `WellKnownKeyResolverError` -/
inductive ResolverErrorClass where
  | fetch
  | format
  | keyNotFound
  | issuerMismatch
  | revoked
  | purposeMismatch
  | expired
  | notYetValid
  | unsupportedAlgorithm
deriving DecidableEq, Repr

/-- an exception: one of the resolver's own classes or any other one -/
inductive ResolverError where
  | resolver (kind : ResolverErrorClass) (message : String)
  | other (e : PyError)
deriving DecidableEq, Repr

abbrev ResolverM := Except ResolverError

def fetchError {α : Type} (message : String) : ResolverM α := .error (.resolver .fetch message)

def formatError {α : Type} (message : String) : ResolverM α := .error (.resolver .format message)

/-- an exception that no clause of the resolver catches -/
def letThrough {α : Type} (x : Except PyError α) : ResolverM α := x.mapError .other

/-! ## the libraries -/

structure SplitResult where
  scheme : String
  netloc : String
  path : String
  query : String
  fragment : String
  username : Option String
  password : Option String
  hostname : Option String
  /-- `.port`, which may raise a `ValueError` -/
  port : Except PyError (Option Nat)

/-- what the resolver takes from outside the repository -/
structure Network where
  interpreter : StrictLoads.Interpreter
  /-- a document with halves of surrogate pairs, which are no text here -/
  unpaired : StrictLoads.LoadedJson → Json
  urlsplit : String → Except PyError SplitResult
  lower : String → String
  repr : String → String
  /-- `ipaddress.ip_address(host)` and `_is_blocked_ip_address`, `none` for a `ValueError` -/
  ipAddress : String → Option Bool
  /-- the addresses of `socket.getaddrinfo`, `none` for one that is not of the internet families -/
  getaddrinfo : String → Except PyError (List (Option String))
  /-- the optional `cryptography` package can be imported -/
  hasCrypto : Bool
  /-- `Ed25519PublicKey.from_public_bytes(key).verify(signature, message)`, `false` for `InvalidSignature` -/
  ed25519Verify : List UInt8 → List UInt8 → List UInt8 → Bool
  /-- `RSAPublicNumbers(e, n).public_key()`, `false` for a `ValueError` -/
  rsaPublicNumbers : Nat → Nat → Bool
  /-- `.verify(signature, message, PKCS1v15(), SHA256())` with that key, `false` for `InvalidSignature` -/
  rsaVerify : Nat → Nat → List UInt8 → List UInt8 → Bool
  intOfStr : String → Except PyError Int

/-- `loads_no_duplicate_keys(body)` -/
def Network.loads (N : Network) (body : List UInt8) : Except PyError Json := do
  let loaded ← StrictLoads.loadsNoDuplicateKeys N.interpreter (.bytes body) StrictLoads.defaultMaxJsonBytes
    StrictLoads.defaultMaxJsonDepth
  return (ofLoaded loaded).getD (N.unpaired loaded)

def wellKnownKeysPath : String := "/.well-known/actenon/keys.json"

def blockedMetadataHosts : List String := ["169.254.169.254", "metadata", "metadata.google.internal"]

def allowedDiscoveryKeyStatuses : List String := ["active", "retired", "suspended", "revoked", "hard_revoked"]

def legacyVerifyUse : String := "verify"

def allowedDiscoveryKeyUses : List String :=
  [legacyVerifyUse, "proof_issuance", "outcome_attestation", "receipt_countersignature"]

section
variable (N : Network)

/-! ## origins -/

/-- `host.strip("[]").lower()` -/
def normalizedHost (host : String) : String :=
  let bracket := fun c : Char => c = '[' ∨ c = ']'
  N.lower (String.ofList ((host.toList.dropWhile bracket).reverse.dropWhile bracket).reverse)

def assertPublicIpAddress (blocked : Bool) (fieldName : String) : ResolverM Unit :=
  if blocked then fetchError s!"{fieldName} resolves to a non-public IP address" else .ok ()

def assertHostIsNotBlockedIpLiteral (host fieldName : String) : ResolverM Unit :=
  if normalizedHost N host ∈ blockedMetadataHosts then fetchError s!"{fieldName} uses a blocked metadata host"
  else
    match N.ipAddress (normalizedHost N host) with
    | none => .ok ()
    | some blocked => assertPublicIpAddress blocked fieldName

def ResolverError.text : ResolverError → String
  | .resolver _ message => message
  | .other e => e.message

def normalizeOrigin (origin : String) : Except PyError String := do
  let parts ← N.urlsplit origin
  if parts.scheme ≠ "https" then valueError "issuer_origin must use https"
  else if parts.netloc = "" ∨ parts.hostname.getD "" = "" then valueError "issuer_origin must include a host"
  else if parts.username.isSome ∨ parts.password.isSome then
    valueError "issuer_origin must not include userinfo"
  else do
    let _ ← (assertHostIsNotBlockedIpLiteral N (parts.hostname.getD "") "issuer_origin").mapError
      fun e => ⟨.valueError, e.text⟩
    let _ ← parts.port
    if parts.query ≠ "" ∨ parts.fragment ≠ "" then
      valueError "issuer_origin must not include query or fragment components"
    else if parts.path ≠ "" ∧ parts.path ≠ "/" then
      valueError "issuer_origin must be an origin, not a full URL path"
    else .ok s!"{parts.scheme}://{N.lower parts.netloc}"

def originFromUrl (url fieldName : String) : ResolverM String := do
  let parts ← letThrough (N.urlsplit url)
  if parts.scheme ≠ "https" then fetchError s!"{fieldName} must use https"
  else if parts.netloc = "" ∨ parts.hostname.getD "" = "" then fetchError s!"{fieldName} must include a host"
  else if parts.username.isSome ∨ parts.password.isSome then fetchError s!"{fieldName} must not include userinfo"
  else
    match parts.port with
    | .error _ => fetchError s!"{fieldName} has an invalid port"
    | .ok _ => .ok s!"{parts.scheme}://{N.lower parts.netloc}"

def assertResolvedHostIsPublic (host fieldName : String) : ResolverM Unit :=
  if normalizedHost N host ∈ blockedMetadataHosts then fetchError s!"{fieldName} uses a blocked metadata host"
  else
    match N.getaddrinfo (normalizedHost N host) with
    | .error e =>
      if e.kind = .other "OSError" then
        fetchError s!"could not resolve {fieldName} host {N.repr host}: {e.message}"
      else .error (.other e)
    | .ok resolved => resolved.forM fun address =>
      match address with
      | none => .ok ()
      | some address =>
        match N.ipAddress address with
        | none => fetchError s!"{fieldName} resolved to an invalid IP address {N.repr address}"
        | some blocked => assertPublicIpAddress blocked fieldName

def validateWellKnownFetchUrl (url expectedOrigin : String) (resolveHost : Bool) : ResolverM Unit := do
  let field := "well-known discovery URL"
  let parts ← letThrough (N.urlsplit url)
  let origin ← originFromUrl N url field
  if origin ≠ expectedOrigin then
    fetchError s!"{field} origin {N.repr origin} does not match expected issuer origin {N.repr expectedOrigin}"
  else if parts.path ≠ wellKnownKeysPath then fetchError s!"{field} path must be {N.repr wellKnownKeysPath}"
  else if parts.query ≠ "" ∨ parts.fragment ≠ "" then
    fetchError s!"{field} must not include query or fragment components"
  else
    match parts.hostname with
    | none => fetchError s!"{field} must include a host"
    | some host => do
      assertHostIsNotBlockedIpLiteral N host field
      if resolveHost then assertResolvedHostIsPublic N host field else .ok ()

/-! ## keys -/

structure DiscoveredVerificationKey where
  keyId : String
  algorithm : String
  use : List String
  status : String
  publicKeyJwk : Dict
  notBefore : Option Datetime := none
  expiresAt : Option Datetime := none
  revokedAt : Option Datetime := none
  hardRevokedAt : Option Datetime := none
  replacedBy : Json := .null
  revocationReason : Json := .null

/-- one use of `_normalize_key_uses` -/
def normalizeKeyUse (normalized : List String) (use : Json) : ResolverM (List String) :=
  match use with
  | .str use =>
    if use = "" then formatError "keys[].use entries must be non-empty strings"
    else if use ∉ allowedDiscoveryKeyUses then
      let expected := ", ".intercalate allowedDiscoveryKeyUses
      formatError s!"keys[].use {N.repr use} is not supported; expected one of {expected}"
    else .ok (if use ∈ normalized then normalized else normalized ++ [use])
  | _ => formatError "keys[].use entries must be non-empty strings"

def normalizeKeyUses (raw : Json) : ResolverM (List String) :=
  match raw with
  | .str use => normalizeKeyUse N [] (.str use)
  | .arr uses | .tup uses =>
    if uses = [] then formatError "keys[].use must not be empty" else uses.foldlM (normalizeKeyUse N) []
  | _ => formatError "keys[].use must be a non-empty string or array of strings"

/-- a required text of `_parse_key_descriptor` -/
def requiredText (raw : Dict) (fieldName : String) : ResolverM String :=
  match Dict.get raw fieldName with
  | .str s => if s = "" then formatError s!"keys[].{fieldName} must be a non-empty string" else .ok s
  | _ => formatError s!"keys[].{fieldName} must be a non-empty string"

/-- `parse_timestamp(raw[name], "keys[].name") if raw.get(name) else None` -/
def optionalTimestamp (raw : Dict) (name : String) : ResolverM (Option Datetime) :=
  if (Dict.get raw name).truthy then
    letThrough ((parseTimestamp (Dict.get raw name) s!"keys[].{name}").map some)
  else .ok none

/-- `raw.get("key_id") or raw.get("kid")` -/
def descriptorKeyId (raw : Dict) : Json :=
  if (Dict.get raw "key_id").truthy then Dict.get raw "key_id" else Dict.get raw "kid"

/-- both spellings of the id are there and differ -/
def kidDiffers (raw : Dict) : Bool :=
  match Dict.get raw "key_id", Dict.get raw "kid" with
  | .null, _ => false
  | _, .null => false
  | a, b => !a.pyEq b

def parseKeyDescriptor (raw : Json) : ResolverM DiscoveredVerificationKey :=
  match raw with
  | .obj raw => do
    let keyId ←
      match descriptorKeyId raw with
      | .str s => if s = "" then formatError "keys[].key_id must be a non-empty string" else .ok s
      | _ => formatError "keys[].key_id must be a non-empty string"
    if kidDiffers raw then formatError "keys[].kid must match keys[].key_id when both are present"
    else do
      let algorithm ← requiredText raw "algorithm"
      let use ← normalizeKeyUses N (Dict.get raw "use")
      let status ← requiredText raw "status"
      match Dict.get raw "public_key_jwk" with
      | .obj publicKeyJwk => do
        let notBefore ← optionalTimestamp raw "not_before"
        let expiresAt ← optionalTimestamp raw "expires_at"
        let revokedAt ← optionalTimestamp raw "revoked_at"
        let hardRevokedAt ← optionalTimestamp raw "hard_revoked_at"
        return ⟨keyId, algorithm, use, status, publicKeyJwk, notBefore, expiresAt, revokedAt, hardRevokedAt,
          Dict.get raw "replaced_by", Dict.get raw "revocation_reason"⟩
      | _ => formatError "keys[].public_key_jwk must be an object"
  | _ => formatError "keys[] must be an object"

/-! ## the document -/

structure KeyDiscoveryDocument where
  issuer : PartyRef
  origin : String
  publishedAt : Datetime
  keys : List DiscoveredVerificationKey
  cacheMaxAgeSeconds : Option Int := none

/-- `_parse_positive_int`; `True` is an integer -/
def parsePositiveInt (raw : Json) (fieldName : String) : ResolverM Int :=
  match raw with
  | .int n => if n ≤ 0 then formatError s!"{fieldName} must be a positive integer" else .ok n
  | .bool true => .ok 1
  | _ => formatError s!"{fieldName} must be a positive integer"

/-- the `cache` of a document, null or left out for none -/
def parseCache (raw : Json) : ResolverM (Option Int) :=
  match raw with
  | .null => .ok none
  | .obj cache =>
    match Dict.get cache "max_age_seconds" with
    | .null => .ok none
    | maxAge => (parsePositiveInt maxAge "cache.max_age_seconds").map some
  | _ => formatError "cache must be an object when present"

/-- the loop over `seen_key_ids` -/
def checkKeyIds : List String → List DiscoveredVerificationKey → ResolverM Unit
  | _, [] => .ok ()
  | seen, key :: keys =>
    if key.keyId ∈ seen then formatError s!"duplicate key_id {N.repr key.keyId} in key-discovery document"
    else checkKeyIds (key.keyId :: seen) keys

/-- the `origin` of a document, which is to be the expected one and that of the URL -/
def parseOrigin (raw : Json) (expectedOrigin fetchedUrl : String) : ResolverM String :=
  match raw with
  | .str origin =>
    if origin = "" then formatError "origin must be a non-empty string"
    else do
      let normalizedOrigin ← letThrough (normalizeOrigin N origin)
      if normalizedOrigin ≠ expectedOrigin then
        formatError (s!"well-known key document origin {N.repr normalizedOrigin} does not match "
          ++ s!"fetched origin {N.repr expectedOrigin}")
      else do
        let parts ← letThrough (N.urlsplit fetchedUrl)
        let fetchedOrigin := s!"{parts.scheme}://{parts.netloc}"
        if normalizedOrigin ≠ fetchedOrigin then
          formatError (s!"well-known key document origin {N.repr normalizedOrigin} does not match "
            ++ s!"fetched URL origin {N.repr fetchedOrigin}")
        else .ok normalizedOrigin
  | _ => formatError "origin must be a non-empty string"

def parseContract (raw : Json) : ResolverM Unit :=
  match raw with
  | .obj contract =>
    if declares contract "key_discovery" "v1" then .ok ()
    else formatError "contract must declare key_discovery v1"
  | _ => formatError "contract must be an object"

def parseKeys (raw : Json) : ResolverM (List DiscoveredVerificationKey) :=
  match raw with
  | .arr (k :: ks) => (k :: ks).mapM (parseKeyDescriptor N)
  | _ => formatError "keys must be a non-empty array"

/-- the members of a discovery document, in the order of the source -/
def parseDiscoveryPayload (payload : Dict) (expectedOrigin fetchedUrl : String) :
    ResolverM KeyDiscoveryDocument := do
  parseContract (Dict.get payload "contract")
  let normalizedOrigin ← parseOrigin N (Dict.get payload "origin") expectedOrigin fetchedUrl
  let issuer ← letThrough (PartyRef.fromDict (Dict.get payload "issuer") "issuer")
  let publishedAt ← letThrough (parseTimestamp (Dict.get payload "published_at") "published_at")
  let cacheMaxAgeSeconds ← parseCache (Dict.getD payload "cache" (.obj []))
  let keys ← parseKeys N (Dict.get payload "keys")
  checkKeyIds N [] keys
  return ⟨issuer, normalizedOrigin, publishedAt, keys, cacheMaxAgeSeconds⟩

def parseDiscoveryDocument (body : List UInt8) (expectedOrigin fetchedUrl : String) :
    ResolverM KeyDiscoveryDocument := do
  let payload ← (N.loads body).mapError fun e =>
    if e.kind = .valueError then
      .resolver .format ("well-known key document must be valid JSON without duplicate object keys "
        ++ "and within size/depth limits")
    else .other e
  match payload with
  | .obj payload => parseDiscoveryPayload N payload expectedOrigin fetchedUrl
  | _ => formatError "well-known key document must be a JSON object"

end

end WellKnown

end Actenon
