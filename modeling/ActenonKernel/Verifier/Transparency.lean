import ActenonKernel.Models.Contracts
import ActenonKernel.Proof.Canonical
import ActenonKernel.Lib.MerkleProof

/-!
# Transparency log (`actenon/verifier/transparency.py`)

Offline verification of checkpoints, inclusion proofs and consistency proofs.  The documents are
parsed member by member, with the source's codes and messages; the proofs are then checked by the
shift loops over `(fn, sn)`.

* `inclusionInputs`, `verifyInclusion`        `verify_inclusion`, its checks and its loop;
* `consistencyInputs`, `verifyConsistency`    `verify_consistency`;
* `verifyCheckpointSignature`, `verifyMonitorUpdate`, `verifyCountersignatureInclusion`.
-/

set_option linter.unusedSectionVars false

namespace Actenon

open Merkle

/-- an exception out of a transparency verification -/
inductive LogError where
  /-- `TransparencyVerificationError(code, message)` -/
  | verification (code message : String)
  | other (e : PyError)
deriving DecidableEq, Repr

abbrev LogM := Except LogError

def logError {α : Type} (code message : String) : LogM α := .error (.verification code message)

/-- `if bad: raise _error(code, message)` -/
def raiseIf (bad : Prop) [Decidable bad] (code message : String) : LogM Unit :=
  if bad then logError code message else .ok ()

/-- `except ValueError as exc: raise _error(code, message)` -/
def orLogError {α : Type} (x : Except PyError α) (code message : String) : LogM α :=
  match x with
  | .ok a => .ok a
  | .error e => if e.kind = .valueError then logError code message else .error (.other e)

/-- an exception that is not caught -/
def uncaught {α : Type} (x : Except PyError α) : LogM α := x.mapError .other

/-! ## members -/

def requireMapping (value : Json) (fieldName code : String) : LogM Dict :=
  match value with
  | .obj kvs => .ok kvs
  | _ => logError code s!"{fieldName} must be a JSON object"

def requireString (value : Json) (fieldName code : String) : LogM String :=
  match value with
  | .str s => if s = "" then logError code s!"{fieldName} must be a non-empty string" else .ok s
  | _ => logError code s!"{fieldName} must be a non-empty string"

def requireNonnegativeInt (value : Json) (fieldName code : String) : LogM Nat :=
  match value with
  | .int n =>
    if n < 0 then logError code s!"{fieldName} must be a non-negative integer" else .ok n.toNat
  | _ => logError code s!"{fieldName} must be a non-negative integer"

/-- the 32 bytes of a SHA-256 value -/
abbrev Hash256 := { bytes : List UInt8 // bytes.length = 32 }

theorem length_of_fromHex {cs : List Char} {bytes : List UInt8} (h : Hex.fromHex cs = some bytes)
    (hl : cs.length = 64) : bytes.length = 32 := by
  have e := Hex.length_toHex bytes
  rw [Hex.toHex_fromHex h, hl] at e
  omega

/-- `_HEX_256_RE.fullmatch(raw)`, with the bytes of the text -/
def hex256 (raw : String) : Option Hash256 :=
  if hl : raw.toList.length = 64 then
    match h : Hex.fromHex raw.toList with
    | some bytes => some ⟨bytes, length_of_fromHex h hl⟩
    | none => none
  else none

def parseHexHash (value : Json) (fieldName code : String) : LogM Hash256 := do
  let raw ← requireString value fieldName code
  match hex256 raw with
  | some bytes => .ok bytes
  | none => logError code s!"{fieldName} must be a lowercase 64-character SHA-256 hex value"

/-- a digest specification with the bytes of its value -/
structure LeafDigest where
  spec : DigestSpec
  bytes : Hash256
  parsed : hex256 spec.value = some bytes

def parseDigest (P : Platform) (value : Json) (fieldName : String) : LogM LeafDigest := do
  let data ← requireMapping value fieldName "INVALID_LEAF_DIGEST"
  let algorithm ← requireString (Dict.get data "algorithm") s!"{fieldName}.algorithm"
    "INVALID_LEAF_DIGEST"
  let canonicalization ← requireString (Dict.get data "canonicalization")
    s!"{fieldName}.canonicalization" "INVALID_LEAF_DIGEST"
  let digestValue ← requireString (Dict.get data "value") s!"{fieldName}.value" "INVALID_LEAF_DIGEST"
  let bad : LogM LeafDigest := logError "INVALID_LEAF_DIGEST"
    "leaf digest must declare sha-256, a known canonicalization profile, and a lowercase 64-character hex value"
  if algorithm = "sha-256" ∧ canonicalization ∈ P.acceptedProfiles then
    match h : hex256 digestValue with
    | some bytes => .ok ⟨⟨algorithm, canonicalization, digestValue⟩, bytes, h⟩
    | none => bad
  else bad

def parseHashSpec (value : Json) (fieldName code : String) : LogM Hash256 := do
  let data ← requireMapping value fieldName code
  raiseIf (¬ (isStr (Dict.get data "algorithm") "sha-256" && isStr (Dict.get data "encoding") "hex"))
    code s!"{fieldName} must declare sha-256 with hex encoding"
  parseHexHash (Dict.get data "value") s!"{fieldName}.value" code

/-- the items of a hash path from index `i` on -/
def parseHashItems (fieldName code : String) : Nat → List Json → LogM (List Hash256)
  | _, [] => .ok []
  | i, item :: items => do
    let bytes ← parseHexHash item s!"{fieldName}[{i}]" code
    let rest ← parseHashItems fieldName code (i + 1) items
    return bytes :: rest

def parseHashPath (value : Json) (fieldName code : String) : LogM (List Hash256) :=
  match value with
  | .arr items => parseHashItems fieldName code 0 items
  | _ => logError code s!"{fieldName} must be an array"

/-- `dict(contract) == {"name": name, "version": version}` -/
def contractIs (contract : Dict) (name version : String) : Bool :=
  contract.length = 2 && isStr (Dict.get contract "name") name
    && isStr (Dict.get contract "version") version

/-! ## base64url -/

/-- the value of a base64url character -/
def base64Value (c : Char) : Option Nat :=
  if 65 ≤ c.toNat ∧ c.toNat ≤ 90 then some (c.toNat - 65)
  else if 97 ≤ c.toNat ∧ c.toNat ≤ 122 then some (c.toNat - 71)
  else if 48 ≤ c.toNat ∧ c.toNat ≤ 57 then some (c.toNat + 4)
  else if c = '-' then some 62
  else if c = '_' then some 63
  else none

/-- the bytes of groups of four characters; a last group may have two or three -/
def base64Bytes : List Nat → Option (List UInt8)
  | [] => some []
  | [_] => none
  | [a, b] => some [UInt8.ofNat (4 * a + b / 16)]
  | [a, b, c] => some [UInt8.ofNat (4 * a + b / 16), UInt8.ofNat (16 * b + c / 4)]
  | a :: b :: c :: d :: rest => do
    let bytes ← base64Bytes rest
    return UInt8.ofNat (4 * a + b / 16) :: UInt8.ofNat (16 * b + c / 4)
      :: UInt8.ofNat (64 * c + d) :: bytes

def decodeBase64url (value fieldName code : String) : LogM (List UInt8) :=
  let bad : LogM (List UInt8) := logError code s!"{fieldName} must be unpadded base64url"
  if value = "" then bad
  else
    match value.toList.mapM base64Value with
    | none => bad
    | some vs =>
      match base64Bytes vs with
      | some bytes => .ok bytes
      | none => bad

/-! ## hashes -/

/-- the message of a leaf: `b"\x00" + digest` -/
def leafMessage (digest : List UInt8) : List UInt8 := 0 :: digest

/-- the message of a node: `b"\x01" + left + right` -/
def nodeMessage (left right : List UInt8) : List UInt8 := 1 :: (left ++ right)

def leafHash (P : Platform) (digest : List UInt8) : List UInt8 := P.sha256 (leafMessage digest)

def nodeHash (P : Platform) (left right : List UInt8) : List UInt8 :=
  P.sha256 (nodeMessage left right)

/-! ## checkpoints -/

/-- the parts of a checkpoint -/
structure Checkpoint where
  log : PartyRef
  treeSize : Nat
  rootHash : Hash256
  issuedAtRaw : String
  issuedAt : Datetime
  signature : SignatureSpec

def parseCheckpoint (checkpoint : Dict) : LogM Checkpoint := do
  let contract ← requireMapping (Dict.get checkpoint "contract") "checkpoint.contract"
    "INVALID_CHECKPOINT"
  raiseIf (¬ contractIs contract "transparency_checkpoint" "v1") "INVALID_CHECKPOINT"
    "checkpoint contract must declare transparency_checkpoint v1"
  let log ← orLogError (PartyRef.fromDict (Dict.get checkpoint "log") "checkpoint.log")
    "INVALID_CHECKPOINT" "checkpoint log or signature is invalid"
  let signature ← orLogError (SignatureSpec.fromDict (Dict.get checkpoint "signature"))
    "INVALID_CHECKPOINT" "checkpoint log or signature is invalid"
  let treeSize ← requireNonnegativeInt (Dict.get checkpoint "tree_size") "checkpoint.tree_size"
    "INVALID_CHECKPOINT"
  let rootHash ← parseHashSpec (Dict.get checkpoint "root_hash") "checkpoint.root_hash"
    "INVALID_CHECKPOINT"
  let issuedAtRaw ← requireString (Dict.get checkpoint "issued_at") "checkpoint.issued_at"
    "INVALID_CHECKPOINT"
  let issuedAt ← orLogError (parseTimestamp (.str issuedAtRaw) "checkpoint.issued_at")
    "INVALID_CHECKPOINT" "checkpoint.issued_at must be an RFC3339 timestamp"
  return ⟨log, treeSize, rootHash, issuedAtRaw, issuedAt, signature⟩

def checkpointStatement (c : Checkpoint) : Dict :=
  members [("context", .str "actenon.transparency-checkpoint.v1"), ("log", .obj c.log.toDict),
    ("tree_size", .int c.treeSize),
    ("root_hash", .obj (members [("algorithm", .str "sha-256"), ("encoding", .str "hex"),
      ("value", .str (String.ofList (Hex.toHex c.rootHash.val)))])),
    ("issued_at", .str c.issuedAtRaw)]

def parseUses (value : Json) : LogM (List String) :=
  let bad : LogM (List String) := logError "TRUSTED_KEYS_INVALID"
    "trusted key use must be a non-empty string or array of strings"
  let item (j : Json) : LogM String :=
    match j with
    | .str s => if s = "" then bad.map fun _ => "" else .ok s
    | _ => bad.map fun _ => ""
  match value with
  | .str s => [Json.str s].mapM item
  | .arr (x :: xs) => (x :: xs).mapM item
  | .tup (x :: xs) => (x :: xs).mapM item
  | _ => bad

/-- one of the time bounds of a key: its member, whether the bound is an end, and the message -/
def checkKeyBound (key : Dict) (issuedAt : Datetime) (fieldName : String) (inclusive : Bool)
    (message : String) : LogM Unit :=
  match Dict.get key fieldName with
  | .null => .ok ()
  | raw => do
    let bound ← orLogError (parseTimestamp raw s!"keys[].{fieldName}") "TRUSTED_KEYS_INVALID"
      s!"keys[].{fieldName} must be an RFC3339 timestamp"
    raiseIf ((!inclusive && issuedAt < bound) || (inclusive && bound ≤ issuedAt)) "KEY_NOT_VALID"
      message

/-- `isinstance(item, Mapping) and item.get("key_id") == key_id` -/
def keyWithId (keyId : String) : Json → Option Dict
  | .obj kvs => if isStr (Dict.get kvs "key_id") keyId then some kvs else none
  | _ => none

def selectCheckpointKey (P : Platform) (trustedKeys : Dict) (log : PartyRef)
    (signature : SignatureSpec) (issuedAt : Datetime) : LogM Dict := do
  let contract ← requireMapping (Dict.get trustedKeys "contract") "trusted_keys.contract"
    "TRUSTED_KEYS_INVALID"
  raiseIf (¬ declares contract "key_discovery" "v1") "TRUSTED_KEYS_INVALID"
    "trusted key set must declare key_discovery v1"
  let issuer ← orLogError (PartyRef.fromDict (Dict.get trustedKeys "issuer") "trusted_keys.issuer")
    "TRUSTED_KEYS_INVALID" "trusted key-set issuer is invalid"
  raiseIf (¬ (issuer.type = log.type ∧ issuer.id = log.id)) "LOG_IDENTITY_MISMATCH"
    "checkpoint log identity does not match the trusted key-set issuer"
  let rawKeys ←
    match Dict.get trustedKeys "keys" with
    | .arr (k :: ks) => .ok (k :: ks)
    | _ => logError "TRUSTED_KEYS_INVALID" "trusted key set must contain a non-empty keys array"
  let key ←
    match rawKeys.filterMap (keyWithId signature.keyId) with
    | [] => do
      let keyId ← uncaught (P.repr (.str signature.keyId))
      logError "UNKNOWN_KEY_ID" ("no trusted checkpoint key matched key_id " ++ keyId)
    | [key] => .ok key
    | _ => do
      let keyId ← uncaught (P.repr (.str signature.keyId))
      logError "TRUSTED_KEYS_INVALID" ("trusted key set contains duplicate key_id " ++ keyId)
  raiseIf (¬ isStr (Dict.get key "algorithm") signature.algorithm) "SIGNATURE_INVALID"
    "trusted key algorithm does not match the checkpoint signature"
  let uses ← parseUses (Dict.get key "use")
  raiseIf (¬ uses.contains "transparency_checkpoint") "KEY_PURPOSE_MISMATCH"
    "trusted key is not authorized for transparency checkpoints"
  let status ← uncaught (Dict.get key "status").toKey
  raiseIf (¬ (status = .str "active" ∨ status = .str "retired")) "KEY_NOT_VALID"
    "trusted checkpoint key is not active or retired"
  checkKeyBound key issuedAt "not_before" false "trusted checkpoint key was not valid at signing time"
  checkKeyBound key issuedAt "expires_at" true "trusted checkpoint key was expired at signing time"
  checkKeyBound key issuedAt "revoked_at" true "trusted checkpoint key was revoked at signing time"
  return key

structure VerifiedCheckpoint where
  log : PartyRef
  treeSize : Nat
  rootHash : Hash256
  issuedAt : Datetime
  keyId : String

/-- `value in (None, s)` -/
def noneOr (value : Json) (s : String) : Bool :=
  match value with
  | .null => true
  | j => isStr j s

def verifyCheckpointSignature (P : Platform) (checkpoint trustedKeys : Dict) :
    LogM VerifiedCheckpoint := do
  let c ← parseCheckpoint checkpoint
  raiseIf (¬ (c.signature.algorithm = "EdDSA" ∧ c.signature.encoding = "base64url"))
    "UNSUPPORTED_ALGORITHM"
    "transparency checkpoint v1 supports EdDSA/Ed25519 with base64url encoding"
  let key ← selectCheckpointKey P trustedKeys c.log c.signature c.issuedAt
  let jwk ← requireMapping (Dict.get key "public_key_jwk") "keys[].public_key_jwk"
    "TRUSTED_KEYS_INVALID"
  raiseIf (¬ (isStr (Dict.get jwk "kty") "OKP" && isStr (Dict.get jwk "crv") "Ed25519"
      && noneOr (Dict.get jwk "kid") c.signature.keyId && noneOr (Dict.get jwk "alg") "EdDSA"))
    "TRUSTED_KEYS_INVALID" "checkpoint key must be an Ed25519 OKP JWK matching signature.key_id"
  let x ← requireString (Dict.get jwk "x") "public_key_jwk.x" "TRUSTED_KEYS_INVALID"
  let publicKeyBytes ← decodeBase64url x "public_key_jwk.x" "TRUSTED_KEYS_INVALID"
  let signatureBytes ← decodeBase64url c.signature.value "checkpoint.signature.value"
    "SIGNATURE_INVALID"
  raiseIf (¬ (publicKeyBytes.length = 32 ∧ signatureBytes.length = 64)) "SIGNATURE_INVALID"
    "checkpoint key or signature has an invalid Ed25519 length"
  let statement ← uncaught (canonicalizeBytes P (.obj (checkpointStatement c)))
  raiseIf (¬ P.ed25519Verify publicKeyBytes signatureBytes statement) "SIGNATURE_INVALID"
    "transparency checkpoint signature could not be verified"
  return ⟨c.log, c.treeSize, c.rootHash, c.issuedAt, c.signature.keyId⟩

/-! ## inclusion -/

/-- what `verify_inclusion` has read when its loop starts -/
structure InclusionInputs where
  digest : LeafDigest
  logId : String
  treeSize : Nat
  leafIndex : Nat
  auditPath : List Hash256
  root : Hash256

structure VerifiedInclusion where
  logId : String
  treeSize : Nat
  leafIndex : Nat
  leafDigest : DigestSpec
  checkpoint : Option VerifiedCheckpoint := none

/-- the checks of `verify_inclusion` before its loop -/
def inclusionInputs (P : Platform) (digest inclusionProof : Json) (checkpoint : Dict) :
    LogM InclusionInputs := do
  let expectedDigest ← parseDigest P digest "digest"
  let proof ← requireMapping inclusionProof "inclusion_proof" "INVALID_INCLUSION_PROOF"
  let contract ← requireMapping (Dict.get proof "contract") "inclusion_proof.contract"
    "INVALID_INCLUSION_PROOF"
  raiseIf (¬ contractIs contract "transparency_inclusion_proof" "v1") "INVALID_INCLUSION_PROOF"
    "proof contract must declare transparency_inclusion_proof v1"
  raiseIf (¬ isStr (Dict.get proof "hash_algorithm") "sha-256") "INVALID_INCLUSION_PROOF"
    "inclusion proof hash_algorithm must be sha-256"
  let observedDigest ← parseDigest P (Dict.get proof "leaf_digest") "inclusion_proof.leaf_digest"
  raiseIf (observedDigest.spec ≠ expectedDigest.spec) "LEAF_DIGEST_MISMATCH"
    "inclusion proof leaf digest does not match the supplied digest"
  let logId ← requireString (Dict.get proof "log_id") "inclusion_proof.log_id"
    "INVALID_INCLUSION_PROOF"
  let treeSize ← requireNonnegativeInt (Dict.get proof "tree_size") "inclusion_proof.tree_size"
    "INVALID_INCLUSION_PROOF"
  let leafIndex ← requireNonnegativeInt (Dict.get proof "leaf_index") "inclusion_proof.leaf_index"
    "INVALID_INCLUSION_PROOF"
  raiseIf (treeSize = 0 ∨ leafIndex ≥ treeSize) "INVALID_INCLUSION_PROOF"
    "leaf_index must identify a leaf within the non-empty proof tree"
  let auditPath ← parseHashPath (Dict.get proof "audit_path") "inclusion_proof.audit_path"
    "INVALID_INCLUSION_PROOF"
  let c ← parseCheckpoint checkpoint
  raiseIf (¬ (c.log.id = logId ∧ c.treeSize = treeSize)) "CHECKPOINT_MISMATCH"
    "inclusion proof log or tree size does not match the checkpoint"
  return ⟨expectedDigest, logId, treeSize, leafIndex, auditPath, c.rootHash⟩

/-- the loop of `verify_inclusion`: the node reached and the final `sn` -/
def inclusionLoop (P : Platform) : Nat → Nat → List UInt8 → List Hash256 → List UInt8 × Nat
  | _, sn, node, [] => (node, sn)
  | fn, sn, node, sibling :: path =>
    if fn % 2 = 1 ∨ fn = sn then
      inclusionLoop P ((dropZeros fn sn).1 / 2) ((dropZeros fn sn).2 / 2) (nodeHash P sibling.val node)
        path
    else inclusionLoop P (fn / 2) (sn / 2) (nodeHash P node sibling.val) path

def verifyInclusion (P : Platform) (digest inclusionProof : Json) (checkpoint : Dict) :
    LogM VerifiedInclusion := do
  let q ← inclusionInputs P digest inclusionProof checkpoint
  let r := inclusionLoop P q.leafIndex (q.treeSize - 1) (leafHash P q.digest.bytes.val) q.auditPath
  raiseIf (r.2 ≠ 0 ∨ r.1 ≠ q.root.val) "INCLUSION_PROOF_INVALID"
    "digest is not included in the supplied checkpoint"
  return ⟨q.logId, q.treeSize, q.leafIndex, q.digest.spec, none⟩

/-! ## consistency -/

/-- what `verify_consistency` has read when it turns to the path -/
structure ConsistencyInputs where
  logId : String
  oldSize : Nat
  newSize : Nat
  oldRoot : Hash256
  newRoot : Hash256
  path : List Hash256

structure VerifiedConsistency where
  logId : String
  oldTreeSize : Nat
  newTreeSize : Nat

/-- the checks of `verify_consistency` before the path is used -/
def consistencyInputs (oldCheckpoint newCheckpoint : Dict) (consistencyProof : Json) :
    LogM ConsistencyInputs := do
  let old ← parseCheckpoint oldCheckpoint
  let new ← parseCheckpoint newCheckpoint
  raiseIf (¬ (old.log.type = new.log.type ∧ old.log.id = new.log.id)) "LOG_IDENTITY_MISMATCH"
    "consistency checkpoints identify different logs"
  raiseIf (new.treeSize < old.treeSize) "REWIND_DETECTED"
    "new checkpoint tree size is smaller than the previous checkpoint"
  let proof ← requireMapping consistencyProof "consistency_proof" "INVALID_CONSISTENCY_PROOF"
  let contract ← requireMapping (Dict.get proof "contract") "consistency_proof.contract"
    "INVALID_CONSISTENCY_PROOF"
  raiseIf (¬ contractIs contract "transparency_consistency_proof" "v1") "INVALID_CONSISTENCY_PROOF"
    "proof contract must declare transparency_consistency_proof v1"
  raiseIf (¬ isStr (Dict.get proof "hash_algorithm") "sha-256") "INVALID_CONSISTENCY_PROOF"
    "consistency proof hash_algorithm must be sha-256"
  let logId ← requireString (Dict.get proof "log_id") "consistency_proof.log_id"
    "INVALID_CONSISTENCY_PROOF"
  let proofOldSize ← requireNonnegativeInt (Dict.get proof "old_tree_size")
    "consistency_proof.old_tree_size" "INVALID_CONSISTENCY_PROOF"
  let proofNewSize ← requireNonnegativeInt (Dict.get proof "new_tree_size")
    "consistency_proof.new_tree_size" "INVALID_CONSISTENCY_PROOF"
  raiseIf (¬ (logId = old.log.id ∧ proofOldSize = old.treeSize ∧ proofNewSize = new.treeSize))
    "CHECKPOINT_MISMATCH" "consistency proof does not match the supplied checkpoints"
  let path ← parseHashPath (Dict.get proof "consistency_path") "consistency_proof.consistency_path"
    "INVALID_CONSISTENCY_PROOF"
  return ⟨logId, old.treeSize, new.treeSize, old.rootHash, new.rootHash, path⟩

/-- the loop of `verify_consistency`: the two nodes reached and the final `sn` -/
def consistencyLoop (P : Platform) :
    Nat → Nat → List UInt8 → List UInt8 → List Hash256 → LogM (List UInt8 × List UInt8 × Nat)
  | _, sn, first, second, [] => .ok (first, second, sn)
  | fn, sn, first, second, sibling :: path =>
    if sn = 0 then
      logError "CONSISTENCY_PROOF_INVALID" "consistency proof path contains extra hashes"
    else if fn % 2 = 1 ∨ fn = sn then
      consistencyLoop P ((dropZeros fn sn).1 / 2) ((dropZeros fn sn).2 / 2)
        (nodeHash P sibling.val first) (nodeHash P sibling.val second) path
    else consistencyLoop P (fn / 2) (sn / 2) first (nodeHash P second sibling.val) path

/-- the path of a consistency proof between different sizes -/
def checkConsistencyPath (P : Platform) (q : ConsistencyInputs) : LogM Unit := do
  let fn := (dropOnes (q.oldSize - 1) (q.newSize - 1)).1
  let sn := (dropOnes (q.oldSize - 1) (q.newSize - 1)).2
  let (first, second, sn) ←
    if fn = 0 then consistencyLoop P fn sn q.oldRoot.val q.oldRoot.val q.path
    else
      match q.path with
      | [] => logError "CONSISTENCY_PROOF_INVALID" "consistency proof path is incomplete"
      | x :: path => consistencyLoop P fn sn x.val x.val path
  raiseIf (sn ≠ 0 ∨ first ≠ q.oldRoot.val ∨ second ≠ q.newRoot.val) "CONSISTENCY_PROOF_INVALID"
    "checkpoints are not append-only consistent"

def verifyConsistency (P : Platform) (oldCheckpoint newCheckpoint : Dict) (consistencyProof : Json) :
    LogM VerifiedConsistency := do
  let q ← consistencyInputs oldCheckpoint newCheckpoint consistencyProof
  if q.oldSize = 0 then
    raiseIf (q.path ≠ []) "CONSISTENCY_PROOF_INVALID"
      "empty-tree consistency proof must have an empty path"
  else if q.oldSize = q.newSize then
    raiseIf (q.path ≠ [] ∨ q.oldRoot ≠ q.newRoot) "EQUIVOCATION_DETECTED"
      "same-size checkpoints have different roots or a non-empty proof"
  else checkConsistencyPath P q
  return ⟨q.logId, q.oldSize, q.newSize⟩

/-! ## the two composed verifications -/

def verifyCountersignatureInclusion (P : Platform) (countersignature inclusionProof : Json)
    (checkpoint trustedKeys : Dict) : LogM VerifiedInclusion := do
  let artifact ← requireMapping countersignature "countersignature" "INVALID_COUNTERSIGNATURE"
  let contract ← requireMapping (Dict.get artifact "contract") "countersignature.contract"
    "INVALID_COUNTERSIGNATURE"
  raiseIf (¬ declares contract "receipt_countersignature" "v1") "INVALID_COUNTERSIGNATURE"
    "contract must declare receipt_countersignature v1"
  let digest ← parseDigest P (Dict.get artifact "receipt_digest") "countersignature.receipt_digest"
  let anchor ← requireMapping (Dict.get artifact "anchor_reference")
    "countersignature.anchor_reference" "ORPHAN_COUNTERSIGNATURE"
  raiseIf (¬ isStr (Dict.get anchor "type") "transparency_log") "ORPHAN_COUNTERSIGNATURE"
    "counter-signature is not anchored to a transparency log"
  let anchorLogId ← requireString (Dict.get anchor "id") "countersignature.anchor_reference.id"
    "ORPHAN_COUNTERSIGNATURE"
  let anchorLeafIndex ← requireNonnegativeInt (Dict.get anchor "leaf_index")
    "countersignature.anchor_reference.leaf_index" "ORPHAN_COUNTERSIGNATURE"
  let verifiedCheckpoint ← verifyCheckpointSignature P checkpoint trustedKeys
  let verified ←
    match verifyInclusion P (.obj digest.spec.toDict) inclusionProof checkpoint with
    | .error (.verification code message) =>
      if code = "LEAF_DIGEST_MISMATCH" then
        logError "ORPHAN_COUNTERSIGNATURE"
          "counter-signature digest is not the digest proven at the declared log leaf"
      else logError code message
    | r => r
  raiseIf (¬ (anchorLogId = verified.logId ∧ anchorLeafIndex = verified.leafIndex))
    "ORPHAN_COUNTERSIGNATURE" "counter-signature anchor does not match the verified inclusion proof"
  return { verified with checkpoint := some verifiedCheckpoint }

structure VerifiedMonitorUpdate where
  previous : VerifiedCheckpoint
  current : VerifiedCheckpoint
  consistency : VerifiedConsistency

def verifyMonitorUpdate (P : Platform) (previousCheckpoint currentCheckpoint : Dict)
    (consistencyProof : Json) (trustedKeys : Dict) : LogM VerifiedMonitorUpdate := do
  let previous ← verifyCheckpointSignature P previousCheckpoint trustedKeys
  let current ← verifyCheckpointSignature P currentCheckpoint trustedKeys
  let consistency ← verifyConsistency P previousCheckpoint currentCheckpoint consistencyProof
  return ⟨previous, current, consistency⟩

end Actenon
