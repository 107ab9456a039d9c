import ActenonKernel.Core.Json
import ActenonKernel.Lib.Text
import Mathlib.Data.List.Sort
import Mathlib.Algebra.GroupWithZero.Nat

/-!
# Canonical bytes (`actenon/proof/canonical.py`, `actenon/core/json.py`)

The strict canonical form: members sorted by key, no blanks, no floats, nesting and size limited.

* `Platform`            what the kernel takes from outside: `hashlib` and `actenon_protocol`;
* `validateJsonDepth`   the stack loop that bounds the nesting, `Json.depth` what it bounds;
* `canonText`           `_canonicalize_json`;
* `canonicalizeBytes`, `sha256Hex`.
-/

set_option linter.unusedSectionVars false

namespace Actenon

/-- the parts of the kernel's world that lie outside the repository -/
structure Platform where
  /-- `hashlib.sha256(b).digest()` -/
  sha256 : List UInt8 → List UInt8
  /-- `Ed25519PublicKey.from_public_bytes(key).verify(signature, message)`, `false` for
  `InvalidSignature` -/
  ed25519Verify : List UInt8 → List UInt8 → List UInt8 → Bool
  maxJsonDepth : Nat
  /-- `actenon_protocol.ACCEPTED_CANONICALISATION_PROFILES` -/
  acceptedProfiles : List String
  capabilityInScope : String → List String → Bool
  /-- `actenon_protocol.parse_authority_extension`, `none` for `CapabilityError` -/
  parseAuthorityExtension : Dict → Option Dict
  /-- `issubclass(CapabilityError, ValueError)` -/
  capabilityErrorIsValueError : Bool
  /-- `actenon_protocol.effects.validate_effect_outcome`, `false` for an exception -/
  validateEffectOutcome : Json → Json → Json → Bool
  effectProfile : String
  /-- `actenon_protocol.effects.effect_identity`, `none` for an exception -/
  effectIdentity : Dict → Option String
  repr : Json → Except PyError String
  intOfStr : String → Except PyError Int

/-! ## nesting -/

theorem sum_sizeOf_le (xs : List Json) : (xs.map sizeOf).sum ≤ sizeOf xs := by
  induction xs with
  | nil => exact Nat.zero_le _
  | cons x xs ih =>
    rw [List.map_cons, List.sum_cons, List.cons.sizeOf_spec]
    omega

theorem sum_sizeOf_values_le (kvs : Dict) : ((kvs.map Prod.snd).map sizeOf).sum ≤ sizeOf kvs := by
  induction kvs with
  | nil => exact Nat.zero_le _
  | cons p kvs ih =>
    obtain ⟨k, x⟩ := p
    rw [List.map_cons, List.map_cons, List.sum_cons, List.cons.sizeOf_spec, Prod.mk.sizeOf_spec]
    show sizeOf x + _ ≤ _
    omega

def Json.children : Json → List Json
  | .arr xs | .tup xs => xs
  | .obj kvs => kvs.map Prod.snd
  | _ => []

theorem Json.children_sizeOf (j : Json) : (j.children.map sizeOf).sum < sizeOf j := by
  cases j with
  | arr xs =>
    have := sum_sizeOf_le xs
    rw [Json.arr.sizeOf_spec]
    show (xs.map sizeOf).sum < _
    omega
  | tup xs =>
    have := sum_sizeOf_le xs
    rw [Json.tup.sizeOf_spec]
    show (xs.map sizeOf).sum < _
    omega
  | obj kvs =>
    have := sum_sizeOf_values_le kvs
    rw [Json.obj.sizeOf_spec]
    show ((kvs.map Prod.snd).map sizeOf).sum < _
    omega
  | null => rw [Json.null.sizeOf_spec]; exact Nat.one_pos
  | bool b => rw [Json.bool.sizeOf_spec]; exact Nat.add_pos_left Nat.one_pos _
  | int n => rw [Json.int.sizeOf_spec]; exact Nat.add_pos_left Nat.one_pos _
  | float f => rw [Json.float.sizeOf_spec]; exact Nat.add_pos_left Nat.one_pos _
  | str s => rw [Json.str.sizeOf_spec]; exact Nat.add_pos_left Nat.one_pos _

/-- the loop of `validate_json_depth`: the top of the stack is the head of the list -/
def depthLoop (maxDepth : Nat) : List (Json × Nat) → Except PyError Unit
  | [] => .ok ()
  | (item, depth) :: stack =>
    if depth > maxDepth then
      valueError s!"JSON value exceeds maximum nesting depth {maxDepth}"
    else depthLoop maxDepth ((item.children.map fun child => (child, depth + 1)).reverse ++ stack)
termination_by stack => (stack.map fun p => sizeOf p.1).sum
decreasing_by
  have h := item.children_sizeOf
  have e : (((item.children.map fun child => (child, depth + 1)).reverse ++ stack).map
      fun p => sizeOf p.1).sum = (item.children.map sizeOf).sum + (stack.map fun p => sizeOf p.1).sum := by
    rw [List.map_append, List.sum_append, List.map_reverse, List.sum_reverse, List.map_map]
    rfl
  rw [e, List.map_cons, List.sum_cons]
  exact Nat.add_lt_add_right h _

def validateJsonDepth (value : Json) (maxDepth : Nat) : Except PyError Unit :=
  if maxDepth = 0 then valueError "max_depth must be positive" else depthLoop maxDepth [(value, 1)]

/-! ## text -/

/-- the longest decimal text the interpreter writes -/
def maxStrDigits : Nat := 4300

/-- `int.__repr__(n)` -/
def intRepr (n : Int) : Except PyError (List Char) :=
  if (Nat.toDigits 10 n.natAbs).length > maxStrDigits then
    valueError "Exceeds the limit (4300 digits) for integer string conversion; use sys.set_int_max_str_digits() to increase the limit"
  else .ok (Text.intText n)

/-- a member whose key is a string, in a dictionary that has such a key -/
def stringMember {β : Type} (p : Key × β) : Except PyError (String × β) :=
  match p.1 with
  | .str s => .ok (s, p.2)
  | _ => typeError "'<' not supported between instances of different types"

/-- the keys as strings, in `sorted(value.keys())` with the check that follows it -/
def stringKeys {β : Type} (kvs : List (Key × β)) : Except PyError (List (String × β)) :=
  if kvs.all fun p => !(p.1 matches .str _) then
    if kvs.isEmpty then .ok [] else typeError "canonical JSON object keys must be strings"
  else kvs.mapM stringMember

def sortMembers {β : Type} (kvs : List (String × β)) : List (String × β) :=
  kvs.insertionSort fun p q => p.1 ≤ q.1

def memberText (p : String × List Char) : List Char := Text.quote p.1 ++ ':' :: p.2

/-- the value of a member once its text is there -/
def memberPiece (p : String × Except PyError (List Char)) : Except PyError (List Char) :=
  p.2.map fun t => memberText (p.1, t)

mutual

/-- `_canonicalize_json` -/
def canonText : Json → Except PyError (List Char)
  | .null => .ok ['n', 'u', 'l', 'l']
  | .bool true => .ok ['t', 'r', 'u', 'e']
  | .bool false => .ok ['f', 'a', 'l', 's', 'e']
  | .int n => intRepr n
  | .float _ => typeError "floating-point values are not supported in canonical action hashing"
  | .str s => .ok (Text.quote s)
  | .arr xs => do
    let ts ← canonItems xs
    return Text.joined '[' ']' ts
  | .tup xs => do
    let ts ← canonItems xs
    return Text.joined '[' ']' ts
  | .obj kvs => do
    let ms ← stringKeys (canonMembers kvs)
    let ts ← (sortMembers ms).mapM memberPiece
    return Text.joined '\x7b' '\x7d' ts

def canonItems : List Json → Except PyError (List (List Char))
  | [] => .ok []
  | x :: xs => do
    let t ← canonText x
    let ts ← canonItems xs
    return t :: ts

/-- the members with the texts of their values -/
def canonMembers : Dict → List (Key × Except PyError (List Char))
  | [] => []
  | (k, x) :: kvs => (k, canonText x) :: canonMembers kvs

end

/-! ## bytes -/

/-- `DEFAULT_MAX_CANONICAL_OUTPUT_BYTES` -/
def maxOutputBytes : Nat := 1048576

def canonicalizeJson (P : Platform) (value : Json) : Except PyError (List Char) := do
  validateJsonDepth value (P.maxJsonDepth + 1)
  canonText value

def canonicalizeBytes (P : Platform) (value : Json) : Except PyError (List UInt8) := do
  let text ← canonicalizeJson P value
  let encoded := Text.utf8 text
  if encoded.length > maxOutputBytes then
    valueError s!"canonical JSON output exceeds maximum size {maxOutputBytes} bytes"
  return encoded

def sha256Hex (P : Platform) (value : Json) : Except PyError String := do
  let bytes ← canonicalizeBytes P value
  return String.ofList (Hex.toHex (P.sha256 bytes))

/-- the hash has no collision among the messages -/
def CollisionFree (P : Platform) (M : List (List UInt8)) : Prop :=
  ∀ m ∈ M, ∀ m' ∈ M, P.sha256 m = P.sha256 m' → m = m'

instance (P : Platform) (M : List (List UInt8)) : Decidable (CollisionFree P M) :=
  inferInstanceAs (Decidable (∀ m ∈ M, ∀ m' ∈ M, P.sha256 m = P.sha256 m' → m = m'))

/-- the bytes hashed for a value, if it has a canonical form -/
def hashedBytes (P : Platform) (value : Json) : List (List UInt8) :=
  match canonicalizeBytes P value with
  | .ok bytes => [bytes]
  | .error _ => []

/-- a platform with a given hash, with the constants and helpers of `actenon_protocol` -/
def samplePlatform (sha256 : List UInt8 → List UInt8) : Platform where
  sha256 := sha256
  ed25519Verify _ _ _ := true
  maxJsonDepth := 32
  acceptedProfiles := ["ACTENON-JCS-STRICT-1", "RFC8785-JCS"]
  capabilityInScope c cs := cs.contains c
  parseAuthorityExtension _ := none
  capabilityErrorIsValueError := true
  validateEffectOutcome outcome occurred hash :=
    match outcome, occurred, hash with
    | .str "COMMITTED", .bool true, .str h => h.length = 64
    | .str "NOT_EXECUTED", .bool false, .str h => h.length = 64
    | .str "AMBIGUOUS", .null, .str h => h.length = 64
    | _, _, _ => false
  effectProfile := "ACTENON-EFFECT-1"
  effectIdentity _ := none
  repr j :=
    match j with
    | .str s => .ok s!"'{s}'"
    | .int n => .ok (toString n)
    | .bool b => .ok (if b then "True" else "False")
    | j => .ok s!"<{j.typeName}>"
  intOfStr s :=
    match s.toInt? with
    | some n => .ok n
    | none => valueError "invalid literal for int() with base 10"

end Actenon
