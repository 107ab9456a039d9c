import ActenonKernel.Lib.PyString
import ActenonKernel.Lib.Utf16
import ActenonKernel.TypeScript.Canonical

/-!
# The strict parser of the verification kit (`sdk/typescript/src/strict-json.ts`)

A recursive-descent parser over the code units of a text. It counts the nesting down the recursion,
refuses a member name it has seen in the object, and takes the integers of the safe range for the
only numbers.

* `StrictJsonError`        a refusal with its message, which ends in the offset;
* `hasLoneSurrogate`, `string`, `number`    the leaves;
* `value`, `members`, `items`    `Parser.value`, `Parser.object` and `Parser.array`;
* `parseStrictJson`.
-/

set_option linter.unusedSectionVars false

namespace Actenon

namespace TypeScript

namespace StrictJson

structure StrictJsonError where
  message : String
deriving DecidableEq, Repr

def maxJsonBytes : Nat := 1048576

def maxJsonDepth : Nat := 128

/-- what the parser returns: strings are their code units, the members of an object stand as in the text -/
abbrev Parsed := JsonText.Value (List Nat) Int

def hasLoneSurrogate : List Nat → Bool
  | [] => false
  | [c] => Utf16.isHigh c || Utf16.isLow c
  | c :: next :: s =>
    if Utf16.isHigh c then if Utf16.isLow next then hasLoneSurrogate s else true
    else if Utf16.isLow c then true
    else hasLoneSurrogate (next :: s)

section
variable (length : Nat)

/-- `this.pos` with `rest` left of a text of the length -/
def offset (rest : List Nat) : Nat := length - rest.length

/-- `this.fail(what)` -/
def fail {α : Type} (what : String) (pos : Nat) : Except StrictJsonError α := .error ⟨s!"{what} at offset {pos}"⟩

/-- `this.ws()` -/
def ws (s : List Nat) : List Nat := s.dropWhile fun c => c = 0x20 ∨ c = 0x09 ∨ c = 0x0a ∨ c = 0x0d

/-- the text after `c` when `this.s[this.pos] === c` -/
def next (c : Nat) : List Nat → Option (List Nat)
  | [] => none
  | d :: s => if d = c then some s else none

/-- the loop of `Parser.string` -/
def stringLoop : List Nat → Except StrictJsonError (List Nat × List Nat)
  | [] => fail "unterminated string" (offset length [])
  | c :: s =>
    if c = 0x22 then .ok ([], s)
    else if c < 0x20 then fail "unescaped control character in string" (offset length (c :: s))
    else if c = 0x5c then
      match s with
      | [] => fail "invalid escape" (offset length [] + 1)
      | e :: s =>
        if e = 'u'.toNat then
          match s with
          | a :: b :: c :: d :: s =>
            match JsonText.hex4 a b c d with
            | some n => (stringLoop s).map fun p => (n :: p.1, p.2)
            | none => fail "invalid \\u escape" (offset length (a :: b :: c :: d :: s))
          | s => fail "invalid \\u escape" (offset length s)
        else
          match JsonText.escapeOf e with
          | some c => (stringLoop s).map fun p => (c :: p.1, p.2)
          | none => fail "invalid escape" (offset length s)
    else (stringLoop s).map fun p => (c :: p.1, p.2)

/-- `Parser.string`, after the opening quote -/
def string (s : List Nat) : Except StrictJsonError (List Nat × List Nat) := do
  let (out, r) ← stringLoop length s
  if hasLoneSurrogate out then fail "string contains a lone surrogate" (offset length r)
  else return (out, r)

/-- the group `[.eE]` of the pattern -/
def isFractionOrExponent (s : List Nat) : Bool :=
  s.head? = some '.'.toNat ∨ s.head? = some 'e'.toNat ∨ s.head? = some 'E'.toNat

/-- `Parser.number`: a window of 400 units is matched, and `Number(lexeme)` is a safe integer
exactly for the lexemes of the safe integers -/
def number (s : List Nat) : Except StrictJsonError (Int × List Nat) :=
  let sign := JsonText.lexSign (s.take 400)
  match JsonText.lexDigits sign.2 with
  | none => fail "invalid number" (offset length s)
  | some (digits, r) =>
    if isFractionOrExponent r then fail "non-integer number lexeme" (offset length s)
    else
      let rest := s.drop ((s.take 400).length - r.length)
      let value := JsonText.Lexeme.value ⟨sign.1, digits, []⟩
      if value.natAbs ≤ maxSafeInteger then .ok (value, rest)
      else fail "integer outside the safe range" (offset length rest)

/-- the words of `Parser.value` -/
def words (s : List Nat) : Except StrictJsonError (Parsed × List Nat) :=
  match JsonText.findLiteral JsonText.literals s with
  | some (some b, r) => .ok (.bool b, r)
  | some (none, r) => .ok (.null, r)
  | none => fail "unexpected token" (offset length s)

mutual

def value : Nat → Nat → List Nat → Except StrictJsonError (Parsed × List Nat)
  | 0, _, s => fail "unexpected token" (offset length s)
  | n + 1, depth, s =>
    if depth > maxJsonDepth then fail "JSON nesting is too deep" (offset length s)
    else
      match s with
      | [] => fail "unexpected token" (offset length [])
      | c :: r =>
        if c = '\x7b'.toNat then
          match next '\x7d'.toNat (ws r) with
          | some r => .ok (.object [], r)
          | none => do
            let (kvs, r) ← members n (depth + 1) [] (ws r)
            return (.object kvs, r)
        else if c = '['.toNat then
          match next ']'.toNat (ws r) with
          | some r => .ok (.array [], r)
          | none => do
            let (xs, r) ← items n (depth + 1) (ws r)
            return (.array xs, r)
        else if c = '"'.toNat then do
          let (out, r) ← string length r
          return (.text out, r)
        else if c = '-'.toNat ∨ '0'.toNat ≤ c ∧ c ≤ '9'.toNat then do
          let (n, r) ← number length (c :: r)
          return (.num n, r)
        else words length (c :: r)

/-- the loop of `Parser.object` with the names it has seen -/
def members : Nat → Nat → List (List Nat) → List Nat →
    Except StrictJsonError (List (List Nat × Parsed) × List Nat)
  | 0, _, _, s => fail "expected a member name" (offset length s)
  | n + 1, depth, seen, s =>
    match next '"'.toNat (ws s) with
    | none => fail "expected a member name" (offset length (ws s))
    | some s => do
      let (key, s) ← string length s
      if seen.contains key then fail "duplicate object member" (offset length s)
      else
        match next ':'.toNat (ws s) with
        | none => fail "expected ':'" (offset length (ws s))
        | some s => do
          let (v, s) ← value n depth (ws s)
          match next '\x7d'.toNat (ws s) with
          | some r => .ok ([(key, v)], r)
          | none =>
            match next ','.toNat (ws s) with
            | none => fail "expected ',' or '\x7d'" (offset length (ws s) + 1)
            | some s => do
              let (kvs, r) ← members n depth (key :: seen) s
              return ((key, v) :: kvs, r)

/-- the loop of `Parser.array` -/
def items : Nat → Nat → List Nat → Except StrictJsonError (List Parsed × List Nat)
  | 0, _, s => fail "unexpected token" (offset length s)
  | n + 1, depth, s => do
    let (v, s) ← value n depth (ws s)
    match next ']'.toNat (ws s) with
    | some r => .ok ([v], r)
    | none =>
      match next ','.toNat (ws s) with
      | none => fail "expected ',' or ']'" (offset length (ws s) + 1)
      | some s => do
        let (xs, r) ← items n depth s
        return (v :: xs, r)

end

end

/-! ## the entry point -/

/-- `input: string | Uint8Array` -/
inductive Input where
  | text (units : List UInt16)
  | bytes (bs : List UInt8)

/-- the code units of a string -/
def unitsOf (units : List UInt16) : List Nat := units.map UInt16.toNat

/-- the code units of a decoded string -/
def unitsOfString (s : String) : List Nat := Utf16.encode (s.toList.map Char.toNat)

/-- `Buffer.byteLength(input, "utf8")` -/
def byteLength (units : List Nat) : Nat := Utf16.utf8Size (Utf16.codePoints units)

/-- the text of an input within the limit -/
def textOf : Input → Except StrictJsonError (List Nat)
  | .text units =>
    if byteLength (unitsOf units) > maxJsonBytes then .error ⟨"JSON input is too large"⟩ else .ok (unitsOf units)
  | .bytes bs =>
    if bs.length > maxJsonBytes then .error ⟨"JSON input is too large"⟩
    else
      match PyString.utf8decode bs with
      | none => .error ⟨"JSON input is not valid UTF-8"⟩
      | some s => .ok (unitsOfString s)

/-- the parser on a text -/
def parseText (text : List Nat) : Except StrictJsonError Parsed :=
  if text.head? = some 0xFEFF then .error ⟨"JSON input starts with a byte-order mark"⟩
  else do
    let (v, r) ← value text.length (JsonText.fuelFor text) 0 (ws text)
    if (ws r).isEmpty then return v else .error ⟨"unexpected content after the JSON value"⟩

def parseStrictJson (input : Input) : Except StrictJsonError Parsed := do
  let text ← textOf input
  parseText text

end StrictJson

end TypeScript

end Actenon
