import Mathlib.Data.List.Basic

/-!
# Texts as Python sees them

The methods of a Python text on lists of characters: `strip`, `partition`, `removeprefix` and the
decoding of base64 with padding.  Lower case is given for ASCII letters only.

* `strip`                      blanks at both ends;
* `partition`                  the text before and after the first separator;
* `removePrefix`               a prefix, if it is there;
* `b64decode`                  groups of four characters, and padding;
* `fileLines`                  the lines of a file, `fileLines_written` of one written line by line.
-/

set_option linter.unusedSectionVars false

namespace PyString

/-- `c.isspace()` -/
def isSpace (c : Char) : Bool :=
  (9 ≤ c.toNat && c.toNat ≤ 13) || (28 ≤ c.toNat && c.toNat ≤ 32) || c.toNat = 0x85 || c.toNat = 0xA0
    || c.toNat = 0x1680 || (0x2000 ≤ c.toNat && c.toNat ≤ 0x200A) || c.toNat = 0x2028 || c.toNat = 0x2029
    || c.toNat = 0x202F || c.toNat = 0x205F || c.toNat = 0x3000

/-- `s.strip()` -/
def strip (cs : List Char) : List Char := ((cs.dropWhile isSpace).reverse.dropWhile isSpace).reverse

/-- `s.partition(c)`, `none` where the separator is not found -/
def partition (c : Char) : List Char → Option (List Char × List Char)
  | [] => none
  | d :: ds => if d = c then some ([], ds) else (partition c ds).map fun p => (d :: p.1, p.2)

/-- `s.removeprefix(p)` -/
def removePrefix (p s : List Char) : List Char := if p.isPrefixOf s then s.drop p.length else s

/-- `c.lower()` of an ASCII letter -/
def lowerChar (c : Char) : Char := if 65 ≤ c.toNat ∧ c.toNat ≤ 90 then Char.ofNat (c.toNat + 32) else c

/-- the value of a base64 character in both alphabets -/
def base64Digit (c : Char) : Option Nat :=
  if 65 ≤ c.toNat ∧ c.toNat ≤ 90 then some (c.toNat - 65)
  else if 97 ≤ c.toNat ∧ c.toNat ≤ 122 then some (c.toNat - 71)
  else if 48 ≤ c.toNat ∧ c.toNat ≤ 57 then some (c.toNat + 4)
  else if c = '-' ∨ c = '+' then some 62
  else if c = '_' ∨ c = '/' then some 63
  else none

/-- `base64.b64decode(s, altchars=b"-_", validate=True)` of CPython 3.11: padding completes a last group
of two or three digits exactly, and after a group of four any amount of it is read -/
def b64decode : List Char → Option (List UInt8)
  | [] => some []
  | [a, b, '=', '='] => do
    let a ← base64Digit a
    let b ← base64Digit b
    return [UInt8.ofNat (4 * a + b / 16)]
  | [a, b, c, '='] => do
    let a ← base64Digit a
    let b ← base64Digit b
    let c ← base64Digit c
    return [UInt8.ofNat (4 * a + b / 16), UInt8.ofNat (16 * b + c / 4)]
  | a :: b :: c :: d :: rest => do
    let a ← base64Digit a
    let b ← base64Digit b
    let c ← base64Digit c
    let d ← base64Digit d
    let bytes ← (if rest.all (· = '=') then some [] else b64decode rest)
    return UInt8.ofNat (4 * a + b / 16) :: UInt8.ofNat (16 * b + c / 4) :: UInt8.ofNat (64 * c + d) :: bytes
  | _ => none

/-- the lines of a file that is read as text: `\n`, `\r` and `\r\n` end a line -/
def fileLines : List Char → List (List Char)
  | [] => []
  | '\r' :: '\n' :: cs => [] :: fileLines cs
  | c :: cs =>
    if c = '\n' ∨ c = '\r' then [] :: fileLines cs
    else
      match fileLines cs with
      | [] => [[c]]
      | l :: ls => (c :: l) :: ls

/-- `bytes.decode("utf-8")` -/
def utf8decode (bytes : List UInt8) : Option String := String.fromUTF8? ⟨bytes.toArray⟩

example : b64decode "eyJ9".toList = some [123, 34, 125] := by decide

example : b64decode "eyI=".toList = some [123, 34] ∧ b64decode "eyI==".toList = none ∧
    b64decode "eyJ9===".toList = some [123, 34, 125] ∧ b64decode "=".toList = none := by decide

/-- a line is one without the characters that end lines -/
def IsLine (l : List Char) : Prop := ∀ c ∈ l, c ≠ '\n' ∧ c ≠ '\r'

theorem fileLines_cons {l : List Char} (hl : IsLine l) (cs : List Char) :
    fileLines (l ++ '\n' :: cs) = l :: fileLines cs := by
  induction l with
  | nil =>
    rw [List.nil_append, fileLines.eq_def]
    rfl
  | cons c l ih =>
    obtain ⟨⟨hn, hr⟩, hl⟩ := List.forall_mem_cons.mp hl
    rw [List.cons_append, fileLines.eq_def]
    split
    · rename_i heq
      cases heq
    · rename_i heq
      exact absurd (List.cons.inj heq).1 hr
    · rename_i heq
      obtain ⟨rfl, rfl⟩ := List.cons.inj heq
      rw [if_neg (not_or.mpr ⟨hn, hr⟩), ih hl]

/-- **What is written line by line is read line by line.** -/
theorem fileLines_written {ls : List (List Char)} (hls : ∀ l ∈ ls, IsLine l) :
    fileLines (ls.flatMap fun l => l ++ ['\n']) = ls := by
  induction ls with
  | nil => rfl
  | cons l ls ih =>
    obtain ⟨hl, hls⟩ := List.forall_mem_cons.mp hls
    rw [List.flatMap_cons, List.append_assoc, List.singleton_append, fileLines_cons hl, ih hls]

/-- a text that starts and ends with no blank is stripped to itself -/
theorem strip_eq {c d : Char} {cs : List Char} (hc : isSpace c = false) (hd : isSpace d = false) :
    strip (c :: (cs ++ [d])) = c :: (cs ++ [d]) := by
  unfold strip
  rw [List.dropWhile_cons, hc, if_neg Bool.false_ne_true, ← List.cons_append, List.reverse_append,
    List.reverse_singleton, List.singleton_append, List.dropWhile_cons, hd, if_neg Bool.false_ne_true,
    List.reverse_cons, List.reverse_reverse]

end PyString
