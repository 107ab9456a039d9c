import ActenonKernel.Core.Json
import ActenonKernel.Lib.PyString
import ActenonKernel.Lib.Utf16

/-!
# Strict documents (`actenon/core/json.py`)

`loads_no_duplicate_keys` bounds the input, hands it to `json.loads` with a hook that refuses
duplicate keys, and walks over what was read to bound its nesting. An escaped half of a pair is a
character of a Python string, so a string is the list of its code points here.

* `Interpreter`            what the decoder takes from the interpreter;
* `decoder`                what `json.loads` makes of the parts of a text;
* `loadsNoDuplicateKeys`;
* `rejectDuplicateObjectPairs_ok`, `validateJsonDepth_ok`    the two checks;
* `loadsNoDuplicateKeys_ok`    when an input is read;
* `loadsNoDuplicateKeys_only`    what is raised is a `ValueError`.
-/

set_option linter.unusedSectionVars false

namespace Actenon

namespace StrictLoads

open JsonText Fallible

/-! ## what is read -/

inductive Number where
  | int (n : Int)
  | float (f : PyFloat)
deriving DecidableEq, Repr

/-- what `json.loads` returns -/
abbrev LoadedJson := Value (List Nat) Number

/-- the words that `json.loads` takes beyond the grammar -/
inductive Constant where
  | nan
  | infinity
  | minusInfinity
deriving DecidableEq, Repr

def word (name : String) : List Nat := name.toList.map Char.toNat

def constants : List (Literal Constant) :=
  [⟨'N'.toNat, word "aN", .nan⟩, ⟨'I'.toNat, word "nfinity", .infinity⟩, ⟨'-'.toNat, word "Infinity", .minusInfinity⟩]

def Constant.float : Constant → PyFloat
  | .nan => .nan
  | .infinity => .inf false
  | .minusInfinity => .inf true

/-- `raw: str | bytes | bytearray` -/
inductive Raw where
  | str (points : List Nat)
  | bytes (bs : List UInt8)

/-- what the decoder takes from the interpreter -/
structure Interpreter where
  /-- `float(s)` -/
  floatOf : Lexeme → PyFloat
  /-- `repr(key)` -/
  keyRepr : List Nat → String
  /-- the message of the `JSONDecodeError` for a text -/
  decodeMessage : List Nat → String
  /-- the message of the `UnicodeError` for an input -/
  unicodeMessage : Raw → String
  /-- the decoder meets the recursion limit on a text -/
  recursionError : List Nat → Bool

section
variable (I : Interpreter)

/-! ## the decoder -/

/-- `sys.get_int_max_str_digits()` -/
def intMaxStrDigits : Nat := 4300

/-- `parse_int` and `parse_float` -/
def parseNumber (l : Lexeme) : Except PyError LoadedJson :=
  if l.tail = [] then
    if l.digits.length > intMaxStrDigits then
      valueError s!"Exceeds the limit ({intMaxStrDigits} digits) for integer string conversion: value has {l.digits.length} digits; use sys.set_int_max_str_digits() to increase the limit"
    else .ok (.num (.int l.value))
  else .ok (.num (.float (I.floatOf l)))

/-- the loop of `reject_duplicate_object_pairs` -/
def rejectPairs (payload : List (List Nat × LoadedJson)) :
    List (List Nat × LoadedJson) → Except PyError (List (List Nat × LoadedJson))
  | [] => .ok payload
  | (key, value) :: pairs =>
    if (payload.map Prod.fst).contains key then valueError s!"duplicate JSON object key {I.keyRepr key}"
    else rejectPairs (payload ++ [(key, value)]) pairs

def rejectDuplicateObjectPairs (pairs : List (List Nat × LoadedJson)) : Except PyError (List (List Nat × LoadedJson)) :=
  rejectPairs I [] pairs

/-- the decoder on a text in code units: halves that stand next to each other are one character -/
def unitDecoder (message : String) : Builder PyError (List Nat) Constant LoadedJson where
  fault := ⟨.valueError, message⟩
  null := .null
  bool := .bool
  number := parseNumber I
  constant k := .num (.float k.float)
  string ps := Utf16.codePoints (codes ps)
  text := .text
  array := .array
  object pairs := (rejectDuplicateObjectPairs I pairs).map .object

/-- the decoder of `json.loads(..., object_pairs_hook=reject_duplicate_object_pairs)`: an escaped
half is joined with the escaped half after it -/
def decoder (message : String) : Builder PyError (List Nat) Constant LoadedJson :=
  { unitDecoder I message with
    string := fun ps => Utf16.codePoints (codes (ps.flatMap (respellPiece Utf16.encodePoint))) }

/-! ## the checks -/

/-- the loop of `validate_json_depth`: the top of the stack is the head of the list -/
def depthLoop (maxDepth : Nat) : List (LoadedJson × Nat) → Except PyError Unit
  | [] => .ok ()
  | (item, depth) :: stack =>
    if depth > maxDepth then valueError s!"JSON value exceeds maximum nesting depth {maxDepth}"
    else depthLoop maxDepth ((item.children.map fun child => (child, depth + 1)).reverse ++ stack)
termination_by stack => (stack.map fun p => sizeOf p.1).sum
decreasing_by
  have h := item.children_sizeOf
  have e : (((item.children.map fun child => (child, depth + 1)).reverse ++ stack).map
      fun p => sizeOf p.1).sum = (item.children.map sizeOf).sum + (stack.map fun p => sizeOf p.1).sum := by
    rw [List.map_append, List.sum_append, List.map_reverse, List.sum_reverse, List.map_map]
    rfl
  rw [e, List.map_cons, List.sum_cons]
  exact Nat.add_lt_add_right h _

def validateJsonDepth (value : LoadedJson) (maxDepth : Nat) : Except PyError Unit :=
  if maxDepth = 0 then valueError "max_depth must be positive" else depthLoop maxDepth [(value, 1)]

/-- `_input_size`, which no half of a pair has -/
def inputSize : Raw → Option Nat
  | .str points => if points.any Utf16.isHalf then none else some (Utf16.utf8Size points)
  | .bytes bs => some bs.length

/-- `raw.decode("utf-8", errors="strict")` -/
def decodeRaw : Raw → Option (List Nat)
  | .str points => some points
  | .bytes bs => (PyString.utf8decode bs).map fun s => s.toList.map Char.toNat

/-- `json.loads` -/
def jsonLoads (text : List Nat) : Except PyError LoadedJson :=
  if text.head? = some 0xFEFF then valueError (I.decodeMessage text)
  else document constants (decoder I (I.decodeMessage text)) text

def defaultMaxJsonBytes : Nat := 1048576

def defaultMaxJsonDepth : Nat := 128

def loadsNoDuplicateKeys (raw : Raw) (maxBytes maxDepth : Nat) : Except PyError LoadedJson :=
  if maxBytes = 0 then valueError "max_bytes must be positive"
  else
    match inputSize raw with
    | none => valueError (I.unicodeMessage raw)
    | some size =>
      if size > maxBytes then valueError s!"JSON input exceeds maximum size {maxBytes} bytes"
      else
        match decodeRaw raw with
        | none => valueError (I.unicodeMessage raw)
        | some text =>
          if I.recursionError text then valueError s!"JSON input exceeds maximum nesting depth {maxDepth}"
          else do
            let payload ← jsonLoads I text
            validateJsonDepth payload maxDepth
            return payload

/-! ## duplicate keys -/

theorem rejectPairs_ok (payload pairs r : List (List Nat × LoadedJson)) (hpayload : (payload.map Prod.fst).Nodup) :
    rejectPairs I payload pairs = .ok r ↔ ((payload ++ pairs).map Prod.fst).Nodup ∧ r = payload ++ pairs := by
  induction pairs generalizing payload with
  | nil =>
    rw [List.append_nil, rejectPairs, Except.ok.injEq]
    exact ⟨fun h => ⟨hpayload, h.symm⟩, fun h => h.2.symm⟩
  | cons p pairs ih =>
    obtain ⟨key, value⟩ := p
    unfold rejectPairs
    have happend : payload ++ (key, value) :: pairs = payload ++ [(key, value)] ++ pairs := by
      rw [List.append_assoc]
      rfl
    by_cases hkey : key ∈ payload.map Prod.fst
    · rw [if_pos (List.contains_iff_mem.mpr hkey)]
      refine ⟨fun h => (nomatch h), fun h => ?_⟩
      rw [List.map_append, List.nodup_append] at h
      exact absurd rfl (h.1.2.2 key hkey key List.mem_cons_self)
    · rw [if_neg fun h => hkey (List.contains_iff_mem.mp h), happend]
      refine ih _ ?_
      rw [List.map_append, List.nodup_append]
      refine ⟨hpayload, List.nodup_cons.mpr ⟨List.not_mem_nil, List.nodup_nil⟩, fun a ha b hb he => ?_⟩
      rw [List.map_singleton, List.mem_singleton] at hb
      rw [he, hb] at ha
      exact hkey ha

/-- **Pairs are refused when two of them have one key**, and kept otherwise. -/
theorem rejectDuplicateObjectPairs_ok (pairs r : List (List Nat × LoadedJson)) :
    rejectDuplicateObjectPairs I pairs = .ok r ↔ (pairs.map Prod.fst).Nodup ∧ r = pairs :=
  rejectPairs_ok I [] pairs r List.nodup_nil

/-! ## nesting -/

/-- the loop ends well when no value on the stack reaches below the limit -/
theorem depthLoop_ok (maxDepth : Nat) (stack : List (LoadedJson × Nat)) :
    depthLoop maxDepth stack = .ok () ↔ ∀ p ∈ stack, p.2 + p.1.nesting ≤ maxDepth + 1 := by
  fun_induction depthLoop maxDepth stack with
  | case1 => simp
  | case2 item depth stack h =>
    have hd := item.nesting_children
    simp only [valueError, reduceCtorEq, List.forall_mem_cons, false_iff]
    intro hall
    have := hall.1
    omega
  | case3 item depth stack h ih =>
    rw [ih, List.forall_mem_append, List.forall_mem_cons, item.nesting_children]
    refine and_congr ?_ Iff.rfl
    simp only [List.mem_reverse, List.forall_mem_map]
    rw [show depth + (nestingItems item.children + 1) ≤ maxDepth + 1
        ↔ nestingItems item.children ≤ maxDepth - depth by omega, nestingItems_le]
    refine forall₂_congr fun x _ => ?_
    omega

theorem validateJsonDepth_ok (value : LoadedJson) {maxDepth : Nat} (h : 0 < maxDepth) :
    validateJsonDepth value maxDepth = .ok () ↔ value.nesting ≤ maxDepth := by
  unfold validateJsonDepth
  rw [if_neg (by omega), depthLoop_ok]
  simp only [List.mem_singleton, forall_eq]
  omega

/-! ## documents -/

theorem constants_ascii : IsAscii constants := by
  unfold IsAscii
  decide

/-- **Code points and code units are read alike.** -/
theorem document_units (message : String) (text : List Nat) :
    document constants (decoder I message) text =
      document constants (unitDecoder I message) (Utf16.encode text) :=
  (document_respell constants (unitDecoder I message) Utf16.spelling constants_ascii text).symm

/-- a byte-order mark starts no document -/
theorem document_mark {ε σ α : Type} (B : Builder ε σ Constant α) (text : List Nat) :
    document constants B (0xFEFF :: text) = .error B.fault := by
  have hnumber : lexNumber (0xFEFF :: text) = none := rfl
  have hscalar : scalar constants B (0xFEFF :: text) = .error B.fault := by
    unfold scalar
    rw [hnumber]
    rfl
  have hvalue : value constants B (fuelFor (0xFEFF :: text)) (0xFEFF :: text) = .error B.fault := by
    unfold value
    exact hscalar
  unfold document
  rw [show skipBlanks (0xFEFF :: text) = 0xFEFF :: text from rfl, hvalue]
  rfl

/-- **`json.loads` reads the code units of its text.** -/
theorem jsonLoads_units (text : List Nat) :
    jsonLoads I text = document constants (unitDecoder I (I.decodeMessage text)) (Utf16.encode text) := by
  unfold jsonLoads
  split
  · rename_i hmark
    cases text with
    | nil => cases hmark
    | cons c text =>
      cases hmark
      exact (document_mark (unitDecoder I _) (Utf16.encode text)).symm
  · exact document_units I _ text

/-- the recursion limit leaves room for values of a nesting -/
def Interpreter.RoomFor (depth : Nat) : Prop :=
  ∀ text v, jsonLoads I text = .ok v → v.nesting ≤ depth → I.recursionError text = false

/-- **An input is read** when it is within the limits and a text without duplicate keys. -/
theorem loadsNoDuplicateKeys_ok {raw : Raw} {maxBytes maxDepth : Nat} {v : LoadedJson} (hbytes : 0 < maxBytes)
    (hdepth : 0 < maxDepth) (hI : I.RoomFor maxDepth) :
    loadsNoDuplicateKeys I raw maxBytes maxDepth = .ok v ↔
      (∃ size, inputSize raw = some size ∧ size ≤ maxBytes) ∧
        (∃ text, decodeRaw raw = some text ∧ jsonLoads I text = .ok v) ∧ v.nesting ≤ maxDepth := by
  unfold loadsNoDuplicateKeys
  rw [if_neg (by omega)]
  cases hsize : inputSize raw with
  | none =>
    refine ⟨fun h => (nomatch h), fun ⟨⟨size, h, _⟩, _⟩ => (nomatch h)⟩
  | some size =>
    dsimp only
    by_cases hle : size > maxBytes
    · rw [if_pos hle]
      refine ⟨fun h => (nomatch h), fun ⟨⟨size', h, hle'⟩, _⟩ => ?_⟩
      cases h
      omega
    · rw [if_neg hle]
      cases htext : decodeRaw raw with
      | none =>
        refine ⟨fun h => (nomatch h), fun ⟨_, ⟨text, h, _⟩, _⟩ => (nomatch h)⟩
      | some text =>
        dsimp only
        constructor
        · intro h
          split at h
          · cases h
          · obtain ⟨payload, hpayload, h⟩ := bind_eq_ok.mp h
            obtain ⟨u, hu, h⟩ := bind_eq_ok.mp h
            cases h
            exact ⟨⟨size, rfl, by omega⟩, ⟨text, rfl, hpayload⟩, (validateJsonDepth_ok v hdepth).mp hu⟩
        · rintro ⟨-, ⟨text', ht, hv⟩, hnesting⟩
          cases ht
          rw [hI text v hv hnesting, hv, ok_bind, (validateJsonDepth_ok v hdepth).mpr hnesting]
          rfl

/-! ## exceptions -/

/-- every exception is a `ValueError` -/
abbrev RaisesValueErrors {α : Type} (x : Except PyError α) : Prop := Raises (fun e => e.kind = .valueError) x

theorem valueError_only {α : Type} (message : String) : RaisesValueErrors (valueError message : Except PyError α) :=
  Raises.error rfl

theorem parseNumber_only (l : Lexeme) : RaisesValueErrors (parseNumber I l) := by
  unfold parseNumber
  split
  · split
    · exact valueError_only _
    · exact Raises.ok _
  · exact Raises.ok _

theorem rejectPairs_only (payload pairs : List (List Nat × LoadedJson)) : RaisesValueErrors (rejectPairs I payload pairs) := by
  induction pairs generalizing payload with
  | nil => exact Raises.ok _
  | cons p pairs ih =>
    unfold rejectPairs
    split
    · exact valueError_only _
    · exact ih _

theorem depthLoop_only (maxDepth : Nat) (stack : List (LoadedJson × Nat)) : RaisesValueErrors (depthLoop maxDepth stack) := by
  fun_induction depthLoop maxDepth stack with
  | case1 => exact Raises.ok _
  | case2 => exact valueError_only _
  | case3 item depth stack h ih => exact ih

/-- **Reading raises nothing but a `ValueError`**, on every input. -/
theorem loadsNoDuplicateKeys_only (raw : Raw) (maxBytes maxDepth : Nat) :
    RaisesValueErrors (loadsNoDuplicateKeys I raw maxBytes maxDepth) := by
  have hobject : ∀ message pairs, RaisesValueErrors ((unitDecoder I message).object pairs) := fun message pairs =>
    Raises.bind (rejectPairs_only I [] pairs) fun _ _ => Raises.ok _
  have hloads : ∀ text, RaisesValueErrors (jsonLoads I text) := by
    intro text
    rw [jsonLoads_units]
    exact document_raises (p := fun e => e.kind = .valueError) constants (unitDecoder I _) rfl (parseNumber_only I) (hobject _) _
  unfold loadsNoDuplicateKeys
  split
  · exact valueError_only _
  · split
    · exact valueError_only _
    · split
      · exact valueError_only _
      · split
        · exact valueError_only _
        · split
          · exact valueError_only _
          · refine Raises.bind (hloads _) fun payload _ => Raises.bind ?_ fun _ _ => Raises.ok _
            unfold validateJsonDepth
            split
            · exact valueError_only _
            · exact depthLoop_only _ _

end

end StrictLoads

end Actenon
