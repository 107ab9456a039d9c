import ActenonKernel.Lib.Utf8
import ActenonKernel.Proof.CanonicalIff

/-!
# The TypeScript canonicaliser (`sdk/typescript/src/canonical.ts`)

The verification kit writes the same canonical form a second time: it counts the nesting down the
recursion where the kernel walks a stack, it sorts keys by their UTF-8 bytes where the kernel sorts
them by code points, and it escapes strings with `JSON.stringify`.

* `canonicalizeJsonAtDepth`      the text of a value at a depth;
* `common`                       the values that both languages read as the same value;
* `canonicalizeJsonAtDepth_ok`   the text is the kernel's, within the limit of the nesting;
* `canonicalizeBytes_agree`      both refuse a value or both write the same bytes.
-/

set_option linter.unusedSectionVars false

namespace Actenon

namespace TypeScript

/-- an exception: one of the language, or one of the kit with its code -/
inductive JsError where
  | typeError (message : String)
  | rangeError (message : String)
  | verification (code message : String)
deriving DecidableEq, Repr

/-- a computation that can throw -/
abbrev JsM := Except JsError

/-! ## strings -/

/-- a code unit in four lower-case digits after `\u` -/
def unicodeEscape (n : Nat) : List Char :=
  ['\\', 'u', Hex.digit (n / 4096 % 16), Hex.digit (n / 256 % 16), Hex.digit (n / 16 % 16), Hex.digit (n % 16)]

/-- one code point in `JSON.stringify` -/
def quotePoint (c : Char) : List Char :=
  if c = '\x08' then ['\\', 'b']
  else if c = '\t' then ['\\', 't']
  else if c = '\n' then ['\\', 'n']
  else if c = '\x0c' then ['\\', 'f']
  else if c = '\r' then ['\\', 'r']
  else if c = '"' then ['\\', '"']
  else if c = '\\' then ['\\', '\\']
  else if c.toNat < 0x20 then unicodeEscape c.toNat
  else [c]

/-- `JSON.stringify(value)` -/
def canonicalizeString (value : String) : List Char :=
  '"' :: (value.toList.flatMap quotePoint ++ ['"'])

theorem quotePoint_eq (c : Char) : quotePoint c = Text.escape c := by
  unfold quotePoint Text.escape
  split_ifs with h1 h2 h3 h4 h5 h6 h7 h8 <;> try (subst_vars; rfl)
  all_goals try (subst_vars; contradiction)
  have e1 : c.toNat / 4096 % 16 = 0 := by omega
  have e2 : c.toNat / 256 % 16 = 0 := by omega
  have e3 : c.toNat / 16 % 16 = c.toNat / 16 := by omega
  rw [unicodeEscape, e1, e2, e3]
  rfl

/-- the two escape routines write the same literal -/
theorem canonicalizeString_eq (value : String) : canonicalizeString value = Text.quote value := by
  unfold canonicalizeString Text.quote
  rw [funext quotePoint_eq]

/-! ## text -/

def maxSafeInteger : Nat := 2 ^ 53 - 1

def maxCanonicalDepth : Nat := 32

/-- the test at the head of `canonicalizeJsonAtDepth` -/
def withinDepth {α : Type} (depth : Nat) (text : JsM α) : JsM α :=
  if depth > maxCanonicalDepth then .error (.typeError "canonical JSON depth exceeds 32") else text

/-- `String(value)` of a safe integer -/
def safeInteger (n : Int) : JsM (List Char) :=
  if n.natAbs ≤ maxSafeInteger then .ok (Text.intText n)
  else .error (.typeError "floating-point values are not supported in canonical action hashing")

/-- a number: there is one kind of them, and an integral one is an integer -/
def numberText : PyFloat → JsM (List Char)
  | .finite q =>
    if q.den = 1 then safeInteger q.num
    else .error (.typeError "floating-point values are not supported in canonical action hashing")
  | _ => .error (.typeError "floating-point values are not supported in canonical action hashing")

/-- `Object.keys(value).sort((left, right) => Buffer.compare(...))` -/
def sortEntries {β : Type} (entries : List (String × β)) : List (String × β) :=
  entries.insertionSort fun p q =>
    Text.bufferCompare (Text.utf8 p.1.toList) (Text.utf8 q.1.toList) ≠ .gt

/-- `key:value` -/
def entryText (p : String × JsM (List Char)) : JsM (List Char) :=
  p.2.map fun text => canonicalizeString p.1 ++ ':' :: text

mutual

def canonicalizeJsonAtDepth : Json → Nat → JsM (List Char)
  | .null, depth => withinDepth depth (.ok ['n', 'u', 'l', 'l'])
  | .bool true, depth => withinDepth depth (.ok ['t', 'r', 'u', 'e'])
  | .bool false, depth => withinDepth depth (.ok ['f', 'a', 'l', 's', 'e'])
  | .int n, depth => withinDepth depth (safeInteger n)
  | .float f, depth => withinDepth depth (numberText f)
  | .str s, depth => withinDepth depth (.ok (canonicalizeString s))
  | .arr xs, depth => withinDepth depth do
    let ts ← canonicalizeItems xs (depth + 1)
    return Text.joined '[' ']' ts
  | .tup xs, depth => withinDepth depth do
    let ts ← canonicalizeItems xs (depth + 1)
    return Text.joined '[' ']' ts
  | .obj kvs, depth => withinDepth depth do
    let ts ← (sortEntries (canonicalizeEntries kvs (depth + 1))).mapM entryText
    return Text.joined '\x7b' '\x7d' ts

def canonicalizeItems : List Json → Nat → JsM (List (List Char))
  | [], _ => .ok []
  | x :: xs, depth => do
    let t ← canonicalizeJsonAtDepth x depth
    let ts ← canonicalizeItems xs depth
    return t :: ts

/-- the keys with the texts of their values -/
def canonicalizeEntries : Dict → Nat → List (String × JsM (List Char))
  | [], _ => []
  | (k, x) :: kvs, depth => (k.text, canonicalizeJsonAtDepth x depth) :: canonicalizeEntries kvs depth

end

def canonicalizeJson (value : Json) : JsM (List Char) := canonicalizeJsonAtDepth value 0

def canonicalizeBytes (value : Json) : JsM (List UInt8) := do
  let text ← canonicalizeJson value
  return Text.utf8 text

def sha256Hex (P : Platform) (value : Json) : JsM String := do
  let bytes ← canonicalizeBytes value
  return String.ofList (Hex.toHex (P.sha256 bytes))

/-! ## the pieces of a text -/

theorem canonicalizeItems_eq (xs : List Json) (depth : Nat) :
    canonicalizeItems xs depth = xs.mapM fun x => canonicalizeJsonAtDepth x depth := by
  induction xs with
  | nil => rfl
  | cons x xs ih =>
    rw [canonicalizeItems, ih, List.mapM_cons]

theorem canonicalizeEntries_eq (kvs : Dict) (depth : Nat) :
    canonicalizeEntries kvs depth = kvs.map fun p => (p.1.text, canonicalizeJsonAtDepth p.2 depth) := by
  induction kvs with
  | nil => rfl
  | cons p kvs ih =>
    obtain ⟨k, x⟩ := p
    rw [canonicalizeEntries, ih]
    rfl

/-- **One order of members**: by bytes and by code points. -/
theorem sortEntries_eq {β : Type} (entries : List (String × β)) :
    sortEntries entries = sortMembers entries := by
  unfold sortEntries sortMembers
  congr 1
  funext p q
  exact propext (Text.bufferCompare_utf8 p.1 q.1)

theorem withinDepth_ok {α : Type} {depth : Nat} {text : JsM α} {t : α} :
    withinDepth depth text = .ok t ↔ depth ≤ 32 ∧ text = .ok t := by
  unfold withinDepth maxCanonicalDepth
  split
  · rename_i h
    constructor
    · intro h'
      cases h'
    · intro h'
      omega
  · rename_i h
    exact ⟨fun h' => ⟨by omega, h'⟩, fun h' => h'.2⟩

theorem safeInteger_ok {n : Int} {t : List Char} (hn : n.natAbs ≤ maxSafeInteger) :
    safeInteger n = .ok t ↔ intRepr n = .ok t := by
  have hdigits : ¬ (Nat.toDigits 10 n.natAbs).length > maxStrDigits := by
    have hlen : (Nat.toDigits 10 n.natAbs).length ≤ 16 := by
      rw [Nat.length_toDigits_le_iff (by decide) (by decide)]
      exact lt_of_le_of_lt hn (by decide)
    unfold maxStrDigits
    omega
  rw [safeInteger, intRepr, if_pos hn, if_neg hdigits]
  simp

/-! ## the values of both languages -/

/-- a number that is not an integer -/
def fractional : PyFloat → Bool
  | .finite q => q.den ≠ 1
  | _ => true

mutual

/-- a JSON value that both languages read as the same value: keys are strings, an integer is within
the range of safe integers, and only a number with a fraction is a float -/
def common : Json → Bool
  | .int n => decide (n.natAbs ≤ maxSafeInteger)
  | .float f => fractional f
  | .arr xs => commonList xs
  | .tup xs => commonList xs
  | .obj kvs => commonMembers kvs
  | _ => true

def commonList : List Json → Bool
  | [] => true
  | x :: xs => common x && commonList xs

def commonMembers : Dict → Bool
  | [] => true
  | (k, x) :: kvs => k.isText && common x && commonMembers kvs

end

theorem commonList_iff (xs : List Json) : commonList xs = true ↔ ∀ x ∈ xs, common x = true := by
  induction xs with
  | nil => simp [commonList]
  | cons x xs ih => simp [commonList, ih]

theorem commonMembers_iff (kvs : Dict) :
    commonMembers kvs = true ↔ ∀ p ∈ kvs, p.1.isText = true ∧ common p.2 = true := by
  induction kvs with
  | nil => simp [commonMembers]
  | cons p kvs ih =>
    obtain ⟨k, x⟩ := p
    simp [commonMembers, ih, and_assoc]

theorem stringKeys_canonMembers {kvs : Dict} (hv : common (.obj kvs) = true) :
    stringKeys (canonMembers kvs) = .ok (kvs.map fun p => (p.1.text, canonText p.2)) := by
  rw [common, commonMembers_iff] at hv
  rw [canonMembers_eq, stringKeys_text]
  · rw [List.map_map]
    rfl
  · intro p hp
    obtain ⟨p', hp', rfl⟩ := List.mem_map.mp hp
    exact (hv p' hp').1

/-! ## the same text -/

theorem canonicalizeItems_ok {xs : List Json} {depth : Nat}
    (ih : ∀ x ∈ xs, ∀ t, canonicalizeJsonAtDepth x depth = .ok t ↔ canonText x = .ok t ∧ depth + x.depth ≤ 33)
    (ts : List (List Char)) : canonicalizeItems xs depth = .ok ts ↔
      canonItems xs = .ok ts ∧ ∀ x ∈ xs, depth + x.depth ≤ 33 := by
  rw [canonicalizeItems_eq, canonItems_eq]
  exact Fallible.mapM_ok_and ih ts

theorem scalar_limit (depth : Nat) : depth ≤ 32 ↔ depth + 1 ≤ 33 := by omega

/-- the limit of the nesting for a list -/
theorem depthList_limit (xs : List Json) (depth : Nat) (h : depth ≤ 32) :
    (∀ x ∈ xs, depth + 1 + x.depth ≤ 33) ↔ depth + (Json.depthList xs + 1) ≤ 33 := by
  have hle := Json.depthList_le xs (32 - depth)
  constructor
  · intro hall
    have := hle.mpr fun x hx => by have := hall x hx; omega
    omega
  · intro hlim x hx
    have := hle.mp (by omega) x hx
    omega

theorem entryText_ok {key : String} {x : Json} {depth : Nat}
    (ih : ∀ t, canonicalizeJsonAtDepth x depth = .ok t ↔ canonText x = .ok t ∧ depth + x.depth ≤ 33)
    (t : List Char) : entryText (key, canonicalizeJsonAtDepth x depth) = .ok t ↔
      memberPiece (key, canonText x) = .ok t ∧ depth + x.depth ≤ 33 := by
  simp only [entryText, memberPiece, Fallible.map_eq_ok, ih, memberText, canonicalizeString_eq]
  constructor
  · rintro ⟨a, ⟨h1, h2⟩, h3⟩
    exact ⟨⟨a, h1, h3⟩, h2⟩
  · rintro ⟨⟨a, h1, h3⟩, h2⟩
    exact ⟨a, ⟨h1, h2⟩, h3⟩

/-- the entries of an object, one after the other in the order of the keys -/
theorem entries_ok {kvs : Dict} {depth : Nat}
    (ih : ∀ p ∈ kvs, ∀ t, canonicalizeJsonAtDepth p.2 depth = .ok t ↔ canonText p.2 = .ok t ∧ depth + p.2.depth ≤ 33)
    (ts : List (List Char)) : (sortEntries (canonicalizeEntries kvs depth)).mapM entryText = .ok ts ↔
      (sortMembers (kvs.map fun p => (p.1.text, canonText p.2))).mapM memberPiece = .ok ts ∧
        ∀ p ∈ kvs, depth + p.2.depth ≤ 33 := by
  have hts : canonicalizeEntries kvs depth =
      (kvs.map fun p => (p.1.text, p.2)).map fun p => (p.1, canonicalizeJsonAtDepth p.2 depth) := by
    rw [canonicalizeEntries_eq, List.map_map]
    rfl
  have hpy : (kvs.map fun p => (p.1.text, canonText p.2)) =
      (kvs.map fun p => (p.1.text, p.2)).map fun p => (p.1, canonText p.2) := by
    rw [List.map_map]
    rfl
  rw [sortEntries_eq, hts, hpy, sortMembers_map canonText,
    sortMembers_map fun x => canonicalizeJsonAtDepth x depth, List.mapM_map, List.mapM_map]
  -- the sorted members are the members
  have hperm := List.perm_insertionSort (fun p q : String × Json => p.1 ≤ q.1)
    (kvs.map fun p => (p.1.text, p.2))
  rw [Fallible.mapM_ok_and (p := fun p => depth + p.2.depth ≤ 33)]
  · apply and_congr_right
    intro _
    constructor
    · intro h p hp
      exact h (p.1.text, p.2) (hperm.symm.subset (List.mem_map_of_mem hp))
    · intro h p hp
      obtain ⟨p', hp', rfl⟩ := List.mem_map.mp (hperm.subset hp)
      exact h p' hp'
  · intro p hp t
    obtain ⟨p', hp', rfl⟩ := List.mem_map.mp (hperm.subset hp)
    exact entryText_ok (ih p' hp') t

/-- **The text is the kernel's**, as long as the value stays within the limit of the nesting. -/
theorem canonicalizeJsonAtDepth_ok (v : Json) (hv : common v = true) (depth : Nat) (t : List Char) :
    canonicalizeJsonAtDepth v depth = .ok t ↔ canonText v = .ok t ∧ depth + v.depth ≤ 33 := by
  induction v using Json.induct generalizing depth t with
  | null =>
    rw [canonicalizeJsonAtDepth, withinDepth_ok, canonText, and_comm]
    exact and_congr (by simp) (scalar_limit depth)
  | str s =>
    rw [canonicalizeJsonAtDepth, withinDepth_ok, canonText, and_comm, canonicalizeString_eq]
    exact and_congr (by simp) (scalar_limit depth)
  | bool b =>
    cases b with
    | true | false =>
      rw [canonicalizeJsonAtDepth, withinDepth_ok, canonText, and_comm]
      exact and_congr (by simp) (scalar_limit depth)
  | int n =>
    rw [common, decide_eq_true_iff] at hv
    rw [canonicalizeJsonAtDepth, withinDepth_ok, canonText, and_comm, safeInteger_ok hv]
    exact and_congr_right fun _ => scalar_limit depth
  | float f =>
    rw [common] at hv
    have hnum : numberText f ≠ .ok t := by
      cases f with
      | finite q =>
        rw [fractional, decide_eq_true_iff] at hv
        rw [numberText, if_neg hv]
        simp
      | inf neg | nan => simp [numberText]
    rw [canonicalizeJsonAtDepth, withinDepth_ok, canonText]
    simp [hnum, typeError]
  | arr xs ih | tup xs ih =>
    rw [common, commonList_iff] at hv
    rw [canonicalizeJsonAtDepth, withinDepth_ok, canonText, Json.depth]
    have hitems := canonicalizeItems_ok fun x hx t => ih x hx (hv x hx) (depth + 1) t
    simp only [Fallible.bind_eq_ok, hitems, Fallible.pure_eq_ok]
    constructor
    · rintro ⟨hd, ts, ⟨h1, h2⟩, h3⟩
      exact ⟨⟨ts, h1, h3⟩, (depthList_limit xs depth hd).mp h2⟩
    · rintro ⟨⟨ts, h1, h3⟩, h2⟩
      have hd : depth ≤ 32 := by omega
      exact ⟨hd, ts, ⟨h1, (depthList_limit xs depth hd).mpr h2⟩, h3⟩
  | obj kvs ih =>
    have hkeys := stringKeys_canonMembers hv
    rw [common, commonMembers_iff] at hv
    rw [canonicalizeJsonAtDepth, withinDepth_ok, canonText, Json.depth, Json.depthMembers_eq, hkeys,
      Fallible.ok_bind]
    have hentries := entries_ok fun p hp t => ih p hp (hv p hp).2 (depth + 1) t
    have hlimit := depthList_limit (kvs.map Prod.snd) depth
    rw [List.forall_mem_map] at hlimit
    simp only [Fallible.bind_eq_ok, hentries, Fallible.pure_eq_ok]
    constructor
    · rintro ⟨hd, ts, ⟨h1, h2⟩, h3⟩
      exact ⟨⟨ts, h1, h3⟩, (hlimit hd).mp h2⟩
    · rintro ⟨⟨ts, h1, h3⟩, h2⟩
      have hd : depth ≤ 32 := by omega
      exact ⟨hd, ts, ⟨h1, (hlimit hd).mpr h2⟩, h3⟩

/-! ## the same bytes -/

mutual

/-- a number with a fraction stands somewhere in the value -/
def hasFloat : Json → Bool
  | .float _ => true
  | .arr xs => hasFloatList xs
  | .tup xs => hasFloatList xs
  | .obj kvs => hasFloatMembers kvs
  | _ => false

def hasFloatList : List Json → Bool
  | [] => false
  | x :: xs => hasFloat x || hasFloatList xs

def hasFloatMembers : Dict → Bool
  | [] => false
  | (_, x) :: kvs => hasFloat x || hasFloatMembers kvs

end

theorem hasFloatList_false (xs : List Json) : hasFloatList xs = false ↔ ∀ x ∈ xs, hasFloat x = false := by
  induction xs with
  | nil => simp [hasFloatList]
  | cons x xs ih => simp [hasFloatList, ih]

theorem hasFloatMembers_false (kvs : Dict) :
    hasFloatMembers kvs = false ↔ ∀ p ∈ kvs, hasFloat p.2 = false := by
  induction kvs with
  | nil => simp [hasFloatMembers]
  | cons p kvs ih =>
    obtain ⟨k, x⟩ := p
    simp [hasFloatMembers, ih]

/-- a value without fractions has a text -/
theorem canonText_total (v : Json) (hv : common v = true) (hf : hasFloat v = false) :
    ∃ t, canonText v = .ok t := by
  induction v using Json.induct with
  | null => exact ⟨_, by rw [canonText]⟩
  | str s => exact ⟨_, by rw [canonText]⟩
  | bool b =>
    cases b with
    | true | false => exact ⟨_, by rw [canonText]⟩
  | int n =>
    rw [common, decide_eq_true_iff] at hv
    refine ⟨Text.intText n, ?_⟩
    rw [canonText, ← safeInteger_ok hv, safeInteger, if_pos hv]
  | float f => cases hf
  | arr xs ih | tup xs ih =>
    rw [common, commonList_iff] at hv
    rw [hasFloat, hasFloatList_false] at hf
    obtain ⟨ts, hts⟩ := Fallible.exists_mapM_ok fun x hx => ih x hx (hv x hx) (hf x hx)
    exact ⟨_, by rw [canonText, canonItems_eq, hts]; rfl⟩
  | obj kvs ih =>
    rw [hasFloat, hasFloatMembers_false] at hf
    have hkeys := stringKeys_canonMembers hv
    rw [common, commonMembers_iff] at hv
    have hpieces : ∀ m ∈ sortMembers (kvs.map fun p => (p.1.text, canonText p.2)),
        ∃ t, memberPiece m = .ok t := by
      intro m hm
      obtain ⟨p, hp, rfl⟩ := List.mem_map.mp ((List.perm_insertionSort _ _).subset hm)
      obtain ⟨t, ht⟩ := ih p hp (hv p hp).2 (hf p hp)
      exact ⟨_, by rw [memberPiece, ht]; rfl⟩
    obtain ⟨ts, hts⟩ := Fallible.exists_mapM_ok hpieces
    exact ⟨_, by rw [canonText, hkeys, Fallible.ok_bind, hts]; rfl⟩

/-- **The two canonicalisers agree**: both write the same bytes, or both refuse, and they refuse only
a value that is nested too deep or holds a number with a fraction. -/
theorem canonicalizeBytes_agree (P : Platform) (hP : P.maxJsonDepth = 32) (value : Json)
    (hv : common value = true)
    (hsize : ∀ text, canonText value = .ok text → (Text.utf8 text).length ≤ maxOutputBytes) :
    (∃ bytes, Actenon.canonicalizeBytes P value = .ok bytes ∧ canonicalizeBytes value = .ok bytes) ∨
      ∃ e e', Actenon.canonicalizeBytes P value = .error e ∧ canonicalizeBytes value = .error e' ∧
        (33 < value.depth ∨ hasFloat value = true) := by
  -- the same bytes are accepted
  have hagree : ∀ bytes, Actenon.canonicalizeBytes P value = .ok bytes ↔ canonicalizeBytes value = .ok bytes := by
    intro bytes
    unfold canonicalizeBytes canonicalizeJson
    simp only [Fallible.bind_eq_ok, canonicalizeJsonAtDepth_ok value hv, Fallible.pure_eq_ok]
    constructor
    · intro h
      obtain ⟨t, ht, hb, hd, -⟩ := canonicalizeBytes_ok h
      rw [hP] at hd
      exact ⟨t, ⟨ht, by omega⟩, hb.symm⟩
    · rintro ⟨t, ⟨ht, hd⟩, rfl⟩
      exact canonicalizeBytes_of_text ht (by rw [hP]; omega) (hsize t ht)
  cases hpy : Actenon.canonicalizeBytes P value with
  | ok bytes => exact Or.inl ⟨bytes, rfl, (hagree bytes).mp hpy⟩
  | error e =>
    refine Or.inr ?_
    cases hts : canonicalizeBytes value with
    | ok bytes =>
      have h := (hagree bytes).mpr hts
      rw [hpy] at h
      cases h
    | error e' =>
      refine ⟨e, e', rfl, rfl, ?_⟩
      by_contra hno
      rw [not_or, Bool.not_eq_true, Nat.not_lt] at hno
      obtain ⟨t, ht⟩ := canonText_total value hv hno.2
      have h := canonicalizeBytes_of_text (P := P) ht (by rw [hP]; exact hno.1) (hsize t ht)
      rw [hpy] at h
      cases h

/-- keys whose codes are four, three and two bytes long, and a text with escapes -/
def spelledKeys : Json :=
  .obj (members [("😀", .int (-7)), ("\uff5e", .str "a\"\\\n\x01"), ("\u00e9", .arr [.null, .bool true])])

/-- a list in a list in a list -/
def nested : Nat → Json
  | 0 => .null
  | n + 1 => .arr [nested n]

/-- the size is known once the text is -/
theorem size_of_text {v : Json}
    (h : ((canonText v).map fun t => decide ((Text.utf8 t).length ≤ maxOutputBytes)).toOption = some true) :
    ∀ text, canonText v = .ok text → (Text.utf8 text).length ≤ maxOutputBytes := by
  intro text ht
  rw [ht] at h
  exact decide_eq_true_iff.mp (Option.some.inj h)

theorem canonicalizeBytes_agree_sample :
    (∃ bytes, Actenon.canonicalizeBytes (samplePlatform fun _ => []) spelledKeys = .ok bytes ∧
        canonicalizeBytes spelledKeys = .ok bytes) ∧
      ∃ e e', Actenon.canonicalizeBytes (samplePlatform fun _ => []) (nested 33) = .error e ∧
        canonicalizeBytes (nested 33) = .error e' := by
  have hkeys := canonicalizeBytes_agree (samplePlatform fun _ => []) rfl spelledKeys (by decide)
    (size_of_text (by decide +kernel))
  have hdeep := canonicalizeBytes_agree (samplePlatform fun _ => []) rfl (nested 33) (by decide)
    (size_of_text (by decide +kernel))
  have hfacts : (spelledKeys.depth ≤ 33 ∧ hasFloat spelledKeys = false) ∧ 33 < (nested 33).depth := by
    decide +kernel
  constructor
  · rcases hkeys with h | ⟨e, e', -, -, h | h⟩
    · exact h
    · omega
    · rw [hfacts.1.2] at h
      cases h
  · rcases hdeep with ⟨bytes, h, -⟩ | ⟨e, e', h, h', -⟩
    · obtain ⟨t, -, -, hd, -⟩ := canonicalizeBytes_ok h
      have hlimit : (samplePlatform fun _ => []).maxJsonDepth = 32 := rfl
      omega
    · exact ⟨e, e', h, h'⟩

end TypeScript

end Actenon
