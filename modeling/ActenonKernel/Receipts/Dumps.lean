import ActenonKernel.Proof.CanonicalReads

/-!
# What `json.dumps` writes (`json` of the standard library)

Artifacts are written by `json.dumps(.., sort_keys=True)` with its default escapes and read again by
`loads_no_duplicate_keys`.

* `Encoder`, `Encoder.dumps`    the encoder, for any layout;
* `Json.spelled`          the document of a value: no character beyond ASCII, floats as their `repr`;
* `Encoder.Writes`        the values that are written so, `dumps_spelled` that they are;
* `loadsValue_dumps`      what is written is read back, within the limits of the reader;
* `dumps_inj`             one text has one value.
-/

set_option linter.unusedSectionVars false

namespace Actenon

open JsonText

/-! ## the encoder -/

/-- what the encoder takes from its call and from the interpreter -/
structure Encoder where
  layout : Layout
  /-- `float.__repr__` of a finite float -/
  floatText : Rat → Lexeme
  /-- the text of a dictionary with keys that are not texts -/
  otherText : Dict → Except PyError (List Nat)

/-- the pieces of a character: all but the printed ASCII characters are escaped -/
def asciiPieces (c : Char) : List JsonText.Piece :=
  if c = '"' ∨ c = '\\' ∨ c = '\n' ∨ c = '\r' ∨ c = '\t' ∨ c = '\x0c' ∨ c = '\x08' then [.escaped c.toNat]
  else if 32 ≤ c.toNat ∧ c.toNat ≤ 126 then [.raw c.toNat]
  else (Utf16.encodePoint c.toNat).map .unit

/-- `encode_basestring_ascii`, without the quotes -/
def asciiString (s : String) : List JsonText.Piece := s.toList.flatMap asciiPieces

/-- a float that has no digits -/
def nonFiniteText : PyFloat → List Nat
  | .inf false => StrictLoads.word "Infinity"
  | .inf true => StrictLoads.word "-Infinity"
  | _ => StrictLoads.word "NaN"

namespace Encoder

variable (E : Encoder)

/-- a member once the text of its value is there -/
def memberText (p : String × Except PyError (List Nat)) : Except PyError (List Nat) :=
  p.2.map fun t => JsonText.memberText E.layout (asciiString p.1) t

mutual

/-- the text of a value at a depth -/
def dumpsAt (depth : Nat) : Json → Except PyError (List Nat)
  | .null => .ok (StrictLoads.word "null")
  | .bool true => .ok (StrictLoads.word "true")
  | .bool false => .ok (StrictLoads.word "false")
  | .int n => (intRepr n).map codesOf
  | .float (.finite q) => .ok (E.floatText q).text
  | .float f => .ok (nonFiniteText f)
  | .str s => .ok ('"'.toNat :: ((asciiString s).flatMap JsonText.Piece.text ++ ['"'.toNat]))
  | .arr xs | .tup xs => do
    let ts ← dumpsItems (depth + 1) xs
    return bracketed E.layout '['.toNat ']'.toNat depth ts
  | .obj kvs =>
    if kvs.all fun p => p.1.isText then do
      let ts ← (sortMembers ((dumpsMembers (depth + 1) kvs).map fun p => (p.1.text, p.2))).mapM E.memberText
      return bracketed E.layout '\x7b'.toNat '\x7d'.toNat depth ts
    else E.otherText kvs

def dumpsItems (depth : Nat) : List Json → Except PyError (List (List Nat))
  | [] => .ok []
  | x :: xs => do
    let t ← dumpsAt depth x
    let ts ← dumpsItems depth xs
    return t :: ts

def dumpsMembers (depth : Nat) : Dict → List (Key × Except PyError (List Nat))
  | [] => []
  | (k, x) :: kvs => (k, dumpsAt depth x) :: dumpsMembers depth kvs

end

def dumps (j : Json) : Except PyError (List Nat) := E.dumpsAt 0 j

end Encoder

/-! ## its document -/

mutual

/-- the document of a value, its members as they stand -/
def Json.spelled (E : Encoder) : Json → Written
  | .null | .float (.inf _) | .float .nan => .null
  | .bool b => .bool b
  | .int n => .num (Lexeme.ofInt n)
  | .float (.finite q) => .num (E.floatText q)
  | .str s => .text (asciiString s)
  | .arr xs | .tup xs => .array (Json.spelledItems E xs)
  | .obj kvs => .object (Json.spelledMembers E kvs)

def Json.spelledItems (E : Encoder) : List Json → List Written
  | [] => []
  | x :: xs => x.spelled E :: Json.spelledItems E xs

def Json.spelledMembers (E : Encoder) : Dict → List (List JsonText.Piece × Written)
  | [] => []
  | (k, x) :: kvs => (asciiString k.text, x.spelled E) :: Json.spelledMembers E kvs

end

theorem spelledItems_eq (E : Encoder) (xs : List Json) : Json.spelledItems E xs = xs.map (Json.spelled E) := by
  induction xs with
  | nil => rfl
  | cons x xs ih => rw [Json.spelledItems, ih, List.map_cons]

theorem spelledMembers_eq (E : Encoder) (kvs : Dict) :
    Json.spelledMembers E kvs = kvs.map fun p => (asciiString p.1.text, p.2.spelled E) := by
  induction kvs with
  | nil => rfl
  | cons p kvs ih =>
    obtain ⟨k, x⟩ := p
    rw [Json.spelledMembers, ih]
    rfl

/-! ## strings -/

theorem isUnit_encodePoint {n : Nat} (h : n < 0x110000) : ∀ u ∈ Utf16.encodePoint n, u < 65536 := by
  unfold Utf16.encodePoint
  intro u hu
  split_ifs at hu with hlow
  · rw [List.mem_singleton] at hu
    omega
  · simp only [List.mem_cons, List.not_mem_nil, or_false] at hu
    rcases hu with hu | hu
    · omega
    · omega

theorem asciiPieces_ok (c : Char) : ∀ p ∈ asciiPieces c, p.Ok := by
  unfold asciiPieces
  intro p hp
  split_ifs at hp with hescaped hprinted
  · rw [List.mem_singleton] at hp
    subst hp
    rcases hescaped with rfl | rfl | rfl | rfl | rfl | rfl | rfl <;> exact ⟨rfl, by decide⟩
  · rw [List.mem_singleton] at hp
    subst hp
    simp only [not_or] at hescaped
    have hne : ∀ d : Char, c ≠ d → c.toNat ≠ d.toNat := fun d h he => h (Char.toNat_inj.mp he)
    exact ⟨hne _ hescaped.1, hprinted.1, hne _ hescaped.2.1⟩
  · obtain ⟨u, hu, rfl⟩ := List.mem_map.mp hp
    exact isUnit_encodePoint (char_codePoint c).2 u hu

theorem asciiString_ok (s : String) : ∀ p ∈ asciiString s, p.Ok := by
  intro p hp
  obtain ⟨c, -, hc⟩ := List.mem_flatMap.mp hp
  exact asciiPieces_ok c p hc

/-- the units of the pieces of a character are its own -/
theorem codes_asciiPieces (c : Char) :
    codes ((asciiPieces c).flatMap (respellPiece Utf16.encodePoint)) = Utf16.encodePoint c.toNat := by
  have hunits : ∀ us : List Nat, codes ((us.map JsonText.Piece.unit).flatMap (respellPiece Utf16.encodePoint)) = us := by
    intro us
    induction us with
    | nil => rfl
    | cons u us ih => exact congrArg (u :: ·) ih
  unfold asciiPieces
  split_ifs with hescaped hprinted
  · rcases hescaped with rfl | rfl | rfl | rfl | rfl | rfl | rfl <;> rfl
  · show codes ((Utf16.encodePoint c.toNat).map JsonText.Piece.raw ++ []) = _
    rw [List.append_nil]
    unfold codes
    rw [List.map_map]
    exact List.map_id _
  · exact hunits _

/-- the decoder reads the pieces of a string as the string -/
theorem decoder_asciiString (I : StrictLoads.Interpreter) (message s : String) :
    (StrictLoads.decoder I message).string (asciiString s) = codesOf s.toList := by
  have hcodes : codes ((asciiString s).flatMap (respellPiece Utf16.encodePoint)) = Utf16.encode (codesOf s.toList) := by
    have hpiece := codes_asciiPieces
    unfold codes at hpiece
    unfold codes asciiString Utf16.encode codesOf
    rw [List.flatMap_assoc, List.map_flatMap, List.flatMap_map]
    exact List.flatMap_congr fun c _ => hpiece c
  show Utf16.codePoints _ = _
  rw [hcodes]
  refine Utf16.codePoints_encode fun n hn => ?_
  obtain ⟨c, -, rfl⟩ := List.mem_map.mp hn
  exact char_codePoint c

/-! ## the text -/

/-- the values that are written as JSON and read back: text keys, floats that are read as they were, and
integers of no more digits than the interpreter reads -/
def Encoder.WritesFloat (E : Encoder) (I : StrictLoads.Interpreter) (q : Rat) : Prop :=
  (E.floatText q).Ok ∧ (E.floatText q).tail ≠ [] ∧ (∀ c ∈ (E.floatText q).text, c < 128) ∧
    I.floatOf (E.floatText q) = .finite q

mutual

def Encoder.Writes (E : Encoder) (I : StrictLoads.Interpreter) : Json → Prop
  | .null | .bool _ | .str _ => True
  | .int n => (Nat.toDigits 10 n.natAbs).length ≤ maxStrDigits
  | .float (.finite q) => E.WritesFloat I q
  | .float _ => False
  | .arr xs | .tup xs => E.WritesItems I xs
  | .obj kvs => E.WritesMembers I kvs

def Encoder.WritesItems (E : Encoder) (I : StrictLoads.Interpreter) : List Json → Prop
  | [] => True
  | x :: xs => E.Writes I x ∧ E.WritesItems I xs

def Encoder.WritesMembers (E : Encoder) (I : StrictLoads.Interpreter) : Dict → Prop
  | [] => True
  | (k, x) :: kvs => (k.isText = true ∧ E.Writes I x) ∧ E.WritesMembers I kvs

end

section
variable {E : Encoder} {I : StrictLoads.Interpreter}

theorem writesItems_iff {xs : List Json} : E.WritesItems I xs ↔ ∀ x ∈ xs, E.Writes I x := by
  induction xs with
  | nil => simp [Encoder.WritesItems]
  | cons x xs ih => rw [Encoder.WritesItems, ih, List.forall_mem_cons]

theorem writesMembers_iff {kvs : Dict} :
    E.WritesMembers I kvs ↔ ∀ p ∈ kvs, p.1.isText = true ∧ E.Writes I p.2 := by
  induction kvs with
  | nil => simp [Encoder.WritesMembers]
  | cons p kvs ih =>
    obtain ⟨k, x⟩ := p
    rw [Encoder.WritesMembers, ih, List.forall_mem_cons]

theorem dumpsItems_ok {depth : Nat} {xs : List Json} {f : Json → List Nat}
    (h : ∀ x ∈ xs, E.dumpsAt depth x = .ok (f x)) : E.dumpsItems depth xs = .ok (xs.map f) := by
  induction xs with
  | nil => rfl
  | cons x xs ih =>
    obtain ⟨hx, hxs⟩ := List.forall_mem_cons.mp h
    rw [Encoder.dumpsItems, hx, Fallible.ok_bind, ih hxs]
    rfl

theorem encoder_dumpsMembers_eq (depth : Nat) (kvs : Dict) :
    E.dumpsMembers depth kvs = kvs.map fun p => (p.1, E.dumpsAt depth p.2) := by
  induction kvs with
  | nil => rfl
  | cons p kvs ih =>
    obtain ⟨k, x⟩ := p
    rw [Encoder.dumpsMembers, ih]
    rfl

/-- a dictionary of text keys, with its keys as texts -/
theorem strings_of_text {kvs : Dict} (h : ∀ p ∈ kvs, p.1.isText = true) :
    ∃ zs : List (String × Json), kvs = zs.map fun p => (.str p.1, p.2) := by
  refine ⟨kvs.map fun p => (p.1.text, p.2), ?_⟩
  rw [List.map_map]
  refine ((List.map_congr_left fun p hp => ?_).trans (List.map_id kvs)).symm
  obtain ⟨k, x⟩ := p
  cases k with
  | str s => rfl
  | none | num f | tup ks => cases h _ hp

/-- **A value is written as the document of the value that comes back.** -/
theorem dumps_spelled {j : Json} (h : E.Writes I j) (depth : Nat) :
    E.dumpsAt depth j = .ok (write E.layout depth (j.asRead.spelled E)) := by
  induction j using Json.induct generalizing depth with
  | null | str s => rfl
  | bool b => cases b <;> rfl
  | int n =>
    have hdigits : ¬ (Nat.toDigits 10 n.natAbs).length > maxStrDigits := Nat.not_lt.mpr h
    rw [Encoder.dumpsAt, intRepr, if_neg hdigits]
    exact congrArg Except.ok (lexeme_codes n).symm
  | float f =>
    cases f with
    | finite q => rfl
    | inf neg => cases h
    | nan => cases h
  | arr xs ih | tup xs ih =>
    have hxs := writesItems_iff.mp h
    have hitems := dumpsItems_ok fun x hx => ih x hx (hxs x hx) (depth + 1)
    rw [Encoder.dumpsAt, hitems, Fallible.ok_bind, Json.asRead, Json.spelled, write, writeItems_eq, spelledItems_eq,
      asReadItems_eq, List.map_map, List.map_map]
    rfl
  | obj kvs ih =>
    have hkvs := writesMembers_iff.mp h
    obtain ⟨zs, rfl⟩ := strings_of_text fun p hp => (hkvs p hp).1
    have hall : (zs.map fun p => ((.str p.1, p.2) : Key × Json)).all (fun p => p.1.isText) = true :=
      List.all_eq_true.mpr fun p hp => (hkvs p hp).1
    have hmembers : ((E.dumpsMembers (depth + 1) (zs.map fun p => (.str p.1, p.2))).map fun p => (p.1.text, p.2)) =
        zs.map fun p => (p.1, E.dumpsAt (depth + 1) p.2) := by
      rw [encoder_dumpsMembers_eq, List.map_map, List.map_map]
      rfl
    have hwritten : ∀ p ∈ sortMembers zs, E.memberText (p.1, E.dumpsAt (depth + 1) p.2) =
        .ok (JsonText.memberText E.layout (asciiString p.1) (write E.layout (depth + 1) (p.2.asRead.spelled E))) := by
      intro p hp
      have hmem : ((.str p.1, p.2) : Key × Json) ∈ zs.map fun p => ((.str p.1, p.2) : Key × Json) :=
        List.mem_map_of_mem (f := fun p : String × Json => ((.str p.1, p.2) : Key × Json))
          ((List.perm_insertionSort _ zs).subset hp)
      unfold Encoder.memberText
      rw [ih _ hmem (hkvs _ hmem).2 (depth + 1)]
      rfl
    rw [Encoder.dumpsAt, if_pos hall, hmembers, sortMembers_map, asRead_obj, sortDict_strings, Json.spelled, write,
      writeMembers_eq, spelledMembers_eq, List.map_map, List.map_map]
    have hmembers := Fallible.mapM_eq_ok.mpr (List.forall₂_map_left_iff.mpr (List.forall₂_map_right_iff.mpr
      (List.forall₂_same.mpr hwritten)))
    rw [hmembers]
    rfl

/-! ## what the decoder makes of it -/

theorem spelled_writable {j : Json} (h : E.Writes I j) : (j.spelled E).Writable := by
  induction j using Json.induct with
  | null | bool b => trivial
  | int n => exact ofInt_ok n
  | float f =>
    cases f with
    | finite q => exact h.1
    | inf neg => cases h
    | nan => cases h
  | str s => exact asciiString_ok s
  | arr xs ih | tup xs ih =>
    rw [Json.spelled, writable_array, spelledItems_eq]
    intro w hw
    obtain ⟨x, hx, rfl⟩ := List.mem_map.mp hw
    exact ih x hx (writesItems_iff.mp h x hx)
  | obj kvs ih =>
    rw [Json.spelled, writable_object, spelledMembers_eq]
    intro w hw
    obtain ⟨p, hp, rfl⟩ := List.mem_map.mp hw
    exact ⟨asciiString_ok _, ih p hp (writesMembers_iff.mp h p hp).2⟩

theorem writes_asRead {j : Json} (h : E.Writes I j) : E.Writes I j.asRead := by
  induction j using Json.induct with
  | null | bool b | int n | str s | float f => exact h
  | arr xs ih | tup xs ih =>
    rw [Json.asRead, Encoder.Writes, writesItems_iff, asReadItems_eq]
    intro y hy
    obtain ⟨x, hx, rfl⟩ := List.mem_map.mp hy
    exact ih x hx (writesItems_iff.mp h x hx)
  | obj kvs ih =>
    rw [asRead_obj, Encoder.Writes, writesMembers_iff]
    intro q hq
    obtain ⟨p, hp, rfl⟩ := List.mem_map.mp ((sortDict_perm _).subset hq)
    obtain ⟨hkey, hvalue⟩ := writesMembers_iff.mp h p hp
    exact ⟨hkey, ih p hp hvalue⟩

/-- **The decoder makes the value of its document.** -/
theorem fold_spelled (message : String) {j : Json} (h : E.Writes I j) (hl : j.lawful = true) :
    fold (StrictLoads.decoder I message) ((j.spelled E).tree StrictLoads.Constant) = .ok j.loaded := by
  induction j using Json.induct with
  | null | bool b => rfl
  | int n =>
    have hlength : ¬ (Lexeme.ofInt n).digits.length > StrictLoads.intMaxStrDigits := by
      show ¬ ((Nat.toDigits 10 n.natAbs).map Char.toNat).length > _
      rw [List.length_map]
      exact Nat.not_lt.mpr h
    show StrictLoads.parseNumber I (Lexeme.ofInt n) = _
    unfold StrictLoads.parseNumber
    rw [if_pos (show (Lexeme.ofInt n).tail = [] from rfl), if_neg hlength, ofInt_value]
    rfl
  | float f =>
    cases f with
    | finite q =>
      show StrictLoads.parseNumber I (E.floatText q) = _
      unfold StrictLoads.parseNumber
      rw [if_neg h.2.1, h.2.2.2]
      rfl
    | inf neg => cases h
    | nan => cases h
  | str s => exact congrArg (fun ps => Except.ok (Value.text ps)) (decoder_asciiString I message s)
  | arr xs ih | tup xs ih =>
    replace h := writesItems_iff.mp h
    rw [Json.lawful, Json.lawfulList_iff] at hl
    have hitems : foldItems (StrictLoads.decoder I message) (mapItems id Numeral.lexeme (Json.spelledItems E xs)) =
        .ok (Json.loadedItems xs) := by
      induction xs with
      | nil => rfl
      | cons x xs ihxs =>
        obtain ⟨hx, hxs⟩ := List.forall_mem_cons.mp h
        obtain ⟨hxl, hxsl⟩ := List.forall_mem_cons.mp hl
        obtain ⟨ihx, ih⟩ := List.forall_mem_cons.mp ih
        have hvalue : fold (StrictLoads.decoder I message) ((x.spelled E).map id Numeral.lexeme) = .ok x.loaded := ihx hx hxl
        rw [Json.spelledItems, mapItems, foldItems, hvalue, Fallible.ok_bind, ihxs ih hxsl hxs]
        rfl
    show (foldItems (StrictLoads.decoder I message) _ >>= _) = _
    rw [hitems]
    rfl
  | obj kvs ih =>
    replace h := writesMembers_iff.mp h
    rw [Json.lawful_obj] at hl
    obtain ⟨hkeys, hl⟩ := hl
    have hnodup := loadedMembers_nodup hkeys fun p hp => (h p hp).1
    have hmembers : foldMembers (StrictLoads.decoder I message) (mapMembers id Numeral.lexeme (Json.spelledMembers E kvs)) =
        .ok (Json.loadedMembers kvs) := by
      clear hnodup hkeys
      induction kvs with
      | nil => rfl
      | cons p kvs ihkvs =>
        obtain ⟨k, x⟩ := p
        obtain ⟨hx, hkvs⟩ := List.forall_mem_cons.mp h
        obtain ⟨hxl, hkvsl⟩ := List.forall_mem_cons.mp hl
        obtain ⟨ihx, ih⟩ := List.forall_mem_cons.mp ih
        have hvalue : fold (StrictLoads.decoder I message) ((x.spelled E).map id Numeral.lexeme) = .ok x.loaded := ihx hx.2 hxl
        have hname : (StrictLoads.decoder I message).string (id (asciiString k.text)) = codesOf k.text.toList :=
          decoder_asciiString I message k.text
        rw [Json.spelledMembers, mapMembers, foldMembers, hvalue, Fallible.ok_bind, ihkvs ih hkvs hkvsl,
          Fallible.ok_bind, hname]
        rfl
    have hobject : (StrictLoads.decoder I message).object (Json.loadedMembers kvs) = .ok (.object (Json.loadedMembers kvs)) := by
      show (StrictLoads.rejectDuplicateObjectPairs I (Json.loadedMembers kvs)).map Value.object = _
      rw [(StrictLoads.rejectDuplicateObjectPairs_ok I _ _).mpr ⟨hnodup, rfl⟩]
      rfl
    show (foldMembers (StrictLoads.decoder I message) _ >>= _) = _
    rw [hmembers, Fallible.ok_bind]
    exact hobject

theorem nesting_of_loaded (j : Json) : j.loaded.nesting = j.depth := by
  induction j using Json.induct with
  | null | bool b | int n | str s | float f => rfl
  | arr xs ih | tup xs ih =>
    show nestingItems (Json.loadedItems xs) + 1 = Json.depthList xs + 1
    induction xs with
    | nil => rfl
    | cons x xs ihxs =>
      obtain ⟨ihx, ih⟩ := List.forall_mem_cons.mp ih
      rw [Json.loadedItems, nestingItems, Json.depthList, ihx, Nat.succ.inj (ihxs ih)]
  | obj kvs ih =>
    show nestingMembers (Json.loadedMembers kvs) + 1 = Json.depthMembers kvs + 1
    induction kvs with
    | nil => rfl
    | cons p kvs ihkvs =>
      obtain ⟨k, x⟩ := p
      obtain ⟨ihx, ih⟩ := List.forall_mem_cons.mp ih
      rw [Json.loadedMembers, nestingMembers, Json.depthMembers, ihx, Nat.succ.inj (ihkvs ih)]

/-- what is read is the value that comes back -/
theorem ofLoaded_asRead {j : Json} (h : E.Writes I j) : ofLoaded j.asRead.loaded = some j.asRead := by
  induction j using Json.induct with
  | null | bool b | int n | float f => rfl
  | str s => exact congrArg (Option.map Json.str) (stringOf_codes s)
  | arr xs ih | tup xs ih =>
    replace h := writesItems_iff.mp h
    have hitems : ofLoadedItems (Json.loadedItems (Json.asReadItems xs)) = some (Json.asReadItems xs) := by
      induction xs with
      | nil => rfl
      | cons x xs ihxs =>
        obtain ⟨hx, hxs⟩ := List.forall_mem_cons.mp h
        obtain ⟨ihx, ih⟩ := List.forall_mem_cons.mp ih
        rw [Json.asReadItems, Json.loadedItems, ofLoadedItems, ihx hx, ihxs ih hxs]
        rfl
    show (ofLoadedItems (Json.loadedItems (Json.asReadItems xs))).map Json.arr = _
    rw [hitems]
    rfl
  | obj kvs ih =>
    replace h := writesMembers_iff.mp h
    have hmembers : ∀ d : Dict, (∀ p ∈ d, p.1.isText = true ∧ ofLoaded p.2.loaded = some p.2) →
        ofLoadedMembers (Json.loadedMembers d) = some d := by
      intro d
      induction d with
      | nil => exact fun _ => rfl
      | cons p d ihd =>
        intro hd
        obtain ⟨k, x⟩ := p
        obtain ⟨⟨hk, hx⟩, hrest⟩ := List.forall_mem_cons.mp hd
        cases k with
        | str s =>
          have hkey : stringOf (codesOf (Key.str s).text.toList) = some s := stringOf_codes s
          rw [Json.loadedMembers, ofLoadedMembers, hx, ihd hrest, hkey]
          rfl
        | none | num f | tup ks => cases hk
    rw [asRead_obj]
    show (ofLoadedMembers (Json.loadedMembers _)).map Json.obj = _
    rw [hmembers _ fun q hq => ?_]
    · rfl
    · obtain ⟨p, hp, rfl⟩ := List.mem_map.mp ((sortDict_perm _).subset hq)
      obtain ⟨hkey, hvalue⟩ := h p hp
      exact ⟨hkey, ih p hp hvalue⟩

/-! ## what is read -/

theorem asciiString_ascii (s : String) : ∀ q ∈ asciiString s, ∀ c ∈ q.text, c < 128 := by
  have hcode : ∀ n : Nat, hexCode (n % 16) < 128 := by
    intro n
    unfold hexCode
    split_ifs <;> omega
  intro q hq
  obtain ⟨c, -, hc⟩ := List.mem_flatMap.mp hq
  unfold asciiPieces at hc
  split_ifs at hc with hescaped hprinted
  · rw [List.mem_singleton] at hc
    subst hc
    rcases hescaped with rfl | rfl | rfl | rfl | rfl | rfl | rfl <;> decide
  · rw [List.mem_singleton] at hc
    subst hc
    refine List.forall_mem_singleton.mpr ?_
    omega
  · obtain ⟨u, -, rfl⟩ := List.mem_map.mp hc
    simp only [JsonText.Piece.text, List.forall_mem_cons]
    exact ⟨by decide, by decide, hcode _, hcode _, hcode _, hcode _, fun c hc => absurd hc List.not_mem_nil⟩

theorem ofInt_ascii (n : Int) : ∀ c ∈ (Lexeme.ofInt n).text, c < 128 := by
  have hdigits : ∀ c ∈ digitCodes n.natAbs, c < 128 := by
    intro c hc
    have hdigit : 48 ≤ c ∧ c ≤ 57 := by simpa [isDigit] using isDigit_digitCodes (n := n.natAbs) hc
    omega
  unfold Lexeme.text Lexeme.ofInt
  dsimp only
  rw [List.append_nil]
  refine List.forall_mem_append.mpr ⟨?_, hdigits⟩
  split_ifs
  · exact List.forall_mem_singleton.mpr (by decide)
  · exact fun c hc => absurd hc List.not_mem_nil

theorem spelled_ascii {j : Json} (h : E.Writes I j) :
    (j.spelled E).Parts (fun ps => ∀ q ∈ ps, ∀ c ∈ q.text, c < 128) (fun l => ∀ c ∈ l.text, c < 128) := by
  induction j using Json.induct with
  | null | bool b => trivial
  | int n => exact ofInt_ascii n
  | float f =>
    cases f with
    | finite q => exact h.2.2.1
    | inf neg => cases h
    | nan => cases h
  | str s => exact asciiString_ascii s
  | arr xs ih | tup xs ih =>
    refine (partsItems_iff _ _ _).mpr ?_
    rw [spelledItems_eq]
    intro w hw
    obtain ⟨x, hx, rfl⟩ := List.mem_map.mp hw
    exact ih x hx (writesItems_iff.mp h x hx)
  | obj kvs ih =>
    refine (partsMembers_iff _ _ _).mpr ?_
    rw [spelledMembers_eq]
    intro w hw
    obtain ⟨p, hp, rfl⟩ := List.mem_map.mp hw
    exact ⟨asciiString_ascii _, ih p hp (writesMembers_iff.mp h p hp).2⟩

theorem inputSize_ascii {t : List Nat} (h : ∀ c ∈ t, c < 128) : StrictLoads.inputSize (.str t) = some t.length := by
  have hhalf : t.any Utf16.isHalf = false := by
    rw [List.any_eq_false]
    intro c hc
    have hlow := h c hc
    simp only [Utf16.isHalf, decide_eq_true_eq]
    omega
  have hsize : Utf16.utf8Size t = t.length := by
    induction t with
    | nil => rfl
    | cons c t ih =>
      obtain ⟨hc, ht⟩ := List.forall_mem_cons.mp h
      have hone : Utf16.pointSize c = 1 := if_pos hc
      have htail := ih ht (by rw [List.any_cons] at hhalf; exact (Bool.or_eq_false_iff.mp hhalf).2)
      show Utf16.pointSize c + Utf16.utf8Size t = t.length + 1
      rw [hone, htail, Nat.add_comm]
  unfold StrictLoads.inputSize
  dsimp only
  rw [hhalf, hsize]
  rfl

/-- the text of a value, whatever blanks follow it -/
theorem jsonLoads_dumps (hL : E.layout.Blank) {j : Json} (h : E.Writes I j) (hl : j.lawful = true) {g : List Nat}
    (hg : ∀ c ∈ g, isBlank c = true) :
    StrictLoads.jsonLoads I (write E.layout 0 (j.asRead.spelled E) ++ g) = .ok j.asRead.loaded := by
  have hread := writes_asRead h
  have hdocument := document_write (κ := StrictLoads.Constant) StrictLoads.constants hL (spelled_writable hread) hg
  have hmark : ¬ (write E.layout 0 (j.asRead.spelled E) ++ g).head? = some 0xFEFF := by
    intro hhead
    obtain ⟨rest, hrest⟩ := List.head?_eq_some_iff.mp hhead
    rw [hrest, StrictLoads.document_mark] at hdocument
    cases hdocument
  unfold StrictLoads.jsonLoads
  rw [if_neg hmark, document_fold _ _ hdocument]
  exact fold_spelled _ hread (lawful_asRead hl)

/-- **What is written is read back within the limits of the reader**, whatever blanks follow it. -/
theorem loadsValue_dumps (hI : I.RoomFor StrictLoads.defaultMaxJsonDepth) (hL : E.layout.Blank) {j : Json}
    (h : E.Writes I j) (hl : j.lawful = true) {t g : List Nat} (ht : E.dumps j = .ok t) (hg : ∀ c ∈ g, isBlank c = true)
    (v : Json) :
    loadsValue I (.str (t ++ g)) = .ok v ↔ v = j.asRead ∧ (t ++ g).length ≤ StrictLoads.defaultMaxJsonBytes ∧
      j.depth ≤ StrictLoads.defaultMaxJsonDepth := by
  obtain rfl : t = write E.layout 0 (j.asRead.spelled E) := Except.ok.inj (ht.symm.trans (dumps_spelled h 0))
  have hascii : ∀ c ∈ write E.layout 0 (j.asRead.spelled E) ++ g, c < 128 := by
    refine List.forall_mem_append.mpr ⟨write_ascii hL (spelled_ascii (writes_asRead h)) 0, fun c hc => ?_⟩
    have hblank : c = 32 ∨ c = 9 ∨ c = 10 ∨ c = 13 := by simpa [isBlank] using hg c hc
    omega
  have hnesting : j.asRead.loaded.nesting = j.depth := (nesting_of_loaded _).trans (depth_asRead j)
  have hread : ∀ loaded, StrictLoads.loadsNoDuplicateKeys I (.str (write E.layout 0 (j.asRead.spelled E) ++ g))
      StrictLoads.defaultMaxJsonBytes StrictLoads.defaultMaxJsonDepth = .ok loaded ↔ loaded = j.asRead.loaded ∧
        (write E.layout 0 (j.asRead.spelled E) ++ g).length ≤ StrictLoads.defaultMaxJsonBytes ∧
          j.depth ≤ StrictLoads.defaultMaxJsonDepth := by
    intro loaded
    have htext : StrictLoads.decodeRaw (.str (write E.layout 0 (j.asRead.spelled E) ++ g)) =
        some (write E.layout 0 (j.asRead.spelled E) ++ g) := rfl
    rw [StrictLoads.loadsNoDuplicateKeys_ok I (by decide) (by decide) hI, inputSize_ascii hascii, htext]
    simp only [Option.some.injEq, exists_eq_left', jsonLoads_dumps hL h hl hg, Except.ok.injEq]
    constructor
    · rintro ⟨hle, rfl, hdepth⟩
      exact ⟨rfl, hle, hnesting ▸ hdepth⟩
    · rintro ⟨rfl, hle, hdepth⟩
      exact ⟨hle, rfl, hnesting.symm ▸ hdepth⟩
  unfold loadsValue
  rw [Fallible.bind_eq_ok]
  simp only [hread]
  constructor
  · rintro ⟨loaded, ⟨rfl, hlimits⟩, hv⟩
    rw [ofLoaded_asRead h] at hv
    cases hv
    exact ⟨rfl, hlimits⟩
  · rintro ⟨rfl, hlimits⟩
    refine ⟨_, ⟨rfl, hlimits⟩, ?_⟩
    rw [ofLoaded_asRead h]

/-- **One text has one value.** -/
theorem dumps_inj (hL : E.layout.Blank) {j k : Json} (hj : E.Writes I j) (hk : E.Writes I k) (hjl : j.lawful = true)
    (hkl : k.lawful = true) {t : List Nat} (htj : E.dumps j = .ok t) (htk : E.dumps k = .ok t) : j.asRead = k.asRead := by
  have hwritten : write E.layout 0 (j.asRead.spelled E) = write E.layout 0 (k.asRead.spelled E) :=
    Except.ok.inj ((dumps_spelled hj 0).symm.trans (htj.trans (htk.symm.trans (dumps_spelled hk 0))))
  have hload := jsonLoads_dumps (g := []) hL hj hjl (fun c hc => nomatch hc)
  rw [hwritten, jsonLoads_dumps (g := []) hL hk hkl (fun c hc => nomatch hc)] at hload
  have hloaded := congrArg ofLoaded (Except.ok.inj hload)
  rw [ofLoaded_asRead hj, ofLoaded_asRead hk] at hloaded
  exact (Option.some.inj hloaded).symm

end

end Actenon
