import ActenonKernel.Core.StrictLoads
import ActenonKernel.TypeScript.StrictGrammar

/-!
# The strict parsers of the kit and of the kernel

Both bound the size and the nesting of an input and refuse duplicate keys. The kit counts a document
from depth 0 and refuses a depth above 128, so it reads 129 levels; the kernel counts from 1 and
reads 128. And a string of the kit can hold a half of a pair as it stands, which the kernel cannot
encode.

* `Input.Spells`             the document that an input is a text of;
* `Diverges`                 the inputs that the kit reads and the kernel refuses;
* `fold_reading`             the kernel's value of a strict document is the kit's;
* `strict_parsers_agree_iff`     they agree on every other input.
-/

set_option linter.unusedSectionVars false

namespace Actenon

namespace TypeScript

namespace StrictJson

open JsonText (ParseTree Numeral codes plain fold foldItems foldMembers PartsItems PartsMembers nestingItems mapItems
  mapMembers)
open StrictLoads (Interpreter LoadedJson Raw Constant constants unitDecoder loadsNoDuplicateKeys inputSize decodeRaw
  jsonLoads defaultMaxJsonBytes defaultMaxJsonDepth rejectDuplicateObjectPairs)
open Fallible

/-! ## one input for both -/

/-- the input of the kernel: a string is its code points -/
def Input.raw : Input → Raw
  | .text units => .str (Utf16.codePoints (unitsOf units))
  | .bytes bs => .bytes bs

/-- the code units of an input -/
def Input.units : Input → Option (List Nat)
  | .text units => some (unitsOf units)
  | .bytes bs => (PyString.utf8decode bs).map unitsOfString

/-- the bytes of an input -/
def Input.size : Input → Nat
  | .text units => byteLength (unitsOf units)
  | .bytes bs => bs.length

/-- no half of a pair stands alone in a string -/
def Input.whole : Input → Bool
  | .text units => StrictJson.whole (unitsOf units)
  | .bytes _ => true

/-- the input is a text of the document -/
def Input.Spells (input : Input) (t : ParseTree Constant) : Prop :=
  ∃ us, input.units = some us ∧ JsonText.document constants (plain Constant) us = .ok t

/-- the value of the kit as the kernel has it -/
def toLoaded (v : Parsed) : LoadedJson := v.map Utf16.codePoints .int

/-- what the kit reads, the kernel reads as the same value, and its integers are safe -/
def Agree (I : Interpreter) (input : Input) : Prop :=
  ∀ v, parseStrictJson input = .ok v →
    loadsNoDuplicateKeys I input.raw defaultMaxJsonBytes defaultMaxJsonDepth = .ok (toLoaded v) ∧
      v.Parts (fun _ => True) fun n => n.natAbs ≤ maxSafeInteger

/-- an input within the size that is a text of a strict document, either of one level too many or
with a half of a pair that stands alone -/
def Diverges (input : Input) : Prop :=
  input.size ≤ maxJsonBytes ∧ ∃ t, input.Spells t ∧ (reading t).isSome = true ∧
    (t.nesting = maxJsonDepth + 1 ∨ t.nesting ≤ maxJsonDepth ∧ input.whole = false)

/-- every computation but a value -/
def Refused {ε α : Type} (x : Except ε α) : Prop := ∃ e, x = .error e

theorem refused_iff {ε α : Type} (x : Except ε α) : Refused x ↔ ∀ a, x ≠ .ok a := by
  cases x with
  | error e => exact ⟨fun _ _ h => (nomatch h), fun _ => ⟨e, rfl⟩⟩
  | ok a => exact ⟨fun ⟨_, h⟩ => (nomatch h), fun h => absurd rfl (h a)⟩

section
variable {κ : Type}

mutual

/-- no object of a document has two members of one name -/
def uniqueNames : ParseTree κ → Bool
  | .array xs => uniqueItems xs
  | .object kvs => decide (names kvs).Nodup && uniqueMembers kvs
  | .null | .bool _ | .num _ | .text _ => true

def uniqueItems : List (ParseTree κ) → Bool
  | [] => true
  | x :: xs => uniqueNames x && uniqueItems xs

def uniqueMembers : List (List JsonText.Piece × ParseTree κ) → Bool
  | [] => true
  | (_, x) :: kvs => uniqueNames x && uniqueMembers kvs

end

end

/-! ## the kit -/

theorem unitsOf_lt (units : List UInt16) : ∀ u ∈ unitsOf units, u < 65536 := by
  intro u hu
  obtain ⟨x, -, rfl⟩ := List.mem_map.mp hu
  exact x.toNat_lt

theorem char_lt (c : Char) : c.toNat < 0x110000 := by
  rcases c.valid with h | h
  · exact Nat.lt_trans h (by decide)
  · exact h.2

theorem encodePoint_lt {c : Nat} (hc : c < 0x110000) : ∀ u ∈ Utf16.encodePoint c, u < 65536 := by
  intro u hu
  unfold Utf16.encodePoint at hu
  split at hu
  · rw [List.mem_singleton] at hu
    omega
  · simp only [List.mem_cons, List.not_mem_nil, or_false] at hu
    omega

theorem Input.units_lt {input : Input} {us : List Nat} (h : input.units = some us) : ∀ u ∈ us, u < 65536 := by
  cases input with
  | text units =>
    cases h
    exact unitsOf_lt units
  | bytes bs =>
    obtain ⟨s, -, rfl⟩ := Option.map_eq_some_iff.mp h
    intro u hu
    obtain ⟨c, hc, hu⟩ := List.mem_flatMap.mp hu
    obtain ⟨x, -, rfl⟩ := List.mem_map.mp hc
    exact encodePoint_lt (char_lt x) u hu

theorem textOf_ok {input : Input} {us : List Nat} :
    textOf input = .ok us ↔ input.size ≤ maxJsonBytes ∧ input.units = some us := by
  cases input with
  | text units =>
    unfold textOf Input.size Input.units
    dsimp only
    split
    · rename_i hsize
      exact ⟨fun h => (nomatch h), fun h => absurd h.1 (by omega)⟩
    · rename_i hsize
      rw [Except.ok.injEq, Option.some.injEq]
      exact ⟨fun h => ⟨by omega, h⟩, fun h => h.2⟩
  | bytes bs =>
    unfold textOf Input.size Input.units
    dsimp only
    split
    · rename_i hsize
      exact ⟨fun h => (nomatch h), fun h => absurd h.1 (by omega)⟩
    · rename_i hsize
      cases PyString.utf8decode bs with
      | none => exact ⟨fun h => (nomatch h), fun h => (nomatch h.2)⟩
      | some s =>
        dsimp only [Option.map_some]
        rw [Except.ok.injEq, Option.some.injEq]
        exact ⟨fun h => ⟨by omega, h⟩, fun h => h.2⟩

/-- **The kit reads the strict documents** of at most 129 levels. -/
theorem parseStrictJson_ok {input : Input} {v : Parsed} : parseStrictJson input = .ok v ↔
    input.size ≤ maxJsonBytes ∧ ∃ t, input.Spells t ∧ reading t = some v ∧ t.nesting ≤ maxJsonDepth + 1 := by
  unfold parseStrictJson Input.Spells
  rw [bind_eq_ok]
  constructor
  · rintro ⟨us, htext, hparse⟩
    obtain ⟨hsize, hunits⟩ := textOf_ok.mp htext
    by_cases hmark : us.head? = some 0xFEFF
    · unfold parseText at hparse
      rw [if_pos hmark] at hparse
      cases hparse
    · obtain ⟨t, ht, hreading, hnesting⟩ := (parseText_ok constants hmark).mp hparse
      exact ⟨hsize, t, ⟨us, hunits, ht⟩, hreading, hnesting⟩
  · rintro ⟨hsize, t, ⟨us, hunits, ht⟩, hreading, hnesting⟩
    have hmark : us.head? ≠ some 0xFEFF := by
      intro hmark
      cases us with
      | nil => cases hmark
      | cons c us =>
        cases hmark
        rw [StrictLoads.document_mark (plain Constant)] at ht
        cases ht
    exact ⟨us, textOf_ok.mpr ⟨hsize, hunits⟩, (parseText_ok constants hmark).mpr ⟨t, ht, hreading, hnesting⟩⟩

/-! ## the kernel -/

section
variable (I : Interpreter) (message : String)

/-- the codes of a string are code units -/
def InUnits (ps : List JsonText.Piece) : Prop := ∀ c ∈ codes ps, c < 65536

theorem parseNumber_safe {l : JsonText.Lexeme} (hread : (Numeral.lexeme l : Numeral Constant).IsRead)
    (hl : l.tail = [] ∧ l.value.natAbs ≤ maxSafeInteger) :
    StrictLoads.parseNumber I l = .ok (.num (.int l.value)) := by
  obtain ⟨s, r, hnumber⟩ := hread
  unfold JsonText.lexNumber at hnumber
  obtain ⟨⟨ds, w⟩, hdigits, he⟩ := Option.map_eq_some_iff.mp hnumber
  cases he
  have hshort : ds.length < 398 := digits_short hdigits hl.2
  unfold StrictLoads.parseNumber StrictLoads.intMaxStrDigits
  dsimp only
  rw [if_pos hl.1, if_neg (by omega)]

theorem foldItems_reading {xs : List (ParseTree Constant)} {vs : List Parsed}
    (ih : ∀ x ∈ xs, ∀ {v}, reading x = some v → fold (unitDecoder I message) x = .ok (toLoaded v))
    (h : readingItems xs = some vs) :
    foldItems (unitDecoder I message) xs = .ok (mapItems Utf16.codePoints .int vs) := by
  induction xs generalizing vs with
  | nil =>
    cases h
    rfl
  | cons x xs ihxs =>
    obtain ⟨v, hv, vs', hvs, rfl⟩ := readingItems_cons.mp h
    obtain ⟨hx, hxs⟩ := List.forall_mem_cons.mp ih
    rw [foldItems, hx hv, ok_bind, ihxs hxs hvs]
    rfl

theorem foldMembers_reading {kvs : List (List JsonText.Piece × ParseTree Constant)} {vs : List (List Nat × Parsed)}
    (ih : ∀ p ∈ kvs, ∀ {v}, reading p.2 = some v → fold (unitDecoder I message) p.2 = .ok (toLoaded v))
    (h : readingMembers kvs = some vs) :
    foldMembers (unitDecoder I message) kvs = .ok (mapMembers Utf16.codePoints .int vs) := by
  induction kvs generalizing vs with
  | nil =>
    cases h
    rfl
  | cons p kvs ihkvs =>
    obtain ⟨ps, x⟩ := p
    obtain ⟨-, v, hv, vs', hvs, rfl⟩ := readingMembers_cons.mp h
    obtain ⟨hx, hkvs⟩ := List.forall_mem_cons.mp ih
    rw [foldMembers, hx hv, ok_bind, ihkvs hkvs hvs]
    rfl

theorem keys_reading {kvs : List (List JsonText.Piece × ParseTree Constant)} {vs : List (List Nat × Parsed)}
    (h : readingMembers kvs = some vs) :
    (mapMembers Utf16.codePoints StrictLoads.Number.int vs).map Prod.fst = (names kvs).map Utf16.codePoints := by
  induction kvs generalizing vs with
  | nil =>
    cases h
    rfl
  | cons p kvs ih =>
    obtain ⟨ps, x⟩ := p
    obtain ⟨-, v, -, vs', hvs, rfl⟩ := readingMembers_cons.mp h
    rw [names_cons, mapMembers, List.map_cons, List.map_cons, ih hvs]

/-- distinct names are distinct keys -/
theorem names_keys {kvs : List (List JsonText.Piece × ParseTree Constant)}
    (hunits : PartsMembers InUnits Numeral.IsRead kvs) (h : (names kvs).Nodup) :
    ((names kvs).map Utf16.codePoints).Nodup := by
  have hbound : ∀ k ∈ names kvs, ∀ u ∈ k, u < 65536 := by
    intro k hk
    obtain ⟨p, hp, rfl⟩ := List.mem_map.mp hk
    exact ((JsonText.partsMembers_iff _ _ kvs).mp hunits p hp).1
  exact h.map_on fun k hk k' hk' he => Utf16.codePoints_inj (hbound k hk) (hbound k' hk') he

/-- **The kernel's value of a strict document is the kit's.** -/
theorem fold_reading (t : ParseTree Constant) : ∀ {v : Parsed}, t.Parts InUnits Numeral.IsRead → reading t = some v →
    fold (unitDecoder I message) t = .ok (toLoaded v) := by
  induction t using JsonText.Value.induct with
  | null =>
    intro v _ h
    cases h
    rfl
  | bool b =>
    intro v _ h
    cases h
    rfl
  | num n =>
    intro v hparts h
    cases n with
    | constant k => cases h
    | lexeme l =>
      unfold reading at h
      split at h
      · rename_i hl
        cases h
        exact parseNumber_safe I hparts hl
      · cases h
  | text ps =>
    intro v _ h
    obtain ⟨-, rfl⟩ := reading_text.mp h
    rfl
  | array xs ih =>
    intro v hparts h
    obtain ⟨vs, hvs, rfl⟩ := reading_array.mp h
    have hitems := (JsonText.partsItems_iff _ _ xs).mp hparts
    rw [fold, foldItems_reading I message (fun x hx _ hv => ih x hx (hitems x hx) hv) hvs]
    rfl
  | object kvs ih =>
    intro v hparts h
    obtain ⟨hnodup, vs, hvs, rfl⟩ := reading_object.mp h
    have hmembers := (JsonText.partsMembers_iff _ _ kvs).mp hparts
    have hkeys : ((mapMembers Utf16.codePoints StrictLoads.Number.int vs).map Prod.fst).Nodup := by
      rw [keys_reading hvs]
      exact names_keys hparts hnodup
    rw [fold, foldMembers_reading I message (fun p hp _ hv => ih p hp (hmembers p hp).2 hv) hvs, ok_bind]
    show (rejectDuplicateObjectPairs I _).map _ = _
    rw [(StrictLoads.rejectDuplicateObjectPairs_ok I _ _).mpr ⟨hkeys, rfl⟩]
    rfl

/-- the integers of a strict document are safe -/
theorem reading_safe (t : ParseTree Constant) : ∀ {v : Parsed}, reading t = some v →
    v.Parts (fun _ => True) fun n => n.natAbs ≤ maxSafeInteger := by
  induction t using JsonText.Value.induct with
  | null =>
    intro v h
    cases h
    trivial
  | bool b =>
    intro v h
    cases h
    trivial
  | num n =>
    intro v h
    cases n with
    | constant k => cases h
    | lexeme l =>
      unfold reading at h
      split at h
      · rename_i hl
        cases h
        exact hl.2
      · cases h
  | text ps =>
    intro v h
    obtain ⟨-, rfl⟩ := reading_text.mp h
    trivial
  | array xs ih =>
    intro v h
    obtain ⟨vs, hvs, rfl⟩ := reading_array.mp h
    clear h
    show PartsItems _ _ vs
    induction xs generalizing vs with
    | nil =>
      cases hvs
      trivial
    | cons x xs ihxs =>
      obtain ⟨w, hw, ws, hws, rfl⟩ := readingItems_cons.mp hvs
      obtain ⟨hx, hxs⟩ := List.forall_mem_cons.mp ih
      exact ⟨hx hw, ihxs hxs ws hws⟩
  | object kvs ih =>
    intro v h
    obtain ⟨-, vs, hvs, rfl⟩ := reading_object.mp h
    clear h
    show PartsMembers _ _ vs
    induction kvs generalizing vs with
    | nil =>
      cases hvs
      trivial
    | cons p kvs ihkvs =>
      obtain ⟨ps, x⟩ := p
      obtain ⟨-, w, hw, ws, hws, rfl⟩ := readingMembers_cons.mp hvs
      obtain ⟨hx, hkvs⟩ := List.forall_mem_cons.mp ih
      exact ⟨⟨trivial, hx hw⟩, ihkvs hkvs ws hws⟩

/-- a value nests as deep as its document -/
theorem reading_nesting (t : ParseTree Constant) : ∀ {v : Parsed}, reading t = some v → v.nesting = t.nesting := by
  induction t using JsonText.Value.induct with
  | null =>
    intro v h
    cases h
    rfl
  | bool b =>
    intro v h
    cases h
    rfl
  | num n =>
    intro v h
    cases n with
    | constant k => cases h
    | lexeme l =>
      unfold reading at h
      split at h
      · cases h
        rfl
      · cases h
  | text ps =>
    intro v h
    obtain ⟨-, rfl⟩ := reading_text.mp h
    rfl
  | array xs ih =>
    intro v h
    obtain ⟨vs, hvs, rfl⟩ := reading_array.mp h
    refine congrArg (· + 1) (?_ : nestingItems vs = nestingItems xs)
    clear h
    induction xs generalizing vs with
    | nil =>
      cases hvs
      rfl
    | cons x xs ihxs =>
      obtain ⟨w, hw, ws, hws, rfl⟩ := readingItems_cons.mp hvs
      obtain ⟨hx, hxs⟩ := List.forall_mem_cons.mp ih
      rw [nestingItems, nestingItems, hx hw, ihxs hxs ws hws]
  | object kvs ih =>
    intro v h
    obtain ⟨-, vs, hvs, rfl⟩ := reading_object.mp h
    refine congrArg (· + 1) (?_ : JsonText.nestingMembers vs = JsonText.nestingMembers kvs)
    clear h
    induction kvs generalizing vs with
    | nil =>
      cases hvs
      rfl
    | cons p kvs ihkvs =>
      obtain ⟨ps, x⟩ := p
      obtain ⟨-, w, hw, ws, hws, rfl⟩ := readingMembers_cons.mp hvs
      obtain ⟨hx, hkvs⟩ := List.forall_mem_cons.mp ih
      rw [JsonText.nestingMembers, JsonText.nestingMembers, hx hw, ihkvs hkvs ws hws]

/-- a half that stands alone cannot be encoded -/
theorem inputSize_raw (input : Input) {n : Nat} :
    inputSize input.raw = some n ↔ input.whole = true ∧ input.size = n := by
  cases input with
  | text units =>
    have hwhole : (Input.text units).whole = !(Utf16.codePoints (unitsOf units)).any Utf16.isHalf := by
      show whole _ = _
      unfold whole
      rw [List.not_any_eq_all_not]
    rw [hwhole]
    unfold Input.raw inputSize Input.size byteLength
    dsimp only
    cases (Utf16.codePoints (unitsOf units)).any Utf16.isHalf with
    | true => exact ⟨fun h => (nomatch h), fun h => (nomatch h.1)⟩
    | false => exact ⟨fun h => ⟨rfl, Option.some.inj h⟩, fun h => congrArg some h.2⟩
  | bytes bs => exact ⟨fun h => ⟨rfl, Option.some.inj h⟩, fun h => congrArg some h.2⟩

/-- the text of the kernel is the text of the kit -/
theorem decodeRaw_raw (input : Input) : (decodeRaw input.raw).map Utf16.encode = input.units := by
  cases input with
  | text units => exact congrArg some (Utf16.encode_codePoints (unitsOf_lt units))
  | bytes bs =>
    show (Option.map _ (PyString.utf8decode bs)).map Utf16.encode = Option.map _ (PyString.utf8decode bs)
    rw [Option.map_map]
    rfl

/-- the kernel reads the tree of an input, if it can encode the input and nests as deep as it may -/
theorem loads_complete {input : Input} {t : ParseTree Constant} {w : LoadedJson} (hI : I.RoomFor defaultMaxJsonDepth)
    (hwhole : input.whole = true) (hsize : input.size ≤ defaultMaxJsonBytes) (ht : input.Spells t)
    (hw : ∀ message, fold (unitDecoder I message) t = .ok w) (hnesting : w.nesting ≤ defaultMaxJsonDepth) :
    loadsNoDuplicateKeys I input.raw defaultMaxJsonBytes defaultMaxJsonDepth = .ok w := by
  obtain ⟨us, hunits, ht⟩ := ht
  rw [← decodeRaw_raw] at hunits
  obtain ⟨text, htext, rfl⟩ := Option.map_eq_some_iff.mp hunits
  refine (StrictLoads.loadsNoDuplicateKeys_ok I (by decide) (by decide) hI).mpr
    ⟨⟨_, (inputSize_raw input).mpr ⟨hwhole, rfl⟩, hsize⟩, ⟨text, htext, ?_⟩, hnesting⟩
  rw [StrictLoads.jsonLoads_units, JsonText.document_fold constants _ ht, hw]

/-- what the kernel reads can be encoded, nests as deep as it may and is the fold of its tree -/
theorem loads_sound {input : Input} {w : LoadedJson} (hI : I.RoomFor defaultMaxJsonDepth)
    (h : loadsNoDuplicateKeys I input.raw defaultMaxJsonBytes defaultMaxJsonDepth = .ok w) :
    input.whole = true ∧ w.nesting ≤ defaultMaxJsonDepth ∧
      ∀ t, input.Spells t → ∃ message, fold (unitDecoder I message) t = .ok w := by
  obtain ⟨⟨n, hn, -⟩, ⟨text, htext, hw⟩, hnesting⟩ :=
    (StrictLoads.loadsNoDuplicateKeys_ok I (by decide) (by decide) hI).mp h
  refine ⟨((inputSize_raw input).mp hn).1, hnesting, fun t ht => ?_⟩
  obtain ⟨us, hunits, ht⟩ := ht
  rw [← decodeRaw_raw, htext] at hunits
  cases hunits
  rw [StrictLoads.jsonLoads_units, JsonText.document_fold constants _ ht] at hw
  exact ⟨_, hw⟩

/-! ## duplicate names -/

theorem uniqueItems_iff {κ : Type} (xs : List (ParseTree κ)) : uniqueItems xs = true ↔ ∀ x ∈ xs, uniqueNames x = true := by
  induction xs with
  | nil => simp [uniqueItems]
  | cons x xs ih => rw [uniqueItems, Bool.and_eq_true, ih, List.forall_mem_cons]

theorem uniqueMembers_iff {κ : Type} (kvs : List (List JsonText.Piece × ParseTree κ)) :
    uniqueMembers kvs = true ↔ ∀ p ∈ kvs, uniqueNames p.2 = true := by
  induction kvs with
  | nil => simp [uniqueMembers]
  | cons p kvs ih =>
    obtain ⟨ps, x⟩ := p
    rw [uniqueMembers, Bool.and_eq_true, ih, List.forall_mem_cons]

theorem uniqueNames_object {κ : Type} {kvs : List (List JsonText.Piece × ParseTree κ)} (hnodup : (names kvs).Nodup)
    (h : ∀ p ∈ kvs, uniqueNames p.2 = true) : uniqueNames (.object kvs) = true := by
  rw [uniqueNames, decide_eq_true hnodup, Bool.true_and]
  exact (uniqueMembers_iff kvs).mpr h

theorem readingItems_mem {xs : List (ParseTree Constant)} {vs : List Parsed} (h : readingItems xs = some vs) :
    ∀ x ∈ xs, ∃ v, reading x = some v := by
  induction xs generalizing vs with
  | nil => exact fun x hx => absurd hx List.not_mem_nil
  | cons x xs ih =>
    obtain ⟨v, hv, vs', hvs, -⟩ := readingItems_cons.mp h
    exact List.forall_mem_cons.mpr ⟨⟨v, hv⟩, ih hvs⟩

theorem readingMembers_mem {kvs : List (List JsonText.Piece × ParseTree Constant)} {vs : List (List Nat × Parsed)}
    (h : readingMembers kvs = some vs) : ∀ p ∈ kvs, ∃ v, reading p.2 = some v := by
  induction kvs generalizing vs with
  | nil => exact fun p hp => absurd hp List.not_mem_nil
  | cons p kvs ih =>
    obtain ⟨ps, x⟩ := p
    obtain ⟨-, v, hv, vs', hvs, -⟩ := readingMembers_cons.mp h
    exact List.forall_mem_cons.mpr ⟨⟨v, hv⟩, ih hvs⟩

theorem reading_unique (t : ParseTree Constant) : ∀ {v : Parsed}, reading t = some v → uniqueNames t = true := by
  induction t using JsonText.Value.induct with
  | null | bool b | num n | text ps => exact fun _ => rfl
  | array xs ih =>
    intro v h
    obtain ⟨vs, hvs, -⟩ := reading_array.mp h
    refine (uniqueItems_iff xs).mpr fun x hx => ?_
    obtain ⟨w, hw⟩ := readingItems_mem hvs x hx
    exact ih x hx hw
  | object kvs ih =>
    intro v h
    obtain ⟨hnodup, vs, hvs, -⟩ := reading_object.mp h
    refine uniqueNames_object hnodup fun p hp => ?_
    obtain ⟨w, hw⟩ := readingMembers_mem hvs p hp
    exact ih p hp hw

theorem foldItems_mem {xs : List (ParseTree Constant)} {ws : List LoadedJson}
    (h : foldItems (unitDecoder I message) xs = .ok ws) : ∀ x ∈ xs, ∃ w, fold (unitDecoder I message) x = .ok w := by
  induction xs generalizing ws with
  | nil => exact fun x hx => absurd hx List.not_mem_nil
  | cons x xs ih =>
    rw [foldItems] at h
    obtain ⟨w, hw, h⟩ := bind_eq_ok.mp h
    obtain ⟨ws', hws, -⟩ := bind_eq_ok.mp h
    exact List.forall_mem_cons.mpr ⟨⟨w, hw⟩, ih hws⟩

theorem foldMembers_mem {kvs : List (List JsonText.Piece × ParseTree Constant)} {ws : List (List Nat × LoadedJson)}
    (h : foldMembers (unitDecoder I message) kvs = .ok ws) :
    ws.map Prod.fst = (names kvs).map Utf16.codePoints ∧
      ∀ p ∈ kvs, ∃ w, fold (unitDecoder I message) p.2 = .ok w := by
  induction kvs generalizing ws with
  | nil =>
    cases h
    exact ⟨rfl, fun p hp => absurd hp List.not_mem_nil⟩
  | cons p kvs ih =>
    obtain ⟨ps, x⟩ := p
    rw [foldMembers] at h
    obtain ⟨w, hw, h⟩ := bind_eq_ok.mp h
    obtain ⟨ws', hws, h⟩ := bind_eq_ok.mp h
    cases h
    obtain ⟨hkeys, hmembers⟩ := ih hws
    refine ⟨?_, List.forall_mem_cons.mpr ⟨⟨w, hw⟩, hmembers⟩⟩
    rw [List.map_cons, hkeys]
    rfl

theorem fold_unique (t : ParseTree Constant) : ∀ {w : LoadedJson}, fold (unitDecoder I message) t = .ok w →
    uniqueNames t = true := by
  induction t using JsonText.Value.induct with
  | null | bool b | num n | text ps => exact fun _ => rfl
  | array xs ih =>
    intro w h
    rw [fold] at h
    obtain ⟨ws, hws, -⟩ := bind_eq_ok.mp h
    refine (uniqueItems_iff xs).mpr fun x hx => ?_
    obtain ⟨w', hw⟩ := foldItems_mem I message hws x hx
    exact ih x hx hw
  | object kvs ih =>
    intro w h
    rw [fold] at h
    obtain ⟨ws, hws, h⟩ := bind_eq_ok.mp h
    obtain ⟨pairs, hpairs, -⟩ := map_eq_ok.mp h
    obtain ⟨hkeys, hmembers⟩ := foldMembers_mem I message hws
    obtain ⟨hnodup, -⟩ := (StrictLoads.rejectDuplicateObjectPairs_ok I ws pairs).mp hpairs
    rw [hkeys] at hnodup
    refine uniqueNames_object (hnodup.of_map _) fun p hp => ?_
    obtain ⟨w', hw⟩ := hmembers p hp
    exact ih p hp hw

end

/-! ## agreement -/

/-- an input is a text of one document at most -/
theorem Input.Spells.unique {input : Input} {t t' : ParseTree Constant} (h : input.Spells t) (h' : input.Spells t') :
    t = t' := by
  obtain ⟨us, hunits, ht⟩ := h
  obtain ⟨us', hunits', ht'⟩ := h'
  rw [hunits] at hunits'
  cases hunits'
  rw [ht] at ht'
  exact Except.ok.inj ht'

theorem Input.Spells.parts {input : Input} {t : ParseTree Constant} (h : input.Spells t) :
    t.Parts InUnits Numeral.IsRead := by
  obtain ⟨us, hunits, ht⟩ := h
  exact JsonText.document_parts (p := fun u => u < 65536) (fun _ hn => hn) constants (Input.units_lt hunits) ht

/-- **The parsers agree on exactly the inputs** that are no text of 129 levels and hold no half of a
pair that stands alone, and both refuse duplicate names at any depth. -/
theorem strict_parsers_agree_iff (I : Interpreter) (hI : I.RoomFor defaultMaxJsonDepth) (input : Input) :
    (Agree I input ↔ ¬ Diverges input) ∧
      ∀ t, input.Spells t → uniqueNames t = false → Refused (parseStrictJson input) ∧
        Refused (loadsNoDuplicateKeys I input.raw defaultMaxJsonBytes defaultMaxJsonDepth) := by
  refine ⟨⟨fun hagree ⟨hsize, t, ht, hreading, hwhy⟩ => ?_, fun hdiverges v hv => ?_⟩, fun t ht hunique => ⟨?_, ?_⟩⟩
  · obtain ⟨v, hv⟩ := Option.isSome_iff_exists.mp hreading
    have hle : t.nesting ≤ maxJsonDepth + 1 := by
      rcases hwhy with h | ⟨h, -⟩ <;> omega
    obtain ⟨hwhole, hnesting, -⟩ :=
      loads_sound I hI (hagree v (parseStrictJson_ok.mpr ⟨hsize, t, ht, hv, hle⟩)).1
    have hdeep : t.nesting ≤ maxJsonDepth := by
      rw [← reading_nesting t hv, ← JsonText.Value.nesting_map Utf16.codePoints StrictLoads.Number.int v]
      exact hnesting
    rcases hwhy with h | ⟨-, h⟩
    · omega
    · rw [hwhole] at h
      cases h
  · obtain ⟨hsize, t, ht, hreading, hle⟩ := parseStrictJson_ok.mp hv
    have hdeep : t.nesting ≤ maxJsonDepth := by
      by_contra hdeep
      exact hdiverges ⟨hsize, t, ht, Option.isSome_iff_exists.mpr ⟨v, hreading⟩, Or.inl (by omega)⟩
    have hwhole : input.whole = true := by
      by_contra hwhole
      exact hdiverges ⟨hsize, t, ht, Option.isSome_iff_exists.mpr ⟨v, hreading⟩,
        Or.inr ⟨hdeep, Bool.eq_false_iff.mpr hwhole⟩⟩
    refine ⟨loads_complete I hI hwhole hsize ht (fun message => fold_reading I message t ht.parts hreading) ?_,
      reading_safe t hreading⟩
    unfold toLoaded
    rw [JsonText.Value.nesting_map, reading_nesting t hreading]
    exact hdeep
  · refine (refused_iff _).mpr fun v hv => Bool.eq_false_iff.mp hunique ?_
    obtain ⟨-, t', ht', hreading, -⟩ := parseStrictJson_ok.mp hv
    rw [ht.unique ht']
    exact reading_unique t' hreading
  · refine (refused_iff _).mpr fun w hw => Bool.eq_false_iff.mp hunique ?_
    obtain ⟨message, hfold⟩ := (loads_sound I hI hw).2.2 t ht
    exact fold_unique I message t hfold

/-! ## two texts -/

/-- an interpreter with room for every text -/
def plainInterpreter : Interpreter where
  floatOf _ := .nan
  keyRepr key := s!"'{String.ofList (key.map Char.ofNat)}'"
  decodeMessage _ := "Expecting value: line 1 column 1 (char 0)"
  unicodeMessage _ := "surrogates not allowed"
  recursionError _ := false

theorem plainInterpreter_room : plainInterpreter.RoomFor defaultMaxJsonDepth := fun _ _ _ _ => rfl

/-- a string of the basic plane -/
def textInput (s : String) : Input := .text (s.toList.map fun c => UInt16.ofNat c.toNat)

/-- `[[...[]...]]` -/
def nestedArrays (levels : Nat) : Input := .text (List.replicate levels 0x5B ++ List.replicate levels 0x5D)

/-- a computation whose value has a property returns -/
theorem ok_of_toOption {ε α β : Type} {x : Except ε α} {f : α → β} {b : β} (h : x.toOption.map f = some b) :
    ∃ a, x = .ok a ∧ f a = b := by
  cases x with
  | error e => cases h
  | ok a => exact ⟨a, rfl, Option.some.inj h⟩

/-- arrays of 129 levels are read by the kit and refused by the kernel -/
theorem nested_arrays_diverge : (parseStrictJson (nestedArrays 129)).toOption.isSome = true ∧
    ¬ Agree plainInterpreter (nestedArrays 129) := by
  have hnesting : (parseStrictJson (nestedArrays 129)).toOption.map JsonText.Value.nesting = some 129 := by
    decide +kernel
  obtain ⟨v, hparse, hdeep⟩ := ok_of_toOption hnesting
  refine ⟨by rw [hparse]; rfl, fun hagree => ?_⟩
  have hloads := (loads_sound plainInterpreter plainInterpreter_room (hagree v hparse).1).2.1
  unfold toLoaded at hloads
  rw [JsonText.Value.nesting_map, hdeep] at hloads
  exact absurd hloads (by decide)

theorem strict_parsers_agree_sample :
    Agree plainInterpreter (textInput "\x7b\"a\":[1,null]\x7d") ∧
      Refused (parseStrictJson (textInput "[\x7b\"a\":1,\"\\u0061\":2\x7d]")) ∧
      Refused (loadsNoDuplicateKeys plainInterpreter (textInput "[\x7b\"a\":1,\"\\u0061\":2\x7d]").raw
        defaultMaxJsonBytes defaultMaxJsonDepth) := by
  have hagree := strict_parsers_agree_iff plainInterpreter plainInterpreter_room
    (textInput "\x7b\"a\":[1,null]\x7d")
  have hunique := strict_parsers_agree_iff plainInterpreter plainInterpreter_room
    (textInput "[\x7b\"a\":1,\"\\u0061\":2\x7d]")
  refine ⟨hagree.1.mpr ?_, ?_⟩
  · rintro ⟨-, t, ⟨us, hus, ht⟩, -, h⟩
    cases hus
    have hnesting : (JsonText.document constants (plain Constant)
        (unitsOf ("\x7b\"a\":[1,null]\x7d".toList.map fun c => UInt16.ofNat c.toNat))).toOption.map
          JsonText.Value.nesting = some 3 := by decide +kernel
    rw [ht] at hnesting
    have hnesting : t.nesting = 3 := Option.some.inj hnesting
    rw [hnesting] at h
    revert h
    decide
  · have hnames : (JsonText.document constants (plain Constant)
        (unitsOf ("[\x7b\"a\":1,\"\\u0061\":2\x7d]".toList.map fun c => UInt16.ofNat c.toNat))).toOption.map
          uniqueNames = some false := by decide +kernel
    obtain ⟨t, ht, hnames⟩ := ok_of_toOption hnames
    exact hunique.2 t ⟨_, rfl, ht⟩ hnames

end StrictJson

end TypeScript

end Actenon
