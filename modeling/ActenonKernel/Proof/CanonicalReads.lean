import ActenonKernel.Core.Equal
import ActenonKernel.Core.StrictLoads
import ActenonKernel.Lib.JsonWriter
import ActenonKernel.Proof.CanonicalIff

/-!
# Canonical texts are read back (`actenon/proof/canonical.py`, `actenon/core/json.py`)

The canonical form of a value is a JSON text, and `loads_no_duplicate_keys` reads it as the value
again: members come back in the order of their keys and a tuple comes back as a list.

* `Json.asRead`        the value that comes back;
* `Json.written`       its document, `canonText_written` that the canonical text is it written out;
* `Json.loaded`, `ofLoaded`    the value as the decoder makes it, and back;
* `jsonLoads_canonText`    the decoder on a canonical text;
* `pyEq_asRead`          the value that comes back is equal to the one written if it has no tuple;
* `canonical_round_trip`   the canonical bytes are read back, and have the same canonical bytes.
-/

set_option linter.unusedSectionVars false

namespace Actenon

open JsonText

/-! ## the value that comes back -/

/-- members in the order of their keys -/
def sortDict (d : Dict) : Dict := d.insertionSort fun p q => p.1.text ≤ q.1.text

mutual

/-- a tuple comes back as a list, members in the order of their keys -/
def Json.asRead : Json → Json
  | .arr xs | .tup xs => .arr (Json.asReadItems xs)
  | .obj kvs => .obj (sortDict (Json.asReadMembers kvs))
  | .null => .null
  | .bool b => .bool b
  | .int n => .int n
  | .float f => .float f
  | .str s => .str s

def Json.asReadItems : List Json → List Json
  | [] => []
  | x :: xs => x.asRead :: Json.asReadItems xs

def Json.asReadMembers : Dict → Dict
  | [] => []
  | (k, x) :: kvs => (k, x.asRead) :: Json.asReadMembers kvs

end

theorem asReadItems_eq (xs : List Json) : Json.asReadItems xs = xs.map Json.asRead := by
  induction xs with
  | nil => rfl
  | cons x xs ih => rw [Json.asReadItems, ih, List.map_cons]

theorem asReadMembers_eq (kvs : Dict) : Json.asReadMembers kvs = kvs.map fun p => (p.1, p.2.asRead) := by
  induction kvs with
  | nil => rfl
  | cons p kvs ih =>
    obtain ⟨k, x⟩ := p
    rw [Json.asReadMembers, ih]
    rfl

theorem asRead_obj (kvs : Dict) : (Json.obj kvs).asRead = .obj (sortDict (kvs.map fun p => (p.1, p.2.asRead))) := by
  rw [Json.asRead, asReadMembers_eq]

theorem sortDict_perm (d : Dict) : (sortDict d).Perm d := List.perm_insertionSort _ d

/-- **It is the same value.** -/
theorem same_asRead (j : Json) : Json.Same j j.asRead := by
  induction j using Json.induct with
  | null | bool b | int n | float f | str s => rfl
  | arr xs ih | tup xs ih =>
    refine ⟨Json.asReadItems xs, rfl, ?_⟩
    rw [Json.sameList_iff, asReadItems_eq, List.forall₂_map_right_iff]
    exact List.forall₂_same.mpr ih
  | obj kvs ih =>
    rw [asRead_obj]
    refine ⟨_, _, rfl, (sortDict_perm _).symm, ?_⟩
    rw [Json.sameMembers_iff, List.forall₂_map_right_iff]
    exact List.forall₂_same.mpr fun p hp => ⟨rfl, ih p hp⟩

theorem depth_asRead (j : Json) : j.asRead.depth = j.depth := (same_asRead j).depth.symm

/-! ## its document -/

/-- the piece of a character -/
def pieceOf (c : Char) : JsonText.Piece :=
  if c = '"' ∨ c = '\\' ∨ c = '\n' ∨ c = '\r' ∨ c = '\t' ∨ c = '\x0c' ∨ c = '\x08' then .escaped c.toNat
  else if c.toNat < 32 then .unit c.toNat
  else .raw c.toNat

/-- the pieces of a string -/
def stringPieces (s : String) : List JsonText.Piece := s.toList.map pieceOf

mutual

/-- the document of a value, its members as they stand -/
def Json.written : Json → Written
  | .null | .float _ => .null
  | .bool b => .bool b
  | .int n => .num (Lexeme.ofInt n)
  | .str s => .text (stringPieces s)
  | .arr xs | .tup xs => .array (Json.writtenItems xs)
  | .obj kvs => .object (Json.writtenMembers kvs)

def Json.writtenItems : List Json → List Written
  | [] => []
  | x :: xs => x.written :: Json.writtenItems xs

def Json.writtenMembers : Dict → List (List JsonText.Piece × Written)
  | [] => []
  | (k, x) :: kvs => (stringPieces k.text, x.written) :: Json.writtenMembers kvs

end

theorem writtenItems_eq (xs : List Json) : Json.writtenItems xs = xs.map Json.written := by
  induction xs with
  | nil => rfl
  | cons x xs ih => rw [Json.writtenItems, ih, List.map_cons]

theorem writtenMembers_eq (kvs : Dict) :
    Json.writtenMembers kvs = kvs.map fun p => (stringPieces p.1.text, p.2.written) := by
  induction kvs with
  | nil => rfl
  | cons p kvs ih =>
    obtain ⟨k, x⟩ := p
    rw [Json.writtenMembers, ih]
    rfl

/-- the codes of a text -/
def codesOf (t : List Char) : List Nat := t.map Char.toNat

theorem pieceOf_text (c : Char) : (pieceOf c).text = codesOf (Text.escape c) := by
  unfold pieceOf Text.escape
  by_cases hescaped : c = '"' ∨ c = '\\' ∨ c = '\n' ∨ c = '\r' ∨ c = '\t' ∨ c = '\x0c' ∨ c = '\x08'
  · rw [if_pos hescaped]
    rcases hescaped with rfl | rfl | rfl | rfl | rfl | rfl | rfl <;> rfl
  · rw [if_neg hescaped]
    simp only [not_or] at hescaped
    obtain ⟨h₁, h₂, h₃, h₄, h₅, h₆, h₇⟩ := hescaped
    rw [if_neg h₁, if_neg h₂, if_neg h₃, if_neg h₄, if_neg h₅, if_neg h₆, if_neg h₇]
    by_cases hcontrol : c.toNat < 32
    · have hzero : c.toNat / 4096 % 16 = 0 ∧ c.toNat / 256 % 16 = 0 ∧ c.toNat / 16 % 16 = c.toNat / 16 := by omega
      rw [if_pos hcontrol, if_pos hcontrol]
      simp only [JsonText.Piece.text, hzero, codesOf, List.map_cons, List.map_nil,
        Hex.toNat_digit (show c.toNat / 16 < 16 by omega), Hex.toNat_digit (show c.toNat % 16 < 16 by omega)]
      rfl
    · rw [if_neg hcontrol, if_neg hcontrol]
      rfl

theorem pieceOf_ok (c : Char) : (pieceOf c).Ok := by
  unfold pieceOf
  by_cases hescaped : c = '"' ∨ c = '\\' ∨ c = '\n' ∨ c = '\r' ∨ c = '\t' ∨ c = '\x0c' ∨ c = '\x08'
  · rw [if_pos hescaped]
    rcases hescaped with rfl | rfl | rfl | rfl | rfl | rfl | rfl <;> exact ⟨rfl, by decide⟩
  · rw [if_neg hescaped]
    by_cases hcontrol : c.toNat < 32
    · rw [if_pos hcontrol]
      exact Nat.lt_trans hcontrol (by decide)
    · rw [if_neg hcontrol]
      simp only [not_or] at hescaped
      have hne : ∀ d : Char, c ≠ d → c.toNat ≠ d.toNat := fun d h he => h (Char.toNat_inj.mp he)
      exact ⟨hne _ hescaped.1, by omega, hne _ hescaped.2.1⟩

theorem stringPieces_ok (s : String) : ∀ p ∈ stringPieces s, p.Ok := by
  intro p hp
  obtain ⟨c, -, rfl⟩ := List.mem_map.mp hp
  exact pieceOf_ok c

theorem stringPieces_text (s : String) :
    (stringPieces s).flatMap JsonText.Piece.text = codesOf (s.toList.flatMap Text.escape) := by
  unfold stringPieces codesOf
  rw [List.flatMap_map, List.map_flatMap]
  exact List.flatMap_congr fun c _ => pieceOf_text c

theorem written_writable (j : Json) : j.written.Writable := by
  induction j using Json.induct with
  | null | bool b | float f => trivial
  | int n => exact ofInt_ok n
  | str s => exact stringPieces_ok s
  | arr xs ih | tup xs ih =>
    rw [Json.written, writable_array, writtenItems_eq]
    intro w hw
    obtain ⟨x, hx, rfl⟩ := List.mem_map.mp hw
    exact ih x hx
  | obj kvs ih =>
    rw [Json.written, writable_object, writtenMembers_eq]
    intro w hw
    obtain ⟨p, hp, rfl⟩ := List.mem_map.mp hw
    exact ⟨stringPieces_ok _, ih p hp⟩

/-! ## the canonical text -/

section
variable {j : Json} {t : List Char}

theorem following_codes (close : Char) (depth : Nat) (ts : List (List Char)) :
    following Layout.compact close.toNat depth (ts.map codesOf) = codesOf (Text.following close ts) := by
  induction ts with
  | nil => rfl
  | cons t ts ih =>
    rw [List.map_cons, following, ih, Text.following]
    simp [codesOf, Layout.compact]

theorem bracketed_codes (opening close : Char) (depth : Nat) (ts : List (List Char)) :
    bracketed Layout.compact opening.toNat close.toNat depth (ts.map codesOf) = codesOf (Text.joined opening close ts) := by
  cases ts with
  | nil => rfl
  | cons t ts =>
    rw [List.map_cons, bracketed, following_codes, Text.joined_cons]
    simp [codesOf, Layout.compact]

theorem lexeme_codes (n : Int) : (Lexeme.ofInt n).text = codesOf (Text.intText n) := by
  unfold Lexeme.text Lexeme.ofInt Text.intText digitCodes codesOf
  by_cases hn : n < 0
  · simp [hn]
  · simp [hn]

theorem quote_codes (s : String) :
    '"'.toNat :: ((stringPieces s).flatMap JsonText.Piece.text ++ ['"'.toNat]) = codesOf (Text.quote s) := by
  rw [stringPieces_text]
  simp [Text.quote, codesOf]

theorem member_codes (s : String) (t : List Char) :
    JsonText.memberText Layout.compact (stringPieces s) (codesOf t) = codesOf (memberText (s, t)) := by
  unfold JsonText.memberText memberText
  rw [stringPieces_text]
  simp [Text.quote, codesOf, Layout.compact]

theorem writeItems_eq (L : Layout) (depth : Nat) (xs : List Written) : writeItems L depth xs = xs.map (write L depth) := by
  induction xs with
  | nil => rfl
  | cons x xs ih => rw [writeItems, ih, List.map_cons]

theorem writeMembers_eq (L : Layout) (depth : Nat) (kvs : List (List JsonText.Piece × Written)) :
    writeMembers L depth kvs = kvs.map fun p => JsonText.memberText L p.1 (write L depth p.2) := by
  induction kvs with
  | nil => rfl
  | cons p kvs ih =>
    obtain ⟨ps, x⟩ := p
    rw [writeMembers, ih]
    rfl

/-- the text of a dictionary lists its members in the order of their keys -/
theorem canonText_obj_sorted {kvs : Dict} (h : canonText (.obj kvs) = .ok t) :
    ∃ (zs : List (String × Json)) (ws : List Piece), kvs = zs.map (fun p => (.str p.1, p.2)) ∧
      (ws.map fun w => (w.key, w.value)) = sortMembers zs ∧ t = Text.joined '\x7b' '\x7d' (ws.map Piece.chars) := by
  rw [canonText] at h
  obtain ⟨ms, hm, h⟩ := Fallible.bind_eq_ok.mp h
  obtain ⟨ts, hts, h⟩ := Fallible.bind_eq_ok.mp h
  obtain ⟨zs, hzs, rfl⟩ := members_of_stringKeys hm
  rw [sortMembers_map] at hts
  obtain ⟨ws, hws, rfl⟩ := pieces_of_members hts
  exact ⟨zs, ws, hzs, hws, (Fallible.pure_eq_ok.mp h).symm⟩

theorem sortDict_strings (zs : List (String × Json)) :
    sortDict ((zs.map fun p => ((.str p.1, p.2) : Key × Json)).map fun p => (p.1, p.2.asRead))
      = (sortMembers zs).map fun p => (.str p.1, p.2.asRead) := by
  unfold sortDict sortMembers
  rw [List.map_map]
  refine (List.map_insertionSort (fun p q : String × Json => p.1 ≤ q.1)
    (fun p q : Key × Json => p.1.text ≤ q.1.text) (fun p => (.str p.1, p.2.asRead)) zs ?_).symm
  intro p _ q _
  exact Iff.rfl

/-- **The canonical text is the document of the value that comes back.** -/
theorem canonText_written (h : canonText j = .ok t) (depth : Nat) :
    write Layout.compact depth j.asRead.written = codesOf t := by
  induction j using Json.induct generalizing t depth with
  | null => cases h; rfl
  | bool b => cases b <;> cases h <;> rfl
  | int n =>
    rw [intRepr_ok h]
    exact lexeme_codes n
  | float f => cases h
  | str s =>
    cases h
    exact quote_codes s
  | arr xs ih | tup xs ih =>
    obtain ⟨zs, rfl, rfl⟩ := canonText_seq_ok rfl h
    rw [Json.asRead, Json.written, write, writeItems_eq, writtenItems_eq, asReadItems_eq, ← bracketed_codes]
    simp only [List.map_map]
    refine congrArg _ (List.map_congr_left fun z hz => ?_)
    exact ih z.value (List.mem_map_of_mem hz) z.ok (depth + 1)
  | obj kvs ih =>
    obtain ⟨zs, ws, rfl, hws, rfl⟩ := canonText_obj_sorted h
    have hsorted := sortDict_strings zs
    rw [← hws] at hsorted
    rw [asRead_obj, hsorted, Json.written, write, writeMembers_eq, writtenMembers_eq, ← bracketed_codes]
    simp only [List.map_map]
    refine congrArg _ (List.map_congr_left fun w hw => ?_)
    have hmem : (w.key, w.value) ∈ sortMembers zs := by
      rw [← hws]
      exact List.mem_map_of_mem (f := fun w : Piece => (w.key, w.value)) hw
    replace hmem : (w.key, w.value) ∈ zs := (List.perm_insertionSort _ zs).subset hmem
    have hvalue := ih (.str w.key, w.value) (List.mem_map_of_mem (f := fun p => ((.str p.1, p.2) : Key × Json)) hmem)
      w.ok (depth + 1)
    show JsonText.memberText Layout.compact (stringPieces w.key) (write Layout.compact (depth + 1) w.value.asRead.written) = _
    rw [hvalue]
    exact member_codes w.key w.text

end

/-! ## what the decoder makes of it -/

mutual

/-- a value that stands in some canonical text as it comes back: no float, no tuple, text keys only and
no integer of more digits than the interpreter reads -/
def Json.plain : Json → Bool
  | .null | .bool _ | .str _ => true
  | .int n => (Nat.toDigits 10 n.natAbs).length ≤ maxStrDigits
  | .float _ | .tup _ => false
  | .arr xs => Json.plainItems xs
  | .obj kvs => Json.plainMembers kvs

def Json.plainItems : List Json → Bool
  | [] => true
  | x :: xs => x.plain && Json.plainItems xs

def Json.plainMembers : Dict → Bool
  | [] => true
  | (k, x) :: kvs => k.isText && x.plain && Json.plainMembers kvs

end

theorem plainItems_iff (xs : List Json) : Json.plainItems xs = true ↔ ∀ x ∈ xs, x.plain = true := by
  induction xs with
  | nil => simp [Json.plainItems]
  | cons x xs ih => simp [Json.plainItems, ih]

theorem plainMembers_iff (kvs : Dict) :
    Json.plainMembers kvs = true ↔ ∀ p ∈ kvs, p.1.isText = true ∧ p.2.plain = true := by
  induction kvs with
  | nil => simp [Json.plainMembers]
  | cons p kvs ih =>
    obtain ⟨k, x⟩ := p
    simp [Json.plainMembers, ih]

/-- what has a canonical text comes back plain -/
theorem plain_asRead {j : Json} {t : List Char} (h : canonText j = .ok t) : j.asRead.plain = true := by
  induction j using Json.induct generalizing t with
  | null | bool b | str s => rfl
  | int n =>
    have hdigits : ¬ (Nat.toDigits 10 n.natAbs).length > maxStrDigits := by
      intro hlong
      rw [canonText, intRepr, if_pos hlong] at h
      cases h
    show decide _ = true
    exact decide_eq_true (by omega)
  | float f => cases h
  | arr xs ih | tup xs ih =>
    rw [Json.asRead, Json.plain, plainItems_iff, asReadItems_eq]
    obtain ⟨zs, rfl, rfl⟩ := canonText_seq_ok rfl h
    intro y hy
    obtain ⟨x, hx, rfl⟩ := List.mem_map.mp hy
    obtain ⟨z, hz, rfl⟩ := List.mem_map.mp hx
    exact ih z.value hx z.ok
  | obj kvs ih =>
    rw [asRead_obj, Json.plain, plainMembers_iff]
    obtain ⟨ws, hp, rfl⟩ := canonText_obj_ok h
    intro q hq
    obtain ⟨p, hpm, rfl⟩ := List.mem_map.mp ((sortDict_perm _).subset hq)
    obtain ⟨w, hw, rfl⟩ := List.mem_map.mp (hp.symm.subset hpm)
    exact ⟨rfl, ih w.member hpm w.ok⟩

theorem lawful_asRead {j : Json} (h : j.lawful = true) : j.asRead.lawful = true := by
  induction j using Json.induct with
  | null | bool b | int n | float f | str s => rfl
  | arr xs ih | tup xs ih =>
    rw [Json.lawful, Json.lawfulList_iff] at h
    rw [Json.asRead, Json.lawful, Json.lawfulList_iff, asReadItems_eq]
    intro y hy
    obtain ⟨x, hx, rfl⟩ := List.mem_map.mp hy
    exact ih x hx (h x hx)
  | obj kvs ih =>
    obtain ⟨hkeys, hvalues⟩ := (Json.lawful_obj kvs).mp h
    rw [asRead_obj, Json.lawful_obj]
    refine ⟨?_, fun q hq => ?_⟩
    · have hperm := (sortDict_perm (kvs.map fun p => (p.1, p.2.asRead))).map Prod.fst
      refine hperm.nodup_iff.mpr ?_
      rw [List.map_map]
      exact hkeys
    · obtain ⟨p, hp, rfl⟩ := List.mem_map.mp ((sortDict_perm _).subset hq)
      exact ih p hp (hvalues p hp)

mutual

/-- the value as the decoder makes it -/
def Json.loaded : Json → StrictLoads.LoadedJson
  | .null => .null
  | .bool b => .bool b
  | .int n => .num (.int n)
  | .float f => .num (.float f)
  | .str s => .text (codesOf s.toList)
  | .arr xs | .tup xs => .array (Json.loadedItems xs)
  | .obj kvs => .object (Json.loadedMembers kvs)

def Json.loadedItems : List Json → List StrictLoads.LoadedJson
  | [] => []
  | x :: xs => x.loaded :: Json.loadedItems xs

def Json.loadedMembers : Dict → List (List Nat × StrictLoads.LoadedJson)
  | [] => []
  | (k, x) :: kvs => (codesOf k.text.toList, x.loaded) :: Json.loadedMembers kvs

end

theorem char_codePoint (c : Char) : Utf16.isHalf c.toNat = false ∧ c.toNat < 0x110000 := by
  have hvalid := c.valid
  have hrange : c.toNat < 0xD800 ∨ 0xDFFF < c.toNat ∧ c.toNat < 0x110000 := by
    simpa [UInt32.isValidChar, Nat.isValidChar] using hvalid
  refine ⟨?_, by omega⟩
  simp only [Utf16.isHalf, decide_eq_false_iff_not]
  omega

/-- the decoder reads the pieces of a string as the string -/
theorem decoder_pieces (I : StrictLoads.Interpreter) (message s : String) :
    (StrictLoads.decoder I message).string (stringPieces s) = codesOf s.toList := by
  have hpiece : ∀ c : Char, codes (respellPiece Utf16.encodePoint (pieceOf c)) = Utf16.encodePoint c.toNat := by
    intro c
    have hascii : c.toNat < 128 → Utf16.encodePoint c.toNat = [c.toNat] := fun h =>
      Utf16.encodePoint_unit (Nat.lt_trans h (by decide))
    unfold pieceOf
    by_cases hescaped : c = '"' ∨ c = '\\' ∨ c = '\n' ∨ c = '\r' ∨ c = '\t' ∨ c = '\x0c' ∨ c = '\x08'
    · rw [if_pos hescaped]
      rcases hescaped with rfl | rfl | rfl | rfl | rfl | rfl | rfl <;> rfl
    · rw [if_neg hescaped]
      by_cases hcontrol : c.toNat < 32
      · rw [if_pos hcontrol, hascii (by omega)]
        rfl
      · rw [if_neg hcontrol]
        show ((Utf16.encodePoint c.toNat).map JsonText.Piece.raw).map JsonText.Piece.code = _
        rw [List.map_map]
        exact List.map_id _
  show Utf16.codePoints (codes ((stringPieces s).flatMap (respellPiece Utf16.encodePoint))) = codesOf s.toList
  have hcodes : codes ((stringPieces s).flatMap (respellPiece Utf16.encodePoint)) = Utf16.encode (codesOf s.toList) := by
    unfold codes at hpiece
    unfold codes stringPieces Utf16.encode codesOf
    rw [List.flatMap_map, List.map_flatMap, List.flatMap_map]
    exact List.flatMap_congr fun c _ => hpiece c
  rw [hcodes]
  refine Utf16.codePoints_encode fun n hn => ?_
  obtain ⟨c, -, rfl⟩ := List.mem_map.mp hn
  exact char_codePoint c

theorem loadedMembers_eq (kvs : Dict) :
    Json.loadedMembers kvs = kvs.map fun p => (codesOf p.1.text.toList, p.2.loaded) := by
  induction kvs with
  | nil => rfl
  | cons p kvs ih =>
    obtain ⟨k, x⟩ := p
    rw [Json.loadedMembers, ih]
    rfl

theorem codesOf_injective {t u : List Char} (h : codesOf t = codesOf u) : t = u :=
  List.map_injective_iff.mpr (fun _ _ he => Char.toNat_inj.mp he) h

/-- keys that are texts differ as codes -/
theorem loadedMembers_nodup {kvs : Dict} (hu : kvs.UniqueKeys) (ht : ∀ p ∈ kvs, p.1.isText = true) :
    ((Json.loadedMembers kvs).map Prod.fst).Nodup := by
  rw [loadedMembers_eq, List.map_map]
  refine List.Nodup.map_on ?_ hu.of_map
  intro p hp q hq he
  refine List.inj_on_of_nodup_map hu hp hq ?_
  have htext := String.toList_injective (codesOf_injective he)
  obtain ⟨k, x⟩ := p
  obtain ⟨l, y⟩ := q
  cases k with
  | str s =>
    cases l with
    | str t => exact congrArg Key.str htext
    | none | num f | tup ks => cases ht _ hq
  | none | num f | tup ks => cases ht _ hp

section
variable (I : StrictLoads.Interpreter) (message : String)

/-- **The decoder makes the value of its document.** -/
theorem fold_written {j : Json} (hj : j.plain = true) (hl : j.lawful = true) :
    fold (StrictLoads.decoder I message) (j.written.tree StrictLoads.Constant) = .ok j.loaded := by
  induction j using Json.induct with
  | null | bool b => rfl
  | int n =>
    have hlength : ¬ (Lexeme.ofInt n).digits.length > StrictLoads.intMaxStrDigits := by
      have hdigits : (Nat.toDigits 10 n.natAbs).length ≤ maxStrDigits := of_decide_eq_true hj
      show ¬ ((Nat.toDigits 10 n.natAbs).map Char.toNat).length > _
      rw [List.length_map]
      exact Nat.not_lt.mpr hdigits
    show StrictLoads.parseNumber I (Lexeme.ofInt n) = _
    unfold StrictLoads.parseNumber
    have htail : (Lexeme.ofInt n).tail = [] := rfl
    rw [if_pos htail, if_neg hlength, ofInt_value]
    rfl
  | float f => cases hj
  | str s => exact congrArg (fun ps => Except.ok (Value.text ps)) (decoder_pieces I message s)
  | tup xs => cases hj
  | arr xs ih =>
    rw [Json.plain, plainItems_iff] at hj
    rw [Json.lawful, Json.lawfulList_iff] at hl
    have hitems : foldItems (StrictLoads.decoder I message) (mapItems id Numeral.lexeme (Json.writtenItems xs)) =
        .ok (Json.loadedItems xs) := by
      induction xs with
      | nil => rfl
      | cons x xs ihxs =>
        obtain ⟨hx, hxs⟩ := List.forall_mem_cons.mp hj
        obtain ⟨hxl, hxsl⟩ := List.forall_mem_cons.mp hl
        obtain ⟨ihx, ih⟩ := List.forall_mem_cons.mp ih
        have hvalue : fold (StrictLoads.decoder I message) (x.written.map id Numeral.lexeme) = .ok x.loaded := ihx hx hxl
        rw [Json.writtenItems, mapItems, foldItems, hvalue, Fallible.ok_bind, ihxs ih hxs hxsl]
        rfl
    show (foldItems (StrictLoads.decoder I message) _ >>= _) = _
    rw [hitems]
    rfl
  | obj kvs ih =>
    rw [Json.plain, plainMembers_iff] at hj
    rw [Json.lawful_obj] at hl
    obtain ⟨hkeys, hl⟩ := hl
    have hnodup := loadedMembers_nodup hkeys fun p hp => (hj p hp).1
    have hmembers : foldMembers (StrictLoads.decoder I message) (mapMembers id Numeral.lexeme (Json.writtenMembers kvs)) =
        .ok (Json.loadedMembers kvs) := by
      clear hnodup hkeys
      induction kvs with
      | nil => rfl
      | cons p kvs ihkvs =>
        obtain ⟨k, x⟩ := p
        obtain ⟨hx, hkvs⟩ := List.forall_mem_cons.mp hj
        obtain ⟨hxl, hkvsl⟩ := List.forall_mem_cons.mp hl
        obtain ⟨ihx, ih⟩ := List.forall_mem_cons.mp ih
        have hvalue : fold (StrictLoads.decoder I message) (x.written.map id Numeral.lexeme) = .ok x.loaded := ihx hx.2 hxl
        have hname : (StrictLoads.decoder I message).string (id (stringPieces k.text)) = codesOf k.text.toList :=
          decoder_pieces I message k.text
        rw [Json.writtenMembers, mapMembers, foldMembers, hvalue, Fallible.ok_bind, ihkvs ih hkvs hkvsl,
          Fallible.ok_bind, hname]
        rfl
    have hobject : (StrictLoads.decoder I message).object (Json.loadedMembers kvs) = .ok (.object (Json.loadedMembers kvs)) := by
      show (StrictLoads.rejectDuplicateObjectPairs I (Json.loadedMembers kvs)).map Value.object = _
      rw [(StrictLoads.rejectDuplicateObjectPairs_ok I _ _).mpr ⟨hnodup, rfl⟩]
      rfl
    show (foldMembers (StrictLoads.decoder I message) _ >>= _) = _
    rw [hmembers, Fallible.ok_bind]
    exact hobject

end

theorem nesting_loaded {j : Json} (hj : j.plain = true) : j.loaded.nesting = j.depth := by
  induction j using Json.induct with
  | null | bool b | int n | str s => rfl
  | float f => cases hj
  | tup xs => cases hj
  | arr xs ih =>
    rw [Json.plain, plainItems_iff] at hj
    show nestingItems (Json.loadedItems xs) + 1 = Json.depthList xs + 1
    induction xs with
    | nil => rfl
    | cons x xs ihxs =>
      obtain ⟨hx, hxs⟩ := List.forall_mem_cons.mp hj
      obtain ⟨ihx, ih⟩ := List.forall_mem_cons.mp ih
      rw [Json.loadedItems, nestingItems, Json.depthList, ihx hx, Nat.succ.inj (ihxs ih hxs)]
  | obj kvs ih =>
    rw [Json.plain, plainMembers_iff] at hj
    show nestingMembers (Json.loadedMembers kvs) + 1 = Json.depthMembers kvs + 1
    induction kvs with
    | nil => rfl
    | cons p kvs ihkvs =>
      obtain ⟨k, x⟩ := p
      obtain ⟨hx, hkvs⟩ := List.forall_mem_cons.mp hj
      obtain ⟨ihx, ih⟩ := List.forall_mem_cons.mp ih
      rw [Json.loadedMembers, nestingMembers, Json.depthMembers, ihx hx.2, Nat.succ.inj (ihkvs ih hkvs)]

/-! ## back to a value -/

/-- the string of code points, if they are all characters -/
def stringOf (points : List Nat) : Option String :=
  if points.all fun c => !Utf16.isHalf c && decide (c < 0x110000) then some (String.ofList (points.map Char.ofNat))
  else none

theorem stringOf_codes (s : String) : stringOf (codesOf s.toList) = some s := by
  have hall : (codesOf s.toList).all (fun c => !Utf16.isHalf c && decide (c < 0x110000)) = true := by
    rw [List.all_eq_true]
    intro n hn
    obtain ⟨c, -, rfl⟩ := List.mem_map.mp hn
    obtain ⟨hhalf, hlt⟩ := char_codePoint c
    simp [hhalf, hlt]
  have hmap : (codesOf s.toList).map Char.ofNat = s.toList := by
    unfold codesOf
    rw [List.map_map]
    refine (List.map_congr_left fun c _ => Char.ofNat_toNat c).trans (List.map_id _)
  unfold stringOf
  rw [if_pos hall, hmap, String.ofList_toList]

mutual

/-- what the decoder makes as a value; a string with half of a pair is none -/
def ofLoaded : StrictLoads.LoadedJson → Option Json
  | .null => some .null
  | .bool b => some (.bool b)
  | .num (.int n) => some (.int n)
  | .num (.float f) => some (.float f)
  | .text points => (stringOf points).map .str
  | .array xs => (ofLoadedItems xs).map .arr
  | .object kvs => (ofLoadedMembers kvs).map .obj

def ofLoadedItems : List StrictLoads.LoadedJson → Option (List Json)
  | [] => some []
  | x :: xs => do
    let x ← ofLoaded x
    let xs ← ofLoadedItems xs
    return x :: xs

def ofLoadedMembers : List (List Nat × StrictLoads.LoadedJson) → Option Dict
  | [] => some []
  | (points, x) :: kvs => do
    let key ← stringOf points
    let x ← ofLoaded x
    let kvs ← ofLoadedMembers kvs
    return (.str key, x) :: kvs

end

theorem ofLoaded_loaded {j : Json} (hj : j.plain = true) : ofLoaded j.loaded = some j := by
  induction j using Json.induct with
  | null | bool b | int n => rfl
  | float f => cases hj
  | tup xs => cases hj
  | str s => exact congrArg (Option.map Json.str) (stringOf_codes s)
  | arr xs ih =>
    rw [Json.plain, plainItems_iff] at hj
    have hitems : ofLoadedItems (Json.loadedItems xs) = some xs := by
      induction xs with
      | nil => rfl
      | cons x xs ihxs =>
        obtain ⟨hx, hxs⟩ := List.forall_mem_cons.mp hj
        obtain ⟨ihx, ih⟩ := List.forall_mem_cons.mp ih
        rw [Json.loadedItems, ofLoadedItems, ihx hx, ihxs ih hxs]
        rfl
    show (ofLoadedItems (Json.loadedItems xs)).map Json.arr = _
    rw [hitems]
    rfl
  | obj kvs ih =>
    rw [Json.plain, plainMembers_iff] at hj
    have hmembers : ofLoadedMembers (Json.loadedMembers kvs) = some kvs := by
      induction kvs with
      | nil => rfl
      | cons p kvs ihkvs =>
        obtain ⟨k, x⟩ := p
        obtain ⟨hx, hkvs⟩ := List.forall_mem_cons.mp hj
        obtain ⟨ihx, ihrest⟩ := List.forall_mem_cons.mp ih
        cases k with
        | str s =>
          have hkey : stringOf (codesOf (Key.str s).text.toList) = some s := stringOf_codes s
          rw [Json.loadedMembers, ofLoadedMembers, ihx hx.2, ihkvs ihrest hkvs, hkey]
          rfl
        | none | num f | tup ks => cases hx.1
    show (ofLoadedMembers (Json.loadedMembers kvs)).map Json.obj = _
    rw [hmembers]
    rfl

/-! ## reading a canonical text -/

section
variable {I : StrictLoads.Interpreter} {j : Json} {t : List Char}

/-- **The decoder reads a canonical text**, whatever blanks follow it. -/
theorem jsonLoads_canonText (hl : j.lawful = true) (h : canonText j = .ok t) {g : List Char}
    (hg : ∀ c ∈ codesOf g, isBlank c = true) :
    StrictLoads.jsonLoads I (codesOf (t ++ g)) = .ok j.asRead.loaded := by
  have hwritten := canonText_written h 0
  have hcodes : codesOf (t ++ g) = write Layout.compact 0 j.asRead.written ++ codesOf g := by
    rw [hwritten]
    exact List.map_append
  have hdocument := document_write (κ := StrictLoads.Constant) StrictLoads.constants Layout.compact_blank
    (written_writable j.asRead) hg
  have hmark : ¬ (codesOf (t ++ g)).head? = some 0xFEFF := by
    intro hhead
    obtain ⟨rest, hrest⟩ := List.head?_eq_some_iff.mp hhead
    rw [← hcodes, hrest, StrictLoads.document_mark] at hdocument
    cases hdocument
  unfold StrictLoads.jsonLoads
  rw [if_neg hmark, hcodes, document_fold _ _ hdocument]
  exact fold_written I _ (plain_asRead h) (lawful_asRead hl)

/-- `loads_no_duplicate_keys` with its default limits, as a value -/
def loadsValue (I : StrictLoads.Interpreter) (raw : StrictLoads.Raw) : Except PyError Json := do
  let loaded ← StrictLoads.loadsNoDuplicateKeys I raw StrictLoads.defaultMaxJsonBytes StrictLoads.defaultMaxJsonDepth
  match ofLoaded loaded with
  | some value => .ok value
  | none => valueError "strings must contain only Unicode scalar values (lone surrogate found)"

theorem pointSize_char (c : Char) : Utf16.pointSize c.toNat = c.utf8Size := by
  have hval : c.val.toNat = c.toNat := rfl
  simp only [Char.utf8Size, Utf16.pointSize, UInt32.le_iff_toNat_le, hval]
  show _ = if c.toNat ≤ 127 then 1 else if c.toNat ≤ 2047 then 2 else if c.toNat ≤ 65535 then 3 else 4
  simp only [Nat.lt_iff_add_one_le]
  split_ifs <;> omega

theorem utf8Size_codes (t : List Char) : Utf16.utf8Size (codesOf t) = (Text.utf8 t).length := by
  induction t with
  | nil => rfl
  | cons c t ih =>
    have htail : (Text.utf8 (c :: t)).length = (String.utf8EncodeChar c).length + (Text.utf8 t).length :=
      List.length_append
    rw [htail, String.length_utf8EncodeChar, ← pointSize_char, ← ih]
    rfl

theorem inputSize_str (t : List Char) : StrictLoads.inputSize (.str (codesOf t)) = some (Text.utf8 t).length := by
  have hhalf : (codesOf t).any Utf16.isHalf = false := by
    rw [List.any_eq_false]
    intro n hn
    obtain ⟨c, -, rfl⟩ := List.mem_map.mp hn
    simp [(char_codePoint c).1]
  unfold StrictLoads.inputSize
  dsimp only
  rw [hhalf, utf8Size_codes]
  rfl

theorem utf8decode_utf8 (t : List Char) : PyString.utf8decode (Text.utf8 t) = some (String.ofList t) := by
  have hbytes : (⟨(Text.utf8 t).toArray⟩ : ByteArray) = (String.ofList t).toByteArray := by
    rw [String.toByteArray_ofList]
    exact ByteArray.ext (List.data_toByteArray).symm
  have hvalid : (String.ofList t).toByteArray.IsValidUTF8 := (String.ofList t).isValidUTF8
  unfold PyString.utf8decode String.fromUTF8?
  rw [hbytes, dif_pos (by simpa using hvalid)]
  rfl

/-- a text as an input: the text itself, or its bytes -/
def inputsOf (t : List Char) : List StrictLoads.Raw := [.str (codesOf t), .bytes (Text.utf8 t)]

theorem inputsOf_text {raw : StrictLoads.Raw} (hraw : raw ∈ inputsOf t) :
    StrictLoads.inputSize raw = some (Text.utf8 t).length ∧ StrictLoads.decodeRaw raw = some (codesOf t) := by
  simp only [inputsOf, List.mem_cons, List.not_mem_nil, or_false] at hraw
  rcases hraw with rfl | rfl
  · exact ⟨inputSize_str t, rfl⟩
  · refine ⟨rfl, ?_⟩
    unfold StrictLoads.decodeRaw
    dsimp only
    rw [utf8decode_utf8, Option.map_some, String.toList_ofList]
    rfl

/-- **A canonical text within the limits of the reader is read as its value**, whatever blanks follow it. -/
theorem loadsValue_canonText (hI : I.RoomFor StrictLoads.defaultMaxJsonDepth) (hl : j.lawful = true)
    (h : canonText j = .ok t) {g : List Char} (hg : ∀ c ∈ codesOf g, isBlank c = true) {raw : StrictLoads.Raw}
    (hraw : raw ∈ inputsOf (t ++ g)) (v : Json) :
    loadsValue I raw = .ok v ↔ v = j.asRead ∧ (Text.utf8 (t ++ g)).length ≤ StrictLoads.defaultMaxJsonBytes ∧
      j.depth ≤ StrictLoads.defaultMaxJsonDepth := by
  obtain ⟨hsize, htext⟩ := inputsOf_text hraw
  have hloads : StrictLoads.jsonLoads I (codesOf (t ++ g)) = .ok j.asRead.loaded := jsonLoads_canonText hl h hg
  have hplain := plain_asRead h
  have hnesting : j.asRead.loaded.nesting = j.depth := (nesting_loaded hplain).trans (depth_asRead j)
  have hread : ∀ loaded, StrictLoads.loadsNoDuplicateKeys I raw StrictLoads.defaultMaxJsonBytes
      StrictLoads.defaultMaxJsonDepth = .ok loaded ↔ loaded = j.asRead.loaded ∧
        (Text.utf8 (t ++ g)).length ≤ StrictLoads.defaultMaxJsonBytes ∧ j.depth ≤ StrictLoads.defaultMaxJsonDepth := by
    intro loaded
    rw [StrictLoads.loadsNoDuplicateKeys_ok I (by decide) (by decide) hI, hsize, htext]
    simp only [Option.some.injEq, exists_eq_left', hloads, Except.ok.injEq]
    constructor
    · rintro ⟨hle, rfl, hdepth⟩
      exact ⟨rfl, hle, hnesting ▸ hdepth⟩
    · rintro ⟨rfl, hle, hdepth⟩
      exact ⟨hle, rfl, hnesting.symm ▸ hdepth⟩
  unfold loadsValue
  rw [Fallible.bind_eq_ok]
  simp only [hread]
  constructor
  · rintro ⟨loaded, ⟨rfl, hlimits⟩, hv⟩
    rw [ofLoaded_loaded hplain] at hv
    cases hv
    exact ⟨rfl, hlimits⟩
  · rintro ⟨rfl, hlimits⟩
    refine ⟨_, ⟨rfl, hlimits⟩, ?_⟩
    rw [ofLoaded_loaded hplain]

end

/-- **The canonical bytes of a value are read back as the same value, which has the same canonical bytes.** -/
theorem canonical_round_trip {P : Platform} {I : StrictLoads.Interpreter} (hI : I.RoomFor StrictLoads.defaultMaxJsonDepth)
    {j : Json} {bs : List UInt8} (hl : j.lawful = true) (h : canonicalizeBytes P j = .ok bs) :
    (j.depth ≤ StrictLoads.defaultMaxJsonDepth ↔ ∃ v, loadsValue I (.bytes bs) = .ok v) ∧
      ∀ v, loadsValue I (.bytes bs) = .ok v → Json.Same j v ∧ canonicalizeBytes P v = .ok bs := by
  obtain ⟨t, ht, rfl, hd, hlength⟩ := canonicalizeBytes_ok h
  have hraw : StrictLoads.Raw.bytes (Text.utf8 t) ∈ inputsOf (t ++ []) := by
    rw [List.append_nil]
    exact List.mem_cons_of_mem _ List.mem_cons_self
  have hread := loadsValue_canonText hI hl ht (g := []) (fun c hc => nomatch hc) hraw
  rw [List.append_nil] at hread
  simp only [hread]
  refine ⟨⟨fun hdepth => ⟨j.asRead, rfl, hlength, hdepth⟩, fun ⟨v, hv⟩ => hv.2.2⟩, ?_⟩
  rintro v ⟨rfl, -, -⟩
  refine ⟨same_asRead j, ?_⟩
  rw [← canonicalizeBytes_congr (canonText_congr (same_asRead j) hl) (same_asRead j).depth]
  exact h

/-! ## equality with the value that was written -/

mutual

/-- no tuple, at any level -/
def Json.tupleFree : Json → Bool
  | .tup _ => false
  | .arr xs => Json.tupleFreeItems xs
  | .obj kvs => Json.tupleFreeMembers kvs
  | _ => true

def Json.tupleFreeItems : List Json → Bool
  | [] => true
  | x :: xs => x.tupleFree && Json.tupleFreeItems xs

def Json.tupleFreeMembers : Dict → Bool
  | [] => true
  | (_, x) :: kvs => x.tupleFree && Json.tupleFreeMembers kvs

end

theorem tupleFreeMembers_eq (kvs : Dict) : Json.tupleFreeMembers kvs = kvs.all fun p => p.2.tupleFree := by
  induction kvs with
  | nil => rfl
  | cons p kvs ih =>
    obtain ⟨k, x⟩ := p
    rw [Json.tupleFreeMembers, ih, List.all_cons]

/-- a member is equal to the value under its key -/
def equalUnder (d : Dict) (p : Key × Json) : Bool :=
  match Dict.find d p.1 with
  | some y => p.2.pyEq y
  | none => false

theorem pyEqMembers_eq (kvs d : Dict) : Json.pyEqMembers kvs d = kvs.all (equalUnder d) := by
  induction kvs with
  | nil => rfl
  | cons p kvs ih =>
    obtain ⟨k, x⟩ := p
    rw [Json.pyEqMembers, List.all_cons, ih]
    show _ = ((match Dict.find d k with | some y => x.pyEq y | none => false) && _)
    cases Dict.find d k <;> rfl

theorem pyEq_obj (kvs d : Dict) :
    (Json.obj kvs).pyEq (.obj d) = (decide (kvs.length = d.length) && kvs.all (equalUnder d)) := by
  rw [Json.pyEq, pyEqMembers_eq]

/-- **The value that comes back is equal to the one that was written** if that one has no tuple. -/
theorem pyEq_asRead {j : Json} {t : List Char} (h : canonText j = .ok t) (hl : j.lawful = true) :
    j.asRead.pyEq j = j.tupleFree := by
  induction j using Json.induct generalizing t with
  | null => rfl
  | bool b => cases b <;> rfl
  | int n => exact pyEq_int.mpr rfl
  | float f => cases h
  | str s => exact pyEq_str.mpr rfl
  | tup xs => rfl
  | arr xs ih =>
    obtain ⟨zs, rfl, -⟩ := canonText_seq_ok rfl h
    rw [Json.lawful, Json.lawfulList_iff] at hl
    show Json.pyEqItems (Json.asReadItems _) _ = Json.tupleFreeItems _
    clear h
    induction zs with
    | nil => rfl
    | cons z zs ihzs =>
      rw [List.map_cons] at ih hl ⊢
      obtain ⟨hz, hzs⟩ := List.forall_mem_cons.mp hl
      obtain ⟨ihz, ih⟩ := List.forall_mem_cons.mp ih
      rw [Json.asReadItems, Json.pyEqItems, Json.tupleFreeItems, ihz z.ok hz, ihzs ih hzs]
  | obj kvs ih =>
    obtain ⟨hu, hvalues⟩ := (Json.lawful_obj kvs).mp hl
    have hperm := sortDict_perm (kvs.map fun p => (p.1, p.2.asRead))
    have hmember : ∀ p ∈ kvs, equalUnder kvs (p.1, p.2.asRead) = p.2.tupleFree := by
      intro p hp
      obtain ⟨u, htext, -⟩ := canonText_child h (List.mem_map_of_mem hp)
      unfold equalUnder
      rw [find_of_mem hu hp]
      exact ih p hp htext (hvalues p hp)
    have hall : (sortDict (kvs.map fun p => (p.1, p.2.asRead))).all (equalUnder kvs)
        = kvs.all fun p => p.2.tupleFree := by
      rw [hperm.all_eq, List.all_map, Bool.eq_iff_iff, List.all_eq_true, List.all_eq_true]
      exact forall₂_congr fun p hp => by rw [← hmember p hp, Function.comp_apply]
    rw [asRead_obj, pyEq_obj, hall, hperm.length_eq, List.length_map, decide_eq_true rfl, Bool.true_and]
    exact (tupleFreeMembers_eq kvs).symm

/-! ## a tuple that comes back as a list -/

/-- an interpreter that reads texts of any nesting -/
def roomyInterpreter : StrictLoads.Interpreter where
  floatOf _ := .nan
  keyRepr key := s!"'{String.ofList (key.map Char.ofNat)}'"
  decodeMessage _ := "Expecting value: line 1 column 1 (char 0)"
  unicodeMessage _ := "surrogates not allowed"
  recursionError _ := false

theorem roomyInterpreter_room : roomyInterpreter.RoomFor StrictLoads.defaultMaxJsonDepth := fun _ _ _ _ => rfl

theorem canonical_round_trip_sample : ∃ bs v, canonicalizeBytes (samplePlatform fun _ => []) spelledTuple = .ok bs ∧
    loadsValue roomyInterpreter (.bytes bs) = .ok v ∧ Json.Same spelledTuple v ∧
      canonicalizeBytes (samplePlatform fun _ => []) v = .ok bs := by
  have hok : (canonicalizeBytes (samplePlatform fun _ => []) spelledTuple).toBool = true := by decide +kernel
  obtain ⟨bs, hbs⟩ := Fallible.exists_ok hok
  obtain ⟨hreads, hsame⟩ := canonical_round_trip roomyInterpreter_room (by decide) hbs
  obtain ⟨v, hv⟩ := hreads.mp (by decide)
  exact ⟨bs, v, hbs, hv, hsame v hv⟩

end Actenon
