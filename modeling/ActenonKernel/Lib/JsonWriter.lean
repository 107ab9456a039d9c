import ActenonKernel.Lib.JsonReader
import Mathlib.Data.List.TakeWhile

/-!
# Writing JSON texts

A document over pieces and lexemes is written out piece by piece, with blanks where a layout puts
them. What is written is read back as the document it was written from, whatever the layout.

* `Layout`           the blanks, `Layout.compact` and `Layout.indented`;
* `Piece.text`, `Lexeme.text`    strings and numbers;
* `write`            a document;
* `lexString_text`, `lexNumber_ofInt`    strings and integers are read back;
* `write_ascii`      a text of ASCII characters only;
* `document_write`   a document is read back.
-/

set_option linter.unusedSectionVars false

namespace JsonText

open Fallible

/-! ## layouts -/

/-- the blanks after an opening bracket, after a comma and before a closing bracket, by the depth of
what follows, and those after a colon -/
structure Layout where
  gap : Nat → List Nat
  colon : List Nat

/-- a layout has nothing but blanks -/
structure Layout.Blank (L : Layout) : Prop where
  gap : ∀ n, ∀ c ∈ L.gap n, isBlank c = true
  colon : ∀ c ∈ L.colon, isBlank c = true

/-- no blanks -/
def Layout.compact : Layout := ⟨fun _ => [], []⟩

/-- a line for every item and every member -/
def Layout.indented (width : Nat) : Layout where
  gap n := '\n'.toNat :: List.replicate (width * n) ' '.toNat
  colon := [' '.toNat]

theorem Layout.compact_blank : Layout.compact.Blank where
  gap _ _ hc := nomatch hc
  colon _ hc := nomatch hc

theorem Layout.indented_blank (width : Nat) : (Layout.indented width).Blank where
  gap n c hc := by
    rcases List.mem_cons.mp hc with rfl | hc
    · rfl
    · rw [(List.mem_replicate.mp hc).2]
      rfl
  colon c hc := by
    rw [List.mem_singleton.mp hc]
    rfl

/-! ## strings -/

/-- a hexadecimal digit -/
def hexCode (n : Nat) : Nat := if n < 10 then 48 + n else 87 + n

/-- the code after the backslash -/
def escapeLetter (c : Nat) : Nat :=
  if c = '\x08'.toNat then 'b'.toNat
  else if c = '\x0c'.toNat then 'f'.toNat
  else if c = '\n'.toNat then 'n'.toNat
  else if c = '\r'.toNat then 'r'.toNat
  else if c = '\t'.toNat then 't'.toNat
  else c

def Piece.text : Piece → List Nat
  | .raw c => [c]
  | .escaped c => ['\\'.toNat, escapeLetter c]
  | .unit n => ['\\'.toNat, 'u'.toNat, hexCode (n / 4096 % 16), hexCode (n / 256 % 16), hexCode (n / 16 % 16),
      hexCode (n % 16)]

/-- a piece that stands in some text -/
def Piece.Ok : Piece → Prop
  | .raw c => c ≠ '"'.toNat ∧ 0x20 ≤ c ∧ c ≠ '\\'.toNat
  | .escaped c => escapeOf (escapeLetter c) = some c ∧ escapeLetter c ≠ 'u'.toNat
  | .unit n => n < 65536

theorem hexDigit_hexCode {n : Nat} (h : n < 16) : hexDigit (hexCode n) = some n := by
  unfold hexDigit hexCode
  by_cases hten : n < 10
  · rw [if_pos hten, if_pos (by omega)]
    simp
  · rw [if_neg hten, if_neg (by omega), if_pos (by omega)]
    simp

theorem unitAt_hexCode {n : Nat} (h : n < 65536) (r : List Nat) :
    unitAt (hexCode (n / 4096 % 16) :: hexCode (n / 256 % 16) :: hexCode (n / 16 % 16) :: hexCode (n % 16) :: r)
      = some (n, r) := by
  have hvalue : 4096 * (n / 4096 % 16) + 256 * (n / 256 % 16) + 16 * (n / 16 % 16) + n % 16 = n := by omega
  unfold unitAt hex4
  dsimp only
  rw [hexDigit_hexCode (Nat.mod_lt _ (by decide)), hexDigit_hexCode (Nat.mod_lt _ (by decide)),
    hexDigit_hexCode (Nat.mod_lt _ (by decide)), hexDigit_hexCode (Nat.mod_lt _ (by decide))]
  simp [hvalue]

theorem lexString_piece {p : Piece} (hp : p.Ok) (s : List Nat) :
    lexString (p.text ++ s) = (lexString s).map fun q => (p :: q.1, q.2) := by
  cases p with
  | raw c =>
    obtain ⟨hquote, hcontrol, hslash⟩ := hp
    exact lexString_raw hquote (by omega) hslash s
  | escaped c =>
    obtain ⟨hc, hu⟩ := hp
    show lexString ('\\'.toNat :: escapeLetter c :: s) = _
    rw [lexString_escape hu, hc]
    rfl
  | unit n =>
    show lexString ('\\'.toNat :: 'u'.toNat :: _ :: _ :: _ :: _ :: s) = _
    rw [lexString_unit, unitAt_hexCode hp]
    rfl

/-- **A string is read back, piece after piece.** -/
theorem lexString_text {ps : List Piece} (hps : ∀ p ∈ ps, p.Ok) (r : List Nat) :
    lexString (ps.flatMap Piece.text ++ '"'.toNat :: r) = some (ps, r) := by
  induction ps with
  | nil => exact lexString_quote r
  | cons p ps ih =>
    obtain ⟨hp, hps⟩ := List.forall_mem_cons.mp hps
    rw [List.flatMap_cons, List.append_assoc, lexString_piece hp, ih hps]
    rfl

/-! ## numbers -/

/-- what may follow a value: a comma, a closing bracket, a blank or the end -/
def Ends (r : List Nat) : Prop :=
  ∀ c ∈ r.head?, c = ','.toNat ∨ c = ']'.toNat ∨ c = '\x7d'.toNat ∨ isBlank c = true

def Lexeme.text (l : Lexeme) : List Nat := (if l.neg then ['-'.toNat] else []) ++ l.digits ++ l.tail

/-- a lexeme that is read back -/
structure Lexeme.Ok (l : Lexeme) : Prop where
  head : ∃ c ds, l.digits = c :: ds ∧ isDigit c = true
  read : ∀ r, Ends r → lexNumber (l.text ++ r) = some (l, r)

/-- the decimal digits of a number -/
def digitCodes (n : Nat) : List Nat := (Nat.toDigits 10 n).map Char.toNat

/-- the lexeme of an integer -/
def Lexeme.ofInt (n : Int) : Lexeme := ⟨decide (n < 0), digitCodes n.natAbs, []⟩

theorem isDigit_digitCodes {n c : Nat} (hc : c ∈ digitCodes n) : isDigit c = true := by
  obtain ⟨d, hd, rfl⟩ := List.mem_map.mp hc
  have hdigit := Nat.isDigit_of_mem_toDigits (by decide) (by decide) hd
  have hrange : 48 ≤ d.toNat ∧ d.toNat ≤ 57 := by
    simpa [Char.isDigit, UInt32.le_iff_toNat_le] using hdigit
  simpa [isDigit] using hrange

theorem digitsValue_digitCodes (n : Nat) : digitsValue (digitCodes n) = n := by
  have hvalue := Nat.ofDigitChars_ten_toDigits (n := n)
  unfold digitsValue digitCodes
  rw [List.foldl_map]
  exact hvalue

/-- no leading zero -/
theorem digitCodes_head (n : Nat) : ∃ c ds, digitCodes n = c :: ds ∧ isDigit c = true ∧
    (c = '0'.toNat → ds = []) := by
  have hhead : ∀ n > 0, ∃ c ds, Nat.toDigits 10 n = c :: ds ∧ c.toNat ≠ 48 := by
    intro n
    induction n using Nat.strongRecOn with
    | _ n ih =>
      intro hn
      by_cases hten : 10 ≤ n
      · obtain ⟨c, ds, hds, hc⟩ := ih (n / 10) (by omega) (by omega)
        rw [Nat.toDigits_of_base_le (by decide) hten, hds]
        exact ⟨c, _, rfl, hc⟩
      · rw [Nat.toDigits_of_lt_base (by omega)]
        refine ⟨_, _, rfl, ?_⟩
        have hdigits : ∀ m < 10, 0 < m → m.digitChar.toNat ≠ 48 := by decide
        exact hdigits n (by omega) hn
  rcases Nat.eq_zero_or_pos n with rfl | hn
  · exact ⟨48, [], rfl, rfl, fun _ => rfl⟩
  · obtain ⟨c, ds, hds, hc⟩ := hhead n hn
    have hcodes : digitCodes n = c.toNat :: ds.map Char.toNat := by
      unfold digitCodes
      rw [hds]
      rfl
    refine ⟨_, _, hcodes, isDigit_digitCodes (n := n) ?_, fun h => absurd h hc⟩
    rw [hcodes]
    exact List.mem_cons_self

theorem ends_digit {r : List Nat} (h : Ends r) : ∀ c ∈ r.head?, isDigit c = false ∧ c ≠ '.'.toNat ∧
    c ≠ 'e'.toNat ∧ c ≠ 'E'.toNat := by
  intro c hc
  have hblank : isBlank c = true → c = 32 ∨ c = 9 ∨ c = 10 ∨ c = 13 := fun h => by simpa [isBlank] using h
  have hcodes : c = 44 ∨ c = 93 ∨ c = 125 ∨ c = 32 ∨ c = 9 ∨ c = 10 ∨ c = 13 := by
    rcases h c hc with h | h | h | h
    · exact Or.inl h
    · exact Or.inr (Or.inl h)
    · exact Or.inr (Or.inr (Or.inl h))
    · exact Or.inr (Or.inr (Or.inr (hblank h)))
  have hall : ∀ c ∈ [44, 93, 125, 32, 9, 10, 13], isDigit c = false ∧ c ≠ '.'.toNat ∧ c ≠ 'e'.toNat ∧
      c ≠ 'E'.toNat := by decide
  exact hall c (by simpa using hcodes)

theorem takeWhile_digits {ds r : List Nat} (hds : ∀ c ∈ ds, isDigit c = true) (hr : Ends r) :
    (ds ++ r).takeWhile isDigit = ds ∧ (ds ++ r).dropWhile isDigit = r := by
  have hstop : r.takeWhile isDigit = [] ∧ r.dropWhile isDigit = r := by
    cases r with
    | nil => exact ⟨rfl, rfl⟩
    | cons c r =>
      have hc := (ends_digit hr c rfl).1
      rw [List.takeWhile_cons, List.dropWhile_cons, hc]
      exact ⟨rfl, rfl⟩
  induction ds with
  | nil => exact hstop
  | cons d ds ih =>
    obtain ⟨hd, hds⟩ := List.forall_mem_cons.mp hds
    obtain ⟨htake, hdrop⟩ := ih hds
    rw [List.cons_append, List.takeWhile_cons, List.dropWhile_cons, hd, if_pos rfl, if_pos rfl, htake, hdrop]
    exact ⟨rfl, rfl⟩

theorem lexDigits_digitCodes (n : Nat) {r : List Nat} (hr : Ends r) :
    lexDigits (digitCodes n ++ r) = some (digitCodes n, r) := by
  obtain ⟨c, ds, hds, hc, hzero⟩ := digitCodes_head n
  have hall : ∀ d ∈ ds, isDigit d = true := fun d hd => isDigit_digitCodes (n := n) (hds ▸ List.mem_cons_of_mem c hd)
  rw [hds, List.cons_append, lexDigits]
  by_cases h : c = '0'.toNat
  · rw [if_pos h, hzero h, h]
    rfl
  · obtain ⟨htake, hdrop⟩ := takeWhile_digits hall hr
    rw [if_neg h, if_pos hc, htake, hdrop]

theorem lexFraction_ends {r : List Nat} (hr : Ends r) : lexFraction r = ([], r) := by
  cases r with
  | nil => rfl
  | cons c r =>
    have hdot := (ends_digit hr c rfl).2.1
    rw [lexFraction, if_neg fun h => hdot h.1]

theorem lexExponent_ends {r : List Nat} (hr : Ends r) : lexExponent r = ([], r) := by
  cases r with
  | nil => rfl
  | cons c r =>
    obtain ⟨-, -, he, hE⟩ := ends_digit hr c rfl
    rw [lexExponent, if_neg fun h => h.1.elim he hE]

/-- **An integer is read back.** -/
theorem lexNumber_ofInt (n : Int) {r : List Nat} (hr : Ends r) :
    lexNumber ((Lexeme.ofInt n).text ++ r) = some (Lexeme.ofInt n, r) := by
  have hsign : lexSign ((Lexeme.ofInt n).text ++ r) = (decide (n < 0), digitCodes n.natAbs ++ r) := by
    obtain ⟨c, ds, hds, hc, -⟩ := digitCodes_head n.natAbs
    have hminus : c ≠ '-'.toNat := fun h => by rw [h] at hc; exact absurd hc (by decide)
    by_cases hn : n < 0
    · simp [Lexeme.text, Lexeme.ofInt, hn, lexSign]
    · have htext : (Lexeme.ofInt n).text ++ r = c :: (ds ++ r) := by simp [Lexeme.text, Lexeme.ofInt, hn, hds]
      rw [htext, lexSign, if_neg hminus, decide_eq_false hn, hds]
      rfl
  unfold lexNumber
  rw [hsign]
  dsimp only
  rw [lexDigits_digitCodes _ hr, Option.map_some]
  dsimp only
  rw [lexFraction_ends hr, lexExponent_ends hr]
  rfl

theorem ofInt_ok (n : Int) : (Lexeme.ofInt n).Ok where
  head := by
    obtain ⟨c, ds, hds, hc, -⟩ := digitCodes_head n.natAbs
    exact ⟨c, ds, hds, hc⟩
  read _ hr := lexNumber_ofInt n hr

theorem ofInt_value (n : Int) : (Lexeme.ofInt n).value = n := by
  unfold Lexeme.value Lexeme.ofInt
  dsimp only
  rw [digitsValue_digitCodes]
  by_cases hn : n < 0
  · simp only [hn, decide_true, if_true]
    omega
  · simp only [hn, decide_false]
    show ((n.natAbs : Nat) : Int) = n
    omega

/-! ## documents -/

/-- a document of pieces and lexemes -/
abbrev Written := Value (List Piece) Lexeme

/-- the tree of what is written -/
def Value.tree (κ : Type) (v : Written) : ParseTree κ := v.map id Numeral.lexeme

section
variable (L : Layout)

/-- what follows an item: the others, each after a comma, and the closing bracket -/
def following (close : Nat) (depth : Nat) : List (List Nat) → List Nat
  | [] => L.gap depth ++ [close]
  | t :: ts => ','.toNat :: (L.gap (depth + 1) ++ t ++ following close depth ts)

/-- items in brackets -/
def bracketed (opening close : Nat) (depth : Nat) : List (List Nat) → List Nat
  | [] => [opening, close]
  | t :: ts => opening :: (L.gap (depth + 1) ++ t ++ following L close depth ts)

/-- a member with the text of its value -/
def memberText (ps : List Piece) (t : List Nat) : List Nat :=
  '"'.toNat :: (ps.flatMap Piece.text ++ '"'.toNat :: ':'.toNat :: (L.colon ++ t))

mutual

/-- a document at a depth -/
def write (depth : Nat) : Written → List Nat
  | .null => ['n'.toNat, 'u'.toNat, 'l'.toNat, 'l'.toNat]
  | .bool true => ['t'.toNat, 'r'.toNat, 'u'.toNat, 'e'.toNat]
  | .bool false => ['f'.toNat, 'a'.toNat, 'l'.toNat, 's'.toNat, 'e'.toNat]
  | .num l => l.text
  | .text ps => '"'.toNat :: (ps.flatMap Piece.text ++ ['"'.toNat])
  | .array xs => bracketed L '['.toNat ']'.toNat depth (writeItems (depth + 1) xs)
  | .object kvs => bracketed L '\x7b'.toNat '\x7d'.toNat depth (writeMembers (depth + 1) kvs)

def writeItems (depth : Nat) : List Written → List (List Nat)
  | [] => []
  | x :: xs => write depth x :: writeItems depth xs

def writeMembers (depth : Nat) : List (List Piece × Written) → List (List Nat)
  | [] => []
  | (ps, x) :: kvs => memberText L ps (write depth x) :: writeMembers depth kvs

end

end

/-- every string and every number of a document is read back -/
def Value.Writable (v : Written) : Prop := v.Parts (fun ps => ∀ p ∈ ps, p.Ok) Lexeme.Ok

theorem writable_array {xs : List Written} : (Value.array xs).Writable ↔ ∀ x ∈ xs, x.Writable :=
  partsItems_iff _ _ xs

theorem writable_object {kvs : List (List Piece × Written)} :
    (Value.object kvs).Writable ↔ ∀ p ∈ kvs, (∀ q ∈ p.1, q.Ok) ∧ p.2.Writable :=
  partsMembers_iff _ _ kvs

/-! ## plain texts -/

section
variable {L : Layout} (hL : L.Blank)
include hL

theorem gap_ascii (n : Nat) : ∀ c ∈ L.gap n, c < 128 := by
  intro c hc
  have hblank : c = 32 ∨ c = 9 ∨ c = 10 ∨ c = 13 := by simpa [isBlank] using hL.gap n c hc
  omega

theorem colon_ascii : ∀ c ∈ L.colon, c < 128 := by
  intro c hc
  have hblank : c = 32 ∨ c = 9 ∨ c = 10 ∨ c = 13 := by simpa [isBlank] using hL.colon c hc
  omega

theorem bracketed_ascii {opening close : Nat} (ho : opening < 128) (hc : close < 128) (depth : Nat) {ts : List (List Nat)}
    (h : ∀ t ∈ ts, ∀ c ∈ t, c < 128) : ∀ c ∈ bracketed L opening close depth ts, c < 128 := by
  have hfollowing : ∀ ts : List (List Nat), (∀ t ∈ ts, ∀ c ∈ t, c < 128) → ∀ c ∈ following L close depth ts, c < 128 := by
    intro ts h
    induction ts with
    | nil => exact List.forall_mem_append.mpr ⟨gap_ascii hL _, List.forall_mem_singleton.mpr hc⟩
    | cons t ts ih =>
      obtain ⟨ht, hts⟩ := List.forall_mem_cons.mp h
      refine List.forall_mem_cons.mpr ⟨by decide, ?_⟩
      exact List.forall_mem_append.mpr ⟨List.forall_mem_append.mpr ⟨gap_ascii hL _, ht⟩, ih hts⟩
  cases ts with
  | nil => exact List.forall_mem_cons.mpr ⟨ho, List.forall_mem_singleton.mpr hc⟩
  | cons t ts =>
    obtain ⟨ht, hts⟩ := List.forall_mem_cons.mp h
    refine List.forall_mem_cons.mpr ⟨ho, ?_⟩
    exact List.forall_mem_append.mpr ⟨List.forall_mem_append.mpr ⟨gap_ascii hL _, ht⟩, hfollowing ts hts⟩

/-- the text of a string -/
theorem pieces_ascii {ps : List Piece} (h : ∀ q ∈ ps, ∀ c ∈ q.text, c < 128) : ∀ c ∈ ps.flatMap Piece.text, c < 128 := by
  intro c hc
  obtain ⟨q, hq, hcq⟩ := List.mem_flatMap.mp hc
  exact h q hq c hcq

/-- **A document whose strings and numbers are ASCII is an ASCII text.** -/
theorem write_ascii {v : Written} (hv : v.Parts (fun ps => ∀ q ∈ ps, ∀ c ∈ q.text, c < 128) (fun l => ∀ c ∈ l.text, c < 128))
    (depth : Nat) : ∀ c ∈ write L depth v, c < 128 := by
  induction v using Value.induct generalizing depth with
  | null => simp [write]
  | bool b => cases b <;> simp [write]
  | num l => exact hv
  | text ps =>
    refine List.forall_mem_cons.mpr ⟨by decide, ?_⟩
    exact List.forall_mem_append.mpr ⟨pieces_ascii hL hv, List.forall_mem_singleton.mpr (by decide)⟩
  | array xs ih =>
    have hxs := (partsItems_iff _ _ xs).mp hv
    refine bracketed_ascii hL (by decide) (by decide) depth ?_
    clear hv
    induction xs with
    | nil => exact fun t ht => nomatch ht
    | cons x xs ihxs =>
      obtain ⟨hx, hxs⟩ := List.forall_mem_cons.mp hxs
      obtain ⟨ihx, ih⟩ := List.forall_mem_cons.mp ih
      exact List.forall_mem_cons.mpr ⟨ihx hx (depth + 1), ihxs ih hxs⟩
  | object kvs ih =>
    have hkvs := (partsMembers_iff _ _ kvs).mp hv
    refine bracketed_ascii hL (by decide) (by decide) depth ?_
    clear hv
    induction kvs with
    | nil => exact fun t ht => nomatch ht
    | cons p kvs ihkvs =>
      obtain ⟨ps, x⟩ := p
      obtain ⟨⟨hps, hx⟩, hkvs⟩ := List.forall_mem_cons.mp hkvs
      obtain ⟨ihx, ih⟩ := List.forall_mem_cons.mp ih
      refine List.forall_mem_cons.mpr ⟨?_, ihkvs ih hkvs⟩
      refine List.forall_mem_cons.mpr ⟨by decide, List.forall_mem_append.mpr ⟨pieces_ascii hL hps, ?_⟩⟩
      refine List.forall_mem_cons.mpr ⟨by decide, List.forall_mem_cons.mpr ⟨by decide, ?_⟩⟩
      exact List.forall_mem_append.mpr ⟨colon_ascii hL, ihx hx (depth + 1)⟩

end

/-! ## reading back -/

section
variable {g r s : List Nat} {c d : Nat}

theorem skipBlanks_append (hg : ∀ c ∈ g, isBlank c = true) (hc : isBlank c = false) :
    skipBlanks (g ++ c :: s) = c :: s := by
  unfold skipBlanks
  rw [List.dropWhile_append_of_pos hg, List.dropWhile_cons, hc]
  rfl

theorem expect_append (hg : ∀ c ∈ g, isBlank c = true) (hd : isBlank d = false) (c : Nat) :
    expect c (g ++ d :: s) = if d = c then some s else none := by
  unfold expect
  rw [skipBlanks_append hg hd]

theorem ends_append (hg : ∀ c ∈ g, isBlank c = true) (hd : d = ','.toNat ∨ d = ']'.toNat ∨ d = '\x7d'.toNat) :
    Ends (g ++ d :: r) := by
  intro c hc
  cases g with
  | nil =>
    obtain rfl : d = c := by simpa using hc
    rcases hd with h | h | h
    · exact Or.inl h
    · exact Or.inr (Or.inl h)
    · exact Or.inr (Or.inr (Or.inl h))
  | cons b g =>
    obtain rfl : b = c := by simpa using hc
    exact Or.inr (Or.inr (Or.inr (hg b List.mem_cons_self)))

end

section
variable {κ : Type} (table : List (Literal κ)) {L : Layout} (hL : L.Blank)

/-- the first code of a lexeme -/
theorem Lexeme.Ok.text_head {l : Lexeme} (hl : l.Ok) : ∃ c s, l.text = c :: s ∧ (c = '-'.toNat ∨ isDigit c = true) := by
  obtain ⟨c, ds, hds, hc⟩ := hl.head
  unfold Lexeme.text
  rw [hds]
  cases l.neg with
  | true => exact ⟨_, _, rfl, Or.inl rfl⟩
  | false => exact ⟨_, _, rfl, Or.inr hc⟩

theorem number_head {c : Nat} (hc : c = '-'.toNat ∨ isDigit c = true) : c = 45 ∨ (48 ≤ c ∧ c ≤ 57) := by
  simpa [isDigit] using hc

/-- what starts with the head of a number is a scalar -/
theorem value_number {c : Nat} (hc : c = '-'.toNat ∨ isDigit c = true) (n : Nat) (s : List Nat) :
    value table (plain κ) (n + 1) (c :: s) = scalar table (plain κ) (c :: s) := by
  have hcodes := number_head hc
  have hobject : c ≠ '\x7b'.toNat := fun h => by rw [h] at hcodes; exact absurd hcodes (by decide)
  have harray : c ≠ '['.toNat := fun h => by rw [h] at hcodes; exact absurd hcodes (by decide)
  have hquote : c ≠ '"'.toNat := fun h => by rw [h] at hcodes; exact absurd hcodes (by decide)
  rw [value, if_neg hobject, if_neg harray, if_neg hquote]

theorem scalar_number {l : Lexeme} (hl : l.Ok) {r : List Nat} (hr : Ends r) :
    scalar table (plain κ) (l.text ++ r) = .ok (.num (.lexeme l), r) := by
  obtain ⟨c, s, htext, hc⟩ := hl.text_head
  have hcodes := number_head hc
  have hliteral : findLiteral literals (l.text ++ r) = none := by
    have hne : 116 ≠ c ∧ 102 ≠ c ∧ 110 ≠ c := by omega
    rw [htext]
    simp [findLiteral, literals, List.isPrefixOf, hne]
  unfold scalar
  rw [hliteral, hl.read r hr]
  rfl

/-- a document starts with no blank and no closing bracket -/
theorem write_head {v : Written} (hv : v.Writable) (depth : Nat) :
    ∃ c s, write L depth v = c :: s ∧ isBlank c = false ∧ c ≠ ']'.toNat := by
  cases v with
  | null => exact ⟨_, _, rfl, rfl, by decide⟩
  | bool b => cases b <;> exact ⟨_, _, rfl, rfl, by decide⟩
  | num l =>
    obtain ⟨c, s, htext, hc⟩ := Lexeme.Ok.text_head hv
    have hcodes := number_head hc
    refine ⟨c, s, htext, ?_, fun h => ?_⟩
    · simp [isBlank]
      omega
    · rw [h] at hcodes
      exact absurd hcodes (by decide)
  | text ps => exact ⟨_, _, rfl, rfl, by decide⟩
  | array xs => cases xs <;> exact ⟨_, _, rfl, rfl, by decide⟩
  | object kvs => cases kvs <;> exact ⟨_, _, rfl, rfl, by decide⟩

variable (L) in
/-- a document is read back wherever it stands -/
def ReadBack (v : Written) : Prop := ∀ depth r n, Ends r → 2 * (write L depth v ++ r).length + 1 ≤ n →
  value table (plain κ) n (write L depth v ++ r) = .ok (v.tree κ, r)

include hL

theorem items_write {x : Written} {xs : List Written}
    (h : ∀ y ∈ x :: xs, y.Writable ∧ ReadBack (κ := κ) table L y) (depth : Nat) (r : List Nat) (n : Nat)
    (hn : 2 * (L.gap (depth + 1) ++ write L (depth + 1) x ++
      following L ']'.toNat depth (writeItems L (depth + 1) xs) ++ r).length + 2 ≤ n) :
    items table (plain κ) n (L.gap (depth + 1) ++ write L (depth + 1) x ++
      following L ']'.toNat depth (writeItems L (depth + 1) xs) ++ r) =
        .ok (mapItems id Numeral.lexeme (x :: xs), r) := by
  induction xs generalizing x n with
  | nil =>
    obtain ⟨hx, hread⟩ := h x List.mem_cons_self
    obtain ⟨c, s, hc, hblank, -⟩ := write_head (L := L) hx (depth + 1)
    cases n with
    | zero => omega
    | succ n =>
      simp only [writeItems, following, List.length_append, List.length_cons] at hn
      have hskip : skipBlanks (L.gap (depth + 1) ++ write L (depth + 1) x ++ (L.gap depth ++ [']'.toNat]) ++ r)
          = write L (depth + 1) x ++ (L.gap depth ++ ']'.toNat :: r) := by
        rw [List.append_assoc, List.append_assoc, hc, List.cons_append, skipBlanks_append (hL.gap _) hblank]
        simp
      have hvalue := hread (depth + 1) (L.gap depth ++ ']'.toNat :: r) n
        (ends_append (hL.gap _) (Or.inr (Or.inl rfl))) (by simp only [List.length_append, List.length_cons]; omega)
      rw [writeItems, following, items, hskip, hvalue, ok_bind]
      dsimp only
      rw [expect_append (hL.gap _) (by rfl), if_pos rfl]
      rfl
  | cons y ys ih =>
    obtain ⟨⟨hx, hread⟩, h⟩ := List.forall_mem_cons.mp h
    obtain ⟨c, s, hc, hblank, -⟩ := write_head (L := L) hx (depth + 1)
    cases n with
    | zero => omega
    | succ n =>
      let rest := L.gap (depth + 1) ++ write L (depth + 1) y ++
        following L ']'.toNat depth (writeItems L (depth + 1) ys) ++ r
      have hskip : skipBlanks (L.gap (depth + 1) ++ write L (depth + 1) x ++
          following L ']'.toNat depth (writeItems L (depth + 1) (y :: ys)) ++ r)
            = write L (depth + 1) x ++ ','.toNat :: rest := by
        rw [List.append_assoc, List.append_assoc, hc, List.cons_append, skipBlanks_append (hL.gap _) hblank]
        simp [rest, writeItems, following]
      have hlength : 2 * (write L (depth + 1) x ++ ','.toNat :: rest).length + 1 ≤ n := by
        have hsuffix := (skipBlanks_suffix (L.gap (depth + 1) ++ write L (depth + 1) x ++
          following L ']'.toNat depth (writeItems L (depth + 1) (y :: ys)) ++ r)).length_le
        rw [hskip] at hsuffix
        omega
      have hvalue := hread (depth + 1) (','.toNat :: rest) n (ends_append (g := []) (by simp) (Or.inl rfl)) hlength
      have hitems := ih h n (by
        simp only [List.length_append, List.length_cons, rest] at hlength ⊢
        omega)
      rw [items, hskip, hvalue, ok_bind]
      dsimp only
      rw [show ','.toNat :: rest = [] ++ ','.toNat :: rest from rfl, expect_append (by simp) (by rfl),
        if_neg (by decide)]
      dsimp only
      rw [expect_append (by simp) (by rfl), if_pos rfl]
      dsimp only
      rw [hitems, ok_bind]
      rfl

/-- the name and the colon of a member are taken, and the blanks after them -/
theorem member_write {ps : List Piece} (hps : ∀ q ∈ ps, q.Ok) {t : List Nat} {c : Nat} {s : List Nat}
    (ht : t = c :: s) (hc : isBlank c = false) (depth : Nat) (rest : List Nat) :
    ((expect '"'.toNat (L.gap depth ++ memberText L ps t ++ rest)).bind lexString).bind (fun p =>
      (expect ':'.toNat p.2).map fun u => (p.1, skipBlanks u)) = some (ps, t ++ rest) := by
  have htext : L.gap depth ++ memberText L ps t ++ rest =
      L.gap depth ++ '"'.toNat :: (ps.flatMap Piece.text ++ '"'.toNat :: ([] ++ ':'.toNat :: (L.colon ++ (t ++ rest)))) := by
    simp [memberText]
  rw [htext, expect_append (hL.gap depth) (by rfl), if_pos rfl, Option.bind_some, lexString_text hps, Option.bind_some]
  dsimp only
  rw [expect_append (by simp) (by rfl), if_pos rfl, Option.map_some, ht, List.cons_append, skipBlanks_append hL.colon hc]

theorem members_write {ps : List Piece} {x : Written} {kvs : List (List Piece × Written)}
    (h : ∀ p ∈ (ps, x) :: kvs, (∀ q ∈ p.1, q.Ok) ∧ p.2.Writable ∧ ReadBack (κ := κ) table L p.2) (depth : Nat)
    (r : List Nat) (n : Nat)
    (hn : 2 * (L.gap (depth + 1) ++ memberText L ps (write L (depth + 1) x) ++
      (following L '\x7d'.toNat depth (writeMembers L (depth + 1) kvs) ++ r)).length + 2 ≤ n) :
    members table (plain κ) n (L.gap (depth + 1) ++ memberText L ps (write L (depth + 1) x) ++
      (following L '\x7d'.toNat depth (writeMembers L (depth + 1) kvs) ++ r)) =
        .ok (mapMembers id Numeral.lexeme ((ps, x) :: kvs), r) := by
  induction kvs generalizing ps x n with
  | nil =>
    obtain ⟨hps, hx, hread⟩ := h (ps, x) List.mem_cons_self
    obtain ⟨c, s, hc, hblank, -⟩ := write_head (L := L) hx (depth + 1)
    cases n with
    | zero => omega
    | succ n =>
      have hmember := member_write hL hps hc hblank (depth + 1) (L.gap depth ++ '\x7d'.toNat :: r)
      obtain ⟨⟨ps', u⟩, hname, hu⟩ := Option.bind_eq_some_iff.mp hmember
      obtain ⟨u', hcolon, he⟩ := Option.map_eq_some_iff.mp hu
      obtain ⟨rfl, hskip⟩ := Prod.mk.inj he
      have hend : following L '\x7d'.toNat depth (writeMembers L (depth + 1) []) ++ r = L.gap depth ++ '\x7d'.toNat :: r := by
        simp [writeMembers, following]
      rw [hend] at hn ⊢
      simp only [memberText, List.length_append, List.length_cons] at hn
      have hvalue := hread (depth + 1) (L.gap depth ++ '\x7d'.toNat :: r) n
        (ends_append (hL.gap _) (Or.inr (Or.inr rfl))) (by simp only [List.length_append, List.length_cons]; omega)
      rw [members, hname]
      dsimp only
      rw [hcolon]
      dsimp only
      rw [hskip, hvalue, ok_bind]
      dsimp only
      rw [expect_append (hL.gap _) (by rfl), if_pos rfl]
      rfl
  | cons q kvs ih =>
    obtain ⟨ps₁, x₁⟩ := q
    obtain ⟨⟨hps, hx, hread⟩, hkvs⟩ := List.forall_mem_cons.mp h
    obtain ⟨c, s, hc, hblank, -⟩ := write_head (L := L) hx (depth + 1)
    cases n with
    | zero => omega
    | succ n =>
      let rest := L.gap (depth + 1) ++ memberText L ps₁ (write L (depth + 1) x₁) ++
        (following L '\x7d'.toNat depth (writeMembers L (depth + 1) kvs) ++ r)
      have hrest : following L '\x7d'.toNat depth (writeMembers L (depth + 1) ((ps₁, x₁) :: kvs)) ++ r
          = [] ++ ','.toNat :: rest := by
        simp [rest, writeMembers, following]
      have hmember := member_write hL hps hc hblank (depth + 1) ([] ++ ','.toNat :: rest)
      obtain ⟨⟨ps', u⟩, hname, hu⟩ := Option.bind_eq_some_iff.mp hmember
      obtain ⟨u', hcolon, he⟩ := Option.map_eq_some_iff.mp hu
      obtain ⟨rfl, hskip⟩ := Prod.mk.inj he
      rw [hrest] at hn ⊢
      have hlength : 2 * (write L (depth + 1) x ++ ([] ++ ','.toNat :: rest)).length + 1 ≤ n := by
        simp only [memberText, List.length_append, List.length_cons, List.length_nil] at hn ⊢
        omega
      have hvalue := hread (depth + 1) ([] ++ ','.toNat :: rest) n (ends_append (by simp) (Or.inl rfl)) hlength
      have hlast : 2 * rest.length + 2 ≤ n := by
        simp only [List.length_append, List.length_cons, List.length_nil] at hlength
        omega
      have hmembers := ih hkvs n hlast
      rw [members, hname]
      dsimp only
      rw [hcolon]
      dsimp only
      rw [hskip, hvalue, ok_bind]
      dsimp only
      rw [expect_append (by simp) (by rfl), if_neg (by decide)]
      dsimp only
      rw [expect_append (by simp) (by rfl), if_pos rfl]
      dsimp only
      rw [hmembers, ok_bind]
      rfl

/-- **A document is read back wherever it stands.** -/
theorem value_write {v : Written} (hv : v.Writable) : ReadBack (κ := κ) table L v := by
  induction v using Value.induct with
  | null => exact fun _ _ n _ hn => by cases n <;> [omega; rfl]
  | bool b => exact fun _ _ n _ hn => by cases n <;> [omega; (cases b <;> rfl)]
  | num l =>
    intro depth r n hr hn
    obtain ⟨c, s, htext, hc⟩ := Lexeme.Ok.text_head hv
    have hscalar := scalar_number (κ := κ) table hv hr
    cases n with
    | zero => omega
    | succ n =>
      rw [htext] at hscalar
      rw [write, htext]
      exact (value_number table hc n (s ++ r)).trans hscalar
  | text ps =>
    intro depth r n hr hn
    have hstring := lexString_text hv r
    cases n with
    | zero => omega
    | succ n =>
      have htext : write L depth (.text ps) ++ r = '"'.toNat :: (ps.flatMap Piece.text ++ '"'.toNat :: r) := by
        simp [write]
      rw [htext, value, if_neg (by decide), if_neg (by decide), if_pos rfl, hstring]
      rfl
  | array xs ih =>
    intro depth r n hr hn
    have hxs := writable_array.mp hv
    cases n with
    | zero => omega
    | succ n =>
      cases xs with
      | nil => rfl
      | cons x xs =>
        obtain ⟨c, s, hc, hblank, hne⟩ := write_head (L := L) (hxs x List.mem_cons_self) (depth + 1)
        have htext : write L depth (.array (x :: xs)) ++ r = '['.toNat :: (L.gap (depth + 1) ++ write L (depth + 1) x ++
            following L ']'.toNat depth (writeItems L (depth + 1) xs) ++ r) := by
          simp [write, writeItems, bracketed]
        have hitems := items_write table hL (fun y hy => ⟨hxs y hy, ih y hy (hxs y hy)⟩) depth r n (by
          rw [htext, List.length_cons] at hn
          omega)
        have hend : expect ']'.toNat (L.gap (depth + 1) ++ write L (depth + 1) x ++
            following L ']'.toNat depth (writeItems L (depth + 1) xs) ++ r) = none := by
          rw [List.append_assoc, List.append_assoc, hc, List.cons_append, expect_append (hL.gap _) hblank, if_neg hne]
        rw [htext, value, if_neg (by decide), if_pos rfl, hend]
        dsimp only
        rw [hitems, ok_bind]
        rfl
  | object kvs ih =>
    intro depth r n hr hn
    have hkvs := writable_object.mp hv
    cases n with
    | zero => omega
    | succ n =>
      cases kvs with
      | nil => rfl
      | cons p kvs =>
        obtain ⟨ps, x⟩ := p
        have htext : write L depth (.object ((ps, x) :: kvs)) ++ r = '\x7b'.toNat :: (L.gap (depth + 1) ++
            memberText L ps (write L (depth + 1) x) ++
              (following L '\x7d'.toNat depth (writeMembers L (depth + 1) kvs) ++ r)) := by
          simp [write, writeMembers, bracketed]
        have hmembers := members_write table hL
          (fun q hq => ⟨(hkvs q hq).1, (hkvs q hq).2, ih q hq (hkvs q hq).2⟩) depth r n (by
            rw [htext, List.length_cons] at hn
            omega)
        have hend : expect '\x7d'.toNat (L.gap (depth + 1) ++ memberText L ps (write L (depth + 1) x) ++
            (following L '\x7d'.toNat depth (writeMembers L (depth + 1) kvs) ++ r)) = none := by
          rw [List.append_assoc, memberText, List.cons_append, expect_append (hL.gap _) (by rfl), if_neg (by decide)]
        rw [htext, value, if_pos rfl, hend]
        dsimp only
        rw [hmembers, ok_bind]
        rfl

/-- **What is written is read back**, with blanks after it. -/
theorem document_write {v : Written} (hv : v.Writable) {g : List Nat} (hg : ∀ c ∈ g, isBlank c = true) :
    document table (plain κ) (write L 0 v ++ g) = .ok (v.tree κ) := by
  obtain ⟨c, s, hc, hblank, -⟩ := write_head (L := L) hv 0
  have hends : Ends g := fun d hd => Or.inr (Or.inr (Or.inr (hg d (List.mem_of_mem_head? hd))))
  have hskip : skipBlanks (write L 0 v ++ g) = write L 0 v ++ g := by
    rw [hc, List.cons_append]
    exact skipBlanks_append (g := []) (by simp) hblank
  have hvalue := value_write table hL hv 0 g (fuelFor (write L 0 v ++ g)) hends (by unfold fuelFor; omega)
  refine (document_ok table (plain κ)).mpr ⟨g, ?_, List.dropWhile_eq_nil_iff.mpr hg⟩
  rw [hskip]
  exact hvalue

end

end JsonText
