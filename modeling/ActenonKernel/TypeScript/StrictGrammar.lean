import ActenonKernel.TypeScript.StrictJson

/-!
# What the strict parser reads

The parser against the grammar: it reads a text exactly when the text is a document that is strict
and within the limit of the nesting, and it reads its value.

* `reading`           the value of a strict document: unique names, whole strings, safe integers;
* `stringLoop_eq`, `number_sound`, `number_complete`    the leaves;
* `value_ok`, `members_ok`, `items_ok`    one step of the parser, production by production;
* `value_sound`       what is read is a strict document;
* `value_complete`    a strict document is read, unless a number runs on;
* `parseText_ok`      both for a text, with the limit of the nesting.
-/

set_option linter.unusedSectionVars false

namespace Actenon

namespace TypeScript

namespace StrictJson

open JsonText (ParseTree Lexeme Literal codes lexString lexNumber lexDigits lexSign isDigit findLiteral literals
  digitsValue scalar plain nestingItems nestingMembers skipBlanks expect lexString_induct)
open Fallible

/-! ## strict documents -/

/-- no half of a pair stands alone -/
def whole (us : List Nat) : Bool := (Utf16.codePoints us).all fun c => !Utf16.isHalf c

/-- the names of members -/
def names {β : Type} (kvs : List (List JsonText.Piece × β)) : List (List Nat) := kvs.map fun p => codes p.1

section
variable {κ : Type}

mutual

/-- the value of a strict document -/
def reading : ParseTree κ → Option Parsed
  | .null => some .null
  | .bool b => some (.bool b)
  | .num (.lexeme l) => if l.tail = [] ∧ l.value.natAbs ≤ maxSafeInteger then some (.num l.value) else none
  | .num (.constant _) => none
  | .text ps => if whole (codes ps) then some (.text (codes ps)) else none
  | .array xs => (readingItems xs).map .array
  | .object kvs => if (names kvs).Nodup then (readingMembers kvs).map .object else none

def readingItems : List (ParseTree κ) → Option (List Parsed)
  | [] => some []
  | x :: xs => do
    let v ← reading x
    let vs ← readingItems xs
    return v :: vs

def readingMembers : List (List JsonText.Piece × ParseTree κ) → Option (List (List Nat × Parsed))
  | [] => some []
  | (ps, x) :: kvs =>
    if whole (codes ps) then do
      let v ← reading x
      let vs ← readingMembers kvs
      return (codes ps, v) :: vs
    else none

end

end

/-! ## blanks and strings -/

theorem ws_eq (s : List Nat) : ws s = skipBlanks s := rfl

theorem next_ws (c : Nat) (s : List Nat) : next c (ws s) = expect c s := by
  unfold JsonText.expect
  rw [ws_eq]
  cases skipBlanks s <;> rfl

/-- **The loop finds the halves that stand alone.** -/
theorem hasLoneSurrogate_eq (us : List Nat) : hasLoneSurrogate us = !whole us := by
  have hhalf : ∀ u, Utf16.isHalf u = (Utf16.isHigh u || Utf16.isLow u) := by
    intro u
    rw [Bool.eq_iff_iff, Bool.or_eq_true, Utf16.isHalf_iff, Utf16.isHigh_iff, Utf16.isLow_iff]
    omega
  have hjoin : ∀ {u v}, Utf16.isHigh u = true → Utf16.isLow v = true → Utf16.isHalf (Utf16.join u v) = false := by
    intro u v hu hv
    rw [Bool.eq_false_iff, Ne, Utf16.isHalf_iff]
    unfold Utf16.join
    omega
  unfold whole
  induction us using hasLoneSurrogate.induct with
  | case1 => rfl
  | case2 c =>
    rw [hasLoneSurrogate, Utf16.codePoints, List.all_cons, List.all_nil, Bool.and_true, Bool.not_not, hhalf]
  | case3 c d s hhigh hlow ih =>
    rw [hasLoneSurrogate, if_pos hhigh, if_pos hlow, ih, Utf16.codePoints, if_pos ⟨hhigh, hlow⟩, List.all_cons,
      hjoin hhigh hlow]
    rfl
  | case4 c d s hhigh hlow =>
    rw [hasLoneSurrogate, if_pos hhigh, if_neg hlow, Utf16.codePoints, if_neg fun h => hlow h.2, List.all_cons,
      hhalf, hhigh]
    rfl
  | case5 c d s hhigh hlow =>
    rw [hasLoneSurrogate, if_neg hhigh, if_pos hlow, Utf16.codePoints, if_neg fun h => hhigh h.1, List.all_cons,
      hhalf, hlow, Bool.or_true]
    rfl
  | case6 c d s hhigh hlow ih =>
    rw [hasLoneSurrogate, if_neg hhigh, if_neg hlow, ih, Utf16.codePoints, if_neg fun h => hhigh h.1,
      List.all_cons, hhalf, Bool.eq_false_iff.mpr hhigh, Bool.eq_false_iff.mpr hlow]
    rfl

section
variable (length : Nat)

theorem toOption_map {ε α β : Type} (x : Except ε α) (f : α → β) : (x.map f).toOption = x.toOption.map f := by
  cases x <;> rfl

/-- **The loop reads the codes of a string.** -/
theorem stringLoop_eq (s : List Nat) :
    (stringLoop length s).toOption = (lexString s).map fun p => (codes p.1, p.2) := by
  induction s using lexString_induct with
  | nil => rfl
  | quote s =>
    rw [stringLoop.eq_def, JsonText.lexString_quote]
    rfl
  | control c s hcontrol =>
    have hquote : c ≠ 0x22 := by omega
    rw [stringLoop.eq_def, JsonText.lexString_control hcontrol]
    dsimp only
    rw [if_neg hquote, if_pos hcontrol]
    rfl
  | slash => rfl
  | unit s ih =>
    rw [stringLoop.eq_def, JsonText.lexString_unit]
    dsimp only
    rw [if_neg (by decide), if_neg (by decide), if_pos (show '\\'.toNat = 0x5c from rfl), if_pos rfl]
    rcases s with _ | ⟨a, _ | ⟨b, _ | ⟨c, _ | ⟨d, r⟩⟩⟩⟩
    · rfl
    · rfl
    · rfl
    · rfl
    · have hunit : JsonText.unitAt (a :: b :: c :: d :: r) = (JsonText.hex4 a b c d).map fun n => (n, r) := rfl
      rw [hunit] at ih ⊢
      dsimp only
      cases hn : JsonText.hex4 a b c d with
      | none => rfl
      | some n =>
        rw [hn] at ih
        dsimp only [Option.map_some, Option.bind_some]
        rw [toOption_map, ih n r rfl, Option.map_map, Option.map_map]
        rfl
  | escape e s hunit ih =>
    rw [stringLoop.eq_def, JsonText.lexString_escape hunit]
    dsimp only
    rw [if_neg (by decide), if_neg (by decide), if_pos (show '\\'.toNat = 0x5c from rfl), if_neg hunit]
    cases JsonText.escapeOf e with
    | none => rfl
    | some c =>
      dsimp only [Option.bind_some]
      rw [toOption_map, ih, Option.map_map, Option.map_map]
      rfl
  | raw c s hquote hcontrol hslash ih =>
    rw [stringLoop.eq_def, JsonText.lexString_raw hquote hcontrol hslash]
    dsimp only
    rw [if_neg (show c ≠ 0x22 from hquote), if_neg hcontrol, if_neg (show c ≠ 0x5c from hslash), toOption_map, ih,
      Option.map_map, Option.map_map]
    rfl

theorem string_ok {s r out : List Nat} :
    string length s = .ok (out, r) ↔ ∃ ps, lexString s = some (ps, r) ∧ codes ps = out ∧ whole out = true := by
  have hloop := stringLoop_eq length s
  unfold string
  cases hresult : stringLoop length s with
  | error e =>
    rw [hresult] at hloop
    refine ⟨fun h => (nomatch h), fun ⟨ps, hps, _⟩ => ?_⟩
    rw [hps] at hloop
    cases hloop
  | ok p =>
    obtain ⟨out', r'⟩ := p
    rw [hresult] at hloop
    obtain ⟨⟨ps, r''⟩, hps, he⟩ := Option.map_eq_some_iff.mp hloop.symm
    cases he
    rw [ok_bind, hps]
    dsimp only
    rw [hasLoneSurrogate_eq]
    constructor
    · intro h
      split at h
      · cases h
      · rename_i hwhole
        cases h
        exact ⟨ps, rfl, rfl, by simpa using hwhole⟩
    · rintro ⟨ps', hps', rfl, hwhole⟩
      cases hps'
      rw [hwhole]
      rfl

end

/-! ## numbers -/

theorem dropWhile_take (p : Nat → Bool) (s : List Nat) (k : Nat) :
    (s.take k).dropWhile p = (s.dropWhile p).take (k - (s.takeWhile p).length) := by
  induction s generalizing k with
  | nil => simp
  | cons c s ih =>
    cases k with
    | zero => simp
    | succ k =>
      rw [List.take_succ_cons, List.dropWhile_cons, List.dropWhile_cons, List.takeWhile_cons]
      cases p c with
      | false => rfl
      | true =>
        rw [if_pos rfl, if_pos rfl, if_pos rfl, ih, List.length_cons, Nat.add_sub_add_right]

/-- digits in a window are digits of the text -/
theorem lexDigits_take (s : List Nat) {k : Nat} (hk : 0 < k) :
    lexDigits (s.take k) = (lexDigits s).map fun p => (p.1.take k, p.2.take (k - p.1.length)) := by
  obtain ⟨k, rfl⟩ := Nat.exists_eq_add_of_lt hk
  rw [Nat.zero_add]
  cases s with
  | nil => rfl
  | cons c s =>
    rw [List.take_succ_cons]
    unfold JsonText.lexDigits
    dsimp only
    split
    · dsimp only [Option.map_some]
      rw [List.take_succ_cons, List.take_nil, List.length_singleton, Nat.add_sub_cancel]
    · split
      · dsimp only [Option.map_some]
        rw [List.take_succ_cons, List.take_takeWhile, dropWhile_take, List.length_cons, Nat.add_sub_add_right]
      · rfl

theorem lexDigits_append {s ds r : List Nat} (h : lexDigits s = some (ds, r)) : s = ds ++ r := by
  unfold JsonText.lexDigits at h
  split at h
  · cases h
  · split at h
    · rename_i hzero
      cases h
      rw [hzero]
      rfl
    · split at h
      · cases h
        rw [List.cons_append, List.takeWhile_append_dropWhile]
      · cases h

theorem lexSign_append (s : List Nat) :
    s = (if (lexSign s).1 then ['-'.toNat] else []) ++ (lexSign s).2 := by
  unfold JsonText.lexSign
  split
  · rfl
  · split
    · rename_i hminus
      rw [hminus]
      rfl
    · rfl

theorem lexSign_take (s : List Nat) : ∃ k, 399 ≤ k ∧ lexSign (s.take 400) = ((lexSign s).1, (lexSign s).2.take k) ∧
    k + (if (lexSign s).1 then ['-'.toNat] else []).length = 400 := by
  cases s with
  | nil => exact ⟨400, by omega, rfl, rfl⟩
  | cons c s =>
    rw [List.take_succ_cons]
    unfold JsonText.lexSign
    dsimp only
    split
    · exact ⟨399, by omega, rfl, rfl⟩
    · exact ⟨400, by omega, rfl, rfl⟩

theorem foldl_digits_ge (cs : List Nat) (n : Nat) :
    n * 10 ^ cs.length ≤ cs.foldl (fun n c => 10 * n + (c - 48)) n := by
  induction cs generalizing n with
  | nil => simp
  | cons c cs ih =>
    rw [List.foldl_cons, List.length_cons, Nat.pow_succ, Nat.mul_comm (10 ^ _), ← Nat.mul_assoc, Nat.mul_comm n]
    exact Nat.le_trans (Nat.mul_le_mul_right _ (Nat.le_add_right _ _)) (ih _)

/-- a number of many digits is large -/
theorem digitsValue_ge {s ds r : List Nat} (h : lexDigits s = some (ds, r)) (hds : 1 < ds.length) :
    10 ^ (ds.length - 1) ≤ digitsValue ds := by
  unfold JsonText.lexDigits at h
  split at h
  · cases h
  · split at h
    · cases h
      exact absurd hds (by decide)
    · rename_i c t hzero
      split at h
      · rename_i hdigit
        cases h
        have hc : 48 ≤ c ∧ c ≤ 57 := decide_eq_true_iff.mp hdigit
        have hpos : 1 ≤ c - 48 := by
          have hne : c ≠ 48 := hzero
          omega
        unfold JsonText.digitsValue
        rw [List.foldl_cons, Nat.mul_zero, Nat.zero_add, List.length_cons, Nat.add_sub_cancel]
        refine Nat.le_trans ?_ (foldl_digits_ge _ _)
        exact Nat.le_mul_of_pos_left _ hpos
      · cases h

theorem value_natAbs (neg : Bool) (ds : List Nat) : (Lexeme.value ⟨neg, ds, []⟩).natAbs = digitsValue ds := by
  cases neg with
  | false => exact Int.natAbs_natCast _
  | true => exact (Int.natAbs_neg _).trans (Int.natAbs_natCast _)

/-- no safe integer has 398 digits or more -/
theorem digits_short {s ds r : List Nat} {neg : Bool} (h : lexDigits s = some (ds, r))
    (hsafe : (Lexeme.value ⟨neg, ds, []⟩).natAbs ≤ maxSafeInteger) : ds.length < 398 := by
  by_contra hlong
  have hge := digitsValue_ge h (by omega)
  have hpow : 10 ^ 16 ≤ 10 ^ (ds.length - 1) := Nat.pow_le_pow_right (by decide) (by omega)
  have hmax : maxSafeInteger < 10 ^ 16 := by decide
  rw [value_natAbs] at hsafe
  omega

section
variable (length : Nat)

/-- **A number is read from the whole text**, whatever the window. -/
theorem number_ok {s r : List Nat} {n : Int} : number length s = .ok (n, r) ↔
    ∃ ds, lexDigits (lexSign s).2 = some (ds, r) ∧ isFractionOrExponent r = false ∧
      Lexeme.value ⟨(lexSign s).1, ds, []⟩ = n ∧ n.natAbs ≤ maxSafeInteger := by
  obtain ⟨k, hk, hsign, hlength⟩ := lexSign_take s
  unfold number
  dsimp only
  rw [hsign]
  dsimp only
  cases hdigits : lexDigits (lexSign s).2 with
  | none =>
    rw [lexDigits_take _ (by omega), hdigits]
    exact ⟨fun h => (nomatch h), fun ⟨_, h, _⟩ => (nomatch h)⟩
  | some p =>
    obtain ⟨ds, r'⟩ := p
    have hwindow : lexDigits ((lexSign s).2.take k) = some (ds.take k, r'.take (k - ds.length)) := by
      rw [lexDigits_take _ (by omega), hdigits]
      rfl
    rw [hwindow]
    dsimp only
    by_cases hlong : k ≤ ds.length
    · -- neither the digits in the window nor all of them are a safe integer
      have htake : (ds.take k).length = k := List.length_take_of_le hlong
      constructor
      · intro h
        split at h
        · cases h
        · split at h
          · rename_i hsafe
            have hshort := digits_short hwindow hsafe
            omega
          · cases h
      · rintro ⟨ds', hds', -, rfl, hsafe⟩
        cases hds'
        have hshort := digits_short hdigits hsafe
        omega
    · have hds : ds.take k = ds := List.take_of_length_le (by omega)
      have hhead : isFractionOrExponent (r'.take (k - ds.length)) = isFractionOrExponent r' := by
        unfold isFractionOrExponent
        rw [List.head?_take, if_neg (by omega)]
      have hrest : s.drop ((s.take 400).length - (r'.take (k - ds.length)).length) = r' := by
        have hs := lexSign_append s
        rw [lexDigits_append hdigits, ← List.append_assoc] at hs
        have hslength := congrArg List.length hs
        rw [List.length_append, List.length_append] at hslength
        rw [List.length_take, List.length_take]
        rw [show min 400 s.length - min (k - ds.length) r'.length
            = ((if (lexSign s).1 then ['-'.toNat] else []) ++ ds).length by rw [List.length_append]; omega]
        exact (congrArg (List.drop _) hs).trans List.drop_left
      rw [hds, hhead, hrest]
      constructor
      · intro h
        split at h
        · cases h
        · rename_i hfraction
          split at h
          · rename_i hsafe
            cases h
            exact ⟨ds, rfl, Bool.eq_false_iff.mpr hfraction, rfl, hsafe⟩
          · cases h
      · rintro ⟨ds', hds', hfraction, rfl, hsafe⟩
        cases hds'
        rw [hfraction, if_neg Bool.false_ne_true, if_pos hsafe]

theorem fraction_plain {s : List Nat} (h : isFractionOrExponent s = false) :
    JsonText.lexFraction s = ([], s) ∧ JsonText.lexExponent s = ([], s) := by
  cases s with
  | nil => exact ⟨rfl, rfl⟩
  | cons c s =>
    unfold isFractionOrExponent at h
    rw [List.head?_cons] at h
    have hc : ¬ (some c = some '.'.toNat ∨ some c = some 'e'.toNat ∨ some c = some 'E'.toNat) := of_decide_eq_false h
    rw [not_or, not_or] at hc
    refine ⟨if_neg fun hdot => hc.1 (congrArg some hdot.1), if_neg fun hletter => ?_⟩
    rcases hletter.1 with he | he
    · exact hc.2.1 (congrArg some he)
    · exact hc.2.2 (congrArg some he)

theorem fraction_nil {s : List Nat} (h : (JsonText.lexFraction s).1 = []) : (JsonText.lexFraction s).2 = s := by
  cases s with
  | nil => rfl
  | cons c s =>
    unfold JsonText.lexFraction at h ⊢
    dsimp only at h ⊢
    split
    · rename_i hfraction
      rw [if_pos hfraction] at h
      cases h
    · rfl

theorem exponent_nil {s : List Nat} (h : (JsonText.lexExponent s).1 = []) : (JsonText.lexExponent s).2 = s := by
  cases s with
  | nil => rfl
  | cons c s =>
    unfold JsonText.lexExponent at h ⊢
    dsimp only at h ⊢
    split
    · rename_i hexponent
      rw [if_pos hexponent] at h
      cases h
    · rfl

theorem number_sound {s r : List Nat} {n : Int} (h : number length s = .ok (n, r)) :
    ∃ l, lexNumber s = some (l, r) ∧ (l.tail = [] ∧ l.value.natAbs ≤ maxSafeInteger) ∧ l.value = n := by
  obtain ⟨ds, hdigits, hend, rfl, hsafe⟩ := (number_ok length).mp h
  obtain ⟨hfraction, hexponent⟩ := fraction_plain hend
  refine ⟨⟨(lexSign s).1, ds, []⟩, ?_, ⟨rfl, hsafe⟩, rfl⟩
  unfold JsonText.lexNumber
  rw [hdigits, Option.map_some]
  dsimp only
  rw [hfraction]
  dsimp only
  rw [hexponent]
  rfl

theorem number_complete {s r : List Nat} {l : Lexeme} (h : lexNumber s = some (l, r))
    (hl : l.tail = [] ∧ l.value.natAbs ≤ maxSafeInteger) (hend : isFractionOrExponent r = false) :
    number length s = .ok (l.value, r) := by
  unfold JsonText.lexNumber at h
  obtain ⟨⟨ds, t⟩, hdigits, he⟩ := Option.map_eq_some_iff.mp h
  cases he
  obtain ⟨hfraction, hexponent⟩ := List.append_eq_nil_iff.mp hl.1
  dsimp only at hfraction hexponent hend hdigits ⊢
  have ht : (JsonText.lexExponent (JsonText.lexFraction t).2).2 = t :=
    (exponent_nil hexponent).trans (fraction_nil hfraction)
  rw [ht] at hend ⊢
  exact (number_ok length).mpr ⟨ds, hdigits, hend, rfl, hl.2⟩

/-! ## words -/

theorem findLiteral_head {β : Type} {table : List (Literal β)} {c : Nat} (h : ∀ l ∈ table, l.head ≠ c) (s : List Nat) :
    findLiteral table (c :: s) = none := by
  unfold JsonText.findLiteral
  refine List.findSome?_eq_none_iff.mpr fun l hl => ?_
  have hne : (l.head == c) = false := beq_eq_false_iff_ne.mpr (h l hl)
  rw [List.isPrefixOf_cons_cons, hne]
  rfl

/-- `c === "-" || (c >= "0" && c <= "9")` -/
abbrev StartsNumber (c : Nat) : Prop := c = '-'.toNat ∨ '0'.toNat ≤ c ∧ c ≤ '9'.toNat

theorem literals_number {c : Nat} (hc : StartsNumber c) (s : List Nat) : findLiteral literals (c :: s) = none := by
  have hlt : c < 58 := by
    rcases hc with rfl | hc
    · decide
    · exact Nat.lt_succ_of_le hc.2
  refine findLiteral_head (fun l hl => ?_) s
  have hhead : 58 ≤ l.head := by
    revert l
    decide
  omega

theorem lexNumber_word {c : Nat} (hc : ¬ StartsNumber c) (s : List Nat) : lexNumber (c :: s) = none := by
  have hsign : lexSign (c :: s) = (false, c :: s) := if_neg fun h => hc (Or.inl h)
  have hdigit : ¬ isDigit c = true := fun h => hc (Or.inr (of_decide_eq_true h))
  have hdigits : lexDigits (c :: s) = none := by
    unfold JsonText.lexDigits
    dsimp only
    rw [if_neg fun h => hc (Or.inr (by rw [h]; decide)), if_neg hdigit]
  unfold JsonText.lexNumber
  rw [hsign]
  dsimp only
  rw [hdigits]
  rfl

section
variable {κ : Type} (table : List (Literal κ))

theorem scalar_number {c : Nat} (hc : StartsNumber c) {s r : List Nat} {l : Lexeme}
    (h : lexNumber (c :: s) = some (l, r)) :
    scalar table (plain κ) (c :: s) = .ok (.num (.lexeme l), r) := by
  unfold JsonText.scalar
  rw [literals_number hc, h]
  rfl

theorem words_sound {s r : List Nat} {v : Parsed} (h : words length s = .ok (v, r)) :
    ∃ t, scalar table (plain κ) s = .ok (t, r) ∧ reading t = some v ∧ t.nesting = 1 := by
  unfold words at h
  unfold JsonText.scalar
  cases hword : findLiteral literals s with
  | none =>
    rw [hword] at h
    cases h
  | some p =>
    obtain ⟨w, r'⟩ := p
    rw [hword] at h
    cases w with
    | none =>
      cases h
      exact ⟨.null, rfl, rfl, rfl⟩
    | some b =>
      cases h
      exact ⟨.bool b, rfl, rfl, rfl⟩

theorem words_complete {c : Nat} (hc : ¬ StartsNumber c) {s r : List Nat} {t : ParseTree κ} {v : Parsed}
    (h : scalar table (plain κ) (c :: s) = .ok (t, r)) (hv : reading t = some v) :
    words length (c :: s) = .ok (v, r) := by
  unfold JsonText.scalar at h
  unfold words
  cases hword : findLiteral literals (c :: s) with
  | some p =>
    obtain ⟨w, r'⟩ := p
    rw [hword] at h
    cases h
    cases w with
    | none =>
      cases hv
      rfl
    | some b =>
      cases hv
      rfl
  | none =>
    rw [hword, lexNumber_word hc] at h
    dsimp only at h
    split at h
    · cases h
      cases hv
    · cases h

theorem number_scalar {c : Nat} (hc : StartsNumber c) {s r : List Nat} {t : ParseTree κ} {v : Parsed}
    (h : scalar table (plain κ) (c :: s) = .ok (t, r)) (hv : reading t = some v) :
    ∃ l, lexNumber (c :: s) = some (l, r) ∧ (l.tail = [] ∧ l.value.natAbs ≤ maxSafeInteger) ∧ v = .num l.value := by
  unfold JsonText.scalar at h
  rw [literals_number hc] at h
  dsimp only at h
  cases hnumber : lexNumber (c :: s) with
  | some p =>
    obtain ⟨l, r'⟩ := p
    rw [hnumber] at h
    cases h
    unfold reading at hv
    split at hv
    · rename_i hl
      cases hv
      exact ⟨l, rfl, hl, rfl⟩
    · cases hv
  | none =>
    rw [hnumber] at h
    dsimp only at h
    split at h
    · cases h
      cases hv
    · cases h

/-! ## the productions -/

/-- what a value starts with, and how its parts are read -/
inductive ValueRead (n depth : Nat) : List Nat → Parsed → List Nat → Prop
  | emptyObject {s r} (hend : expect '\x7d'.toNat s = some r) : ValueRead n depth ('\x7b'.toNat :: s) (.object []) r
  | object {s r vs} (hend : expect '\x7d'.toNat s = none) (hmembers : members length n (depth + 1) [] (ws s) = .ok (vs, r)) :
    ValueRead n depth ('\x7b'.toNat :: s) (.object vs) r
  | emptyArray {s r} (hend : expect ']'.toNat s = some r) : ValueRead n depth ('['.toNat :: s) (.array []) r
  | array {s r vs} (hend : expect ']'.toNat s = none) (hitems : items length n (depth + 1) (ws s) = .ok (vs, r)) :
    ValueRead n depth ('['.toNat :: s) (.array vs) r
  | text {s r out} (hstring : string length s = .ok (out, r)) : ValueRead n depth ('"'.toNat :: s) (.text out) r
  | number {c s r m} (hc : StartsNumber c) (hnumber : number length (c :: s) = .ok (m, r)) :
    ValueRead n depth (c :: s) (.num m) r
  | words {c s r v} (hc : c ≠ '\x7b'.toNat ∧ c ≠ '['.toNat ∧ c ≠ '"'.toNat) (hnumber : ¬ StartsNumber c)
    (hwords : words length (c :: s) = .ok (v, r)) : ValueRead n depth (c :: s) v r

/-- a last member under a new name, or such a member and others -/
inductive MembersRead (n depth : Nat) (seen : List (List Nat)) (s : List Nat) : List (List Nat × Parsed) → List Nat → Prop
  | last {s₀ s₁ s₂ s₃ r key v} (hquote : expect '"'.toNat s = some s₀) (hstring : string length s₀ = .ok (key, s₁))
    (hnew : key ∉ seen) (hcolon : expect ':'.toNat s₁ = some s₂) (hvalue : value length n depth (ws s₂) = .ok (v, s₃))
    (hend : expect '\x7d'.toNat s₃ = some r) : MembersRead n depth seen s [(key, v)] r
  | more {s₀ s₁ s₂ s₃ s₄ r key v vs} (hquote : expect '"'.toNat s = some s₀) (hstring : string length s₀ = .ok (key, s₁))
    (hnew : key ∉ seen) (hcolon : expect ':'.toNat s₁ = some s₂) (hvalue : value length n depth (ws s₂) = .ok (v, s₃))
    (hend : expect '\x7d'.toNat s₃ = none) (hcomma : expect ','.toNat s₃ = some s₄)
    (hmembers : members length n depth (key :: seen) s₄ = .ok (vs, r)) : MembersRead n depth seen s ((key, v) :: vs) r

/-- a last item, or an item and others -/
inductive ItemsRead (n depth : Nat) (s : List Nat) : List Parsed → List Nat → Prop
  | last {s₁ r v} (hvalue : value length n depth (ws s) = .ok (v, s₁)) (hend : expect ']'.toNat s₁ = some r) :
    ItemsRead n depth s [v] r
  | more {s₁ s₂ r v vs} (hvalue : value length n depth (ws s) = .ok (v, s₁)) (hend : expect ']'.toNat s₁ = none)
    (hcomma : expect ','.toNat s₁ = some s₂) (hitems : items length n depth s₂ = .ok (vs, r)) :
    ItemsRead n depth s (v :: vs) r

theorem StartsNumber.other {c : Nat} (hc : StartsNumber c) : c ≠ '\x7b'.toNat ∧ c ≠ '['.toNat ∧ c ≠ '"'.toNat := by
  rcases hc with rfl | ⟨hlow, hhigh⟩
  · decide
  · have hlow' : 48 ≤ c := hlow
    have hhigh' : c ≤ 57 := hhigh
    refine ⟨fun h => ?_, fun h => ?_, fun h => ?_⟩
    · have hc : c = 123 := h
      omega
    · have hc : c = 91 := h
      omega
    · have hc : c = 34 := h
      omega

theorem value_ok {n depth : Nat} {s r : List Nat} {v : Parsed} :
    value length (n + 1) depth s = .ok (v, r) ↔ depth ≤ maxJsonDepth ∧ ValueRead length n depth s v r := by
  constructor
  · intro h
    unfold value at h
    by_cases hdepth : depth > maxJsonDepth
    · rw [if_pos hdepth] at h
      cases h
    · rw [if_neg hdepth] at h
      refine ⟨Nat.le_of_not_gt hdepth, ?_⟩
      cases s with
      | nil => cases h
      | cons c s =>
        dsimp only at h
        rw [next_ws, next_ws] at h
        by_cases hobject : c = '\x7b'.toNat
        · subst hobject
          rw [if_pos rfl] at h
          cases hend : expect '\x7d'.toNat s with
          | some r' =>
            rw [hend] at h
            cases h
            exact .emptyObject hend
          | none =>
            rw [hend] at h
            obtain ⟨⟨vs, r'⟩, hmembers, h⟩ := bind_eq_ok.mp h
            cases h
            exact .object hend hmembers
        · rw [if_neg hobject] at h
          by_cases harray : c = '['.toNat
          · subst harray
            rw [if_pos rfl] at h
            cases hend : expect ']'.toNat s with
            | some r' =>
              rw [hend] at h
              cases h
              exact .emptyArray hend
            | none =>
              rw [hend] at h
              obtain ⟨⟨vs, r'⟩, hitems, h⟩ := bind_eq_ok.mp h
              cases h
              exact .array hend hitems
          · rw [if_neg harray] at h
            by_cases hquote : c = '"'.toNat
            · subst hquote
              rw [if_pos rfl] at h
              obtain ⟨⟨out, r'⟩, hstring, h⟩ := bind_eq_ok.mp h
              cases h
              exact .text hstring
            · rw [if_neg hquote] at h
              by_cases hnumber : StartsNumber c
              · rw [if_pos hnumber] at h
                obtain ⟨⟨m, r'⟩, hm, h⟩ := bind_eq_ok.mp h
                cases h
                exact .number hnumber hm
              · rw [if_neg hnumber] at h
                exact .words ⟨hobject, harray, hquote⟩ hnumber h
  · rintro ⟨hdepth, hread⟩
    unfold value
    rw [if_neg (Nat.not_lt.mpr hdepth)]
    cases hread with
    | emptyObject hend =>
      dsimp only
      rw [if_pos rfl, next_ws, hend]
    | object hend hmembers =>
      dsimp only
      rw [if_pos rfl, next_ws, hend]
      dsimp only
      rw [hmembers]
      rfl
    | emptyArray hend =>
      dsimp only
      rw [if_neg (by decide), if_pos rfl, next_ws, hend]
    | array hend hitems =>
      dsimp only
      rw [if_neg (by decide), if_pos rfl, next_ws, hend]
      dsimp only
      rw [hitems]
      rfl
    | text hstring =>
      dsimp only
      rw [if_neg (by decide), if_neg (by decide), if_pos rfl, hstring]
      rfl
    | number hc hnumber =>
      obtain ⟨hobject, harray, hquote⟩ := hc.other
      dsimp only
      rw [if_neg hobject, if_neg harray, if_neg hquote, if_pos hc, hnumber]
      rfl
    | words hc hnumber hwords =>
      dsimp only
      rw [if_neg hc.1, if_neg hc.2.1, if_neg hc.2.2, if_neg hnumber, hwords]

theorem members_ok {n depth : Nat} {seen : List (List Nat)} {s r : List Nat} {vs : List (List Nat × Parsed)} :
    members length (n + 1) depth seen s = .ok (vs, r) ↔ MembersRead length n depth seen s vs r := by
  unfold members
  rw [next_ws]
  constructor
  · intro h
    cases hquote : expect '"'.toNat s with
    | none =>
      rw [hquote] at h
      cases h
    | some s₀ =>
      rw [hquote] at h
      obtain ⟨⟨key, s₁⟩, hstring, h⟩ := bind_eq_ok.mp h
      dsimp only at h
      split at h
      · cases h
      · rename_i hseen
        have hnew : key ∉ seen := fun hmem => hseen (List.contains_iff_mem.mpr hmem)
        rw [next_ws] at h
        cases hcolon : expect ':'.toNat s₁ with
        | none =>
          rw [hcolon] at h
          cases h
        | some s₂ =>
          rw [hcolon] at h
          obtain ⟨⟨v, s₃⟩, hvalue, h⟩ := bind_eq_ok.mp h
          dsimp only at h
          rw [next_ws, next_ws] at h
          cases hend : expect '\x7d'.toNat s₃ with
          | some r' =>
            rw [hend] at h
            cases h
            exact .last hquote hstring hnew hcolon hvalue hend
          | none =>
            rw [hend] at h
            dsimp only at h
            cases hcomma : expect ','.toNat s₃ with
            | none =>
              rw [hcomma] at h
              cases h
            | some s₄ =>
              rw [hcomma] at h
              obtain ⟨⟨vs', r'⟩, hmembers, h⟩ := bind_eq_ok.mp h
              cases h
              exact .more hquote hstring hnew hcolon hvalue hend hcomma hmembers
  · intro h
    cases h with
    | last hquote hstring hnew hcolon hvalue hend =>
      rw [hquote]
      dsimp only
      rw [hstring, ok_bind]
      dsimp only
      rw [if_neg fun h => hnew (List.contains_iff_mem.mp h), next_ws, hcolon]
      dsimp only
      rw [hvalue, ok_bind]
      dsimp only
      rw [next_ws, hend]
    | more hquote hstring hnew hcolon hvalue hend hcomma hmembers =>
      rw [hquote]
      dsimp only
      rw [hstring, ok_bind]
      dsimp only
      rw [if_neg fun h => hnew (List.contains_iff_mem.mp h), next_ws, hcolon]
      dsimp only
      rw [hvalue, ok_bind]
      dsimp only
      rw [next_ws, hend]
      dsimp only
      rw [next_ws, hcomma]
      dsimp only
      rw [hmembers]
      rfl

theorem items_ok {n depth : Nat} {s r : List Nat} {vs : List Parsed} :
    items length (n + 1) depth s = .ok (vs, r) ↔ ItemsRead length n depth s vs r := by
  unfold items
  constructor
  · intro h
    obtain ⟨⟨v, s₁⟩, hvalue, h⟩ := bind_eq_ok.mp h
    dsimp only at h
    rw [next_ws, next_ws] at h
    cases hend : expect ']'.toNat s₁ with
    | some r' =>
      rw [hend] at h
      cases h
      exact .last hvalue hend
    | none =>
      rw [hend] at h
      dsimp only at h
      cases hcomma : expect ','.toNat s₁ with
      | none =>
        rw [hcomma] at h
        cases h
      | some s₂ =>
        rw [hcomma] at h
        obtain ⟨⟨vs', r'⟩, hitems, h⟩ := bind_eq_ok.mp h
        cases h
        exact .more hvalue hend hcomma hitems
  · intro h
    cases h with
    | last hvalue hend =>
      rw [hvalue, ok_bind]
      dsimp only
      rw [next_ws, hend]
    | more hvalue hend hcomma hitems =>
      rw [hvalue, ok_bind]
      dsimp only
      rw [next_ws, hend]
      dsimp only
      rw [next_ws, hcomma]
      dsimp only
      rw [hitems]
      rfl

/-! ## values -/

theorem reading_text {ps : List JsonText.Piece} {v : Parsed} :
    reading (.text ps : ParseTree κ) = some v ↔ whole (codes ps) = true ∧ .text (codes ps) = v := by
  rw [reading]
  split
  · rename_i hwhole
    rw [Option.some.injEq, hwhole, eq_self_iff_true, true_and]
  · rename_i hwhole
    exact ⟨fun h => (nomatch h), fun h => absurd h.1 hwhole⟩

theorem reading_array {xs : List (ParseTree κ)} {v : Parsed} :
    reading (.array xs) = some v ↔ ∃ vs, readingItems xs = some vs ∧ .array vs = v := by
  rw [reading, Option.map_eq_some_iff]

theorem reading_object {kvs : List (List JsonText.Piece × ParseTree κ)} {v : Parsed} :
    reading (.object kvs) = some v ↔ (names kvs).Nodup ∧ ∃ vs, readingMembers kvs = some vs ∧ .object vs = v := by
  rw [reading]
  split
  · rename_i hnodup
    rw [Option.map_eq_some_iff]
    exact ⟨fun h => ⟨hnodup, h⟩, fun h => h.2⟩
  · rename_i hnodup
    exact ⟨fun h => (nomatch h), fun h => absurd h.1 hnodup⟩

theorem readingMembers_cons {ps : List JsonText.Piece} {x : ParseTree κ} {kvs : List (List JsonText.Piece × ParseTree κ)}
    {vs : List (List Nat × Parsed)} : readingMembers ((ps, x) :: kvs) = some vs ↔
      whole (codes ps) = true ∧ ∃ v, reading x = some v ∧ ∃ vs', readingMembers kvs = some vs' ∧ (codes ps, v) :: vs' = vs := by
  rw [readingMembers]
  split
  · rename_i hwhole
    simp only [Option.bind_eq_bind, Option.bind_eq_some_iff, Option.pure_def, Option.some.injEq, hwhole, true_and]
  · rename_i hwhole
    exact ⟨fun h => (nomatch h), fun h => absurd h.1 hwhole⟩

theorem readingItems_cons {x : ParseTree κ} {xs : List (ParseTree κ)} {vs : List Parsed} : readingItems (x :: xs) = some vs ↔
    ∃ v, reading x = some v ∧ ∃ vs', readingItems xs = some vs' ∧ v :: vs' = vs := by
  rw [readingItems]
  simp only [Option.bind_eq_bind, Option.bind_eq_some_iff, Option.pure_def, Option.some.injEq]

theorem names_cons (ps : List JsonText.Piece) (x : ParseTree κ) (kvs : List (List JsonText.Piece × ParseTree κ)) :
    names ((ps, x) :: kvs) = codes ps :: names kvs := rfl

/-! ## soundness -/

section
variable {n : Nat}
  (ihValue : ∀ {depth : Nat} {s r : List Nat} {v : Parsed}, value length n depth s = .ok (v, r) →
    ∃ t, JsonText.value table (plain κ) n s = .ok (t, r) ∧ reading t = some v ∧ depth + t.nesting ≤ maxJsonDepth + 1)
  (ihMembers : ∀ {depth : Nat} {seen : List (List Nat)} {s r : List Nat} {vs : List (List Nat × Parsed)},
    members length n depth seen s = .ok (vs, r) →
      ∃ kvs, JsonText.members table (plain κ) n s = .ok (kvs, r) ∧ readingMembers kvs = some vs ∧
        ((names kvs).Nodup ∧ ∀ k ∈ names kvs, k ∉ seen) ∧ depth + nestingMembers kvs ≤ maxJsonDepth + 1)
  (ihItems : ∀ {depth : Nat} {s r : List Nat} {vs : List Parsed}, items length n depth s = .ok (vs, r) →
    ∃ ts, JsonText.items table (plain κ) n s = .ok (ts, r) ∧ readingItems ts = some vs ∧
      depth + nestingItems ts ≤ maxJsonDepth + 1)

include ihMembers ihItems in
theorem value_sound_succ {depth : Nat} {s r : List Nat} {v : Parsed} (h : value length (n + 1) depth s = .ok (v, r)) :
    ∃ t, JsonText.value table (plain κ) (n + 1) s = .ok (t, r) ∧ reading t = some v ∧
      depth + t.nesting ≤ maxJsonDepth + 1 := by
  obtain ⟨hdepth, hread⟩ := (value_ok length).mp h
  have hflat : depth + 1 ≤ maxJsonDepth + 1 := Nat.succ_le_succ hdepth
  cases hread with
  | emptyObject hend => exact ⟨.object [], JsonText.value_ok.mpr (.emptyObject hend rfl), rfl, hflat⟩
  | object hend hmembers =>
    obtain ⟨kvs, hkvs, hreading, hnames, hnesting⟩ := ihMembers hmembers
    rw [ws_eq, JsonText.members_skipBlanks] at hkvs
    refine ⟨.object kvs, JsonText.value_ok.mpr (.object hend hkvs rfl), ?_, ?_⟩
    · exact reading_object.mpr ⟨hnames.1, _, hreading, rfl⟩
    · show depth + (nestingMembers kvs + 1) ≤ _
      omega
  | emptyArray hend => exact ⟨.array [], JsonText.value_ok.mpr (.emptyArray hend), rfl, hflat⟩
  | array hend hitems =>
    obtain ⟨ts, hts, hreading, hnesting⟩ := ihItems hitems
    rw [ws_eq, JsonText.items_skipBlanks] at hts
    refine ⟨.array ts, JsonText.value_ok.mpr (.array hend hts), ?_, ?_⟩
    · exact reading_array.mpr ⟨_, hreading, rfl⟩
    · show depth + (nestingItems ts + 1) ≤ _
      omega
  | text hstring =>
    obtain ⟨ps, hps, rfl, hwhole⟩ := (string_ok length).mp hstring
    exact ⟨.text ps, JsonText.value_ok.mpr (.text hps), reading_text.mpr ⟨hwhole, rfl⟩, hflat⟩
  | number hc hnumber =>
    obtain ⟨l, hl, hsafe, rfl⟩ := number_sound length hnumber
    refine ⟨.num (.lexeme l), ?_, ?_, hflat⟩
    · exact JsonText.value_ok.mpr (.scalar hc.other (scalar_number table hc hl))
    · unfold reading
      rw [if_pos hsafe]
  | words hc hnumber hwords =>
    obtain ⟨t, ht, hreading, hnesting⟩ := words_sound length table hwords
    exact ⟨t, JsonText.value_ok.mpr (.scalar hc ht), hreading, by omega⟩

include ihValue ihMembers in
theorem members_sound_succ {depth : Nat} {seen : List (List Nat)} {s r : List Nat} {vs : List (List Nat × Parsed)}
    (h : members length (n + 1) depth seen s = .ok (vs, r)) :
    ∃ kvs, JsonText.members table (plain κ) (n + 1) s = .ok (kvs, r) ∧ readingMembers kvs = some vs ∧
      ((names kvs).Nodup ∧ ∀ k ∈ names kvs, k ∉ seen) ∧ depth + nestingMembers kvs ≤ maxJsonDepth + 1 := by
  cases (members_ok length).mp h with
  | last hquote hstring hnew hcolon hvalue hend =>
    obtain ⟨ps, hps, rfl, hwhole⟩ := (string_ok length).mp hstring
    obtain ⟨x, hx, hreading, hnesting⟩ := ihValue hvalue
    refine ⟨[(ps, x)], ?_, readingMembers_cons.mpr ⟨hwhole, _, hreading, [], rfl, rfl⟩, ⟨?_, ?_⟩, ?_⟩
    · exact JsonText.members_ok.mpr (.last (by rw [hquote, Option.bind_some, hps]) hcolon hx hend)
    · exact List.nodup_cons.mpr ⟨List.not_mem_nil, List.nodup_nil⟩
    · exact fun k hk => List.mem_singleton.mp hk ▸ hnew
    · show depth + max x.nesting 0 ≤ _
      omega
  | more hquote hstring hnew hcolon hvalue hend hcomma hmembers =>
    obtain ⟨ps, hps, rfl, hwhole⟩ := (string_ok length).mp hstring
    obtain ⟨x, hx, hreading, hnesting⟩ := ihValue hvalue
    obtain ⟨kvs, hkvs, hrest, hnames, hdeep⟩ := ihMembers hmembers
    refine ⟨(ps, x) :: kvs, ?_, readingMembers_cons.mpr ⟨hwhole, _, hreading, _, hrest, rfl⟩, ⟨?_, ?_⟩, ?_⟩
    · exact JsonText.members_ok.mpr (.more (by rw [hquote, Option.bind_some, hps]) hcolon hx hend hcomma hkvs)
    · rw [names_cons, List.nodup_cons]
      exact ⟨fun hmem => hnames.2 _ hmem List.mem_cons_self, hnames.1⟩
    · rw [names_cons, List.forall_mem_cons]
      exact ⟨hnew, fun k hk hmem => hnames.2 k hk (List.mem_cons_of_mem _ hmem)⟩
    · show depth + max x.nesting (nestingMembers kvs) ≤ _
      omega

include ihValue ihItems in
theorem items_sound_succ {depth : Nat} {s r : List Nat} {vs : List Parsed}
    (h : items length (n + 1) depth s = .ok (vs, r)) :
    ∃ ts, JsonText.items table (plain κ) (n + 1) s = .ok (ts, r) ∧ readingItems ts = some vs ∧
      depth + nestingItems ts ≤ maxJsonDepth + 1 := by
  cases (items_ok length).mp h with
  | last hvalue hend =>
    obtain ⟨x, hx, hreading, hnesting⟩ := ihValue hvalue
    refine ⟨[x], JsonText.items_ok.mpr (.last hx hend), readingItems_cons.mpr ⟨_, hreading, [], rfl, rfl⟩, ?_⟩
    show depth + max x.nesting 0 ≤ _
    omega
  | more hvalue hend hcomma hitems =>
    obtain ⟨x, hx, hreading, hnesting⟩ := ihValue hvalue
    obtain ⟨ts, hts, hrest, hdeep⟩ := ihItems hitems
    refine ⟨x :: ts, JsonText.items_ok.mpr (.more hx hend hcomma hts), ?_, ?_⟩
    · exact readingItems_cons.mpr ⟨_, hreading, _, hrest, rfl⟩
    · show depth + max x.nesting (nestingItems ts) ≤ _
      omega

end

/-- **What is read is a strict document** within the limit, at every depth and after any names. -/
theorem value_sound (n : Nat) :
    (∀ {depth : Nat} {s r : List Nat} {v : Parsed}, value length n depth s = .ok (v, r) →
        ∃ t, JsonText.value table (plain κ) n s = .ok (t, r) ∧ reading t = some v ∧
          depth + t.nesting ≤ maxJsonDepth + 1) ∧
      (∀ {depth : Nat} {seen : List (List Nat)} {s r : List Nat} {vs : List (List Nat × Parsed)},
        members length n depth seen s = .ok (vs, r) →
          ∃ kvs, JsonText.members table (plain κ) n s = .ok (kvs, r) ∧ readingMembers kvs = some vs ∧
            ((names kvs).Nodup ∧ ∀ k ∈ names kvs, k ∉ seen) ∧ depth + nestingMembers kvs ≤ maxJsonDepth + 1) ∧
      ∀ {depth : Nat} {s r : List Nat} {vs : List Parsed}, items length n depth s = .ok (vs, r) →
        ∃ ts, JsonText.items table (plain κ) n s = .ok (ts, r) ∧ readingItems ts = some vs ∧
          depth + nestingItems ts ≤ maxJsonDepth + 1 := by
  induction n with
  | zero =>
    refine ⟨fun h => ?_, fun h => ?_, fun h => ?_⟩
    · cases h
    · cases h
    · cases h
  | succ n ih =>
    obtain ⟨ihValue, ihMembers, ihItems⟩ := ih
    refine ⟨fun h => ?_, fun h => ?_, fun h => ?_⟩
    · exact value_sound_succ length table ihMembers ihItems h
    · exact members_sound_succ length table ihValue ihMembers h
    · exact items_sound_succ length table ihValue ihItems h

/-! ## completeness -/

/-- a text that goes on with a fraction or an exponent does so at once -/
theorem skipBlanks_fraction {s : List Nat} (h : isFractionOrExponent s = true) :
    ∃ c r, skipBlanks s = c :: r ∧ (c = '.'.toNat ∨ c = 'e'.toNat ∨ c = 'E'.toNat) := by
  cases s with
  | nil => cases h
  | cons c s =>
    have hc : c = '.'.toNat ∨ c = 'e'.toNat ∨ c = 'E'.toNat := by
      have hsome := of_decide_eq_true h
      rw [List.head?_cons, Option.some.injEq, Option.some.injEq, Option.some.injEq] at hsome
      exact hsome
    have hblank : JsonText.isBlank c = false := by
      rcases hc with rfl | rfl | rfl <;> rfl
    refine ⟨c, s, ?_, hc⟩
    unfold JsonText.skipBlanks
    rw [List.dropWhile_cons, hblank]
    rfl

theorem expect_plain {c : Nat} {s r : List Nat} (h : expect c s = some r)
    (hc : c ≠ '.'.toNat ∧ c ≠ 'e'.toNat ∧ c ≠ 'E'.toNat) : isFractionOrExponent s = false := by
  rw [Bool.eq_false_iff]
  intro hfraction
  obtain ⟨d, t, hd, hletter⟩ := skipBlanks_fraction hfraction
  unfold JsonText.expect at h
  rw [hd] at h
  dsimp only at h
  split at h
  · rename_i heq
    rcases hletter with hd | hd | hd
    · exact hc.1 (heq.symm.trans hd)
    · exact hc.2.1 (heq.symm.trans hd)
    · exact hc.2.2 (heq.symm.trans hd)
  · cases h

section
variable {n : Nat}
  (ihValue : ∀ {depth : Nat} {s r : List Nat} {t : ParseTree κ} {v : Parsed},
    JsonText.value table (plain κ) n s = .ok (t, r) → reading t = some v → depth + t.nesting ≤ maxJsonDepth + 1 →
      isFractionOrExponent r = false → value length n depth s = .ok (v, r))
  (ihMembers : ∀ {depth : Nat} {seen : List (List Nat)} {s r : List Nat}
    {kvs : List (List JsonText.Piece × ParseTree κ)} {vs : List (List Nat × Parsed)},
    JsonText.members table (plain κ) n s = .ok (kvs, r) → readingMembers kvs = some vs → (names kvs).Nodup →
      (∀ k ∈ names kvs, k ∉ seen) → depth + nestingMembers kvs ≤ maxJsonDepth + 1 →
        members length n depth seen s = .ok (vs, r))
  (ihItems : ∀ {depth : Nat} {s r : List Nat} {ts : List (ParseTree κ)} {vs : List Parsed},
    JsonText.items table (plain κ) n s = .ok (ts, r) → readingItems ts = some vs →
      depth + nestingItems ts ≤ maxJsonDepth + 1 → items length n depth s = .ok (vs, r))

include ihMembers ihItems in
theorem value_complete_succ {depth : Nat} {s r : List Nat} {t : ParseTree κ} {v : Parsed}
    (h : JsonText.value table (plain κ) (n + 1) s = .ok (t, r)) (hv : reading t = some v)
    (hdepth : depth + t.nesting ≤ maxJsonDepth + 1) (hplain : isFractionOrExponent r = false) :
    value length (n + 1) depth s = .ok (v, r) := by
  have hpos : 0 < t.nesting := by
    rw [t.nesting_children]
    exact Nat.succ_pos _
  refine (value_ok length).mpr ⟨by omega, ?_⟩
  cases JsonText.value_ok.mp h with
  | emptyObject hend hobject =>
    cases hobject
    obtain ⟨-, vs, hvs, rfl⟩ := reading_object.mp hv
    cases hvs
    exact .emptyObject hend
  | @object s r kvs t hend hmembers hobject =>
    cases hobject
    obtain ⟨hnodup, vs, hvs, rfl⟩ := reading_object.mp hv
    have hdeep : depth + (nestingMembers kvs + 1) ≤ maxJsonDepth + 1 := hdepth
    rw [← JsonText.members_skipBlanks] at hmembers
    exact .object hend (ihMembers hmembers hvs hnodup (fun _ _ => List.not_mem_nil) (by omega))
  | emptyArray hend =>
    cases hv
    exact .emptyArray hend
  | @array s r ts hend hitems =>
    obtain ⟨vs, hvs, rfl⟩ := reading_array.mp hv
    have hdeep : depth + (nestingItems ts + 1) ≤ maxJsonDepth + 1 := hdepth
    rw [← JsonText.items_skipBlanks] at hitems
    exact .array hend (ihItems hitems hvs (by omega))
  | @text s r ps hstring =>
    obtain ⟨hwhole, rfl⟩ := reading_text.mp hv
    exact .text ((string_ok length).mpr ⟨ps, hstring, rfl, hwhole⟩)
  | @scalar c s r t hc hscalar =>
    by_cases hnumber : StartsNumber c
    · obtain ⟨l, hl, hsafe, rfl⟩ := number_scalar table hnumber hscalar hv
      exact .number hnumber (number_complete length hl hsafe hplain)
    · exact .words hc hnumber (words_complete length table hnumber hscalar hv)

include ihValue ihMembers in
theorem members_complete_succ {depth : Nat} {seen : List (List Nat)} {s r : List Nat}
    {kvs : List (List JsonText.Piece × ParseTree κ)} {vs : List (List Nat × Parsed)}
    (h : JsonText.members table (plain κ) (n + 1) s = .ok (kvs, r)) (hvs : readingMembers kvs = some vs)
    (hnodup : (names kvs).Nodup) (hseen : ∀ k ∈ names kvs, k ∉ seen)
    (hdepth : depth + nestingMembers kvs ≤ maxJsonDepth + 1) :
    members length (n + 1) depth seen s = .ok (vs, r) := by
  refine (members_ok length).mpr ?_
  cases JsonText.members_ok.mp h with
  | @last s₁ s₂ s₃ r ps x hname hcolon hvalue hend =>
    obtain ⟨s₀, hquote, hstring⟩ := Option.bind_eq_some_iff.mp hname
    obtain ⟨hwhole, v, hv, vs', hvs', rfl⟩ := readingMembers_cons.mp hvs
    cases hvs'
    have hdeep : depth + max x.nesting 0 ≤ maxJsonDepth + 1 := hdepth
    have hread := @ihValue depth _ _ _ _ hvalue hv (by omega) (expect_plain hend (by decide))
    exact .last hquote ((string_ok length).mpr ⟨ps, hstring, rfl, hwhole⟩) (hseen _ List.mem_cons_self) hcolon hread hend
  | @more s₁ s₂ s₃ s₄ r ps x kvs hname hcolon hvalue hend hcomma hmembers =>
    obtain ⟨s₀, hquote, hstring⟩ := Option.bind_eq_some_iff.mp hname
    obtain ⟨hwhole, v, hv, vs', hvs', rfl⟩ := readingMembers_cons.mp hvs
    rw [names_cons] at hnodup hseen
    obtain ⟨hnew, hnodup⟩ := List.nodup_cons.mp hnodup
    obtain ⟨hhead, hseen⟩ := List.forall_mem_cons.mp hseen
    have hdeep : depth + max x.nesting (nestingMembers kvs) ≤ maxJsonDepth + 1 := hdepth
    have hread := @ihValue depth _ _ _ _ hvalue hv (by omega) (expect_plain hcomma (by decide))
    have hrest := @ihMembers depth (codes ps :: seen) _ _ _ _ hmembers hvs' hnodup
      (fun k hk hmem => (List.mem_cons.mp hmem).elim (fun he => hnew (he ▸ hk)) (hseen k hk)) (by omega)
    exact .more hquote ((string_ok length).mpr ⟨ps, hstring, rfl, hwhole⟩) hhead hcolon hread hend hcomma hrest

include ihValue ihItems in
theorem items_complete_succ {depth : Nat} {s r : List Nat} {ts : List (ParseTree κ)} {vs : List Parsed}
    (h : JsonText.items table (plain κ) (n + 1) s = .ok (ts, r)) (hvs : readingItems ts = some vs)
    (hdepth : depth + nestingItems ts ≤ maxJsonDepth + 1) : items length (n + 1) depth s = .ok (vs, r) := by
  refine (items_ok length).mpr ?_
  cases JsonText.items_ok.mp h with
  | @last s₁ r x hvalue hend =>
    obtain ⟨v, hv, vs', hvs', rfl⟩ := readingItems_cons.mp hvs
    cases hvs'
    have hdeep : depth + max x.nesting 0 ≤ maxJsonDepth + 1 := hdepth
    exact .last (ihValue hvalue hv (by omega) (expect_plain hend (by decide))) hend
  | @more s₁ s₂ r x ts hvalue hend hcomma hitems =>
    obtain ⟨v, hv, vs', hvs', rfl⟩ := readingItems_cons.mp hvs
    have hdeep : depth + max x.nesting (nestingItems ts) ≤ maxJsonDepth + 1 := hdepth
    have hread := @ihValue depth _ _ _ _ hvalue hv (by omega) (expect_plain hcomma (by decide))
    exact .more hread hend hcomma (ihItems hitems hvs' (by omega))

end

/-- **A strict document within the limit is read**, unless a number of it runs on after the document. -/
theorem value_complete (n : Nat) :
    (∀ {depth : Nat} {s r : List Nat} {t : ParseTree κ} {v : Parsed}, JsonText.value table (plain κ) n s = .ok (t, r) →
        reading t = some v → depth + t.nesting ≤ maxJsonDepth + 1 → isFractionOrExponent r = false →
        value length n depth s = .ok (v, r)) ∧
      (∀ {depth : Nat} {seen : List (List Nat)} {s r : List Nat} {kvs : List (List JsonText.Piece × ParseTree κ)}
          {vs : List (List Nat × Parsed)}, JsonText.members table (plain κ) n s = .ok (kvs, r) →
        readingMembers kvs = some vs → (names kvs).Nodup → (∀ k ∈ names kvs, k ∉ seen) →
        depth + nestingMembers kvs ≤ maxJsonDepth + 1 → members length n depth seen s = .ok (vs, r)) ∧
      ∀ {depth : Nat} {s r : List Nat} {ts : List (ParseTree κ)} {vs : List Parsed},
        JsonText.items table (plain κ) n s = .ok (ts, r) → readingItems ts = some vs →
        depth + nestingItems ts ≤ maxJsonDepth + 1 → items length n depth s = .ok (vs, r) := by
  induction n with
  | zero =>
    refine ⟨fun h => ?_, fun h => ?_, fun h => ?_⟩
    · cases h
    · cases h
    · cases h
  | succ n ih =>
    obtain ⟨ihValue, ihMembers, ihItems⟩ := ih
    refine ⟨fun h hv hdepth hplain => ?_, fun h hvs hnodup hseen hdepth => ?_, fun h hvs hdepth => ?_⟩
    · exact value_complete_succ length table ihMembers ihItems h hv hdepth hplain
    · exact members_complete_succ length table ihValue ihMembers h hvs hnodup hseen hdepth
    · exact items_complete_succ length table ihValue ihItems h hvs hdepth

/-- **A text is read exactly when it is a strict document** within the limit of the nesting. -/
theorem parseText_ok {text : List Nat} {v : Parsed} (hmark : text.head? ≠ some 0xFEFF) :
    parseText text = .ok v ↔
      ∃ t, JsonText.document table (plain κ) text = .ok t ∧ reading t = some v ∧ t.nesting ≤ maxJsonDepth + 1 := by
  unfold parseText
  rw [if_neg hmark]
  constructor
  · intro h
    obtain ⟨⟨v', r⟩, hvalue, h⟩ := bind_eq_ok.mp h
    dsimp only at h
    split at h
    · rename_i hend
      cases h
      obtain ⟨t, ht, hreading, hnesting⟩ := (value_sound text.length table _).1 hvalue
      refine ⟨t, (JsonText.document_ok table (plain κ)).mpr ⟨r, ht, List.isEmpty_iff.mp hend⟩, hreading, ?_⟩
      omega
    · cases h
  · rintro ⟨t, ht, hreading, hnesting⟩
    obtain ⟨r, hvalue, hend⟩ := (JsonText.document_ok table (plain κ)).mp ht
    have hplain : isFractionOrExponent r = false := by
      rw [Bool.eq_false_iff]
      intro hfraction
      obtain ⟨c, s, hs, -⟩ := skipBlanks_fraction hfraction
      rw [hend] at hs
      cases hs
    rw [ws_eq, (value_complete text.length table _).1 hvalue hreading (by omega) hplain, ok_bind]
    dsimp only
    rw [ws_eq, hend]
    rfl

end

end

end StrictJson

end TypeScript

end Actenon
