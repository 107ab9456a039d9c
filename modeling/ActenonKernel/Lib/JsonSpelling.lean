import ActenonKernel.Lib.JsonReader

/-!
# JSON texts in an encoding

The grammar is one of ASCII codes, and what is not ASCII stands in strings only, as it is. So an
encoding that leaves ASCII alone and spells every other code by codes that are none of ASCII can be
applied before the reading or after it.

* `Spelling`           such an encoding: the forms of Unicode are some;
* `Spelling.lexString`, `Spelling.lexNumber`    strings and numbers;
* `document_respell`   reading the encoding of a text is reading the text and encoding its strings.
-/

set_option linter.unusedSectionVars false

namespace JsonText

open Fallible

/-- an encoding of codes that leaves ASCII alone -/
structure Spelling (h : Nat → List Nat) : Prop where
  ascii : ∀ c < 128, h c = [c]
  head : ∀ c ≥ 128, ∃ d u, h c = d :: u
  others : ∀ c ≥ 128, ∀ d ∈ h c, 128 ≤ d

/-! ## blanks and words -/

theorem other_ne {a c : Nat} (ha : a < 128) (hc : 128 ≤ c) : c ≠ a := by omega

theorem isBlank_other {c : Nat} (hc : 128 ≤ c) : isBlank c = false := by
  unfold isBlank
  simp
  omega

theorem isDigit_other {c : Nat} (hc : 128 ≤ c) : isDigit c = false := by
  unfold isDigit
  simp
  omega

section
variable {h : Nat → List Nat} (H : Spelling h)
include H

theorem Spelling.cons_ascii {c : Nat} (hc : c < 128) (s : List Nat) : (c :: s).flatMap h = c :: s.flatMap h := by
  rw [List.flatMap_cons, H.ascii c hc]
  rfl

theorem Spelling.cons_other {c : Nat} (hc : 128 ≤ c) (s : List Nat) :
    ∃ d u, 128 ≤ d ∧ (c :: s).flatMap h = d :: (u ++ s.flatMap h) := by
  obtain ⟨d, u, hu⟩ := H.head c hc
  refine ⟨d, u, H.others c hc d ?_, ?_⟩
  · rw [hu]
    exact List.mem_cons_self
  · rw [List.flatMap_cons, hu]
    rfl

theorem Spelling.length_le (s : List Nat) : s.length ≤ (s.flatMap h).length := by
  induction s with
  | nil => exact Nat.le_refl _
  | cons c s ih =>
    rcases Nat.lt_or_ge c 128 with hc | hc
    · rw [H.cons_ascii hc]
      exact Nat.succ_le_succ ih
    · obtain ⟨d, u, -, he⟩ := H.cons_other hc s
      rw [he, List.length_cons, List.length_cons, List.length_append]
      omega

theorem Spelling.takeWhile {p : Nat → Bool} (hp : ∀ c ≥ 128, p c = false) (s : List Nat) :
    (s.flatMap h).takeWhile p = s.takeWhile p := by
  induction s with
  | nil => rfl
  | cons c s ih =>
    rcases Nat.lt_or_ge c 128 with hc | hc
    · rw [H.cons_ascii hc, List.takeWhile_cons, List.takeWhile_cons, ih]
    · obtain ⟨d, u, hd, he⟩ := H.cons_other hc s
      rw [he, List.takeWhile_cons, List.takeWhile_cons, hp c hc, hp d hd]
      rfl

theorem Spelling.dropWhile {p : Nat → Bool} (hp : ∀ c ≥ 128, p c = false) (s : List Nat) :
    (s.flatMap h).dropWhile p = (s.dropWhile p).flatMap h := by
  induction s with
  | nil => rfl
  | cons c s ih =>
    rcases Nat.lt_or_ge c 128 with hc | hc
    · rw [H.cons_ascii hc, List.dropWhile_cons, List.dropWhile_cons, ih]
      cases p c
      · exact (H.cons_ascii hc s).symm
      · rfl
    · obtain ⟨d, u, hd, he⟩ := H.cons_other hc s
      rw [List.dropWhile_cons, hp c hc, he, List.dropWhile_cons, hp d hd]
      exact he.symm

theorem Spelling.skipBlanks (s : List Nat) : skipBlanks (s.flatMap h) = (skipBlanks s).flatMap h :=
  H.dropWhile (fun _ hc => isBlank_other hc) s

theorem Spelling.expect {c : Nat} (hc : c < 128) (s : List Nat) :
    expect c (s.flatMap h) = (expect c s).map (List.flatMap h) := by
  unfold JsonText.expect
  rw [H.skipBlanks]
  cases JsonText.skipBlanks s with
  | nil => rfl
  | cons d r =>
    rcases Nat.lt_or_ge d 128 with hd | hd
    · rw [H.cons_ascii hd]
      dsimp only
      split <;> rfl
    · obtain ⟨e, u, he, hr⟩ := H.cons_other hd r
      rw [hr]
      dsimp only
      rw [if_neg (by omega), if_neg (by omega)]
      rfl

/-- a table of words in ASCII -/
def IsAscii {κ : Type} (table : List (Literal κ)) : Prop := ∀ l ∈ table, ∀ c ∈ l.head :: l.tail, c < 128

theorem Spelling.word {w : List Nat} (hw : ∀ c ∈ w, c < 128) (s : List Nat) :
    w.isPrefixOf (s.flatMap h) = w.isPrefixOf s := by
  induction w generalizing s with
  | nil => rfl
  | cons a w ih =>
    have ha : a < 128 := hw a List.mem_cons_self
    cases s with
    | nil => rfl
    | cons c s =>
      rcases Nat.lt_or_ge c 128 with hc | hc
      · rw [H.cons_ascii hc, List.isPrefixOf_cons_cons, List.isPrefixOf_cons_cons,
          ih fun d hd => hw d (List.mem_cons_of_mem _ hd)]
      · obtain ⟨d, u, hd, he⟩ := H.cons_other hc s
        rw [he, List.isPrefixOf_cons_cons, List.isPrefixOf_cons_cons]
        have hd : (a == d) = false := beq_eq_false_iff_ne.mpr (by omega)
        have hc : (a == c) = false := beq_eq_false_iff_ne.mpr (by omega)
        rw [hd, hc]
        rfl

theorem Spelling.drop {w : List Nat} (hw : ∀ c ∈ w, c < 128) {s : List Nat} (hs : w.isPrefixOf s = true) :
    (s.flatMap h).drop w.length = (s.drop w.length).flatMap h := by
  induction w generalizing s with
  | nil => rfl
  | cons a w ih =>
    cases s with
    | nil => cases hs
    | cons c s =>
      rw [List.isPrefixOf_cons_cons, Bool.and_eq_true, beq_iff_eq] at hs
      obtain ⟨rfl, hs⟩ := hs
      rw [H.cons_ascii (hw a List.mem_cons_self), List.length_cons, List.drop_succ_cons, List.drop_succ_cons]
      exact ih (fun d hd => hw d (List.mem_cons_of_mem _ hd)) hs

theorem Spelling.findLiteral {κ : Type} {table : List (Literal κ)} (htable : IsAscii table) (s : List Nat) :
    findLiteral table (s.flatMap h) = (findLiteral table s).map fun p => (p.1, p.2.flatMap h) := by
  unfold JsonText.findLiteral
  induction table with
  | nil => rfl
  | cons l table ih =>
    have hl := htable l List.mem_cons_self
    rw [List.findSome?_cons, List.findSome?_cons, H.word hl, ih fun k hk => htable k (List.mem_cons_of_mem _ hk)]
    cases hp : (l.head :: l.tail).isPrefixOf s with
    | false => rfl
    | true =>
      rw [if_pos rfl, if_pos rfl]
      dsimp only
      rw [show l.tail.length + 1 = (l.head :: l.tail).length from rfl, H.drop hl hp]
      rfl

/-! ## numbers -/

theorem Spelling.digits (s : List Nat) : (s.flatMap h).takeWhile isDigit = s.takeWhile isDigit :=
  H.takeWhile (fun _ hc => isDigit_other hc) s

theorem Spelling.afterDigits (s : List Nat) : (s.flatMap h).dropWhile isDigit = (s.dropWhile isDigit).flatMap h :=
  H.dropWhile (fun _ hc => isDigit_other hc) s

theorem Spelling.lexSign (s : List Nat) : lexSign (s.flatMap h) = ((lexSign s).1, (lexSign s).2.flatMap h) := by
  cases s with
  | nil => rfl
  | cons c s =>
    unfold JsonText.lexSign
    rcases Nat.lt_or_ge c 128 with hc | hc
    · rw [H.cons_ascii hc]
      dsimp only
      split
      · rfl
      · rw [H.cons_ascii hc]
    · obtain ⟨d, u, hd, he⟩ := H.cons_other hc s
      rw [he]
      dsimp only
      rw [if_neg (show d ≠ '-'.toNat from other_ne (by decide) hd), if_neg (show c ≠ '-'.toNat from other_ne (by decide) hc), he]

theorem Spelling.lexDigits (s : List Nat) :
    lexDigits (s.flatMap h) = (lexDigits s).map fun p => (p.1, p.2.flatMap h) := by
  cases s with
  | nil => rfl
  | cons c s =>
    unfold JsonText.lexDigits
    rcases Nat.lt_or_ge c 128 with hc | hc
    · rw [H.cons_ascii hc]
      dsimp only
      rw [H.digits, H.afterDigits]
      split
      · rfl
      · split <;> rfl
    · obtain ⟨d, u, hd, he⟩ := H.cons_other hc s
      rw [he]
      dsimp only
      rw [if_neg (show d ≠ '0'.toNat from other_ne (by decide) hd), if_neg (show c ≠ '0'.toNat from other_ne (by decide) hc), isDigit_other hc, isDigit_other hd]
      rfl

theorem Spelling.lexFraction (s : List Nat) :
    lexFraction (s.flatMap h) = ((lexFraction s).1, (lexFraction s).2.flatMap h) := by
  cases s with
  | nil => rfl
  | cons c s =>
    unfold JsonText.lexFraction
    rcases Nat.lt_or_ge c 128 with hc | hc
    · rw [H.cons_ascii hc]
      dsimp only
      rw [H.digits, H.afterDigits]
      split
      · rfl
      · rw [H.cons_ascii hc]
    · obtain ⟨d, u, hd, he⟩ := H.cons_other hc s
      rw [he]
      dsimp only
      rw [if_neg fun hdot => absurd hdot.1 (show d ≠ '.'.toNat from other_ne (by decide) hd),
        if_neg fun hdot => absurd hdot.1 (show c ≠ '.'.toNat from other_ne (by decide) hc), he]

theorem Spelling.lexExponentSign (s : List Nat) :
    lexExponentSign (s.flatMap h) = ((lexExponentSign s).1, (lexExponentSign s).2.flatMap h) := by
  cases s with
  | nil => rfl
  | cons c s =>
    unfold JsonText.lexExponentSign
    rcases Nat.lt_or_ge c 128 with hc | hc
    · rw [H.cons_ascii hc]
      dsimp only
      split
      · rfl
      · rw [H.cons_ascii hc]
    · obtain ⟨d, u, hd, he⟩ := H.cons_other hc s
      rw [he]
      dsimp only
      have hsign : ∀ {x : Nat}, 128 ≤ x → ¬ (x = '+'.toNat ∨ x = '-'.toNat) := fun hx =>
        not_or.mpr ⟨other_ne (by decide) hx, other_ne (by decide) hx⟩
      rw [if_neg (hsign hd), if_neg (hsign hc), he]

theorem Spelling.lexExponent (s : List Nat) :
    lexExponent (s.flatMap h) = ((lexExponent s).1, (lexExponent s).2.flatMap h) := by
  cases s with
  | nil => rfl
  | cons c s =>
    unfold JsonText.lexExponent
    rcases Nat.lt_or_ge c 128 with hc | hc
    · rw [H.cons_ascii hc]
      dsimp only
      rw [H.lexExponentSign]
      dsimp only
      rw [H.digits, H.afterDigits]
      split
      · rfl
      · rw [H.cons_ascii hc]
    · obtain ⟨d, u, hd, he⟩ := H.cons_other hc s
      rw [he]
      dsimp only
      have hletter : ∀ {x : Nat}, 128 ≤ x → ¬ (x = 'e'.toNat ∨ x = 'E'.toNat) := fun hx =>
        not_or.mpr ⟨other_ne (by decide) hx, other_ne (by decide) hx⟩
      rw [if_neg fun hexponent => hletter hd hexponent.1, if_neg fun hexponent => hletter hc hexponent.1, he]

theorem Spelling.lexNumber (s : List Nat) :
    lexNumber (s.flatMap h) = (lexNumber s).map fun p => (p.1, p.2.flatMap h) := by
  unfold JsonText.lexNumber
  rw [H.lexSign]
  dsimp only
  rw [H.lexDigits, Option.map_map, Option.map_map]
  congr 1
  funext p
  dsimp only [Function.comp]
  rw [H.lexFraction]
  dsimp only
  rw [H.lexExponent]

end

/-! ## strings -/

theorem hexDigit_other {c : Nat} (hc : 128 ≤ c) : hexDigit c = none := by
  unfold hexDigit
  rw [if_neg (by omega), if_neg (by omega), if_neg (by omega)]

theorem escapeOf_other {e : Nat} (he : 128 ≤ e) : escapeOf e = none := by
  have hne : ∀ {a : Nat}, a < 128 → ¬ e = a := fun ha => other_ne ha he
  unfold escapeOf
  rw [if_neg (hne (by decide)), if_neg (hne (by decide)), if_neg (hne (by decide)), if_neg (hne (by decide)),
    if_neg (hne (by decide)), if_neg (hne (by decide)), if_neg (hne (by decide)), if_neg (hne (by decide))]

/-- codes that are none of ASCII are raw pieces -/
theorem lexString_others {u : List Nat} (hu : ∀ c ∈ u, 128 ≤ c) (s : List Nat) :
    lexString (u ++ s) = (lexString s).map fun p => (u.map .raw ++ p.1, p.2) := by
  induction u with
  | nil =>
    show lexString s = (lexString s).map id
    rw [Option.map_id]
    rfl
  | cons c u ih =>
    have hc : 128 ≤ c := hu c List.mem_cons_self
    rw [List.cons_append, lexString_raw (other_ne (by decide) hc) (by omega) (other_ne (by decide) hc),
      ih fun d hd => hu d (List.mem_cons_of_mem _ hd), Option.map_map]
    rfl

/-- one hexadecimal digit -/
def digitAt : List Nat → Option (Nat × List Nat)
  | [] => none
  | c :: s => (hexDigit c).map fun d => (d, s)

theorem unitAt_eq (s : List Nat) : unitAt s = do
    let (a, s) ← digitAt s
    let (b, s) ← digitAt s
    let (c, s) ← digitAt s
    let (d, s) ← digitAt s
    return (4096 * a + 256 * b + 16 * c + d, s) := by
  rcases s with _ | ⟨a, _ | ⟨b, _ | ⟨c, _ | ⟨d, s⟩⟩⟩⟩
  · rfl
  · show none = _
    cases ha : hexDigit a <;> simp [digitAt, ha]
  · show none = _
    cases ha : hexDigit a <;> cases hb : hexDigit b <;> simp [digitAt, ha, hb]
  · show none = _
    cases ha : hexDigit a <;> cases hb : hexDigit b <;> cases hc : hexDigit c <;> simp [digitAt, ha, hb, hc]
  · show (hex4 a b c d).map _ = _
    unfold hex4
    cases ha : hexDigit a <;> cases hb : hexDigit b <;> cases hc : hexDigit c <;> cases hd : hexDigit d <;>
      simp [digitAt, ha, hb, hc, hd]

/-- the pieces of a string in the encoding -/
def respellPiece (h : Nat → List Nat) : Piece → List Piece
  | .raw c => (h c).map .raw
  | .escaped c => [.escaped c]
  | .unit n => [.unit n]

section
variable {h : Nat → List Nat} (H : Spelling h)
include H

theorem Spelling.digitAt (s : List Nat) : digitAt (s.flatMap h) = (digitAt s).map fun p => (p.1, p.2.flatMap h) := by
  cases s with
  | nil => rfl
  | cons c s =>
    unfold JsonText.digitAt
    rcases Nat.lt_or_ge c 128 with hc | hc
    · rw [H.cons_ascii hc]
      dsimp only
      rw [Option.map_map]
      rfl
    · obtain ⟨d, u, hd, he⟩ := H.cons_other hc s
      rw [he]
      dsimp only
      rw [hexDigit_other hc, hexDigit_other hd]
      rfl

theorem Spelling.unitAt (s : List Nat) : unitAt (s.flatMap h) = (unitAt s).map fun p => (p.1, p.2.flatMap h) := by
  rw [unitAt_eq, unitAt_eq]
  simp only [H.digitAt, Option.bind_eq_bind, Option.bind_map, Option.map_bind, Option.pure_def, Function.comp_def,
    Option.map_some]

theorem Spelling.lexString (s : List Nat) : lexString (s.flatMap h) =
    (lexString s).map fun p => (p.1.flatMap (respellPiece h), p.2.flatMap h) := by
  induction s using lexString_induct with
  | nil => rfl
  | quote s =>
    rw [H.cons_ascii (by decide), lexString_quote, lexString_quote]
    rfl
  | control c s hcontrol =>
    rw [H.cons_ascii (by omega), lexString_control hcontrol, lexString_control hcontrol]
    rfl
  | slash =>
    rw [H.cons_ascii (by decide)]
    rfl
  | unit s ih =>
    rw [H.cons_ascii (by decide), H.cons_ascii (by decide), lexString_unit, lexString_unit, H.unitAt]
    cases hdigits : JsonText.unitAt s with
    | none => rfl
    | some p =>
      obtain ⟨n, r⟩ := p
      rw [Option.map_some, Option.bind_some, Option.bind_some]
      dsimp only
      rw [ih n r hdigits, Option.map_map, Option.map_map]
      rfl
  | escape e s hunit ih =>
    rw [H.cons_ascii (by decide), lexString_escape hunit]
    rcases Nat.lt_or_ge e 128 with he | he
    · rw [H.cons_ascii he, lexString_escape hunit]
      cases escapeOf e with
      | none => rfl
      | some c =>
        rw [Option.bind_some, Option.bind_some, ih, Option.map_map, Option.map_map]
        rfl
    · obtain ⟨d, u, hd, hs⟩ := H.cons_other he s
      rw [hs, lexString_escape (other_ne (by decide) hd), escapeOf_other hd, escapeOf_other he]
      rfl
  | raw c s hquote hcontrol hslash ih =>
    rw [lexString_raw hquote hcontrol hslash, Option.map_map]
    rcases Nat.lt_or_ge c 128 with hc | hc
    · rw [H.cons_ascii hc, lexString_raw hquote hcontrol hslash, ih, Option.map_map]
      refine congrArg (Option.map · _) (funext fun p => ?_)
      show (Piece.raw c :: _, _) = ((h c).map Piece.raw ++ _, _)
      rw [H.ascii c hc]
      rfl
    · rw [List.flatMap_cons, lexString_others (H.others c hc), ih, Option.map_map]
      rfl

end

/-! ## values -/

section
variable {ε σ κ α : Type} (table : List (Literal κ)) (B : Builder ε σ κ α) {h : Nat → List Nat}

/-- a computation whose rest of the text is encoded -/
def encoded {β : Type} (h : Nat → List Nat) (x : Except ε (β × List Nat)) : Except ε (β × List Nat) :=
  x.map fun p => (p.1, p.2.flatMap h)

theorem encoded_bind {β γ : Type} (x : Except ε (β × List Nat)) (f : β × List Nat → Except ε γ) :
    (encoded h x >>= f) = x >>= fun p => f (p.1, p.2.flatMap h) := by
  cases x <;> rfl

theorem bind_encoded {β γ : Type} (x : Except ε β) (f : β → Except ε (γ × List Nat)) :
    encoded h (x >>= f) = x >>= fun a => encoded h (f a) := by
  cases x <;> rfl

/-- the builder that encodes the strings itself -/
def Builder.respell (h : Nat → List Nat) : Builder ε σ κ α :=
  { B with string := fun ps => B.string (ps.flatMap (respellPiece h)) }

variable (H : Spelling h) (htable : IsAscii table)
include H htable

theorem scalar_respell (s : List Nat) :
    scalar table B (s.flatMap h) = encoded h (scalar table (B.respell h) s) := by
  have hliterals : IsAscii literals := by
    intro l hl c hc
    simp [literals] at hl
    rcases hl with rfl | rfl | rfl <;> simp at hc <;> omega
  unfold scalar
  rw [H.findLiteral hliterals, H.lexNumber, H.findLiteral htable]
  cases findLiteral literals s with
  | some p => rfl
  | none =>
    dsimp only [Option.map_none]
    cases lexNumber s with
    | some p =>
      dsimp only [Option.map_some]
      show _ = encoded h ((B.number p.1).map _)
      cases B.number p.1 <;> rfl
    | none =>
      dsimp only [Option.map_none]
      cases findLiteral table s <;> rfl

section
variable {n : Nat} (ihValue : ∀ s, value table B n (s.flatMap h) = encoded h (value table (B.respell h) n s))
  (ihMembers : ∀ s, members table B n (s.flatMap h) = encoded h (members table (B.respell h) n s))
  (ihItems : ∀ s, items table B n (s.flatMap h) = encoded h (items table (B.respell h) n s))

include ihMembers ihItems in
theorem value_respell_succ (s : List Nat) :
    value table B (n + 1) (s.flatMap h) = encoded h (value table (B.respell h) (n + 1) s) := by
  cases s with
  | nil => rfl
  | cons c s =>
    have hscalar := scalar_respell table B H htable (c :: s)
    unfold value
    rcases Nat.lt_or_ge c 128 with hc | hc
    · rw [H.cons_ascii hc] at hscalar ⊢
      dsimp only
      rw [H.expect (by decide), H.expect (by decide), H.lexString, ihMembers, ihItems, encoded_bind, encoded_bind,
        hscalar]
      by_cases hobject : c = '\x7b'.toNat
      · rw [if_pos hobject, if_pos hobject]
        cases expect '\x7d'.toNat s with
        | some r =>
          dsimp only [Option.map_some]
          show _ = encoded h ((B.object []).map _)
          cases B.object [] <;> rfl
        | none =>
          dsimp only [Option.map_none]
          rw [bind_encoded]
          refine congrArg (members table (B.respell h) n s >>= ·) (funext fun p => ?_)
          rw [bind_encoded]
          rfl
      · rw [if_neg hobject, if_neg hobject]
        by_cases harray : c = '['.toNat
        · rw [if_pos harray, if_pos harray]
          cases expect ']'.toNat s with
          | some r => rfl
          | none =>
            dsimp only [Option.map_none]
            rw [bind_encoded]
            rfl
        · rw [if_neg harray, if_neg harray]
          by_cases hquote : c = '"'.toNat
          · rw [if_pos hquote, if_pos hquote]
            cases lexString s with
            | none => rfl
            | some p => rfl
          · rw [if_neg hquote, if_neg hquote]
    · obtain ⟨d, u, hd, he⟩ := H.cons_other hc s
      rw [he] at hscalar ⊢
      dsimp only
      rw [if_neg (other_ne (by decide) hd), if_neg (other_ne (by decide) hd), if_neg (other_ne (by decide) hd),
        if_neg (other_ne (by decide) hc), if_neg (other_ne (by decide) hc), if_neg (other_ne (by decide) hc)]
      exact hscalar

omit htable in
include ihValue ihMembers in
theorem members_respell_succ (s : List Nat) :
    members table B (n + 1) (s.flatMap h) = encoded h (members table (B.respell h) (n + 1) s) := by
  unfold members
  have hkey : (expect '"'.toNat (s.flatMap h)).bind lexString = ((expect '"'.toNat s).bind lexString).map
      fun p => (p.1.flatMap (respellPiece h), p.2.flatMap h) := by
    rw [H.expect (by decide)]
    cases expect '"'.toNat s with
    | none => rfl
    | some r => exact H.lexString r
  rw [hkey]
  cases (expect '"'.toNat s).bind lexString with
  | none => rfl
  | some p =>
    obtain ⟨ps, s₁⟩ := p
    dsimp only [Option.map_some]
    rw [H.expect (by decide)]
    cases expect ':'.toNat s₁ with
    | none => rfl
    | some s₂ =>
      dsimp only [Option.map_some]
      rw [H.skipBlanks, ihValue, encoded_bind, bind_encoded]
      refine congrArg (value table (B.respell h) n (skipBlanks s₂) >>= ·) (funext fun p => ?_)
      obtain ⟨v, s₃⟩ := p
      dsimp only
      rw [H.expect (by decide), H.expect (by decide)]
      cases expect '\x7d'.toNat s₃ with
      | some r => rfl
      | none =>
        dsimp only [Option.map_none]
        cases expect ','.toNat s₃ with
        | none => rfl
        | some s₄ =>
          dsimp only [Option.map_some]
          rw [ihMembers, encoded_bind, bind_encoded]
          rfl

omit htable in
include ihValue ihItems in
theorem items_respell_succ (s : List Nat) :
    items table B (n + 1) (s.flatMap h) = encoded h (items table (B.respell h) (n + 1) s) := by
  unfold items
  rw [H.skipBlanks, ihValue, encoded_bind, bind_encoded]
  refine congrArg (value table (B.respell h) n (skipBlanks s) >>= ·) (funext fun p => ?_)
  obtain ⟨v, s₁⟩ := p
  dsimp only
  rw [H.expect (by decide), H.expect (by decide)]
  cases expect ']'.toNat s₁ with
  | some r => rfl
  | none =>
    dsimp only [Option.map_none]
    cases expect ','.toNat s₁ with
    | none => rfl
    | some s₂ =>
      dsimp only [Option.map_some]
      rw [ihItems, encoded_bind, bind_encoded]
      rfl

end

/-- **Reading the encoding of a text is reading the text.** -/
theorem value_respell (n : Nat) :
    (∀ s, value table B n (s.flatMap h) = encoded h (value table (B.respell h) n s)) ∧
      (∀ s, members table B n (s.flatMap h) = encoded h (members table (B.respell h) n s)) ∧
      ∀ s, items table B n (s.flatMap h) = encoded h (items table (B.respell h) n s) := by
  induction n with
  | zero => exact ⟨fun _ => rfl, fun _ => rfl, fun _ => rfl⟩
  | succ n ih =>
    obtain ⟨ihValue, ihMembers, ihItems⟩ := ih
    refine ⟨fun s => ?_, fun s => ?_, fun s => ?_⟩
    · exact value_respell_succ table B H htable ihMembers ihItems s
    · exact members_respell_succ table B H ihValue ihMembers s
    · exact items_respell_succ table B H ihValue ihItems s

/-- **A document is read alike in an encoding.** -/
theorem document_respell (s : List Nat) : document table B (s.flatMap h) = document table (B.respell h) s := by
  have hlength := H.length_le s
  have hblanks := (skipBlanks_suffix s).length_le
  unfold document
  rw [H.skipBlanks, (value_respell table B H htable _).1, encoded_bind,
    value_fuel_le table (B.respell h) (n := fuelFor s) (by unfold fuelFor; omega) (by unfold fuelFor; omega)]
  refine congrArg (value table (B.respell h) (fuelFor s) (skipBlanks s) >>= ·) (funext fun p => ?_)
  dsimp only
  rw [H.skipBlanks]
  cases hrest : skipBlanks p.2 with
  | nil => rfl
  | cons c r =>
    rcases Nat.lt_or_ge c 128 with hc | hc
    · rw [H.cons_ascii hc]
      rfl
    · obtain ⟨d, u, hd, he⟩ := H.cons_other hc r
      rw [he]
      rfl

end

end JsonText
