import ActenonKernel.Lib.JsonText

/-!
# Reading JSON texts

What holds of the reader whatever it builds: it takes some of the text, it needs no more fuel than
the text is long, and what is in its strings stands in the text.

* `Leaves`           what is left of a text, `value_leaves` for a value;
* `lexString_induct`    the induction over a string along its pieces;
* `value_fuel`       more fuel than the text is long changes nothing;
* `value_parts`      the strings of a tree consist of codes of the text and of code units.
-/

set_option linter.unusedSectionVars false

namespace JsonText

open Fallible

/-! ## what is left of a text -/

/-- `r` is left of `s` once some of `s` is taken -/
structure Leaves (s r : List Nat) : Prop where
  suffix : r <:+ s
  lt : r.length < s.length

theorem Leaves.cons {s r : List Nat} (h : r <:+ s) (c : Nat) : Leaves (c :: s) r where
  suffix := h.trans (List.suffix_cons c s)
  lt := Nat.lt_succ_of_le h.length_le

theorem Leaves.trans {s r t : List Nat} (h : Leaves s r) (ht : t <:+ r) : Leaves s t where
  suffix := ht.trans h.suffix
  lt := Nat.lt_of_le_of_lt ht.length_le h.lt

theorem Leaves.of_suffix {s r t : List Nat} (hs : s <:+ t) (h : Leaves s r) : Leaves t r where
  suffix := h.suffix.trans hs
  lt := Nat.lt_of_lt_of_le h.lt hs.length_le

theorem skipBlanks_suffix (s : List Nat) : skipBlanks s <:+ s := List.dropWhile_suffix isBlank

theorem expect_leaves {c : Nat} {s r : List Nat} (h : expect c s = some r) : Leaves s r := by
  have hblanks := skipBlanks_suffix s
  unfold expect at h
  split at h
  · cases h
  · rename_i d rest hs
    rw [hs] at hblanks
    split at h
    · cases h
      exact Leaves.of_suffix hblanks (Leaves.cons (List.suffix_refl _) d)
    · cases h

theorem unitAt_leaves {s r : List Nat} {n : Nat} (h : unitAt s = some (n, r)) : Leaves s r := by
  unfold unitAt at h
  split at h
  · rename_i a b c d t
    obtain ⟨m, -, he⟩ := Option.map_eq_some_iff.mp h
    cases he
    have hsuffix : r <:+ b :: c :: d :: r := ⟨[b, c, d], rfl⟩
    exact Leaves.cons hsuffix a
  · cases h

/-- induction over a string along its pieces -/
@[elab_as_elim]
theorem lexString_induct {P : List Nat → Prop} (nil : P []) (quote : ∀ s, P ('"'.toNat :: s))
    (control : ∀ c s, c < 0x20 → P (c :: s)) (slash : P ['\\'.toNat])
    (unit : ∀ s, (∀ n r, unitAt s = some (n, r) → P r) → P ('\\'.toNat :: 'u'.toNat :: s))
    (escape : ∀ e s, e ≠ 'u'.toNat → P s → P ('\\'.toNat :: e :: s))
    (raw : ∀ c s, c ≠ '"'.toNat → ¬ c < 0x20 → c ≠ '\\'.toNat → P s → P (c :: s)) (s : List Nat) : P s := by
  induction hn : s.length using Nat.strongRecOn generalizing s with
  | ind n ih =>
    subst hn
    cases s with
    | nil => exact nil
    | cons c s =>
      by_cases hquote : c = '"'.toNat
      · exact hquote ▸ quote s
      · by_cases hcontrol : c < 0x20
        · exact control c s hcontrol
        · by_cases hslash : c = '\\'.toNat
          · subst hslash
            cases s with
            | nil => exact slash
            | cons e s =>
              by_cases hunit : e = 'u'.toNat
              · subst hunit
                refine unit s fun n r h => ih r.length ?_ r rfl
                have hr := (unitAt_leaves h).lt
                simp only [List.length_cons]
                omega
              · refine escape e s hunit (ih s.length ?_ s rfl)
                simp only [List.length_cons]
                omega
          · exact raw c s hquote hcontrol hslash (ih s.length (Nat.lt_succ_self _) s rfl)

/-- a string leaves less than it began with -/
theorem lexString_leaves (s : List Nat) : ∀ {ps : List Piece} {r : List Nat},
    lexString s = some (ps, r) → Leaves s r := by
  induction s using lexString_induct with
  | nil =>
    intro ps r h
    cases h
  | quote s =>
    intro ps r h
    rw [lexString_quote] at h
    cases h
    exact Leaves.cons (List.suffix_refl _) _
  | control c s hcontrol =>
    intro ps r h
    rw [lexString_control hcontrol] at h
    cases h
  | slash =>
    intro ps r h
    cases h
  | unit s ih =>
    intro ps r h
    rw [lexString_unit] at h
    obtain ⟨⟨n, t⟩, hdigits, h⟩ := Option.bind_eq_some_iff.mp h
    obtain ⟨q, hq, he⟩ := Option.map_eq_some_iff.mp h
    cases he
    have hr := (unitAt_leaves hdigits).trans (ih n t hdigits hq).suffix
    exact (Leaves.cons (List.suffix_cons _ s) _).trans hr.suffix
  | escape e s hunit ih =>
    intro ps r h
    rw [lexString_escape hunit] at h
    obtain ⟨x, -, h⟩ := Option.bind_eq_some_iff.mp h
    obtain ⟨q, hq, he⟩ := Option.map_eq_some_iff.mp h
    cases he
    exact (Leaves.cons (List.suffix_cons e s) _).trans (ih hq).suffix
  | raw c s hquote hcontrol hslash ih =>
    intro ps r h
    rw [lexString_raw hquote hcontrol hslash] at h
    obtain ⟨q, hq, he⟩ := Option.map_eq_some_iff.mp h
    cases he
    exact Leaves.cons (ih hq).suffix c

theorem lexSign_suffix (s : List Nat) : (lexSign s).2 <:+ s := by
  unfold lexSign
  split
  · exact List.suffix_refl _
  · split
    · exact List.suffix_cons _ _
    · exact List.suffix_refl _

theorem lexDigits_leaves {s r ds : List Nat} (h : lexDigits s = some (ds, r)) : Leaves s r := by
  unfold lexDigits at h
  split at h
  · cases h
  · rename_i c t
    split at h
    · cases h
      exact Leaves.cons (List.suffix_refl _) c
    · split at h
      · cases h
        exact Leaves.cons (List.dropWhile_suffix isDigit) c
      · cases h

theorem lexFraction_suffix (s : List Nat) : (lexFraction s).2 <:+ s := by
  unfold lexFraction
  split
  · exact List.suffix_refl _
  · split
    · exact (Leaves.cons (List.dropWhile_suffix isDigit) _).suffix
    · exact List.suffix_refl _

theorem lexExponentSign_suffix (s : List Nat) : (lexExponentSign s).2 <:+ s := by
  unfold lexExponentSign
  split
  · exact List.suffix_refl _
  · split
    · exact List.suffix_cons _ _
    · exact List.suffix_refl _

theorem lexExponent_suffix (s : List Nat) : (lexExponent s).2 <:+ s := by
  unfold lexExponent
  split
  · exact List.suffix_refl _
  · rename_i c t
    split
    · exact (Leaves.cons ((List.dropWhile_suffix isDigit).trans (lexExponentSign_suffix t)) c).suffix
    · exact List.suffix_refl _

theorem lexNumber_leaves {s r : List Nat} {l : Lexeme} (h : lexNumber s = some (l, r)) : Leaves s r := by
  unfold lexNumber at h
  obtain ⟨⟨ds, t⟩, hdigits, he⟩ := Option.map_eq_some_iff.mp h
  cases he
  have htail := (lexExponent_suffix (lexFraction t).2).trans (lexFraction_suffix t)
  exact Leaves.of_suffix (lexSign_suffix s) ((lexDigits_leaves hdigits).trans htail)

theorem findLiteral_leaves {β : Type} {table : List (Literal β)} {s r : List Nat} {v : β}
    (h : findLiteral table s = some (v, r)) : Leaves s r := by
  unfold findLiteral at h
  obtain ⟨l, -, h⟩ := List.exists_of_findSome?_eq_some h
  split at h
  · rename_i hprefix
    have hlength := (List.isPrefixOf_iff_prefix.mp hprefix).length_le
    rw [List.length_cons] at hlength
    cases h
    refine ⟨List.drop_suffix _ s, ?_⟩
    rw [List.length_drop]
    omega
  · cases h

section
variable {ε σ κ α : Type} (table : List (Literal κ)) (B : Builder ε σ κ α)

theorem scalar_leaves {s r : List Nat} {v : α} (h : scalar table B s = .ok (v, r)) : Leaves s r := by
  unfold scalar at h
  split at h
  · rename_i hliteral
    cases h
    exact findLiteral_leaves hliteral
  · split at h
    · rename_i l rest hnumber
      obtain ⟨x, -, hx⟩ := map_eq_ok.mp h
      cases hx
      exact lexNumber_leaves hnumber
    · split at h
      · rename_i hconstant
        cases h
        exact findLiteral_leaves hconstant
      · cases h

/-- a value, and the members or items after an opening bracket, take some of the text -/
theorem value_leaves (n : Nat) :
    (∀ {s r : List Nat} {v : α}, value table B n s = .ok (v, r) → Leaves s r) ∧
      (∀ {s r : List Nat} {kvs : List (σ × α)}, members table B n s = .ok (kvs, r) → Leaves s r) ∧
      ∀ {s r : List Nat} {vs : List α}, items table B n s = .ok (vs, r) → Leaves s r := by
  induction n with
  | zero =>
    refine ⟨fun h => ?_, fun h => ?_, fun h => ?_⟩
    · cases h
    · cases h
    · cases h
  | succ n ih =>
    obtain ⟨ihValue, ihMembers, ihItems⟩ := ih
    refine ⟨fun h => ?_, fun h => ?_, fun {s r vs} h => ?_⟩
    · cases value_ok.mp h with
      | emptyObject hend => exact Leaves.cons (expect_leaves hend).suffix _
      | object _ hmembers => exact Leaves.cons (ihMembers hmembers).suffix _
      | emptyArray hend => exact Leaves.cons (expect_leaves hend).suffix _
      | array _ hitems => exact Leaves.cons (ihItems hitems).suffix _
      | text hstring => exact Leaves.cons (lexString_leaves _ hstring).suffix _
      | scalar _ hscalar => exact scalar_leaves table B hscalar
    · have hhead : ∀ {s s₁ s₂ s₃ : List Nat} {ps : List Piece} {v : α},
          (expect '"'.toNat s).bind lexString = some (ps, s₁) → expect ':'.toNat s₁ = some s₂ →
            value table B n (skipBlanks s₂) = .ok (v, s₃) → Leaves s s₃ := by
        intro s s₁ s₂ s₃ ps v hname hcolon hvalue
        obtain ⟨s₀, hquote, hstring⟩ := Option.bind_eq_some_iff.mp hname
        have h₁ := (expect_leaves hquote).trans (lexString_leaves _ hstring).suffix
        have h₂ := h₁.trans (expect_leaves hcolon).suffix
        exact (h₂.trans (skipBlanks_suffix s₂)).trans (ihValue hvalue).suffix
      cases members_ok.mp h with
      | last hname hcolon hvalue hend => exact (hhead hname hcolon hvalue).trans (expect_leaves hend).suffix
      | more hname hcolon hvalue _ hcomma hmembers =>
        exact ((hhead hname hcolon hvalue).trans (expect_leaves hcomma).suffix).trans (ihMembers hmembers).suffix
    · cases items_ok.mp h with
      | last hvalue hend =>
        exact (Leaves.of_suffix (skipBlanks_suffix s) (ihValue hvalue)).trans (expect_leaves hend).suffix
      | more hvalue _ hcomma hitems =>
        have h₁ := Leaves.of_suffix (skipBlanks_suffix s) (ihValue hvalue)
        exact (h₁.trans (expect_leaves hcomma).suffix).trans (ihItems hitems).suffix

/-- a document is a value with blanks around it -/
theorem document_ok {s : List Nat} {v : α} : document table B s = .ok v ↔
    ∃ r, value table B (fuelFor s) (skipBlanks s) = .ok (v, r) ∧ skipBlanks r = [] := by
  unfold document
  constructor
  · intro h
    obtain ⟨⟨v', r⟩, hvalue, h⟩ := bind_eq_ok.mp h
    dsimp only at h
    split at h
    · rename_i hend
      cases h
      exact ⟨r, hvalue, List.isEmpty_iff.mp hend⟩
    · cases h
  · rintro ⟨r, hvalue, hend⟩
    rw [hvalue, ok_bind]
    dsimp only
    rw [hend]
    rfl

/-! ## blanks before members and items -/

theorem skipBlanks_skipBlanks (s : List Nat) : skipBlanks (skipBlanks s) = skipBlanks s := by
  induction s with
  | nil => rfl
  | cons c s ih =>
    unfold skipBlanks at ih ⊢
    rw [List.dropWhile_cons]
    cases hblank : isBlank c with
    | true => exact ih
    | false =>
      rw [if_neg Bool.false_ne_true, List.dropWhile_cons, hblank]
      rfl

theorem members_skipBlanks (n : Nat) (s : List Nat) : members table B n (skipBlanks s) = members table B n s := by
  cases n with
  | zero => rfl
  | succ n =>
    unfold members expect
    rw [skipBlanks_skipBlanks]

theorem items_skipBlanks (n : Nat) (s : List Nat) : items table B n (skipBlanks s) = items table B n s := by
  cases n with
  | zero => rfl
  | succ n =>
    unfold items
    rw [skipBlanks_skipBlanks]

/-! ## fuel -/

/-- **More fuel than the text is long changes nothing.** -/
theorem value_fuel (n : Nat) :
    (∀ {s : List Nat}, 2 * s.length + 1 ≤ n → value table B (n + 1) s = value table B n s) ∧
      (∀ {s : List Nat}, 2 * s.length + 2 ≤ n → members table B (n + 1) s = members table B n s) ∧
      ∀ {s : List Nat}, 2 * s.length + 2 ≤ n → items table B (n + 1) s = items table B n s := by
  induction n with
  | zero =>
    refine ⟨fun h => ?_, fun h => ?_, fun h => ?_⟩
    · omega
    · omega
    · omega
  | succ n ih =>
    obtain ⟨ihValue, ihMembers, ihItems⟩ := ih
    refine ⟨fun {s} h => ?_, fun {s} h => ?_, fun {s} h => ?_⟩
    · cases s with
      | nil => rfl
      | cons c s =>
        rw [List.length_cons] at h
        unfold value
        rw [ihMembers (s := s) (by omega), ihItems (s := s) (by omega)]
    · unfold members
      cases hkey : (expect '"'.toNat s).bind lexString with
      | none => rfl
      | some p =>
        obtain ⟨ps, s₁⟩ := p
        dsimp only
        cases hcolon : expect ':'.toNat s₁ with
        | none => rfl
        | some s₂ =>
          obtain ⟨s₀, hquote, hstring⟩ := Option.bind_eq_some_iff.mp hkey
          have h₀ := (expect_leaves hquote).lt
          have h₁ := (lexString_leaves _ hstring).lt
          have h₂ := (expect_leaves hcolon).lt
          have hblanks := (skipBlanks_suffix s₂).length_le
          dsimp only
          rw [ihValue (s := skipBlanks s₂) (by omega)]
          cases hvalue : value table B n (skipBlanks s₂) with
          | error e => rfl
          | ok p =>
            obtain ⟨v, s₃⟩ := p
            have h₃ := ((value_leaves table B n).1 hvalue).lt
            rw [ok_bind, ok_bind]
            dsimp only
            cases hcomma : expect ','.toNat s₃ with
            | none => rfl
            | some s₄ =>
              have h₄ := (expect_leaves hcomma).lt
              dsimp only
              rw [ihMembers (s := s₄) (by omega)]
    · unfold items
      have hblanks := (skipBlanks_suffix s).length_le
      rw [ihValue (s := skipBlanks s) (by omega)]
      cases hvalue : value table B n (skipBlanks s) with
      | error e => rfl
      | ok p =>
        obtain ⟨v, s₁⟩ := p
        have h₁ := ((value_leaves table B n).1 hvalue).lt
        rw [ok_bind, ok_bind]
        dsimp only
        cases hcomma : expect ','.toNat s₁ with
        | none => rfl
        | some s₂ =>
          have h₂ := (expect_leaves hcomma).lt
          dsimp only
          rw [ihItems (s := s₂) (by omega)]

/-- `value_fuel` for any more fuel -/
theorem value_fuel_le {s : List Nat} {n m : Nat} (hn : 2 * s.length + 1 ≤ n) (h : n ≤ m) :
    value table B m s = value table B n s := by
  obtain ⟨k, rfl⟩ := Nat.exists_eq_add_of_le h
  induction k with
  | zero => rfl
  | succ k ih => rw [← Nat.add_assoc, (value_fuel table B _).1 (by omega), ih (by omega)]

end

/-! ## the parts of a document -/

section
variable {σ ν : Type} (Q : σ → Prop) (R : ν → Prop)

mutual

/-- all strings of a document have one property, all numbers another -/
def Value.Parts : Value σ ν → Prop
  | .num n => R n
  | .text s => Q s
  | .array xs => PartsItems xs
  | .object kvs => PartsMembers kvs
  | .null | .bool _ => True

def PartsItems : List (Value σ ν) → Prop
  | [] => True
  | x :: xs => x.Parts ∧ PartsItems xs

def PartsMembers : List (σ × Value σ ν) → Prop
  | [] => True
  | (k, x) :: kvs => (Q k ∧ x.Parts) ∧ PartsMembers kvs

end

theorem partsItems_iff (xs : List (Value σ ν)) : PartsItems Q R xs ↔ ∀ x ∈ xs, x.Parts Q R := by
  induction xs with
  | nil => simp [PartsItems]
  | cons x xs ih => rw [PartsItems, ih, List.forall_mem_cons]

theorem partsMembers_iff (kvs : List (σ × Value σ ν)) :
    PartsMembers Q R kvs ↔ ∀ p ∈ kvs, Q p.1 ∧ p.2.Parts Q R := by
  induction kvs with
  | nil => simp [PartsMembers]
  | cons p kvs ih =>
    obtain ⟨k, x⟩ := p
    rw [PartsMembers, ih, List.forall_mem_cons]

end

/-- a lexeme that stands in a text -/
def Numeral.IsRead {κ : Type} : Numeral κ → Prop
  | .lexeme l => ∃ s r, lexNumber s = some (l, r)
  | .constant _ => True

def Piece.code : Piece → Nat
  | .raw c | .escaped c | .unit c => c

/-- the codes of the pieces of a string -/
def codes (ps : List Piece) : List Nat := ps.map Piece.code

theorem hexDigit_lt {c d : Nat} (h : hexDigit c = some d) : d < 16 := by
  unfold hexDigit at h
  split at h
  · cases h
    omega
  · split at h
    · cases h
      omega
    · split at h
      · cases h
        omega
      · cases h

theorem unitAt_lt {s r : List Nat} {n : Nat} (h : unitAt s = some (n, r)) : n < 65536 := by
  unfold unitAt at h
  split at h
  · rename_i a b c d t
    obtain ⟨m, hm, he⟩ := Option.map_eq_some_iff.mp h
    cases he
    unfold hex4 at hm
    simp only [Option.bind_eq_bind, Option.bind_eq_some_iff, Option.pure_def, Option.some.injEq] at hm
    obtain ⟨a', ha, b', hb, c', hc, d', hd, rfl⟩ := hm
    have ha := hexDigit_lt ha
    have hb := hexDigit_lt hb
    have hc := hexDigit_lt hc
    have hd := hexDigit_lt hd
    omega
  · cases h

theorem escapeOf_lt {e c : Nat} (h : escapeOf e = some c) : c < 128 := by
  unfold escapeOf at h
  repeat' split at h
  all_goals cases h <;> decide

theorem scalar_parts {κ : Type} (table : List (Literal κ)) {Q : List Piece → Prop} {s r : List Nat} {c : ParseTree κ}
    (h : scalar table (plain κ) s = .ok (c, r)) :
    c.Parts Q Numeral.IsRead := by
  unfold scalar at h
  split at h
  · rename_i w rest _
    cases h
    cases w <;> trivial
  · split at h
    · rename_i hnumber
      cases h
      exact ⟨_, _, hnumber⟩
    · split at h
      · cases h
        trivial
      · cases h

section
variable {p : Nat → Prop} (hp : ∀ n < 65536, p n)
include hp

/-- the codes of a string are of the text or code units -/
theorem lexString_codes (s : List Nat) : ∀ {ps : List Piece} {r : List Nat},
    (∀ c ∈ s, p c) → lexString s = some (ps, r) → ∀ c ∈ codes ps, p c := by
  induction s using lexString_induct with
  | nil =>
    intro ps r hs h
    cases h
  | quote s =>
    intro ps r hs h
    rw [lexString_quote] at h
    cases h
    exact fun c hc => absurd hc List.not_mem_nil
  | control c s hcontrol =>
    intro ps r hs h
    rw [lexString_control hcontrol] at h
    cases h
  | slash =>
    intro ps r hs h
    cases h
  | unit s ih =>
    intro ps r hs h
    rw [lexString_unit] at h
    obtain ⟨⟨n, t⟩, hdigits, h⟩ := Option.bind_eq_some_iff.mp h
    obtain ⟨q, hq, he⟩ := Option.map_eq_some_iff.mp h
    cases he
    have ht : ∀ c ∈ t, p c := fun c hc => hs c
      (List.mem_cons_of_mem _ (List.mem_cons_of_mem _ ((unitAt_leaves hdigits).suffix.subset hc)))
    exact List.forall_mem_cons.mpr ⟨hp n (unitAt_lt hdigits), ih n t hdigits ht hq⟩
  | escape e s hunit ih =>
    intro ps r hs h
    rw [lexString_escape hunit] at h
    obtain ⟨x, hx, h⟩ := Option.bind_eq_some_iff.mp h
    obtain ⟨q, hq, he⟩ := Option.map_eq_some_iff.mp h
    cases he
    have ht : ∀ c ∈ s, p c := fun c hc => hs c (List.mem_cons_of_mem _ (List.mem_cons_of_mem _ hc))
    exact List.forall_mem_cons.mpr ⟨hp x (Nat.lt_trans (escapeOf_lt hx) (by decide)), ih ht hq⟩
  | raw c s hquote hcontrol hslash ih =>
    intro ps r hs h
    rw [lexString_raw hquote hcontrol hslash] at h
    obtain ⟨q, hq, he⟩ := Option.map_eq_some_iff.mp h
    cases he
    obtain ⟨hc, hs⟩ := List.forall_mem_cons.mp hs
    exact List.forall_mem_cons.mpr ⟨hc, ih hs hq⟩

variable {κ : Type} (table : List (Literal κ))

/-- **The strings of a tree consist of codes of the text and of code units**, and its numbers stand in it. -/
theorem value_parts (n : Nat) :
    (∀ {s r : List Nat} {c : ParseTree κ}, (∀ c ∈ s, p c) → value table (plain κ) n s = .ok (c, r) →
        c.Parts (fun ps => ∀ c ∈ codes ps, p c) Numeral.IsRead) ∧
      (∀ {s r : List Nat} {kvs : List (List Piece × ParseTree κ)}, (∀ c ∈ s, p c) →
        members table (plain κ) n s = .ok (kvs, r) → PartsMembers (fun ps => ∀ c ∈ codes ps, p c) Numeral.IsRead kvs) ∧
      ∀ {s r : List Nat} {cs : List (ParseTree κ)}, (∀ c ∈ s, p c) → items table (plain κ) n s = .ok (cs, r) →
        PartsItems (fun ps => ∀ c ∈ codes ps, p c) Numeral.IsRead cs := by
  have hsuffix : ∀ {s r : List Nat}, (∀ c ∈ s, p c) → r <:+ s → ∀ c ∈ r, p c :=
    fun hs hr c hc => hs c (hr.subset hc)
  induction n with
  | zero =>
    refine ⟨fun _ h => ?_, fun _ h => ?_, fun _ h => ?_⟩
    · cases h
    · cases h
    · cases h
  | succ n ih =>
    obtain ⟨ihValue, ihMembers, ihItems⟩ := ih
    refine ⟨fun hs h => ?_, fun hs h => ?_, fun {s r vs} hs h => ?_⟩
    · cases value_ok.mp h with
      | emptyObject _ hobject =>
        cases hobject
        trivial
      | object _ hmembers hobject =>
        cases hobject
        exact ihMembers (List.forall_mem_cons.mp hs).2 hmembers
      | emptyArray => trivial
      | array _ hitems => exact ihItems (List.forall_mem_cons.mp hs).2 hitems
      | text hstring => exact lexString_codes hp _ (List.forall_mem_cons.mp hs).2 hstring
      | scalar _ hscalar => exact scalar_parts table hscalar
    · have hhead : ∀ {s s₁ s₂ s₃ : List Nat} {ps : List Piece} {x : ParseTree κ}, (∀ c ∈ s, p c) →
          (expect '"'.toNat s).bind lexString = some (ps, s₁) → expect ':'.toNat s₁ = some s₂ →
            value table (plain κ) n (skipBlanks s₂) = .ok (x, s₃) →
              ((∀ c ∈ codes ps, p c) ∧ x.Parts (fun ps => ∀ c ∈ codes ps, p c) Numeral.IsRead) ∧ ∀ c ∈ s₃, p c := by
        intro s s₁ s₂ s₃ ps x hs hname hcolon hvalue
        obtain ⟨s₀, hquote, hstring⟩ := Option.bind_eq_some_iff.mp hname
        have h₀ := hsuffix hs (expect_leaves hquote).suffix
        have h₁ := hsuffix h₀ (lexString_leaves _ hstring).suffix
        have h₂ := hsuffix h₁ ((skipBlanks_suffix s₂).trans (expect_leaves hcolon).suffix)
        have h₃ := hsuffix h₂ ((value_leaves table (plain κ) n).1 hvalue).suffix
        exact ⟨⟨lexString_codes hp _ h₀ hstring, ihValue h₂ hvalue⟩, h₃⟩
      cases members_ok.mp h with
      | last hname hcolon hvalue =>
        obtain ⟨hmember, -⟩ := hhead hs hname hcolon hvalue
        exact ⟨hmember, trivial⟩
      | more hname hcolon hvalue _ hcomma hmembers =>
        obtain ⟨hmember, h₃⟩ := hhead hs hname hcolon hvalue
        exact ⟨hmember, ihMembers (hsuffix h₃ (expect_leaves hcomma).suffix) hmembers⟩
    · have h₀ := hsuffix hs (skipBlanks_suffix s)
      cases items_ok.mp h with
      | last hvalue => exact ⟨ihValue h₀ hvalue, trivial⟩
      | more hvalue _ hcomma hitems =>
        have h₁ := hsuffix h₀ ((value_leaves table (plain κ) n).1 hvalue).suffix
        exact ⟨ihValue h₀ hvalue, ihItems (hsuffix h₁ (expect_leaves hcomma).suffix) hitems⟩

theorem document_parts {s : List Nat} {c : ParseTree κ} (hs : ∀ c ∈ s, p c) (h : document table (plain κ) s = .ok c) :
    c.Parts (fun ps => ∀ c ∈ codes ps, p c) Numeral.IsRead := by
  obtain ⟨r, hvalue, -⟩ := (document_ok table (plain κ)).mp h
  exact (value_parts hp table _).1 (fun c hc => hs c ((skipBlanks_suffix s).subset hc)) hvalue

end

/-! ## what a reader raises -/

section
variable {ε σ κ α : Type} (table : List (Literal κ)) (B : Builder ε σ κ α) {p : ε → Prop} (hfault : p B.fault)
  (hnumber : ∀ l, Raises p (B.number l)) (hobject : ∀ kvs, Raises p (B.object kvs))
include hfault hnumber hobject

theorem value_raises (n : Nat) : (∀ s, Raises p (value table B n s)) ∧ (∀ s, Raises p (members table B n s)) ∧
    ∀ s, Raises p (items table B n s) := by
  induction n with
  | zero => exact ⟨fun _ => Raises.error hfault, fun _ => Raises.error hfault, fun _ => Raises.error hfault⟩
  | succ n ih =>
    obtain ⟨ihValue, ihMembers, ihItems⟩ := ih
    refine ⟨fun s => ?_, fun s => ?_, fun s => ?_⟩
    · cases s with
      | nil => exact Raises.error hfault
      | cons c s =>
        unfold value
        split
        · split
          · exact Raises.bind (hobject []) fun v _ => Raises.ok _
          · refine Raises.bind (ihMembers s) fun q _ => ?_
            exact Raises.bind (hobject q.1) fun v _ => Raises.ok _
        · split
          · split
            · exact Raises.ok _
            · exact Raises.bind (ihItems s) fun q _ => Raises.ok _
          · split
            · split
              · exact Raises.ok _
              · exact Raises.error hfault
            · unfold scalar
              split
              · exact Raises.ok _
              · split
                · exact Raises.bind (hnumber _) fun v _ => Raises.ok _
                · split
                  · exact Raises.ok _
                  · exact Raises.error hfault
    · unfold members
      split
      · exact Raises.error hfault
      · split
        · exact Raises.error hfault
        · refine Raises.bind (ihValue _) fun q _ => ?_
          dsimp only
          split
          · exact Raises.ok _
          · split
            · exact Raises.error hfault
            · exact Raises.bind (ihMembers _) fun q' _ => Raises.ok _
    · unfold items
      refine Raises.bind (ihValue _) fun q _ => ?_
      dsimp only
      split
      · exact Raises.ok _
      · split
        · exact Raises.error hfault
        · exact Raises.bind (ihItems _) fun q' _ => Raises.ok _

/-- **A reader raises nothing but the fault and what its builder raises.** -/
theorem document_raises (s : List Nat) : Raises p (document table B s) := by
  unfold document
  refine Raises.bind ((value_raises table B hfault hnumber hobject _).1 _) fun q _ => ?_
  dsimp only
  split
  · exact Raises.ok _
  · exact Raises.error hfault

end

end JsonText
