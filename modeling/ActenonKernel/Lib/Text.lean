import ActenonKernel.Lib.Hex
import Mathlib.Data.List.Forall2

/-!
# Texts that can be read in one way only

A text in a document is followed by the rest of the document.  A code is readable when two
documents that begin with codes of values, and go on in any way, are only equal when they begin
with the same code and go on in the same way.

* `Stops r`           the rest does not go on with a digit;
* `digits_cancel`     a decimal number ends where its digits end;
* `quote`             a JSON string literal, and `quote_cancel` that it ends at its own quote;
* `joined_cancel`     a bracketed list of readable texts, separated by commas, is readable.
-/

set_option linter.unusedSectionVars false

namespace Text

/-! ## decimal numbers -/

/-- no digit follows -/
def Stops (r : List Char) : Prop := ∀ c ∈ r.head?, c.isDigit = false

theorem stops_nil : Stops [] := fun c h => by cases h

theorem stops_cons {c : Char} (r : List Char) (h : c.isDigit = false) : Stops (c :: r) := by
  intro d hd
  cases hd
  exact h

/-- two runs of digits that are followed by no digit -/
theorem run_cancel (ds es r r' : List Char) (hd : ∀ c ∈ ds, c.isDigit = true)
    (he : ∀ c ∈ es, c.isDigit = true) (hr : Stops r) (hr' : Stops r') (h : ds ++ r = es ++ r') :
    ds = es ∧ r = r' := by
  induction ds generalizing es with
  | nil =>
    cases es with
    | nil => exact ⟨rfl, h⟩
    | cons e es =>
      have h1 : e.isDigit = false := hr e (by rw [List.nil_append] at h; rw [h]; rfl)
      rw [he e (by simp)] at h1
      cases h1
  | cons d ds ih =>
    cases es with
    | nil =>
      have h1 : d.isDigit = false := hr' d (by rw [List.nil_append] at h; rw [← h]; rfl)
      rw [hd d (by simp)] at h1
      cases h1
    | cons e es =>
      rw [List.cons_append, List.cons_append] at h
      obtain ⟨h1, h2⟩ := List.cons.inj h
      obtain ⟨h3, h4⟩ := ih es (fun c hc => hd c (by simp [hc])) (fun c hc => he c (by simp [hc])) h2
      exact ⟨by rw [h1, h3], h4⟩

theorem digits_cancel (m n : Nat) (r r' : List Char) (hr : Stops r) (hr' : Stops r')
    (h : Nat.toDigits 10 m ++ r = Nat.toDigits 10 n ++ r') : m = n ∧ r = r' := by
  have hd : ∀ k : Nat, ∀ c ∈ Nat.toDigits 10 k, c.isDigit = true := fun k c hc =>
    Nat.isDigit_of_mem_toDigits (by decide) (by decide) hc
  obtain ⟨h1, h2⟩ := run_cancel _ _ r r' (hd m) (hd n) hr hr' h
  refine ⟨?_, h2⟩
  have e := Nat.ofDigitChars_ten_toDigits (n := m)
  rw [h1, Nat.ofDigitChars_ten_toDigits] at e
  exact e.symm

/-- the text of an integer -/
def intText (n : Int) : List Char :=
  if n < 0 then '-' :: Nat.toDigits 10 n.natAbs else Nat.toDigits 10 n.natAbs

theorem head_toDigits (n : Nat) : ∃ c ds, Nat.toDigits 10 n = c :: ds ∧ c.isDigit = true := by
  cases h : Nat.toDigits 10 n with
  | nil => exact absurd h Nat.toDigits_ne_nil
  | cons c ds =>
    refine ⟨c, ds, rfl, Nat.isDigit_of_mem_toDigits (b := 10) (n := n) (by decide) (by decide) ?_⟩
    rw [h]
    exact List.mem_cons_self

/-- the first character of an integer -/
theorem head_intText (n : Int) : ∃ c ds, intText n = c :: ds ∧ (c = '-' ∨ c.isDigit = true) := by
  unfold intText
  split
  · exact ⟨_, _, rfl, Or.inl rfl⟩
  · obtain ⟨c, ds, h, hc⟩ := head_toDigits n.natAbs
    exact ⟨c, ds, h, Or.inr hc⟩

theorem intText_cancel (m n : Int) (r r' : List Char) (hr : Stops r) (hr' : Stops r')
    (h : intText m ++ r = intText n ++ r') : m = n ∧ r = r' := by
  obtain ⟨c, ds, hc, hcd⟩ := head_toDigits m.natAbs
  obtain ⟨d, es, hd, hdd⟩ := head_toDigits n.natAbs
  have hm : Char.isDigit '-' = false := by decide
  unfold intText at h
  split at h
  · split at h
    · obtain ⟨h1, h2⟩ := digits_cancel _ _ r r' hr hr' (List.cons.inj h).2
      exact ⟨by omega, h2⟩
    · rw [hd] at h
      have e : '-' = d := (List.cons.inj h).1
      rw [← e, hm] at hdd
      cases hdd
  · split at h
    · rw [hc] at h
      have e : c = '-' := (List.cons.inj h).1
      rw [e, hm] at hcd
      cases hcd
    · obtain ⟨h1, h2⟩ := digits_cancel _ _ r r' hr hr' h
      exact ⟨by omega, h2⟩

/-! ## string literals -/

/-- the escape of a character in a JSON string literal -/
def escape (c : Char) : List Char :=
  if c = '"' then ['\\', '"']
  else if c = '\\' then ['\\', '\\']
  else if c = '\n' then ['\\', 'n']
  else if c = '\r' then ['\\', 'r']
  else if c = '\t' then ['\\', 't']
  else if c = '\x0c' then ['\\', 'f']
  else if c = '\x08' then ['\\', 'b']
  else if c.toNat < 32 then
    ['\\', 'u', '0', '0', Hex.digit (c.toNat / 16), Hex.digit (c.toNat % 16)]
  else [c]

/-- read one escaped character -/
def unescape : List Char → Option (Char × List Char)
  | '\\' :: 'n' :: r => some ('\n', r)
  | '\\' :: 'r' :: r => some ('\r', r)
  | '\\' :: 't' :: r => some ('\t', r)
  | '\\' :: 'f' :: r => some ('\x0c', r)
  | '\\' :: 'b' :: r => some ('\x08', r)
  | '\\' :: 'u' :: _ :: _ :: h :: l :: r => do
    let hi ← Hex.value h
    let lo ← Hex.value l
    return (Char.ofNat (16 * hi + lo), r)
  | '\\' :: c :: r => some (c, r)
  | c :: r => some (c, r)
  | [] => none

theorem unescape_escape (c : Char) (r : List Char) : unescape (escape c ++ r) = some (c, r) := by
  unfold escape
  split_ifs with h1 h2 h3 h4 h5 h6 h7 h8
  · subst h1; rfl
  · subst h2; rfl
  · subst h3; rfl
  · subst h4; rfl
  · subst h5; rfl
  · subst h6; rfl
  · subst h7; rfl
  · have e : 16 * (c.toNat / 16) + c.toNat % 16 = c.toNat := by omega
    simp only [List.cons_append, List.nil_append, unescape,
      Hex.value_digit (show c.toNat / 16 < 16 by omega),
      Hex.value_digit (show c.toNat % 16 < 16 by omega), Option.bind_eq_bind, Option.bind_some, e,
      Char.ofNat_toNat]
    rfl
  · rw [List.singleton_append]
    unfold unescape
    split <;> simp_all

theorem escape_ne_quote (c : Char) (r : List Char) : (escape c ++ r).head? ≠ some '"' := by
  unfold escape
  split_ifs <;> simp_all

/-- a string literal -/
def quote (s : String) : List Char := '"' :: (s.toList.flatMap escape ++ ['"'])

theorem body_cancel (s t r r' : List Char)
    (h : s.flatMap escape ++ '"' :: r = t.flatMap escape ++ '"' :: r') : s = t ∧ r = r' := by
  induction s generalizing t with
  | nil =>
    cases t with
    | nil => exact ⟨rfl, (List.cons.inj h).2⟩
    | cons d t =>
      refine absurd ?_ (escape_ne_quote d (t.flatMap escape ++ '"' :: r'))
      rw [List.flatMap_cons, List.append_assoc] at h
      rw [← h]
      rfl
  | cons c s ih =>
    cases t with
    | nil =>
      refine absurd ?_ (escape_ne_quote c (s.flatMap escape ++ '"' :: r))
      rw [List.flatMap_cons, List.append_assoc] at h
      rw [h]
      rfl
    | cons d t =>
      rw [List.flatMap_cons, List.flatMap_cons, List.append_assoc, List.append_assoc] at h
      have e := unescape_escape c (s.flatMap escape ++ '"' :: r)
      rw [h, unescape_escape] at e
      obtain ⟨h1, h2⟩ := Prod.mk.inj (Option.some.inj e)
      obtain ⟨h3, h4⟩ := ih t h2.symm
      exact ⟨by rw [h1, h3], h4⟩

theorem quote_cancel (s t : String) (r r' : List Char) (h : quote s ++ r = quote t ++ r') :
    s = t ∧ r = r' := by
  unfold quote at h
  rw [List.cons_append, List.cons_append, List.append_assoc, List.append_assoc] at h
  obtain ⟨h1, h2⟩ := body_cancel _ _ r r' (List.cons.inj h).2
  exact ⟨String.toList_injective h1, h2⟩

/-! ## bracketed lists -/

/-- `open + ",".join(ts) + close` -/
def joined (op cl : Char) (ts : List (List Char)) : List Char :=
  op :: (List.intercalate [','] ts ++ [cl])

/-- what follows an item: the other items, each after a comma, and the closing bracket -/
def following (cl : Char) : List (List Char) → List Char
  | [] => [cl]
  | t :: ts => ',' :: (t ++ following cl ts)

theorem joined_cons (op cl : Char) (t : List Char) (ts : List (List Char)) :
    joined op cl (t :: ts) = op :: (t ++ following cl ts) := by
  unfold joined
  congr 1
  induction ts generalizing t with
  | nil => rw [List.intercalate_singleton]; rfl
  | cons u us ih =>
    rw [List.intercalate_cons_cons, following, ← ih u]
    simp

/-- an item of a list is a part of its text -/
theorem infix_joined (op cl : Char) {t : List Char} {ts : List (List Char)} (h : t ∈ ts) :
    t <:+: joined op cl ts := by
  have hfollow : ∀ us : List (List Char), t ∈ us → t <:+: following cl us := by
    intro us hus
    induction us with
    | nil => cases hus
    | cons u us ih =>
      rw [following]
      rcases List.mem_cons.mp hus with rfl | hmem
      · exact (List.prefix_append t _).isInfix.trans (List.suffix_cons _ _).isInfix
      · exact (ih hmem).trans ((List.suffix_append u _).isInfix.trans (List.suffix_cons _ _).isInfix)
  cases ts with
  | nil => cases h
  | cons u us =>
    rw [joined_cons]
    rcases List.mem_cons.mp h with rfl | hmem
    · exact (List.prefix_append t _).isInfix.trans (List.suffix_cons _ _).isInfix
    · exact (hfollow us hmem).trans ((List.suffix_append u _).isInfix.trans (List.suffix_cons _ _).isInfix)

section
variable {α : Type} (text : α → List Char) (R : α → α → Prop)

/-- the texts of two lists of values determine the values and the rest -/
def Readable (xs ys : List α) : Prop :=
  ∀ x ∈ xs, ∀ y ∈ ys, ∀ r r', Stops r → Stops r' → text x ++ r = text y ++ r' → R x y ∧ r = r'

theorem stops_following (cl : Char) (hd : cl.isDigit = false) (ts : List (List Char))
    (r : List Char) : Stops (following cl ts ++ r) := by
  cases ts with
  | nil => exact stops_cons _ hd
  | cons t ts => exact stops_cons _ (by decide)

theorem following_cancel (cl : Char) (hc : cl ≠ ',') (hd : cl.isDigit = false) (xs ys : List α)
    (hread : Readable text R xs ys) (r r' : List Char)
    (h : following cl (xs.map text) ++ r = following cl (ys.map text) ++ r') :
    List.Forall₂ R xs ys ∧ r = r' := by
  induction xs generalizing ys with
  | nil =>
    cases ys with
    | nil => exact ⟨List.Forall₂.nil, (List.cons.inj h).2⟩
    | cons y ys => exact absurd (List.cons.inj h).1 hc
  | cons x xs ih =>
    cases ys with
    | nil => exact absurd (List.cons.inj h).1.symm hc
    | cons y ys =>
      have h1 : text x ++ following cl (xs.map text) ++ r = text y ++ following cl (ys.map text) ++ r' :=
        (List.cons.inj h).2
      rw [List.append_assoc, List.append_assoc] at h1
      obtain ⟨h2, h3⟩ := hread x (by simp) y (by simp) _ _ (stops_following cl hd _ r)
        (stops_following cl hd _ r') h1
      obtain ⟨h4, h5⟩ := ih ys (fun a ha b hb => hread a (by simp [ha]) b (by simp [hb])) h3
      exact ⟨List.Forall₂.cons h2 h4, h5⟩

/-- **A bracketed list of readable texts is readable.** -/
theorem joined_cancel (op cl : Char) (hc : cl ≠ ',') (hd : cl.isDigit = false) (xs ys : List α)
    (hread : Readable text R xs ys) (hx : ∀ x ∈ xs, ∀ r, (text x ++ r).head? ≠ some cl)
    (hy : ∀ y ∈ ys, ∀ r, (text y ++ r).head? ≠ some cl) (r r' : List Char)
    (h : joined op cl (xs.map text) ++ r = joined op cl (ys.map text) ++ r') :
    List.Forall₂ R xs ys ∧ r = r' := by
  cases xs with
  | nil =>
    cases ys with
    | nil => exact ⟨List.Forall₂.nil, by simpa [joined] using h⟩
    | cons y ys =>
      rw [List.map_cons, joined_cons, List.cons_append, List.append_assoc] at h
      refine absurd ?_ (hy y (by simp) (following cl (ys.map text) ++ r'))
      rw [← (List.cons.inj h).2]
      rfl
  | cons x xs =>
    cases ys with
    | nil =>
      rw [List.map_cons, joined_cons, List.cons_append, List.append_assoc] at h
      refine absurd ?_ (hx x (by simp) (following cl (xs.map text) ++ r))
      rw [(List.cons.inj h).2]
      rfl
    | cons y ys =>
      rw [List.map_cons, List.map_cons, joined_cons, joined_cons, List.cons_append,
        List.cons_append, List.append_assoc, List.append_assoc] at h
      obtain ⟨h2, h3⟩ := hread x (by simp) y (by simp) _ _ (stops_following cl hd _ r)
        (stops_following cl hd _ r') (List.cons.inj h).2
      obtain ⟨h4, h5⟩ := following_cancel text R cl hc hd xs ys
        (fun a ha b hb => hread a (by simp [ha]) b (by simp [hb])) r r' h3
      exact ⟨List.Forall₂.cons h2 h4, h5⟩

end

/-! ## bytes -/

/-- `text.encode("utf-8")` -/
def utf8 (cs : List Char) : List UInt8 := cs.flatMap String.utf8EncodeChar

theorem utf8_injective {cs ds : List Char} (h : utf8 cs = utf8 ds) : cs = ds := by
  have e : cs.utf8Encode = ds.utf8Encode := congrArg List.toByteArray h
  have e' := List.utf8Decode?_utf8Encode (l := cs)
  rw [e, List.utf8Decode?_utf8Encode] at e'
  have e'' := congrArg Array.toList (Option.some.inj e')
  exact e''.symm

/-- a part of a text has no more bytes than the text -/
theorem utf8_length_infix {s t : List Char} (h : s <:+: t) : (utf8 s).length ≤ (utf8 t).length := by
  obtain ⟨a, b, rfl⟩ := h
  unfold utf8
  rw [List.flatMap_append, List.flatMap_append, List.length_append, List.length_append]
  omega

end Text
