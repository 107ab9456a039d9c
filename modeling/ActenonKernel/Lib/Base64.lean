import ActenonKernel.Lib.PyString
import Mathlib.Data.List.DropRight

/-!
# Base64 in the url-safe alphabet

Three bytes are four digits of six bits.  A last group of one or two bytes leaves bits over, and a
reader that drops them reads several texts as the same bytes.

* `digits`, `bytesOf`        from bytes to digits and back;
* `bytesOf_iff`              the digits that are read as some bytes;
* `normalForm`               the one spelling of what a text is read as;
* `decode_iff`               a text is read as some bytes iff its normal form is what they are written as;
* `decode_encode`            what was written is read back.
-/

set_option linter.unusedSectionVars false

namespace Base64

open PyString (base64Digit b64decode)

/-! ## digits -/

/-- the character of a digit -/
def urlChar (n : Nat) : Char :=
  if n < 26 then Char.ofNat (n + 65)
  else if n < 52 then Char.ofNat (n + 71)
  else if n < 62 then Char.ofNat (n - 4)
  else if n = 62 then '-'
  else '_'

def digits : List UInt8 → List Nat
  | [] => []
  | [x] => [x.toNat / 4, x.toNat % 4 * 16]
  | [x, y] => [x.toNat / 4, x.toNat % 4 * 16 + y.toNat / 16, y.toNat % 16 * 4]
  | x :: y :: z :: rest =>
    x.toNat / 4 :: (x.toNat % 4 * 16 + y.toNat / 16) :: (y.toNat % 16 * 4 + z.toNat / 64) :: z.toNat % 64 :: digits rest

/-- the bytes of groups of four digits; the bits that a last group has over are dropped -/
def bytesOf : List Nat → Option (List UInt8)
  | [] => some []
  | [_] => none
  | [a, b] => some [UInt8.ofNat (4 * a + b / 16)]
  | [a, b, c] => some [UInt8.ofNat (4 * a + b / 16), UInt8.ofNat (16 * b + c / 4)]
  | a :: b :: c :: d :: rest => (bytesOf rest).map fun bytes =>
    UInt8.ofNat (4 * a + b / 16) :: UInt8.ofNat (16 * b + c / 4) :: UInt8.ofNat (64 * c + d) :: bytes

/-- the digits with zeros for the bits that are dropped -/
def clear : List Nat → List Nat
  | [a, b] => [a, b / 16 * 16]
  | [a, b, c] => [a, b, c / 4 * 4]
  | a :: b :: c :: d :: rest => a :: b :: c :: d :: clear rest
  | ds => ds

theorem base64Digit_urlChar {n : Nat} (h : n < 64) : base64Digit (urlChar n) = some n := by
  have hall : ∀ n < 64, base64Digit (urlChar n) = some n := by decide +kernel
  exact hall n h

theorem urlChar_ne {n : Nat} (h : n < 64) : urlChar n ≠ '=' := by
  intro he
  have hd := base64Digit_urlChar h
  rw [he] at hd
  cases (show base64Digit '=' = none by decide).symm.trans hd

theorem base64Digit_lt {c : Char} {n : Nat} (h : base64Digit c = some n) : n < 64 := by
  unfold base64Digit at h
  split_ifs at h <;> cases h <;> omega

theorem digits_lt (bs : List UInt8) : ∀ d ∈ digits bs, d < 64 := by
  induction bs using digits.induct with
  | case1 => exact fun d hd => nomatch hd
  | case2 x =>
    have hx := x.toNat_lt
    simp only [digits, List.forall_mem_cons, List.not_mem_nil, false_implies, implies_true, and_true]
    omega
  | case3 x y =>
    have hx := x.toNat_lt
    have hy := y.toNat_lt
    simp only [digits, List.forall_mem_cons, List.not_mem_nil, false_implies, implies_true, and_true]
    omega
  | case4 x y z rest ih =>
    have hx := x.toNat_lt
    have hy := y.toNat_lt
    have hz := z.toNat_lt
    simp only [digits, List.forall_mem_cons]
    exact ⟨by omega, by omega, by omega, by omega, ih⟩

theorem clear_digits (bs : List UInt8) : clear (digits bs) = digits bs := by
  induction bs using digits.induct with
  | case1 => rfl
  | case2 x => simp only [digits, clear, Nat.mul_div_cancel _ (show 0 < 16 by decide)]
  | case3 x y => simp only [digits, clear, Nat.mul_div_cancel _ (show 0 < 4 by decide)]
  | case4 x y z rest ih => rw [digits, clear, ih]

theorem clear_lt {ds : List Nat} (h : ∀ d ∈ ds, d < 64) : ∀ d ∈ clear ds, d < 64 := by
  induction ds using clear.induct with
  | case1 a b =>
    simp only [clear, List.forall_mem_cons, List.not_mem_nil, false_implies, implies_true, and_true] at h ⊢
    omega
  | case2 a b c =>
    simp only [clear, List.forall_mem_cons, List.not_mem_nil, false_implies, implies_true, and_true] at h ⊢
    omega
  | case3 a b c d rest ih =>
    simp only [clear, List.forall_mem_cons] at h ⊢
    exact ⟨h.1, h.2.1, h.2.2.1, h.2.2.2.1, ih h.2.2.2.2⟩
  | case4 ds h2 h3 h4 => rwa [clear.eq_4 ds h2 h3 h4]

theorem ofNat_eq_iff {n : Nat} {x : UInt8} : UInt8.ofNat n = x ↔ n % 256 = x.toNat := by
  rw [← UInt8.toNat_inj, UInt8.toNat_ofNat']

/-- **The digits that are read as some bytes** are those of the bytes, but for the bits that are
dropped. -/
theorem bytesOf_iff {ds : List Nat} (h : ∀ d ∈ ds, d < 64) {bs : List UInt8} :
    bytesOf ds = some bs ↔ clear ds = digits bs := by
  induction ds using bytesOf.induct generalizing bs with
  | case1 =>
    match bs with
    | [] | [_] | [_, _] | _ :: _ :: _ :: _ => simp [bytesOf, clear, digits]
  | case2 a =>
    match bs with
    | [] | [_] | [_, _] | _ :: _ :: _ :: _ => simp [bytesOf, clear, digits]
  | case3 a b =>
    simp only [List.forall_mem_cons, List.not_mem_nil, false_implies, implies_true, and_true] at h
    match bs with
    | [] | [_, _] | _ :: _ :: _ :: _ => simp [bytesOf, clear, digits]
    | [x] =>
      have hx := x.toNat_lt
      simp only [bytesOf, clear, digits, Option.some.injEq, List.cons.injEq, and_true, ofNat_eq_iff]
      omega
  | case4 a b c =>
    simp only [List.forall_mem_cons, List.not_mem_nil, false_implies, implies_true, and_true] at h
    match bs with
    | [] | [_] | _ :: _ :: _ :: _ => simp [bytesOf, clear, digits]
    | [x, y] =>
      have hx := x.toNat_lt
      have hy := y.toNat_lt
      simp only [bytesOf, clear, digits, Option.some.injEq, List.cons.injEq, and_true, ofNat_eq_iff]
      omega
  | case5 a b c d rest ih =>
    obtain ⟨ha, hb, hc, hd, hrest⟩ : a < 64 ∧ b < 64 ∧ c < 64 ∧ d < 64 ∧ ∀ d ∈ rest, d < 64 := by
      simpa only [List.forall_mem_cons] using h
    match bs with
    | [] | [_] | [_, _] => simp [bytesOf, clear, digits]
    | x :: y :: z :: bytes =>
      have hx := x.toNat_lt
      have hy := y.toNat_lt
      have hz := z.toNat_lt
      simp only [bytesOf, clear, digits, Option.map_eq_some_iff, List.cons.injEq, ← ih hrest, ofNat_eq_iff]
      constructor
      · rintro ⟨bytes', hbytes, h1, h2, h3, rfl⟩
        exact ⟨by omega, by omega, by omega, by omega, hbytes⟩
      · rintro ⟨h1, h2, h3, h4, hbytes⟩
        exact ⟨bytes, hbytes, by omega, by omega, by omega, rfl⟩

/-! ## texts -/

/-- how many `=` complete a text of this length -/
def padding (length : Nat) : Nat := (4 - length % 4) % 4

/-- `base64.urlsafe_b64encode(raw)` -/
def urlsafeEncode (raw : List UInt8) : List Char :=
  (digits raw).map urlChar ++ List.replicate (padding (digits raw).length) '='

/-- `s.rstrip("=")` -/
def rstrip (cs : List Char) : List Char := cs.rdropWhile (· = '=')

/-- how much padding is read: no more than completes the last group, or any amount where the groups
are complete -/
def Padded (digits pads : Nat) : Prop := pads ≤ padding digits ∨ 0 < digits ∧ digits % 4 = 0

instance (digits pads : Nat) : Decidable (Padded digits pads) := inferInstanceAs (Decidable (_ ∨ _))

/-- the only text in the url-safe alphabet, without padding and with zeros for the dropped bits, that is
read as this one is -/
def normalForm (raw : List Char) : Option (List Char) :=
  if Padded (rstrip raw).length (raw.length - (rstrip raw).length) then
    ((rstrip raw).mapM base64Digit).map fun ds => (clear ds).map urlChar
  else none

/-! ## reading -/

/-- `base64.b64decode(raw + padding, altchars=b"-_", validate=True)` with the padding the length asks for -/
def decode (raw : List Char) : Option (List UInt8) := b64decode (raw ++ List.replicate (padding raw.length) '=')

/-- `urlsafe_b64encode(raw)` without padding -/
def encode (raw : List UInt8) : List Char := rstrip (urlsafeEncode raw)

theorem b64decode_group {d : Char} (hd : d ≠ '=') (a b c : Char) (rest : List Char) :
    b64decode (a :: b :: c :: d :: rest) = (do
      let a ← base64Digit a
      let b ← base64Digit b
      let c ← base64Digit c
      let d ← base64Digit d
      let bytes ← (if rest.all (· = '=') then some [] else b64decode rest)
      return UInt8.ofNat (4 * a + b / 16) :: UInt8.ofNat (16 * b + c / 4) :: UInt8.ofNat (64 * c + d) :: bytes) := by
  rw [b64decode]
  · exact fun _ h => absurd h hd
  · exact fun h => absurd h hd

/-- the rest of a text that does not end in `=` is read by itself -/
theorem all_pad {t : List Char} (hne : t ≠ []) (ht : t.getLast? ≠ some '=') (m : Nat) :
    (t ++ List.replicate m '=').all (· = '=') = false := by
  rw [← Bool.not_eq_true, List.all_eq_true]
  intro hall
  have hlast := hall _ (List.mem_append_left _ (List.getLast_mem hne))
  exact ht ((List.getLast?_eq_getLast_of_ne_nil hne).trans (congrArg some (of_decide_eq_true hlast)))

theorem base64Digit_pad : base64Digit '=' = none := by decide

/-- padding in the first half of a group is not read -/
theorem b64decode_half (a b c d : Char) (rest : List Char) (h : a = '=' ∨ b = '=') :
    b64decode (a :: b :: c :: d :: rest) = none := by
  have hfail : ∀ {α : Type} (f : Nat → Nat → Option α), (base64Digit a >>= fun x => base64Digit b >>= f x) = none := by
    intro α f
    rcases h with rfl | rfl
    · rw [base64Digit_pad]
      rfl
    · rw [base64Digit_pad]
      cases base64Digit a <;> rfl
  unfold b64decode
  split
  · rename_i heq
    cases heq
  · rename_i heq
    cases heq
    exact hfail _
  · rename_i heq
    cases heq
    exact hfail _
  · rename_i heq
    cases heq
    exact hfail _
  · rfl

/-- nor is padding in a group before the last -/
theorem b64decode_early (a b c e : Char) (rest : List Char) :
    b64decode (a :: b :: c :: '=' :: e :: rest) = none := by
  rw [b64decode]
  · rw [base64Digit_pad]
    cases base64Digit a <;> cases base64Digit b <;> cases base64Digit c <;> rfl
  · exact fun _ _ h => nomatch h
  · exact fun _ h => nomatch h

theorem b64decode_two (a b : Char) : b64decode [a, b, '=', '='] = ([a, b].mapM base64Digit).bind bytesOf := by
  rw [b64decode, List.mapM_cons, List.mapM_cons, List.mapM_nil]
  cases base64Digit a <;> cases base64Digit b <;> rfl

theorem b64decode_three {c : Char} (hc : c ≠ '=') (a b : Char) :
    b64decode [a, b, c, '='] = ([a, b, c].mapM base64Digit).bind bytesOf := by
  rw [b64decode, List.mapM_cons, List.mapM_cons, List.mapM_cons, List.mapM_nil]
  · cases base64Digit a <;> cases base64Digit b <;> cases base64Digit c <;> rfl
  · exact hc

/-- the digits of a group, and those after it -/
theorem bytesOf_group (a b c d : Char) (rest : List Char) :
    ((a :: b :: c :: d :: rest).mapM base64Digit).bind bytesOf = (do
      let a ← base64Digit a
      let b ← base64Digit b
      let c ← base64Digit c
      let d ← base64Digit d
      let bytes ← (rest.mapM base64Digit).bind bytesOf
      return UInt8.ofNat (4 * a + b / 16) :: UInt8.ofNat (16 * b + c / 4) :: UInt8.ofNat (64 * c + d) :: bytes) := by
  simp only [List.mapM_cons]
  cases base64Digit a <;> cases base64Digit b <;> cases base64Digit c <;> cases base64Digit d <;>
    cases rest.mapM base64Digit <;> try rfl
  rename_i vs
  show (bytesOf vs).map _ = (bytesOf vs).bind fun bytes => some _
  cases bytesOf vs <;> rfl

theorem padded_group {length : Nat} (h : 0 < length) (m : Nat) : Padded (length + 4) m ↔ Padded length m := by
  simp only [Padded, padding]
  omega

/-- **A text with padding that is read is read digit by digit**; with any other padding it is not
read. -/
theorem decode_padded (t : List Char) (m : Nat) (ht : t.getLast? ≠ some '=') (hm : (t.length + m) % 4 = 0) :
    b64decode (t ++ List.replicate m '=') = if Padded t.length m then (t.mapM base64Digit).bind bytesOf else none := by
  match t, ht, hm with
  | [], _, hm =>
    match m, hm with
    | 0, _ => rfl
    | m + 4, _ =>
      rw [if_neg (by simp [Padded, padding])]
      exact b64decode_half '=' '=' '=' '=' (List.replicate m '=') (.inl rfl)
  | [a], _, hm =>
    have hnone : ([a].mapM base64Digit).bind bytesOf = none := by
      rw [List.mapM_cons, List.mapM_nil]
      cases base64Digit a <;> rfl
    rw [hnone, ite_self]
    match m, hm with
    | m + 3, _ => exact b64decode_half a '=' '=' '=' (List.replicate m '=') (.inr rfl)
  | [a, b], _, hm =>
    match m, hm with
    | 2, _ => exact b64decode_two a b
    | m + 3, hm =>
      rw [if_neg (by simp [Padded, padding])]
      exact b64decode_early a b '=' '=' (List.replicate m '=')
  | [a, b, c], ht, hm =>
    have hc : c ≠ '=' := fun h => ht (congrArg some h)
    match m, hm with
    | 1, _ => exact b64decode_three hc a b
    | m + 2, hm =>
      rw [if_neg (by simp [Padded, padding])]
      exact b64decode_early a b c '=' (List.replicate m '=')
  | [a, b, c, d], ht, _ =>
    -- padding after complete groups is read, however much it is
    have hd : d ≠ '=' := fun h => ht (congrArg some h)
    have hall : (List.replicate m '=').all (· = '=') = true :=
      List.all_eq_true.mpr fun e he => decide_eq_true (List.eq_of_mem_replicate he)
    have hcomplete : Padded [a, b, c, d].length m := .inr (by simp)
    rw [if_pos hcomplete, bytesOf_group]
    show b64decode (a :: b :: c :: d :: List.replicate m '=') = _
    rw [b64decode_group hd, if_pos hall]
    rfl
  | a :: b :: c :: d :: e :: rest, ht, hm =>
    have hne : e :: rest ≠ [] := List.cons_ne_nil e rest
    have hrest := decode_padded (e :: rest) m ht (by simp only [List.length_cons] at hm ⊢; omega)
    have hpadded : Padded (a :: b :: c :: d :: e :: rest).length m ↔ Padded (e :: rest).length m :=
      padded_group (Nat.succ_pos _) m
    show b64decode (a :: b :: c :: d :: (e :: rest ++ List.replicate m '=')) = _
    simp only [hpadded]
    by_cases hd : d = '='
    · -- padding before the last group is no digit
      rw [hd, List.cons_append, b64decode_early, bytesOf_group, base64Digit_pad]
      cases base64Digit a <;> cases base64Digit b <;> cases base64Digit c <;> simp
    · rw [b64decode_group hd, all_pad hne ht, if_neg Bool.false_ne_true, hrest, bytesOf_group]
      split_ifs
      · rfl
      · cases base64Digit a <;> cases base64Digit b <;> cases base64Digit c <;> cases base64Digit d <;> rfl

/-! ## round trip -/

theorem rstrip_padded (t : List Char) (ht : t.getLast? ≠ some '=') (m : Nat) :
    rstrip (t ++ List.replicate m '=') = t := by
  induction m with
  | zero =>
    rw [List.replicate_zero, List.append_nil]
    refine List.rdropWhile_eq_self_iff.mpr fun hne h => ht ?_
    rw [List.getLast?_eq_getLast_of_ne_nil hne]
    exact congrArg some (of_decide_eq_true h)
  | succ m ih =>
    rw [List.replicate_succ', ← List.append_assoc, rstrip, List.rdropWhile_concat_pos _ _ _ (by decide)]
    exact ih

/-- a text is what is left of it, and padding -/
theorem rstrip_spec (raw : List Char) :
    (rstrip raw).getLast? ≠ some '=' ∧ ∃ k, raw = rstrip raw ++ List.replicate k '=' := by
  induction raw using List.reverseRecOn with
  | nil => exact ⟨by decide, 0, rfl⟩
  | append_singleton cs c ih =>
    by_cases hc : c = '='
    · have hstrip : rstrip (cs ++ [c]) = rstrip cs := List.rdropWhile_concat_pos _ _ _ (decide_eq_true hc)
      obtain ⟨hlast, k, hk⟩ := ih
      refine ⟨hstrip ▸ hlast, k + 1, ?_⟩
      rw [hstrip, List.replicate_succ', ← List.append_assoc, ← hk, hc]
    · have hstrip : rstrip (cs ++ [c]) = cs ++ [c] :=
        List.rdropWhile_concat_neg _ _ _ fun h => hc (of_decide_eq_true h)
      rw [hstrip, List.getLast?_concat]
      refine ⟨fun h => hc (Option.some.inj h), 0, ?_⟩
      rw [List.replicate_zero, List.append_nil]

theorem mapM_urlChar {ds : List Nat} (h : ∀ d ∈ ds, d < 64) : (ds.map urlChar).mapM base64Digit = some ds := by
  induction ds with
  | nil => rfl
  | cons d ds ih =>
    obtain ⟨hd, hds⟩ := List.forall_mem_cons.mp h
    rw [List.map_cons, List.mapM_cons, base64Digit_urlChar hd, ih hds]
    rfl

theorem encode_eq (bs : List UInt8) : encode bs = (digits bs).map urlChar := by
  refine rstrip_padded _ ?_ _
  intro h
  obtain ⟨d, hd, he⟩ := List.mem_map.mp (List.mem_of_getLast? h)
  exact urlChar_ne (digits_lt bs d hd) he

theorem mapM_lt {t : List Char} {ds : List Nat} (h : t.mapM base64Digit = some ds) : ∀ d ∈ ds, d < 64 := by
  induction t generalizing ds with
  | nil =>
    cases h
    exact List.forall_mem_nil _
  | cons c t ih =>
    rw [List.mapM_cons] at h
    obtain ⟨d, hd, h⟩ := Option.bind_eq_some_iff.mp h
    obtain ⟨ds', hds, h⟩ := Option.bind_eq_some_iff.mp h
    cases h
    exact List.forall_mem_cons.mpr ⟨base64Digit_lt hd, ih hds⟩

theorem map_urlChar_inj {ds es : List Nat} (hds : ∀ d ∈ ds, d < 64) (hes : ∀ e ∈ es, e < 64) :
    ds.map urlChar = es.map urlChar ↔ ds = es := by
  refine ⟨fun h => ?_, fun h => congrArg _ h⟩
  have hmap := congrArg (List.mapM base64Digit) h
  rw [mapM_urlChar hds, mapM_urlChar hes] at hmap
  exact Option.some.inj hmap

/-- **A text is read as some bytes iff its normal form is what the bytes are written as.** -/
theorem decode_iff {raw : List Char} {bs : List UInt8} : decode raw = some bs ↔ normalForm raw = some (encode bs) := by
  obtain ⟨hlast, k, hk⟩ := rstrip_spec raw
  have hlength : raw.length = (rstrip raw).length + k := by
    conv_lhs => rw [hk]
    rw [List.length_append, List.length_replicate]
  have hpadded : raw ++ List.replicate (padding raw.length) '=' =
      rstrip raw ++ List.replicate (k + padding raw.length) '=' := by
    rw [List.replicate_add, ← List.append_assoc, ← hk]
  have hgroups : ((rstrip raw).length + (k + padding raw.length)) % 4 = 0 := by
    rw [hlength, padding]
    omega
  have hasked : Padded (rstrip raw).length (k + padding raw.length) ↔
      Padded (rstrip raw).length (raw.length - (rstrip raw).length) := by
    rw [hlength]
    simp only [Padded, padding]
    omega
  rw [decode, hpadded, decode_padded _ _ hlast hgroups, normalForm, encode_eq]
  simp only [hasked]
  split_ifs with h
  · cases hds : (rstrip raw).mapM base64Digit with
    | none => simp
    | some ds =>
      have hlt := mapM_lt hds
      rw [Option.bind_some, Option.map_some, Option.some.injEq, bytesOf_iff hlt,
        map_urlChar_inj (clear_lt hlt) (digits_lt bs)]
  · exact iff_of_false (by simp) (by simp)

theorem normalForm_encode (bs : List UInt8) : normalForm (encode bs) = some (encode bs) := by
  have hstrip : rstrip (encode bs) = encode bs := List.rdropWhile_idempotent _ _
  have hpadded : Padded (encode bs).length ((encode bs).length - (encode bs).length) :=
    .inl (by rw [Nat.sub_self]; exact Nat.zero_le _)
  rw [normalForm, hstrip, if_pos hpadded, encode_eq, mapM_urlChar (digits_lt bs), Option.map_some,
    clear_digits]

/-- what was written is read back -/
theorem decode_encode (bs : List UInt8) : decode (encode bs) = some bs := decode_iff.mpr (normalForm_encode bs)

theorem encode_inj {bs bs' : List UInt8} (h : encode bs = encode bs') : bs = bs' := by
  have hdecode := decode_encode bs
  rw [h, decode_encode] at hdecode
  exact (Option.some.inj hdecode).symm

end Base64
