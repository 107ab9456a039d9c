import ActenonKernel.Lib.Text
import Mathlib.Data.String.Basic

/-!
# The order of encoded texts

Comparing two texts by their UTF-8 bytes is comparing them by their code points: the code of a
character is never the beginning of the code of another one, and a larger code point has the larger
code.

* `encode_lt`        the codes of two characters, whatever follows them;
* `utf8_lt_iff`      the codes of two texts;
* `bufferCompare`    the three-way comparison of byte sequences.
-/

set_option linter.unusedSectionVars false

namespace Text

/-! ## one character -/

/-- the order of two numbers is that of their quotients, then of their remainders -/
theorem digit_lt {b m n : Nat} (h : m < n) : m / b < n / b ∨ m / b = n / b ∧ m % b < n % b := by
  have hle : m / b ≤ n / b := Nat.div_le_div_right (Nat.le_of_lt h)
  rcases Nat.lt_or_eq_of_le hle with hlt | heq
  · exact Or.inl hlt
  · have hm := Nat.div_add_mod m b
    have hn := Nat.div_add_mod n b
    rw [heq] at hm
    exact Or.inr ⟨heq, by omega⟩

theorem byte_lt {a b : Nat} (ha : a < 256) (hb : b < 256) : UInt8.ofNat a < UInt8.ofNat b ↔ a < b := by
  rw [UInt8.lt_iff_toNat_lt, UInt8.toNat_ofNat_of_lt' ha, UInt8.toNat_ofNat_of_lt' hb]

theorem byte_eq {a b : Nat} (ha : a < 256) (hb : b < 256) : UInt8.ofNat a = UInt8.ofNat b ↔ a = b := by
  rw [← UInt8.toNat_inj, UInt8.toNat_ofNat_of_lt' ha, UInt8.toNat_ofNat_of_lt' hb]

theorem codePoint_lt (c : Char) : c.val.toNat < 0x110000 := by
  rcases c.valid with h | h
  · exact Nat.lt_trans h (by decide)
  · exact h.2

/-- **A larger character has the larger code**, whatever follows the two codes. -/
theorem encode_lt {c d : Char} (h : c < d) (r r' : List UInt8) :
    String.utf8EncodeChar c ++ r < String.utf8EncodeChar d ++ r' := by
  have hc := codePoint_lt c
  have hd := codePoint_lt d
  have hv : c.val.toNat < d.val.toNat := h
  unfold String.utf8EncodeChar
  dsimp only
  generalize c.val.toNat = m at *
  generalize d.val.toNat = n at *
  -- the digits to the base 64, from the last one up
  have h1 := digit_lt (b := 64) hv
  have h2 : m / 64 < n / 64 →
      m / 4096 < n / 4096 ∨ m / 4096 = n / 4096 ∧ m / 64 % 64 < n / 64 % 64 := by
    intro hq
    have hq' := digit_lt (b := 64) hq
    rwa [Nat.div_div_eq_div_mul, Nat.div_div_eq_div_mul] at hq'
  have h3 : m / 4096 < n / 4096 →
      m / 262144 < n / 262144 ∨ m / 262144 = n / 262144 ∧ m / 4096 % 64 < n / 4096 % 64 := by
    intro hq
    have hq' := digit_lt (b := 64) hq
    rwa [Nat.div_div_eq_div_mul, Nat.div_div_eq_div_mul] at hq'
  have hlead : m / 262144 % 8 = m / 262144 ∧ n / 262144 % 8 = n / 262144 := by omega
  split_ifs <;> simp (disch := omega) only [List.cons_append, List.nil_append, List.cons_lt_cons_iff,
    byte_lt, byte_eq, hlead.1, hlead.2] <;> omega

/-! ## texts -/

theorem utf8_cons (c : Char) (cs : List Char) : utf8 (c :: cs) = String.utf8EncodeChar c ++ utf8 cs := rfl

theorem utf8_lt_of_lt {cs ds : List Char} (h : cs < ds) : utf8 cs < utf8 ds := by
  induction h with
  | @nil d ds =>
    rw [utf8_cons]
    cases he : String.utf8EncodeChar d with
    | nil => exact absurd he String.utf8EncodeChar_ne_nil
    | cons b bs => exact List.nil_lt_cons _ _
  | @rel c cs d ds hcd => exact encode_lt hcd _ _
  | @cons c cs ds hlt ih =>
    rw [utf8_cons, utf8_cons]
    exact List.append_left_lt ih

/-- **The order of encoded texts is the order of the texts.** -/
theorem utf8_lt_iff (cs ds : List Char) : utf8 cs < utf8 ds ↔ cs < ds := by
  refine ⟨fun h => ?_, utf8_lt_of_lt⟩
  rcases lt_trichotomy cs ds with hlt | heq | hgt
  · exact hlt
  · rw [heq] at h
    exact absurd h (List.lt_irrefl _)
  · exact absurd (List.lt_trans h (utf8_lt_of_lt hgt)) (List.lt_irrefl _)

/-! ## the three-way comparison -/

/-- `Buffer.compare(a, b)`: byte after byte, a beginning before what it begins -/
def bufferCompare : List UInt8 → List UInt8 → Ordering
  | [], [] => .eq
  | [], _ :: _ => .lt
  | _ :: _, [] => .gt
  | a :: as, b :: bs => if a < b then .lt else if b < a then .gt else bufferCompare as bs

theorem bufferCompare_gt_iff (a b : List UInt8) : bufferCompare a b = .gt ↔ b < a := by
  induction a generalizing b with
  | nil => cases b <;> simp [bufferCompare]
  | cons x a ih =>
    cases b with
    | nil => simp [bufferCompare]
    | cons y b =>
      rw [bufferCompare, List.cons_lt_cons_iff]
      split
      · rename_i hxy
        have hne : ¬ y < x := UInt8.lt_asymm hxy
        have hneq : y ≠ x := UInt8.ne_of_lt hxy |>.symm
        simp [hne, hneq]
      · split
        · rename_i hyx
          simp [hyx]
        · rename_i hxy hyx
          have heq : y = x := UInt8.le_antisymm (UInt8.not_lt.mp hxy) (UInt8.not_lt.mp hyx)
          simp [heq, ih]

/-- comparing the bytes of two strings is comparing the strings -/
theorem bufferCompare_utf8 (s t : String) :
    bufferCompare (utf8 s.toList) (utf8 t.toList) ≠ .gt ↔ s ≤ t := by
  rw [Ne, bufferCompare_gt_iff, utf8_lt_iff, ← String.lt_iff_toList_lt, not_lt]

end Text
