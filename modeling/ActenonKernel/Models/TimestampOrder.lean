import ActenonKernel.Models.Timestamp
import Mathlib.Data.List.Lex
import Mathlib.Data.String.Basic

/-!
# The order of formatted timestamps

`format_timestamp` leaves out a fraction that is zero.  As texts, `..00Z` comes after every
`..00.xxxxxxZ` of the same second, since `.` comes before `Z`; all other digits stand at fixed places.

* `textRank`               the place of an instant in the order of the texts;
* `formatTimestamp_le_iff` the texts are ordered by that place;
* `text_order_iff`         two texts are ordered as their instants exactly when the instants lie in
                           different seconds or both or none of them are whole seconds.
-/

set_option linter.unusedSectionVars false

namespace Actenon

open Calendar Digits

/-! ## fields of a text -/

theorem append_lt {α : Type} [LT α] {a b : List α} (hlen : a.length = b.length) (h : a < b) (c d : List α) :
    a ++ c < b ++ d := by
  induction h with
  | nil => cases hlen
  | rel hr => exact List.Lex.rel hr
  | cons hl ih => exact List.Lex.cons (ih (Nat.succ.inj hlen))

theorem digitChar_lt {v w : Nat} (h : v < w) (hw : w < 10) : digitChar v < digitChar w := by
  rw [Char.lt_def, UInt32.lt_iff_toNat_lt]
  show (digitChar v).toNat < (digitChar w).toNat
  rw [toNat_digitChar (Nat.lt_trans h hw), toNat_digitChar hw]
  omega

theorem padDigits_lt {w m n : Nat} (h : m % 10 ^ w < n % 10 ^ w) : padDigits w m < padDigits w n := by
  induction w with
  | zero => simp [Nat.mod_one] at h
  | succ w ih =>
    rw [Nat.mod_pow_succ, Nat.mod_pow_succ] at h
    have hm : m / 10 ^ w % 10 < 10 := Nat.mod_lt _ (by decide)
    have hn : n / 10 ^ w % 10 < 10 := Nat.mod_lt _ (by decide)
    have hpos : 0 < 10 ^ w := Nat.pow_pos (by decide)
    have hmr : m % 10 ^ w < 10 ^ w := Nat.mod_lt _ hpos
    have hnr : n % 10 ^ w < 10 ^ w := Nat.mod_lt _ hpos
    rcases Nat.lt_trichotomy (m / 10 ^ w % 10) (n / 10 ^ w % 10) with hlt | heq | hgt
    · exact List.Lex.rel (digitChar_lt hlt hn)
    · rw [heq] at h
      rw [padDigits, padDigits, heq]
      exact List.Lex.cons (ih (by omega))
    · have hle : 10 ^ w * (n / 10 ^ w % 10 + 1) ≤ 10 ^ w * (m / 10 ^ w % 10) := Nat.mul_le_mul_left _ hgt
      rw [Nat.mul_succ] at hle
      omega

/-- a number, then what follows it -/
theorem field_lt {w m n : Nat} (hm : m < 10 ^ w) (hn : n < 10 ^ w) {r r' : List Char}
    (h : m < n ∨ m = n ∧ r < r') : padDigits w m ++ r < padDigits w n ++ r' := by
  rcases h with hlt | ⟨rfl, hr⟩
  · apply append_lt
    · rw [length_padDigits, length_padDigits]
    · apply padDigits_lt
      rwa [Nat.mod_eq_of_lt hm, Nat.mod_eq_of_lt hn]
  · exact List.append_left_lt hr

/-! ## the text of an instant -/

/-- what follows the second -/
def tailChars (micro : Nat) : List Char := formatFraction micro ++ ['Z']

/-- the place of a fraction among the texts of one second: no fraction is the last -/
def fractionRank (micro : Nat) : Nat := if micro = 0 then 1000000 else micro

theorem tailChars_lt {f f' : Nat} (hf : f < 1000000) (hf' : f' < 1000000) (h : fractionRank f < fractionRank f') :
    tailChars f < tailChars f' := by
  unfold fractionRank at h
  unfold tailChars formatFraction
  by_cases h0 : f = 0
  · rw [if_pos h0] at h
    split at h <;> omega
  · rw [if_neg h0] at h ⊢
    by_cases h0' : f' = 0
    · rw [if_pos h0']
      exact List.Lex.rel (by decide)
    · rw [if_neg h0'] at h ⊢
      rw [List.cons_append, List.cons_append]
      exact List.Lex.cons (field_lt hf hf' (Or.inl h))

/-- the place of an instant in the order of the texts -/
def textRank (t : Datetime) : Nat := t.us / 1000000 * 1000001 + fractionRank (t.us % 1000000)

theorem fractionRank_le (micro : Nat) (h : micro < 1000000) : 1 ≤ fractionRank micro ∧ fractionRank micro ≤ 1000000 := by
  unfold fractionRank
  split <;> omega

/-- the groups of a formatted datetime are below their widths -/
theorem dateOf_bounds {n : Nat} (h : n < 3652059) :
    (dateOf n).year < 10 ^ 4 ∧ (dateOf n).month < 10 ^ 2 ∧ (dateOf n).day < 10 ^ 2 := by
  obtain ⟨-, hm1, hm2, hd1, hd2⟩ := dateOf_valid n
  have hy := dateOf_year_lt h
  have hd3 := monthLengths_le (isLeap (dateOf n).year) ((dateOf n).month - 1)
  omega

/-- a text that comes earlier in the order of the places -/
theorem formatChars_lt {t t' : Datetime} (h : textRank t < textRank t') : formatChars t < formatChars t' := by
  have ht := t.lt
  have ht' := t'.lt
  have hf := fractionRank_le (t.us % 1000000) (Nat.mod_lt _ (by decide))
  have hf' := fractionRank_le (t'.us % 1000000) (Nat.mod_lt _ (by decide))
  obtain ⟨hy, hm, hd⟩ := dateOf_bounds (show t.us / 86400000000 < 3652059 by omega)
  obtain ⟨hy', hm', hd'⟩ := dateOf_bounds (show t'.us / 86400000000 < 3652059 by omega)
  have e : t.us % 86400000000 % 1000000 = t.us % 1000000 := by omega
  have e' : t'.us % 86400000000 % 1000000 = t'.us % 1000000 := by omega
  -- the first of the fields, from the day down to the fraction, in which the instants differ
  have hfields : t.us / 86400000000 < t'.us / 86400000000 ∨ t.us / 86400000000 = t'.us / 86400000000 ∧
      (t.us % 86400000000 / 3600000000 < t'.us % 86400000000 / 3600000000 ∨
        t.us % 86400000000 / 3600000000 = t'.us % 86400000000 / 3600000000 ∧
      (t.us % 86400000000 / 60000000 % 60 < t'.us % 86400000000 / 60000000 % 60 ∨
        t.us % 86400000000 / 60000000 % 60 = t'.us % 86400000000 / 60000000 % 60 ∧
      (t.us % 86400000000 / 1000000 % 60 < t'.us % 86400000000 / 1000000 % 60 ∨
        t.us % 86400000000 / 1000000 % 60 = t'.us % 86400000000 / 1000000 % 60 ∧
          fractionRank (t.us % 1000000) < fractionRank (t'.us % 1000000)))) := by
    unfold textRank at h
    omega
  unfold formatChars formatTime
  simp only [List.append_assoc, List.cons_append]
  rw [e, e']
  rcases hfields with hday | ⟨hday, htime⟩
  · rcases dateOf_lt hday with hlt | ⟨heq, hlt | ⟨heq', hlt⟩⟩
    · exact field_lt hy hy' (Or.inl hlt)
    · exact field_lt hy hy' (Or.inr ⟨heq, List.Lex.cons (field_lt hm hm' (Or.inl hlt))⟩)
    · exact field_lt hy hy' (Or.inr ⟨heq, List.Lex.cons (field_lt hm hm' (Or.inr ⟨heq',
        List.Lex.cons (field_lt hd hd' (Or.inl hlt))⟩))⟩)
  · rw [hday]
    refine field_lt hy' hy' (Or.inr ⟨rfl, List.Lex.cons (field_lt hm' hm' (Or.inr ⟨rfl,
      List.Lex.cons (field_lt hd' hd' (Or.inr ⟨rfl, List.Lex.cons ?_⟩))⟩))⟩)
    refine field_lt (by omega) (by omega) (htime.imp id fun ⟨hh, hmin⟩ => ⟨hh, List.Lex.cons ?_⟩)
    refine field_lt (by omega) (by omega) (hmin.imp id fun ⟨hh, hsec⟩ => ⟨hh, List.Lex.cons ?_⟩)
    refine field_lt (by omega) (by omega) (hsec.imp id fun ⟨hh, hfrac⟩ => ⟨hh, ?_⟩)
    exact tailChars_lt (Nat.mod_lt _ (by decide)) (Nat.mod_lt _ (by decide)) hfrac

/-- different instants have different places -/
theorem textRank_injective {t t' : Datetime} (h : textRank t = textRank t') : t = t' := by
  have hf := fractionRank_le (t.us % 1000000) (Nat.mod_lt _ (by decide))
  have hf' := fractionRank_le (t'.us % 1000000) (Nat.mod_lt _ (by decide))
  unfold textRank at h
  have hfrac : fractionRank (t.us % 1000000) = fractionRank (t'.us % 1000000) := by omega
  have hmod : t.us % 1000000 = t'.us % 1000000 := by
    unfold fractionRank at hfrac
    split at hfrac <;> split at hfrac <;> omega
  exact Datetime.ext (by omega)

/-- **The texts are ordered by their places.** -/
theorem formatTimestamp_le_iff (t t' : Datetime) : formatTimestamp t ≤ formatTimestamp t' ↔ textRank t ≤ textRank t' := by
  have hlist : formatTimestamp t' < formatTimestamp t ↔ formatChars t' < formatChars t := by
    rw [String.lt_iff_toList_lt]
    unfold formatTimestamp
    rw [String.toList_ofList, String.toList_ofList]
  rw [← not_lt, hlist, ← Nat.not_lt]
  refine not_congr ⟨fun hlt => ?_, formatChars_lt⟩
  rcases Nat.lt_trichotomy (textRank t') (textRank t) with h | h | h
  · exact h
  · rw [textRank_injective h] at hlt
    exact absurd hlt (List.lt_irrefl _)
  · exact absurd (List.lt_trans hlt (formatChars_lt h)) (List.lt_irrefl _)

/-- the instants lie in different seconds, or both or none of them are whole seconds -/
def WholeAlike (t t' : Datetime) : Prop :=
  t.us / 1000000 = t'.us / 1000000 → (t.us % 1000000 = 0 ↔ t'.us % 1000000 = 0)

instance (t t' : Datetime) : Decidable (WholeAlike t t') := inferInstanceAs (Decidable (_ → _))

/-- **The texts are ordered as the instants exactly when these are whole seconds alike.** -/
theorem text_order_iff (t t' : Datetime) : (formatTimestamp t ≤ formatTimestamp t' ↔ t ≤ t') ↔ WholeAlike t t' := by
  rw [formatTimestamp_le_iff]
  show (textRank t ≤ textRank t' ↔ t.us ≤ t'.us) ↔ WholeAlike t t'
  have hf := fractionRank_le (t.us % 1000000) (Nat.mod_lt _ (by decide))
  have hf' := fractionRank_le (t'.us % 1000000) (Nat.mod_lt _ (by decide))
  have hm := Nat.mod_lt t.us (show 0 < 1000000 by decide)
  have hm' := Nat.mod_lt t'.us (show 0 < 1000000 by decide)
  unfold textRank WholeAlike
  by_cases hsec : t.us / 1000000 = t'.us / 1000000
  · unfold fractionRank
    split <;> split <;> omega
  · omega

end Actenon
