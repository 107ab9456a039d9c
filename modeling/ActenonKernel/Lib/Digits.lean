import Mathlib.Tactic.Ring
import Mathlib.Algebra.Order.Ring.Nat

/-!
# Decimal fields of fixed width

* `padDigits w n`       the last `w` decimal digits of `n`;
* `readDigits w cs`     the number in the first `w` characters, and the rest;
* `readDigits_padDigits`    what was written is read back.
-/

set_option linter.unusedSectionVars false

namespace Digits

/-- an ASCII digit -/
def isDigit (c : Char) : Bool := 48 ≤ c.toNat ∧ c.toNat ≤ 57

/-- the digit of a value below 10 -/
def digitChar (v : Nat) : Char := Char.ofNat (48 + v)

/-- `w` digits -/
def padDigits : Nat → Nat → List Char
  | 0, _ => []
  | w + 1, n => digitChar (n / 10 ^ w % 10) :: padDigits w n

/-- read `w` digits after a number -/
def readDigitsFrom : Nat → Nat → List Char → Option (Nat × List Char)
  | acc, 0, cs => some (acc, cs)
  | acc, w + 1, c :: cs =>
    if isDigit c then readDigitsFrom (10 * acc + (c.toNat - 48)) w cs else none
  | _, _ + 1, [] => none

/-- read `w` digits -/
def readDigits (w : Nat) (cs : List Char) : Option (Nat × List Char) := readDigitsFrom 0 w cs

theorem toNat_digitChar {v : Nat} (h : v < 10) : (digitChar v).toNat = 48 + v := by
  unfold digitChar Char.ofNat
  rw [dif_pos (Or.inl (by omega))]
  rfl

theorem isDigit_digitChar {v : Nat} (h : v < 10) : isDigit (digitChar v) = true := by
  unfold isDigit
  rw [toNat_digitChar h]
  simp
  omega

theorem isDigit_of_mem_padDigits {w n : Nat} {c : Char} (h : c ∈ padDigits w n) :
    isDigit c = true := by
  induction w with
  | zero => simp [padDigits] at h
  | succ w ih =>
    rcases List.mem_cons.mp h with rfl | h
    · exact isDigit_digitChar (Nat.mod_lt _ (by decide))
    · exact ih h

theorem length_padDigits (w n : Nat) : (padDigits w n).length = w := by
  induction w with
  | zero => rfl
  | succ w ih => rw [padDigits, List.length_cons, ih]

theorem readDigitsFrom_padDigits (acc w n : Nat) (rest : List Char) :
    readDigitsFrom acc w (padDigits w n ++ rest) = some (acc * 10 ^ w + n % 10 ^ w, rest) := by
  induction w generalizing acc with
  | zero => simp [padDigits, readDigitsFrom, Nat.mod_one]
  | succ w ih =>
    have hlt : n / 10 ^ w % 10 < 10 := Nat.mod_lt _ (by decide)
    rw [padDigits, List.cons_append, readDigitsFrom, if_pos (isDigit_digitChar hlt),
      toNat_digitChar hlt, Nat.add_sub_cancel_left, ih, Nat.mod_pow_succ, Nat.pow_succ]
    congr 2
    ring

/-- **What was written is read back.** -/
theorem readDigits_padDigits {w n : Nat} (h : n < 10 ^ w) (rest : List Char) :
    readDigits w (padDigits w n ++ rest) = some (n, rest) := by
  unfold readDigits
  rw [readDigitsFrom_padDigits, Nat.zero_mul, Nat.zero_add, Nat.mod_eq_of_lt h]

end Digits
