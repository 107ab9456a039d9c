import Mathlib.Data.List.Basic

/-!
# Bytes in lower-case hexadecimal

* `toHex`      two digits a byte, the high half first;
* `fromHex`    the bytes of a text of lower-case digits of even length;
* `fromHex_toHex`, `toHex_fromHex`    the two are inverse to each other.
-/

set_option linter.unusedSectionVars false

namespace Hex

/-- the digit of a value below 16 -/
def digit (v : Nat) : Char := if v < 10 then Char.ofNat (48 + v) else Char.ofNat (87 + v)

/-- the value of a lower-case digit -/
def value (c : Char) : Option Nat :=
  if 48 ≤ c.toNat ∧ c.toNat ≤ 57 then some (c.toNat - 48)
  else if 97 ≤ c.toNat ∧ c.toNat ≤ 102 then some (c.toNat - 87)
  else none

/-- `b.hex()` -/
def toHex : List UInt8 → List Char
  | [] => []
  | b :: bs => digit (b.toNat / 16) :: digit (b.toNat % 16) :: toHex bs

/-- `bytes.fromhex` on lower-case text -/
def fromHex : List Char → Option (List UInt8)
  | [] => some []
  | [_] => none
  | c :: d :: cs => do
    let hi ← value c
    let lo ← value d
    let bs ← fromHex cs
    return UInt8.ofNat (16 * hi + lo) :: bs

theorem toNat_ofNat_of_lt {n : Nat} (h : n < 0xd800) : (Char.ofNat n).toNat = n := by
  unfold Char.ofNat
  rw [dif_pos (Or.inl h)]
  rfl

theorem toNat_digit {v : Nat} (h : v < 16) :
    (digit v).toNat = if v < 10 then 48 + v else 87 + v := by
  unfold digit
  split
  · exact toNat_ofNat_of_lt (by omega)
  · exact toNat_ofNat_of_lt (by omega)

theorem value_digit {v : Nat} (h : v < 16) : value (digit v) = some v := by
  have e := toNat_digit h
  unfold value
  by_cases h10 : v < 10
  · rw [if_pos h10] at e
    rw [if_pos (by omega), e]
    congr 1
    omega
  · rw [if_neg h10] at e
    rw [if_neg (by omega), if_pos (by omega), e]
    congr 1
    omega

theorem value_lt {c : Char} {v : Nat} (h : value c = some v) : v < 16 := by
  unfold value at h
  split at h
  · cases h
    omega
  · split at h
    · cases h
      omega
    · cases h

theorem digit_value {c : Char} {v : Nat} (h : value c = some v) : digit v = c := by
  have hv := value_lt h
  have e := toNat_digit hv
  refine Char.toNat_inj.mp ?_
  rw [e]
  unfold value at h
  split at h
  · cases h
    rw [if_pos (by omega)]
    omega
  · split at h
    · cases h
      rw [if_neg (by omega)]
      omega
    · cases h

theorem fromHex_toHex (bs : List UInt8) : fromHex (toHex bs) = some bs := by
  induction bs with
  | nil => rfl
  | cons b bs ih =>
    have hb : b.toNat < 256 := b.toNat_lt
    have e : 16 * (b.toNat / 16) + b.toNat % 16 = b.toNat := by omega
    show (value _).bind _ = _
    rw [value_digit (show b.toNat / 16 < 16 by omega)]
    show (value _).bind _ = _
    rw [value_digit (show b.toNat % 16 < 16 by omega)]
    show (fromHex (toHex bs)).bind _ = _
    rw [ih]
    show some (UInt8.ofNat (16 * (b.toNat / 16) + b.toNat % 16) :: bs) = _
    rw [e, UInt8.ofNat_toNat]

theorem toHex_fromHex {cs : List Char} {bs : List UInt8} (h : fromHex cs = some bs) :
    toHex bs = cs := by
  induction cs using fromHex.induct generalizing bs with
  | case1 =>
    cases h
    rfl
  | case2 c => cases h
  | case3 c d cs ih =>
    simp only [fromHex, Option.bind_eq_bind, Option.bind_eq_some_iff, Option.pure_def,
      Option.some.injEq] at h
    obtain ⟨hi, h1, lo, h2, bs', h3, rfl⟩ := h
    have hhi := value_lt h1
    have hlo := value_lt h2
    have e : (UInt8.ofNat (16 * hi + lo)).toNat = 16 * hi + lo := by
      rw [UInt8.toNat_ofNat']
      exact Nat.mod_eq_of_lt (by omega)
    show digit _ :: digit _ :: toHex bs' = _
    rw [e, show (16 * hi + lo) / 16 = hi by omega, show (16 * hi + lo) % 16 = lo by omega,
      digit_value h1, digit_value h2, ih h3]

theorem toHex_injective {bs bs' : List UInt8} (h : toHex bs = toHex bs') : bs = bs' := by
  have e := fromHex_toHex bs
  rw [h, fromHex_toHex bs'] at e
  exact (Option.some.inj e).symm

theorem length_toHex (bs : List UInt8) : (toHex bs).length = 2 * bs.length := by
  induction bs with
  | nil => rfl
  | cons b bs ih =>
    simp only [toHex, List.length_cons, ih]
    omega

end Hex
