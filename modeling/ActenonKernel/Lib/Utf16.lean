import ActenonKernel.Lib.JsonSpelling

/-!
# Code units of 16 bits

A code point beyond the basic plane is a pair of halves, the high one first; a half that is not in a
pair stands for itself.

* `encodePoint`, `encode`    the units of code points;
* `codePoints`               the code points of units;
* `encode_codePoints`        no units are lost, so `codePoints` is injective;
* `codePoints_encode`        nor are characters;
* `spelling`                 the units of a JSON text.
-/

set_option linter.unusedSectionVars false

namespace Utf16

def isHigh (u : Nat) : Bool := 0xD800 ≤ u ∧ u ≤ 0xDBFF

def isLow (u : Nat) : Bool := 0xDC00 ≤ u ∧ u ≤ 0xDFFF

/-- a half of a pair -/
def isHalf (u : Nat) : Bool := 0xD800 ≤ u ∧ u ≤ 0xDFFF

/-- the units of a code point -/
def encodePoint (c : Nat) : List Nat :=
  if c < 0x10000 then [c] else [0xD800 + (c - 0x10000) / 0x400, 0xDC00 + (c - 0x10000) % 0x400]

def encode (s : List Nat) : List Nat := s.flatMap encodePoint

/-- the code point of a pair -/
def join (high low : Nat) : Nat := 0x10000 + (high - 0xD800) * 0x400 + (low - 0xDC00)

/-- the code points of units -/
def codePoints : List Nat → List Nat
  | [] => []
  | [u] => [u]
  | u :: v :: us => if isHigh u ∧ isLow v then join u v :: codePoints us else u :: codePoints (v :: us)

/-- the bytes of a code point in UTF-8, a half being one of three -/
def pointSize (c : Nat) : Nat := if c < 0x80 then 1 else if c < 0x800 then 2 else if c < 0x10000 then 3 else 4

def utf8Size (points : List Nat) : Nat := (points.map pointSize).sum

theorem isHigh_iff (u : Nat) : isHigh u = true ↔ 0xD800 ≤ u ∧ u ≤ 0xDBFF := decide_eq_true_iff

theorem isLow_iff (u : Nat) : isLow u = true ↔ 0xDC00 ≤ u ∧ u ≤ 0xDFFF := decide_eq_true_iff

theorem isHalf_iff (u : Nat) : isHalf u = true ↔ 0xD800 ≤ u ∧ u ≤ 0xDFFF := decide_eq_true_iff

theorem encodePoint_unit {u : Nat} (hu : u < 0x10000) : encodePoint u = [u] := if_pos hu

theorem encodePoint_join {u v : Nat} (hu : isHigh u = true) (hv : isLow v = true) :
    encodePoint (join u v) = [u, v] := by
  rw [isHigh_iff] at hu
  rw [isLow_iff] at hv
  unfold encodePoint join
  rw [if_neg (by omega)]
  have hhigh : 0xD800 + (0x10000 + (u - 0xD800) * 0x400 + (v - 0xDC00) - 0x10000) / 0x400 = u := by omega
  have hlow : 0xDC00 + (0x10000 + (u - 0xD800) * 0x400 + (v - 0xDC00) - 0x10000) % 0x400 = v := by omega
  rw [hhigh, hlow]

/-- **No units are lost.** -/
theorem encode_codePoints {us : List Nat} (hus : ∀ u ∈ us, u < 0x10000) : encode (codePoints us) = us := by
  induction us using codePoints.induct with
  | case1 => rfl
  | case2 u => exact congrArg (· ++ []) (encodePoint_unit (hus u List.mem_cons_self))
  | case3 u v us hpair ih =>
    have hrest : ∀ x ∈ us, x < 0x10000 := fun x hx => hus x (List.mem_cons_of_mem _ (List.mem_cons_of_mem _ hx))
    rw [codePoints, if_pos hpair, encode, List.flatMap_cons, encodePoint_join hpair.1 hpair.2]
    exact congrArg ([u, v] ++ ·) (ih hrest)
  | case4 u v us hpair ih =>
    have hrest := (List.forall_mem_cons.mp hus).2
    rw [codePoints, if_neg hpair, encode, List.flatMap_cons, encodePoint_unit (hus u List.mem_cons_self)]
    exact congrArg ([u] ++ ·) (ih hrest)

theorem codePoints_inj {us vs : List Nat} (hus : ∀ u ∈ us, u < 0x10000) (hvs : ∀ v ∈ vs, v < 0x10000)
    (h : codePoints us = codePoints vs) : us = vs := by
  rw [← encode_codePoints hus, ← encode_codePoints hvs, h]

theorem codePoints_cons {u : Nat} (hu : isHigh u = false) (us : List Nat) : codePoints (u :: us) = u :: codePoints us := by
  cases us with
  | nil => rfl
  | cons v us => rw [codePoints, if_neg fun h => Bool.false_ne_true (hu.symm.trans h.1)]

theorem codePoints_pair {u v : Nat} (hu : isHigh u = true) (hv : isLow v = true) (us : List Nat) :
    codePoints (u :: v :: us) = join u v :: codePoints us := by
  rw [codePoints, if_pos ⟨hu, hv⟩]

/-- **Nor is a character**, a code point that is no half of a pair. -/
theorem codePoints_encode {s : List Nat} (hs : ∀ c ∈ s, isHalf c = false ∧ c < 0x110000) :
    codePoints (encode s) = s := by
  induction s with
  | nil => rfl
  | cons c s ih =>
    obtain ⟨⟨hhalf, hc⟩, hs⟩ := List.forall_mem_cons.mp hs
    show codePoints (encodePoint c ++ encode s) = c :: s
    by_cases hunit : c < 0x10000
    · have hhigh : isHigh c = false := by
        simp only [isHalf, isHigh, decide_eq_false_iff_not] at hhalf ⊢
        omega
      rw [encodePoint_unit hunit, List.singleton_append, codePoints_cons hhigh, ih hs]
    · have hpair : encodePoint c = [0xD800 + (c - 0x10000) / 0x400, 0xDC00 + (c - 0x10000) % 0x400] := if_neg hunit
      have hhigh : isHigh (0xD800 + (c - 0x10000) / 0x400) = true := by rw [isHigh_iff]; omega
      have hlow : isLow (0xDC00 + (c - 0x10000) % 0x400) = true := by rw [isLow_iff]; omega
      have hjoin : join (0xD800 + (c - 0x10000) / 0x400) (0xDC00 + (c - 0x10000) % 0x400) = c := by
        unfold join
        omega
      rw [hpair, List.cons_append, List.singleton_append, codePoints_pair hhigh hlow, hjoin, ih hs]

/-- JSON texts may be read as code points or as units -/
theorem spelling : JsonText.Spelling encodePoint where
  ascii c hc := encodePoint_unit (Nat.lt_trans hc (by decide))
  head c hc := by
    unfold encodePoint
    split
    · exact ⟨c, [], rfl⟩
    · exact ⟨_, _, rfl⟩
  others c hc d hd := by
    unfold encodePoint at hd
    split at hd
    · rw [List.mem_singleton] at hd
      omega
    · simp only [List.mem_cons, List.not_mem_nil, or_false] at hd
      omega

end Utf16
