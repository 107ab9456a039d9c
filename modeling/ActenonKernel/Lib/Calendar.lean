import Mathlib.Data.List.Basic
import Mathlib.Algebra.BigOperators.Group.List.Basic
import Mathlib.Algebra.GroupWithZero.Nat

/-!
# The proleptic Gregorian calendar

Days are counted from 1 January of year 1, which is day 0.

* `daysOf y m d`    the day of a date;
* `dateOf n`        the date of a day;
* `daysOf_dateOf`   the day of the date of a day is that day;
* `dateOf_valid`    the date of a day is a date of the calendar;
* `dateOf_lt`       a later day has a later date.
-/

set_option linter.unusedSectionVars false

namespace Calendar

def isLeap (y : Nat) : Bool := y % 4 = 0 ∧ (y % 100 ≠ 0 ∨ y % 400 = 0)

/-- the lengths of the months -/
def monthLengths (leap : Bool) : List Nat :=
  [31, if leap then 29 else 28, 31, 30, 31, 30, 31, 31, 30, 31, 30, 31]

def yearLength (leap : Bool) : Nat := if leap then 366 else 365

/-- the days before 1 January of year `y` -/
def daysBeforeYear (y : Nat) : Nat := (y - 1) * 365 + (y - 1) / 4 - (y - 1) / 100 + (y - 1) / 400

/-- a date of the calendar -/
structure Date where
  year : Nat
  month : Nat
  day : Nat
deriving DecidableEq, Repr

/-- the date exists -/
def Date.Valid (t : Date) : Prop :=
  1 ≤ t.year ∧ 1 ≤ t.month ∧ t.month ≤ 12 ∧ 1 ≤ t.day ∧
    t.day ≤ (monthLengths (isLeap t.year)).getD (t.month - 1) 0

instance (t : Date) : Decidable t.Valid := inferInstanceAs (Decidable (_ ∧ _))

/-- the day of a date -/
def daysOf (t : Date) : Nat :=
  daysBeforeYear t.year + ((monthLengths (isLeap t.year)).take (t.month - 1)).sum + (t.day - 1)

/-- the month (counted from 0) that holds a day of the year, and the day of the month -/
def findMonth : List Nat → Nat → Nat × Nat
  | [], r => (0, r)
  | l :: ls, r => if r < l then (0, r) else ((findMonth ls (r - l)).1 + 1, (findMonth ls (r - l)).2)

/-- the year that holds a day, and the day of the year -/
def findYear (n : Nat) : Nat × Nat :=
  let a := n / 146097
  let r1 := n % 146097
  let b := min (r1 / 36524) 3
  let r2 := r1 - 36524 * b
  let c := r2 / 1461
  let r3 := r2 % 1461
  let d := min (r3 / 365) 3
  (400 * a + 100 * b + 4 * c + d + 1, r3 - 365 * d)

/-- the date of a day -/
def dateOf (n : Nat) : Date :=
  let y := (findYear n).1
  let m := findMonth (monthLengths (isLeap y)) (findYear n).2
  ⟨y, m.1 + 1, m.2 + 1⟩

theorem findMonth_spec (ls : List Nat) (r : Nat) (h : r < ls.sum) :
    (ls.take (findMonth ls r).1).sum + (findMonth ls r).2 = r ∧ (findMonth ls r).1 < ls.length ∧
      (findMonth ls r).2 < ls.getD (findMonth ls r).1 0 := by
  induction ls generalizing r with
  | nil => simp at h
  | cons l ls ih =>
    rw [findMonth]
    by_cases hl : r < l
    · rw [if_pos hl]
      simpa using hl
    · rw [if_neg hl]
      rw [List.sum_cons] at h
      obtain ⟨h1, h2, h3⟩ := ih (r - l) (by omega)
      refine ⟨?_, by simpa using h2, by simpa using h3⟩
      rw [List.take_succ_cons, List.sum_cons]
      omega

theorem sum_monthLengths (leap : Bool) : (monthLengths leap).sum = yearLength leap := by
  cases leap <;> decide

theorem yearLength_isLeap (y : Nat) :
    yearLength (isLeap y) = if y % 4 = 0 ∧ (y % 100 ≠ 0 ∨ y % 400 = 0) then 366 else 365 := by
  unfold yearLength isLeap
  by_cases h : y % 4 = 0 ∧ (y % 100 ≠ 0 ∨ y % 400 = 0) <;> simp [h]

theorem findYear_spec (n : Nat) :
    1 ≤ (findYear n).1 ∧ daysBeforeYear (findYear n).1 + (findYear n).2 = n ∧
      (findYear n).2 < yearLength (isLeap (findYear n).1) := by
  obtain ⟨a, r, ha, hr, hn⟩ : ∃ a r, n / 146097 = a ∧ n % 146097 = r ∧ n = 146097 * a + r :=
    ⟨_, _, rfl, rfl, by omega⟩
  obtain ⟨b, hb⟩ : ∃ b, min (r / 36524) 3 = b := ⟨_, rfl⟩
  obtain ⟨c, q, hc, hq, hcq⟩ : ∃ c q, (r - 36524 * b) / 1461 = c ∧ (r - 36524 * b) % 1461 = q ∧
      r - 36524 * b = 1461 * c + q := ⟨_, _, rfl, rfl, by omega⟩
  obtain ⟨d, hd⟩ : ∃ d, min (q / 365) 3 = d := ⟨_, rfl⟩
  have e : findYear n = (400 * a + 100 * b + 4 * c + d + 1, q - 365 * d) := by
    simp only [findYear, ha, hr, hb, hc, hq, hd]
  have hrlt : r < 146097 := by omega
  have hb3 : b ≤ 3 := by omega
  have hc24 : c ≤ 24 := by omega
  have hd3 : d ≤ 3 := by omega
  rw [e, yearLength_isLeap]
  refine ⟨by show 1 ≤ _ + 1; omega, ?_, ?_⟩
  · show daysBeforeYear (_ + 1) + (q - 365 * d) = n
    have h4 : (400 * a + 100 * b + 4 * c + d) / 4 = 100 * a + 25 * b + c := by omega
    have h100 : (400 * a + 100 * b + 4 * c + d) / 100 = 4 * a + b := by omega
    have h400 : (400 * a + 100 * b + 4 * c + d) / 400 = a := by omega
    unfold daysBeforeYear
    rw [Nat.add_sub_cancel, h4, h100, h400]
    omega
  · show q - 365 * d < _
    split
    · omega
    · omega

/-- **The day of the date of a day is that day.** -/
theorem daysOf_dateOf (n : Nat) : daysOf (dateOf n) = n := by
  obtain ⟨-, h2, h3⟩ := findYear_spec n
  rw [← sum_monthLengths] at h3
  obtain ⟨h4, -, -⟩ := findMonth_spec _ _ h3
  have hy : (dateOf n).year = (findYear n).1 := rfl
  have hm : (dateOf n).month - 1 = (findMonth (monthLengths (isLeap (findYear n).1)) (findYear n).2).1 :=
    Nat.add_sub_cancel _ 1
  have hd : (dateOf n).day - 1 = (findMonth (monthLengths (isLeap (findYear n).1)) (findYear n).2).2 :=
    Nat.add_sub_cancel _ 1
  unfold daysOf
  rw [hy, hm, hd]
  omega

theorem dateOf_valid (n : Nat) : (dateOf n).Valid := by
  obtain ⟨h1, -, h3⟩ := findYear_spec n
  rw [← sum_monthLengths] at h3
  obtain ⟨-, h5, h6⟩ := findMonth_spec _ _ h3
  have hl : (monthLengths (isLeap (findYear n).1)).length = 12 := rfl
  refine ⟨h1, ?_, ?_, ?_, ?_⟩
  · show 1 ≤ _ + 1
    omega
  · show _ + 1 ≤ 12
    omega
  · show 1 ≤ _ + 1
    omega
  · show _ + 1 ≤ List.getD _ (_ + 1 - 1) 0
    rw [Nat.add_sub_cancel]
    exact h6

/-- the days of ten thousand years have four digits of year -/
theorem dateOf_year_lt {n : Nat} (h : n < 3652059) : (dateOf n).year < 10000 := by
  show 400 * (n / 146097) + 100 * min (n % 146097 / 36524) 3 + 4 * _ + _ + 1 < 10000
  omega

/-! ## the order of dates -/

theorem daysBeforeYear_succ {y : Nat} (h : 1 ≤ y) :
    daysBeforeYear (y + 1) = daysBeforeYear y + yearLength (isLeap y) := by
  obtain ⟨k, rfl⟩ := Nat.exists_eq_add_of_le' h
  have h4 := Nat.succ_div (a := k) (b := 4)
  have h100 := Nat.succ_div (a := k) (b := 100)
  have h400 := Nat.succ_div (a := k) (b := 400)
  have hle : k / 100 ≤ k / 4 := Nat.div_le_div_left (by decide) (by decide)
  have hcentury : (k + 1) % 100 = 0 → (k + 1) % 4 = 0 := by omega
  have hfour : (k + 1) % 400 = 0 → (k + 1) % 100 = 0 := by omega
  simp only [Nat.dvd_iff_mod_eq_zero] at h4 h100 h400
  rw [yearLength_isLeap]
  unfold daysBeforeYear
  rw [Nat.add_sub_cancel, Nat.add_sub_cancel, h4, h100, h400]
  clear h4 h100 h400
  generalize k / 4 = a at *
  generalize k / 100 = b at *
  generalize k / 400 = c at *
  generalize (k + 1) % 4 = r4 at *
  generalize (k + 1) % 100 = r100 at *
  generalize (k + 1) % 400 = r400 at *
  split_ifs <;> omega

theorem daysBeforeYear_mono {y y' : Nat} (h : y ≤ y') : daysBeforeYear y ≤ daysBeforeYear y' := by
  induction h with
  | refl => exact Nat.le_refl _
  | @step z hz ih =>
    rcases Nat.eq_zero_or_pos z with rfl | hpos
    · exact ih
    · rw [Nat.succ_eq_add_one, daysBeforeYear_succ hpos]
      omega

theorem sum_take_succ (ls : List Nat) (k : Nat) : (ls.take (k + 1)).sum = (ls.take k).sum + ls.getD k 0 := by
  induction ls generalizing k with
  | nil => simp
  | cons l ls ih =>
    cases k with
    | zero => simp
    | succ k =>
      rw [List.take_succ_cons, List.take_succ_cons, List.sum_cons, List.sum_cons, ih, List.getD_cons_succ,
        Nat.add_assoc]

theorem sum_take_mono (ls : List Nat) {k k' : Nat} (h : k ≤ k') : (ls.take k).sum ≤ (ls.take k').sum := by
  induction h with
  | refl => exact Nat.le_refl _
  | step _ ih =>
    rw [Nat.succ_eq_add_one, sum_take_succ]
    omega

/-- a date that comes before another one, year by year, month by month, day by day -/
def Date.Before (t t' : Date) : Prop :=
  t.year < t'.year ∨ t.year = t'.year ∧ (t.month < t'.month ∨ t.month = t'.month ∧ t.day < t'.day)

/-- an earlier date has the earlier day -/
theorem daysOf_lt {t t' : Date} (ht : t.Valid) (ht' : t'.Valid) (h : t.Before t') : daysOf t < daysOf t' := by
  obtain ⟨hy, hm1, hm2, hd1, hd2⟩ := ht
  obtain ⟨-, hm1', -, hd1', -⟩ := ht'
  -- the day of the year lies before the end of the month
  have hmonth : ((monthLengths (isLeap t.year)).take (t.month - 1)).sum + (t.day - 1)
      < ((monthLengths (isLeap t.year)).take t.month).sum := by
    obtain ⟨m, hm⟩ := Nat.exists_eq_add_of_le' hm1
    rw [hm, Nat.add_sub_cancel] at hd2 ⊢
    rw [sum_take_succ]
    omega
  unfold daysOf
  rcases h with hlt | ⟨heq, hlt | ⟨hm, hlt⟩⟩
  · have hyear := sum_take_mono (monthLengths (isLeap t.year)) hm2
    rw [List.take_of_length_le (show (monthLengths (isLeap t.year)).length ≤ 12 from Nat.le_refl _),
      sum_monthLengths] at hyear
    have hsucc := daysBeforeYear_succ hy
    have hnext := daysBeforeYear_mono (Nat.succ_le_of_lt hlt)
    rw [Nat.succ_eq_add_one] at hnext
    omega
  · have hnext := sum_take_mono (monthLengths (isLeap t.year)) (show t.month ≤ t'.month - 1 by omega)
    rw [← heq]
    omega
  · rw [← heq, ← hm]
    omega

/-- **A later day has a later date.** -/
theorem dateOf_lt {n n' : Nat} (h : n < n') : (dateOf n).Before (dateOf n') := by
  have hn := daysOf_dateOf n
  have hn' := daysOf_dateOf n'
  by_contra hnot
  unfold Date.Before at hnot
  by_cases hback : (dateOf n').Before (dateOf n)
  · have hlt := daysOf_lt (dateOf_valid n') (dateOf_valid n) hback
    omega
  · -- neither comes first
    unfold Date.Before at hback
    have hy : (dateOf n).year = (dateOf n').year := by omega
    have hm : (dateOf n).month = (dateOf n').month := by omega
    have hd : (dateOf n).day = (dateOf n').day := by omega
    have heq : daysOf (dateOf n) = daysOf (dateOf n') := by
      unfold daysOf
      rw [hy, hm, hd]
    omega

end Calendar
