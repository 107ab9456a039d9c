import ActenonKernel.Lib.Calendar

/-!
# The next day of the calendar

* `Date.next`        the day after: the next of the month, the first of the next month or of the next year;
* `daysOf_next`      it is counted one higher;
* `date_eq_of_daysOf`    a day has one date;
* `dateOf_succ`, `dateOf_daysOf`    the dates of consecutive days, and the date of the day of a date.
-/

set_option linter.unusedSectionVars false

namespace Calendar

/-- the number of days of the month of a date -/
def Date.monthLength (t : Date) : Nat := (monthLengths (isLeap t.year)).getD (t.month - 1) 0

/-- the day after a date -/
def Date.next (t : Date) : Date :=
  if t.day < t.monthLength then ⟨t.year, t.month, t.day + 1⟩
  else if t.month < 12 then ⟨t.year, t.month + 1, 1⟩
  else ⟨t.year + 1, 1, 1⟩

theorem monthLengths_pos (leap : Bool) {m : Nat} (h : m < 12) : 1 ≤ (monthLengths leap).getD m 0 := by
  rcases leap with _ | _
  · revert m
    decide
  · revert m
    decide

theorem Date.next_valid {t : Date} (h : t.Valid) : t.next.Valid := by
  obtain ⟨hy, hm, hm', hd, -⟩ := h
  unfold Date.next
  split
  · rename_i hday
    exact ⟨hy, hm, hm', Nat.le_add_left _ _, hday⟩
  · split
    · rename_i hmonth
      exact ⟨hy, Nat.le_add_left _ _, hmonth, Nat.le_refl _, monthLengths_pos _ hmonth⟩
    · have hfirst : 1 - 1 < 12 := by decide
      have hmonth : 1 ≤ 12 := by decide
      exact ⟨Nat.le_add_left _ _, Nat.le_refl _, hmonth, Nat.le_refl _, monthLengths_pos _ hfirst⟩

/-- the day after is counted one higher -/
theorem daysOf_next {t : Date} (h : t.Valid) : daysOf t.next = daysOf t + 1 := by
  obtain ⟨hy, hm, hm', hd, hd'⟩ := h
  unfold Date.next Date.monthLength
  split
  · unfold daysOf
    dsimp only
    omega
  · rename_i hday
    have hlast : t.day = (monthLengths (isLeap t.year)).getD (t.month - 1) 0 := by omega
    have hsum := sum_take_succ (monthLengths (isLeap t.year)) (t.month - 1)
    have hmonth : t.month - 1 + 1 = t.month := by omega
    rw [hmonth] at hsum
    split
    · show daysBeforeYear t.year + ((monthLengths (isLeap t.year)).take (t.month + 1 - 1)).sum + (1 - 1) = _
      unfold daysOf
      rw [Nat.add_sub_cancel, hsum]
      omega
    · -- the last day of the year
      rename_i hdecember
      have htwelve : t.month = 12 := by omega
      rw [htwelve] at hsum hlast
      have hyear : ((monthLengths (isLeap t.year)).take 12).sum = yearLength (isLeap t.year) := by
        rw [List.take_of_length_le (show (monthLengths (isLeap t.year)).length ≤ 12 from Nat.le_refl _),
          sum_monthLengths]
      rw [hyear] at hsum
      have hfirst : ((monthLengths (isLeap (t.year + 1))).take (1 - 1)).sum = 0 := rfl
      show daysBeforeYear (t.year + 1) + ((monthLengths (isLeap (t.year + 1))).take (1 - 1)).sum + (1 - 1) = _
      unfold daysOf
      rw [daysBeforeYear_succ hy, hfirst, htwelve]
      omega

/-- a day has one date -/
theorem date_eq_of_daysOf {t t' : Date} (h : t.Valid) (h' : t'.Valid) (heq : daysOf t = daysOf t') : t = t' := by
  have hnot : ¬ t.Before t' := fun hb => Nat.ne_of_lt (daysOf_lt h h' hb) heq
  have hnot' : ¬ t'.Before t := fun hb => Nat.ne_of_lt (daysOf_lt h' h hb) heq.symm
  unfold Date.Before at hnot hnot'
  obtain ⟨y, m, d⟩ := t
  obtain ⟨y', m', d'⟩ := t'
  dsimp only at hnot hnot'
  have hy : y = y' := by omega
  have hm : m = m' := by omega
  have hd : d = d' := by omega
  rw [hy, hm, hd]

/-- the date of the day of a date -/
theorem dateOf_daysOf {t : Date} (h : t.Valid) : dateOf (daysOf t) = t :=
  date_eq_of_daysOf (dateOf_valid _) h (daysOf_dateOf _)

/-- **The next day has the next date.** -/
theorem dateOf_succ (n : Nat) : dateOf (n + 1) = (dateOf n).next := by
  refine date_eq_of_daysOf (dateOf_valid _) (Date.next_valid (dateOf_valid n)) ?_
  rw [daysOf_next (dateOf_valid n), daysOf_dateOf, daysOf_dateOf]

example : (Date.mk 2024 2 28).next = ⟨2024, 2, 29⟩ := by decide
example : (Date.mk 2100 2 28).next = ⟨2100, 3, 1⟩ := by decide

end Calendar
