import ActenonKernel.Models.Timestamp
import ActenonKernel.Lib.NextDay

/-!
# The timestamp codec (`actenon/models/contracts.py`)

The date and the clock of an accepted text are those of its own offset. In UTC they are those of
the same day, of the day before or of the day after.

* `Datetime.date`, `Datetime.clock`    the day of a UTC datetime and the microseconds into it;
* `TimestampMatch.utcClock`    the microseconds of the text's day once its offset is taken off;
* `Carried`            the datetime a text with an offset stands for;
* `parseTimestamp_ok`  what an accepted text has matched;
* `timestamp_codec`    both round trips, with every offset carried.
-/

set_option linter.unusedSectionVars false

namespace Actenon

open Calendar Digits

/-- the UTC date -/
def Datetime.date (t : Datetime) : Date := dateOf (t.us / 86400000000)

/-- the microseconds since midnight UTC -/
def Datetime.clock (t : Datetime) : Nat := t.us % 86400000000

/-- the microseconds since midnight, as the text says it -/
def TimestampMatch.clock (m : TimestampMatch) : Nat :=
  m.hour * 3600000000 + m.minute * 60000000 + m.second * 1000000 + microsOf m.frac

/-- the microseconds of the text's day in UTC, negative on the day before -/
def TimestampMatch.utcClock (m : TimestampMatch) : Int := m.clock - 1000000 * m.offset.seconds

/-- the datetime of a text whose offset is carried across midnight, and so across the ends of months and years -/
structure Carried (m : TimestampMatch) (t : Datetime) : Prop where
  sameDay : 0 ≤ m.utcClock → m.utcClock < 86400000000 → t.date = m.date ∧ (t.clock : Int) = m.utcClock
  dayBefore : m.utcClock < 0 → t.date.next = m.date ∧ (t.clock : Int) = m.utcClock + 86400000000
  dayAfter : 86400000000 ≤ m.utcClock → t.date = m.date.next ∧ (t.clock : Int) = m.utcClock - 86400000000

/-! ## the fraction -/

/-- digits read from the left stay below their power of ten -/
theorem foldl_digits_lt (cs : List Char) (h : ∀ c ∈ cs, isDigit c = true) :
    ∀ n, cs.foldl (fun n c => 10 * n + (c.toNat - 48)) n < (n + 1) * 10 ^ cs.length := by
  induction cs with
  | nil =>
    intro n
    rw [List.foldl_nil, List.length_nil, Nat.pow_zero, Nat.mul_one]
    exact Nat.lt_succ_self n
  | cons c cs ih =>
    intro n
    have hc : c.toNat - 48 ≤ 9 := by
      have hdigit := h c List.mem_cons_self
      simp only [isDigit, decide_eq_true_eq] at hdigit
      omega
    have hstep := ih (fun d hd => h d (List.mem_cons_of_mem _ hd)) (10 * n + (c.toNat - 48))
    rw [List.foldl_cons, List.length_cons, Nat.pow_succ]
    calc _ < (10 * n + (c.toNat - 48) + 1) * 10 ^ cs.length := hstep
      _ ≤ (10 * (n + 1)) * 10 ^ cs.length := Nat.mul_le_mul_right _ (by omega)
      _ = (n + 1) * (10 ^ cs.length * 10) := by ring

theorem microsOf_lt {frac : List Char} (h : ∀ c ∈ frac, isDigit c = true) : microsOf frac < 1000000 := by
  have hall : ∀ c ∈ frac.take 6 ++ List.replicate (6 - frac.length) '0', isDigit c = true := by
    intro c hc
    obtain hc | hc := List.mem_append.mp hc
    · exact h c (List.mem_of_mem_take hc)
    · rw [(List.mem_replicate.mp hc).2]
      decide
  have hlength : (frac.take 6 ++ List.replicate (6 - frac.length) '0').length = 6 := by
    rw [List.length_append, List.length_take, List.length_replicate]
    omega
  have hlt := foldl_digits_lt _ hall 0
  rw [hlength] at hlt
  exact hlt

theorem matchFraction_digits {cs rest frac : List Char} (h : matchFraction cs = some (frac, rest)) :
    ∀ c ∈ frac, isDigit c = true := by
  unfold matchFraction at h
  split at h
  · split at h
    · cases h
    · cases h
      exact List.all_eq_true.mp List.all_takeWhile
  · cases h
    exact fun c hc => (List.not_mem_nil hc).elim

/-- the fraction of a match is made of digits -/
theorem matchDateTime_frac {cs : List Char} {m : TimestampMatch} (h : matchDateTime cs = some m) :
    ∀ c ∈ m.frac, isDigit c = true := by
  unfold matchDateTime at h
  simp only [Option.bind_eq_bind, Option.bind_eq_some_iff, Option.pure_def, Option.some.injEq] at h
  obtain ⟨_, -, _, -, _, -, _, -, _, -, _, -, _, -, _, -, _, -, _, -, _, -, f, hfrac, _, -, rfl⟩ := h
  exact matchFraction_digits hfrac

/-! ## what is accepted -/

/-- an accepted text has matched, with an offset below a day, and stands for an instant of the calendar -/
theorem parseTimestamp_ok {s fieldName : String} {t : Datetime}
    (h : parseTimestamp (.str s) fieldName = .ok t) :
    ∃ m, matchDateTime s.toList = some m ∧ m.inRange = true ∧
      -86400 < m.offset.seconds ∧ m.offset.seconds < 86400 ∧
      (t.us : Int) = m.micros - 1000000 * m.offset.seconds := by
  unfold parseTimestamp at h
  dsimp only at h
  split at h
  · cases h
  · rename_i m hm
    refine ⟨m, hm, ?_⟩
    split at h
    · cases h
    · rename_i neg oh om ho
      split at h
      · cases h
      · rename_i hrange
        split at h
        · rename_i hin
          have hbound : (3600 * oh + 60 * om : Nat) < 86400 := by omega
          refine ⟨hin, ?_, ?_, ofInt_us h⟩
          · rw [ho, Offset.seconds]
            split
            · omega
            · omega
          · rw [ho, Offset.seconds]
            split
            · omega
            · omega
        · cases h
    · rename_i ho
      split at h
      · rename_i hin
        have hus := ofInt_us h
        rw [ho]
        refine ⟨hin, by decide, by decide, ?_⟩
        rw [hus]
        show _ = (m.micros : Int) - 1000000 * 0
        omega
      · cases h

/-- the instant of an accepted text has its offset carried -/
theorem carried_of_instant {m : TimestampMatch} {t : Datetime} (hin : m.inRange = true)
    (hfrac : ∀ c ∈ m.frac, isDigit c = true) (hlow : -86400 < m.offset.seconds)
    (hhigh : m.offset.seconds < 86400) (hus : (t.us : Int) = m.micros - 1000000 * m.offset.seconds) :
    Carried m t := by
  simp only [TimestampMatch.inRange, decide_eq_true_eq] at hin
  obtain ⟨hvalid, hhour, hminute, hsecond⟩ := hin
  have hmicro := microsOf_lt hfrac
  have hclock : m.clock < 86400000000 := by
    unfold TimestampMatch.clock
    omega
  have hinstant : (t.us : Int) = daysOf m.date * 86400000000 + m.utcClock := by
    rw [hus]
    unfold TimestampMatch.utcClock TimestampMatch.clock TimestampMatch.micros
    omega
  have hutc : m.utcClock = m.clock - 1000000 * m.offset.seconds := rfl
  refine ⟨fun h0 h1 => ?_, fun h0 => ?_, fun h1 => ?_⟩
  · have hday : t.us / 86400000000 = daysOf m.date := by omega
    refine ⟨?_, ?_⟩
    · unfold Datetime.date
      rw [hday, dateOf_daysOf hvalid]
    · unfold Datetime.clock
      omega
  · have hday : t.us / 86400000000 + 1 = daysOf m.date := by omega
    refine ⟨?_, ?_⟩
    · unfold Datetime.date
      rw [← dateOf_succ, hday, dateOf_daysOf hvalid]
    · unfold Datetime.clock
      omega
  · have hday : t.us / 86400000000 = daysOf m.date + 1 := by omega
    refine ⟨?_, ?_⟩
    · unfold Datetime.date
      rw [hday, dateOf_succ, dateOf_daysOf hvalid]
    · unfold Datetime.clock
      omega

/-! ## both round trips -/

/-- **The codec is stable: a datetime is read back, an accepted text is read back from its normal form,
and every offset is carried into the UTC date and clock.** -/
theorem timestamp_codec :
    (∀ (t : Datetime) (fieldName : String), parseTimestamp (.str (formatTimestamp t)) fieldName = .ok t) ∧
      ∀ (s fieldName : String) (t : Datetime), parseTimestamp (.str s) fieldName = .ok t →
        (∀ fieldName' : String, parseTimestamp (.str (formatTimestamp t)) fieldName' = .ok t) ∧
          ∃ m, matchDateTime s.toList = some m ∧ Carried m t := by
  refine ⟨parseTimestamp_formatTimestamp, fun s fieldName t h => ⟨parseTimestamp_formatTimestamp t, ?_⟩⟩
  obtain ⟨m, hm, hin, hlow, hhigh, hus⟩ := parseTimestamp_ok h
  exact ⟨m, hm, carried_of_instant hin (matchDateTime_frac hm) hlow hhigh hus⟩

/-- half an hour before midnight, an hour west of UTC: the new year's first half hour -/
theorem timestamp_codec_new_year :
    ∃ t, parseTimestamp (.str "2024-12-31T23:30:00-01:00") "expires_at" = .ok t ∧
      formatTimestamp t = "2025-01-01T00:30:00Z" ∧
      parseTimestamp (.str (formatTimestamp t)) "expires_at" = .ok t ∧
      ∃ m, matchDateTime "2024-12-31T23:30:00-01:00".toList = some m ∧ Carried m t := by
  have h : parseTimestamp (.str "2024-12-31T23:30:00-01:00") "expires_at"
      = .ok ⟨63871288200000000, by decide⟩ := by decide +kernel
  obtain ⟨hback, hcarried⟩ := timestamp_codec.2 _ _ _ h
  exact ⟨_, h, by decide +kernel, hback _, hcarried⟩

end Actenon
