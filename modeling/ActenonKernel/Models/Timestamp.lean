import ActenonKernel.Core.Json
import ActenonKernel.Lib.Calendar
import ActenonKernel.Lib.Digits
import Mathlib.Tactic.IntervalCases

/-!
# Timestamps (`actenon/models/contracts.py`)

A datetime is the number of microseconds since the start of year 1 in UTC, below the start of
year 10000.

* `formatTimestamp`    `isoformat()` with `Z`: the fraction is left out when it is zero;
* `parseTimestamp`     the RFC 3339 grammar of `_DATE_TIME`, offsets carried into UTC;
* `parseTimestamp_formatTimestamp`    a formatted datetime is parsed back.
-/

set_option linter.unusedSectionVars false

namespace Actenon

open Calendar Digits

/-- a UTC datetime in microseconds -/
structure Datetime where
  us : Nat
  lt : us < 315537897600000000
deriving DecidableEq, Repr

instance : LE Datetime := ⟨fun a b => a.us ≤ b.us⟩
instance : LT Datetime := ⟨fun a b => a.us < b.us⟩
instance (a b : Datetime) : Decidable (a ≤ b) := inferInstanceAs (Decidable (a.us ≤ b.us))
instance (a b : Datetime) : Decidable (a < b) := inferInstanceAs (Decidable (a.us < b.us))

theorem Datetime.not_le {a b : Datetime} : ¬ a ≤ b ↔ b < a := Nat.not_le (a := a.us) (b := b.us)

theorem Datetime.ext {a b : Datetime} (h : a.us = b.us) : a = b := by
  cases a
  cases b
  cases h
  rfl

/-- `OverflowError("date value out of range")` -/
def dateOutOfRange : PyError := ⟨.overflowError, "date value out of range"⟩

/-- the datetime of a number of microseconds, where there is one -/
def Datetime.ofInt (us : Int) : Except PyError Datetime :=
  if h : 0 ≤ us ∧ us < 315537897600000000 then .ok ⟨us.toNat, by omega⟩ else .error dateOutOfRange

/-- `t + timedelta(microseconds=d)` -/
def Datetime.shift (t : Datetime) (d : Int) : Except PyError Datetime := Datetime.ofInt (t.us + d)

theorem ofInt_us {us : Int} {t : Datetime} (h : Datetime.ofInt us = .ok t) : (t.us : Int) = us := by
  unfold Datetime.ofInt at h
  split at h
  · cases h
    exact Int.toNat_of_nonneg (by omega)
  · cases h

theorem ofInt_returns {us : Int} : (∃ t, Datetime.ofInt us = .ok t) ↔ 0 ≤ us ∧ us < 315537897600000000 := by
  unfold Datetime.ofInt
  by_cases h : 0 ≤ us ∧ us < 315537897600000000
  · rw [dif_pos h]
    exact iff_of_true ⟨_, rfl⟩ h
  · rw [dif_neg h]
    refine iff_of_false ?_ h
    rintro ⟨t, ht⟩
    cases ht

/-! ## `format_timestamp` -/

/-- the time of day -/
def formatTime (r : Nat) : List Char :=
  padDigits 2 (r / 3600000000) ++ ':' :: (padDigits 2 (r / 60000000 % 60)
    ++ ':' :: padDigits 2 (r / 1000000 % 60))

/-- the fraction of a second, left out when it is zero -/
def formatFraction (micro : Nat) : List Char := if micro = 0 then [] else '.' :: padDigits 6 micro

/-- `value.astimezone(timezone.utc).isoformat().replace("+00:00", "Z")` -/
def formatChars (t : Datetime) : List Char :=
  let d := dateOf (t.us / 86400000000)
  let r := t.us % 86400000000
  padDigits 4 d.year ++ '-' :: (padDigits 2 d.month ++ '-' :: (padDigits 2 d.day
    ++ 'T' :: (formatTime r ++ (formatFraction (r % 1000000) ++ ['Z']))))

def formatTimestamp (t : Datetime) : String := String.ofList (formatChars t)

/-! ## `parse_timestamp` -/

/-- one given character -/
def eat (c : Char) : List Char → Option (List Char)
  | d :: cs => if d = c then some cs else none
  | [] => none

/-- the offset: none, `Z`, or a sign with hours and minutes -/
inductive Offset where
  | absent
  | zulu
  | hm (neg : Bool) (hours minutes : Nat)
deriving DecidableEq, Repr

/-- the groups of `_DATE_TIME` -/
structure TimestampMatch where
  date : Date
  hour : Nat
  minute : Nat
  second : Nat
  frac : List Char
  offset : Offset

/-- `(?:\.(?P<frac>[0-9]+))?` -/
def matchFraction : List Char → Option (List Char × List Char)
  | '.' :: cs =>
    if (cs.takeWhile isDigit).isEmpty then none else some (cs.takeWhile isDigit, cs.dropWhile isDigit)
  | cs => some ([], cs)

/-- `(?P<offset>Z|[+-](?P<oh>[0-9]{2}):(?P<om>[0-9]{2}))?`, then the end -/
def matchOffset : List Char → Option Offset
  | [] => some .absent
  | ['Z'] => some .zulu
  | c :: cs =>
    if c = '+' ∨ c = '-' then do
      let (oh, cs) ← readDigits 2 cs
      let cs ← eat ':' cs
      let (om, cs) ← readDigits 2 cs
      if cs.isEmpty then some (.hm (c = '-') oh om) else none
    else none

/-- `[Tt ]` -/
def eatSeparator : List Char → Option (List Char)
  | c :: cs => if c = 'T' ∨ c = 't' ∨ c = ' ' then some cs else none
  | [] => none

/-- `_DATE_TIME.fullmatch(raw)` -/
def matchDateTime (cs : List Char) : Option TimestampMatch := do
  let (year, cs) ← readDigits 4 cs
  let cs ← eat '-' cs
  let (month, cs) ← readDigits 2 cs
  let cs ← eat '-' cs
  let (day, cs) ← readDigits 2 cs
  let cs ← eatSeparator cs
  let (hour, cs) ← readDigits 2 cs
  let cs ← eat ':' cs
  let (minute, cs) ← readDigits 2 cs
  let cs ← eat ':' cs
  let (second, cs) ← readDigits 2 cs
  let (frac, cs) ← matchFraction cs
  let offset ← matchOffset cs
  return ⟨⟨year, month, day⟩, hour, minute, second, frac, offset⟩

/-- the fraction truncated to microseconds: `(frac or "")[:6].ljust(6, "0")` -/
def microsOf (frac : List Char) : Nat :=
  (frac.take 6 ++ List.replicate (6 - frac.length) '0').foldl (fun n c => 10 * n + (c.toNat - 48)) 0

/-- the seconds east of UTC -/
def Offset.seconds : Offset → Int
  | .hm neg oh om => if neg then -(3600 * oh + 60 * om : Nat) else (3600 * oh + 60 * om : Nat)
  | _ => 0

/-- the clock and calendar ranges `datetime.fromisoformat` checks -/
def TimestampMatch.inRange (m : TimestampMatch) : Bool :=
  m.date.Valid ∧ m.hour < 24 ∧ m.minute < 60 ∧ m.second < 60

/-- the microseconds of the match as if in UTC -/
def TimestampMatch.micros (m : TimestampMatch) : Nat :=
  daysOf m.date * 86400000000 + m.hour * 3600000000 + m.minute * 60000000 + m.second * 1000000
    + microsOf m.frac

def parseTimestamp (raw : Json) (fieldName : String) : Except PyError Datetime :=
  let bad : Except PyError Datetime :=
    valueError s!"{fieldName} must be an RFC3339 timestamp string"
  match raw with
  | .str s =>
    match matchDateTime s.toList with
    | none => bad
    | some m =>
      match m.offset with
      | .absent => valueError s!"{fieldName} must include timezone information"
      | .hm _ oh om =>
        if oh > 23 ∨ om > 59 then bad
        else if m.inRange then Datetime.ofInt (m.micros - 1000000 * m.offset.seconds) else bad
      | .zulu => if m.inRange then Datetime.ofInt m.micros else bad
  | _ => bad

/-! ## a formatted datetime is parsed back -/

theorem eat_cons (c : Char) (cs : List Char) : eat c (c :: cs) = some cs := if_pos rfl

theorem eatSeparator_T (cs : List Char) : eatSeparator ('T' :: cs) = some cs := rfl

theorem microsOf_padDigits {n : Nat} (h : n < 1000000) : microsOf (padDigits 6 n) = n := by
  have hd : ∀ v : Nat, v < 10 → (digitChar v).toNat - 48 = v := fun v hv => by
    rw [toNat_digitChar hv, Nat.add_sub_cancel_left]
  have hm : ∀ k : Nat, (digitChar (k % 10)).toNat - 48 = k % 10 := fun k =>
    hd _ (Nat.mod_lt _ (by decide))
  unfold microsOf
  rw [length_padDigits, List.take_of_length_le (by rw [length_padDigits])]
  simp only [padDigits, List.replicate, List.append_nil, Nat.sub_self, List.foldl_cons,
    List.foldl_nil, hm]
  omega

theorem matchFraction_format {micro : Nat} (h : micro < 1000000) :
    ∃ frac, matchFraction (formatFraction micro ++ ['Z']) = some (frac, ['Z']) ∧
      microsOf frac = micro := by
  unfold formatFraction
  by_cases h0 : micro = 0
  · subst h0
    exact ⟨[], by decide, by decide⟩
  · rw [if_neg h0]
    refine ⟨padDigits 6 micro, ?_, microsOf_padDigits h⟩
    have hall : ∀ c ∈ padDigits 6 micro, isDigit c = true := fun c => isDigit_of_mem_padDigits
    have hne : (padDigits 6 micro).isEmpty = false := by
      rw [List.isEmpty_eq_false_iff, ← List.length_pos_iff, length_padDigits]
      decide
    have ht : (padDigits 6 micro ++ ['Z']).takeWhile isDigit = padDigits 6 micro := by
      rw [List.takeWhile_append_of_pos hall]
      simp [isDigit]
    have hdr : (padDigits 6 micro ++ ['Z']).dropWhile isDigit = ['Z'] := by
      rw [List.dropWhile_append_of_pos hall]
      simp [isDigit]
    show matchFraction ('.' :: (padDigits 6 micro ++ ['Z'])) = _
    rw [matchFraction, ht, hdr, hne]
    rfl

theorem monthLengths_le (leap : Bool) (m : Nat) : (monthLengths leap).getD m 0 ≤ 31 := by
  by_cases h : m < 12
  · interval_cases m <;> cases leap <;> decide
  · have hl : (monthLengths leap)[m]? = none := List.getElem?_eq_none (Nat.le_of_not_lt h)
    rw [List.getD_eq_getElem?_getD, hl]
    decide

/-- the groups matched in a formatted datetime -/
theorem matchDateTime_formatChars (t : Datetime) :
    ∃ frac, matchDateTime (formatChars t) = some
        ⟨dateOf (t.us / 86400000000), t.us % 86400000000 / 3600000000,
          t.us % 86400000000 / 60000000 % 60, t.us % 86400000000 / 1000000 % 60, frac, .zulu⟩ ∧
      microsOf frac = t.us % 1000000 := by
  have hlt := t.lt
  have hday : t.us / 86400000000 < 3652059 := by omega
  obtain ⟨-, hm1, hm2, hd1, hd2⟩ := dateOf_valid (t.us / 86400000000)
  have hy := dateOf_year_lt hday
  have hd3 := monthLengths_le (isLeap (dateOf (t.us / 86400000000)).year)
    ((dateOf (t.us / 86400000000)).month - 1)
  obtain ⟨frac, hfrac, hmicro⟩ := matchFraction_format
    (show t.us % 86400000000 % 1000000 < 1000000 by omega)
  refine ⟨frac, ?_, by rw [hmicro]; omega⟩
  have e1 : ∀ rest, readDigits 4 (padDigits 4 (dateOf (t.us / 86400000000)).year ++ rest)
      = some ((dateOf (t.us / 86400000000)).year, rest) := readDigits_padDigits (by omega)
  have e2 : ∀ {n : Nat}, n < 100 → ∀ rest, readDigits 2 (padDigits 2 n ++ rest) = some (n, rest) :=
    fun hn => readDigits_padDigits (by omega)
  unfold matchDateTime formatChars formatTime
  simp only [List.append_assoc, List.cons_append, e1, Option.bind_eq_bind, Option.bind_some,
    eat_cons, e2 (show (dateOf (t.us / 86400000000)).month < 100 by omega),
    e2 (show (dateOf (t.us / 86400000000)).day < 100 by omega),
    e2 (show t.us % 86400000000 / 3600000000 < 100 by omega),
    e2 (show t.us % 86400000000 / 60000000 % 60 < 100 by omega),
    e2 (show t.us % 86400000000 / 1000000 % 60 < 100 by omega), hfrac, eatSeparator_T]
  rfl

/-- **A formatted datetime is parsed back.** -/
theorem parseTimestamp_formatTimestamp (t : Datetime) (fieldName : String) :
    parseTimestamp (.str (formatTimestamp t)) fieldName = .ok t := by
  obtain ⟨frac, hmatch, hmicro⟩ := matchDateTime_formatChars t
  have hlt := t.lt
  have hrange : ∀ f : List Char, (TimestampMatch.mk (dateOf (t.us / 86400000000))
      (t.us % 86400000000 / 3600000000) (t.us % 86400000000 / 60000000 % 60)
      (t.us % 86400000000 / 1000000 % 60) f .zulu).inRange = true := by
    intro f
    simp only [TimestampMatch.inRange, decide_eq_true_eq]
    exact ⟨dateOf_valid _, by omega, by omega, by omega⟩
  unfold parseTimestamp formatTimestamp
  simp only [String.toList_ofList, hmatch, hrange, if_true, TimestampMatch.micros, daysOf_dateOf,
    hmicro]
  unfold Datetime.ofInt
  rw [dif_pos (by omega)]
  refine congrArg Except.ok (Datetime.ext ?_)
  simp only [Int.toNat_natCast]
  omega

theorem formatTimestamp_injective {t t' : Datetime} (h : formatTimestamp t = formatTimestamp t') :
    t = t' := by
  have e := parseTimestamp_formatTimestamp t ""
  rw [h, parseTimestamp_formatTimestamp] at e
  exact (Except.ok.inj e).symm

end Actenon
