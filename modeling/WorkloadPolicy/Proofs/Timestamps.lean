import Mathlib.Algebra.Group.Nat.Defs
import Mathlib.Data.List.TakeWhile
import WorkloadPolicy.Calendar.Lenient

/-!
# Timestamps that are read back

An instant of a year from 0 to 9999 is written in a form that the strict reader takes to the
same instant, to the nanosecond and through leap seconds.  The text of any other year begins
with a sign, which the strict reader refuses.  Whatever the lenient reader finds in a record is
an instant that exists, so that this holds of it.
-/

namespace WorkloadPolicy
namespace Calendar

/-! ## Digits -/

section Digits

variable {digits rest : List Char} {width number : Nat}

/-- The digits of a text of known length are read to their value. -/
theorem takeDigits?_append (areDigits : ∀ digit ∈ digits, digit.isDigit = true) :
    takeDigits? digits.length (digits ++ rest) = some (Nat.ofDigitChars 10 digits 0, rest) := by
  induction digits with
  | nil => rfl
  | cons digit digits hypothesis =>
      obtain ⟨isDigit, others⟩ := List.forall_mem_cons.1 areDigits
      have value := @Nat.ofDigitChars_eq_ofDigitChars_zero digits (digit.toNat - 48)
      rw [List.cons_append, List.length_cons, takeDigits?, if_pos isDigit, hypothesis others]
      simp [Nat.ofDigitChars_cons, value, Nat.mul_comm]

theorem ofDigitChars_lt (areDigits : ∀ digit ∈ digits, digit.isDigit = true) :
    Nat.ofDigitChars 10 digits 0 < 10 ^ digits.length := by
  induction digits with
  | nil => exact Nat.one_pos
  | cons digit digits hypothesis =>
      obtain ⟨isDigit, others⟩ := List.forall_mem_cons.1 areDigits
      have nine : digit.toNat ≤ 57 := (Char.isDigit_iff_toNat.1 isDigit).2
      have value := @Nat.ofDigitChars_eq_ofDigitChars_zero digits (digit.toNat - 48)
      have head : 10 ^ digits.length * (digit.toNat - 48) ≤ 10 ^ digits.length * 9 :=
        Nat.mul_le_mul_left _ (by omega)
      have tail := hypothesis others
      simp only [Nat.ofDigitChars_cons, List.length_cons, Nat.pow_succ]
      show Nat.ofDigitChars 10 digits (10 * 0 + (digit.toNat - 48)) < _
      rw [Nat.mul_zero, Nat.zero_add, value]
      omega

theorem length_zeroPadded (positive : 0 < width) (bounded : number < 10 ^ width) :
    (zeroPadded width number).length = width := by
  have fits := (Nat.length_toDigits_le_iff (b := 10) (by decide) positive).2 bounded
  rw [zeroPadded, List.length_append, List.length_replicate]
  omega

theorem isDigit_of_mem_zeroPadded :
    ∀ digit ∈ zeroPadded width number, digit.isDigit = true := by
  intro digit member
  rcases List.mem_append.1 member with padding | written
  · rw [List.eq_of_mem_replicate padding]
    decide
  · exact Nat.isDigit_of_mem_toDigits (by decide) (by decide) written

theorem ofDigitChars_zeroPadded : Nat.ofDigitChars 10 (zeroPadded width number) 0 = number := by
  rw [zeroPadded, Nat.ofDigitChars_append, Nat.ofDigitChars_replicate_zero, Nat.mul_zero,
    Nat.ofDigitChars_toDigits (by decide) (by decide)]

/-- A number that is padded to a width is read back. -/
theorem takeDigits?_zeroPadded (positive : 0 < width) (bounded : number < 10 ^ width) :
    takeDigits? width (zeroPadded width number ++ rest) = some (number, rest) := by
  have read := @takeDigits?_append (zeroPadded width number) rest isDigit_of_mem_zeroPadded
  rwa [length_zeroPadded positive bounded, ofDigitChars_zeroPadded] at read

end Digits

/-! ## Instants that exist -/

/-- The date and the time of day exist.  A leap second is in the last second of a minute. -/
structure Instant.IsValid (instant : Instant) : Prop where
  date : instant.date.isValid = true
  second : instant.second < secondsPerDay
  nano : instant.nano < nanosPerSecond ∨
    instant.second % 60 = 59 ∧ instant.nano < 2 * nanosPerSecond

/-- The year has four digits and no sign. -/
def Date.HasPlainYear (date : Date) : Prop :=
  0 ≤ date.year ∧ date.year ≤ 9999

instance (date : Date) : Decidable date.HasPlainYear :=
  inferInstanceAs (Decidable (_ ∧ _))

theorem daysInMonth_bounds (year : Int) (month : Nat) :
    28 ≤ daysInMonth year month ∧ daysInMonth year month ≤ 31 := by
  unfold daysInMonth
  split
  · split <;> decide
  · split <;> decide

theorem Date.isValid_iff {date : Date} :
    date.isValid = true ↔
      (1 ≤ date.month ∧ date.month ≤ 12) ∧
        1 ≤ date.day ∧ date.day ≤ daysInMonth date.year date.month := by
  simp [isValid, and_assoc]

/-! ## The strict reader -/

section Reader

variable {rest : List Char}

theorem takeDigits?_yearText {year : Int} (plain : 0 ≤ year ∧ year ≤ 9999) :
    takeDigits? 4 (yearText year ++ rest) = some (year.toNat, rest) := by
  rw [yearText, if_pos plain]
  exact takeDigits?_zeroPadded (by decide) (by omega)

/-- A year with a sign is no number. -/
theorem takeDigits?_yearText_of_sign {year : Int} (signed : ¬ (0 ≤ year ∧ year ≤ 9999)) :
    takeDigits? 4 (yearText year ++ rest) = none := by
  rw [yearText, if_neg signed]
  split <;> rfl

/-- A fraction of up to nine digits is read in nanoseconds. -/
theorem fraction?_zeroPadded
    {width number : Nat}
    (positive : 0 < width)
    (short : width ≤ 9)
    (bounded : number < 10 ^ width) :
    fraction? (zeroPadded width number ++ '+' :: rest) =
      some (number * 10 ^ (9 - width), '+' :: rest) := by
  have length := length_zeroPadded positive bounded
  have digits :
      (zeroPadded width number ++ '+' :: rest).takeWhile Char.isDigit =
        zeroPadded width number := by
    rw [List.takeWhile_append_of_pos isDigit_of_mem_zeroPadded]
    simp
  have others :
      (zeroPadded width number ++ '+' :: rest).dropWhile Char.isDigit = '+' :: rest := by
    rw [List.dropWhile_append_of_pos isDigit_of_mem_zeroPadded]
    simp
  have inhabited : (zeroPadded width number).isEmpty = false := by
    rw [List.isEmpty_eq_false_iff]
    exact List.ne_nil_of_length_pos (by omega)
  have kept : (zeroPadded width number).take 9 = zeroPadded width number :=
    List.take_of_length_le (by omega)
  have value :
      (zeroPadded width number).foldl (fun value digit => 10 * value + (digit.toNat - 48)) 0 =
        number :=
    ofDigitChars_zeroPadded
  simp only [fraction?, digits, others, inhabited, kept, value, length]
  rfl

/-- The fraction of a second is read in nanoseconds, however many digits it is given. -/
theorem optionalFraction?_fractionText (nano : Nat) :
    optionalFraction? (fractionText nano ++ '+' :: rest) =
      some (nano % nanosPerSecond, '+' :: rest) := by
  have bounded : nano % nanosPerSecond < nanosPerSecond := Nat.mod_lt _ (by decide)
  unfold fractionText
  generalize nano % nanosPerSecond = fraction at bounded
  rw [nanosPerSecond] at bounded
  simp only
  split
  · rename_i zero
    rw [zero]
    rfl
  · split
    · show fraction? (zeroPadded 3 _ ++ _) = _
      rw [fraction?_zeroPadded (by decide) (by decide) (by omega)]
      simp only [Option.some.injEq, Prod.mk.injEq, and_true]
      omega
    · split
      · show fraction? (zeroPadded 6 _ ++ _) = _
        rw [fraction?_zeroPadded (by decide) (by decide) (by omega)]
        simp only [Option.some.injEq, Prod.mk.injEq, and_true]
        omega
      · show fraction? (zeroPadded 9 _ ++ _) = _
        rw [fraction?_zeroPadded (by decide) (by decide) (by omega)]
        simp

/-- A clock shows at most 60 seconds. -/
theorem Instant.IsValid.clockSecond_le {instant : Instant} (valid : instant.IsValid) :
    clockSecond instant.second instant.nano ≤ 60 := by
  have nano := valid.nano
  simp only [nanosPerSecond] at nano
  simp only [clockSecond, nanosPerSecond]
  omega

/-- The numbers on a clock stand for the second and the nanosecond that they are of. -/
theorem ofParts?_clock {instant : Instant} (valid : instant.IsValid) :
    LocalTime.ofParts? instant.date (instant.second / 3600) (instant.second / 60 % 60)
        (clockSecond instant.second instant.nano) (instant.nano % nanosPerSecond) 0 =
      some ⟨instant.date, instant.second, instant.nano, 0⟩ := by
  have second := valid.second
  have nano := valid.nano
  simp only [secondsPerDay, nanosPerSecond] at second nano
  have hour : instant.second / 3600 < 24 := by omega
  have minute : instant.second / 60 % 60 < 60 := by omega
  rw [LocalTime.ofParts?, if_pos (by simp [valid.date, hour, minute, valid.clockSecond_le])]
  by_cases leap : clockSecond instant.second instant.nano = 60
  · rw [if_pos leap]
    simp only [clockSecond, nanosPerSecond] at leap
    simp only [nanosPerSecond, Option.some.injEq, LocalTime.mk.injEq, true_and, and_true]
    omega
  · rw [if_neg leap]
    simp only [clockSecond, nanosPerSecond] at leap
    simp only [clockSecond, nanosPerSecond, Option.some.injEq, LocalTime.mk.injEq, true_and,
      and_true]
    omega

/-- A text is read part by part. -/
theorem readStrict?_of_parts
    {text : String}
    {year month day hour minute second nano : Nat}
    {lead : Int}
    {afterYear afterMonth afterDay afterHour afterMinute afterSecond afterFraction : List Char}
    (yearRead : takeDigits? 4 text.toList = some (year, '-' :: afterYear))
    (monthRead : takeDigits? 2 afterYear = some (month, '-' :: afterMonth))
    (dayRead : takeDigits? 2 afterMonth = some (day, 'T' :: afterDay))
    (hourRead : takeDigits? 2 afterDay = some (hour, ':' :: afterHour))
    (minuteRead : takeDigits? 2 afterHour = some (minute, ':' :: afterMinute))
    (secondRead : takeDigits? 2 afterMinute = some (second, afterSecond))
    (fractionRead : optionalFraction? afterSecond = some (nano, afterFraction))
    (offsetRead : offset? (expect? ':') afterFraction = some (lead, []))
    (short : lead.natAbs < secondsPerDay) :
    readStrict? text = LocalTime.ofParts? ⟨year, month, day⟩ hour minute second nano lead := by
  have separates : separatesTime 'T' = true := rfl
  simp only [readStrict?, yearRead, monthRead, dayRead, hourRead, minuteRead, secondRead,
    fractionRead, offsetRead, expect?, separates, short, Option.bind_eq_bind, Option.bind_some,
    if_true, List.isEmpty_nil, decide_true, Bool.and_self]

/-- The text of an instant is read back, unless its year is written with a sign. -/
theorem readStrict?_text {instant : Instant} (valid : instant.IsValid) :
    readStrict? instant.text =
      if instant.date.HasPlainYear then
        some ⟨instant.date, instant.second, instant.nano, 0⟩
      else
        none := by
  split
  · rename_i plain
    obtain ⟨⟨-, month⟩, -, day⟩ := Date.isValid_iff.1 valid.date
    have monthLength := (daysInMonth_bounds instant.date.year instant.date.month).2
    have second := valid.second
    have shown := valid.clockSecond_le
    rw [secondsPerDay] at second
    have year : (instant.date.year.toNat : Int) = instant.date.year := Int.toNat_of_nonneg plain.1
    have parts : instant.text.toList =
        yearText instant.date.year ++ '-' :: (zeroPadded 2 instant.date.month ++
          '-' :: (zeroPadded 2 instant.date.day ++ 'T' :: (zeroPadded 2 (instant.second / 3600) ++
          ':' :: (zeroPadded 2 (instant.second / 60 % 60) ++
          ':' :: (zeroPadded 2 (clockSecond instant.second instant.nano) ++
          (fractionText instant.nano ++ ['+', '0', '0', ':', '0', '0'])))))) := by
      simp [Instant.text, Instant.textWith, Date.text, clockText]
    rw [readStrict?_of_parts (by rw [parts]; exact takeDigits?_yearText plain)
      (takeDigits?_zeroPadded (by decide) (by omega))
      (takeDigits?_zeroPadded (by decide) (by omega))
      (takeDigits?_zeroPadded (by decide) (by omega))
      (takeDigits?_zeroPadded (by decide) (by omega))
      (takeDigits?_zeroPadded (by decide) (by omega))
      (optionalFraction?_fractionText instant.nano) rfl (by decide), year]
    exact ofParts?_clock valid
  · rename_i signed
    simp only [readStrict?, Instant.text, Instant.textWith, String.toList_ofList, Date.text,
      List.append_assoc]
    rw [takeDigits?_yearText_of_sign signed]
    rfl

/-- The date and the time of day of an instant, to the second.  A leap second is second 60. -/
def Instant.shown (instant : Instant) : String :=
  String.ofList <|
    zeroPadded 4 instant.date.year.toNat ++ '-' :: zeroPadded 2 instant.date.month ++
      '-' :: zeroPadded 2 instant.date.day ++ ' ' :: zeroPadded 2 (instant.second / 3600) ++
      ':' :: zeroPadded 2 (instant.second / 60 % 60) ++
      ':' :: zeroPadded 2
        (instant.second % 60 + if nanosPerSecond ≤ instant.nano then 1 else 0)

/-- A timestamp in messages shows the date and the time of the instant that it is of. -/
theorem readableTime_text
    {instant : Instant}
    (valid : instant.IsValid)
    (plain : instant.date.HasPlainYear) :
    readableTime instant.text = instant.shown := by
  have nano := valid.nano
  have clock : clockSecond instant.second instant.nano =
      instant.second % 60 + if nanosPerSecond ≤ instant.nano then 1 else 0 := by
    by_cases leap : nanosPerSecond ≤ instant.nano
    · rw [if_pos leap, clockSecond]
      simp only [nanosPerSecond] at leap nano ⊢
      omega
    · rw [if_neg leap, clockSecond, Nat.div_eq_of_lt (Nat.lt_of_not_le leap)]
  have year : yearText instant.date.year = zeroPadded 4 instant.date.year.toNat := if_pos plain
  rw [readableTime, readStrict?_text valid, if_pos plain]
  simp only [LocalTime.readable, Instant.shown, Date.text, clockText, year, clock,
    List.append_assoc, List.cons_append]

end Reader

/-! ## Instants of records -/

/-- A text of a record stands for the instant. -/
def Instant.IsRead (instant : Instant) : Prop :=
  ∃ text, Lenient.instant? text = some instant

theorem Date.isValid_next {date : Date} (valid : date.isValid = true) :
    date.next.isValid = true := by
  obtain ⟨month, day⟩ := isValid_iff.1 valid
  rw [isValid_iff, next]
  split
  · exact ⟨month, by simp, by assumption⟩
  · split
    · have length := daysInMonth_bounds date.year (date.month + 1)
      exact ⟨⟨by simp, by assumption⟩, by simp, by simp; omega⟩
    · exact ⟨by simp, by simp, by simp [daysInMonth]⟩

theorem Date.isValid_previous {date : Date} (valid : date.isValid = true) :
    date.previous.isValid = true := by
  obtain ⟨month, day⟩ := isValid_iff.1 valid
  rw [isValid_iff, previous]
  split
  · exact ⟨month, by simp; omega, by simp; omega⟩
  · split
    · have length := daysInMonth_bounds date.year (date.month - 1)
      exact ⟨by simp; omega, by simp; omega, by simp⟩
    · exact ⟨by simp, by simp, by simp [daysInMonth]⟩

/-- A local time whose parts exist and whose lead is less than a day, in whole minutes, has an
instant that exists. -/
theorem LocalTime.isValid_instant
    {localTime : LocalTime}
    (date : localTime.date.isValid = true)
    (second : localTime.second < secondsPerDay)
    (nano : localTime.nano < nanosPerSecond ∨
      localTime.second % 60 = 59 ∧ localTime.nano < 2 * nanosPerSecond)
    (short : localTime.lead.natAbs < secondsPerDay)
    (minutes : 60 ∣ localTime.lead) :
    localTime.instant.IsValid := by
  simp only [secondsPerDay, nanosPerSecond] at second nano short
  simp only [instant]
  split
  · rename_i before
    refine ⟨Date.isValid_previous date, ?_, ?_⟩
    · simp only [secondsPerDay] at before ⊢
      omega
    · simp only [secondsPerDay, nanosPerSecond] at before ⊢
      omega
  · split
    · rename_i notBefore inDay
      refine ⟨date, ?_, ?_⟩
      · simp only [secondsPerDay] at inDay ⊢
        omega
      · simp only [nanosPerSecond]
        omega
    · rename_i notBefore after
      refine ⟨Date.isValid_next date, ?_, ?_⟩
      · simp only [secondsPerDay] at after ⊢
        omega
      · simp only [secondsPerDay, nanosPerSecond] at after ⊢
        omega

theorem LocalTime.of_ofParts?
    {date : Date}
    {hour minute second nano : Nat}
    {lead : Int}
    {localTime : LocalTime}
    (fraction : nano < nanosPerSecond)
    (exist : ofParts? date hour minute second nano lead = some localTime) :
    localTime.date.isValid = true ∧ localTime.second < secondsPerDay ∧
      (localTime.nano < nanosPerSecond ∨
        localTime.second % 60 = 59 ∧ localTime.nano < 2 * nanosPerSecond) ∧
      localTime.lead = lead := by
  unfold ofParts? at exist
  split at exist
  · rename_i inside
    simp only [Bool.and_eq_true, decide_eq_true_eq] at inside
    obtain ⟨⟨⟨dateValid, hours⟩, minutes⟩, seconds⟩ := inside
    simp only [nanosPerSecond] at fraction
    split at exist
    · cases exist
      refine ⟨dateValid, ?_, .inr ⟨?_, ?_⟩, rfl⟩
      · simp only [secondsPerDay]
        omega
      · simp only
        omega
      · simp only [nanosPerSecond]
        omega
    · cases exist
      refine ⟨dateValid, ?_, .inl fraction, rfl⟩
      simp only [secondsPerDay]
      omega
  · cases exist

/-- A fraction is less than a second. -/
theorem fraction?_lt
    {characters rest : List Char}
    {nano : Nat}
    (read : fraction? characters = some (nano, rest)) :
    nano < nanosPerSecond := by
  simp only [fraction?] at read
  split at read
  · cases read
  · simp only [Option.some.injEq, Prod.mk.injEq] at read
    obtain ⟨rfl, -⟩ := read
    have areDigits : ∀ digit ∈ (characters.takeWhile Char.isDigit).take 9,
        digit.isDigit = true := fun digit member =>
      List.mem_takeWhile_imp (List.mem_of_mem_take member)
    have bounded := ofDigitChars_lt areDigits
    have short : ((characters.takeWhile Char.isDigit).take 9).length ≤ 9 :=
      List.length_take_le 9 _
    generalize (characters.takeWhile Char.isDigit).take 9 = kept at areDigits bounded short
    calc
      _ < 10 ^ kept.length * 10 ^ (9 - kept.length) :=
        Nat.mul_lt_mul_of_pos_right bounded (Nat.pow_pos (by decide))
      _ = nanosPerSecond := by
        rw [← Nat.pow_add, Nat.add_sub_cancel' short]
        rfl

theorem optionalFraction?_lt
    {characters rest : List Char}
    {nano : Nat}
    (read : optionalFraction? characters = some (nano, rest)) :
    nano < nanosPerSecond := by
  unfold optionalFraction? at read
  split at read
  · exact fraction?_lt read
  · cases read
    decide

/-- An offset is in whole minutes. -/
theorem dvd_of_offset?
    {between : List Char → Option (List Char)}
    {characters rest : List Char}
    {lead : Int}
    (read : offset? between characters = some (lead, rest)) :
    60 ∣ lead := by
  unfold offset? at read
  split at read
  · cases read
    decide
  · cases read
    decide
  · simp only [numericOffset?, Option.bind_eq_bind, Option.bind_eq_some_iff, Prod.exists] at read
    obtain ⟨west, _, -, hours, _, -, _, -, minutes, _, -, read⟩ := read
    split at read
    · simp only [Option.some.injEq, Prod.mk.injEq] at read
      obtain ⟨rfl, -⟩ := read
      split <;> omega
    · cases read

theorem Lenient.dvd_of_offset?
    {characters rest : List Char}
    {lead : Int}
    (read : Lenient.offset? characters = some (lead, rest)) :
    60 ∣ lead := by
  simp only [Lenient.offset?] at read
  split at read
  · cases read
    decide
  · exact Calendar.dvd_of_offset? read

/-- What is read from a record is an instant that exists. -/
theorem Instant.IsRead.isValid {instant : Instant} (isRead : instant.IsRead) :
    instant.IsValid := by
  obtain ⟨text, read⟩ := isRead
  obtain ⟨⟨year, _⟩, -, read⟩ := Option.bind_eq_some_iff.1 read
  obtain ⟨_, -, read⟩ := Option.bind_eq_some_iff.1 read
  obtain ⟨⟨month, _⟩, -, read⟩ := Option.bind_eq_some_iff.1 read
  obtain ⟨_, -, read⟩ := Option.bind_eq_some_iff.1 read
  obtain ⟨⟨day, _⟩, -, read⟩ := Option.bind_eq_some_iff.1 read
  simp only at read
  split at read
  · cases read
  · split at read
    · obtain ⟨⟨hour, _⟩, -, read⟩ := Option.bind_eq_some_iff.1 read
      obtain ⟨_, -, read⟩ := Option.bind_eq_some_iff.1 read
      obtain ⟨⟨minute, _⟩, -, read⟩ := Option.bind_eq_some_iff.1 read
      obtain ⟨_, -, read⟩ := Option.bind_eq_some_iff.1 read
      obtain ⟨⟨second, _⟩, -, read⟩ := Option.bind_eq_some_iff.1 read
      obtain ⟨⟨nano, _⟩, fraction, read⟩ := Option.bind_eq_some_iff.1 read
      obtain ⟨⟨lead, _⟩, offset, read⟩ := Option.bind_eq_some_iff.1 read
      simp only at read
      split at read
      · rename_i ends
        simp only [Bool.and_eq_true, decide_eq_true_eq] at ends
        obtain ⟨localTime, parts, ranged⟩ := Option.bind_eq_some_iff.1 read
        obtain ⟨date, second, nano, rfl⟩ :=
          LocalTime.of_ofParts? (optionalFraction?_lt fraction) parts
        split at ranged
        · cases ranged
          exact LocalTime.isValid_instant date second nano ends.2 (Lenient.dvd_of_offset? offset)
        · cases ranged
      · cases read
    · cases read

end Calendar
end WorkloadPolicy
