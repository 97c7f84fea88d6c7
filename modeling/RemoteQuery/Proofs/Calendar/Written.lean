import RemoteQuery.Calendar.Reading
import RemoteQuery.Proofs.Number.Digits

/-! # Written dates and times

Every date and every time of day is read back as it was written, also in front of another
text. The readers take from the front just what the writers put there.
-/

namespace RemoteQuery.Calendar

open Number (AllDigits BeginsWithoutDigit allDigits_paddedDigits digitsValue
  digitsValue_paddedDigits dropWhile_isDigit isDigit length_paddedDigits
  not_isBlank_of_isDigit paddedDigits paddedDigits_ne_nil takeWhile_isDigit)
open Text (dropBlanks dropBlanks_cons_of_not_blank isBlank)

theorem ok_bind {ε α β : Type} (value : α) (next : α → Except ε β) :
    (Except.ok value >>= next) = next value := rfl

theorem bind_eq_ok_iff {ε α β : Type} {result : Except ε α} {next : α → Except ε β}
    {answer : β} :
    (result >>= next) = .ok answer ↔ ∃ value, result = .ok value ∧ next value = .ok answer := by
  constructor
  · intro done
    cases result with
    | error fault => contradiction
    | ok value => exact ⟨value, rfl, done⟩
  · rintro ⟨value, rfl, done⟩
    exact done

theorem ok_of_toOption {ε α : Type} {result : Except ε α} {value : α}
    (isSome : result.toOption = some value) : result = .ok value := by
  cases result with
  | error fault => contradiction
  | ok found => exact congrArg Except.ok (Option.some.inj isSome)

/-! ## Digits in front of a text -/

theorem dropBlanks_of_allDigits {text rest : List Char} (all : AllDigits text)
    (nonempty : text ≠ []) : dropBlanks (text ++ rest) = text ++ rest := by
  cases text with
  | nil => contradiction
  | cons c text => exact dropBlanks_cons_of_not_blank (not_isBlank_of_isDigit all.head)

theorem leadingDigits_append {width : Nat} {text rest : List Char} (all : AllDigits text)
    (fits : text.length ≤ width) (stops : text.length = width ∨ BeginsWithoutDigit rest) :
    leadingDigits width (text ++ rest) = text := by
  have behind : BeginsWithoutDigit (rest.take (width - text.length)) := by
    rcases stops with full | stops
    · rw [full, Nat.sub_self, List.take_zero]
      intro c member
      contradiction
    · intro c member
      rw [List.head?_take] at member
      split at member
      · contradiction
      · exact stops c member
  rw [leadingDigits, List.take_append, List.take_of_length_le fits, takeWhile_isDigit all behind]

theorem readDigits_append {width : Nat} {text rest : List Char} (all : AllDigits text)
    (nonempty : text ≠ []) (fits : text.length ≤ width)
    (stops : text.length = width ∨ BeginsWithoutDigit rest) :
    readDigits width (text ++ rest) = .ok (digitsValue text, rest) := by
  have more : text ++ rest ≠ [] := List.append_ne_nil_of_left_ne_nil nonempty rest
  simp only [readDigits, leadingDigits_append all fits stops, if_neg more, if_neg nonempty,
    List.drop_left]

theorem readExactDigits_append {width : Nat} {text rest : List Char} (all : AllDigits text)
    (full : text.length = width) :
    readExactDigits width (text ++ rest) = .ok (digitsValue text, rest) := by
  simp only [readExactDigits, leadingDigits_append all (Nat.le_of_eq full) (.inl full),
    if_pos full, List.drop_left]

theorem readExactDigits_paddedDigits {width value : Nat} (positive : 0 < width)
    (fits : value < 10 ^ width) (rest : List Char) :
    readExactDigits width (paddedDigits width value ++ rest) = .ok (value, rest) := by
  rw [readExactDigits_append (allDigits_paddedDigits width value)
    (length_paddedDigits positive fits), digitsValue_paddedDigits]

section TwoDigits

variable {low high value : Nat} (least : low ≤ value) (greatest : value ≤ high)
  (short : value < 100) (rest : List Char)

include least greatest short

theorem readField_paddedDigits :
    readField low high (paddedDigits 2 value ++ rest) = .ok (value, rest) := by
  have full : (paddedDigits 2 value).length = 2 := length_paddedDigits (by decide) short
  rw [readField, dropBlanks_of_allDigits (allDigits_paddedDigits 2 value)
    (paddedDigits_ne_nil 2 value), readDigits_append (allDigits_paddedDigits 2 value)
    (paddedDigits_ne_nil 2 value) (Nat.le_of_eq full) (.inl full), digitsValue_paddedDigits]
  exact if_pos ⟨least, greatest⟩

theorem readExactField_paddedDigits :
    readExactField low high (paddedDigits 2 value ++ rest) = .ok (value, rest) := by
  rw [readExactField, readExactDigits_paddedDigits (by decide) short]
  exact if_pos ⟨least, greatest⟩

end TwoDigits

/-! ## Dates -/

theorem Date.bounds (date : Date) :
    (firstYear ≤ date.year ∧ date.year ≤ lastYear) ∧ (1 ≤ date.month ∧ date.month ≤ 12) ∧
      1 ≤ date.day ∧ date.day ≤ 31 := by
  have valid := of_decide_eq_true date.isDate
  have monthLength : daysInMonth date.year date.month ≤ 31 := by
    unfold daysInMonth
    split
    · split <;> decide
    all_goals decide
  omega

theorem readDigits_of_signed {year : Nat} {rest : List Char} (stops : BeginsWithoutDigit rest) :
    readDigits (paddedDigits 4 year ++ rest).length (paddedDigits 4 year ++ rest) =
      .ok (year, rest) := by
  have fits : (paddedDigits 4 year).length ≤ (paddedDigits 4 year ++ rest).length := by
    rw [List.length_append]
    omega
  rw [readDigits_append (allDigits_paddedDigits 4 year) (paddedDigits_ne_nil 4 year) fits
    (.inr stops), digitsValue_paddedDigits]

private theorem withinYear_of_inRange {year : Int} {rest : List Char}
    (inRange : firstYear ≤ year ∧ year ≤ lastYear) :
    withinYear (year, rest) = .ok (year, rest) := by
  have first : firstYear = -262143 := rfl
  have last : lastYear = 262142 := rfl
  rw [withinYear, if_pos]
  omega

private theorem readYear_minus (rest : List Char) :
    readYear ('-' :: rest) =
      (readDigits rest.length rest >>= fun read => withinYear (-(read.1 : Int), read.2)) := by
  have solid : isBlank '-' = false := by decide
  rw [readYear, dropBlanks_cons_of_not_blank solid]
  rfl

private theorem readYear_plus (rest : List Char) :
    readYear ('+' :: rest) =
      (readDigits rest.length rest >>= fun read => withinYear ((read.1 : Int), read.2)) := by
  have solid : isBlank '+' = false := by decide
  rw [readYear, dropBlanks_cons_of_not_blank solid]
  rfl

theorem readYear_of_allDigits {text rest : List Char} (all : AllDigits text)
    (nonempty : text ≠ []) :
    readYear (text ++ rest) =
      (readDigits 4 (text ++ rest)).map fun read => ((read.1 : Int), read.2) := by
  have noSign : ∀ c ∈ text.head?, c ≠ '-' ∧ c ≠ '+' := by
    intro c member
    constructor
    all_goals
      rintro rfl
      exact absurd (all _ (List.mem_of_mem_head? member)) (by decide)
  rw [readYear, dropBlanks_of_allDigits all nonempty]
  cases text with
  | nil => contradiction
  | cons c text =>
      rw [List.cons_append]
      split
      · rename_i same
        exact absurd (List.cons.inj same).1 (noSign c rfl).1
      · rename_i same
        exact absurd (List.cons.inj same).1 (noSign c rfl).2
      · rfl

theorem readYear_yearDigits {year : Int} {rest : List Char}
    (inRange : firstYear ≤ year ∧ year ≤ lastYear) (stops : BeginsWithoutDigit rest) :
    readYear (Date.yearDigits year ++ rest) = .ok (year, rest) := by
  have within : withinYear (year, rest) = .ok (year, rest) := withinYear_of_inRange inRange
  rw [Date.yearDigits]
  split
  · -- Four digits without a sign.
    have short : year.natAbs < 10000 := by omega
    have full : (paddedDigits 4 year.natAbs).length = 4 := length_paddedDigits (by decide) short
    have all : AllDigits (paddedDigits 4 year.natAbs) := allDigits_paddedDigits 4 _
    have nonempty := paddedDigits_ne_nil 4 year.natAbs
    have isRead : readDigits 4 (paddedDigits 4 year.natAbs ++ rest) = _ :=
      readDigits_append all nonempty (Nat.le_of_eq full) (.inl full)
    rw [digitsValue_paddedDigits] at isRead
    rw [readYear_of_allDigits all nonempty, isRead]
    change Except.ok ((year.natAbs : Int), rest) = _
    rw [Int.natAbs_of_nonneg (by omega)]
  · split
    · have same : -(year.natAbs : Int) = year := by omega
      rw [List.cons_append, readYear_minus, readDigits_of_signed stops, ok_bind]
      rw [same, within]
    · have same : (year.natAbs : Int) = year := by omega
      rw [List.cons_append, readYear_plus, readDigits_of_signed stops, ok_bind]
      rw [same, within]

theorem beginsWithoutDigit_cons {c : Char} {rest : List Char} (noDigit : isDigit c = false) :
    BeginsWithoutDigit (c :: rest) := by
  intro d member
  rw [List.head?_cons, Option.mem_some_iff] at member
  rw [← member, noDigit]

@[simp] theorem beginsWithoutDigit_nil : BeginsWithoutDigit [] := by
  intro c member
  contradiction

def Date.numbers (date : Date) : DateNumbers :=
  ⟨date.year, date.month, date.day⟩

theorem readDateNumbers_toChars {loose : Bool} (date : Date) (rest : List Char) :
    readDateNumbers loose (date.toChars ++ rest) = .ok (date.numbers, rest) := by
  obtain ⟨year, ⟨leastMonth, greatestMonth⟩, leastDay, greatestDay⟩ := date.bounds
  have readYear : ∀ rest, readYear (Date.yearDigits date.year ++ '-' :: rest) = _ :=
    fun rest => readYear_yearDigits year (beginsWithoutDigit_cons (by decide))
  have readMonth := readField_paddedDigits leastMonth greatestMonth (by omega)
  have readDay := readField_paddedDigits leastDay greatestDay (by omega)
  have hyphen : ∀ rest : List Char, dropBlanks ('-' :: rest) = '-' :: rest :=
    fun rest => dropBlanks_cons_of_not_blank (by decide)
  simp only [readDateNumbers, Date.toChars, List.append_assoc, List.cons_append, List.nil_append,
    readYear, ok_bind, hyphen, ite_self, expect, if_true, readMonth, readDay, Date.numbers]

@[simp] theorem toDate_numbers (date : Date) : date.numbers.toDate = .ok date := by
  have made : Date.ofNumbers? date.year date.month date.day = some date :=
    Date.ofNumbers?_eq_some_iff.mpr ⟨rfl, rfl, rfl⟩
  rw [DateNumbers.toDate, Date.numbers, made]

theorem readDate_toChars (date : Date) : readDate date.toChars = .ok date := by
  have isRead : readDateNumbers false (date.toChars ++ []) = _ := readDateNumbers_toChars date []
  rw [List.append_nil] at isRead
  simp only [readDate, isRead, ok_bind, finish, toDate_numbers]

/-! ## Times of day -/

namespace TimeOfDay

/-- The time that is read where a time is written. A leap second that is not at the end of a
minute looks like the second behind it. -/
def shown (time : TimeOfDay) : TimeOfDay :=
  if proper : time.Proper then time
  else
    { time with
      second := time.second + 1
      nanosecond := time.nanosecond - 10 ^ 9
      second_lt := by
        have := time.second_lt
        simp only [Proper] at proper
        omega
      nanosecond_lt := Nat.lt_of_le_of_lt (Nat.sub_le _ _) time.nanosecond_lt }

@[simp] theorem shown_of_proper {time : TimeOfDay} (proper : time.Proper) : time.shown = time :=
  dif_pos proper

@[simp] theorem shown_eq_self_iff {time : TimeOfDay} : time.shown = time ↔ time.Proper := by
  refine ⟨fun same => Decidable.byContradiction fun improper => ?_, shown_of_proper⟩
  rw [shown, dif_neg improper] at same
  exact Nat.succ_ne_self _ (congrArg second same)

theorem shownSecond_le (time : TimeOfDay) : time.shownSecond ≤ 60 := by
  have := time.second_lt
  unfold shownSecond
  split <;> omega

theorem fraction_lt (time : TimeOfDay) : time.fraction < 10 ^ 9 :=
  Nat.mod_lt _ (by decide)

def numbers (time : TimeOfDay) : TimeNumbers :=
  ⟨time.hour, time.minute, time.shownSecond, time.fraction⟩

end TimeOfDay

theorem readFraction_paddedDigits {width value : Nat} {rest : List Char} (some : 0 < width)
    (fits : value < 10 ^ width) (few : width ≤ 9) (stops : BeginsWithoutDigit rest) :
    readFraction ('.' :: (paddedDigits width value ++ rest)) =
      .ok (value * 10 ^ (9 - width), rest) := by
  have full : (paddedDigits width value).length = width := length_paddedDigits some fits
  have all : AllDigits (paddedDigits width value) := allDigits_paddedDigits width value
  have nonempty := paddedDigits_ne_nil width value
  have more : paddedDigits width value ++ rest ≠ [] :=
    List.append_ne_nil_of_left_ne_nil nonempty rest
  have whole : (paddedDigits width value).take 9 = paddedDigits width value :=
    List.take_of_length_le (by omega)
  simp only [readFraction, takeWhile_isDigit all stops, dropWhile_isDigit all stops, if_neg more,
    if_neg nonempty, nanoseconds, whole, full, digitsValue_paddedDigits]

theorem readFraction_fractionChars (time : TimeOfDay) {rest : List Char}
    (stops : BeginsWithoutDigit rest) :
    readFraction (time.fractionChars ++ rest) = .ok (time.fraction, rest) := by
  have bound := time.fraction_lt
  rw [TimeOfDay.fractionChars, List.cons_append]
  split
  · rw [readFraction_paddedDigits (by decide) (by omega) (by decide) stops,
      Nat.div_mul_cancel (Nat.dvd_of_mod_eq_zero ‹_›)]
  · split
    · rw [readFraction_paddedDigits (by decide) (by omega) (by decide) stops,
        Nat.div_mul_cancel (Nat.dvd_of_mod_eq_zero ‹_›)]
    · rw [readFraction_paddedDigits (by decide) bound (by decide) stops, Nat.sub_self,
        Nat.pow_zero, Nat.mul_one]

theorem readTimeNumbers_clockChars {loose : Bool} (time : TimeOfDay) {rest after : List Char}
    {nanosecond : Nat} (fraction : readFraction rest = .ok (nanosecond, after)) :
    readTimeNumbers loose (time.clockChars ++ rest) =
      .ok (⟨time.hour, time.minute, time.shownSecond, nanosecond⟩, after) := by
  have hour_lt := time.hour_lt
  have minute_lt := time.minute_lt
  have second_le := time.shownSecond_le
  have readHour := readField_paddedDigits (Nat.zero_le time.hour)
    (show time.hour ≤ 23 by omega) (by omega)
  have readMinute := readField_paddedDigits (Nat.zero_le time.minute)
    (show time.minute ≤ 59 by omega) (by omega)
  have readSecond := readField_paddedDigits (Nat.zero_le time.shownSecond) second_le (by omega)
  have colon : ∀ rest : List Char, dropBlanks (':' :: rest) = ':' :: rest :=
    fun rest => dropBlanks_cons_of_not_blank (by decide)
  simp only [readTimeNumbers, TimeOfDay.clockChars, List.append_assoc, List.cons_append,
    List.nil_append, ok_bind, colon, ite_self, expect, if_true, readHour, readMinute, readSecond,
    fraction]

theorem readTimeNumbers_toChars {loose : Bool} (time : TimeOfDay) {rest : List Char}
    (stops : BeginsWithoutDigit rest) :
    readTimeNumbers loose (time.toChars ++ rest) = .ok (time.numbers, rest) := by
  rw [TimeOfDay.toChars, List.append_assoc]
  exact readTimeNumbers_clockChars time (readFraction_fractionChars time stops)

@[simp] theorem toTime_numbers (time : TimeOfDay) : time.numbers.toTime = .ok time.shown := by
  have valid : time.hour < 24 ∧ time.minute < 60 ∧ time.shownSecond ≤ 60 ∧
      time.fraction < 10 ^ 9 :=
    ⟨time.hour_lt, time.minute_lt, time.shownSecond_le, time.fraction_lt⟩
  have made : TimeOfDay.ofNumbers? time.hour time.minute time.shownSecond time.fraction =
      some time.shown := by
    have second_lt := time.second_lt
    have nanosecond_lt := time.nanosecond_lt
    have leap := @TimeOfDay.isLeapSecond_eq_true_iff time
    rw [TimeOfDay.ofNumbers?, dif_pos valid]
    congr 1
    by_cases proper : time.Proper
    · rw [TimeOfDay.shown_of_proper proper]
      rw [TimeOfDay.Proper] at proper
      unfold TimeOfDay.shownSecond TimeOfDay.fraction
      ext <;> dsimp only <;> split <;> grind
    · rw [TimeOfDay.shown, dif_neg proper]
      rw [TimeOfDay.Proper] at proper
      unfold TimeOfDay.shownSecond TimeOfDay.fraction
      ext <;> dsimp only <;> split <;> grind
  rw [TimeNumbers.toTime, TimeOfDay.numbers, made]

theorem proper_of_toTime {numbers : TimeNumbers} {time : TimeOfDay}
    (made : numbers.toTime = .ok time) : time.Proper := by
  rw [TimeNumbers.toTime, TimeOfDay.ofNumbers?] at made
  split at made
  · rename_i isTime
    split at isTime
    · cases made
      cases isTime
      intro leap
      simp only [TimeOfDay.isLeapSecond, decide_eq_true_eq] at leap
      change min numbers.second 59 = 59
      split at leap <;> omega
    · contradiction
  · contradiction

theorem readTime_toChars (time : TimeOfDay) : readTime time.toChars = .ok time.shown := by
  have isRead : readTimeNumbers false (time.toChars ++ []) = _ :=
    readTimeNumbers_toChars time beginsWithoutDigit_nil
  rw [List.append_nil] at isRead
  simp only [readTime, isRead, ok_bind, finish, toTime_numbers]

theorem proper_of_readTime {text : List Char} {time : TimeOfDay}
    (isRead : readTime text = .ok time) : time.Proper := by
  simp only [readTime, bind_eq_ok_iff, Prod.exists] at isRead
  obtain ⟨numbers, rest, -, -, -, made⟩ := isRead
  exact proper_of_toTime made

/-! ## Date and time together -/

theorem DateTime.toChars_eq (dateTime : DateTime) :
    dateTime.toChars = dateTime.date.toChars ++ ' ' :: dateTime.time.toChars := by
  rw [DateTime.toChars, List.append_assoc, List.singleton_append]

theorem dropBlanks_toChars (time : TimeOfDay) (rest : List Char) :
    dropBlanks (' ' :: (time.toChars ++ rest)) = time.toChars ++ rest := by
  rw [Text.dropBlanks_cons_of_blank (by decide), TimeOfDay.toChars, TimeOfDay.clockChars]
  simp only [List.append_assoc]
  exact dropBlanks_of_allDigits (allDigits_paddedDigits 2 _) (paddedDigits_ne_nil 2 _)

theorem readDateTimeNumbers_toChars (dateTime : DateTime) {rest : List Char}
    (stops : BeginsWithoutDigit rest) :
    readDateTimeNumbers .blanks (dateTime.toChars ++ rest) =
      .ok ((dateTime.date.numbers, dateTime.time.numbers), rest) := by
  rw [DateTime.toChars_eq, List.append_assoc, List.cons_append]
  simp only [readDateTimeNumbers, readDateNumbers_toChars, ok_bind, Separator.read,
    dropBlanks_toChars, readTimeNumbers_toChars _ stops]

def DateTime.shown (dateTime : DateTime) : DateTime :=
  { dateTime with time := dateTime.time.shown }

@[simp] theorem makeDateTime_numbers (dateTime : DateTime) :
    makeDateTime (dateTime.date.numbers, dateTime.time.numbers) = .ok dateTime.shown := by
  simp only [makeDateTime, toDate_numbers, toTime_numbers, ok_bind, DateTime.shown]

theorem proper_of_makeDateTime {numbers : DateNumbers × TimeNumbers} {dateTime : DateTime}
    (made : makeDateTime numbers = .ok dateTime) : dateTime.time.Proper := by
  simp only [makeDateTime, bind_eq_ok_iff] at made
  obtain ⟨date, -, time, isTime, same⟩ := made
  cases same
  exact proper_of_toTime isTime

theorem proper_of_readDateTime? {text : List Char} {dateTime : DateTime}
    (isRead : readDateTime? text = some dateTime) : dateTime.time.Proper := by
  have proper : ∀ separator, (readDateTimeWith separator text).toOption = some dateTime →
      dateTime.time.Proper := by
    intro separator isSome
    have isRead := ok_of_toOption isSome
    simp only [readDateTimeWith, bind_eq_ok_iff, Prod.exists] at isRead
    obtain ⟨date, time, rest, -, -, -, made⟩ := isRead
    exact proper_of_makeDateTime made
  rw [readDateTime?, Option.or_eq_some_iff] at isRead
  rcases isRead with blanks | ⟨-, letter⟩
  · exact proper _ blanks
  · exact proper _ letter

@[simp] theorem DateTime.shown_of_proper {dateTime : DateTime} (proper : dateTime.time.Proper) :
    dateTime.shown = dateTime := by
  rw [shown, TimeOfDay.shown_of_proper proper]

theorem readDateTime?_toChars (dateTime : DateTime) :
    readDateTime? dateTime.toChars = some dateTime.shown := by
  have isRead := readDateTimeNumbers_toChars dateTime beginsWithoutDigit_nil
  rw [List.append_nil] at isRead
  have exact : readDateTimeWith .blanks dateTime.toChars = .ok dateTime.shown := by
    simp only [readDateTimeWith, isRead, ok_bind, finish, makeDateTime_numbers]
  rw [readDateTime?, exact]
  rfl

end RemoteQuery.Calendar
