import RemoteQuery.Proofs.Calendar.Written

/-! # Written timestamps with a zone

Offsets are written to the minute, and to the minute they are read, and a leap second is read at
the end of a minute only. A timestamp of this kind is read back with its instant and its offset,
and no other reader of timestamps takes it for something else.
-/

namespace RemoteQuery.Calendar

open Number (BeginsWithoutDigit allDigits_paddedDigits isDigit not_isBlank_of_isDigit paddedDigits
  paddedDigits_ne_nil)
open Text (dropBlanks dropBlanks_cons_of_blank dropBlanks_cons_of_not_blank isBlank)

/-! ## Offsets to the minute -/

/-- An offset has no seconds beside its minutes. -/
def Offset.IsWhole (offset : Offset) : Prop :=
  60 ∣ offset.seconds

theorem dvd_of_readOffsetSeconds {between : List Char → Except ReadError (List Char)}
    {text rest : List Char} {seconds : Int}
    (isRead : readOffsetSeconds between text = .ok (seconds, rest)) : 60 ∣ seconds := by
  simp only [readOffsetSeconds, bind_eq_ok_iff, Prod.exists] at isRead
  obtain ⟨negative, _, -, hours, _, -, _, -, minutes, _, -, same⟩ := isRead
  cases same
  split <;> omega

theorem dvd_of_readZone {between : List Char → Except ReadError (List Char)}
    {text rest : List Char} {seconds : Int} (isRead : readZone between text = .ok (seconds, rest)) :
    60 ∣ seconds := by
  unfold readZone at isRead
  split at isRead
  · cases isRead
    exact Int.dvd_zero 60
  · cases isRead
    exact Int.dvd_zero 60
  · exact dvd_of_readOffsetSeconds isRead

theorem dvd_of_readLooseZone {text rest : List Char} {seconds : Int}
    (isRead : readLooseZone text = .ok (seconds, rest)) : 60 ∣ seconds := by
  unfold readLooseZone at isRead
  split at isRead
  · cases isRead
    exact Int.dvd_zero 60
  · exact dvd_of_readZone isRead

structure Zoned.Plain (zoned : Zoned) : Prop where
  whole : zoned.offset.IsWhole
  proper : zoned.dateTime.time.Proper

theorem plain_of_makeZoned {numbers : DateNumbers × TimeNumbers} {seconds : Int} {zoned : Zoned}
    (whole : 60 ∣ seconds) (made : makeZoned numbers seconds = .ok zoned) : zoned.Plain := by
  simp only [makeZoned, bind_eq_ok_iff] at made
  obtain ⟨dateTime, isDateTime, made⟩ := made
  split at made
  · rename_i isMade
    cases made
    obtain ⟨offset, isOffset, isZoned⟩ := Option.bind_eq_some_iff.mp isMade
    have seconds_eq : offset.seconds = seconds := by
      rw [Offset.ofSeconds?] at isOffset
      split at isOffset
      · injection isOffset with same
        rw [← same]
      · contradiction
    rw [Zoned.of?] at isZoned
    split at isZoned
    · injection isZoned with same
      rw [← same]
      refine ⟨?_, proper_of_makeDateTime isDateTime⟩
      rw [Offset.IsWhole, seconds_eq]
      exact whole
    · contradiction
  · contradiction

theorem plain_of_readInternet {text : List Char} {zoned : Zoned}
    (isRead : readInternet text = .ok zoned) : zoned.Plain := by
  simp only [readInternet, bind_eq_ok_iff, Prod.exists] at isRead
  obtain ⟨_, _, -, _, -, _, _, -, _, -, _, _, -, _, -, _, _, -, _, -, _, _, -, _, -, _, _, -, _, _,
    -, seconds, _, isZone, _, -, made⟩ := isRead
  exact plain_of_makeZoned (dvd_of_readZone isZone) made

theorem plain_of_readWithOffset {text : List Char} {zoned : Zoned}
    (isRead : readWithOffset text = .ok zoned) : zoned.Plain := by
  simp only [readWithOffset, bind_eq_ok_iff, Prod.exists] at isRead
  obtain ⟨_, _, _, -, seconds, _, isZone, _, -, made⟩ := isRead
  exact plain_of_makeZoned (dvd_of_readOffsetSeconds isZone) made

theorem plain_of_readInternetLoosely {text : List Char} {zoned : Zoned}
    (isRead : readInternetLoosely text = .ok zoned) : zoned.Plain := by
  simp only [readInternetLoosely, bind_eq_ok_iff, Prod.exists] at isRead
  obtain ⟨_, _, -, _, -, _, _, -, seconds, _, isZone, _, -, made⟩ := isRead
  exact plain_of_makeZoned (dvd_of_readLooseZone isZone) made

theorem plain_of_readUtcName? {text : List Char} {zoned : Zoned}
    (isRead : readUtcName? text = some zoned) : zoned.Plain := by
  rw [readUtcName?] at isRead
  split at isRead
  · contradiction
  · split at isRead
    · obtain ⟨dateTime, isDateTime, rfl⟩ := Option.map_eq_some_iff.mp isRead
      exact ⟨Int.dvd_zero 60, proper_of_readDateTime? isDateTime⟩
    · contradiction

theorem plain_of_readZoned? {text : List Char} {zoned : Zoned}
    (isRead : readZoned? text = some zoned) : zoned.Plain := by
  rw [readZoned?, Option.or_eq_some_iff, Option.or_eq_some_iff] at isRead
  rcases isRead with (internet | ⟨-, withOffset⟩) | ⟨-, named⟩
  · exact plain_of_readInternet (ok_of_toOption internet)
  · exact plain_of_readWithOffset (ok_of_toOption withOffset)
  · exact plain_of_readUtcName? named

/-! ## Reading a written offset -/

private theorem dropColons_paddedDigits (value : Nat) :
    dropColons (':' :: paddedDigits 2 value) = .ok (paddedDigits 2 value) := by
  have kept : (paddedDigits 2 value).dropWhile (fun c => c = ':' ∨ isBlank c) =
      paddedDigits 2 value := by
    cases found : paddedDigits 2 value with
    | nil => exact absurd found (paddedDigits_ne_nil 2 value)
    | cons c rest =>
        have digit : isDigit c = true :=
          allDigits_paddedDigits 2 value c (found ▸ List.mem_cons_self)
        have noColon : c ≠ ':' := by
          rintro rfl
          exact absurd digit (by decide)
        exact List.dropWhile_cons_of_neg (by simp [noColon, not_isBlank_of_isDigit digit])
  rw [dropColons, List.dropWhile_cons_of_pos (by decide), kept]

theorem readOffsetSeconds_toChars {offset : Offset} (whole : offset.IsWhole) :
    readOffsetSeconds dropColons offset.toChars = .ok (offset.seconds, []) := by
  obtain ⟨seconds, low, high⟩ := offset
  simp only [Offset.IsWhole] at whole
  have minutes : (seconds.natAbs + 30) / 60 = seconds.natAbs / 60 := by omega
  have readHours := readExactDigits_paddedDigits (show 0 < 2 by decide)
    (show seconds.natAbs / 60 / 60 < 10 ^ 2 by omega)
  have readMinutes := readExactField_paddedDigits (Nat.zero_le (seconds.natAbs / 60 % 60))
    (show seconds.natAbs / 60 % 60 ≤ 59 by omega) (by omega) []
  rw [List.append_nil] at readMinutes
  have sign : readSign ((if seconds < 0 then '-' else '+') ::
      (paddedDigits 2 (seconds.natAbs / 60 / 60) ++ ':' ::
        paddedDigits 2 (seconds.natAbs / 60 % 60))) =
      .ok (decide (seconds < 0), paddedDigits 2 (seconds.natAbs / 60 / 60) ++ ':' ::
        paddedDigits 2 (seconds.natAbs / 60 % 60)) := by
    by_cases negative : seconds < 0
    · simp only [negative, if_true, readSign, decide_true]
      rfl
    · simp only [negative, if_false, readSign, decide_false]
      rfl
  rw [Offset.toChars]
  simp only [minutes, List.append_assoc, List.singleton_append]
  simp only [readOffsetSeconds, sign, ok_bind, readHours, dropColons_paddedDigits, readMinutes,
    decide_eq_true_eq]
  congr 2
  split <;> omega

/-! ## Reading a written timestamp with a zone -/

theorem Zoned.toChars_eq (zoned : Zoned) :
    zoned.toChars = zoned.dateTime.toChars ++ ' ' :: zoned.offset.toChars := by
  rw [Zoned.toChars, List.append_assoc, List.singleton_append]

private theorem beginsWithoutDigit_space (rest : List Char) :
    BeginsWithoutDigit (' ' :: rest) :=
  beginsWithoutDigit_cons (by decide)

private theorem dropBlanks_space_toChars (offset : Offset) :
    dropBlanks (' ' :: offset.toChars) = offset.toChars := by
  have solid : isBlank (if offset.seconds < 0 then '-' else '+') = false := by
    split <;> decide
  rw [dropBlanks_cons_of_blank (by decide), Offset.toChars,
    dropBlanks_cons_of_not_blank solid]

theorem readWithOffset_toChars {zoned : Zoned} (plain : zoned.Plain) :
    readWithOffset zoned.toChars = .ok zoned := by
  have numbers := readDateTimeNumbers_toChars zoned.dateTime
    (beginsWithoutDigit_space zoned.offset.toChars)
  have offset : Offset.ofSeconds? zoned.offset.seconds = some zoned.offset :=
    dif_pos zoned.offset.within
  have made : Zoned.of? zoned.dateTime zoned.offset = some zoned := dif_pos zoned.inRange
  simp only [Zoned.toChars_eq, readWithOffset, numbers, ok_bind, dropBlanks_space_toChars,
    readOffsetSeconds_toChars plain.whole, finish, makeZoned, makeDateTime_numbers,
    DateTime.shown_of_proper plain.proper, offset, Option.bind_some, made]

/-- Something is left behind a date and time where an offset is. -/
theorem readDateTime?_toChars_zoned (zoned : Zoned) : readDateTime? zoned.toChars = none := by
  have numbers := readDateTimeNumbers_toChars zoned.dateTime
    (beginsWithoutDigit_space zoned.offset.toChars)
  have blanks : readDateTimeWith .blanks zoned.toChars = .error .trailing := by
    rw [Zoned.toChars_eq, readDateTimeWith, numbers]
    rfl
  have letter : readDateTimeWith .letter zoned.toChars = .error .invalid := by
    rw [Zoned.toChars_eq, DateTime.toChars_eq, List.append_assoc, readDateTimeWith,
      readDateTimeNumbers, readDateNumbers_toChars]
    rfl
  rw [readDateTime?, blanks, letter]
  rfl

private theorem readExactDigits_sign {width : Nat} {c : Char} {rest : List Char}
    (noDigit : isDigit c = false) (positive : 0 < width) :
    readExactDigits width (c :: rest) = .error .invalid := by
  obtain ⟨width, rfl⟩ := Nat.exists_eq_succ_of_ne_zero (Nat.ne_of_gt positive)
  have none : leadingDigits (width + 1) (c :: rest) = [] := by
    rw [leadingDigits, List.take_succ_cons]
    exact List.takeWhile_cons_of_neg (by simp [noDigit])
  simp [readExactDigits, none]

theorem readInternet_toChars (zoned : Zoned) : (readInternet zoned.toChars).toOption = none := by
  obtain ⟨⟨date, time⟩, offset, inRange⟩ := zoned
  rw [Zoned.toChars_eq, DateTime.toChars_eq]
  by_cases unsigned : 0 ≤ date.year ∧ date.year ≤ 9999
  · obtain ⟨_, ⟨leastMonth, greatestMonth⟩, leastDay, greatestDay⟩ := date.bounds
    have hour_lt := time.hour_lt
    have minute_lt := time.minute_lt
    have second_le := time.shownSecond_le
    have readYear := readExactDigits_paddedDigits (show 0 < 4 by decide)
      (show date.year.natAbs < 10 ^ 4 by omega)
    have readMonth := readExactField_paddedDigits leastMonth greatestMonth (by omega)
    have readDay := readExactField_paddedDigits leastDay greatestDay (by omega)
    have readHour := readExactField_paddedDigits (Nat.zero_le time.hour)
      (show time.hour ≤ 23 by omega) (by omega)
    have readMinute := readExactField_paddedDigits (Nat.zero_le time.minute)
      (show time.minute ≤ 59 by omega) (by omega)
    have readSecond := readExactField_paddedDigits (Nat.zero_le time.shownSecond) second_le
      (by omega)
    have fraction := readFraction_fractionChars time (beginsWithoutDigit_space offset.toChars)
    have noZone : readInternet ((date.toChars ++ ' ' :: time.toChars) ++
        ' ' :: offset.toChars) = .error .invalid := by
      simp only [readInternet, Date.toChars, Date.yearDigits, if_pos unsigned,
        TimeOfDay.toChars, TimeOfDay.clockChars, List.append_assoc, List.cons_append,
        List.nil_append, readYear, ok_bind, expect, if_true, readMonth, readDay,
        readInternetSeparator, or_true, readHour, readMinute, readSecond, fraction]
      rfl
    exact congrArg Except.toOption noZone
  · have noDigit : isDigit (if date.year < 0 then '-' else '+') = false := by split <;> decide
    simp only [Date.toChars, Date.yearDigits, if_neg unsigned, List.cons_append, readInternet]
    rw [readExactDigits_sign noDigit (show 0 < 4 by decide)]
    rfl

theorem readZoned?_toChars {zoned : Zoned} (plain : zoned.Plain) :
    readZoned? zoned.toChars = some zoned := by
  rw [readZoned?, readInternet_toChars, readWithOffset_toChars plain]
  rfl

end RemoteQuery.Calendar
