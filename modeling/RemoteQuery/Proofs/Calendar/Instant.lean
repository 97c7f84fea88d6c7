import RemoteQuery.Proofs.Calendar.Zoned

/-! # Written points in time

A point in time is written in universal time, with a fraction only where there is one. The
reader of records, which takes other spellings too, takes this one back as it was, years of any
length and the leap second at the end of a minute included.
-/

namespace RemoteQuery.Calendar

theorem TimeOfDay.ofSecond_secondOfDay (time : TimeOfDay) :
    ofSecond time.secondOfDay time.nanosecond time.secondOfDay_lt time.nanosecond_lt = time := by
  have := time.minute_lt
  have := time.second_lt
  unfold ofSecond secondOfDay
  ext <;> dsimp only <;> omega

theorem DateTime.utcTime_utc (dateTime : DateTime) : dateTime.utcTime .utc = dateTime.time := by
  have bound := dateTime.time.secondOfDay_lt
  have elapsed : (((dateTime.time.secondOfDay : Int) - Offset.utc.seconds) % 86400).toNat =
      dateTime.time.secondOfDay := by
    have zero : Offset.utc.seconds = 0 := rfl
    omega
  simp only [utcTime, elapsed, TimeOfDay.ofSecond_secondOfDay]

theorem DateTime.utcTime_second {dateTime : DateTime} {offset : Offset} (whole : offset.IsWhole) :
    (dateTime.utcTime offset).second = dateTime.time.second := by
  have second_lt := dateTime.time.second_lt
  rw [Offset.IsWhole] at whole
  simp only [utcTime, TimeOfDay.ofSecond, TimeOfDay.secondOfDay]
  omega

namespace Instant

theorem ofZoned_ofUtc (instant : Instant) : ofZoned (.ofUtc instant.utc) = instant := by
  have date : (instant.utc.utcDate? .utc).get (Zoned.ofUtc instant.utc).inRange =
      instant.utc.date :=
    Option.get_of_eq_some _ (Zoned.utcDate?_utc instant.utc)
  simp only [ofZoned, Zoned.ofUtc, date, DateTime.utcTime_utc]

private theorem readFraction_written (time : TimeOfDay) :
    readFraction ((if time.fraction = 0 then [] else time.fractionChars) ++ ['Z']) =
      .ok (time.fraction, ['Z']) := by
  split
  · rename_i whole
    rw [whole]
    rfl
  · exact readFraction_fractionChars time (beginsWithoutDigit_cons (by decide))

def shown (instant : Instant) : Instant :=
  ⟨instant.utc.shown⟩

def Proper (instant : Instant) : Prop :=
  instant.utc.time.Proper

instance (instant : Instant) : Decidable instant.Proper :=
  inferInstanceAs (Decidable instant.utc.time.Proper)

theorem shown_eq_self_iff {instant : Instant} : instant.shown = instant ↔ instant.Proper := by
  obtain ⟨date, time⟩ := instant
  simp [shown, DateTime.shown, Proper]

theorem read?_toString (instant : Instant) : read? instant.toString = some instant.shown := by
  have time : readTimeNumbers true (instant.utc.time.clockChars ++
      ((if instant.utc.time.fraction = 0 then [] else instant.utc.time.fractionChars) ++
        ['Z'])) = .ok (instant.utc.time.numbers, ['Z']) :=
    readTimeNumbers_clockChars instant.utc.time (readFraction_written instant.utc.time)
  have zone : readLooseZone (Text.dropBlanks ['Z']) = .ok (0, []) := rfl
  have offset : Offset.ofSeconds? 0 = some .utc := rfl
  have made : Zoned.of? instant.utc.shown .utc = some (.ofUtc instant.utc.shown) :=
    dif_pos (Zoned.ofUtc instant.utc.shown).inRange
  have read : readInternetLoosely instant.toString.toList = .ok (.ofUtc instant.utc.shown) := by
    simp only [readInternetLoosely, toString, String.toList_ofList, List.append_assoc,
      List.cons_append, List.nil_append, readDateNumbers_toChars, ok_bind,
      readInternetSeparator, true_or, if_true, time, zone, Text.dropBlanks_nil, finish, makeZoned,
      makeDateTime_numbers, offset, Option.bind_some, made]
  rw [read?, read, Except.toOption, Option.map_some]
  exact congrArg some (ofZoned_ofUtc instant.shown)

theorem proper_of_read? {text : String} {instant : Instant}
    (isRead : read? text = some instant) : instant.Proper := by
  obtain ⟨zoned, isZoned, rfl⟩ := Option.map_eq_some_iff.mp isRead
  have plain := plain_of_readInternetLoosely (ok_of_toOption isZoned)
  intro leap
  change (zoned.dateTime.utcTime zoned.offset).second = 59
  rw [DateTime.utcTime_second plain.whole]
  exact plain.proper leap

end Instant

end RemoteQuery.Calendar
