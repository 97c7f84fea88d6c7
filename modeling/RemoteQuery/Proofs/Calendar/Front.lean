import RemoteQuery.Proofs.Calendar.Written

/-! # What stands in front

A text begins with a date and a time in one way at most: whatever stands between the two, and
whichever reader takes them, the numbers are the same, and so is what is left behind them. It
stays so in front of another text that cannot be taken for more of the time.
-/

namespace RemoteQuery.Calendar

open Number (AllDigits BeginsWithoutDigit digitsValue dropWhile_isDigit isDigit takeWhile_isDigit)
open Text (dropBlanks dropBlanks_cons_of_not_blank isBlank)

/-! ## Numbers -/

/-- A text begins with a number of at most so many digits, and no digit that could be one of
them is left behind it. -/
inductive BeginsWithNumber (width : Nat) :
    (text : List Char) → (value : Nat) → (rest : List Char) → Prop
  | intro {digits rest : List Char} (all : AllDigits digits) (nonempty : digits ≠ [])
      (fits : digits.length ≤ width) (stops : digits.length = width ∨ BeginsWithoutDigit rest) :
      BeginsWithNumber width (digits ++ rest) (digitsValue digits) rest

theorem beginsWithoutDigit_append {text extra : List Char} (noDigit : BeginsWithoutDigit text)
    (noMore : BeginsWithoutDigit extra) : BeginsWithoutDigit (text ++ extra) := by
  cases text with
  | nil => exact noMore
  | cons c text => exact noDigit

theorem leadingDigits_stops (width : Nat) (text : List Char) :
    (leadingDigits width text).length = width ∨
      BeginsWithoutDigit (text.drop (leadingDigits width text).length) := by
  induction text generalizing width with
  | nil =>
      right
      rw [List.drop_nil]
      exact beginsWithoutDigit_nil
  | cons c text induction =>
      cases width with
      | zero => exact .inl rfl
      | succ width =>
          rw [leadingDigits, List.take_succ_cons]
          by_cases digit : isDigit c = true
          · rw [List.takeWhile_cons_of_pos digit, List.length_cons, List.drop_succ_cons]
            exact (induction width).imp_left (congrArg Nat.succ)
          · rw [List.takeWhile_cons_of_neg digit]
            exact .inr (beginsWithoutDigit_cons (eq_false_of_ne_true digit))

theorem beginsWithNumber_leadingDigits {width : Nat} {text : List Char}
    (nonempty : leadingDigits width text ≠ []) :
    BeginsWithNumber width text (digitsValue (leadingDigits width text))
      (text.drop (leadingDigits width text).length) := by
  have prefixed : leadingDigits width text <+: text :=
    (List.takeWhile_prefix _).trans (List.take_prefix width text)
  have split : leadingDigits width text ++ text.drop (leadingDigits width text).length = text :=
    List.prefix_iff_eq_append.mp prefixed
  have all : AllDigits (leadingDigits width text) := List.all_eq_true.mp List.all_takeWhile
  have fits : (leadingDigits width text).length ≤ width :=
    Nat.le_trans (List.takeWhile_prefix _).length_le (List.length_take_le width text)
  have begins := BeginsWithNumber.intro all nonempty fits (leadingDigits_stops width text)
  rwa [split] at begins

theorem readDigits_eq_ok_iff {width value : Nat} {text rest : List Char} :
    readDigits width text = .ok (value, rest) ↔ BeginsWithNumber width text value rest := by
  constructor
  · intro isRead
    simp only [readDigits] at isRead
    split at isRead
    · contradiction
    · split at isRead
      · contradiction
      · rename_i nonempty
        cases isRead
        exact beginsWithNumber_leadingDigits nonempty
  · rintro ⟨all, nonempty, fits, stops⟩
    exact readDigits_append all nonempty fits stops

theorem beginsWithNumber_of_readExactDigits {width value : Nat} {text rest : List Char}
    (positive : 0 < width) (isRead : readExactDigits width text = .ok (value, rest)) :
    BeginsWithNumber width text value rest := by
  simp only [readExactDigits] at isRead
  split at isRead
  · rename_i full
    have nonempty : leadingDigits width text ≠ [] := by
      intro empty
      rw [empty] at full
      exact absurd full (Nat.ne_of_lt positive)
    cases isRead
    exact beginsWithNumber_leadingDigits nonempty
  · split at isRead <;> contradiction

namespace BeginsWithNumber

variable {width value : Nat} {text rest extra : List Char}

theorem dropBlanks_eq (begins : BeginsWithNumber width text value rest) :
    dropBlanks text = text := by
  cases begins with
  | intro all nonempty => exact dropBlanks_of_allDigits all nonempty

theorem ne_nil (begins : BeginsWithNumber width text value rest) : text ≠ [] := by
  cases begins with
  | intro all nonempty => exact List.append_ne_nil_of_left_ne_nil nonempty _

theorem isDigit_head {c : Char} (begins : BeginsWithNumber width (c :: text) value rest) :
    isDigit c = true := by
  generalize whole : c :: text = front at begins
  obtain @⟨digits, rest, all, nonempty, _, _⟩ := begins
  cases digits with
  | nil => contradiction
  | cons d digits =>
      rw [(List.cons.inj whole).1]
      exact all.head

theorem append (begins : BeginsWithNumber width text value rest)
    (noMore : BeginsWithoutDigit extra) :
    BeginsWithNumber width (text ++ extra) value (rest ++ extra) := by
  cases begins with
  | intro all nonempty fits stops =>
      rw [List.append_assoc]
      exact .intro all nonempty fits
        (stops.imp_right fun noDigit => beginsWithoutDigit_append noDigit noMore)

theorem widen (begins : BeginsWithNumber text.length text value rest)
    (wider : text.length ≤ width) : BeginsWithNumber width text value rest := by
  generalize whole : text.length = length at begins wider
  cases begins with
  | intro all nonempty fits stops =>
      rw [List.length_append] at whole
      refine .intro all nonempty (Nat.le_trans fits wider) (.inr ?_)
      rcases stops with full | stops
      · rw [List.eq_nil_of_length_eq_zero (show List.length rest = 0 by omega)]
        exact beginsWithoutDigit_nil
      · exact stops

end BeginsWithNumber

theorem readField_eq_ok_iff {low high value : Nat} {text rest : List Char} :
    readField low high text = .ok (value, rest) ↔
      BeginsWithNumber 2 (dropBlanks text) value rest ∧ low ≤ value ∧ value ≤ high := by
  simp only [readField, bind_eq_ok_iff, Prod.exists, readDigits_eq_ok_iff, within]
  constructor
  · rintro ⟨_, _, begins, isWithin⟩
    split at isWithin
    · cases isWithin
      exact ⟨begins, ‹_›⟩
    · contradiction
  · rintro ⟨begins, inside⟩
    exact ⟨value, rest, begins, if_pos inside⟩

theorem beginsWithNumber_of_readExactField {low high value : Nat} {text rest : List Char}
    (isRead : readExactField low high text = .ok (value, rest)) :
    BeginsWithNumber 2 text value rest ∧ low ≤ value ∧ value ≤ high := by
  simp only [readExactField, bind_eq_ok_iff, Prod.exists, within] at isRead
  obtain ⟨_, _, isNumber, isWithin⟩ := isRead
  split at isWithin
  · cases isWithin
    exact ⟨beginsWithNumber_of_readExactDigits (by decide) isNumber, ‹_›⟩
  · contradiction

theorem readField_of_readExactField {low high value : Nat} {text rest : List Char}
    (isRead : readExactField low high text = .ok (value, rest)) :
    readField low high text = .ok (value, rest) := by
  obtain ⟨begins, inside⟩ := beginsWithNumber_of_readExactField isRead
  rw [readField_eq_ok_iff, begins.dropBlanks_eq]
  exact ⟨begins, inside⟩

theorem readYear_of_readExactDigits {value : Nat} {text rest : List Char}
    (isRead : readExactDigits 4 text = .ok (value, rest)) :
    readYear text = .ok ((value : Int), rest) := by
  have begins := beginsWithNumber_of_readExactDigits (by decide) isRead
  have isNumber := readDigits_eq_ok_iff.mpr begins
  cases begins with
  | intro all nonempty =>
      rw [readYear_of_allDigits all nonempty, isNumber]
      rfl

inductive BeginsWithFraction :
    (text : List Char) → (nanosecond : Nat) → (rest : List Char) → Prop
  | none {text : List Char} (noPoint : ∀ c ∈ text.head?, c ≠ '.') : BeginsWithFraction text 0 text
  | digits {digits rest : List Char} (all : AllDigits digits) (nonempty : digits ≠ [])
      (stops : BeginsWithoutDigit rest) :
      BeginsWithFraction ('.' :: (digits ++ rest)) (nanoseconds digits) rest

theorem beginsWithoutDigit_dropWhile (text : List Char) :
    BeginsWithoutDigit (text.dropWhile isDigit) := by
  intro c member
  have stopped := List.head?_dropWhile_not isDigit text
  rw [Option.mem_def.mp member] at stopped
  exact stopped

theorem readFraction_eq_ok_iff {text rest : List Char} {nanosecond : Nat} :
    readFraction text = .ok (nanosecond, rest) ↔ BeginsWithFraction text nanosecond rest := by
  constructor
  · intro isRead
    unfold readFraction at isRead
    split at isRead
    · rename_i text
      split at isRead
      · contradiction
      · dsimp only at isRead
        split at isRead
        · contradiction
        · rename_i nonempty
          cases isRead
          have begins := BeginsWithFraction.digits (List.all_eq_true.mp List.all_takeWhile)
            nonempty (beginsWithoutDigit_dropWhile text)
          rwa [List.takeWhile_append_dropWhile] at begins
    · rename_i noPoint
      cases isRead
      refine .none fun c member point => ?_
      cases text with
      | nil => contradiction
      | cons d text =>
          cases Option.mem_some.mp member
          exact noPoint text (congrArg (· :: text) point)
  · intro begins
    cases begins with
    | none noPoint =>
        unfold readFraction
        split
        · exact absurd rfl (noPoint '.' rfl)
        · rfl
    | digits all nonempty stops =>
        simp only [readFraction, takeWhile_isDigit all stops, dropWhile_isDigit all stops,
          if_neg nonempty, if_neg (List.append_ne_nil_of_left_ne_nil nonempty _)]

/-! ## In front of another text -/

section Extended

variable {text rest extra : List Char}

theorem dropBlanks_append (nonempty : dropBlanks text ≠ []) (extra : List Char) :
    dropBlanks (text ++ extra) = dropBlanks text ++ extra := by
  rw [dropBlanks, List.dropWhile_append, if_neg]
  · rfl
  · rwa [List.isEmpty_iff]

theorem expect_append {c : Char} (isRead : expect c text = .ok rest) :
    expect c (text ++ extra) = .ok (rest ++ extra) := by
  cases text with
  | nil => contradiction
  | cons d text =>
      rw [expect] at isRead
      rw [List.cons_append, expect]
      split at isRead
      · rename_i same
        cases isRead
        exact if_pos same
      · contradiction

variable (noDigit : BeginsWithoutDigit extra)

include noDigit

theorem readField_append {low high value : Nat}
    (isRead : readField low high text = .ok (value, rest)) :
    readField low high (text ++ extra) = .ok (value, rest ++ extra) := by
  obtain ⟨begins, inside⟩ := readField_eq_ok_iff.mp isRead
  rw [readField_eq_ok_iff, dropBlanks_append begins.ne_nil]
  exact ⟨begins.append noDigit, inside⟩

private theorem readSignedYear_append (sign : Nat → Int) {year : Int}
    (isRead : (readDigits text.length text >>= fun read =>
      withinYear (sign read.1, read.2)) = .ok (year, rest)) :
    (readDigits (text ++ extra).length (text ++ extra) >>= fun read =>
      withinYear (sign read.1, read.2)) = .ok (year, rest ++ extra) := by
  simp only [bind_eq_ok_iff, Prod.exists, readDigits_eq_ok_iff, withinYear] at isRead ⊢
  obtain ⟨value, after, begins, isWithin⟩ := isRead
  split at isWithin
  · cases isWithin
    have wider : text.length ≤ (text ++ extra).length := by
      rw [List.length_append]
      omega
    exact ⟨value, _, (begins.widen wider).append noDigit, if_pos ‹_›⟩
  · contradiction

theorem readYear_append {year : Int} (isRead : readYear text = .ok (year, rest)) :
    readYear (text ++ extra) = .ok (year, rest ++ extra) := by
  rw [readYear] at isRead ⊢
  cases front : dropBlanks text with
  | nil =>
      rw [front] at isRead
      contradiction
  | cons c digits =>
      have nonempty : dropBlanks text ≠ [] := by
        rw [front]
        exact List.cons_ne_nil c digits
      rw [front] at isRead
      rw [dropBlanks_append nonempty, front, List.cons_append]
      split at isRead
      · rename_i same
        cases same
        exact readSignedYear_append noDigit (fun value => -(value : Int)) isRead
      · rename_i same
        cases same
        exact readSignedYear_append noDigit Nat.cast isRead
      · -- Without a sign, what follows the text does not bring one in.
        rename_i noMinus noPlus
        split
        · rename_i same
          cases same
          exact absurd rfl (noMinus _)
        · rename_i same
          cases same
          exact absurd rfl (noPlus _)
        · simp only [bind_eq_ok_iff, Prod.exists, readDigits_eq_ok_iff] at isRead ⊢
          obtain ⟨value, after, begins, same⟩ := isRead
          cases same
          exact ⟨value, _, begins.append noDigit, rfl⟩

theorem readFraction_append {nanosecond : Nat} (noPoint : ∀ c ∈ extra.head?, c ≠ '.')
    (isRead : readFraction text = .ok (nanosecond, rest)) :
    readFraction (text ++ extra) = .ok (nanosecond, rest ++ extra) := by
  rw [readFraction_eq_ok_iff] at isRead ⊢
  cases isRead with
  | none noFraction =>
      apply BeginsWithFraction.none
      cases text with
      | nil => exact noPoint
      | cons c text => exact noFraction
  | digits all nonempty stops =>
      rw [List.cons_append, List.append_assoc]
      exact .digits all nonempty (beginsWithoutDigit_append stops noDigit)

theorem readDateNumbers_append {date : DateNumbers}
    (isRead : readDateNumbers false text = .ok (date, rest)) :
    readDateNumbers false (text ++ extra) = .ok (date, rest ++ extra) := by
  simp only [readDateNumbers, bind_eq_ok_iff, Prod.exists, Bool.false_eq_true, if_false]
    at isRead ⊢
  obtain ⟨year, _, isYear, _, firstHyphen, month, _, isMonth, _, secondHyphen, day, _, isDay,
    same⟩ := isRead
  cases same
  exact ⟨year, _, readYear_append noDigit isYear, _, expect_append firstHyphen,
    month, _, readField_append noDigit isMonth, _, expect_append secondHyphen,
    day, _, readField_append noDigit isDay, rfl⟩

theorem readTimeNumbers_append {time : TimeNumbers} (noPoint : ∀ c ∈ extra.head?, c ≠ '.')
    (isRead : readTimeNumbers false text = .ok (time, rest)) :
    readTimeNumbers false (text ++ extra) = .ok (time, rest ++ extra) := by
  simp only [readTimeNumbers, bind_eq_ok_iff, Prod.exists, Bool.false_eq_true, if_false]
    at isRead ⊢
  obtain ⟨hour, _, isHour, _, firstColon, minute, _, isMinute, _, secondColon, second, _,
    isSecond, nanosecond, _, isFraction, same⟩ := isRead
  cases same
  exact ⟨hour, _, readField_append noDigit isHour, _, expect_append firstColon,
    minute, _, readField_append noDigit isMinute, _, expect_append secondColon,
    second, _, readField_append noDigit isSecond,
    nanosecond, _, readFraction_append noDigit noPoint isFraction, rfl⟩

end Extended

/-! ## A date and a time -/

theorem isDigit_of_readTimeNumbers {c : Char} {text rest : List Char} {time : TimeNumbers}
    (solid : isBlank c = false) (isRead : readTimeNumbers false (c :: text) = .ok (time, rest)) :
    isDigit c = true := by
  simp only [readTimeNumbers, bind_eq_ok_iff, Prod.exists] at isRead
  obtain ⟨hour, after, isHour, _⟩ := isRead
  have begins := (readField_eq_ok_iff.mp isHour).1
  rw [dropBlanks_cons_of_not_blank solid] at begins
  exact begins.isDigit_head

inductive Between : (text clock : List Char) → Prop
  | blanks (text : List Char) : Between text (dropBlanks text)
  | letter {c : Char} {clock : List Char} (isLetter : c = 'T' ∨ c = 't') :
      Between (c :: clock) clock

/-- A text begins with a date and a time, and the rest stands behind them. All readers of
timestamps take them so, which is why what one of them leaves can be held against what another
one expects. -/
inductive BeginsWithDateTime (text : List Char) (numbers : DateNumbers × TimeNumbers)
    (rest : List Char) : Prop
  | intro {afterDate clock : List Char}
      (date : readDateNumbers false text = .ok (numbers.1, afterDate))
      (between : Between afterDate clock)
      (time : readTimeNumbers false clock = .ok (numbers.2, rest))

theorem readTimeNumbers_behind_letter {c : Char} {text rest : List Char} {time : TimeNumbers}
    (isLetter : c = 'T' ∨ c = 't') :
    readTimeNumbers false (dropBlanks (c :: text)) ≠ .ok (time, rest) := by
  have solid : isBlank c = false := by rcases isLetter with rfl | rfl <;> decide
  have noDigit : isDigit c ≠ true := by rcases isLetter with rfl | rfl <;> decide
  intro isRead
  rw [dropBlanks_cons_of_not_blank solid] at isRead
  exact noDigit (isDigit_of_readTimeNumbers solid isRead)

/-- Where a time can be read behind blanks, none can be read behind a letter. -/
theorem Between.unique {text clock other rest otherRest : List Char} {time otherTime : TimeNumbers}
    (between : Between text clock) (isTime : readTimeNumbers false clock = .ok (time, rest))
    (otherwise : Between text other)
    (isOther : readTimeNumbers false other = .ok (otherTime, otherRest)) : clock = other := by
  cases between with
  | blanks =>
      cases otherwise with
      | blanks => rfl
      | letter isLetter => exact absurd isTime (readTimeNumbers_behind_letter isLetter)
  | letter isLetter =>
      cases otherwise with
      | blanks => exact absurd isOther (readTimeNumbers_behind_letter isLetter)
      | letter => rfl

namespace BeginsWithDateTime

variable {text rest otherRest extra : List Char} {numbers others : DateNumbers × TimeNumbers}

theorem unique (begins : BeginsWithDateTime text numbers rest)
    (otherwise : BeginsWithDateTime text others otherRest) :
    numbers = others ∧ rest = otherRest := by
  obtain ⟨date, between, time⟩ := begins
  obtain ⟨otherDate, otherBetween, otherTime⟩ := otherwise
  obtain ⟨sameDate, rfl⟩ := Prod.mk.inj (Except.ok.inj (date.symm.trans otherDate))
  cases between.unique time otherBetween otherTime
  obtain ⟨sameTime, sameRest⟩ := Prod.mk.inj (Except.ok.inj (time.symm.trans otherTime))
  exact ⟨Prod.ext sameDate sameTime, sameRest⟩

theorem append (begins : BeginsWithDateTime text numbers rest)
    (noDigit : BeginsWithoutDigit extra) (noPoint : ∀ c ∈ extra.head?, c ≠ '.') :
    BeginsWithDateTime (text ++ extra) numbers (rest ++ extra) := by
  obtain @⟨afterDate, clock, date, between, time⟩ := begins
  refine .intro (readDateNumbers_append noDigit date) ?_
    (readTimeNumbers_append noDigit noPoint time)
  cases between with
  | letter isLetter => exact .letter isLetter
  | blanks =>
      have nonempty : dropBlanks afterDate ≠ [] := by
        intro empty
        rw [empty] at time
        contradiction
      rw [← dropBlanks_append nonempty]
      exact .blanks _

end BeginsWithDateTime

end RemoteQuery.Calendar
