import Mathlib.Data.List.DropRight
import RemoteQuery.Proofs.Calendar.Front

/-! # The spellings of timestamps

Most spellings of a timestamp are given by patterns, and the readers of timestamps read by them,
one reader for all four patterns with an offset. Whichever spellings fit a text, they give the
same timestamp, so the order in which they are tried does not matter. No text is a timestamp both
without and with a zone: a timestamp with a zone begins with a date and a time too, but something
is left behind them.
-/

namespace RemoteQuery.Calendar

open Number (not_isBlank_of_isDigit)
open Text (dropBlanks dropBlanks_cons_of_blank dropBlanks_cons_of_not_blank isBlank)

/-! ## Patterns -/

inductive Field where
  | month
  | day
  | hour
  | minute
  | second
deriving Repr, DecidableEq

inductive Part where
  | year
  | number (field : Field)
  /-- A point and digits, or nothing. -/
  | fraction
  /-- Blanks in any number, also none. -/
  | blank
  | char (expected : Char)
  /-- An offset behind blanks. A colon of the pattern asks for nothing: with and without it,
  colons and blanks between hours and minutes are skipped. -/
  | offset (colon : Bool)
deriving Repr, DecidableEq

structure Found where
  date : DateNumbers := ⟨0, 0, 0⟩
  time : TimeNumbers := ⟨0, 0, 0, 0⟩
  offset : Int := 0
deriving Repr, DecidableEq

namespace Field

def least : Field → Nat
  | .month | .day => 1
  | .hour | .minute | .second => 0

def greatest : Field → Nat
  | .month => 12
  | .day => 31
  | .hour => 23
  | .minute => 59
  | .second => 60

def put (found : Found) (value : Nat) : Field → Found
  | .month => { found with date.month := value }
  | .day => { found with date.day := value }
  | .hour => { found with time.hour := value }
  | .minute => { found with time.minute := value }
  | .second => { found with time.second := value }

end Field

def Part.read (found : Found) (text : List Char) : Part → Except ReadError (Found × List Char)
  | .year => do
      let (value, rest) ← readYear text
      .ok ({ found with date.year := value }, rest)
  | .number field => do
      let (value, rest) ← readField field.least field.greatest text
      .ok (field.put found value, rest)
  | .fraction => do
      let (value, rest) ← readFraction text
      .ok ({ found with time.nanosecond := value }, rest)
  | .blank => .ok (found, dropBlanks text)
  | .char expected => do
      let rest ← expect expected text
      .ok (found, rest)
  | .offset _ => do
      let (value, rest) ← readOffsetSeconds dropColons (dropBlanks text)
      .ok ({ found with offset := value }, rest)

abbrev Pattern := List Part

namespace Pattern

def read : Pattern → Found → List Char → Except ReadError (Found × List Char)
  | [], found, text => .ok (found, text)
  | part :: pattern, found, text => do
      let (found, rest) ← part.read found text
      read pattern found rest

def readDateTime (pattern : Pattern) (text : List Char) : Except ReadError DateTime := do
  let (found, rest) ← pattern.read {} text
  finish rest
  makeDateTime (found.date, found.time)

def readZoned (pattern : Pattern) (text : List Char) : Except ReadError Zoned := do
  let (found, rest) ← pattern.read {} text
  finish rest
  makeZoned (found.date, found.time) found.offset

def dateTime (between : Part) : Pattern :=
  [.year, .char '-', .number .month, .char '-', .number .day, between,
    .number .hour, .char ':', .number .minute, .char ':', .number .second, .fraction]

/-- The spellings without a zone, in the order in which they are tried. -/
def plain : List Pattern :=
  [dateTime .blank, dateTime (.char 'T')]

def withOffset : List Pattern :=
  [dateTime .blank ++ [.blank, .offset true], dateTime .blank ++ [.offset true],
    dateTime .blank ++ [.blank, .offset false], dateTime .blank ++ [.offset false]]

end Pattern

/-! ### Readers that read by patterns -/

def Separator.part : Separator → Part
  | .blanks => .blank
  | .letter => .char 'T'

namespace Pattern

theorem read_append (front back : Pattern) (found : Found) (text : List Char) :
    read (front ++ back) found text =
      (read front found text >>= fun read => back.read read.1 read.2) := by
  induction front generalizing found text with
  | nil => rfl
  | cons part front induction => simp only [List.cons_append, read, induction, bind_assoc]

theorem read_dateTime (separator : Separator) (text : List Char) :
    read (dateTime separator.part) {} text =
      (readDateTimeNumbers separator text >>= fun read =>
        .ok ({ date := read.1.1, time := read.1.2 }, read.2)) := by
  cases separator <;>
    simp only [dateTime, read, Part.read, Field.least, Field.greatest, Field.put, Separator.part,
      readDateTimeNumbers, readDateNumbers, readTimeNumbers, Separator.read, bind_assoc, ok_bind,
      Bool.false_eq_true, if_false]

theorem readDateTime_dateTime (separator : Separator) (text : List Char) :
    readDateTime (dateTime separator.part) text = readDateTimeWith separator text := by
  simp only [readDateTime, read_dateTime, bind_assoc, ok_bind, readDateTimeWith]

theorem readDateTime?_eq (text : List Char) :
    readDateTime? text = plain.findSome? fun pattern => (pattern.readDateTime text).toOption := by
  have blanks := readDateTime_dateTime .blanks text
  have letter := readDateTime_dateTime .letter text
  simp only [Separator.part] at blanks letter
  simp only [plain, List.findSome?_cons, List.findSome?_nil, blanks, letter, readDateTime?]
  cases readDateTimeWith .blanks text <;> cases readDateTimeWith .letter text <;> rfl

theorem readZoned_of_withOffset {pattern : Pattern} (listed : pattern ∈ withOffset)
    (text : List Char) : pattern.readZoned text = readWithOffset text := by
  have front := read_dateTime .blanks text
  rw [Separator.part] at front
  have twice (rest : List Char) : dropBlanks (dropBlanks rest) = dropBlanks rest :=
    List.dropWhile_idempotent isBlank rest
  simp only [withOffset, List.mem_cons, List.not_mem_nil, or_false] at listed
  rcases listed with rfl | rfl | rfl | rfl <;>
    simp only [readZoned, read_append, front, read, Part.read, bind_assoc, ok_bind, twice,
      readWithOffset]

end Pattern

/-! ## Texts of timestamps -/

def SpellsDateTime (text : List Char) (dateTime : DateTime) : Prop :=
  ∃ pattern ∈ Pattern.plain, pattern.readDateTime text = .ok dateTime

inductive SpellsZoned (text : List Char) : (zoned : Zoned) → Prop
  | internet {zoned : Zoned} (isRead : readInternet text = .ok zoned) : SpellsZoned text zoned
  | withOffset {pattern : Pattern} {zoned : Zoned} (listed : pattern ∈ Pattern.withOffset)
      (isRead : pattern.readZoned text = .ok zoned) : SpellsZoned text zoned
  /-- A date and time stands before a space and a name of universal time. -/
  | universal {front name : List Char} {dateTime : DateTime}
      (isName : name = "UTC".toList ∨ name = "Z".toList)
      (spells : SpellsDateTime front dateTime) (split : text = front ++ ' ' :: name) :
      SpellsZoned text (.ofUtc dateTime)

variable {text : List Char}

/-! ### Zones -/

/-- Universal time is named, with `z` in the internet format alone. -/
def IsUniversal (text : List Char) : Prop :=
  text = ['Z'] ∨ text = ['z'] ∨ text = ['U', 'T', 'C']

/-- What stands behind the time in a timestamp with a zone: blanks, and a name of universal time
or an offset. -/
inductive SpellsZone (text : List Char) : (seconds : Int) → Prop
  | universal (isUniversal : IsUniversal (dropBlanks text)) : SpellsZone text 0
  | offset {seconds : Int}
      (isRead : readOffsetSeconds dropColons (dropBlanks text) = .ok (seconds, [])) :
      SpellsZone text seconds

def IsSign (c : Char) : Prop :=
  c = '+' ∨ c = '-' ∨ c = Char.ofNat 0x2212
deriving Decidable

theorem IsSign.not_isBlank {c : Char} (isSign : IsSign c) : isBlank c = false := by
  rcases isSign with rfl | rfl | rfl <;> decide

theorem isSign_of_readOffsetSeconds {between : List Char → Except ReadError (List Char)}
    {answer : Int × List Char} (isRead : readOffsetSeconds between text = .ok answer) :
    ∃ c rest, text = c :: rest ∧ IsSign c := by
  simp only [readOffsetSeconds, bind_eq_ok_iff, Prod.exists] at isRead
  obtain ⟨negative, rest, signed, _⟩ := isRead
  cases text with
  | nil => contradiction
  | cons c text =>
      refine ⟨c, text, rfl, ?_⟩
      rw [readSign] at signed
      split at signed
      · exact .inl ‹_›
      · split at signed
        · exact .inr ‹_›
        · contradiction

theorem dropColons_of_number {width value : Nat} {rest : List Char}
    (begins : BeginsWithNumber width text value rest) : dropColons (':' :: text) = .ok text := by
  cases text with
  | nil => exact absurd rfl begins.ne_nil
  | cons c text =>
      have digit := begins.isDigit_head
      have noColon : c ≠ ':' := by
        rintro rfl
        contradiction
      have kept : (c :: text).dropWhile (fun c => c = ':' ∨ isBlank c) = c :: text :=
        List.dropWhile_cons_of_neg (by simp [noColon, not_isBlank_of_isDigit digit])
      rw [dropColons, List.dropWhile_cons_of_pos (by decide), kept]

/-- Where one colon stands between hours and minutes, a reader that skips colons reads the
same. -/
theorem readOffsetSeconds_dropColons {answer : Int × List Char}
    (isRead : readOffsetSeconds (expect ':') text = .ok answer) :
    readOffsetSeconds dropColons text = .ok answer := by
  simp only [readOffsetSeconds, bind_eq_ok_iff, Prod.exists] at isRead ⊢
  obtain ⟨negative, _, signed, hours, behindHours, isHours, behindColon, isColon, minutes, rest,
    isMinutes, same⟩ := isRead
  refine ⟨negative, _, signed, hours, _, isHours, behindColon, ?_, minutes, rest, isMinutes, same⟩
  cases behindHours with
  | nil => contradiction
  | cons c behindHours =>
      rw [expect] at isColon
      split at isColon
      · rename_i colon
        cases isColon
        rw [colon]
        exact dropColons_of_number (beginsWithNumber_of_readExactField isMinutes).1
      · contradiction

theorem IsUniversal.not_offset (isUniversal : IsUniversal text)
    (answer : Int × List Char) : readOffsetSeconds dropColons text ≠ .ok answer := by
  intro isRead
  obtain ⟨c, rest, rfl, isSign⟩ := isSign_of_readOffsetSeconds isRead
  have isLetter : c = 'Z' ∨ c = 'z' ∨ c = 'U' :=
    isUniversal.imp (fun same => (List.cons.inj same).1)
      (Or.imp (fun same => (List.cons.inj same).1) fun same => (List.cons.inj same).1)
  rcases isLetter with rfl | rfl | rfl <;> exact absurd isSign (by decide)

theorem SpellsZone.ne_nil {seconds : Int} (spells : SpellsZone text seconds) : text ≠ [] := by
  rintro rfl
  cases spells with
  | universal isUniversal => rcases isUniversal with none | none | none <;> contradiction
  | offset isRead => contradiction

theorem SpellsZone.unique {seconds other : Int} (spells : SpellsZone text seconds)
    (otherwise : SpellsZone text other) : seconds = other := by
  cases spells with
  | universal isUniversal =>
      cases otherwise with
      | universal => rfl
      | offset isRead => exact absurd isRead (isUniversal.not_offset _)
  | offset isRead =>
      cases otherwise with
      | universal isUniversal => exact absurd isRead (isUniversal.not_offset _)
      | offset otherRead => exact (Prod.mk.inj (Except.ok.inj (isRead.symm.trans otherRead))).1

theorem spellsZone_of_readZone {seconds : Int}
    (isRead : readZone (expect ':') text = .ok (seconds, [])) : SpellsZone text seconds := by
  unfold readZone at isRead
  split at isRead
  · cases isRead
    exact .universal (.inl rfl)
  · cases isRead
    exact .universal (.inr (.inl rfl))
  · have isOffset := readOffsetSeconds_dropColons isRead
    obtain ⟨c, rest, rfl, isSign⟩ := isSign_of_readOffsetSeconds isOffset
    refine .offset ?_
    rwa [dropBlanks_cons_of_not_blank isSign.not_isBlank]

theorem spellsZone_of_isName {name : List Char}
    (isName : name = "UTC".toList ∨ name = "Z".toList) : SpellsZone (' ' :: name) 0 := by
  rcases isName with rfl | rfl
  · exact .universal (.inr (.inr rfl))
  · exact .universal (.inl rfl)

/-! ### Date and time in front -/

theorem between_of_read {separator : Separator} {clock : List Char}
    (isRead : separator.read text = .ok clock) : Between text clock := by
  cases separator with
  | blanks =>
      cases isRead
      exact .blanks text
  | letter =>
      cases text with
      | nil => contradiction
      | cons c text =>
          simp only [Separator.read, expect] at isRead
          split at isRead
          · rename_i isLetter
            cases isRead
            exact .letter (.inl isLetter)
          · contradiction

theorem begins_of_readDateTimeNumbers {separator : Separator}
    {numbers : DateNumbers × TimeNumbers} {rest : List Char}
    (isRead : readDateTimeNumbers separator text = .ok (numbers, rest)) :
    BeginsWithDateTime text numbers rest := by
  simp only [readDateTimeNumbers, bind_eq_ok_iff, Prod.exists] at isRead
  obtain ⟨date, afterDate, isDate, clock, isBetween, time, _, isTime, same⟩ := isRead
  cases same
  exact .intro isDate (between_of_read isBetween) isTime

theorem finish_eq_ok_iff {answer : Unit} : finish text = .ok answer ↔ text = [] := by
  cases text with
  | nil => exact iff_of_true rfl rfl
  | cons c text => exact iff_of_false nofun (List.cons_ne_nil c text)

theorem between_of_readInternetSeparator {clock : List Char} (solid : dropBlanks clock = clock)
    (isRead : readInternetSeparator text = .ok clock) : Between text clock := by
  cases text with
  | nil => contradiction
  | cons c text =>
      rw [readInternetSeparator] at isRead
      split at isRead
      · rename_i isSeparator
        cases isRead
        rcases isSeparator with upper | lower | rfl
        · exact .letter (.inl upper)
        · exact .letter (.inr lower)
        · have between := Between.blanks (' ' :: clock)
          rwa [dropBlanks_cons_of_blank (by decide), solid] at between
      · contradiction

theorem SpellsDateTime.numbers {dateTime : DateTime} (spells : SpellsDateTime text dateTime) :
    ∃ numbers, BeginsWithDateTime text numbers [] ∧ makeDateTime numbers = .ok dateTime := by
  obtain ⟨pattern, listed, isRead⟩ := spells
  obtain ⟨separator, rfl⟩ : ∃ separator : Separator, pattern = Pattern.dateTime separator.part := by
    simp only [Pattern.plain, List.mem_cons, List.not_mem_nil, or_false] at listed
    rcases listed with rfl | rfl
    · exact ⟨.blanks, rfl⟩
    · exact ⟨.letter, rfl⟩
  rw [Pattern.readDateTime_dateTime] at isRead
  simp only [readDateTimeWith, bind_eq_ok_iff, Prod.exists, finish_eq_ok_iff] at isRead
  obtain ⟨date, time, rest, isFront, _, rfl, isMade⟩ := isRead
  exact ⟨(date, time), begins_of_readDateTimeNumbers isFront, isMade⟩

def BeginsWithZoned (text : List Char) (zoned : Zoned) : Prop :=
  ∃ numbers rest seconds, BeginsWithDateTime text numbers rest ∧ SpellsZone rest seconds ∧
    makeZoned numbers seconds = .ok zoned

theorem numbers_of_readWithOffset {zoned : Zoned} (isRead : readWithOffset text = .ok zoned) :
    BeginsWithZoned text zoned := by
  simp only [readWithOffset, bind_eq_ok_iff, Prod.exists, finish_eq_ok_iff] at isRead
  obtain ⟨date, time, rest, isFront, seconds, _, isOffset, _, rfl, isMade⟩ := isRead
  exact ⟨(date, time), rest, seconds, begins_of_readDateTimeNumbers isFront, .offset isOffset,
    isMade⟩

/-- In the internet format all numbers are where they are in the other formats. -/
theorem numbers_of_readInternet {zoned : Zoned} (isRead : readInternet text = .ok zoned) :
    BeginsWithZoned text zoned := by
  simp only [readInternet, bind_eq_ok_iff, Prod.exists, finish_eq_ok_iff] at isRead
  obtain ⟨year, _, isYear, _, firstHyphen, month, _, isMonth, _, secondHyphen, day, afterDate,
    isDay, clock, isBetween, hour, _, isHour, _, firstColon, minute, _, isMinute, _, secondColon,
    second, _, isSecond, nanosecond, rest, isFraction, seconds, _, isZone, _, rfl, isMade⟩ :=
    isRead
  have isDate : readDateNumbers false text = .ok (⟨year, month, day⟩, afterDate) := by
    simp only [readDateNumbers, bind_eq_ok_iff, Prod.exists, Bool.false_eq_true, if_false]
    exact ⟨year, _, readYear_of_readExactDigits isYear, _, firstHyphen,
      month, _, readField_of_readExactField isMonth, _, secondHyphen,
      day, _, readField_of_readExactField isDay, rfl⟩
  have isTime : readTimeNumbers false clock =
      .ok (⟨hour, minute, second, nanosecond⟩, rest) := by
    simp only [readTimeNumbers, bind_eq_ok_iff, Prod.exists, Bool.false_eq_true, if_false]
    exact ⟨hour, _, readField_of_readExactField isHour, _, firstColon,
      minute, _, readField_of_readExactField isMinute, _, secondColon,
      second, _, readField_of_readExactField isSecond, nanosecond, _, isFraction, rfl⟩
  have solid := (beginsWithNumber_of_readExactField isHour).1.dropBlanks_eq
  exact ⟨(_, _), rest, seconds,
    .intro isDate (between_of_readInternetSeparator solid isBetween) isTime,
    spellsZone_of_readZone isZone, isMade⟩

theorem makeZoned_universal {numbers : DateNumbers × TimeNumbers} {dateTime : DateTime}
    (isMade : makeDateTime numbers = .ok dateTime) :
    makeZoned numbers 0 = .ok (.ofUtc dateTime) := by
  have offset : Offset.ofSeconds? 0 = some .utc := rfl
  have made : Zoned.of? dateTime .utc = some (.ofUtc dateTime) :=
    dif_pos (Zoned.ofUtc dateTime).inRange
  simp only [makeZoned, isMade, ok_bind, offset, Option.bind_some, made]

theorem SpellsZoned.numbers {zoned : Zoned} (spells : SpellsZoned text zoned) :
    BeginsWithZoned text zoned := by
  cases spells with
  | internet isRead => exact numbers_of_readInternet isRead
  | withOffset listed isRead =>
      rw [Pattern.readZoned_of_withOffset listed] at isRead
      exact numbers_of_readWithOffset isRead
  | @universal front name dateTime isName spells split =>
      obtain ⟨numbers, begins, isMade⟩ := spells.numbers
      have noPoint : ∀ c ∈ (' ' :: name).head?, c ≠ '.' := by
        intro c isFirst
        cases Option.mem_some.mp isFirst
        decide
      rw [split]
      exact ⟨numbers, _, 0, begins.append (beginsWithoutDigit_cons (by decide)) noPoint,
        spellsZone_of_isName isName, makeZoned_universal isMade⟩

/-! ### One reading of a text -/

theorem SpellsDateTime.unique {dateTime other : DateTime} (spells : SpellsDateTime text dateTime)
    (otherwise : SpellsDateTime text other) : dateTime = other := by
  obtain ⟨numbers, begins, isMade⟩ := spells.numbers
  obtain ⟨others, otherBegins, otherMade⟩ := otherwise.numbers
  rw [(begins.unique otherBegins).1, otherMade] at isMade
  exact (Except.ok.inj isMade).symm

theorem SpellsZoned.unique {zoned other : Zoned} (spells : SpellsZoned text zoned)
    (otherwise : SpellsZoned text other) : zoned = other := by
  obtain ⟨numbers, rest, seconds, begins, zone, isMade⟩ := spells.numbers
  obtain ⟨others, _, _, otherBegins, otherZone, otherMade⟩ := otherwise.numbers
  obtain ⟨rfl, rfl⟩ := begins.unique otherBegins
  rw [zone.unique otherZone, otherMade] at isMade
  exact (Except.ok.inj isMade).symm

theorem SpellsDateTime.not_spellsZoned {dateTime : DateTime} {zoned : Zoned}
    (spells : SpellsDateTime text dateTime) : ¬SpellsZoned text zoned := by
  intro otherwise
  obtain ⟨numbers, whole, _⟩ := spells.numbers
  obtain ⟨others, rest, seconds, begins, zone, _⟩ := otherwise.numbers
  exact zone.ne_nil (whole.unique begins).2.symm

/-! ## The readers of timestamps -/

theorem toOption_eq_some_iff {ε α : Type} {result : Except ε α} {value : α} :
    result.toOption = some value ↔ result = .ok value := by
  cases result with
  | error fault => exact iff_of_false nofun nofun
  | ok content => exact ⟨fun same => congrArg _ (Option.some.inj same), fun same => same ▸ rfl⟩

theorem eq_some_iff_of_unique {α : Type} {found : Option α} {spells : α → Prop}
    (unique : ∀ value other, spells value → spells other → value = other)
    (sound : ∀ value, found = some value → spells value)
    (complete : ∀ value, spells value → found ≠ none) {value : α} :
    found = some value ↔ spells value := by
  refine ⟨sound value, fun isSpelled => ?_⟩
  obtain ⟨other, isFound⟩ := Option.ne_none_iff_exists'.mp (complete value isSpelled)
  rw [isFound, unique other value (sound other isFound) isSpelled]

theorem readDateTime?_eq_some_iff {dateTime : DateTime} :
    readDateTime? text = some dateTime ↔ SpellsDateTime text dateTime := by
  apply eq_some_iff_of_unique fun _ _ => SpellsDateTime.unique
  · intro value isFound
    rw [Pattern.readDateTime?_eq] at isFound
    obtain ⟨pattern, listed, isRead⟩ := List.exists_of_findSome?_eq_some isFound
    exact ⟨pattern, listed, toOption_eq_some_iff.mp isRead⟩
  · rintro value ⟨pattern, listed, isRead⟩ isNone
    rw [Pattern.readDateTime?_eq, List.findSome?_eq_none_iff] at isNone
    have nothing := isNone pattern listed
    rw [isRead] at nothing
    contradiction

theorem splitLastSpace?_eq_some_iff {body name : List Char} :
    splitLastSpace? text = some (body, name) ↔ text = body ++ ' ' :: name ∧ ' ' ∉ name := by
  constructor
  · intro isSplit
    rw [splitLastSpace?] at isSplit
    split at isSplit
    · contradiction
    · rename_i c reversed behind
      have isSpace : c = ' ' := by
        have stopped := List.head?_dropWhile_not (· ≠ ' ') text.reverse
        rw [behind] at stopped
        simpa using stopped
      have whole := List.takeWhile_append_dropWhile (p := (· ≠ ' ')) (l := text.reverse)
      rw [behind, isSpace] at whole
      cases isSplit
      constructor
      · rw [← List.reverse_inj, List.reverse_append, List.reverse_cons, List.reverse_reverse,
          List.reverse_reverse, List.append_assoc, List.singleton_append, whole]
      · intro member
        have other := List.mem_takeWhile_imp (List.mem_reverse.mp member)
        exact of_decide_eq_true other rfl
  · rintro ⟨rfl, noSpace⟩
    have reversed : (body ++ ' ' :: name).reverse = name.reverse ++ ' ' :: body.reverse := by
      rw [List.reverse_append, List.reverse_cons, List.append_assoc, List.singleton_append]
    have others : ∀ c ∈ name.reverse, decide (c ≠ ' ') = true := by
      rintro c member
      refine decide_eq_true ?_
      rintro rfl
      exact noSpace (List.mem_reverse.mp member)
    have stops : ∀ c ∈ (' ' :: body.reverse).head?, decide (c ≠ ' ') = false := by
      intro c isFirst
      cases Option.mem_some.mp isFirst
      decide
    rw [splitLastSpace?, reversed, Text.dropWhile_span others stops,
      Text.takeWhile_span others stops]
    dsimp only
    rw [List.reverse_reverse, List.reverse_reverse]

theorem readUtcName?_eq_some_iff {zoned : Zoned} :
    readUtcName? text = some zoned ↔ ∃ front name dateTime,
      (name = "UTC".toList ∨ name = "Z".toList) ∧ SpellsDateTime front dateTime ∧
        text = front ++ ' ' :: name ∧ .ofUtc dateTime = zoned := by
  constructor
  · intro isRead
    rw [readUtcName?] at isRead
    split at isRead
    · contradiction
    · rename_i front name split
      split at isRead
      · rename_i isName
        obtain ⟨dateTime, isDateTime, same⟩ := Option.map_eq_some_iff.mp isRead
        exact ⟨front, name, dateTime, isName, readDateTime?_eq_some_iff.mp isDateTime,
          (splitLastSpace?_eq_some_iff.mp split).1, same⟩
      · contradiction
  · rintro ⟨front, name, dateTime, isName, spells, rfl, rfl⟩
    have noSpace : ' ' ∉ name := by
      rcases isName with rfl | rfl <;> decide
    rw [readUtcName?, splitLastSpace?_eq_some_iff.mpr ⟨rfl, noSpace⟩]
    dsimp only
    rw [if_pos isName, readDateTime?_eq_some_iff.mpr spells, Option.map_some]

theorem readZoned?_eq_some_iff {zoned : Zoned} :
    readZoned? text = some zoned ↔ SpellsZoned text zoned := by
  apply eq_some_iff_of_unique fun _ _ => SpellsZoned.unique
  · intro value isFound
    rw [readZoned?, Option.or_eq_some_iff, Option.or_eq_some_iff] at isFound
    rcases isFound with (internet | ⟨_, withOffset⟩) | ⟨_, named⟩
    · exact .internet (toOption_eq_some_iff.mp internet)
    · have listed : Pattern.dateTime .blank ++ [.offset true] ∈ Pattern.withOffset := by decide
      refine .withOffset listed ?_
      rw [Pattern.readZoned_of_withOffset listed]
      exact toOption_eq_some_iff.mp withOffset
    · obtain ⟨front, name, dateTime, isName, spells, split, rfl⟩ :=
        readUtcName?_eq_some_iff.mp named
      exact .universal isName spells split
  · intro value spells isNone
    rw [readZoned?, Option.or_eq_none_iff, Option.or_eq_none_iff] at isNone
    obtain ⟨⟨noInternet, noOffset⟩, noName⟩ := isNone
    cases spells with
    | internet isRead =>
        rw [isRead] at noInternet
        contradiction
    | withOffset listed isRead =>
        rw [← Pattern.readZoned_of_withOffset listed, isRead] at noOffset
        contradiction
    | universal isName spells split =>
        rw [readUtcName?_eq_some_iff.mpr ⟨_, _, _, isName, spells, split, rfl⟩] at noName
        contradiction

end RemoteQuery.Calendar
