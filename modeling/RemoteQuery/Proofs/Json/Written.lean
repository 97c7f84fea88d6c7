import Mathlib.Data.List.Basic
import RemoteQuery.Json.Reader
import RemoteQuery.Proofs.Number.Digits

/-! # Written JSON

Every value that has a text is read back from it. The readers take from the front of a text
what the writers put there, whatever follows; only the end of a number has to be told by it.
-/

namespace RemoteQuery

theorem Number.eq_zero_of_head?_digits {value : Nat}
    (leading : (Number.digits value).head? = some '0') : value = 0 := by
  induction value using Nat.strongRecOn with
  | ind value induction =>
      rw [Number.digits, Nat.toDigits_eq_if (by decide)] at leading
      split at leading
      · rename_i single
        have zero : ∀ digit < 10, digit.digitChar = '0' → digit = 0 := by decide
        exact zero value single (Option.some.inj leading)
      · rename_i long
        rw [List.head?_append_of_ne_nil _ Nat.toDigits_ne_nil] at leading
        have := induction (value / 10) (by omega) leading
        omega

namespace Json

open Number (AllDigits BeginsWithoutDigit Decimal allDigits_digits digits digitsValue
  digitsValue_digits digits_ne_nil dropWhile_isDigit isDigit signedDigits takeWhile_isDigit)

/-! ## Strings -/

theorem hexValue?_hexDigit : ∀ value < 16, hexValue? (hexDigit value) = some value := by
  decide

private theorem codeUnit?_control {c : Char} (control : c.toNat < 0x20) :
    codeUnit? '0' '0' (hexDigit (c.toNat / 16)) (hexDigit (c.toNat % 16)) =
      some (.character c) := by
  have zero : hexValue? '0' = some 0 := by decide
  have high := hexValue?_hexDigit (c.toNat / 16) (by omega)
  have low := hexValue?_hexDigit (c.toNat % 16) (by omega)
  have unit : ((0 * 16 + 0) * 16 + c.toNat / 16) * 16 + c.toNat % 16 = c.toNat := by omega
  simp only [codeUnit?, zero, high, low, unit, Option.bind_eq_bind, Option.bind_some,
    Char.ofNat_toNat]
  rw [if_neg (by omega)]

private def behind (c : Char) (read : Option (List StringPart × List Char)) :
    Option (List StringPart × List Char) :=
  read.map fun read => (.character c :: read.1, read.2)

private theorem bind_eq_behind (c : Char) (read : Option (List StringPart × List Char)) :
    (read.bind fun read => some (.character c :: read.1, read.2)) = behind c read := by
  cases read <;> rfl

private theorem readParts?_letter {letter c : Char} {rest : List Char}
    (escaped : escaped? letter = some c) (noUnit : letter ≠ 'u') :
    readParts? ('\\' :: letter :: rest) = behind c (readParts? rest) := by
  rw [readParts?]
  · rw [escaped]
    exact bind_eq_behind c _
  · rintro _ _ _ _ _ rfl
    contradiction

private theorem readParts?_control {c : Char} {rest : List Char} (control : c.toNat < 0x20) :
    readParts? ('\\' :: 'u' :: '0' :: '0' :: hexDigit (c.toNat / 16) ::
      hexDigit (c.toNat % 16) :: rest) = behind c (readParts? rest) := by
  rw [readParts?, codeUnit?_control control]
  exact bind_eq_behind c _

private theorem readParts?_plain {c : Char} {rest : List Char} (noControl : ¬c.toNat < 0x20)
    (noQuote : c ≠ '"') (noEscape : c ≠ '\\') :
    readParts? (c :: rest) = behind c (readParts? rest) := by
  rw [readParts?]
  · rw [if_neg (by simp [noControl, noEscape])]
    exact bind_eq_behind c _
  all_goals simp [noQuote, noEscape]

private theorem readParts?_escapedCharacter (c : Char) (rest : List Char) :
    readParts? (escapedCharacter c ++ rest) = behind c (readParts? rest) := by
  unfold escapedCharacter
  -- Seven characters are written with a letter of their own.
  iterate 7
    split
    · subst c
      exact readParts?_letter rfl (by decide)
  split
  · exact readParts?_control ‹_›
  · exact readParts?_plain ‹_› ‹_› ‹_›

private theorem readParts?_written (text rest : List Char) :
    readParts? (text.flatMap escapedCharacter ++ '"' :: rest) =
      some (text.map .character, rest) := by
  induction text with
  | nil => rfl
  | cons c text induction =>
      rw [List.flatMap_cons, List.append_assoc, readParts?_escapedCharacter, induction]
      rfl

private theorem joinParts?_characters (text : List Char) :
    joinParts? (text.map .character) = some text := by
  induction text with
  | nil => rfl
  | cons c text induction => rw [List.map_cons, joinParts?, induction, Option.map_some]

theorem readString?_written (text : String) (rest : List Char) :
    readString? (text.toList.flatMap escapedCharacter ++ '"' :: rest) =
      some (some text, rest) := by
  simp only [readString?, readParts?_written, joinParts?_characters, Option.bind_eq_bind,
    Option.bind_some, Option.map_some, String.ofList_toList]

theorem writeString_append (text : String) (rest : List Char) :
    writeString text ++ rest = '"' :: (text.toList.flatMap escapedCharacter ++ '"' :: rest) := by
  simp [writeString]

/-! ## Numbers -/

def EndsNumber (rest : List Char) : Prop :=
  ∀ c ∈ rest.head?, isDigit c = false ∧ c ≠ '.' ∧ c ≠ 'e' ∧ c ≠ 'E'

theorem EndsNumber.beginsWithoutDigit {rest : List Char} (ends : EndsNumber rest) :
    BeginsWithoutDigit rest :=
  fun c member => (ends c member).1

theorem endsNumber_nil : EndsNumber [] := by
  intro c member
  contradiction

private theorem readWholeDigits?_digits {value : Nat} {rest : List Char}
    (ends : BeginsWithoutDigit rest) :
    readWholeDigits? (digits value ++ rest) = some (digits value, rest) := by
  have all := allDigits_digits value
  by_cases zero : value = 0
  · subst value
    rfl
  · have noZero : ∀ after, digits value ++ rest ≠ '0' :: after := by
      intro after same
      have leading := congrArg List.head? same
      rw [List.head?_append_of_ne_nil _ (digits_ne_nil value)] at leading
      exact zero (Number.eq_zero_of_head?_digits leading)
    rw [readWholeDigits?, takeWhile_isDigit all ends, dropWhile_isDigit all ends]
    · split
      · exact absurd ‹_› (digits_ne_nil value)
      · rfl
    · exact noZero

private theorem readPlaces?_none {rest : List Char} (noPoint : ∀ c ∈ rest.head?, c ≠ '.') :
    readPlaces? rest = some (none, rest) := by
  rw [readPlaces?]
  rintro after rfl
  exact noPoint '.' rfl rfl

private theorem readExponent?_none {rest : List Char} (ends : EndsNumber rest) :
    readExponent? rest = some (none, rest) := by
  cases rest with
  | nil => rfl
  | cons c rest =>
      have noMark : ¬(c = 'e' ∨ c = 'E') := by simp [ends c rfl]
      simp only [readExponent?, if_neg noMark]

private theorem ne_sign_of_digits {value : Nat} {rest after : List Char} {sign : Char}
    (noDigit : isDigit sign = false) : digits value ++ rest ≠ sign :: after := by
  intro same
  have leading := congrArg List.head? same
  rw [List.head?_append_of_ne_nil _ (digits_ne_nil value)] at leading
  have digit := allDigits_digits value sign (List.mem_of_mem_head? leading)
  rw [noDigit] at digit
  contradiction

section Exponents

variable {text written : List Char} (taken : text.takeWhile isDigit = written)
  (nonempty : written ≠ [])

include taken nonempty

private theorem readExponent?_minus :
    readExponent? ('e' :: '-' :: text) =
      some (some (-(digitsValue written : Int)), text.dropWhile isDigit) := by
  simp only [readExponent?, Char.reduceEq, or_false, if_true, taken]

private theorem readExponent?_unsigned (noMinus : ∀ after, text ≠ '-' :: after)
    (noPlus : ∀ after, text ≠ '+' :: after) :
    readExponent? ('e' :: text) =
      some (some (digitsValue written : Int), text.dropWhile isDigit) := by
  simp only [readExponent?, Char.reduceEq, or_false, if_true, taken]
  rfl

end Exponents

private theorem readExponent?_signedDigits (value : Int) {rest : List Char}
    (ends : BeginsWithoutDigit rest) :
    readExponent? ('e' :: (signedDigits value ++ rest)) = some (some value, rest) := by
  have taken := takeWhile_isDigit (allDigits_digits value.natAbs) ends
  have dropped := dropWhile_isDigit (allDigits_digits value.natAbs) ends
  unfold signedDigits
  split
  · have same : -(value.natAbs : Int) = value := by omega
    rw [List.append_assoc, List.singleton_append,
      readExponent?_minus taken (digits_ne_nil _), digitsValue_digits, dropped, same]
  · have same : (value.natAbs : Int) = value := by omega
    rw [List.nil_append, readExponent?_unsigned taken (digits_ne_nil _)
      (fun _ => ne_sign_of_digits (by decide)) (fun _ => ne_sign_of_digits (by decide)),
      digitsValue_digits, dropped, same]

private def withExponent (value : Int) : Option Int → Json
  | none => .whole value
  | some exponent => .scaled ⟨value, -exponent⟩

section Magnitudes

variable {after rest : List Char} {exponent : Option Int} (stops : BeginsWithoutDigit after)
  (noPoint : ∀ c ∈ after.head?, c ≠ '.') (behind : readExponent? after = some (exponent, rest))

include stops noPoint behind

private theorem readMagnitude?_digits (negative : Bool) (value : Nat)
    (proper : negative = true → value ≠ 0) :
    readMagnitude? negative (digits value ++ after) =
      some (withExponent (if negative then -(value : Int) else value) exponent, rest) := by
  simp only [readMagnitude?, readWholeDigits?_digits stops, readPlaces?_none noPoint, behind,
    Option.bind_eq_bind, Option.bind_some, Option.getD_none, List.append_nil,
    digitsValue_digits, true_and]
  cases exponent with
  | none =>
      have notMinusZero : ¬(negative = true ∧ (value : Int) = 0) := by
        rintro ⟨isNegative, zero⟩
        exact proper isNegative (by omega)
      rw [if_pos ⟨rfl, notMinusZero⟩]
      rfl
  | some exponent => simp [withExponent]

private theorem readNumber?_signedDigits (value : Int) :
    readNumber? (signedDigits value ++ after) = some (withExponent value exponent, rest) := by
  unfold signedDigits
  split
  · have same : -(value.natAbs : Int) = value := by omega
    have read := readMagnitude?_digits stops noPoint behind true value.natAbs (by omega)
    rw [List.append_assoc, List.singleton_append, readNumber?, read, if_pos rfl, same]
  · have same : (value.natAbs : Int) = value := by omega
    have read := readMagnitude?_digits stops noPoint behind false value.natAbs (by simp)
    rw [List.nil_append, readNumber?, read, if_neg (by decide), same]
    exact fun _ => ne_sign_of_digits (by decide)

end Magnitudes

private theorem readNumber?_whole (value : Int) {rest : List Char} (ends : EndsNumber rest) :
    readNumber? (signedDigits value ++ rest) = some (.whole value, rest) :=
  readNumber?_signedDigits ends.beginsWithoutDigit (fun c member => (ends c member).2.1)
    (readExponent?_none ends) value

private theorem readNumber?_scaled (value : Decimal) {rest : List Char}
    (ends : EndsNumber rest) :
    readNumber? (signedDigits value.unscaled ++ 'e' :: (signedDigits (-value.scale) ++ rest)) =
      some (.scaled value, rest) := by
  have noDigit : BeginsWithoutDigit ('e' :: (signedDigits (-value.scale) ++ rest)) := by
    rintro c ⟨⟩
    decide
  have noPoint : ∀ c ∈ ('e' :: (signedDigits (-value.scale) ++ rest)).head?, c ≠ '.' := by
    rintro c ⟨⟩
    decide
  rw [readNumber?_signedDigits noDigit noPoint
    (readExponent?_signedDigits _ ends.beginsWithoutDigit), withExponent, Int.neg_neg]

/-! ## Values

A value has no text of its own if it holds what no text can stand for. -/

inductive Readable : Json → Prop
  | null : Readable .null
  | bool (value : Bool) : Readable (.bool value)
  | whole (value : Int) : Readable (.whole value)
  | scaled (value : Decimal) : Readable (.scaled value)
  | string (value : String) : Readable (.string value)
  | array {items : List Json} (each : ∀ item ∈ items, Readable item) : Readable (.array items)
  | object {members : List (String × Json)} (each : ∀ member ∈ members, Readable member.2) :
      Readable (.object members)

/-- The value is read back where it stands in front of a text that ends its numbers. -/
def ReadsBack (json : Json) : Prop :=
  ∀ (limit : Nat) (rest : List Char), json.write.length ≤ limit → EndsNumber rest →
    readValue? limit (json.write ++ rest) = some (json, rest)

theorem dropSpaces_cons {c : Char} {rest : List Char} (solid : isSpace c = false) :
    dropSpaces (c :: rest) = c :: rest :=
  List.dropWhile_cons_of_neg (by simp [solid])

/-- A text begins with a character that is no blank and closes nothing. -/
private def Opens (text : List Char) : Prop :=
  ∃ c rest, text = c :: rest ∧ isSpace c = false ∧ c ≠ ']' ∧ c ≠ '\x7d'

private theorem opens_cons {c : Char} {rest : List Char}
    (opening : isSpace c = false ∧ c ≠ ']' ∧ c ≠ '\x7d') : Opens (c :: rest) :=
  ⟨c, rest, rfl, opening⟩

private theorem Opens.append {text : List Char} (opens : Opens text) (rest : List Char) :
    Opens (text ++ rest) := by
  obtain ⟨c, more, rfl, opening⟩ := opens
  exact opens_cons opening

private theorem ne_of_isDigit {c other : Char} (digit : isDigit c = true)
    (noDigit : isDigit other = false) : c ≠ other := by
  rintro rfl
  rw [noDigit] at digit
  contradiction

private theorem not_isSpace_of_isDigit {c : Char} (digit : isDigit c = true) :
    isSpace c = false := by
  simp [isSpace, ne_of_isDigit digit (show isDigit ' ' = false by decide),
    ne_of_isDigit digit (show isDigit '\n' = false by decide),
    ne_of_isDigit digit (show isDigit '\t' = false by decide),
    ne_of_isDigit digit (show isDigit '\r' = false by decide)]

private theorem opens_digits (value : Nat) : Opens (digits value) := by
  cases found : digits value with
  | nil => exact absurd found (digits_ne_nil value)
  | cons c rest =>
      have digit : isDigit c = true := allDigits_digits value c (found ▸ List.mem_cons_self)
      exact opens_cons ⟨not_isSpace_of_isDigit digit, ne_of_isDigit digit (by decide),
        ne_of_isDigit digit (by decide)⟩

private theorem opens_signedDigits (value : Int) : Opens (signedDigits value) := by
  unfold signedDigits
  split
  · exact opens_cons (by decide)
  · exact opens_digits _

private theorem opens_write (json : Json) : Opens json.write := by
  cases json with
  | bool value => cases value <;> exact opens_cons (by decide)
  | whole value => exact opens_signedDigits value
  | scaled value =>
      rw [write, List.append_assoc]
      exact (opens_signedDigits _).append _
  | _ => exact opens_cons (by decide)

private theorem Opens.length_pos {text : List Char} (opens : Opens text) : 0 < text.length := by
  obtain ⟨c, rest, rfl, _⟩ := opens
  exact Nat.succ_pos _

private theorem Opens.ne_cons {text rest : List Char} {c : Char} (opens : Opens text)
    (closing : c = ']' ∨ c = '\x7d') : text ≠ c :: rest := by
  obtain ⟨d, more, rfl, _, noBracket, noBrace⟩ := opens
  rintro same
  rw [(List.cons.inj same).1] at noBracket noBrace
  exact closing.elim noBracket noBrace

private theorem Opens.dropSpaces_eq {text : List Char} (opens : Opens text) :
    dropSpaces text = text := by
  obtain ⟨c, rest, rfl, solid, _⟩ := opens
  exact dropSpaces_cons solid

/-- What begins neither like a word nor like a string, a list or an object is a number. -/
private theorem readValue?_number {limit : Nat} {text : List Char}
    (begins : ∃ c rest, text = c :: rest ∧ (isDigit c = true ∨ c = '-')) :
    readValue? (limit + 1) text = readNumber? text := by
  obtain ⟨c, rest, rfl, digit | rfl⟩ := begins
  · unfold readValue?
    rw [dropSpaces_cons (not_isSpace_of_isDigit digit)]
    split
    case h_7 => rfl
    all_goals
      rename_i same
      exact absurd (List.cons.inj same).1 (ne_of_isDigit digit (by decide))
  · rfl

private theorem begins_signedDigits (value : Int) (rest : List Char) :
    ∃ c after, signedDigits value ++ rest = c :: after ∧ (isDigit c = true ∨ c = '-') := by
  unfold signedDigits
  split
  · exact ⟨'-', digits value.natAbs ++ rest, rfl, .inr rfl⟩
  · cases found : digits value.natAbs with
    | nil => exact absurd found (digits_ne_nil _)
    | cons c more =>
        exact ⟨c, more ++ rest, rfl,
          .inl (allDigits_digits value.natAbs c (found ▸ List.mem_cons_self))⟩

/-! ### Values without values inside -/

private theorem exists_limit {json : Json} {limit : Nat} (enough : json.write.length ≤ limit) :
    ∃ less, limit = less + 1 := by
  have positive := (opens_write json).length_pos
  exact Nat.exists_eq_succ_of_ne_zero (by omega)

theorem readsBack_null : ReadsBack .null := by
  intro limit rest enough ends
  obtain ⟨limit, rfl⟩ := exists_limit enough
  rfl

theorem readsBack_bool (value : Bool) : ReadsBack (.bool value) := by
  intro limit rest enough ends
  obtain ⟨limit, rfl⟩ := exists_limit enough
  cases value <;> rfl

theorem readsBack_whole (value : Int) : ReadsBack (.whole value) := by
  intro limit rest enough ends
  obtain ⟨limit, rfl⟩ := exists_limit enough
  rw [write, readValue?_number (begins_signedDigits value rest), readNumber?_whole value ends]

theorem readsBack_scaled (value : Decimal) : ReadsBack (.scaled value) := by
  intro limit rest enough ends
  obtain ⟨limit, rfl⟩ := exists_limit enough
  rw [write, List.append_assoc, List.append_assoc, List.singleton_append,
    readValue?_number (begins_signedDigits _ _), readNumber?_scaled value ends]

theorem readsBack_string (value : String) : ReadsBack (.string value) := by
  intro limit rest enough ends
  obtain ⟨limit, rfl⟩ := exists_limit enough
  rw [write, writeString_append, readValue?, dropSpaces_cons (by decide)]
  simp only [readString?_written, Option.bind_eq_bind, Option.bind_some, Option.elim_some]

/-! ### Lists and objects -/

private theorem endsNumber_cons {c : Char} {rest : List Char}
    (ends : isDigit c = false ∧ c ≠ '.' ∧ c ≠ 'e' ∧ c ≠ 'E') : EndsNumber (c :: rest) := by
  rintro _ ⟨⟩
  exact ends

private theorem readValue?_list {limit : Nat} {text : List Char} (opens : Opens text) :
    readValue? (limit + 1) ('[' :: text) =
      (readItems? limit text).bind fun read => some (.array read.1, read.2) := by
  rw [readValue?, dropSpaces_cons (by decide)]
  simp only [opens.dropSpaces_eq]
  split
  · exact absurd rfl (opens.ne_cons (.inl rfl))
  · rfl

private theorem readValue?_object {limit : Nat} {text : List Char} (opens : Opens text) :
    readValue? (limit + 1) ('\x7b' :: text) =
      (readMembers? limit text).bind fun read => some (ofMembers read.1, read.2) := by
  rw [readValue?, dropSpaces_cons (by decide)]
  simp only [opens.dropSpaces_eq]
  split
  · exact absurd rfl (opens.ne_cons (.inr rfl))
  · rfl

private theorem writeItems_cons (item next : Json) (items : List Json) (rest : List Char) :
    writeItems (item :: next :: items) ++ rest =
      item.write ++ ',' :: (writeItems (next :: items) ++ rest) := by
  simp [writeItems]

private theorem opens_writeItems (item : Json) (items : List Json) :
    Opens (writeItems (item :: items)) := by
  cases items with
  | nil => exact opens_write item
  | cons next items =>
      have written := writeItems_cons item next items []
      rw [List.append_nil] at written
      rw [written]
      exact (opens_write item).append _

private theorem readItems?_written {item : Json} {items : List Json}
    (each : ∀ member ∈ item :: items, member.ReadsBack) (limit : Nat)
    (enough : (writeItems (item :: items)).length < limit) (rest : List Char) :
    readItems? limit (writeItems (item :: items) ++ ']' :: rest) =
      some (item :: items, rest) := by
  induction items generalizing item limit with
  | nil =>
      obtain ⟨limit, rfl⟩ := Nat.exists_eq_succ_of_ne_zero (Nat.ne_zero_of_lt enough)
      have read := each item List.mem_cons_self limit (']' :: rest) (Nat.le_of_lt_succ enough)
        (endsNumber_cons (by decide))
      simp only [readItems?, writeItems, read, Option.bind_eq_bind, Option.bind_some,
        dropSpaces_cons (show isSpace ']' = false by decide)]
  | cons next items induction =>
      obtain ⟨limit, rfl⟩ := Nat.exists_eq_succ_of_ne_zero (Nat.ne_zero_of_lt enough)
      have length := congrArg List.length (writeItems_cons item next items [])
      simp only [List.append_nil, List.length_append, List.length_cons] at length
      have read := each item List.mem_cons_self limit
        (',' :: (writeItems (next :: items) ++ ']' :: rest)) (by omega)
        (endsNumber_cons (by decide))
      have others := induction (fun member isMember => each member (.tail _ isMember)) limit
        (by omega)
      simp only [readItems?, writeItems_cons, read, others, Option.bind_eq_bind,
        Option.bind_some, dropSpaces_cons (show isSpace ',' = false by decide)]

theorem readsBack_array {items : List Json} (each : ∀ item ∈ items, item.ReadsBack) :
    ReadsBack (.array items) := by
  intro limit rest enough ends
  obtain ⟨limit, rfl⟩ := exists_limit enough
  have opening : (Json.array items).write ++ rest = '[' :: (writeItems items ++ ']' :: rest) := by
    simp [write]
  rw [opening]
  cases items with
  | nil => rfl
  | cons item items =>
      have length := congrArg List.length opening
      simp only [List.length_append, List.length_cons] at length enough
      have read := readItems?_written each limit (by omega) rest
      rw [readValue?_list ((opens_writeItems item items).append _), read]
      rfl

private theorem writeMembers_cons (member next : String × Json) (members : List (String × Json))
    (rest : List Char) :
    writeMembers (member :: next :: members) ++ rest =
      '"' :: (member.1.toList.flatMap escapedCharacter ++ '"' :: ':' :: (member.2.write ++
        ',' :: (writeMembers (next :: members) ++ rest))) := by
  simp [writeMembers, writeString]

private theorem writeMembers_singleton (member : String × Json) (rest : List Char) :
    writeMembers [member] ++ rest =
      '"' :: (member.1.toList.flatMap escapedCharacter ++ '"' :: ':' ::
        (member.2.write ++ rest)) := by
  simp [writeMembers, writeString]

private theorem opens_writeMembers (member : String × Json) (members : List (String × Json)) :
    Opens (writeMembers (member :: members)) := by
  cases members with
  | nil => exact opens_cons (by decide)
  | cons next members => exact opens_cons (by decide)

private def keyed (members : List (String × Json)) : List (Option String × Json) :=
  members.map fun member => (some member.1, member.2)

private theorem ofMembers_keyed (members : List (String × Json)) :
    ofMembers (keyed members) = .object members := by
  have all : (keyed members).mapM (fun member => member.1.map (·, member.2)) = some members := by
    induction members with
    | nil => rfl
    | cons member members induction =>
        rw [keyed, List.map_cons, List.mapM_cons]
        rw [keyed] at induction
        rw [induction]
        rfl
  rw [ofMembers, all]

private theorem readMembers?_written {member : String × Json} {members : List (String × Json)}
    (each : ∀ known ∈ member :: members, known.2.ReadsBack) (limit : Nat)
    (enough : (writeMembers (member :: members)).length < limit) (rest : List Char) :
    readMembers? limit (writeMembers (member :: members) ++ '\x7d' :: rest) =
      some (keyed (member :: members), rest) := by
  induction members generalizing member limit with
  | nil =>
      obtain ⟨limit, rfl⟩ := Nat.exists_eq_succ_of_ne_zero (Nat.ne_zero_of_lt enough)
      have length := congrArg List.length (writeMembers_singleton member [])
      simp only [List.append_nil, List.length_append, List.length_cons] at length
      have read := each member List.mem_cons_self limit ('\x7d' :: rest) (by omega)
        (endsNumber_cons (by decide))
      simp only [readMembers?, writeMembers_singleton, readString?_written, read,
        Option.bind_eq_bind, Option.bind_some, dropSpaces_cons (show isSpace '"' = false by decide),
        dropSpaces_cons (show isSpace ':' = false by decide),
        dropSpaces_cons (show isSpace '\x7d' = false by decide)]
      rfl
  | cons next members induction =>
      obtain ⟨limit, rfl⟩ := Nat.exists_eq_succ_of_ne_zero (Nat.ne_zero_of_lt enough)
      have length := congrArg List.length (writeMembers_cons member next members [])
      simp only [List.append_nil, List.length_append, List.length_cons] at length
      have read := each member List.mem_cons_self limit
        (',' :: (writeMembers (next :: members) ++ '\x7d' :: rest)) (by omega)
        (endsNumber_cons (by decide))
      have others := induction (fun known isMember => each known (.tail _ isMember)) limit
        (by omega)
      simp only [readMembers?, writeMembers_cons, readString?_written, read, others,
        Option.bind_eq_bind, Option.bind_some, dropSpaces_cons (show isSpace '"' = false by decide),
        dropSpaces_cons (show isSpace ':' = false by decide),
        dropSpaces_cons (show isSpace ',' = false by decide)]
      rfl

theorem readsBack_object {members : List (String × Json)}
    (each : ∀ member ∈ members, member.2.ReadsBack) : ReadsBack (.object members) := by
  intro limit rest enough ends
  obtain ⟨limit, rfl⟩ := exists_limit enough
  have opening : (Json.object members).write ++ rest =
      '\x7b' :: (writeMembers members ++ '\x7d' :: rest) := by
    simp [write]
  rw [opening]
  cases members with
  | nil => rfl
  | cons member members =>
      have length := congrArg List.length opening
      simp only [List.length_append, List.length_cons] at length enough
      have read := readMembers?_written each limit (by omega) rest
      rw [readValue?_object ((opens_writeMembers member members).append _), read,
        Option.bind_some, ofMembers_keyed]

theorem readsBack_of_readable {json : Json} (readable : json.Readable) : json.ReadsBack := by
  induction readable with
  | null => exact readsBack_null
  | bool value => exact readsBack_bool value
  | whole value => exact readsBack_whole value
  | scaled value => exact readsBack_scaled value
  | string value => exact readsBack_string value
  | array each induction => exact readsBack_array induction
  | object each induction => exact readsBack_object induction

theorem read?_toString {json : Json} (readable : json.Readable) :
    read? json.toString = some json := by
  have read := readsBack_of_readable readable (json.write.length + 1) [] (by omega) endsNumber_nil
  rw [List.append_nil] at read
  simp only [read?, toString, String.toList_ofList, read, Option.bind_eq_bind, Option.bind_some]
  rfl

end Json

end RemoteQuery
