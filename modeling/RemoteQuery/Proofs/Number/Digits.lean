import RemoteQuery.Number.Integer
import RemoteQuery.Text.Blank
import RemoteQuery.Text.Search

/-! # Written numbers

The digits of a number are read as this number, also behind zeros, and every integer of 64
bits that is written can be read.
-/

namespace RemoteQuery.Number

/-! ## Texts of digits -/

def AllDigits (text : List Char) : Prop :=
  ∀ c ∈ text, isDigit c = true

def BeginsWithoutDigit (text : List Char) : Prop :=
  ∀ c ∈ text.head?, isDigit c = false

theorem isDigit_iff {c : Char} : isDigit c = true ↔ c.isDigit = true := by
  simp only [isDigit, digit?, Char.isDigit, Bool.and_eq_true, decide_eq_true_eq]
  constructor
  · intro isSome
    split at isSome
    · assumption
    · contradiction
  · intro between
    exact congrArg Option.isSome (if_pos between)

theorem digit?_of_isDigit {c : Char} (isDigit : isDigit c = true) :
    digit? c = some (c.toNat - '0'.toNat) := by
  have between := isDigit
  simp only [Number.isDigit, digit?] at between
  split at between
  · exact if_pos ‹_›
  · contradiction

theorem not_isBlank_of_isDigit {c : Char} (digit : isDigit c = true) : Text.isBlank c = false := by
  have between : '0' ≤ c ∧ c ≤ '9' := by
    simp only [isDigit, digit?] at digit
    split at digit
    · assumption
    · contradiction
  have low : 48 ≤ c.toNat := between.1
  have high : c.toNat ≤ 57 := between.2
  rw [Text.isBlank, ← Bool.not_eq_true, Text.inRanges_iff]
  rintro ⟨range, member, inRange⟩
  simp only [Text.blankRanges, List.mem_cons, List.not_mem_nil, or_false] at member
  rcases member with rfl | rfl | rfl | rfl | rfl | rfl | rfl | rfl | rfl | rfl <;> grind

theorem AllDigits.tail {c : Char} {rest : List Char} (all : AllDigits (c :: rest)) :
    AllDigits rest :=
  fun d member => all d (List.mem_cons_of_mem c member)

theorem AllDigits.head {c : Char} {rest : List Char} (all : AllDigits (c :: rest)) :
    isDigit c = true :=
  all c List.mem_cons_self

theorem AllDigits.append {left right : List Char} (all : AllDigits left)
    (others : AllDigits right) : AllDigits (left ++ right) := by
  intro c member
  exact (List.mem_append.mp member).elim (all c) (others c)

theorem allDigits_zeros (count : Nat) : AllDigits (List.replicate count '0') := by
  intro c member
  rw [List.eq_of_mem_replicate member]
  decide

theorem allDigits_digits (value : Nat) : AllDigits (digits value) :=
  fun _ member => isDigit_iff.mpr (Nat.isDigit_of_mem_toDigits (by decide) (by decide) member)

theorem allDigits_paddedDigits (width value : Nat) : AllDigits (paddedDigits width value) :=
  (allDigits_zeros _).append (allDigits_digits value)

theorem digits_ne_nil (value : Nat) : digits value ≠ [] :=
  Nat.toDigits_ne_nil

theorem paddedDigits_ne_nil (width value : Nat) : paddedDigits width value ≠ [] :=
  List.append_ne_nil_of_right_ne_nil _ (digits_ne_nil value)

theorem length_paddedDigits {width value : Nat} (positive : 0 < width)
    (fits : value < 10 ^ width) : (paddedDigits width value).length = width := by
  have short : (digits value).length ≤ width :=
    (Nat.length_toDigits_le_iff (by decide) positive).mpr fits
  rw [paddedDigits, List.length_append, List.length_replicate]
  omega

/-! ## The number that digits stand for -/

def pushDigit (value : Nat) (c : Char) : Nat :=
  value * 10 + (digit? c).getD 0

private theorem foldl_pushDigit_eq (text : List Char) (value : Nat) (all : AllDigits text) :
    text.foldl pushDigit value = Nat.ofDigitChars 10 text value := by
  induction text generalizing value with
  | nil => rfl
  | cons c rest induction =>
      rw [List.foldl_cons, Nat.ofDigitChars_cons, induction _ all.tail, pushDigit,
        digit?_of_isDigit all.head, Option.getD_some, Nat.mul_comm]

theorem le_foldl_pushDigit (text : List Char) (value : Nat) :
    value ≤ text.foldl pushDigit value := by
  induction text generalizing value with
  | nil => exact Nat.le_refl value
  | cons c rest induction =>
      have grown : value ≤ pushDigit value c := by
        unfold pushDigit
        omega
      exact Nat.le_trans grown (induction _)

theorem digitsValue_eq (text : List Char) (all : AllDigits text) :
    digitsValue text = Nat.ofDigitChars 10 text 0 :=
  foldl_pushDigit_eq text 0 all

@[simp] theorem digitsValue_digits (value : Nat) : digitsValue (digits value) = value := by
  rw [digitsValue_eq _ (allDigits_digits value), digits, Nat.ofDigitChars_ten_toDigits]

theorem text_injective {left right : Nat} (same : text left = text right) : left = right := by
  have sameDigits : digits left = digits right := by
    simpa [text] using congrArg String.toList same
  simpa using congrArg digitsValue sameDigits

theorem digitsValue_zeros_append (count : Nat) (text : List Char) (all : AllDigits text) :
    digitsValue (List.replicate count '0' ++ text) = digitsValue text := by
  rw [digitsValue_eq _ ((allDigits_zeros count).append all), digitsValue_eq _ all,
    Nat.ofDigitChars_append, Nat.ofDigitChars_replicate_zero, Nat.mul_zero]

@[simp] theorem digitsValue_paddedDigits (width value : Nat) :
    digitsValue (paddedDigits width value) = value := by
  rw [paddedDigits, digitsValue_zeros_append _ _ (allDigits_digits value), digitsValue_digits]

theorem digitsValue_append_zeros (count : Nat) (text : List Char) (all : AllDigits text) :
    digitsValue (text ++ List.replicate count '0') = digitsValue text * 10 ^ count := by
  rw [digitsValue_eq _ (all.append (allDigits_zeros count)), digitsValue_eq _ all,
    Nat.ofDigitChars_append, Nat.ofDigitChars_replicate_zero, Nat.mul_comm]

/-! ## Digits in front of a text -/

theorem takeWhile_isDigit {text rest : List Char} (all : AllDigits text)
    (stops : BeginsWithoutDigit rest) : (text ++ rest).takeWhile isDigit = text :=
  Text.takeWhile_span all stops

theorem dropWhile_isDigit {text rest : List Char} (all : AllDigits text)
    (stops : BeginsWithoutDigit rest) : (text ++ rest).dropWhile isDigit = rest :=
  Text.dropWhile_span all stops

/-! ## Integers -/

theorem readDigits_of_allDigits {limit : Nat} {overflow : IntegerError} {text : List Char}
    {value : Nat} (all : AllDigits text) (fits : text.foldl pushDigit value ≤ limit) :
    readDigits limit overflow value text = .ok (text.foldl pushDigit value) := by
  induction text generalizing value with
  | nil => rfl
  | cons c rest induction =>
      have read : digit? c = some (c.toNat - '0'.toNat) := digit?_of_isDigit all.head
      have pushed : pushDigit value c = value * 10 + (c.toNat - '0'.toNat) := by
        rw [pushDigit, read, Option.getD_some]
      rw [List.foldl_cons, pushed] at fits
      rw [List.foldl_cons, pushed, readDigits, read]
      simp only [if_pos (Nat.le_trans (le_foldl_pushDigit rest _) fits)]
      exact induction all.tail fits

theorem readMagnitude_digits {limit : Nat} {overflow : IntegerError} {value : Nat}
    (fits : value ≤ limit) : readMagnitude limit overflow (digits value) = .ok value := by
  have evaluated : (digits value).foldl pushDigit 0 = value := digitsValue_digits value
  have read : readDigits limit overflow 0 (digits value) = _ :=
    readDigits_of_allDigits (allDigits_digits value) (by rw [evaluated]; exact fits)
  rw [evaluated] at read
  rw [← read]
  unfold readMagnitude
  split
  · rename_i empty
    exact absurd empty (digits_ne_nil value)
  · rfl

theorem readDigits_le {limit : Nat} {overflow : IntegerError} {text : List Char}
    {value result : Nat} (below : value ≤ limit)
    (read : readDigits limit overflow value text = .ok result) : result ≤ limit := by
  induction text generalizing value with
  | nil =>
      injection read with same
      omega
  | cons c rest induction =>
      rw [readDigits] at read
      split at read
      · contradiction
      · split at read
        · exact induction ‹_› read
        · contradiction

theorem readMagnitude_le {limit : Nat} {overflow : IntegerError} {text : List Char}
    {result : Nat} (read : readMagnitude limit overflow text = .ok result) : result ≤ limit := by
  unfold readMagnitude at read
  split at read
  · contradiction
  · exact readDigits_le (Nat.zero_le limit) read

theorem readSigned_of_allDigits {negativeLimit limit : Nat} {text : List Char}
    (all : AllDigits text) (nonempty : text ≠ []) :
    readSigned negativeLimit limit text =
      (readMagnitude limit .tooLarge text).map Int.ofNat := by
  cases text with
  | nil => contradiction
  | cons c rest =>
      have noMinus : c ≠ '-' := by
        rintro rfl
        exact absurd all.head (by decide)
      have noPlus : c ≠ '+' := by
        rintro rfl
        exact absurd all.head (by decide)
      rw [readSigned]
      · intro same
        contradiction
      · intro _ same
        exact noMinus (List.cons.inj same).1
      · intro _ same
        exact noPlus (List.cons.inj same).1

theorem readSigned_signedDigits {negativeLimit limit : Nat} {value : Int}
    (least : -(negativeLimit : Int) ≤ value) (greatest : value ≤ limit) :
    readSigned negativeLimit limit (signedDigits value) = .ok value := by
  unfold signedDigits
  split
  · rw [List.singleton_append, readSigned, readMagnitude_digits (by omega)]
    change Except.ok (-(value.natAbs : Int)) = _
    congr 1
    omega
  · rw [List.nil_append, readSigned_of_allDigits (allDigits_digits _) (digits_ne_nil _),
      readMagnitude_digits (by omega)]
    change Except.ok (Int.ofNat value.natAbs) = _
    congr 1
    simp only [Int.ofNat_eq_natCast]
    omega

theorem readSigned_within {negativeLimit limit : Nat} {text : List Char} {value : Int}
    (read : readSigned negativeLimit limit text = .ok value) :
    -(negativeLimit : Int) ≤ value ∧ value ≤ limit := by
  unfold readSigned at read
  split at read
  · contradiction
  · generalize result : readMagnitude negativeLimit .tooSmall _ = magnitude at read
    cases magnitude with
    | error => contradiction
    | ok magnitude =>
        have := readMagnitude_le result
        have : -(magnitude : Int) = value := Except.ok.inj read
        omega
  all_goals
    generalize result : readMagnitude limit .tooLarge _ = magnitude at read
    cases magnitude with
    | error => contradiction
    | ok magnitude =>
        have := readMagnitude_le result
        have : (magnitude : Int) = value := Except.ok.inj read
        omega

theorem readInt64_signedDigits {text : List Char} {value : Int}
    (read : readInt64 text = .ok value) : readInt64 (signedDigits value) = .ok value := by
  obtain ⟨least, greatest⟩ := readSigned_within read
  exact readSigned_signedDigits least greatest

end RemoteQuery.Number
