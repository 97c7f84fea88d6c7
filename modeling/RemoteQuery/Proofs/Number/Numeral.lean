import Mathlib.Tactic.FieldSimp
import Mathlib.Tactic.Ring
import RemoteQuery.Proofs.Number.Decimal

/-! # Written decimal numbers

A numeral is a decimal number as people and programs write it: a sign, digits with a point
somewhere among them, and an exponent, of which all but the digits may be missing. Every
numeral is read as the number that it stands for, digit by digit, and padding changes only
how many places there are.
-/

namespace RemoteQuery.Number

/-! ## Signs and digits -/

inductive Sign where
  | none
  | plus
  | minus
deriving Repr, DecidableEq

namespace Sign

def chars : Sign → List Char
  | .none => []
  | .plus => ['+']
  | .minus => ['-']

def factor : Sign → Int
  | .none | .plus => 1
  | .minus => -1

theorem plus_or_minus_of_mem {sign : Sign} {c : Char} (member : c ∈ sign.chars) :
    c = '+' ∨ c = '-' := by
  cases sign with
  | none => exact absurd member List.not_mem_nil
  | plus => exact .inl (List.mem_singleton.mp member)
  | minus => exact .inr (List.mem_singleton.mp member)

def of (value : Int) : Sign :=
  if value < 0 then .minus else .none

theorem factor_of (value : Int) : (Sign.of value).factor * value.natAbs = value := by
  unfold Sign.of
  split <;> simp only [factor] <;> omega

end Sign

theorem digitsValue_append {left right : List Char} (all : AllDigits left)
    (others : AllDigits right) :
    digitsValue (left ++ right) = digitsValue left * 10 ^ right.length + digitsValue right := by
  rw [digitsValue_eq _ (all.append others), digitsValue_eq _ all, digitsValue_eq _ others,
    Nat.ofDigitChars_append, Nat.ofDigitChars_eq_ofDigitChars_zero, Nat.mul_comm]

theorem readMagnitude_of_allDigits {limit : Nat} {overflow : IntegerError} {text : List Char}
    (all : AllDigits text) (nonempty : text ≠ []) (fits : digitsValue text ≤ limit) :
    readMagnitude limit overflow text = .ok (digitsValue text) := by
  cases text with
  | nil => contradiction
  | cons c rest =>
      rw [readMagnitude]
      · exact readDigits_of_allDigits all fits
      · nofun

theorem readSigned_sign {negativeLimit limit : Nat} {sign : Sign} {text : List Char}
    (all : AllDigits text) (nonempty : text ≠ [])
    (least : -(negativeLimit : Int) ≤ sign.factor * digitsValue text)
    (greatest : sign.factor * digitsValue text ≤ limit) :
    readSigned negativeLimit limit (sign.chars ++ text) =
      .ok (sign.factor * digitsValue text) := by
  cases sign with
  | none =>
      simp only [Sign.factor, Int.one_mul] at greatest ⊢
      rw [Sign.chars, List.nil_append, readSigned_of_allDigits all nonempty,
        readMagnitude_of_allDigits all nonempty (Int.ofNat_le.mp greatest)]
      rfl
  | plus =>
      simp only [Sign.factor, Int.one_mul] at greatest ⊢
      rw [Sign.chars, List.singleton_append, readSigned,
        readMagnitude_of_allDigits all nonempty (Int.ofNat_le.mp greatest)]
      rfl
  | minus =>
      simp only [Sign.factor, Int.neg_mul, Int.one_mul] at least ⊢
      rw [Sign.chars, List.singleton_append, readSigned,
        readMagnitude_of_allDigits all nonempty (Int.ofNat_le.mp (Int.neg_le_neg_iff.mp least))]
      rfl

theorem Decimal.readGrouped_sign {sign : Sign} {text : List Char} (all : AllDigits text)
    (nonempty : text ≠ []) :
    readGrouped (sign.chars ++ text) = .ok (sign.factor * digitsValue text) := by
  cases sign with
  | none =>
      have unsigned := @readGrouped_signChars (digitsValue text) text all nonempty rfl
      rw [signChars, if_neg (Int.not_lt.mpr (Int.natCast_nonneg _))] at unsigned
      rw [Sign.chars, unsigned, Sign.factor, Int.one_mul]
  | plus =>
      rw [Sign.chars, List.singleton_append, readGrouped,
        readGroupedMagnitude_of_allDigits all nonempty, Sign.factor, Int.one_mul]
      rfl
  | minus =>
      rw [Sign.chars, List.singleton_append, readGrouped,
        readGroupedMagnitude_of_allDigits all nonempty, Sign.factor, Int.neg_mul, Int.one_mul]
      rfl

/-! ## Numerals -/

structure Exponent where
  mark : Char
  sign : Sign
  digits : List Char
  isMark : Decimal.isExponentMark mark = true
  allDigits : AllDigits digits
  nonempty : digits ≠ []

namespace Exponent

def chars (exponent : Exponent) : List Char :=
  exponent.mark :: (exponent.sign.chars ++ exponent.digits)

def value (exponent : Exponent) : Int :=
  exponent.sign.factor * digitsValue exponent.digits

end Exponent

structure Numeral where
  sign : Sign
  whole : List Char
  /-- The digits behind the point, where there is one. -/
  fraction : Option (List Char)
  exponent : Option Exponent
  wholeDigits : AllDigits whole
  fractionDigits : AllDigits (fraction.getD [])
  nonempty : whole ++ fraction.getD [] ≠ []

namespace Numeral

variable (numeral : Numeral)

def base : List Char :=
  numeral.sign.chars ++ numeral.whole ++
    match numeral.fraction with
    | none => []
    | some fraction => '.' :: fraction

def chars : List Char :=
  numeral.base ++ (numeral.exponent.map Exponent.chars).getD []

def text : String :=
  String.ofList numeral.chars

def places : Nat :=
  (numeral.fraction.getD []).length

def exponentValue : Int :=
  (numeral.exponent.map Exponent.value).getD 0

/-- The places that the number has without its exponent. -/
def scale : Int :=
  numeral.places - numeral.exponentValue

def toRat : ℚ :=
  numeral.sign.factor *
    (digitsValue numeral.whole +
      digitsValue (numeral.fraction.getD []) / (10 : ℚ) ^ numeral.places) *
    (10 : ℚ) ^ numeral.exponentValue

/-- The digits of the number and the scale, without the point and the exponent. -/
def toDecimal : Decimal where
  unscaled := numeral.sign.factor * digitsValue (numeral.whole ++ numeral.fraction.getD [])
  scale := numeral.scale

theorem allDigits : AllDigits (numeral.whole ++ numeral.fraction.getD []) :=
  numeral.wholeDigits.append numeral.fractionDigits

theorem scale_of_no_exponent (noExponent : numeral.exponent = none) :
    numeral.scale = numeral.places := by
  rw [scale, exponentValue, noExponent, Option.map_none, Option.getD_none, Int.sub_zero]

theorem toDecimal_of_no_exponent {number : Decimal} (noExponent : numeral.exponent = none)
    (digits : numeral.sign.factor * digitsValue (numeral.whole ++ numeral.fraction.getD []) =
      number.unscaled)
    (places : (numeral.places : Int) = number.scale) : numeral.toDecimal = number := by
  rw [toDecimal, digits, numeral.scale_of_no_exponent noExponent, places]

theorem toRat_toDecimal : numeral.toDecimal.toRat = numeral.toRat := by
  have nonzero : (10 : ℚ) ≠ 0 := by norm_num
  have power : (10 : ℚ) ^ (-numeral.scale) =
      (10 : ℚ) ^ numeral.exponentValue / (10 : ℚ) ^ numeral.places := by
    rw [scale, neg_sub, zpow_sub₀ nonzero, zpow_natCast]
  have digits : (digitsValue (numeral.whole ++ numeral.fraction.getD []) : ℚ) =
      digitsValue numeral.whole * (10 : ℚ) ^ numeral.places +
        digitsValue (numeral.fraction.getD []) := by
    rw [digitsValue_append numeral.wholeDigits numeral.fractionDigits]
    push_cast
    rfl
  rw [Decimal.toRat, toRat, toDecimal]
  push_cast
  rw [power, digits]
  field_simp

/-! ## Reading -/

theorem isExponentMark_of_mem_base {c : Char} (member : c ∈ numeral.base) :
    Decimal.isExponentMark c = false := by
  have ofDigit : ∀ {d : Char}, isDigit d = true → Decimal.isExponentMark d = false :=
    fun isDigit => Decimal.not_isExponentMark_of_isPlain (.inl isDigit)
  rw [base, List.append_assoc] at member
  rcases List.mem_append.mp member with inSign | inDigits
  · rcases Sign.plus_or_minus_of_mem inSign with rfl | rfl
    all_goals decide
  · rcases List.mem_append.mp inDigits with inWhole | behind
    · exact ofDigit (numeral.wholeDigits c inWhole)
    · have all := numeral.fractionDigits
      cases point : numeral.fraction with
      | none =>
          rw [point] at behind
          exact absurd behind List.not_mem_nil
      | some fraction =>
          rw [point] at behind all
          rcases List.mem_cons.mp behind with rfl | inFraction
          · decide
          · exact ofDigit (all c inFraction)

theorem base_ne_nil : numeral.base ≠ [] := by
  intro nothing
  rw [base, List.append_assoc, List.append_eq_nil_iff, List.append_eq_nil_iff] at nothing
  obtain ⟨-, noWhole, noFraction⟩ := nothing
  have nonempty := numeral.nonempty
  rw [noWhole] at nonempty
  cases point : numeral.fraction with
  | none =>
      rw [point] at nonempty
      contradiction
  | some fraction =>
      rw [point] at noFraction
      contradiction

theorem splitExponent_chars
    (least : -(2 ^ 127 : Int) ≤ numeral.exponentValue)
    (greatest : numeral.exponentValue ≤ 2 ^ 127 - 1) :
    Decimal.splitExponent numeral.chars = .ok (numeral.base, numeral.exponentValue) := by
  have noMark : ∀ c ∈ numeral.base, (!Decimal.isExponentMark c) = true := by
    intro c member
    rw [numeral.isExponentMark_of_mem_base member]
    rfl
  rw [chars]
  rw [exponentValue] at least greatest ⊢
  cases written : numeral.exponent with
  | none =>
      rw [Option.map_none, Option.getD_none, List.append_nil]
      exact Decimal.splitExponent_of_no_mark fun c => numeral.isExponentMark_of_mem_base
  | some exponent =>
      rw [written] at least greatest
      have ends : ∀ c ∈ exponent.chars.head?, (!Decimal.isExponentMark c) = false := by
        rintro c ⟨⟩
        rw [exponent.isMark]
        rfl
      have value : readInt128 (exponent.sign.chars ++ exponent.digits) =
          .ok exponent.value :=
        readSigned_sign exponent.allDigits exponent.nonempty least greatest
      rw [Option.map_some, Option.getD_some, Decimal.splitExponent,
        Text.dropWhile_span noMark ends, Text.takeWhile_span noMark ends, Exponent.chars]
      dsimp only
      rw [value]
      rfl

theorem removePoint_base :
    Decimal.removePoint numeral.base =
      (numeral.sign.chars ++ (numeral.whole ++ numeral.fraction.getD []), numeral.places) := by
  have noPoint : ∀ c ∈ numeral.sign.chars ++ numeral.whole, c ≠ '.' := by
    intro c member
    rcases List.mem_append.mp member with inSign | inWhole
    · rcases Sign.plus_or_minus_of_mem inSign with rfl | rfl
      all_goals decide
    · exact Decimal.ne_point_of_isPlain (.inl (numeral.wholeDigits c inWhole))
  have all := numeral.fractionDigits
  rw [base, places]
  cases point : numeral.fraction with
  | none =>
      simp only [Option.getD_none, List.append_nil]
      exact Decimal.removePoint_of_no_point noPoint
  | some fraction =>
      rw [point] at all
      rw [Option.getD_some, ← List.append_assoc]
      exact Decimal.removePoint_append noPoint all

/-- A numeral is read as its digits and its scale, if the scale is one of 64 bits. Its text
is not longer than one that can be held in memory. -/
theorem read_chars (short : numeral.chars.length < 2 ^ 63)
    (inRange : Decimal.scaleInRange numeral.scale = true) :
    Decimal.read numeral.chars = .ok numeral.toDecimal := by
  have few : numeral.places ≤ numeral.chars.length := by
    rw [chars, base, places]
    cases numeral.fraction with
    | none => exact Nat.zero_le _
    | some fraction =>
        simp only [Option.getD_some, List.length_append, List.length_cons]
        omega
  obtain ⟨least, greatest⟩ := of_decide_eq_true inRange
  have isScale : numeral.scale = numeral.places - numeral.exponentValue := rfl
  have split := numeral.splitExponent_chars (by omega) (by omega)
  have read := @Decimal.readGrouped_sign numeral.sign _ numeral.allDigits numeral.nonempty
  rw [Decimal.read, split]
  simp only [List.isEmpty_eq_false_iff.mpr numeral.base_ne_nil, Bool.false_eq_true, if_false,
    numeral.removePoint_base, ← isScale, inRange, if_true, read]
  rfl

end Numeral

namespace Decimal

/-! ## Padding and writing -/

theorem toRat_padTo (scale : Int) (number : Decimal) :
    (number.padTo scale).toRat = number.toRat := by
  rw [padTo]
  split
  · rename_i fewer
    have nonzero : (10 : ℚ) ≠ 0 := by norm_num
    obtain ⟨more, isMore⟩ := Int.eq_ofNat_of_zero_le (Int.sub_nonneg_of_le (Int.le_of_lt fewer))
    have places : number.scale = scale - more := by omega
    rw [toRat, toRat, isMore, Int.toNat_natCast, places, neg_sub, zpow_sub₀ nonzero, zpow_neg,
      zpow_natCast]
    push_cast
    field_simp
  · rfl

theorem signChars_eq (value : Int) : signChars value = (Sign.of value).chars := by
  unfold signChars Sign.of
  split <;> rfl

theorem exists_numeral {number : Decimal} (nonneg : 0 ≤ number.scale) :
    ∃ shown : Numeral, number.plain = shown.chars ∧ shown.exponent = none ∧
      shown.toDecimal = number := by
  have value := Sign.factor_of number.unscaled
  rw [plain_eq, signChars_eq]
  rcases Int.lt_or_eq_of_le nonneg with places | noPlaces
  · obtain ⟨whole, fraction, written, allWhole, allFraction, nonempty, length, digits⟩ :=
      placePoint_eq (show 0 < number.scale.toNat by omega)
        (allDigits_digits number.unscaled.natAbs)
    let shown : Numeral := ⟨Sign.of number.unscaled, whole, some fraction, none, allWhole,
      allFraction, List.append_ne_nil_of_left_ne_nil nonempty _⟩
    refine ⟨shown, ?_, rfl, shown.toDecimal_of_no_exponent rfl ?_ ?_⟩
    · rw [if_neg (by omega), written]
      simp [shown, Numeral.chars, Numeral.base]
    · change _ * (digitsValue (whole ++ fraction) : Int) = number.unscaled
      rw [digits, digitsValue_digits, value]
    · change (fraction.length : Int) = number.scale
      rw [length, Int.toNat_of_nonneg nonneg]
  · have noFraction : AllDigits [] := fun c inNothing => absurd inNothing List.not_mem_nil
    let shown : Numeral := ⟨Sign.of number.unscaled, Number.digits number.unscaled.natAbs, none,
      none, allDigits_digits _, noFraction,
      List.append_ne_nil_of_left_ne_nil (digits_ne_nil _) _⟩
    refine ⟨shown, ?_, rfl, shown.toDecimal_of_no_exponent rfl ?_ noPlaces⟩
    · rw [if_pos (by omega), ← noPlaces]
      simp [shown, Numeral.chars, Numeral.base]
    · change _ * (digitsValue (Number.digits number.unscaled.natAbs ++ []) : Int) =
        number.unscaled
      rw [List.append_nil, digitsValue_digits, value]

end Decimal

end RemoteQuery.Number
