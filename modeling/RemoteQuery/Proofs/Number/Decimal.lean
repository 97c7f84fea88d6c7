import Mathlib.Algebra.Field.Rat
import Mathlib.Data.Int.Cast.Lemmas
import Mathlib.Data.List.TakeWhile
import RemoteQuery.Number.Decimal
import RemoteQuery.Proofs.Number.Digits

/-! # Decimals in plain notation

A decimal with places is read back as it was, with its digits and its scale. One whose scale
is negative is written as a whole number; it is read back as the same number with the scale
zero.
-/

namespace RemoteQuery.Number.Decimal

def toRat (number : Decimal) : ℚ :=
  number.unscaled * (10 : ℚ) ^ (-number.scale)

/-- The same number with no places and no exponent. -/
def wholeNumber (number : Decimal) : Decimal :=
  { unscaled := number.unscaled * 10 ^ (-number.scale).toNat, scale := 0 }

theorem toRat_wholeNumber {number : Decimal} (noPlaces : number.scale ≤ 0) :
    number.wholeNumber.toRat = number.toRat := by
  obtain ⟨exponent, isExponent⟩ := Int.eq_ofNat_of_zero_le (Int.neg_nonneg_of_nonpos noPlaces)
  simp only [toRat, wholeNumber, isExponent, Int.toNat_natCast, neg_zero, zpow_zero, mul_one,
    zpow_natCast]
  push_cast
  rfl

theorem wholeNumber_neg_iff {number : Decimal} :
    number.wholeNumber.unscaled < 0 ↔ number.unscaled < 0 := by
  have power : (0 : Int) < 10 ^ (-number.scale).toNat := Int.pow_pos (by decide)
  constructor
  · intro negative
    apply Int.not_le.mp
    intro nonneg
    exact absurd negative (Int.not_lt.mpr (Int.mul_nonneg nonneg (Int.le_of_lt power)))
  · intro negative
    exact Int.mul_neg_of_neg_of_pos negative power

theorem wholeNumber_of_scale_zero {number : Decimal} (noPlaces : number.scale = 0) :
    number.wholeNumber = number := by
  obtain ⟨unscaled, scale⟩ := number
  subst noPlaces
  exact congrArg (Decimal.mk · 0) (Int.mul_one unscaled)

/-! ## The parts of a written number -/

def signChars (value : Int) : List Char :=
  if value < 0 then ['-'] else []

theorem plain_eq (number : Decimal) :
    number.plain = signChars number.unscaled ++
      if number.scale ≤ 0 then
        digits number.unscaled.natAbs ++ List.replicate (-number.scale).toNat '0'
      else placePoint (digits number.unscaled.natAbs) number.scale.toNat := by
  simp only [plain, signChars]
  split <;> rfl

def IsPlain (c : Char) : Prop :=
  isDigit c = true ∨ c = '-'

theorem not_isExponentMark_of_isPlain {c : Char} (isPlain : IsPlain c) :
    isExponentMark c = false := by
  rcases isPlain with isDigit | rfl
  · rw [isExponentMark, decide_eq_false_iff_not]
    rintro (rfl | rfl)
    all_goals exact absurd isDigit (by decide)
  · decide

theorem ne_point_of_isPlain {c : Char} (isPlain : IsPlain c) : c ≠ '.' := by
  rintro rfl
  exact isPlain.elim (by decide) (by decide)

theorem isPlain_signChars {value : Int} {c : Char} (member : c ∈ signChars value) :
    IsPlain c := by
  unfold signChars at member
  split at member
  · exact .inr (List.mem_singleton.mp member)
  · contradiction

theorem placePoint_eq {text : List Char} {places : Nat} (some : 0 < places)
    (all : AllDigits text) :
    ∃ whole fraction, placePoint text places = whole ++ '.' :: fraction ∧
      AllDigits whole ∧ AllDigits fraction ∧ whole ≠ [] ∧ fraction.length = places ∧
      digitsValue (whole ++ fraction) = digitsValue text := by
  rw [placePoint, if_neg (by omega)]
  split
  · refine ⟨_, _, rfl, ?_, ?_, ?_, ?_, ?_⟩
    · exact fun c member => all c (List.mem_of_mem_take member)
    · exact fun c member => all c (List.mem_of_mem_drop member)
    · apply List.ne_nil_of_length_pos
      rw [List.length_take]
      omega
    · rw [List.length_drop]
      omega
    · rw [List.take_append_drop]
  · refine ⟨['0'], _, rfl, allDigits_zeros 1, (allDigits_zeros _).append all,
      List.cons_ne_nil _ _, ?_, ?_⟩
    · rw [List.length_append, List.length_replicate]
      omega
    · rw [← List.append_assoc]
      exact digitsValue_zeros_append _ _ all

/-! ## Reading them -/

theorem readGroupedDigits_of_allDigits {text : List Char} {value : Nat}
    (all : AllDigits text) :
    readGroupedDigits value text = .ok (text.foldl pushDigit value) := by
  induction text generalizing value with
  | nil => rfl
  | cons c rest induction =>
      have noGroup : c ≠ '_' := by
        rintro rfl
        exact absurd all.head (by decide)
      have read : digit? c = some (c.toNat - '0'.toNat) := digit?_of_isDigit all.head
      rw [List.foldl_cons, ← induction all.tail, readGroupedDigits, read, pushDigit, read,
        Option.getD_some]
      exact noGroup

theorem readGroupedMagnitude_of_allDigits {text : List Char} (all : AllDigits text)
    (nonempty : text ≠ []) : readGroupedMagnitude text = .ok (digitsValue text) := by
  cases text with
  | nil => contradiction
  | cons c rest =>
      have noGroup : c ≠ '_' := by
        rintro rfl
        exact absurd all.head (by decide)
      rw [readGroupedMagnitude]
      · exact readGroupedDigits_of_allDigits all
      · intro same
        contradiction
      · intro _ same
        exact noGroup (List.cons.inj same).1

theorem readGrouped_signChars {value : Int} {text : List Char} (all : AllDigits text)
    (nonempty : text ≠ []) (magnitude : digitsValue text = value.natAbs) :
    readGrouped (signChars value ++ text) = .ok value := by
  unfold signChars
  split
  · rw [List.singleton_append, readGrouped, readGroupedMagnitude_of_allDigits all nonempty]
    change Except.ok (-(digitsValue text : Int)) = _
    congr 1
    omega
  · rw [List.nil_append]
    have unsigned : readGrouped text = (readGroupedMagnitude text).map Int.ofNat := by
      cases text with
      | nil => contradiction
      | cons c rest =>
          rw [readGrouped]
          · intro _ same
            rw [(List.cons.inj same).1] at all
            exact absurd all.head (by decide)
          · intro _ same
            rw [(List.cons.inj same).1] at all
            exact absurd all.head (by decide)
    rw [unsigned, readGroupedMagnitude_of_allDigits all nonempty]
    change Except.ok (Int.ofNat (digitsValue text)) = _
    congr 1
    simp only [Int.ofNat_eq_natCast]
    omega

theorem splitExponent_of_no_mark {text : List Char}
    (noMark : ∀ c ∈ text, isExponentMark c = false) : splitExponent text = .ok (text, 0) := by
  have none : text.dropWhile (!isExponentMark ·) = [] := by
    rw [List.dropWhile_eq_nil_iff]
    intro c member
    rw [noMark c member]
    rfl
  rw [splitExponent, none]

theorem removePoint_of_no_point {text : List Char} (noPoint : ∀ c ∈ text, c ≠ '.') :
    removePoint text = (text, 0) := by
  have none : text.dropWhile (· ≠ '.') = [] := by
    rw [List.dropWhile_eq_nil_iff]
    intro c member
    exact decide_eq_true (noPoint c member)
  rw [removePoint, none]

/-- The places are the digits behind the first point. -/
theorem removePoint_append {whole fraction : List Char} (noPoint : ∀ c ∈ whole, c ≠ '.')
    (all : AllDigits fraction) :
    removePoint (whole ++ '.' :: fraction) = (whole ++ fraction, fraction.length) := by
  have kept : ∀ c ∈ whole, decide (c ≠ '.') = true := fun c member =>
    decide_eq_true (noPoint c member)
  have noGroup : fraction.filter (· ≠ '_') = fraction := by
    rw [List.filter_eq_self]
    intro c member
    apply decide_eq_true
    rintro rfl
    exact absurd (all _ member) (by decide)
  rw [removePoint, List.dropWhile_append_of_pos kept, List.takeWhile_append_of_pos kept,
    List.dropWhile_cons_of_neg (by decide), List.takeWhile_cons_of_neg (by decide)]
  simp only [List.append_nil, noGroup]

theorem read_of_removePoint {text digits : List Char} {places : Nat} {unscaled : Int}
    (noMark : ∀ c ∈ text, isExponentMark c = false) (nonempty : text ≠ [])
    (divided : removePoint text = (digits, places)) (few : places < 2 ^ 63)
    (integer : readGrouped digits = .ok unscaled) :
    read text = .ok { unscaled, scale := places } := by
  have inRange : scaleInRange places = true := by
    rw [scaleInRange, decide_eq_true_iff]
    omega
  rw [read, splitExponent_of_no_mark noMark]
  simp only [List.isEmpty_eq_false_iff.mpr nonempty, Bool.false_eq_true, if_false, divided,
    Int.sub_zero, inRange, if_true, integer]

theorem scaleInRange_of_read {text : List Char} {number : Decimal}
    (isRead : read text = .ok number) : scaleInRange number.scale = true := by
  unfold read at isRead
  split at isRead
  · contradiction
  · split at isRead
    · contradiction
    · simp only at isRead
      split at isRead
      · split at isRead
        · contradiction
        · injection isRead with same
          rw [← same]
          assumption
      · contradiction

/-! ## There and back -/

theorem isPlain_plain_of_parts (value : Int) {text : List Char} (all : AllDigits text) :
    ∀ c ∈ signChars value ++ text, IsPlain c := by
  intro c member
  exact (List.mem_append.mp member).elim isPlain_signChars fun isDigit => .inl (all c isDigit)

theorem read_plain_of_nonpos {number : Decimal} (noPlaces : number.scale ≤ 0) :
    read number.plain = .ok number.wholeNumber := by
  have all : AllDigits (digits number.unscaled.natAbs ++
      List.replicate (-number.scale).toNat '0') :=
    (allDigits_digits _).append (allDigits_zeros _)
  have nonempty : digits number.unscaled.natAbs ++
      List.replicate (-number.scale).toNat '0' ≠ [] :=
    List.append_ne_nil_of_left_ne_nil (digits_ne_nil _) _
  have magnitude : digitsValue (digits number.unscaled.natAbs ++
      List.replicate (-number.scale).toNat '0') = number.wholeNumber.unscaled.natAbs := by
    rw [digitsValue_append_zeros _ _ (allDigits_digits _), digitsValue_digits, wholeNumber,
      Int.natAbs_mul, Int.natAbs_pow]
    rfl
  have sameSign : signChars number.unscaled = signChars number.wholeNumber.unscaled := by
    simp only [signChars, wholeNumber_neg_iff]
  have isPlain := isPlain_plain_of_parts number.unscaled all
  rw [plain_eq, if_pos noPlaces]
  apply read_of_removePoint
  · exact fun c member => not_isExponentMark_of_isPlain (isPlain c member)
  · exact List.append_ne_nil_of_right_ne_nil _ nonempty
  · exact removePoint_of_no_point fun c member => ne_point_of_isPlain (isPlain c member)
  · decide
  · rw [sameSign]
    exact readGrouped_signChars all nonempty magnitude

theorem read_plain_of_pos {number : Decimal} (places : 0 < number.scale)
    (inRange : scaleInRange number.scale = true) : read number.plain = .ok number := by
  have fewPlaces : number.scale < 2 ^ 63 := (of_decide_eq_true inRange).2
  obtain ⟨whole, fraction, written, allWhole, allFraction, nonempty, length, value⟩ :=
    placePoint_eq (show 0 < number.scale.toNat by omega)
      (allDigits_digits number.unscaled.natAbs)
  have isPlain := isPlain_plain_of_parts number.unscaled allWhole
  rw [plain_eq, if_neg (by omega), written, ← List.append_assoc]
  have isRead : read (signChars number.unscaled ++ whole ++ '.' :: fraction) =
      .ok { unscaled := number.unscaled, scale := (fraction.length : Int) } := by
    apply read_of_removePoint
    · intro c member
      rcases List.mem_append.mp member with inFront | behind
      · exact not_isExponentMark_of_isPlain (isPlain c inFront)
      · rcases List.mem_cons.mp behind with rfl | inFraction
        · decide
        · exact not_isExponentMark_of_isPlain (.inl (allFraction c inFraction))
    · exact List.append_ne_nil_of_right_ne_nil _ (List.cons_ne_nil _ _)
    · exact removePoint_append (fun c member => ne_point_of_isPlain (isPlain c member))
        allFraction
    · omega
    · rw [List.append_assoc]
      apply readGrouped_signChars (allWhole.append allFraction)
      · exact List.append_ne_nil_of_left_ne_nil nonempty _
      · rw [value, digitsValue_digits]
  rw [isRead, length, Int.toNat_of_nonneg (by omega)]

theorem read_plain_of_nonneg {number : Decimal} (nonneg : 0 ≤ number.scale)
    (inRange : scaleInRange number.scale = true) : read number.plain = .ok number := by
  rcases Int.lt_or_eq_of_le nonneg with places | noPlaces
  · exact read_plain_of_pos places inRange
  · rw [read_plain_of_nonpos (Int.le_of_eq noPlaces.symm),
      wholeNumber_of_scale_zero noPlaces.symm]

/-! ## Padding -/

theorem padTo_of_le {scale : Int} {number : Decimal} (padded : scale ≤ number.scale) :
    number.padTo scale = number :=
  if_neg (Int.not_lt.mpr padded)

theorem read_plain_padTo {text : List Char} {number : Decimal} {scale : UInt32}
    (isRead : read text = .ok number) :
    read (number.padTo scale.toNat).plain = .ok (number.padTo scale.toNat) := by
  have inRange := of_decide_eq_true (scaleInRange_of_read isRead)
  have small : scale.toNat < 2 ^ 32 := scale.toNat_lt
  apply read_plain_of_nonneg
  · rw [padTo_scale]
    omega
  · rw [scaleInRange, decide_eq_true_iff, padTo_scale]
    omega

end RemoteQuery.Number.Decimal
