import RemoteQuery.Proofs.Number.Numeral

/-! # Written integers

A text is read as an integer exactly if it writes one within the limits, however many zeros
it begins with. The value is never cut to the limits: a reader that goes on has a value below
its limit at every digit.
-/

namespace RemoteQuery.Number

/-- The text is a sign, which may be missing, and digits, and this is the integer. -/
inductive Writes : (text : List Char) → (value : Int) → Prop
  | signed (sign : Sign) {digits : List Char} (all : AllDigits digits)
      (nonempty : digits ≠ []) : Writes (sign.chars ++ digits) (sign.factor * digitsValue digits)

variable {limit negativeLimit : Nat} {overflow : IntegerError} {text : List Char}

/-! ## Digits -/

private theorem of_readDigits {value result : Nat}
    (read : readDigits limit overflow value text = .ok result) :
    AllDigits text ∧ text.foldl pushDigit value = result := by
  induction text generalizing value with
  | nil =>
      injection read with same
      exact ⟨fun _ => nofun, same⟩
  | cons c rest induction =>
      rw [readDigits] at read
      split at read
      · contradiction
      · rename_i digit isDigit
        split at read
        · obtain ⟨all, folded⟩ := induction read
          have pushed : pushDigit value c = value * 10 + digit := by
            rw [pushDigit, isDigit, Option.getD_some]
          rw [List.foldl_cons, pushed]
          exact ⟨List.forall_mem_cons.mpr ⟨congrArg Option.isSome isDigit, all⟩, folded⟩
        · contradiction

theorem readMagnitude_eq_ok_iff {result : Nat} :
    readMagnitude limit overflow text = .ok result ↔
      AllDigits text ∧ text ≠ [] ∧ digitsValue text = result ∧ result ≤ limit := by
  constructor
  · intro read
    have below := readMagnitude_le read
    cases text with
    | nil => contradiction
    | cons c rest =>
        obtain ⟨all, folded⟩ := of_readDigits read
        exact ⟨all, List.cons_ne_nil c rest, folded, below⟩
  · rintro ⟨all, nonempty, rfl, below⟩
    exact readMagnitude_of_allDigits all nonempty below

/-! ## Signs -/

private theorem of_map_readMagnitude {make : Nat → Int} {value : Int}
    (read : (readMagnitude limit overflow text).map make = .ok value) :
    AllDigits text ∧ text ≠ [] ∧ make (digitsValue text) = value := by
  cases result : readMagnitude limit overflow text with
  | error error =>
      rw [result] at read
      contradiction
  | ok magnitude =>
      obtain ⟨all, nonempty, rfl, -⟩ := readMagnitude_eq_ok_iff.mp result
      rw [result] at read
      exact ⟨all, nonempty, Except.ok.inj read⟩

private theorem of_readSigned {value : Int} (read : readSigned negativeLimit limit text = .ok value) :
    Writes text value := by
  unfold readSigned at read
  split at read
  · contradiction
  · rename_i digits
    have negated : (readMagnitude negativeLimit .tooSmall digits).map (fun value => -Int.ofNat value) =
        .ok value := by
      rw [← read]
      cases readMagnitude negativeLimit .tooSmall digits <;> rfl
    obtain ⟨all, nonempty, rfl⟩ := of_map_readMagnitude negated
    simpa [Sign.chars, Sign.factor] using Writes.signed .minus all nonempty
  · obtain ⟨all, nonempty, rfl⟩ := of_map_readMagnitude read
    simpa [Sign.chars, Sign.factor] using Writes.signed .plus all nonempty
  · obtain ⟨all, nonempty, rfl⟩ := of_map_readMagnitude read
    simpa [Sign.chars, Sign.factor] using Writes.signed .none all nonempty

theorem readSigned_eq_ok_iff {value : Int} :
    readSigned negativeLimit limit text = .ok value ↔
      Writes text value ∧ -(negativeLimit : Int) ≤ value ∧ value ≤ limit := by
  constructor
  · intro read
    exact ⟨of_readSigned read, readSigned_within read⟩
  · rintro ⟨⟨sign, all, nonempty⟩, least, greatest⟩
    exact readSigned_sign all nonempty least greatest

theorem Writes.unique {left right : Int} (isLeft : Writes text left)
    (isRight : Writes text right) : left = right := by
  -- Both are read within limits that leave room for either.
  have wide {value : Int} (written : Writes text value)
      (inside : value = left ∨ value = right) :
      readSigned (left.natAbs + right.natAbs) (left.natAbs + right.natAbs) text = .ok value :=
    readSigned_eq_ok_iff.mpr ⟨written, by omega, by omega⟩
  exact Except.ok.inj ((wide isLeft (.inl rfl)).symm.trans (wide isRight (.inr rfl)))

def InInt64 (value : Int) : Prop :=
  -2 ^ 63 ≤ value ∧ value ≤ 2 ^ 63 - 1
deriving Decidable

theorem readInt64_eq_ok_iff {value : Int} :
    readInt64 text = .ok value ↔ Writes text value ∧ InInt64 value :=
  readSigned_eq_ok_iff

/-! ## Numbers of 32 bits -/

theorem toNat_readUInt32? (all : AllDigits text) (nonempty : text ≠ []) :
    (readUInt32? text).map UInt32.toNat =
      if digitsValue text < 2 ^ 32 then some (digitsValue text) else none := by
  have unsigned : readUnsigned (2 ^ 32 - 1) text = readMagnitude (2 ^ 32 - 1) .tooLarge text := by
    cases text with
    | nil => contradiction
    | cons c rest =>
        rw [readUnsigned]
        · nofun
        · rintro digits same
          rw [(List.cons.inj same).1] at all
          exact absurd all.head (by decide)
  rw [readUInt32?, unsigned]
  cases read : readMagnitude (2 ^ 32 - 1) .tooLarge text with
  | ok value =>
      obtain ⟨-, -, rfl, below⟩ := readMagnitude_eq_ok_iff.mp read
      have within : digitsValue text < 2 ^ 32 := by omega
      rw [if_pos within, Option.map_some, UInt32.toNat_ofNat_of_lt' within]
  | error error =>
      have outside : ¬digitsValue text < 2 ^ 32 := by
        intro within
        rw [readMagnitude_of_allDigits all nonempty (by omega)] at read
        contradiction
      rw [if_neg outside]
      rfl

end RemoteQuery.Number
