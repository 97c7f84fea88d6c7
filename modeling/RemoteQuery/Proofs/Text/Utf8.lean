import RemoteQuery.Text.Utf8

/-! # Text as bytes and back

The reader of UTF-8 takes exactly the bytes of one character for that character, so that
text written as bytes is read as the same text.
-/

namespace RemoteQuery.Text.Utf8

/-! ## One character -/

private theorem toNat_ofNat {value : Nat} (small : value < 256) :
    (UInt8.ofNat value).toNat = value := by
  rw [UInt8.toNat_ofNat']
  exact Nat.mod_eq_of_lt small

private theorem valid (c : Char) :
    c.val.toNat < 0xD800 ∨ 0xDFFF < c.val.toNat ∧ c.val.toNat < 0x110000 :=
  c.valid

private theorem piecesFrom_opened {byte : UInt8} {pending : Pending}
    (opens : openWith byte = .longer pending) (rest : List UInt8) :
    piecesFrom none (byte :: rest) = piecesFrom (some pending) rest := by
  rw [piecesFrom, opens]

private theorem piecesFrom_more {bits owed low high : Nat} {byte : UInt8}
    (within : low ≤ byte.toNat ∧ byte.toNat ≤ high) (rest : List UInt8) :
    piecesFrom (some ⟨bits, owed + 1, low, high⟩) (byte :: rest) =
      piecesFrom (some ⟨bits * 64 + (byte.toNat - 0x80), owed, 0x80, 0xBF⟩) rest := by
  rw [piecesFrom]
  exact if_pos within

private theorem piecesFrom_last {bits low high : Nat} {byte : UInt8}
    (within : low ≤ byte.toNat ∧ byte.toNat ≤ high) (rest : List UInt8) :
    piecesFrom (some ⟨bits, 0, low, high⟩) (byte :: rest) =
      some (Char.ofNat (bits * 64 + (byte.toNat - 0x80))) :: piecesFrom none rest := by
  rw [piecesFrom]
  exact if_pos within

private theorem within_of_continuation (value : Nat) :
    0x80 ≤ (UInt8.ofNat (value % 64 + 128)).toNat ∧
      (UInt8.ofNat (value % 64 + 128)).toNat ≤ 0xBF := by
  rw [toNat_ofNat (by omega)]
  omega

private theorem encodeChar_eq (c : Char) :
    String.utf8EncodeChar c =
      if c.val.toNat ≤ 127 then [UInt8.ofNat c.val.toNat]
      else if c.val.toNat ≤ 2047 then
        [UInt8.ofNat (c.val.toNat / 64 % 32 + 192), UInt8.ofNat (c.val.toNat % 64 + 128)]
      else if c.val.toNat ≤ 65535 then
        [UInt8.ofNat (c.val.toNat / 4096 % 16 + 224), UInt8.ofNat (c.val.toNat / 64 % 64 + 128),
          UInt8.ofNat (c.val.toNat % 64 + 128)]
      else
        [UInt8.ofNat (c.val.toNat / 262144 % 8 + 240),
          UInt8.ofNat (c.val.toNat / 4096 % 64 + 128), UInt8.ofNat (c.val.toNat / 64 % 64 + 128),
          UInt8.ofNat (c.val.toNat % 64 + 128)] := rfl

private theorem openWith_of_two {first : Nat} (atLeast : 0xC2 ≤ first) (below : first < 0xE0) :
    openWith (UInt8.ofNat first) = .longer ⟨first - 0xC0, 0, 0x80, 0xBF⟩ := by
  rw [openWith, toNat_ofNat (by omega)]
  simp only [show ¬first < 0x80 by omega, show ¬first < 0xC2 by omega, below, if_true, if_false]

private theorem openWith_of_three {first : Nat} (atLeast : 0xE0 ≤ first) (below : first < 0xF0) :
    openWith (UInt8.ofNat first) =
      .longer ⟨first - 0xE0, 1, if first = 0xE0 then 0xA0 else 0x80,
        if first = 0xED then 0x9F else 0xBF⟩ := by
  rw [openWith, toNat_ofNat (by omega)]
  simp only [show ¬first < 0x80 by omega, show ¬first < 0xC2 by omega,
    show ¬first < 0xE0 by omega, below, if_true, if_false]

private theorem openWith_of_four {first : Nat} (atLeast : 0xF0 ≤ first) (below : first < 0xF5) :
    openWith (UInt8.ofNat first) =
      .longer ⟨first - 0xF0, 2, if first = 0xF0 then 0x90 else 0x80,
        if first = 0xF4 then 0x8F else 0xBF⟩ := by
  rw [openWith, toNat_ofNat (by omega)]
  simp only [show ¬first < 0x80 by omega, show ¬first < 0xC2 by omega,
    show ¬first < 0xE0 by omega, show ¬first < 0xF0 by omega, below, if_true, if_false]

theorem piecesFrom_encodeChar (c : Char) (rest : List UInt8) :
    piecesFrom none (String.utf8EncodeChar c ++ rest) = some c :: piecesFrom none rest := by
  have isValid := valid c
  have same : Char.ofNat c.val.toNat = c := Char.ofNat_toNat c
  rw [encodeChar_eq]
  generalize c.val.toNat = value at isValid same
  split
  · have opens : openWith (UInt8.ofNat value) = .whole (Char.ofNat value) := by
      rw [openWith, toNat_ofNat (by omega)]
      exact if_pos (by omega)
    rw [List.singleton_append, piecesFrom, opens, same]
  · split
    · rw [List.cons_append, List.singleton_append,
        piecesFrom_opened (openWith_of_two (by omega) (by omega)),
        piecesFrom_last (within_of_continuation _), toNat_ofNat (by omega)]
      rw [show (value / 64 % 32 + 192 - 0xC0) * 64 + (value % 64 + 128 - 0x80) = value by omega,
        same]
    · split
      · have within := within_of_continuation (value / 64)
        rw [toNat_ofNat (by omega)] at within
        rw [List.cons_append, List.cons_append, List.singleton_append,
          piecesFrom_opened (openWith_of_three (by omega) (by omega)),
          piecesFrom_more (by rw [toNat_ofNat (by omega)]; constructor <;> split <;> omega),
          piecesFrom_last (within_of_continuation _), toNat_ofNat (by omega),
          toNat_ofNat (by omega)]
        rw [show ((value / 4096 % 16 + 224 - 0xE0) * 64 + (value / 64 % 64 + 128 - 0x80)) * 64 +
          (value % 64 + 128 - 0x80) = value by omega, same]
      · rw [List.cons_append, List.cons_append, List.cons_append, List.singleton_append,
          piecesFrom_opened (openWith_of_four (by omega) (by omega)),
          piecesFrom_more (by rw [toNat_ofNat (by omega)]; constructor <;> split <;> omega),
          piecesFrom_more (within_of_continuation _), piecesFrom_last (within_of_continuation _),
          toNat_ofNat (by omega), toNat_ofNat (by omega), toNat_ofNat (by omega)]
        rw [show (((value / 262144 % 8 + 240 - 0xF0) * 64 +
            (value / 4096 % 64 + 128 - 0x80)) * 64 + (value / 64 % 64 + 128 - 0x80)) * 64 +
          (value % 64 + 128 - 0x80) = value by omega, same]

theorem eq_of_mem_encodeChar {c : Char} {byte : UInt8} (member : byte ∈ String.utf8EncodeChar c)
    (small : byte.toNat < 0x80) : c.val.toNat = byte.toNat := by
  have isValid := valid c
  rw [encodeChar_eq] at member
  generalize c.val.toNat = value at isValid member
  split at member
  · rw [List.mem_singleton.mp member, toNat_ofNat (by omega)]
  · exfalso
    split at member
    · simp only [List.mem_cons, List.not_mem_nil, or_false] at member
      rcases member with rfl | rfl <;> rw [toNat_ofNat (by omega)] at small <;> omega
    · split at member
      · simp only [List.mem_cons, List.not_mem_nil, or_false] at member
        rcases member with rfl | rfl | rfl <;> rw [toNat_ofNat (by omega)] at small <;> omega
      · simp only [List.mem_cons, List.not_mem_nil, or_false] at member
        rcases member with rfl | rfl | rfl | rfl <;> rw [toNat_ofNat (by omega)] at small <;> omega

/-! ## Texts -/

private theorem pieces_encode (characters : List Char) :
    pieces (characters.flatMap String.utf8EncodeChar) = characters.map some := by
  induction characters with
  | nil => rfl
  | cons c rest induction =>
      rw [List.flatMap_cons, pieces, piecesFrom_encodeChar, ← pieces, induction, List.map_cons]

theorem decode?_encode (text : String) : decode? (encode text) = some text := by
  have all : (text.toList.map some).mapM id = some text.toList := by
    rw [List.mapM_map]
    exact (List.mapM_pure (m := Option) (f := id)).trans (congrArg some (List.map_id _))
  rw [decode?, encode, pieces_encode, all, Option.map_some, String.ofList_toList]

theorem decodeLossy_encode (text : String) : decodeLossy (encode text) = text := by
  have kept : (text.toList.map some).map (·.getD replacement) = text.toList := by
    rw [List.map_map]
    exact List.map_id _
  rw [decodeLossy, encode, pieces_encode, kept, String.ofList_toList]

end RemoteQuery.Text.Utf8
