import RemoteQuery.Json.Basic

namespace RemoteQuery

/-! Tokens that make a request unlike any other: random identifiers in the usual five
groups of hexadecimal digits. Six of the 128 bits are fixed; they tell the version, which
is four, and the variant. -/

namespace RequestToken

def hexadecimalDigits : (count : Nat) → Nat → List Char
  | 0, _ => []
  | count + 1, value =>
      Json.hexDigit (value / 16 ^ count % 16) :: hexadecimalDigits count value

def ofRandom (bits : UInt64 × UInt64) : String :=
  let high := bits.1.toNat
  let low := bits.2.toNat
  String.ofList
    (hexadecimalDigits 8 (high / 2 ^ 32) ++ ['-'] ++ hexadecimalDigits 4 (high / 2 ^ 16) ++ ['-'] ++
      '4' :: hexadecimalDigits 3 high ++ ['-'] ++
      hexadecimalDigits 4 (low / 2 ^ 48 % 2 ^ 14 + 2 ^ 15) ++ ['-'] ++ hexadecimalDigits 12 low)

example : ofRandom (0x0123456789abcdef, 0xfedcba9876543210) =
    "01234567-89ab-4def-bedc-ba9876543210" := by decide +kernel

end RequestToken

end RemoteQuery
