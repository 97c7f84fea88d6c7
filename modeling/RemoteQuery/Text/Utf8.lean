namespace RemoteQuery.Text.Utf8

/-! UTF-8, read one byte at a time. Between bytes the reader stands either between
two characters or inside one, and then it knows how many bytes the character
still owes and in which range the next of them must lie. -/

structure Pending where
  /-- The bits read so far. -/
  bits : Nat
  /-- Continuation bytes still to come, the next one not counted. -/
  afterNext : Nat
  /-- The least and the greatest byte that may come next. -/
  low : Nat
  high : Nat
deriving Repr, DecidableEq

/-- What a first byte opens: a whole character, a longer one, or nothing. -/
inductive Opening where
  | whole (character : Char)
  | longer (pending : Pending)
  | refused
deriving Repr, DecidableEq

/-- Bytes 0xE0, 0xED, 0xF0 and 0xF4 narrow the range of their next byte: overlong
forms, surrogates and code points past U+10FFFF are not characters. -/
def openWith (byte : UInt8) : Opening :=
  let value := byte.toNat
  if value < 0x80 then .whole (Char.ofNat value)
  else if value < 0xC2 then .refused
  else if value < 0xE0 then .longer ⟨value - 0xC0, 0, 0x80, 0xBF⟩
  else if value < 0xF0 then
    .longer ⟨value - 0xE0, 1, if value = 0xE0 then 0xA0 else 0x80,
      if value = 0xED then 0x9F else 0xBF⟩
  else if value < 0xF5 then
    .longer ⟨value - 0xF0, 2, if value = 0xF0 then 0x90 else 0x80,
      if value = 0xF4 then 0x8F else 0xBF⟩
  else .refused

/-- The pieces of a byte sequence: its characters, and `none` for every longest
run of bytes that begins like a character and is none. -/
def piecesFrom : Option Pending → List UInt8 → List (Option Char)
  | none, [] => []
  | some _, [] => [none]
  | none, byte :: rest =>
      match openWith byte with
      | .whole character => some character :: piecesFrom none rest
      | .longer pending => piecesFrom (some pending) rest
      | .refused => none :: piecesFrom none rest
  | some pending, byte :: rest =>
      let value := byte.toNat
      if pending.low ≤ value ∧ value ≤ pending.high then
        let bits := pending.bits * 64 + (value - 0x80)
        match pending.afterNext with
        | 0 => some (Char.ofNat bits) :: piecesFrom none rest
        | owed + 1 => piecesFrom (some ⟨bits, owed, 0x80, 0xBF⟩) rest
      else
        match openWith byte with
        | .whole character => none :: some character :: piecesFrom none rest
        | .longer opened => none :: piecesFrom (some opened) rest
        | .refused => none :: none :: piecesFrom none rest

def pieces (bytes : List UInt8) : List (Option Char) :=
  piecesFrom none bytes

def decode? (bytes : List UInt8) : Option String :=
  ((pieces bytes).mapM id).map String.ofList

def replacement : Char := Char.ofNat 0xFFFD

/-- The text of the bytes with one replacement character for each malformed piece. -/
def decodeLossy (bytes : List UInt8) : String :=
  String.ofList ((pieces bytes).map (·.getD replacement))

def encode (text : String) : List UInt8 :=
  text.toList.flatMap String.utf8EncodeChar

example : decode? [0x61, 0xC3, 0xA9] = some "aé" := by decide +kernel
example : decode? [0xED, 0xA0, 0x80] = none := by decide +kernel

/-- A truncated character is one malformed piece; a byte that opens nothing is one
by itself. -/
example : pieces [0x61, 0xE2, 0x82, 0x62, 0xFF] = [some 'a', none, some 'b', none] := by
  decide +kernel

example : encode "aé" = [0x61, 0xC3, 0xA9] := by decide +kernel

end RemoteQuery.Text.Utf8
