import RemoteQuery.Text.Hidden

namespace RemoteQuery.Text

/-! Quoted text, as messages show a value that may hold anything: in double
quotes, on one line, with everything invisible spelled out. -/

def hexadecimal (value : Nat) : List Char :=
  Nat.toDigits 16 value

/-- One character inside the quotes. Quotes and backslashes take a backslash, the
common controls have letters of their own, and every other hidden character is
written by its code point. -/
def quotedCharacter (c : Char) : List Char :=
  if c = '"' then ['\\', '"']
  else if c = '\\' then ['\\', '\\']
  else if c = '\x00' then ['\\', '0']
  else if c = '\t' then ['\\', 't']
  else if c = '\n' then ['\\', 'n']
  else if c = '\r' then ['\\', 'r']
  else if isHidden c then ['\\', 'u', '\x7b'] ++ hexadecimal c.toNat ++ ['\x7d']
  else [c]

def quoted (text : String) : String :=
  String.ofList (['"'] ++ text.toList.flatMap quotedCharacter ++ ['"'])

example : quoted "a\"b" = "\"a\\\"b\"" := by decide +kernel
example : quoted "it's\n" = "\"it's\\n\"" := by decide +kernel

end RemoteQuery.Text
