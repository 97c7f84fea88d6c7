import RemoteQuery.Text.Ranges

namespace RemoteQuery.Text

/-! Blanks are the characters with the White_Space property: all spaces, tabs and
line or paragraph ends of Unicode, not those of ASCII alone. -/

def blankRanges : List (Nat × Nat) :=
  [(0x9, 0xD), (0x20, 0x20), (0x85, 0x85), (0xA0, 0xA0), (0x1680, 0x1680), (0x2000, 0x200A),
   (0x2028, 0x2029), (0x202F, 0x202F), (0x205F, 0x205F), (0x3000, 0x3000)]

def isBlank (c : Char) : Bool :=
  inRanges blankRanges c.toNat

example : isBlank ' ' = true := by decide
example : isBlank (Char.ofNat 0xA0) = true := by decide
example : isBlank (Char.ofNat 0x200B) = false := by decide

/-! ## Dropping blanks at the ends -/

def dropBlanks (chars : List Char) : List Char :=
  chars.dropWhile isBlank

def trimBlanks (chars : List Char) : List Char :=
  (dropBlanks (dropBlanks chars).reverse).reverse

def trim (text : String) : String :=
  String.ofList (trimBlanks text.toList)

example : trim "\t a b \n" = "a b" := by decide +kernel

@[simp] theorem dropBlanks_nil : dropBlanks [] = [] := rfl

theorem dropBlanks_cons_of_blank {c : Char} {rest : List Char} (blank : isBlank c = true) :
    dropBlanks (c :: rest) = dropBlanks rest := by
  simp [dropBlanks, blank]

theorem dropBlanks_cons_of_not_blank {c : Char} {rest : List Char} (solid : isBlank c = false) :
    dropBlanks (c :: rest) = c :: rest := by
  simp [dropBlanks, solid]

/-! ## Letter case

Only the letters of ASCII have a case here; `É` stays as it is. -/

def lowercase (text : String) : String :=
  text.map Char.toLower

example : lowercase "DÉCIMAL" = "dÉcimal" := by decide +kernel

end RemoteQuery.Text
