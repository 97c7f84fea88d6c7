namespace RemoteQuery.Text

/-! Looking for one text in another. -/

def after? : (part text : List Char) → Option (List Char)
  | [], text => some text
  | _ :: _, [] => none
  | c :: part, d :: text => if c = d then after? part text else none

theorem after?_eq_some_iff {part text rest : List Char} :
    after? part text = some rest ↔ text = part ++ rest := by
  induction part generalizing text with
  | nil => simp [after?]
  | cons c part induction =>
      cases text with
      | nil => simp [after?]
      | cons d text =>
          by_cases same : c = d
          · simp [after?, same, induction]
          · simp [after?, same, Ne.symm same]

/-! ### A text as far as it stays the same -/

section Spans

variable {stays : Char → Bool} {text rest : List Char}

theorem takeWhile_span (all : ∀ c ∈ text, stays c = true)
    (ends : ∀ c ∈ rest.head?, stays c = false) : (text ++ rest).takeWhile stays = text := by
  rw [List.takeWhile_append_of_pos all]
  cases rest with
  | nil => exact List.append_nil text
  | cons c rest => rw [List.takeWhile_cons_of_neg (by simp [ends c rfl]), List.append_nil]

theorem dropWhile_span (all : ∀ c ∈ text, stays c = true)
    (ends : ∀ c ∈ rest.head?, stays c = false) : (text ++ rest).dropWhile stays = rest := by
  rw [List.dropWhile_append_of_pos all]
  cases rest with
  | nil => rfl
  | cons c rest => exact List.dropWhile_cons_of_neg (by simp [ends c rfl])

end Spans

/-! ### Parts and ends -/

def contains : (text part : List Char) → Bool
  | [], part => part.isEmpty
  | c :: rest, part => (after? part (c :: rest)).isSome || contains rest part

def endsWith (text ending : String) : Bool :=
  ending.toList.isSuffixOf text.toList

example : after? "s3://".toList "s3://a".toList = some ['a'] := by decide
example : contains "timestamp with zone".toList "with".toList = true := by decide +kernel

end RemoteQuery.Text
