import Mathlib
import RemoteQuery.Text.Blank
import RemoteQuery.Text.Search

/-! # Trimmed texts

What stands between blanks is found whatever blanks they are and whatever case its letters
have. What is looked for in a text is found in the trimmed text as well, unless it begins or
ends with a blank itself.
-/

namespace RemoteQuery.Text

def AllBlank (text : List Char) : Prop :=
  ∀ c ∈ text, isBlank c = true

structure Bare (text : List Char) : Prop where
  first : ∀ c ∈ text.head?, isBlank c = false
  last : ∀ c ∈ text.getLast?, isBlank c = false

variable {left right text part : List Char}

theorem AllBlank.reverse (blank : AllBlank text) : AllBlank text.reverse :=
  fun c member => blank c (List.mem_reverse.mp member)

theorem Bare.reverse (bare : Bare text) : Bare text.reverse where
  first c member := bare.last c (by rwa [List.head?_reverse] at member)
  last c member := bare.first c (by rwa [List.getLast?_reverse] at member)

/-! ## Blanks at the ends -/

theorem dropBlanks_of_allBlank (blank : AllBlank text) : dropBlanks text = [] :=
  List.dropWhile_eq_nil_iff.mpr blank

theorem dropBlanks_of_bare (bare : Bare text) : dropBlanks text = text := by
  cases text with
  | nil => rfl
  | cons c rest => exact dropBlanks_cons_of_not_blank (bare.first c rfl)

theorem trimBlanks_of_bare (bare : Bare text) : trimBlanks text = text := by
  rw [trimBlanks, dropBlanks_of_bare bare, dropBlanks_of_bare bare.reverse, List.reverse_reverse]

private theorem dropBlanks_append_blanks (blank : AllBlank right) :
    dropBlanks (dropBlanks (text ++ right)).reverse = dropBlanks (dropBlanks text).reverse := by
  have behind : dropBlanks (text ++ right) =
      if (dropBlanks text).isEmpty then dropBlanks right else dropBlanks text ++ right :=
    List.dropWhile_append
  rw [behind]
  split
  · rename_i nothing
    rw [dropBlanks_of_allBlank blank, List.isEmpty_iff.mp nothing]
  · rw [List.reverse_append]
    exact List.dropWhile_append_of_pos blank.reverse

theorem trimBlanks_append (blankLeft : AllBlank left) (blankRight : AllBlank right) :
    trimBlanks (left ++ text ++ right) = trimBlanks text := by
  have inFront : dropBlanks (left ++ text ++ right) = dropBlanks (text ++ right) := by
    rw [List.append_assoc]
    exact List.dropWhile_append_of_pos blankLeft
  rw [trimBlanks, inFront, dropBlanks_append_blanks blankRight, trimBlanks]

theorem exists_blanks_behind (text : List Char) :
    ∃ right, AllBlank right ∧ dropBlanks text = trimBlanks text ++ right := by
  refine ⟨((dropBlanks text).reverse.takeWhile isBlank).reverse,
    AllBlank.reverse fun c => List.mem_takeWhile_imp, ?_⟩
  rw [trimBlanks, ← List.reverse_append]
  have whole : (dropBlanks text).reverse =
      (dropBlanks text).reverse.takeWhile isBlank ++ dropBlanks (dropBlanks text).reverse :=
    List.takeWhile_append_dropWhile.symm
  rw [← whole, List.reverse_reverse]

theorem exists_blanks_around (text : List Char) :
    ∃ left right, AllBlank left ∧ AllBlank right ∧ text = left ++ trimBlanks text ++ right := by
  obtain ⟨right, blank, behind⟩ := exists_blanks_behind text
  refine ⟨text.takeWhile isBlank, right, fun c => List.mem_takeWhile_imp, blank, ?_⟩
  rw [List.append_assoc, ← behind]
  exact List.takeWhile_append_dropWhile.symm

@[simp] theorem trimBlanks_trimBlanks (text : List Char) :
    trimBlanks (trimBlanks text) = trimBlanks text := by
  obtain ⟨left, right, blankLeft, blankRight, isText⟩ := exists_blanks_around text
  conv_rhs => rw [isText]
  exact (trimBlanks_append blankLeft blankRight).symm

theorem trimBlanks_map {change : Char → Char} (same : ∀ c, isBlank (change c) = isBlank c)
    (text : List Char) : trimBlanks (text.map change) = (trimBlanks text).map change := by
  have dropped (text : List Char) : dropBlanks (text.map change) = (dropBlanks text).map change := by
    rw [dropBlanks, List.dropWhile_map]
    exact congrArg (fun isBlank => (List.dropWhile isBlank text).map change) (funext same)
  rw [trimBlanks, dropped, ← List.map_reverse, dropped, ← List.map_reverse, trimBlanks]

/-! ## Parts of a trimmed text -/

theorem contains_iff : contains text part = true ↔ part <:+: text := by
  induction text with
  | nil => rw [contains, List.isEmpty_iff, List.infix_nil]
  | cons c text induction =>
      have begins : (after? part (c :: text)).isSome = true ↔ part <+: c :: text := by
        simp only [Option.isSome_iff_exists, after?_eq_some_iff]
        exact exists_congr fun rest => eq_comm
      rw [contains, Bool.or_eq_true, begins, induction, List.infix_cons_iff]

/-- Nothing that begins without a blank begins among blanks. -/
private theorem infix_blanks_append (blank : AllBlank left) (bare : Bare part)
    (something : part ≠ []) (isInside : part <:+: left ++ text) : part <:+: text := by
  induction left with
  | nil => exact isInside
  | cons c left induction =>
      obtain ⟨blankFirst, blank⟩ := List.forall_mem_cons.mp blank
      rcases List.infix_cons_iff.mp isInside with begins | later
      · obtain ⟨first, rest, rfl⟩ := List.exists_cons_of_ne_nil something
        have same : first = c := (List.cons_prefix_cons.mp begins).1
        cases (bare.first first rfl).symm.trans (same ▸ blankFirst)
      · exact induction blank later

theorem infix_trimBlanks_iff (bare : Bare part) (something : part ≠ []) :
    part <:+: trimBlanks text ↔ part <:+: text := by
  obtain ⟨left, right, blankLeft, blankRight, isText⟩ := exists_blanks_around text
  constructor
  · intro isInside
    rw [isText]
    exact isInside.trans (List.infix_append _ _ _)
  · intro isInside
    rw [isText, List.append_assoc] at isInside
    have behind := infix_blanks_append blankLeft bare something isInside
    rw [← List.reverse_infix, List.reverse_append] at behind
    exact List.reverse_infix.mp
      (infix_blanks_append blankRight.reverse bare.reverse (by simpa using something) behind)

/-! ## Letter case -/

/-- Who asks for no letters does not see a change of case. -/
theorem toLower_of_no_letter {holds : Char → Bool}
    (noLetter : ∀ c : Char, c.isAlpha = true → holds c = false) (c : Char) :
    holds c.toLower = holds c := by
  by_cases upper : c.isUpper = true
  · have letter : c.isAlpha = true := by simp [Char.isAlpha, upper]
    rw [noLetter c letter, noLetter c.toLower (by simpa using letter)]
  · rw [Char.toLower_eq_of_not_isUpper upper]

theorem not_isBlank_of_isAlpha {c : Char} (letter : c.isAlpha = true) : isBlank c = false := by
  simp only [Char.isAlpha, Char.isUpper, Char.isLower, Bool.or_eq_true, Bool.and_eq_true,
    decide_eq_true_eq, ge_iff_le, UInt32.le_iff_toNat_le, Char.reduceVal, UInt32.reduceToNat,
    Char.toNat_val] at letter
  simp only [isBlank, inRanges, blankRanges, List.any_cons, List.any_nil, Bool.or_false,
    Bool.or_eq_false_iff, Bool.and_eq_false_iff, decide_eq_false_iff_not]
  omega

@[simp] theorem isBlank_toLower (c : Char) : isBlank c.toLower = isBlank c :=
  toLower_of_no_letter (fun _ => not_isBlank_of_isAlpha) c

theorem toLower_of_isBlank {c : Char} (blank : isBlank c = true) : c.toLower = c := by
  apply Char.toLower_eq_of_not_isUpper
  intro upper
  rw [not_isBlank_of_isAlpha (by simp [Char.isAlpha, upper])] at blank
  contradiction

theorem toLower_of_isDigit {c : Char} (digit : c.isDigit = true) : c.toLower = c := by
  apply Char.toLower_eq_of_not_isUpper
  simp only [Char.isDigit, Char.isUpper, Bool.and_eq_true, decide_eq_true_eq, ge_iff_le,
    UInt32.le_iff_toNat_le, Char.reduceVal, UInt32.reduceToNat, Char.toNat_val] at digit ⊢
  omega

theorem AllBlank.map_toLower (blank : AllBlank text) : text.map Char.toLower = text :=
  (List.map_congr_left fun c member => toLower_of_isBlank (blank c member)).trans (List.map_id text)

end RemoteQuery.Text
