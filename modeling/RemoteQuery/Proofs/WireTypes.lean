import RemoteQuery.Proofs.Columns
import RemoteQuery.Proofs.Number.Integer
import RemoteQuery.Proofs.Text.Trimmed

/-! # Wire types

The base of a wire type decides what its cells are. Only decimals and timestamps are asked for
more than that: the one for its parameters, the other for whether it speaks of a time zone.
Whatever a type is made of inside its brackets is not looked at otherwise.
-/

namespace RemoteQuery

open Number (AllDigits digitsValue isDigit not_isBlank_of_isDigit)
open Text (AllBlank Bare contains contains_iff infix_trimBlanks_iff isBlank isBlank_toLower
  lowercase toLower_of_isBlank toLower_of_isDigit toLower_of_no_letter trimBlanks trimBlanks_append
  trimBlanks_map trimBlanks_of_bare trimBlanks_trimBlanks)

namespace Family

/-! ## The base -/

theorem baseChars_eq (text : List Char) :
    baseChars text = (Text.dropBlanks text).takeWhile (!endsBase ·) := by
  obtain ⟨right, blank, behind⟩ := Text.exists_blanks_behind text
  rw [behind, baseChars, List.takeWhile_append]
  split
  · rename_i whole
    have nothing : right.takeWhile (!endsBase ·) = [] := by
      cases right with
      | nil => rfl
      | cons c right => simp [endsBase, blank c List.mem_cons_self]
    rw [nothing, List.append_nil]
    exact (List.takeWhile_prefix _).eq_of_length whole
  · rfl

theorem base_eq {left word rest : List Char} (blank : AllBlank left) (something : word ≠ [])
    (unbroken : ∀ c ∈ word, endsBase c = false) (ends : ∀ c ∈ rest.head?, endsBase c = true) :
    base (String.ofList (left ++ word ++ rest)) = String.ofList word := by
  obtain ⟨first, others, rfl⟩ := List.exists_cons_of_ne_nil something
  have solid : isBlank first = false := by
    have inWord := unbroken first List.mem_cons_self
    simp only [endsBase, decide_eq_false_iff_not, not_or, Bool.not_eq_true] at inWord
    exact inWord.2.2
  have dropped : Text.dropBlanks (left ++ first :: others ++ rest) = first :: others ++ rest := by
    rw [List.append_assoc, Text.dropBlanks, List.dropWhile_append_of_pos blank]
    exact Text.dropBlanks_cons_of_not_blank solid
  rw [base, String.toList_ofList, baseChars_eq, dropped,
    Text.takeWhile_span (by simpa using unbroken) (by simpa using ends)]

/-! ## What a base means -/

/-- The bases that are known. Here a decimal has no parameters, and a timestamp no zone. -/
def known : List (String × Family) :=
  [("boolean", .boolean), ("tinyint", .integer), ("smallint", .integer), ("integer", .integer),
    ("int", .integer), ("bigint", .integer), ("float", .float), ("double", .float),
    ("real", .float), ("decimal", .decimal none none), ("date", .date), ("time", .time),
    ("timestamp", .timestamp), ("varbinary", .binary), ("binary", .binary), ("array", .array),
    ("map", .map), ("row", .row), ("struct", .row)]

def ofBase (base : String) : Family :=
  (known.lookup base).getD .text

theorem ofBase_of_unknown {base : String} (unknown : base ∉ known.map Prod.fst) :
    ofBase base = .text := by
  have nowhere : known.lookup base = none := by
    rw [List.lookup_eq_none_iff]
    intro entry isEntry
    simp only [bne_iff_ne]
    rintro rfl
    exact unknown (List.mem_map_of_mem isEntry)
  rw [ofBase, nowhere, Option.getD_none]

/-- A family without what the base does not tell of it. -/
def kind : Family → Family
  | .decimal _ _ => .decimal none none
  | .zonedTimestamp => .timestamp
  | family => family

def zonePhrase : String := "with time zone"

def complete (chars : List Char) : Family → Family
  | .decimal _ _ => .decimal (parameters chars).1 (parameters chars).2
  | .timestamp =>
      if contains chars zonePhrase.toList then .zonedTimestamp else .timestamp
  | family => family

theorem ofNormalized_eq (chars : List Char) :
    ofNormalized chars = (ofBase (String.ofList (baseChars chars))).complete chars := by
  unfold ofNormalized
  split
  -- The last case is the one of all bases that are not in the table.
  case h_20 =>
    have unknown : String.ofList (baseChars chars) ∉ known.map Prod.fst := by
      simp only [known, List.map_cons, List.map_nil, List.mem_cons, List.not_mem_nil, or_false,
        not_or]
      and_intros <;> assumption
    rw [ofBase_of_unknown unknown]
    rfl
  all_goals
    rename_i isBase
    rw [isBase]
    rfl

theorem kind_complete (chars : List Char) (family : Family) :
    (family.complete chars).kind = family.kind := by
  cases family with
  | timestamp =>
      unfold complete
      dsimp only
      split <;> rfl
  | _ => rfl

theorem ofBase_cases (base : String) :
    ofBase base = .text ∨ (base, ofBase base) ∈ known := by
  cases found : known.lookup base with
  | none => exact .inl (by rw [ofBase, found, Option.getD_none])
  | some family =>
      obtain ⟨before, behind, isTable, -⟩ := List.lookup_eq_some_iff.mp found
      right
      rw [ofBase, found, Option.getD_some, isTable]
      exact List.mem_append_right _ List.mem_cons_self

theorem kind_ofBase (base : String) : (ofBase base).kind = ofBase base := by
  have each : ∀ entry ∈ known, entry.2.kind = entry.2 := by decide
  rcases ofBase_cases base with isText | isKnown
  · rw [isText]
    rfl
  · exact each _ isKnown

private theorem complete_of_ne {family : Family} (noDecimal : family.kind ≠ .decimal none none)
    (noTimestamp : family ≠ .timestamp) (chars : List Char) :
    family.complete chars = family := by
  cases family with
  | decimal precision scale => exact absurd rfl noDecimal
  | timestamp => exact absurd rfl noTimestamp
  | _ => rfl

theorem complete_ofBase {base : String} (noDecimal : base ≠ "decimal")
    (noTimestamp : base ≠ "timestamp") (chars : List Char) :
    (ofBase base).complete chars = ofBase base := by
  have each : ∀ entry ∈ known, entry.1 ≠ "decimal" → entry.1 ≠ "timestamp" →
      entry.2.kind ≠ .decimal none none ∧ entry.2 ≠ .timestamp := by decide
  rcases ofBase_cases base with isText | isKnown
  · rw [isText]
    rfl
  · obtain ⟨otherKind, otherFamily⟩ := each _ isKnown noDecimal noTimestamp
    exact complete_of_ne otherKind otherFamily chars

/-! ## Blanks and letter case -/

def normalChars (wireType : String) : List Char :=
  (trimBlanks wireType.toList).map Char.toLower

theorem endsBase_toLower (c : Char) : endsBase c.toLower = endsBase c := by
  refine toLower_of_no_letter (fun c letter => ?_) c
  have noBracket : ∀ bracket : Char, bracket.isAlpha = false → c ≠ bracket := by
    rintro bracket noLetter rfl
    rw [noLetter] at letter
    contradiction
  simp only [endsBase, noBracket '(' (by decide), noBracket '<' (by decide),
    Text.not_isBlank_of_isAlpha letter, false_or, Bool.false_eq_true, decide_false]

theorem normalChars_eq (wireType : String) :
    normalChars wireType = trimBlanks (lowercase wireType).toList := by
  rw [normalChars, lowercase, String.toList_map, trimBlanks_map isBlank_toLower]

theorem base_normalChars (wireType : String) :
    String.ofList (baseChars (normalChars wireType)) = lowercase (base wireType) := by
  apply String.toList_injective
  have ends : (fun c => !endsBase c) ∘ Char.toLower = fun c => !endsBase c :=
    funext fun c => congrArg not (endsBase_toLower c)
  simp only [baseChars, normalChars, trimBlanks_map isBlank_toLower, trimBlanks_trimBlanks,
    List.takeWhile_map, ends, lowercase, base, String.toList_map, String.toList_ofList]

theorem ofWireType_eq (wireType : String) :
    ofWireType wireType =
      (ofBase (lowercase (base wireType))).complete (normalChars wireType) := by
  rw [ofWireType, ← normalChars, ofNormalized_eq, base_normalChars]

theorem ofWireType_congr {left right : String} (same : normalChars left = normalChars right) :
    ofWireType left = ofWireType right :=
  congrArg ofNormalized same

/-! ## Timestamps -/

def SpeaksOfZone (wireType : String) : Prop :=
  zonePhrase.toList <:+: (lowercase wireType).toList

theorem bare_zonePhrase : Bare zonePhrase.toList where
  first := by
    rintro c ⟨⟩
    decide
  last := by
    rintro c ⟨⟩
    decide

theorem contains_zonePhrase (wireType : String) :
    contains (normalChars wireType) zonePhrase.toList = true ↔ SpeaksOfZone wireType := by
  rw [contains_iff, normalChars_eq, infix_trimBlanks_iff bare_zonePhrase (by decide), SpeaksOfZone]

theorem ofWireType_timestamp {wireType : String} (isTimestamp : lowercase (base wireType) = "timestamp") :
    (SpeaksOfZone wireType → ofWireType wireType = .zonedTimestamp) ∧
      (¬SpeaksOfZone wireType → ofWireType wireType = .timestamp) := by
  have isFamily : ofWireType wireType =
      if contains (normalChars wireType) zonePhrase.toList then .zonedTimestamp else .timestamp := by
    rw [ofWireType_eq, isTimestamp]
    rfl
  rw [isFamily, ← contains_zonePhrase]
  exact ⟨fun isZoned => if_pos isZoned, fun isPlain => if_neg isPlain⟩

/-! ## Decimals -/

inductive Parameter : (text : List Char) → (value : Nat) → Prop
  | digits {left digits right : List Char} (blankLeft : AllBlank left) (all : AllDigits digits)
      (nonempty : digits ≠ []) (blankRight : AllBlank right) :
      Parameter (left ++ digits ++ right) (digitsValue digits)

inductive Parameters : (text : List Char) → (precision : Nat) → (scale : Option Nat) → Prop
  | precision {text : List Char} {precision : Nat} (first : Parameter text precision) :
      Parameters text precision none
  | both {text other : List Char} {precision scale : Nat} (first : Parameter text precision)
      (second : Parameter other scale) : Parameters (text ++ ',' :: other) precision (some scale)

/-- The wire type of decimals, in letters of any case and with blanks wherever they may be. -/
inductive DecimalType (precision : Nat) (scale : Option Nat) : (wireType : List Char) → Prop
  | written {left word gap inside right : List Char} (blankLeft : AllBlank left)
      (isWord : word.map Char.toLower = "decimal".toList) (blankGap : AllBlank gap)
      (isInside : Parameters inside precision scale) (blankRight : AllBlank right) :
      DecimalType precision scale (left ++ (word ++ (gap ++ '(' :: (inside ++ [')']))) ++ right)

def within32 (value : Nat) : Option Nat :=
  if value < 2 ^ 32 then some value else none

theorem Parameter.read {text : List Char} {value : Nat} (parameter : Parameter text value) :
    (readParameter? text).map UInt32.toNat = within32 value := by
  obtain ⟨blankLeft, all, nonempty, blankRight⟩ := parameter
  rename_i left digits right
  have bare : Bare digits :=
    ⟨fun c isFirst => not_isBlank_of_isDigit (all c (List.mem_of_mem_head? isFirst)),
      fun c isLast => not_isBlank_of_isDigit (all c (List.mem_of_getLast? isLast))⟩
  rw [readParameter?, trimBlanks_append blankLeft blankRight, trimBlanks_of_bare bare]
  exact Number.toNat_readUInt32? all nonempty

theorem Parameter.each {text : List Char} {value : Nat} (parameter : Parameter text value) :
    ∀ c ∈ text, isBlank c = true ∨ isDigit c = true := by
  obtain ⟨blankLeft, all, -, blankRight⟩ := parameter
  intro c member
  rcases List.mem_append.mp member with member | member
  · exact (List.mem_append.mp member).imp (blankLeft c) (all c)
  · exact .inl (blankRight c member)

theorem Parameter.no_comma {text : List Char} {value : Nat} (parameter : Parameter text value) :
    ∀ c ∈ text, c ≠ ',' := by
  rintro c member rfl
  rcases parameter.each _ member with blank | digit <;> contradiction

section Brackets

variable {inside front : List Char} {precision : Nat} {scale : Option Nat}

theorem Parameters.map_toLower (isInside : Parameters inside precision scale) :
    inside.map Char.toLower = inside := by
  have same : ∀ c ∈ inside, c.toLower = c := by
    have each : ∀ c, isBlank c = true ∨ isDigit c = true → c.toLower = c := by
      rintro c (blank | digit)
      · exact toLower_of_isBlank blank
      · exact toLower_of_isDigit (Number.isDigit_iff.mp digit)
    cases isInside with
    | precision first => exact fun c member => each c (first.each c member)
    | both first second =>
        intro c member
        rcases List.mem_append.mp member with member | member
        · exact each c (first.each c member)
        · rcases List.mem_cons.mp member with rfl | member
          · rfl
          · exact each c (second.each c member)
  exact (List.map_congr_left same).trans (List.map_id inside)

/-- From the first opening bracket to the last closing one is what stands between two
brackets with nothing behind them. -/
theorem insideParentheses?_eq (noOpening : ∀ c ∈ front, c ≠ '(') :
    insideParentheses? (front ++ '(' :: (inside ++ [')'])) = some inside := by
  have dropped : (front ++ '(' :: (inside ++ [')'])).dropWhile (· ≠ '(') =
      '(' :: (inside ++ [')']) :=
    Text.dropWhile_span (by simpa using noOpening) (by simp)
  have backwards : (inside ++ [')']).reverse.dropWhile (· ≠ ')') = ')' :: inside.reverse := by
    simp
  rw [insideParentheses?, dropped]
  simp only [backwards, List.reverse_reverse]

theorem parameters_eq (noOpening : ∀ c ∈ front, c ≠ '(')
    (isInside : Parameters inside precision scale) :
    (parameters (front ++ '(' :: (inside ++ [')']))).1.map UInt32.toNat = within32 precision ∧
      (parameters (front ++ '(' :: (inside ++ [')']))).2.map UInt32.toNat =
        scale.bind within32 := by
  rw [parameters, insideParentheses?_eq noOpening]
  cases isInside with
  | precision first =>
      have taken : inside.takeWhile (· ≠ ',') = inside := by
        simpa using first.no_comma
      have dropped : inside.dropWhile (· ≠ ',') = [] := by
        simpa using first.no_comma
      simp only [taken, dropped]
      exact ⟨first.read, rfl⟩
  | @both text other precision scale first second =>
      have taken : (text ++ ',' :: other).takeWhile (· ≠ ',') = text :=
        Text.takeWhile_span (by simpa using first.no_comma) (by simp)
      have dropped : (text ++ ',' :: other).dropWhile (· ≠ ',') = ',' :: other :=
        Text.dropWhile_span (by simpa using first.no_comma) (by simp)
      have rest : other.takeWhile (· ≠ ',') = other := by
        simpa using second.no_comma
      simp only [taken, dropped, rest]
      exact ⟨first.read, second.read⟩

end Brackets

theorem trimBlanks_normalChars (wireType : String) :
    trimBlanks (normalChars wireType) = normalChars wireType := by
  rw [normalChars, trimBlanks_map isBlank_toLower, trimBlanks_trimBlanks]

theorem DecimalType.normalChars_eq {precision : Nat} {scale : Option Nat} {wireType : String}
    (isDecimal : DecimalType precision scale wireType.toList) :
    ∃ gap inside, AllBlank gap ∧ Parameters inside precision scale ∧
      normalChars wireType = "decimal".toList ++ (gap ++ '(' :: (inside ++ [')'])) := by
  rw [normalChars]
  generalize wireType.toList = text at isDecimal
  obtain ⟨blankLeft, isWord, blankGap, isInside, blankRight⟩ := isDecimal
  rename_i left word gap inside right
  have bare : Bare (word ++ (gap ++ '(' :: (inside ++ [')']))) := by
    constructor
    · intro c isFirst
      have lowered := congrArg List.head? isWord
      rw [List.head?_map] at lowered
      obtain ⟨d, isHead, isLower⟩ := Option.map_eq_some_iff.mp lowered
      rw [List.head?_append, isHead, Option.some_or, Option.mem_some_iff] at isFirst
      rw [← isFirst, ← isBlank_toLower, isLower]
      decide
    · intro c isLast
      have closes : word ++ (gap ++ '(' :: (inside ++ [')'])) =
          (word ++ (gap ++ '(' :: inside)) ++ [')'] := by simp
      rw [closes, List.getLast?_concat, Option.mem_some_iff] at isLast
      rw [← isLast]
      decide
  refine ⟨gap, inside, blankGap, isInside, ?_⟩
  rw [trimBlanks_append blankLeft blankRight, trimBlanks_of_bare bare, List.map_append, isWord,
    List.map_append, blankGap.map_toLower, List.map_cons, List.map_append, isInside.map_toLower]
  rfl

theorem ofWireType_decimal {precision : Nat} {scale : Option Nat} {wireType : String}
    (isDecimal : DecimalType precision scale wireType.toList) :
    ∃ first second : Option UInt32, ofWireType wireType = .decimal first second ∧
      first.map UInt32.toNat = within32 precision ∧
      second.map UInt32.toNat = scale.bind within32 := by
  obtain ⟨gap, inside, blank, isInside, isNormal⟩ := isDecimal.normalChars_eq
  have isBase : lowercase (base wireType) = "decimal" := by
    have ends : ∀ c ∈ (gap ++ '(' :: (inside ++ [')'])).head?, (!endsBase c) = false := by
      cases gap with
      | nil =>
          rintro c ⟨⟩
          rfl
      | cons d gap =>
          rintro c ⟨⟩
          simp [endsBase, blank d List.mem_cons_self]
    have stays : "decimal".toList.all (!endsBase ·) = true := by decide
    rw [← base_normalChars, baseChars, trimBlanks_normalChars, isNormal,
      Text.takeWhile_span (List.all_eq_true.mp stays) ends, String.ofList_toList]
  have noOpening : ∀ c ∈ "decimal".toList ++ gap, c ≠ '(' := by
    rintro c member rfl
    rcases List.mem_append.mp member with inWord | inGap
    · exact absurd inWord (by decide)
    · exact absurd (blank _ inGap) (by decide)
  rw [ofWireType_eq, isBase, isNormal, ← List.append_assoc]
  exact ⟨_, _, rfl, parameters_eq noOpening isInside⟩

end Family

/-! ## Columns -/

namespace Column

structure HasParameters (precision scale : Option UInt32) (column : Column) : Prop where
  ownPrecision : column.precision = precision
  ownScale : column.scale = scale
  ofCells : column.family = .decimal precision scale

variable {name wireType : String} {precision scale : Option UInt32}
  (isDecimal : Family.ofWireType wireType = .decimal precision scale)

include isDecimal

theorem ofType_eq : ofType name wireType = { name, wireType, precision, scale } := by
  rw [ofType, isDecimal]

theorem hasParameters_ofType : (ofType name wireType).HasParameters precision scale := by
  rw [ofType_eq isDecimal]
  refine ⟨rfl, rfl, ?_⟩
  simp only [family, isDecimal, Option.or_self]

theorem hasParameters_normalize {columns : List Column} {position : Nat}
    (isColumn : columns[position]? = some (ofType name wireType)) :
    ∃ result, (normalize columns)[position]? = some result ∧
      result.HasParameters precision scale := by
  obtain ⟨result, isResult, becomes⟩ :=
    (normalized_normalize columns).becomes position _ isColumn
  have given : (ofType name wireType).HasParameters precision scale :=
    hasParameters_ofType isDecimal
  have sameFamily := becomes.sameFamily.trans given.ofCells
  rw [ofType_eq isDecimal] at becomes
  refine ⟨result, isResult, ?_⟩
  by_cases nothing : precision = none ∧ scale = none
  · obtain ⟨samePrecision, sameScale⟩ := becomes.getsParameters nothing.1 nothing.2
    exact ⟨samePrecision.trans given.ownPrecision, sameScale.trans given.ownScale, sameFamily⟩
  · obtain ⟨samePrecision, sameScale⟩ := becomes.keepsParameters (not_and_or.mp nothing)
    exact ⟨samePrecision, sameScale, sameFamily⟩

end Column

/-! ## All wire types -/

structure ReadsWireTypes : Prop where
  blanks (left right : List Char) (wireType : String) : AllBlank left → AllBlank right →
    Family.ofWireType (String.ofList (left ++ wireType.toList ++ right)) =
      Family.ofWireType wireType
  letterCase (wireType other : String) : lowercase wireType = lowercase other →
    Family.ofWireType wireType = Family.ofWireType other
  base (left word rest : List Char) : AllBlank left → word ≠ [] →
    (∀ c ∈ word, Family.endsBase c = false) → (∀ c ∈ rest.head?, Family.endsBase c = true) →
    Family.base (String.ofList (left ++ word ++ rest)) = String.ofList word
  kind (wireType : String) :
    (Family.ofWireType wireType).kind = Family.ofBase (lowercase (Family.base wireType))
  /-- What stands behind the base does not matter to other families than these two. -/
  baseAlone (wireType : String) : lowercase (Family.base wireType) ≠ "decimal" →
    lowercase (Family.base wireType) ≠ "timestamp" →
    Family.ofWireType wireType = Family.ofBase (lowercase (Family.base wireType))
  unknown (wireType : String) :
    lowercase (Family.base wireType) ∉ Family.known.map Prod.fst →
    Family.ofWireType wireType = .text
  zone (wireType : String) : lowercase (Family.base wireType) = "timestamp" →
    (Family.SpeaksOfZone wireType → Family.ofWireType wireType = .zonedTimestamp) ∧
      (¬Family.SpeaksOfZone wireType → Family.ofWireType wireType = .timestamp)
  /-- A parameter for which 32 bits are not enough is none. -/
  parameters (wireType : String) (precision : Nat) (scale : Option Nat) :
    Family.DecimalType precision scale wireType.toList →
    ∃ first second : Option UInt32,
      Family.ofWireType wireType = .decimal first second ∧
      first.map UInt32.toNat = Family.within32 precision ∧
      second.map UInt32.toNat = scale.bind Family.within32 ∧
      ∀ name, (Column.ofType name wireType).HasParameters first second ∧
        ∀ (columns : List Column) (position : Nat),
          columns[position]? = some (Column.ofType name wireType) →
          ∃ result, (Column.normalize columns)[position]? = some result ∧
            result.HasParameters first second

/-- The base of a wire type decides on the family, a timestamp's phrase on the zone, and what
stands in a decimal's brackets on its parameters, also of columns of this type. -/
theorem readsWireTypes : ReadsWireTypes where
  blanks left right wireType blankLeft blankRight := by
    apply Family.ofWireType_congr
    rw [Family.normalChars, String.toList_ofList, trimBlanks_append blankLeft blankRight,
      ← Family.normalChars]
  letterCase wireType other same := by
    apply Family.ofWireType_congr
    rw [Family.normalChars_eq, Family.normalChars_eq, same]
  base _ _ _ := Family.base_eq
  kind wireType := by
    rw [Family.ofWireType_eq, Family.kind_complete, Family.kind_ofBase]
  baseAlone wireType noDecimal noTimestamp := by
    rw [Family.ofWireType_eq, Family.complete_ofBase noDecimal noTimestamp]
  unknown wireType isUnknown := by
    rw [Family.ofWireType_eq, Family.ofBase_of_unknown isUnknown]
    rfl
  zone _ := Family.ofWireType_timestamp
  parameters wireType precision scale isDecimal := by
    obtain ⟨first, second, isFamily, isPrecision, isScale⟩ := Family.ofWireType_decimal isDecimal
    exact ⟨first, second, isFamily, isPrecision, isScale, fun name =>
      ⟨Column.hasParameters_ofType isFamily, fun columns position isColumn =>
        Column.hasParameters_normalize isFamily isColumn⟩⟩

/-- A decimal with blanks where they may be and with a scale that does not fit. -/
def wideDecimal : String := "\tDecimal ( 38 ,4294967296)"

/-- The scale is no other number instead, also in the second of two columns of this type. -/
theorem readsWireTypes_wideDecimal :
    ∃ result, (Column.normalize [.ofType "a" wideDecimal, .ofType "a" wideDecimal])[1]? =
      some result ∧ result.HasParameters (some 38) none := by
  have nothing : AllBlank [] := nofun
  have space : AllBlank [' '] := List.forall_mem_singleton.mpr (by decide)
  have tab : AllBlank ['\t'] := List.forall_mem_singleton.mpr (by decide)
  have precision : Family.Parameter [' ', '3', '8', ' '] 38 :=
    @Family.Parameter.digits [' '] ['3', '8'] [' '] space
      (List.all_eq_true.mp (by decide)) (by decide) space
  have scale : Family.Parameter "4294967296".toList 4294967296 :=
    @Family.Parameter.digits [] "4294967296".toList [] nothing
      (List.all_eq_true.mp (by decide)) (by decide) nothing
  have isDecimal : Family.DecimalType 38 (some 4294967296) wideDecimal.toList :=
    @Family.DecimalType.written _ _ ['\t'] "Decimal".toList [' '] _ [] tab (by decide) space
      (.both precision scale) nothing
  obtain ⟨first, second, -, isPrecision, isScale, columns⟩ :=
    readsWireTypes.parameters _ _ _ isDecimal
  obtain ⟨value, rfl, isValue⟩ := Option.map_eq_some_iff.mp isPrecision
  obtain rfl : value = 38 := UInt32.toNat_inj.mp isValue
  obtain rfl : second = none := Option.map_eq_none_iff.mp isScale
  exact (columns "a").2 [.ofType "a" wideDecimal, .ofType "a" wideDecimal] 1 rfl

end RemoteQuery
