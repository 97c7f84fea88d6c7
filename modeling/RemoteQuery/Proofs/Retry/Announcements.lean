import Mathlib.Data.List.TakeWhile
import RemoteQuery.Retry.MissingObject

/-! # Announcements of missing objects

A message announces a missing object in a fixed form that may stand anywhere in it, and more
than once. The reader takes each piece of the form as far as it goes; as no piece can begin the
way the one in front of it goes on, there is no other way to read an announcement.
-/

namespace RemoteQuery.MissingObject

open Text (after? after?_eq_some_iff dropBlanks dropWhile_span isBlank isWordCharacter
  takeWhile_span)

/-! ## The form -/

inductive Keyword : ObjectKind → List Char → Prop
  | catalog : Keyword .catalog "Catalog".toList
  | dataSource {between : List Char} {initial : Char}
      (blank : ∀ c ∈ between, isBlank c = true) (either : initial = 'S' ∨ initial = 's') :
      Keyword .catalog ("Data".toList ++ between ++ initial :: "ource".toList)
  | database : Keyword .database "Database".toList
  | nameSpace : Keyword .database "Namespace".toList
  | schema : Keyword .database "Schema".toList
  | table : Keyword .table "Table".toList

def Blanks (text : List Char) : Prop :=
  text ≠ [] ∧ ∀ c ∈ text, isBlank c = true

def OptionalQuote (text : List Char) : Prop :=
  text = [] ∨ text = ['\'']

def Unbroken (text : List Char) : Prop :=
  ∀ c ∈ text, isBlank c = false ∧ c ≠ '\''

/-- A text that announces a missing object, from the keyword to the word `found`. -/
inductive Announcement (kind : ObjectKind) (name : List Char) : List Char → Prop
  | pieces {keyword first opening closing second third : List Char}
      (isKeyword : Keyword kind keyword) (isFirst : Blanks first)
      (isOpening : OptionalQuote opening) (something : name ≠ []) (unbroken : Unbroken name)
      (isClosing : OptionalQuote closing) (isSecond : Blanks second) (isThird : Blanks third) :
      Announcement kind name (keyword ++ first ++ opening ++ name ++ closing ++ second ++
        "not".toList ++ third ++ "found".toList)

/-! ## Reading the pieces -/

def Solid (text : List Char) : Prop :=
  ∀ c ∈ text.head?, isBlank c = false

theorem dropBlanks_append {blanks rest : List Char} (blank : ∀ c ∈ blanks, isBlank c = true)
    (solid : Solid rest) : dropBlanks (blanks ++ rest) = rest :=
  dropWhile_span blank solid

theorem solid_dropBlanks (text : List Char) : Solid (dropBlanks text) := by
  intro c isHead
  have stopped := List.head?_dropWhile_not isBlank text
  rw [dropBlanks] at isHead
  rw [Option.mem_def.mp isHead] at stopped
  simpa using stopped

theorem exists_blanks (text : List Char) :
    ∃ blanks, (∀ c ∈ blanks, isBlank c = true) ∧ text = blanks ++ dropBlanks text :=
  ⟨text.takeWhile isBlank, fun _ => List.mem_takeWhile_imp, List.takeWhile_append_dropWhile.symm⟩

theorem afterBlanks?_eq_some_iff {text rest : List Char} :
    afterBlanks? text = some rest ↔
      ∃ blanks, Blanks blanks ∧ Solid rest ∧ text = blanks ++ rest := by
  cases text with
  | nil =>
      constructor
      · nofun
      · rintro ⟨blanks, ⟨something, -⟩, -, isText⟩
        exact absurd (List.append_eq_nil_iff.mp isText.symm).1 something
  | cons c text =>
      by_cases blank : isBlank c = true
      · rw [afterBlanks?, if_pos blank, Option.some.injEq]
        constructor
        · rintro rfl
          obtain ⟨blanks, allBlank, isText⟩ := exists_blanks text
          exact ⟨c :: blanks, ⟨nofun, List.forall_mem_cons.mpr ⟨blank, allBlank⟩⟩,
            solid_dropBlanks text, congrArg (c :: ·) isText⟩
        · rintro ⟨_ | ⟨d, blanks⟩, ⟨something, allBlank⟩, solid, isText⟩
          · contradiction
          · cases isText
            exact dropBlanks_append (fun d isMember => allBlank d (.tail _ isMember)) solid
      · rw [afterBlanks?, if_neg blank]
        constructor
        · nofun
        · rintro ⟨_ | ⟨d, blanks⟩, ⟨something, allBlank⟩, solid, isText⟩
          · contradiction
          · cases isText
            exact absurd (allBlank _ (.head _)) blank

theorem exists_quote (text : List Char) :
    ∃ quote, OptionalQuote quote ∧ text = quote ++ dropQuote text := by
  unfold dropQuote
  split
  · exact ⟨_, .inr rfl, rfl⟩
  · exact ⟨_, .inl rfl, rfl⟩

theorem dropQuote_append {quote rest : List Char} (isQuote : OptionalQuote quote)
    (unquoted : rest.head? ≠ some '\'') : dropQuote (quote ++ rest) = rest := by
  rcases isQuote with rfl | rfl
  · rw [List.nil_append]
    unfold dropQuote
    split
    · contradiction
    · rfl
  · rfl

theorem afterDataSource?_eq_some_iff {text rest : List Char} :
    afterDataSource? text = some rest ↔ ∃ between initial,
      (∀ c ∈ between, isBlank c = true) ∧ (initial = 'S' ∨ initial = 's') ∧
      text = "Data".toList ++ between ++ initial :: "ource".toList ++ rest := by
  constructor
  · intro found
    obtain ⟨behind, isData, found⟩ := Option.bind_eq_some_iff.mp found
    obtain ⟨between, blank, isBehind⟩ := exists_blanks behind
    rw [after?_eq_some_iff.mp isData, isBehind]
    rcases Option.or_eq_some_iff.mp found with isSource | ⟨-, isSource⟩
    · rw [after?_eq_some_iff.mp isSource]
      exact ⟨between, 'S', blank, .inl rfl, by simp⟩
    · rw [after?_eq_some_iff.mp isSource]
      exact ⟨between, 's', blank, .inr rfl, by simp⟩
  · rintro ⟨between, initial, blank, either, rfl⟩
    have solid : Solid (initial :: "ource".toList ++ rest) := by
      rintro _ ⟨⟩
      rcases either with rfl | rfl <;> decide
    rw [afterDataSource?, List.append_assoc, List.append_assoc, after?_eq_some_iff.mpr rfl]
    simp only [Option.bind_eq_bind, Option.bind_some, dropBlanks_append blank solid]
    rcases either with rfl | rfl
    · rfl
    · rfl

theorem afterKeyword?_eq_some_iff {kind : ObjectKind} {text rest : List Char} :
    afterKeyword? kind text = some rest ↔
      ∃ keyword, Keyword kind keyword ∧ text = keyword ++ rest := by
  constructor
  · intro found
    cases kind with
    | catalog =>
        rcases Option.or_eq_some_iff.mp found with isCatalog | ⟨-, isDataSource⟩
        · exact ⟨_, .catalog, after?_eq_some_iff.mp isCatalog⟩
        · obtain ⟨between, initial, blank, either, isText⟩ :=
            afterDataSource?_eq_some_iff.mp isDataSource
          exact ⟨_, .dataSource blank either, isText⟩
    | database =>
        rcases Option.or_eq_some_iff.mp found with isDatabase | ⟨-, found⟩
        · exact ⟨_, .database, after?_eq_some_iff.mp isDatabase⟩
        · rcases Option.or_eq_some_iff.mp found with isNamespace | ⟨-, isSchema⟩
          · exact ⟨_, .nameSpace, after?_eq_some_iff.mp isNamespace⟩
          · exact ⟨_, .schema, after?_eq_some_iff.mp isSchema⟩
    | table => exact ⟨_, .table, after?_eq_some_iff.mp found⟩
  · rintro ⟨_, isKeyword, rfl⟩
    cases isKeyword with
    | @dataSource between initial blank either =>
        have found : afterDataSource?
            ("Data".toList ++ between ++ initial :: "ource".toList ++ rest) = some rest :=
          afterDataSource?_eq_some_iff.mpr ⟨between, initial, blank, either, rfl⟩
        rw [afterKeyword?, found]
        rfl
    | _ => rfl

theorem saysNotFound_iff {text : List Char} :
    saysNotFound text = true ↔ ∃ second third behind, Blanks second ∧ Blanks third ∧
      text = second ++ ("not".toList ++ (third ++ ("found".toList ++ behind))) := by
  rw [saysNotFound, Option.isSome_iff_exists]
  constructor
  · rintro ⟨behind, found⟩
    obtain ⟨atFound, found, isFound⟩ := Option.bind_eq_some_iff.mp found
    obtain ⟨afterNot, found, isThird⟩ := Option.bind_eq_some_iff.mp found
    obtain ⟨atNot, isSecond, isNot⟩ := Option.bind_eq_some_iff.mp found
    obtain ⟨second, secondBlanks, -, rfl⟩ := afterBlanks?_eq_some_iff.mp isSecond
    obtain ⟨third, thirdBlanks, -, rfl⟩ := afterBlanks?_eq_some_iff.mp isThird
    rw [after?_eq_some_iff.mp isNot, after?_eq_some_iff.mp isFound]
    exact ⟨second, third, behind, secondBlanks, thirdBlanks, rfl⟩
  · rintro ⟨second, third, behind, secondBlanks, thirdBlanks, rfl⟩
    have solidNot : Solid ("not".toList ++ (third ++ ("found".toList ++ behind))) := by
      rintro _ ⟨⟩
      decide
    have solidFound : Solid ("found".toList ++ behind) := by
      rintro _ ⟨⟩
      decide
    refine ⟨behind, ?_⟩
    rw [afterBlanks?_eq_some_iff.mpr ⟨second, secondBlanks, solidNot, rfl⟩, Option.bind_some,
      after?_eq_some_iff.mpr rfl, Option.bind_some,
      afterBlanks?_eq_some_iff.mpr ⟨third, thirdBlanks, solidFound, rfl⟩, Option.bind_some,
      after?_eq_some_iff.mpr rfl]

theorem isNameCharacter_iff {c : Char} :
    isNameCharacter c = true ↔ isBlank c = false ∧ c ≠ '\'' := by
  simp [isNameCharacter]

theorem Blanks.exists_head {blanks : List Char} (isBlanks : Blanks blanks) (rest : List Char) :
    ∃ c, (blanks ++ rest).head? = some c ∧ isBlank c = true := by
  obtain ⟨something, blank⟩ := isBlanks
  cases blanks with
  | nil => contradiction
  | cons c blanks => exact ⟨c, rfl, blank c (.head _)⟩

theorem Blanks.head_ne_quote {blanks : List Char} (isBlanks : Blanks blanks) (rest : List Char) :
    (blanks ++ rest).head? ≠ some '\'' := by
  obtain ⟨c, isHead, blank⟩ := isBlanks.exists_head rest
  rw [isHead]
  rintro ⟨⟩
  exact absurd blank (by decide)

theorem Blanks.ends_name {blanks closing : List Char} (isBlanks : Blanks blanks)
    (isClosing : OptionalQuote closing) (rest : List Char) :
    ∀ c ∈ (closing ++ (blanks ++ rest)).head?, isNameCharacter c = false := by
  rcases isClosing with rfl | rfl
  · obtain ⟨c, isHead, blank⟩ := isBlanks.exists_head rest
    rw [List.nil_append, isHead]
    rintro _ ⟨⟩
    simp [isNameCharacter, blank]
  · rintro _ ⟨⟩
    decide

theorem Unbroken.all {name : List Char} (unbroken : Unbroken name) :
    ∀ c ∈ name, isNameCharacter c = true :=
  fun c isMember => isNameCharacter_iff.mpr (unbroken c isMember)

theorem solid_opening {opening name : List Char} (isOpening : OptionalQuote opening)
    (something : name ≠ []) (unbroken : Unbroken name) (rest : List Char) :
    Solid (opening ++ (name ++ rest)) := by
  rcases isOpening with rfl | rfl
  · cases name with
    | nil => contradiction
    | cons c name =>
        rintro _ ⟨⟩
        exact (unbroken c (.head _)).1
  · rintro _ ⟨⟩
    decide

theorem head_name_ne_quote {name : List Char} (something : name ≠ []) (unbroken : Unbroken name)
    (rest : List Char) : (name ++ rest).head? ≠ some '\'' := by
  cases name with
  | nil => contradiction
  | cons c name =>
      rintro ⟨⟩
      exact (unbroken _ (.head _)).2 rfl

/-! ## Announcements -/

theorem exists_announcement {kind : ObjectKind} {text : List Char} {name : String}
    (found : announced? kind text = some name) :
    ∃ announcement behind,
      Announcement kind name.toList announcement ∧ text = announcement ++ behind := by
  obtain ⟨afterKeyword, keywordFound, found₁⟩ := Option.bind_eq_some_iff.mp found
  obtain ⟨afterFirst, firstFound, found₂⟩ := Option.bind_eq_some_iff.mp found₁
  obtain ⟨⟨something, notFound⟩, isName⟩ := Option.ite_none_right_eq_some.mp found₂
  obtain ⟨keyword, isKeyword, rfl⟩ := afterKeyword?_eq_some_iff.mp keywordFound
  obtain ⟨first, isFirst, -, rfl⟩ := afterBlanks?_eq_some_iff.mp firstFound
  obtain ⟨opening, isOpening, isAfterFirst⟩ := exists_quote afterFirst
  obtain ⟨closing, isClosing, isAfterName⟩ :=
    exists_quote ((dropQuote afterFirst).dropWhile isNameCharacter)
  obtain ⟨second, third, behind, isSecond, isThird, isAfterClosing⟩ :=
    saysNotFound_iff.mp notFound
  obtain rfl := Option.some.inj isName
  have unbroken : Unbroken ((dropQuote afterFirst).takeWhile isNameCharacter) :=
    fun c isMember => isNameCharacter_iff.mp (List.mem_takeWhile_imp isMember)
  refine ⟨_, behind, .pieces isKeyword isFirst isOpening (by simpa using something)
    (by simpa using unbroken) isClosing isSecond isThird, ?_⟩
  -- Each piece was taken off the front of what the one before it had left.
  have isText : afterFirst = opening ++ ((dropQuote afterFirst).takeWhile isNameCharacter ++
      (closing ++ (second ++ ("not".toList ++ (third ++ ("found".toList ++ behind)))))) := by
    rw [← isAfterClosing, ← isAfterName, List.takeWhile_append_dropWhile, ← isAfterFirst]
  simp only [String.toList_ofList, List.append_assoc]
  exact congrArg (fun rest => keyword ++ (first ++ rest)) isText

theorem announced?_of_announcement {kind : ObjectKind} {announcement : List Char}
    {name : String} (isAnnouncement : Announcement kind name.toList announcement)
    (behind : List Char) : announced? kind (announcement ++ behind) = some name := by
  obtain ⟨isKeyword, isFirst, isOpening, something, unbroken, isClosing, isSecond, isThird⟩ :=
    isAnnouncement
  rename_i keyword first opening closing second third
  have ends := isSecond.ends_name isClosing
    ("not".toList ++ (third ++ ("found".toList ++ behind)))
  simp only [List.append_assoc]
  rw [announced?, afterKeyword?_eq_some_iff.mpr ⟨keyword, isKeyword, rfl⟩]
  simp only [Option.bind_eq_bind, Option.bind_some]
  rw [afterBlanks?_eq_some_iff.mpr
    ⟨first, isFirst, solid_opening isOpening something unbroken _, rfl⟩]
  simp only [Option.bind_some]
  rw [dropQuote_append isOpening (head_name_ne_quote something unbroken _),
    takeWhile_span unbroken.all ends, dropWhile_span unbroken.all ends,
    dropQuote_append isClosing (isSecond.head_ne_quote _),
    if_pos ⟨something, saysNotFound_iff.mpr ⟨second, third, behind, isSecond, isThird, rfl⟩⟩,
    String.ofList_toList]

/-! ## Places in a message -/

def WordBoundary (before behind : List Char) : Prop :=
  before.getLast?.any isWordCharacter ≠ behind.head?.any isWordCharacter

def Occurs (kind : ObjectKind) (message : String) (before : List Char) (name : String) : Prop :=
  ∃ announcement behind, Announcement kind name.toList announcement ∧
    WordBoundary before (announcement ++ behind) ∧
    message.toList = before ++ (announcement ++ behind)

def Leftmost (kind : ObjectKind) (message name : String) : Prop :=
  ∃ before, Occurs kind message before name ∧
    ∀ earlier other, Occurs kind message earlier other → before.length ≤ earlier.length

def Absent (kind : ObjectKind) (message : String) : Prop :=
  ∀ before name, ¬ Occurs kind message before name

theorem Keyword.begins_with_word {kind : ObjectKind} {keyword : List Char}
    (isKeyword : Keyword kind keyword) :
    ∃ c rest, keyword = c :: rest ∧ isWordCharacter c = true := by
  cases isKeyword with
  | catalog => exact ⟨'C', _, rfl, by decide +kernel⟩
  | dataSource => exact ⟨'D', _, rfl, by decide +kernel⟩
  | database => exact ⟨'D', _, rfl, by decide +kernel⟩
  | nameSpace => exact ⟨'N', _, rfl, by decide +kernel⟩
  | schema => exact ⟨'S', _, rfl, by decide +kernel⟩
  | table => exact ⟨'T', _, rfl, by decide +kernel⟩

theorem Announcement.wordBoundary_iff {kind : ObjectKind} {name text : List Char}
    (isAnnouncement : Announcement kind name text) (before behind : List Char) :
    WordBoundary before (text ++ behind) ↔ before.getLast?.any isWordCharacter = false := by
  obtain ⟨isKeyword⟩ := isAnnouncement
  obtain ⟨c, rest, rfl, isWord⟩ := isKeyword.begins_with_word
  simp [WordBoundary, isWord]

/-- The search is inside a word behind the part of a text that it has gone through. -/
def inside (insideWord : Bool) (before : List Char) : Bool :=
  (before.getLast?.map isWordCharacter).getD insideWord

@[simp] theorem inside_cons (insideWord : Bool) (c : Char) (before : List Char) :
    inside insideWord (c :: before) = inside (isWordCharacter c) before := by
  rw [inside, inside, List.getLast?_cons]
  cases before.getLast? <;> rfl

/-- An announcement that the search comes by. -/
def Passes (kind : ObjectKind) (insideWord : Bool) (text before : List Char) (name : String) :
    Prop :=
  ∃ rest, text = before ++ rest ∧ inside insideWord before = false ∧
    announced? kind rest = some name

theorem occurs_iff_passes {kind : ObjectKind} {message name : String} {before : List Char} :
    Occurs kind message before name ↔ Passes kind false message.toList before name := by
  have inside_false : inside false before = before.getLast?.any isWordCharacter := by
    cases isLast : before.getLast? <;> simp [inside, isLast]
  rw [Occurs, Passes, inside_false]
  constructor
  · rintro ⟨announcement, behind, isAnnouncement, boundary, isText⟩
    exact ⟨announcement ++ behind, isText, (isAnnouncement.wordBoundary_iff _ _).mp boundary,
      announced?_of_announcement isAnnouncement behind⟩
  · rintro ⟨rest, isText, outside, found⟩
    obtain ⟨announcement, behind, isAnnouncement, rfl⟩ := exists_announcement found
    exact ⟨announcement, behind, isAnnouncement,
      (isAnnouncement.wordBoundary_iff _ _).mpr outside, isText⟩

section Search

variable {kind : ObjectKind} {insideWord : Bool} {text before : List Char} {name : String}
  {c : Char}

theorem firstFrom?_cons :
    firstFrom? kind insideWord (c :: text) =
      (if insideWord then none else announced? kind (c :: text)).or
        (firstFrom? kind (isWordCharacter c) text) := by
  rw [firstFrom?]
  cases (if insideWord then none else announced? kind (c :: text)) <;> rfl

theorem passes_nil_iff :
    Passes kind insideWord text [] name ↔
      (if insideWord then none else announced? kind text) = some name := by
  cases insideWord <;> simp [Passes, inside]

theorem passes_cons_iff {d : Char} :
    Passes kind insideWord (c :: text) (d :: before) name ↔
      d = c ∧ Passes kind (isWordCharacter c) text before name := by
  constructor
  · rintro ⟨rest, isText, outside, found⟩
    cases isText
    exact ⟨rfl, rest, rfl, by simpa using outside, found⟩
  · rintro ⟨rfl, rest, rfl, outside, found⟩
    exact ⟨rest, rfl, by simpa using outside, found⟩

theorem not_passes_end : ¬ Passes kind insideWord [] before name := by
  rintro ⟨rest, isText, -, found⟩
  obtain ⟨rfl, rfl⟩ := List.append_eq_nil_iff.mp isText.symm
  cases kind <;> contradiction

theorem firstFrom?_eq_some_iff :
    firstFrom? kind insideWord text = some name ↔ ∃ before,
      Passes kind insideWord text before name ∧ ∀ earlier other,
        Passes kind insideWord text earlier other → before.length ≤ earlier.length := by
  -- Whether a word has begun is all that the rest of the text has to know of the front.
  induction text generalizing insideWord with
  | nil =>
      constructor
      · nofun
      · rintro ⟨before, passes, -⟩
        exact absurd passes not_passes_end
  | cons c text induction =>
      rw [firstFrom?_cons, Option.or_eq_some_iff, ← passes_nil_iff]
      constructor
      · rintro (here | ⟨notHere, later⟩)
        · exact ⟨[], here, fun earlier other _ => Nat.zero_le _⟩
        · obtain ⟨before, passes, least⟩ := induction.mp later
          refine ⟨c :: before, passes_cons_iff.mpr ⟨rfl, passes⟩, ?_⟩
          rintro (_ | ⟨d, earlier⟩) other passesEarlier
          · rw [passes_nil_iff, notHere] at passesEarlier
            contradiction
          · exact Nat.succ_le_succ (least earlier other (passes_cons_iff.mp passesEarlier).2)
      · rintro ⟨_ | ⟨d, before⟩, passes, least⟩
        · exact .inl passes
        · obtain ⟨rfl, passes⟩ := passes_cons_iff.mp passes
          right
          constructor
          · rw [Option.eq_none_iff_forall_ne_some]
            intro other here
            exact absurd (least [] other (passes_nil_iff.mpr here)) (Nat.not_succ_le_zero _)
          · refine induction.mpr ⟨before, passes, fun earlier other passesEarlier => ?_⟩
            exact Nat.le_of_succ_le_succ
              (least (d :: earlier) other (passes_cons_iff.mpr ⟨rfl, passesEarlier⟩))

theorem firstFrom?_eq_none_iff :
    firstFrom? kind insideWord text = none ↔
      ∀ before name, ¬ Passes kind insideWord text before name := by
  induction text generalizing insideWord with
  | nil => exact ⟨fun _ before name => not_passes_end, fun _ => rfl⟩
  | cons c text induction =>
      rw [firstFrom?_cons, Option.or_eq_none_iff, induction]
      constructor
      · rintro ⟨notHere, notLater⟩ (_ | ⟨d, before⟩) name passes
        · rw [passes_nil_iff, notHere] at passes
          contradiction
        · exact notLater before name (passes_cons_iff.mp passes).2
      · intro notAtAll
        constructor
        · rw [Option.eq_none_iff_forall_ne_some]
          intro name here
          exact notAtAll [] name (passes_nil_iff.mpr here)
        · intro before name passes
          exact notAtAll (c :: before) name (passes_cons_iff.mpr ⟨rfl, passes⟩)

end Search

section Message

variable {kind : ObjectKind} {message : String}

theorem first?_eq_some_iff {object : MissingObject} :
    first? kind message = some object ↔
      ∃ name, object = ⟨kind, name⟩ ∧ Leftmost kind message name := by
  simp only [first?, Leftmost, occurs_iff_passes, ← firstFrom?_eq_some_iff, Option.map_eq_some_iff]
  constructor
  · rintro ⟨name, found, rfl⟩
    exact ⟨name, rfl, found⟩
  · rintro ⟨name, rfl, found⟩
    exact ⟨name, found, rfl⟩

theorem first?_eq_none_iff : first? kind message = none ↔ Absent kind message := by
  simp only [first?, Absent, occurs_iff_passes, ← firstFrom?_eq_none_iff, Option.map_eq_none_iff]

end Message

inductive Extracts (message : String) : Option MissingObject → Prop
  | catalog {name : String} (leftmost : Leftmost .catalog message name) :
      Extracts message (some ⟨.catalog, name⟩)
  | database {name : String} (noCatalog : Absent .catalog message)
      (leftmost : Leftmost .database message name) :
      Extracts message (some ⟨.database, name⟩)
  | table {name : String} (noCatalog : Absent .catalog message)
      (noDatabase : Absent .database message) (leftmost : Leftmost .table message name) :
      Extracts message (some ⟨.table, name⟩)
  | nothing (noCatalog : Absent .catalog message) (noDatabase : Absent .database message)
      (noTable : Absent .table message) : Extracts message none

theorem extracts_ofMessage? (message : String) : Extracts message (ofMessage? message) := by
  rw [ofMessage?]
  cases isCatalog : first? .catalog message with
  | some object =>
      obtain ⟨name, rfl, leftmost⟩ := first?_eq_some_iff.mp isCatalog
      exact .catalog leftmost
  | none =>
      have noCatalog := first?_eq_none_iff.mp isCatalog
      cases isDatabase : first? .database message with
      | some object =>
          obtain ⟨name, rfl, leftmost⟩ := first?_eq_some_iff.mp isDatabase
          exact .database noCatalog leftmost
      | none =>
          have noDatabase := first?_eq_none_iff.mp isDatabase
          cases isTable : first? .table message with
          | some object =>
              obtain ⟨name, rfl, leftmost⟩ := first?_eq_some_iff.mp isTable
              exact .table noCatalog noDatabase leftmost
          | none => exact .nothing noCatalog noDatabase (first?_eq_none_iff.mp isTable)

theorem ofMessage?_eq_iff {message : String} {object? : Option MissingObject} :
    ofMessage? message = object? ↔ Extracts message object? := by
  constructor
  · rintro rfl
    exact extracts_ofMessage? message
  · intro extracts
    rw [ofMessage?]
    cases extracts with
    | catalog leftmost => rw [first?_eq_some_iff.mpr ⟨_, rfl, leftmost⟩, Option.some_or]
    | database noCatalog leftmost =>
        rw [first?_eq_none_iff.mpr noCatalog, first?_eq_some_iff.mpr ⟨_, rfl, leftmost⟩,
          Option.none_or, Option.some_or]
    | table noCatalog noDatabase leftmost =>
        rw [first?_eq_none_iff.mpr noCatalog, first?_eq_none_iff.mpr noDatabase,
          first?_eq_some_iff.mpr ⟨_, rfl, leftmost⟩, Option.none_or, Option.none_or]
    | nothing noCatalog noDatabase noTable =>
        rw [first?_eq_none_iff.mpr noCatalog, first?_eq_none_iff.mpr noDatabase,
          first?_eq_none_iff.mpr noTable, Option.none_or, Option.none_or]

/-! ## Retries -/

/-- A message about this object says that the query itself will not do. -/
def Hopeless (message database catalog : String) : Prop :=
  Extracts message (some ⟨.catalog, catalog⟩) ∨ Extracts message (some ⟨.database, database⟩) ∨
    Extracts message (some ⟨.table, database⟩) ∨ Extracts message (some ⟨.table, catalog⟩)

theorem isRetryable_eq_false_iff {error : ServiceError} {database catalog : String} :
    error.isRetryable database catalog = false ↔
      error.kind = .programming ∨ Hopeless error.message database catalog := by
  obtain ⟨kind, message⟩ := error
  simp only [Hopeless, ← ofMessage?_eq_iff, ServiceError.isRetryable]
  cases kind with
  | programming => simp
  | operational =>
      match ofMessage? message with
      | none => simp
      | some ⟨.catalog, name⟩ => simp
      | some ⟨.database, name⟩ => simp
      | some ⟨.table, name⟩ => simp [or_iff_not_imp_left]

/-! ### Messages about one database -/

def databaseMessage (quote name : String) : String :=
  "Database " ++ quote ++ name ++ quote ++ " not found"

theorem Unbroken.countP_isBlank {text : List Char} (unbroken : Unbroken text) :
    text.countP isBlank = 0 := by
  rw [List.countP_eq_zero]
  intro c isMember
  simp [(unbroken c isMember).1]

theorem OptionalQuote.countP_isBlank {quote : List Char} (isQuote : OptionalQuote quote) :
    quote.countP isBlank = 0 := by
  rcases isQuote with rfl | rfl <;> decide

theorem Blanks.countP_pos {blanks : List Char} (isBlanks : Blanks blanks) :
    0 < blanks.countP isBlank := by
  obtain ⟨something, blank⟩ := isBlanks
  rw [List.countP_eq_length.mpr blank]
  exact List.length_pos_iff.mpr something

theorem blanks_space : Blanks [' '] :=
  ⟨List.cons_ne_nil _ _, List.forall_mem_singleton.mpr (by decide)⟩

theorem takeWhile_append_blanks {text blanks : List Char} (unbroken : text.countP isBlank = 0)
    (isBlanks : Blanks blanks) (rest : List Char) :
    (text ++ (blanks ++ rest)).takeWhile (!isBlank ·) = text := by
  have solid : ∀ c ∈ text, (!isBlank c) = true := by
    simpa [List.countP_eq_zero] using unbroken
  obtain ⟨c, isHead, blank⟩ := isBlanks.exists_head rest
  refine takeWhile_span solid ?_
  rw [isHead]
  rintro _ ⟨⟩
  simp [blank]

/-- An announcement has a blank behind its keyword and two more behind the name. The message has
no more than these three, so there is no other keyword in it than its own. -/
theorem absent_catalog_databaseMessage {quote name : String}
    (isQuote : OptionalQuote quote.toList) (unbroken : Unbroken name.toList) :
    Absent .catalog (databaseMessage quote name) := by
  rintro before other ⟨_, behind, ⟨isKeyword, isFirst, -, -, -, -, isSecond, isThird⟩, -, isText⟩
  rename_i keyword first opening closing second third
  have isWhole : "Database".toList ++ ([' '] ++ (quote.toList ++ (name.toList ++ (quote.toList ++
      " not found".toList)))) = (before ++ keyword) ++ (first ++ (opening ++ (other.toList ++
        (closing ++ (second ++ ("not".toList ++ (third ++ ("found".toList ++ behind)))))))) := by
    simpa [databaseMessage] using isText
  have blanks := congrArg (List.countP isBlank) isWhole
  simp only [List.countP_append, isQuote.countP_isBlank, unbroken.countP_isBlank] at blanks
  have three : "Database".toList.countP isBlank + [' '].countP isBlank +
      " not found".toList.countP isBlank = 3 := by decide
  have one := isFirst.countP_pos
  have another := isSecond.countP_pos
  have third := isThird.countP_pos
  have inFront : (before ++ keyword).countP isBlank = 0 := by
    rw [List.countP_append]
    omega
  have isKeywordEnd := congrArg (List.takeWhile (!isBlank ·)) isWhole
  rw [takeWhile_append_blanks (by decide) blanks_space,
    takeWhile_append_blanks inFront isFirst] at isKeywordEnd
  have isSuffix : keyword <:+ "Database".toList := ⟨before, isKeywordEnd.symm⟩
  cases isKeyword with
  | catalog => exact absurd isSuffix (by decide)
  | dataSource =>
      have notLonger := isSuffix.length_le
      have lengths : "Data".toList.length = 4 ∧ "ource".toList.length = 5 ∧
          "Database".toList.length = 8 := by decide
      rw [List.length_append, List.length_append, List.length_cons] at notLonger
      omega

theorem leftmost_databaseMessage {quote name : String} (isQuote : OptionalQuote quote.toList)
    (something : name ≠ "") (unbroken : Unbroken name.toList) :
    Leftmost .database (databaseMessage quote name) name := by
  have isAnnouncement : Announcement .database name.toList _ :=
    .pieces .database blanks_space isQuote (by simpa using something) unbroken isQuote
      blanks_space blanks_space
  refine ⟨[], ⟨_, [], isAnnouncement, ?_, ?_⟩, fun _ _ _ => Nat.zero_le _⟩
  · rw [isAnnouncement.wordBoundary_iff]
    rfl
  · simp [databaseMessage]

theorem ofMessage?_nameless {quote : String} (isQuote : OptionalQuote quote.toList) :
    ofMessage? (databaseMessage quote "") = none := by
  have isQuote : quote = "" ∨ quote = "'" :=
    isQuote.imp (@String.toList_injective _ "") (@String.toList_injective _ "'")
  rcases isQuote with rfl | rfl <;> decide +kernel

theorem isRetryable_databaseMessage {quote name : String} (isQuote : OptionalQuote quote.toList)
    (unbroken : Unbroken name.toList) (database catalog : String) :
    (ServiceError.operational (databaseMessage quote name)).isRetryable database catalog =
      decide (name = "" ∨ name ≠ database) := by
  by_cases empty : name = ""
  · subst empty
    simp only [ServiceError.isRetryable, ServiceError.operational, ofMessage?_nameless isQuote,
      true_or, decide_true]
  · have extracted : ofMessage? (databaseMessage quote name) = some ⟨.database, name⟩ :=
      ofMessage?_eq_iff.mpr (.database (absent_catalog_databaseMessage isQuote unbroken)
        (leftmost_databaseMessage isQuote empty unbroken))
    simp only [ServiceError.isRetryable, ServiceError.operational, extracted, empty, false_or,
      bne_eq, decide_not, beq_eq_decide]

/-- A message is about the first catalog that it announces, or else the first database, or else
the first table, and about nothing where it announces none. What a failed call says settles
whether it is made again; a name alone, in quotes or not, settles it for a missing database. -/
theorem announcements_decide :
    (∀ message object?, ofMessage? message = object? ↔ Extracts message object?) ∧
    (∀ (error : ServiceError) (database catalog : String),
      error.isRetryable database catalog = false ↔
        error.kind = .programming ∨ Hopeless error.message database catalog) ∧
    ∀ quote name database catalog : String, OptionalQuote quote.toList → Unbroken name.toList →
      (ServiceError.operational (databaseMessage quote name)).isRetryable database catalog =
        decide (name = "" ∨ name ≠ database) :=
  ⟨fun _ _ => ofMessage?_eq_iff, fun _ _ _ => isRetryable_eq_false_iff,
    fun _ _ database catalog isQuote unbroken =>
      isRetryable_databaseMessage isQuote unbroken database catalog⟩

/-- The database that a query names does not appear later. -/
theorem announcements_decide_sales :
    (ServiceError.operational "Database 'sales' not found").isRetryable "sales" "main" =
      false := by
  have isMessage : databaseMessage "'" "sales" = "Database 'sales' not found" := by decide +kernel
  have unbroken : Unbroken "sales".toList := fun c isMember =>
    isNameCharacter_iff.mp (List.all_eq_true.mp (by decide) c isMember)
  rw [← isMessage, announcements_decide.2.2 "'" "sales" "sales" "main" (.inr rfl) unbroken]
  decide

end RemoteQuery.MissingObject
