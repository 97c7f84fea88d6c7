import Mathlib.Data.List.Nodup
import Mathlib.Data.List.Perm.Subperm
import Mathlib.Order.Bounds.Basic
import RemoteQuery.Column.Basic
import RemoteQuery.Proofs.Number.Digits

/-! # Normalised columns

Columns are renamed until their names differ, and nothing else about them changes that a reader
of cells could see. A name that is given is neither a name of the columns to come nor one that
was given before, so the columns that are done never have to be looked at again.
-/

namespace RemoteQuery.Column

/-! ## Free suffixes -/

theorem suffixed_injective (name : String) : Function.Injective (suffixed name) := by
  intro left right same
  have texts := congrArg String.toList same
  simp only [suffixed, String.toList_append] at texts
  exact Number.text_injective (String.toList_injective (List.append_cancel_left texts))

def freeSuffixes (name : String) (taken : List String) : Set Nat :=
  {suffix | 1 ≤ suffix ∧ suffixed name suffix ∉ taken}

/-- There are more suffixes to try than names, so not all of them are taken. -/
theorem exists_free (name : String) (taken : List String) :
    ∃ suffix ∈ List.range' 1 (taken.length + 1), suffixed name suffix ∉ taken := by
  by_contra noneFree
  push Not at noneFree
  let tried := (List.range' 1 (taken.length + 1)).map (suffixed name)
  have distinct : tried.Nodup := List.Nodup.map (suffixed_injective name) List.nodup_range'
  have allTaken : tried ⊆ taken := by
    intro other isTried
    obtain ⟨suffix, isSuffix, rfl⟩ := List.mem_map.mp isTried
    exact noneFree suffix isSuffix
  have few := (List.subperm_of_subset distinct allTaken).length_le
  simp only [tried, List.length_map, List.length_range'] at few
  omega

theorem freshName_least (name : String) (taken : List String) :
    ∃ suffix, IsLeast (freeSuffixes name taken) suffix ∧
      freshName name taken = suffixed name suffix := by
  let isFree : Nat → Bool := fun suffix => !taken.contains (suffixed name suffix)
  obtain ⟨free, isTried, free_not_taken⟩ := exists_free name taken
  have succeeds : ((List.range' 1 (taken.length + 1)).find? isFree).isSome := by
    rw [List.find?_isSome]
    exact ⟨free, isTried, by simpa [isFree] using free_not_taken⟩
  obtain ⟨suffix, found⟩ := Option.isSome_iff_exists.mp succeeds
  obtain ⟨suffix_free, suffix_tried, least⟩ := List.find?_range'_eq_some.mp found
  have positive : 1 ≤ suffix := (List.mem_range'_1.mp suffix_tried).1
  refine ⟨suffix, ⟨⟨positive, by simpa [isFree] using suffix_free⟩, ?_⟩, ?_⟩
  · rintro other ⟨other_positive, other_free⟩
    by_contra smaller
    have taken_other := least other other_positive (by omega)
    simp [isFree, other_free] at taken_other
  · have first : (fun candidate => !taken.contains candidate) ∘ suffixed name = isFree := rfl
    simp only [freshName, List.find?_map, first, found, Option.map_some, Option.getD_some]

theorem freshName_not_mem (name : String) (taken : List String) :
    freshName name taken ∉ taken := by
  obtain ⟨suffix, least, isFresh⟩ := freshName_least name taken
  rw [isFresh]
  exact least.1.2

/-! ## Parameters -/

section Parameters

variable (column : Column)

@[simp] theorem withParameters_name : column.withParameters.name = column.name := by
  unfold withParameters
  split <;> rfl

@[simp] theorem withParameters_ordinal : column.withParameters.ordinal = column.ordinal := by
  unfold withParameters
  split <;> rfl

@[simp] theorem withParameters_wireType : column.withParameters.wireType = column.wireType := by
  unfold withParameters
  split <;> rfl

@[simp] theorem withParameters_nullable : column.withParameters.nullable = column.nullable := by
  unfold withParameters
  split <;> rfl

theorem family_congr {left right : Column} (sameWireType : left.wireType = right.wireType)
    (samePrecision : left.precision = right.precision) (sameScale : left.scale = right.scale) :
    left.family = right.family := by
  simp only [family, sameWireType, samePrecision, sameScale]

@[simp] theorem family_withParameters : column.withParameters.family = column.family := by
  unfold withParameters
  split
  · rename_i precision scale noPrecision noScale isDecimal
    simp [family, isDecimal, noPrecision, noScale]
  · rfl

theorem withParameters_of_some (some : column.precision ≠ none ∨ column.scale ≠ none) :
    column.withParameters = column := by
  unfold withParameters
  split
  · rename_i noPrecision noScale isDecimal
    rcases some with some | some
    · exact absurd noPrecision some
    · exact absurd noScale some
  · rfl

theorem withParameters_of_none (name : String) (noPrecision : column.precision = none)
    (noScale : column.scale = none) :
    column.withParameters.precision = (ofType name column.wireType).precision ∧
      column.withParameters.scale = (ofType name column.wireType).scale := by
  rw [withParameters, noPrecision, noScale, ofType]
  cases Family.ofWireType column.wireType <;> simp [noPrecision, noScale]

@[simp] theorem withParameters_withParameters :
    column.withParameters.withParameters = column.withParameters := by
  obtain ⟨name, wireType, ordinal, nullable, precision, scale⟩ := column
  cases isFamily : Family.ofWireType wireType with
  | decimal typePrecision typeScale =>
      cases precision <;> cases scale <;> simp only [withParameters, isFamily]
      cases typePrecision <;> cases typeScale <;> rfl
  | _ => cases precision <;> cases scale <;> simp only [withParameters, isFamily]

end Parameters

/-! ## One column -/

def renamed (ordinal : Nat) (earlier taken : List String) (column : Column) : Column :=
  let name := if earlier.contains column.name then freshName column.name taken else column.name
  { column with name, ordinal }

def placed (ordinal : Nat) (earlier taken : List String) (column : Column) : Column :=
  (column.renamed ordinal earlier taken).withParameters

section Placed

variable {ordinal : Nat} {earlier taken : List String} {column : Column}

theorem placed_name_of_first (isFirst : column.name ∉ earlier) :
    (placed ordinal earlier taken column).name = column.name := by
  simp [placed, renamed, isFirst]

theorem placed_name_of_later (isLater : column.name ∈ earlier) :
    (placed ordinal earlier taken column).name = freshName column.name taken := by
  simp [placed, renamed, isLater]

@[simp] theorem placed_ordinal : (placed ordinal earlier taken column).ordinal = ordinal := by
  simp [placed, renamed]

theorem placed_name_cases :
    (placed ordinal earlier taken column).name ∉ taken ∨
      column.name ∉ earlier ∧ (placed ordinal earlier taken column).name = column.name := by
  by_cases isLater : column.name ∈ earlier
  · left
    rw [placed_name_of_later isLater]
    exact freshName_not_mem column.name taken
  · exact .inr ⟨isLater, placed_name_of_first isLater⟩

theorem placed_eq_self (isFirst : column.name ∉ earlier)
    (complete : column.withParameters = column) :
    placed column.ordinal earlier taken column = column := by
  simpa [placed, renamed, isFirst] using complete

end Placed

theorem normalizeFrom_cons (ordinal : Nat) (earlier taken : List String) (column : Column)
    (rest : List Column) :
    normalizeFrom ordinal earlier taken (column :: rest) =
      placed ordinal earlier taken column ::
        normalizeFrom (ordinal + 1) (column.name :: earlier)
          ((placed ordinal earlier taken column).name :: taken) rest := by
  simp [normalizeFrom, placed, renamed]

/-! ## A column among others -/

def names (columns : List Column) : List String :=
  columns.map (·.name)

/-- What a column becomes among columns of the given names, behind those that were named
`before` and are named `earlier` now. -/
structure Becomes (all before earlier : List String) (column result : Column) : Prop where
  keepsName : column.name ∉ before → result.name = column.name
  getsSuffix : column.name ∈ before → ∃ suffix,
    IsLeast (freeSuffixes column.name (all ++ earlier)) suffix ∧
      result.name = suffixed column.name suffix
  sameWireType : result.wireType = column.wireType
  sameNullable : result.nullable = column.nullable
  sameFamily : result.family = column.family
  keepsParameters : column.precision ≠ none ∨ column.scale ≠ none →
    result.precision = column.precision ∧ result.scale = column.scale
  getsParameters : column.precision = none → column.scale = none →
    result.precision = (ofType column.name column.wireType).precision ∧
      result.scale = (ofType column.name column.wireType).scale

theorem becomes_placed (all before earlier : List String) (ordinal : Nat) (column : Column) :
    Becomes all before earlier column
      (placed ordinal before.reverse (earlier.reverse ++ all) column) where
  keepsName isFirst := placed_name_of_first (by simpa using isFirst)
  getsSuffix isLater := by
    rw [placed_name_of_later (by simpa using isLater)]
    have sameTaken : freeSuffixes column.name (earlier.reverse ++ all) =
        freeSuffixes column.name (all ++ earlier) := by
      ext suffix
      simp only [freeSuffixes, Set.mem_ofPred_eq, List.mem_append, List.mem_reverse, or_comm]
    rw [← sameTaken]
    exact freshName_least column.name _
  sameWireType := withParameters_wireType _
  sameNullable := withParameters_nullable _
  sameFamily := by
    rw [placed, family_withParameters]
    exact family_congr rfl rfl rfl
  keepsParameters some := by
    rw [placed, withParameters_of_some (renamed _ _ _ column) some]
    exact ⟨rfl, rfl⟩
  getsParameters := withParameters_of_none (renamed _ _ _ column) column.name

/-! ## All columns -/

/-- A name that is given was not taken, or it is one of the columns' own and nobody in front
of them has it. -/
theorem name_normalizeFrom {ordinal : Nat} {earlier taken : List String} {columns : List Column}
    (contained : names columns ⊆ taken) {name : String}
    (isGiven : name ∈ names (normalizeFrom ordinal earlier taken columns)) :
    name ∉ taken ∨ name ∈ names columns ∧ name ∉ earlier := by
  induction columns generalizing ordinal earlier taken with
  | nil => contradiction
  | cons column rest induction =>
      rw [normalizeFrom_cons, names, List.map_cons] at isGiven
      obtain ⟨own_taken, rest_taken⟩ := List.cons_subset.mp contained
      rcases List.mem_cons.mp isGiven with rfl | isLater
      · rcases @placed_name_cases ordinal earlier taken column with fresh | ⟨isFirst, own⟩
        · exact .inl fresh
        · rw [own]
          exact .inr ⟨.head _, isFirst⟩
      · have contained := List.subset_cons_of_subset
          (placed ordinal earlier taken column).name rest_taken
        rcases induction contained isLater with fresh | ⟨own, new⟩
        · exact .inl fun isTaken => fresh (.tail _ isTaken)
        · exact .inr ⟨.tail _ own, fun isEarlier => new (.tail _ isEarlier)⟩

theorem nodup_normalizeFrom (ordinal : Nat) (earlier : List String) {taken : List String}
    {columns : List Column} (contained : names columns ⊆ taken) :
    (names (normalizeFrom ordinal earlier taken columns)).Nodup := by
  induction columns generalizing ordinal earlier taken with
  | nil => exact .nil
  | cons column rest induction =>
      obtain ⟨own_taken, rest_taken⟩ := List.cons_subset.mp contained
      have contained := List.subset_cons_of_subset
        (placed ordinal earlier taken column).name rest_taken
      rw [normalizeFrom_cons, names, List.map_cons, List.nodup_cons]
      refine ⟨fun again => ?_, induction _ _ contained⟩
      rcases name_normalizeFrom contained again with fresh | ⟨own, new⟩
      · exact fresh (.head _)
      · rcases @placed_name_cases ordinal earlier taken column with fresh | ⟨-, same⟩
        · exact fresh (rest_taken own)
        · exact new (same ▸ .head _)

theorem map_ordinal_normalizeFrom (ordinal : Nat) (earlier taken : List String)
    (columns : List Column) :
    (normalizeFrom ordinal earlier taken columns).map (·.ordinal) =
      List.range' ordinal columns.length := by
  induction columns generalizing ordinal earlier taken with
  | nil => rfl
  | cons column rest induction =>
      rw [normalizeFrom_cons, List.map_cons, induction, placed_ordinal, List.length_cons,
        List.range'_succ]

theorem getElem?_normalizeFrom {ordinal position : Nat} {earlier taken : List String}
    {columns : List Column} {column : Column} (isColumn : columns[position]? = some column) :
    let normalized := normalizeFrom ordinal earlier taken columns
    normalized[position]? = some (placed (ordinal + position)
      ((names (columns.take position)).reverse ++ earlier)
      ((names (normalized.take position)).reverse ++ taken) column) := by
  induction columns generalizing ordinal position earlier taken with
  | nil => contradiction
  | cons first rest induction =>
      rw [normalizeFrom_cons]
      cases position with
      | zero =>
          cases isColumn
          rfl
      | succ position =>
          have placedLater := @induction (ordinal + 1) position (first.name :: earlier)
            ((placed ordinal earlier taken first).name :: taken) isColumn
          simp only [List.getElem?_cons_succ, List.take_succ_cons, names, List.map_cons,
            List.reverse_cons, List.append_assoc, List.singleton_append] at placedLater ⊢
          rw [placedLater, Nat.add_right_comm, Nat.add_assoc]

theorem withParameters_of_mem {ordinal : Nat} {earlier taken : List String}
    {columns : List Column} {column : Column}
    (isNormal : column ∈ normalizeFrom ordinal earlier taken columns) :
    column.withParameters = column := by
  induction columns generalizing ordinal earlier taken with
  | nil => contradiction
  | cons first rest induction =>
      rw [normalizeFrom_cons] at isNormal
      rcases List.mem_cons.mp isNormal with rfl | isLater
      · exact withParameters_withParameters _
      · exact induction isLater

theorem normalizeFrom_eq_self {ordinal : Nat} {earlier taken : List String} {columns : List Column}
    (distinct : (names columns).Nodup) (new : ∀ name ∈ names columns, name ∉ earlier)
    (ordinals : columns.map (·.ordinal) = List.range' ordinal columns.length)
    (complete : ∀ column ∈ columns, column.withParameters = column) :
    normalizeFrom ordinal earlier taken columns = columns := by
  induction columns generalizing ordinal earlier taken with
  | nil => rfl
  | cons column rest induction =>
      obtain ⟨unlike, distinct⟩ := List.nodup_cons.mp distinct
      rw [List.map_cons, List.length_cons, List.range'_succ, List.cons.injEq] at ordinals
      obtain ⟨rfl, ordinals⟩ := ordinals
      rw [normalizeFrom_cons, placed_eq_self (new _ (.head _)) (complete _ (.head _))]
      congr 1
      refine induction distinct ?_ ordinals fun other isOther => complete other (.tail _ isOther)
      intro name isName isEarlier
      rcases List.mem_cons.mp isEarlier with rfl | isEarlier
      · exact unlike isName
      · exact new name (.tail _ isName) isEarlier

/-- Columns are normalised one by one, each among all of them and behind those in front. -/
structure Normalized (columns normalized : List Column) : Prop where
  ordinals : normalized.map (·.ordinal) = List.range' 1 columns.length
  distinct : (names normalized).Nodup
  becomes (position : Nat) (column : Column) : columns[position]? = some column →
    ∃ result, normalized[position]? = some result ∧
      Becomes (names columns) (names (columns.take position)) (names (normalized.take position))
        column result

theorem normalized_normalize (columns : List Column) : Normalized columns (normalize columns) where
  ordinals := map_ordinal_normalizeFrom 1 [] (names columns) columns
  distinct := nodup_normalizeFrom 1 [] (List.Subset.refl _)
  becomes position column isColumn := by
    have isPlaced := @getElem?_normalizeFrom 1 position [] (names columns) _ _ isColumn
    rw [List.append_nil] at isPlaced
    exact ⟨_, isPlaced, becomes_placed _ _ _ _ column⟩

/-- Columns are renamed and counted so that nothing is left to be done, each for itself and
without a change to its cells. -/
theorem normalize_settles (columns : List Column) :
    Normalized columns (normalize columns) ∧
      normalize (normalize columns) = normalize columns := by
  have isNormalized := normalized_normalize columns
  have ordinals := isNormalized.ordinals
  have sameLength : (normalize columns).length = columns.length := by
    simpa using congrArg List.length ordinals
  rw [← sameLength] at ordinals
  exact ⟨isNormalized, normalizeFrom_eq_self isNormalized.distinct (fun _ _ => List.not_mem_nil)
    ordinals fun _ => withParameters_of_mem⟩

/-- Three columns of which the last has the first name that the second could get. -/
def nearlyTaken : List Column :=
  [{ name := "a", wireType := "date" }, { name := "a", wireType := "date" },
    { name := "a_1", wireType := "date" }]

/-- The second column gets the name after that. -/
theorem normalize_settles_nearlyTaken :
    (normalize nearlyTaken)[1]?.map (·.name) = some "a_2" := by
  obtain ⟨normalized, -⟩ := normalize_settles nearlyTaken
  obtain ⟨result, isResult, becomes⟩ := normalized.becomes 1 _ rfl
  obtain ⟨suffix, least, isName⟩ := becomes.getsSuffix (by decide)
  have second : IsLeast (freeSuffixes "a" (names nearlyTaken ++
      names ((normalize nearlyTaken).take 1))) 2 := by
    refine ⟨⟨by decide, by decide +kernel⟩, ?_⟩
    rintro other ⟨positive, free⟩
    by_contra smaller
    obtain rfl : other = 1 := by omega
    exact free (by decide +kernel)
  obtain rfl := least.unique second
  rw [isResult, Option.map_some, isName]
  decide +kernel

end RemoteQuery.Column
