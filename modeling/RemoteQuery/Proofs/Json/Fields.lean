import Mathlib.Data.List.Nodup
import RemoteQuery.Proofs.Json.Written
import RemoteQuery.Service.Record

/-! # Fields of records

What is encoded as one kind of value is decoded as the same kind, and a record that is an
object has the fields that its members are named for. A record that loses members loses their
fields and no others.
-/

namespace RemoteQuery.Json

variable {α : Type} {encode : α → Json} {decode : Json → Option α}

/-! ## Kinds of values -/

theorem below?_ofNat {value limit : Nat} (below : value < limit) :
    below? limit (ofNat value) = some value := by
  have within : (0 : Int) ≤ value ∧ (value : Int) < limit := by omega
  exact if_pos within

theorem lt_of_below? {limit value : Nat} {json : Json} (found : below? limit json = some value) :
    value < limit := by
  unfold below? at found
  split at found
  · split at found
    · injection found with same
      omega
    · contradiction
  · contradiction

theorem uint32?_ofNat (value : UInt32) : uint32? (ofNat value.toNat) = some value := by
  rw [uint32?, below?_ofNat value.toNat_lt, Option.map_some, UInt32.ofNat_toNat]

theorem uint64?_ofUInt64 (value : UInt64) : uint64? (ofUInt64 value) = some value := by
  rw [uint64?, ofUInt64, below?_ofNat value.toNat_lt, Option.map_some, UInt64.ofNat_toNat]

theorem option?_ofOption (refused : decode .null = none) {value : Option α}
    (each : ∀ known ∈ value, decode (encode known) = some known) :
    option? decode (ofOption encode value) = some value := by
  cases value with
  | none => rfl
  | some known =>
      have decoded := each known rfl
      rw [ofOption, option?, decoded, Option.map_some]
      intro same
      rw [same, refused] at decoded
      contradiction

theorem list?_map {values : List α}
    (each : ∀ value ∈ values, decode (encode value) = some value) :
    list? decode (.array (values.map encode)) = some values := by
  rw [list?]
  induction values with
  | nil => rfl
  | cons value values induction =>
      rw [List.map_cons, List.mapM_cons, each value List.mem_cons_self,
        induction fun other isOther => each other (.tail _ isOther)]
      rfl

theorem forall_of_list? {holds : α → Prop}
    (each : ∀ json value, decode json = some value → holds value) {json : Json}
    {values : List α} (found : list? decode json = some values) :
    ∀ value ∈ values, holds value := by
  unfold list? at found
  split at found
  · rename_i items
    induction items generalizing values with
    | nil =>
        rw [List.mapM_nil] at found
        cases found
        simp
    | cons item items induction =>
        simp only [List.mapM_cons, Option.bind_eq_bind, Option.bind_eq_some_iff] at found
        obtain ⟨value, isValue, others, areOthers, same⟩ := found
        cases same
        exact List.forall_mem_cons.mpr ⟨each item value isValue, induction areOthers⟩
  · contradiction

/-! ## Texts of values -/

section Readable

@[simp] theorem readable_null : Readable .null := .null

@[simp] theorem readable_bool (value : Bool) : Readable (.bool value) := .bool value

@[simp] theorem readable_string (value : String) : Readable (.string value) := .string value

@[simp] theorem readable_ofNat (value : Nat) : Readable (ofNat value) := .whole value

@[simp] theorem readable_ofUInt64 (value : UInt64) : Readable (ofUInt64 value) := .whole _

@[simp] theorem readable_ofOption {value : Option α} :
    Readable (ofOption encode value) ↔ ∀ known ∈ value, Readable (encode known) := by
  cases value <;> simp [ofOption]

@[simp] theorem readable_array {items : List Json} :
    Readable (.array items) ↔ ∀ item ∈ items, Readable item :=
  ⟨fun (.array each) => each, .array⟩

@[simp] theorem readable_object {members : List (String × Json)} :
    Readable (.object members) ↔ ∀ member ∈ members, Readable member.2 :=
  ⟨fun (.object each) => each, .object⟩

end Readable

def decodeText? (decode : Json → Option α) (text : String) : Option α :=
  (read? text).bind decode

theorem decodeText?_toString {json : Json} {value : α} (readable : json.Readable)
    (decoded : decode json = some value) : decodeText? decode json.toString = some value := by
  rw [decodeText?, read?_toString readable, Option.bind_some, decoded]

theorem exists_of_decodeText? {text : String} {value : α}
    (found : decodeText? decode text = some value) : ∃ json, decode json = some value := by
  obtain ⟨json, _, decoded⟩ := Option.bind_eq_some_iff.mp found
  exact ⟨json, decoded⟩

section Binds

variable {β : Type} {first kept : Option β} {next last : β → Option α} {result other : α}

theorem bind_of_some {value : β} (found : first = some value) (rest : next value = some result) :
    (first >>= next) = some result := by
  rw [found]
  exact rest

/-- If one value of a record changes in some way, the rest goes on from the changed value. -/
theorem bind_of_kept {change : β → β} (found : (first >>= next) = some result)
    (changed : ∀ value, first = some value → kept = some (change value))
    (rest : ∀ value, next value = some result → last (change value) = some other) :
    (kept >>= last) = some other := by
  obtain ⟨value, isFirst, isNext⟩ := Option.bind_eq_some_iff.mp found
  exact bind_of_some (changed value isFirst) (rest value isNext)

end Binds

namespace Fields

/-! ## The members of an object -/

private def named (name : String) (members : List (String × Json)) : List (String × Json) :=
  members.filter fun member => [name].contains member.1

private theorem lookup_eq_head? (name : String) (members : List (String × Json)) :
    members.lookup name = (named name members).head?.map Prod.snd := by
  induction members with
  | nil => rfl
  | cons member members induction =>
      obtain ⟨key, value⟩ := member
      by_cases same : name = key
      · subst same
        rw [List.lookup_cons_self, named, List.filter_cons_of_pos (by simp)]
        rfl
      · rw [List.lookup_cons, beq_false_of_ne same, named,
          List.filter_cons_of_neg (by simpa using Ne.symm same)]
        exact induction

private theorem named_eq_nil_iff {name : String} {members : List (String × Json)} :
    named name members = [] ↔ name ∉ members.map Prod.fst := by
  rw [named, List.filter_eq_nil_iff, List.mem_map]
  constructor
  · rintro none ⟨member, isMember, rfl⟩
    exact none member isMember (by simp)
  · intro none member isMember same
    exact none ⟨member, isMember, by simpa using same⟩

private theorem named_eq_singleton {members : List (String × Json)}
    (distinct : (members.map Prod.fst).Nodup) {member : String × Json}
    (isMember : member ∈ members) : named member.1 members = [member] := by
  induction members with
  | nil => contradiction
  | cons first rest induction =>
      rw [List.map_cons, List.nodup_cons] at distinct
      obtain ⟨fresh, distinct⟩ := distinct
      rcases List.mem_cons.mp isMember with rfl | isLater
      · have none : named member.1 rest = [] := named_eq_nil_iff.mpr fresh
        rw [named] at none ⊢
        rw [List.filter_cons_of_pos (by simp), none]
      · have other : first.1 ≠ member.1 := by
          intro same
          exact fresh (same ▸ List.mem_map_of_mem isLater)
        rw [named, List.filter_cons_of_neg (by simpa using other)]
        exact induction distinct isLater

section OneName

variable {first : String} {names : List (List String)} {members : List (String × Json)}

private theorem ofMembers?_of_none (none : named first members = []) :
    ofMembers? ([first] :: names) members = ofMembers? names members := by
  simp only [ofMembers?, named] at none ⊢
  simp only [none]

private theorem ofMembers?_of_one {member : String × Json} (one : named first members = [member]) :
    ofMembers? ([first] :: names) members =
      (ofMembers? names members).map ((first, member.2) :: ·) := by
  simp only [ofMembers?, named] at one ⊢
  simp only [one]

private theorem ofMembers?_of_many {member other : String × Json} {more : List (String × Json)}
    (many : named first members = member :: other :: more) :
    ofMembers? ([first] :: names) members = none := by
  simp only [ofMembers?, named] at many ⊢
  simp only [many]

end OneName

private theorem ofMembers?_named {all members : List (String × Json)}
    (distinct : (all.map Prod.fst).Nodup) (each : ∀ member ∈ members, member ∈ all) :
    ofMembers? (members.map fun member => [member.1]) all = some members := by
  induction members with
  | nil => rfl
  | cons member members induction =>
      have found := named_eq_singleton distinct (each member List.mem_cons_self)
      rw [List.map_cons, ofMembers?_of_one found,
        induction fun other isOther => each other (.tail _ isOther)]
      rfl

theorem of?_object {names : List (List String)} {members : List (String × Json)}
    (distinct : names.Nodup) (named : names = members.map fun member => [member.1]) :
    of? names (.object members) = some ⟨false, members⟩ := by
  have keys : (members.map Prod.fst).Nodup := by
    rw [named] at distinct
    refine List.Nodup.of_map (fun name => [name]) ?_
    rwa [List.map_map]
  rw [of?, named, ofMembers?_named keys fun _ isMember => isMember]
  rfl

variable {fields : Fields} {name : String} {json : Json}

theorem required_eq {value : α} (found : fields.given.lookup name = some json)
    (decoded : decode json = some value) : fields.required name decode = some value := by
  rw [required, found, Option.bind_some, decoded]

theorem optional_eq {value : Option α} (found : fields.given.lookup name = some json)
    (decoded : option? decode json = some value) :
    fields.optional name decode = some value := by
  rw [optional, found]
  exact decoded

theorem forall_of_optional {holds : α → Prop}
    (each : ∀ json value, decode json = some value → holds value) {found : Option α}
    (decoded : fields.optional name decode = some found) : ∀ value ∈ found, holds value := by
  intro value member
  rw [Option.mem_def.mp member, optional] at decoded
  split at decoded
  · split at decoded <;> cases decoded
  · rename_i json _
    unfold option? at decoded
    split at decoded
    · cases decoded
    · obtain ⟨known, isKnown, same⟩ := Option.map_eq_some_iff.mp decoded
      cases same
      exact each _ _ isKnown

theorem defaulted_eq {value fallback : α} (found : fields.given.lookup name = some json)
    (decoded : decode json = some value) :
    fields.defaulted name fallback decode = some value := by
  rw [defaulted, found]
  exact decoded

/-! ## Members left out -/

private theorem ofMembers?_spec {names : List String} {members given : List (String × Json)}
    (found : ofMembers? (names.map fun name => [name]) members = some given) :
    (∀ name ∈ names, (named name members).length ≤ 1) ∧
      ∀ name, given.lookup name = if name ∈ names then members.lookup name else none := by
  induction names generalizing given with
  | nil =>
      cases found
      simp
  | cons first names induction =>
      rw [List.map_cons] at found
      match known : named first members with
      | [] =>
          rw [ofMembers?_of_none known] at found
          obtain ⟨once, lookups⟩ := induction found
          refine ⟨List.forall_mem_cons.mpr ⟨by simp [known], once⟩, fun name => ?_⟩
          rw [lookups]
          by_cases same : name = first
          · subst same
            simp [lookup_eq_head?, known]
          · simp [same]
      | [member] =>
          rw [ofMembers?_of_one known] at found
          obtain ⟨rest, foundRest, rfl⟩ := Option.map_eq_some_iff.mp found
          obtain ⟨once, lookups⟩ := induction foundRest
          refine ⟨List.forall_mem_cons.mpr ⟨by simp [known], once⟩, fun name => ?_⟩
          by_cases same : name = first
          · subst same
            simp [lookup_eq_head?, known]
          · simp [List.lookup_cons, beq_false_of_ne same, lookups, same]
      | member :: other :: more =>
          rw [ofMembers?_of_many known] at found
          contradiction

private theorem exists_ofMembers? {names : List String} {members : List (String × Json)}
    (once : ∀ name ∈ names, (named name members).length ≤ 1) :
    ∃ given, ofMembers? (names.map fun name => [name]) members = some given := by
  induction names with
  | nil => exact ⟨[], rfl⟩
  | cons first names induction =>
      obtain ⟨given, found⟩ := induction fun other isOther => once other (.tail _ isOther)
      have few := once first List.mem_cons_self
      rw [List.map_cons]
      match known : named first members with
      | [] => exact ⟨given, (ofMembers?_of_none known).trans found⟩
      | [member] => exact ⟨_, (ofMembers?_of_one known).trans (congrArg _ found)⟩
      | member :: other :: more =>
          rw [known] at few
          simp at few

private theorem lookup_kept {name : String} {members kept : List (String × Json)}
    (isKept : kept.Sublist members) (once : (named name members).length ≤ 1) :
    kept.lookup name = if name ∈ kept.map Prod.fst then members.lookup name else none := by
  have fewer : (named name kept).Sublist (named name members) := isKept.filter _
  rw [lookup_eq_head?, lookup_eq_head?]
  split
  · rename_i present
    have some : named name kept ≠ [] := fun none => named_eq_nil_iff.mp none present
    have same : named name kept = named name members := by
      apply fewer.eq_of_length_le
      have := List.length_pos_of_ne_nil some
      omega
    rw [same]
  · rename_i absent
    rw [named_eq_nil_iff.mpr absent]
    rfl

theorem of?_kept {names : List String} {members kept : List (String × Json)} {fields : Fields}
    (isKept : kept.Sublist members)
    (found : of? (names.map fun name => [name]) (.object members) = some fields) :
    ∃ left, of? (names.map fun name => [name]) (.object kept) = some left ∧
      ∀ name ∈ names, left.given.lookup name =
        if name ∈ kept.map Prod.fst then fields.given.lookup name else none := by
  obtain ⟨given, isGiven, rfl⟩ := Option.map_eq_some_iff.mp found
  obtain ⟨once, lookups⟩ := ofMembers?_spec isGiven
  have stillOnce : ∀ name ∈ names, (named name kept).length ≤ 1 := fun name isName =>
    Nat.le_trans (isKept.filter _).length_le (once name isName)
  obtain ⟨left, isLeft⟩ := exists_ofMembers? stillOnce
  refine ⟨⟨false, left⟩, Option.map_eq_some_iff.mpr ⟨left, isLeft, rfl⟩, fun name isName => ?_⟩
  rw [(ofMembers?_spec isLeft).2, lookups, if_pos isName, if_pos isName]
  exact lookup_kept isKept (once name isName)

theorem defaulted_kept {fields left : Fields} {name : String} {value fallback : α} {isKept : Prop}
    [Decidable isKept]
    (lookups : left.given.lookup name = if isKept then fields.given.lookup name else none)
    (found : fields.defaulted name fallback decode = some value) :
    left.defaulted name fallback decode = some (if isKept then value else fallback) := by
  by_cases kept : isKept
  · rw [if_pos kept] at lookups ⊢
    rw [defaulted, lookups]
    exact found
  · rw [if_neg kept] at lookups ⊢
    rw [defaulted, lookups]

end Fields

end RemoteQuery.Json
