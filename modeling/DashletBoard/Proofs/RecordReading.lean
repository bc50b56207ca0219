/-
Module: DashletBoard.Proofs.RecordReading
Purpose: Records that are read from objects and from lists: which JSON values carry the fields of a record,
  and that they are found in each of them.
Main exports: Scalar.toJson, Shape.Fits, Shape.Carries, Shape.IsRecord, Fields.Restores,
  Shape.exists_read
-/
import DashletBoard.Proofs.JsonReading
import DashletBoard.Text.Dictionary
import Mathlib.Data.List.Forall2

namespace DashletBoard

/-!
### Values of fields
-/

/-- The value of an optional text. -/
def Scalar.optional : Option String → Scalar
  | some value => .text value
  | none => .absent

/-- The JSON value of a scalar. -/
def Scalar.toJson : Scalar → Json
  | .text value => .string value
  | .word value => .word value
  | .flag value => .bool value
  | .absent => .null

@[simp] theorem Scalar.optional_eq_absent_iff {value : Option String} :
    Scalar.optional value = .absent ↔ value = none := by
  cases value <;> simp [Scalar.optional]

/-- The compact text of a scalar's value is a text of it. -/
theorem Scalar.spelled_toJson (scalar : Scalar) : scalar.toJson.Spelled scalar.toJson.render := by
  cases scalar with
  | text value => exact Json.spelled_string value
  | word value => exact Json.spelled_nat value.toNat
  | flag value => exact Json.spelled_bool value
  | absent => exact .null

/-- The scalars that a field of a kind can have as its value. -/
inductive FieldKind.Holds : FieldKind → Scalar → Prop where
  | text (value : String) : Holds .text (.text value)
  | optionalText (value : String) : Holds .optionalText (.text value)
  | absent : Holds .optionalText .absent
  | word (value : UInt32) : Holds .word (.word value)
  | flag (value : Bool) : Holds .flag (.flag value)

theorem FieldKind.holds_optional (value : Option String) :
    FieldKind.optionalText.Holds (.optional value) := by
  cases value with
  | none => exact .absent
  | some value => exact .optionalText value

/-- A value is read back from its JSON value. -/
theorem FieldKind.read_toJson {kind : FieldKind} {scalar : Scalar} (holds : kind.Holds scalar) :
    kind.read scalar.toJson.toDraft = .ok scalar := by
  cases holds with
  | text | optionalText | absent | flag => rfl
  | word value =>
      have digits := Numeral.word?_ofNat value
      simp only [Scalar.toJson, Json.word, Json.nat, Json.toDraft, FieldKind.read, digits]

/-- A field is given a value that it can have. -/
def Field.IsGiven (field : Field) (pair : String × Scalar) : Prop :=
  field.name = pair.1 ∧ field.kind.Holds pair.2

namespace Fields

/-- Fields that were found restore a record: each of its fields was found with its value, or was not found
and has the value that is taken then. -/
def Restores (found fields defaults : Fields) : Prop :=
  ∀ pair ∈ fields, found.lookup pair.1 = some pair.2 ∨ found.lookup pair.1 = none ∧ pair ∈ defaults

theorem lookup_of_mem {fields : Fields} (distinct : (fields.map Prod.fst).Nodup)
    {pair : String × Scalar} (member : pair ∈ fields) : fields.lookup pair.1 = some pair.2 := by
  induction fields with
  | nil => cases member
  | cons first rest ih =>
      obtain ⟨fresh, others⟩ := List.nodup_cons.mp distinct
      rcases List.mem_cons.mp member with rfl | later
      · exact List.lookup_cons_self
      · have other : pair.1 ≠ first.1 := fun same =>
          fresh (same ▸ List.mem_map_of_mem later)
        rw [Dictionary.lookup_cons_of_ne first.2 rest other]
        exact ih others later

section Restores

variable {found fields defaults : Fields} {name : String}

theorem Restores.text (restores : found.Restores fields defaults) {value missing : String}
    (given : (name, .text value) ∈ fields)
    (default : (name, .text value) ∈ defaults → value = missing) :
    found.text name missing = value := by
  rw [Fields.text, value?]
  rcases restores _ given with held | ⟨absent, left⟩
  · rw [held]
  · rw [absent, default left]

theorem Restores.text? (restores : found.Restores fields defaults) {value : Option String}
    (given : (name, .optional value) ∈ fields)
    (default : (name, .optional value) ∈ defaults → value = none) : found.text? name = value := by
  rw [Fields.text?, value?]
  rcases restores _ given with held | ⟨absent, left⟩
  · rw [held]
    cases value <;> rfl
  · rw [absent, default left]

theorem Restores.word (restores : found.Restores fields defaults) {value missing : UInt32}
    (given : (name, .word value) ∈ fields)
    (default : (name, .word value) ∈ defaults → value = missing) :
    found.word name missing = value := by
  rw [Fields.word, value?]
  rcases restores _ given with held | ⟨absent, left⟩
  · rw [held]
  · rw [absent, default left]

theorem Restores.flag (restores : found.Restores fields defaults) {value missing : Bool}
    (given : (name, .flag value) ∈ fields)
    (default : (name, .flag value) ∈ defaults → value = missing) :
    found.flag name missing = value := by
  rw [Fields.flag, value?]
  rcases restores _ given with held | ⟨absent, left⟩
  · rw [held]
  · rw [absent, default left]

end Restores

end Fields

namespace Shape

variable {shape : Shape} {fields defaults : Fields}

/-!
### Records of a shape
-/

/-- Fields give each field of a shape its value, in the order of the shape.  Only fields that may be left
out have defaults. -/
structure Fits (shape : Shape) (fields defaults : Fields) : Prop where
  kinds : List.Forall₂ Field.IsGiven shape fields
  distinct : (fields.map Prod.fst).Nodup
  optional : ∀ field ∈ shape, ∀ pair ∈ defaults, field.name = pair.1 → field.mayLack ∧ field.mayEnd

/-- Whether a shape has a field of a name. -/
def knows (shape : Shape) (name : String) : Bool := (shape.field? name).isSome

/-- The members of an object carry fields, in any order: each at most once and with its value, and only
those are left out that have their default value.  Members of other names may hold anything. -/
structure Carries (shape : Shape) (fields defaults : Fields) (members : List (String × Json)) : Prop where
  distinct : ((members.map Prod.fst).filter shape.knows).Nodup
  values : ∀ member ∈ members, shape.knows member.1 →
    ∃ pair ∈ fields, member = (pair.1, pair.2.toJson)
  complete : ∀ pair ∈ fields, pair.1 ∈ members.map Prod.fst ∨ pair ∈ defaults

/-- The JSON values that carry fields: objects with members for them, and lists of the values in the order
of the shape, where an end may be cut off that holds defaults only. -/
inductive IsRecord (shape : Shape) (fields defaults : Fields) : Json → Prop where
  | object {members : List (String × Json)} (carries : shape.Carries fields defaults members) :
      IsRecord shape fields defaults (.object members)
  | list (count : Nat) (rest : ∀ pair ∈ fields.drop count, pair ∈ defaults) :
      IsRecord shape fields defaults (.array ((fields.take count).map fun pair => pair.2.toJson))

namespace Fits

theorem exists_field?_of_kinds
    (kinds : List.Forall₂ Field.IsGiven shape fields)
    (distinct : (fields.map Prod.fst).Nodup) {pair : String × Scalar} (member : pair ∈ fields) :
    ∃ field ∈ shape, shape.field? pair.1 = some field ∧ field.kind.Holds pair.2 := by
  induction kinds with
  | nil => cases member
  | @cons field first others rest fit _ ih =>
      obtain ⟨named, holds⟩ := fit
      obtain ⟨fresh, distinct⟩ := List.nodup_cons.mp distinct
      rcases List.mem_cons.mp member with rfl | later
      · refine ⟨field, List.mem_cons_self, ?_, holds⟩
        exact List.find?_cons_of_pos (beq_iff_eq.mpr named)
      · obtain ⟨found, among, finds, holds⟩ := ih distinct later
        have other : field.name ≠ pair.1 := fun same =>
          fresh (named ▸ same ▸ List.mem_map_of_mem later)
        refine ⟨found, List.mem_cons_of_mem field among, ?_, holds⟩
        simpa [field?, other] using finds

/-- The field of a value that is given is found by its name. -/
theorem exists_field? (fits : shape.Fits fields defaults) {pair : String × Scalar}
    (member : pair ∈ fields) :
    ∃ field ∈ shape, shape.field? pair.1 = some field ∧ field.kind.Holds pair.2 :=
  exists_field?_of_kinds fits.kinds fits.distinct member

theorem exists_pair_of_kinds
    (kinds : List.Forall₂ Field.IsGiven shape fields)
    {field : Field} (member : field ∈ shape) : ∃ pair ∈ fields, field.name = pair.1 := by
  induction kinds with
  | nil => cases member
  | @cons _ first _ _ fit _ ih =>
      rcases List.mem_cons.mp member with rfl | later
      · exact ⟨first, List.mem_cons_self, fit.1⟩
      · obtain ⟨pair, given, named⟩ := ih later
        exact ⟨pair, List.mem_cons_of_mem first given, named⟩

end Fits

/-!
### Objects
-/

/-- Reading members of some names has found the values of the fields among these names, and left all other
names as they were. -/
structure Found (fields : Fields) (names : List String) (seen found : Fields) : Prop where
  finds : ∀ pair ∈ fields, pair.1 ∈ names → found.lookup pair.1 = some pair.2
  leaves : ∀ name, name ∉ names → found.lookup name = seen.lookup name

namespace Found

variable {names : List String} {name : String} {pair : String × Scalar} {seen found : Fields}

theorem nothing : Found fields [] seen seen where
  finds _ _ among := nomatch among
  leaves _ _ := rfl

/-- A member before is passed over. -/
theorem passed (unknown : ∀ pair ∈ fields, pair.1 ≠ name) (rest : Found fields names seen found) :
    Found fields (name :: names) seen found := by
  constructor
  · intro pair given among
    rcases List.mem_cons.mp among with same | later
    · exact absurd same (unknown pair given)
    · exact rest.finds pair given later
  · intro other absent
    exact rest.leaves other fun later => absent (List.mem_cons_of_mem name later)

/-- A member before gives a field its value. -/
theorem given (distinct : (fields.map Prod.fst).Nodup) (member : pair ∈ fields) (once : pair.1 ∉ names)
    (rest : Found fields names (pair :: seen) found) : Found fields (pair.1 :: names) seen found := by
  constructor
  · intro other listed among
    rcases List.mem_cons.mp among with same | later
    · have value := Fields.lookup_of_mem distinct listed
      rw [same, Fields.lookup_of_mem distinct member] at value
      rw [same, rest.leaves pair.1 once, List.lookup_cons_self]
      exact value
    · exact rest.finds other listed later
  · intro other absent
    have different : other ≠ pair.1 := fun same => absent (same ▸ List.mem_cons_self)
    rw [rest.leaves other fun later => absent (List.mem_cons_of_mem pair.1 later),
      Dictionary.lookup_cons_of_ne pair.2 seen different]

end Found

theorem exists_readMembers (fits : shape.Fits fields defaults) {members : List (String × Json)}
    {seen : Fields} (distinct : ((members.map Prod.fst).filter shape.knows).Nodup)
    (values : ∀ member ∈ members, shape.knows member.1 →
      ∃ pair ∈ fields, member = (pair.1, pair.2.toJson))
    (fresh : ∀ member ∈ members, shape.knows member.1 → seen.lookup member.1 = none) :
    ∃ found, shape.readMembers seen (Json.toNamedDrafts members) = .ok found ∧
      Found fields (members.map Prod.fst) seen found := by
  induction members generalizing seen with
  | nil => exact ⟨seen, rfl, .nothing⟩
  | cons member rest ih =>
      obtain ⟨here, later⟩ := List.forall_mem_cons.mp values
      obtain ⟨first, others⟩ := List.forall_mem_cons.mp fresh
      rw [List.map_cons, List.filter_cons] at distinct
      cases known : shape.field? member.1 with
      | none =>
          have unknown : shape.knows member.1 = false := by rw [knows, known, Option.isSome_none]
          rw [if_neg (by simp [unknown])] at distinct
          obtain ⟨found, reads, finds⟩ := ih distinct later others
          refine ⟨found, ?_, finds.passed ?_⟩
          · simp only [Json.toNamedDrafts, readMembers, known, Json.isWhole_toDraft, if_true, reads]
          · rintro pair given same
            obtain ⟨field, -, listed, -⟩ := fits.exists_field? given
            rw [same, known] at listed
            cases listed
      | some field =>
          have listed : shape.knows member.1 := by rw [knows, known, Option.isSome_some]
          rw [if_pos listed, List.nodup_cons, List.mem_filter] at distinct
          obtain ⟨last, distinct⟩ := distinct
          have once : member.1 ∉ rest.map Prod.fst := fun among => last ⟨among, listed⟩
          obtain ⟨pair, given, rfl⟩ := here listed
          obtain ⟨_, -, same, holds⟩ := fits.exists_field? given
          obtain rfl := Option.some.inj (same.symm.trans known)
          have free : ∀ member ∈ rest, shape.knows member.1 →
              List.lookup member.1 (pair :: seen) = none := by
            intro member among listed
            have other : member.1 ≠ pair.1 := fun same => once (same ▸ List.mem_map_of_mem among)
            rw [Dictionary.lookup_cons_of_ne pair.2 seen other]
            exact others member among listed
          obtain ⟨found, reads, finds⟩ := ih distinct later free
          refine ⟨found, ?_, finds.given fits.distinct given once⟩
          simp [Json.toNamedDrafts, readMembers, known, first listed, FieldKind.read_toJson holds, reads]

/-- Members for some of the fields carry them, if the others have defaults. -/
theorem Fits.carries_filter (fits : shape.Fits fields defaults) {kept : String × Scalar → Bool}
    (left : ∀ pair ∈ fields, kept pair = false → pair ∈ defaults) :
    shape.Carries fields defaults ((fields.filter kept).map fun pair => (pair.1, pair.2.toJson)) := by
  constructor
  · have names : ((fields.filter kept).map fun pair => (pair.1, pair.2.toJson)).map Prod.fst =
        (fields.filter kept).map Prod.fst := by simp
    rw [names]
    exact (fits.distinct.sublist (List.filter_sublist.map Prod.fst)).filter _
  · intro member among _
    obtain ⟨pair, given, rfl⟩ := List.mem_map.mp among
    exact ⟨pair, List.mem_of_mem_filter given, rfl⟩
  · intro pair given
    cases keeps : kept pair with
    | false => exact .inr (left pair given keeps)
    | true =>
        refine .inl ?_
        simp only [List.map_map, List.mem_map, List.mem_filter]
        exact ⟨pair, ⟨given, keeps⟩, rfl⟩

/-!
### Lists
-/

theorem readItems_take
    (kinds : List.Forall₂ Field.IsGiven shape fields)
    (count : Nat) (ends : ∀ field ∈ shape.drop count, field.mayEnd) :
    shape.readItems (Json.toDrafts ((fields.take count).map fun pair => pair.2.toJson)) true =
      .ok (fields.take count) := by
  induction kinds generalizing count with
  | nil =>
      rw [List.take_nil]
      rfl
  | @cons field pair shape fields fit _ ih =>
      cases count with
      | zero =>
          have all : (field :: shape).all Field.mayEnd := List.all_eq_true.mpr ends
          simp [Json.toDrafts, readItems, all]
      | succ count =>
          have reads := ih count ends
          simp only [List.take_succ_cons, List.map_cons, Json.toDrafts, readItems, reads,
            FieldKind.read_toJson fit.2, fit.1]

/-!
### Records
-/

theorem Found.restores {names : List String} {found : Fields} (finds : Found fields names [] found)
    (complete : ∀ pair ∈ fields, pair.1 ∈ names ∨ pair ∈ defaults) :
    found.Restores fields defaults := by
  intro pair given
  by_cases among : pair.1 ∈ names
  · exact .inl (finds.finds pair given among)
  · exact .inr ⟨finds.leaves pair.1 among, (complete pair given).resolve_left among⟩

theorem Fits.isComplete (fits : shape.Fits fields defaults) {found : Fields}
    (restores : found.Restores fields defaults) : shape.isComplete found := by
  rw [Shape.isComplete, List.all_eq_true]
  intro field member
  obtain ⟨pair, given, named⟩ := exists_pair_of_kinds fits.kinds member
  rcases restores pair given with found | ⟨-, default⟩
  · rw [named, found]
    simp
  · rw [(fits.optional field member pair default named).1]
    rfl

theorem Fits.restores_take (fits : shape.Fits fields defaults) {count : Nat}
    (rest : ∀ pair ∈ fields.drop count, pair ∈ defaults) :
    Fields.Restores (fields.take count) fields defaults := by
  have distinct := fits.distinct
  rw [← List.take_append_drop count fields, List.map_append, List.nodup_append] at distinct
  intro pair given
  rw [← List.take_append_drop count fields] at given
  rcases List.mem_append.mp given with front | back
  · exact .inl (Fields.lookup_of_mem distinct.1 front)
  · refine .inr ⟨?_, rest pair back⟩
    rw [List.lookup_eq_none_iff]
    intro other front
    have differs := distinct.2.2 _ (List.mem_map_of_mem front) _ (List.mem_map_of_mem back)
    exact bne_iff_ne.mpr differs.symm

/-- A list may end before fields that hold defaults. -/
theorem Fits.mayEnd (fits : shape.Fits fields defaults) {count : Nat}
    (rest : ∀ pair ∈ fields.drop count, pair ∈ defaults) :
    ∀ field ∈ shape.drop count, field.mayEnd := by
  intro field member
  obtain ⟨pair, dropped, named⟩ :=
    exists_pair_of_kinds (List.forall₂_drop count fits.kinds) member
  exact (fits.optional field (List.mem_of_mem_drop member) pair (rest pair dropped) named).2

/-- A record is read from every value that carries it. -/
theorem exists_read (fits : shape.Fits fields defaults) {value : Json}
    (record : shape.IsRecord fields defaults value) :
    ∃ found, shape.read value.toDraft = .ok found ∧ found.Restores fields defaults := by
  cases record with
  | @object members carries =>
      obtain ⟨found, reads, finds⟩ := exists_readMembers fits carries.distinct carries.values
        (fun _ _ _ => List.lookup_nil)
      have restores := finds.restores carries.complete
      refine ⟨found, ?_, restores⟩
      simp [Json.toDraft, read, reads, fits.isComplete restores]
  | list count rest =>
      exact ⟨fields.take count, readItems_take fits.kinds count (fits.mayEnd rest),
        fits.restores_take rest⟩

end Shape

end DashletBoard
